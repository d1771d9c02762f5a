import Outbox.Decimal.Shortest

/-!
# Durations

A duration is a whole number of nanoseconds from 0 to `Duration.maxNanos`, which is `2 ^ 64 - 1`
seconds and 999999999 nanoseconds.

* `Duration.ofNanos`            cut to the largest duration;
* `ofMillis`, `ofSecs`          from a number of 64 bits;
* `millis`                      whole milliseconds, rounded down;
* `add`                         cut to the largest duration;
* `seconds`, `ofSeconds?`       as a double, and back to the nearest nanosecond (ties to even);
* `text`                        in the largest of s, ms, µs, ns that it fills.
-/

namespace Outbox

structure Duration where
  nanos : Nat
  nanos_le : nanos ≤ 0x10000000000000000 * 1000000000 - 1
  deriving DecidableEq, Repr

namespace Duration

def maxNanos : Nat := 0x10000000000000000 * 1000000000 - 1

def ofNanos (n : Nat) : Duration := ⟨min n maxNanos, Nat.min_le_right _ _⟩

instance : Inhabited Duration := ⟨ofNanos 0⟩

theorem ext {a b : Duration} (h : a.nanos = b.nanos) : a = b := by
  cases a; cases b; simp_all

theorem nanos_ofNanos (n : Nat) : (ofNanos n).nanos = min n maxNanos := rfl

theorem ofNanos_nanos (d : Duration) : ofNanos d.nanos = d :=
  ext (Nat.min_eq_left d.nanos_le)

instance : LE Duration := ⟨fun a b => a.nanos ≤ b.nanos⟩

instance : LT Duration := ⟨fun a b => a.nanos < b.nanos⟩

instance (a b : Duration) : Decidable (a ≤ b) := inferInstanceAs (Decidable (a.nanos ≤ b.nanos))

instance (a b : Duration) : Decidable (a < b) := inferInstanceAs (Decidable (a.nanos < b.nanos))

/-- the nanoseconds written in decimal -/
def ofNanos? (n : Nat) : Option Duration :=
  if h : n ≤ 0x10000000000000000 * 1000000000 - 1 then some ⟨n, h⟩ else none

def ofMillis (n : UInt64) : Duration := ofNanos (n.toNat * 1000000)

def ofSecs (n : UInt64) : Duration := ofNanos (n.toNat * 1000000000)

def millis (d : Duration) : Nat := d.nanos / 1000000

def add (a b : Duration) : Duration := ofNanos (a.nanos + b.nanos)

/-- The seconds and the rest are converted apart. -/
def seconds (d : Duration) : Float :=
  (d.nanos / 1000000000).toUInt64.toFloat + (d.nanos % 1000000000).toUInt64.toFloat / 1e9

/-- `num / den` to the nearest integer, a tie to the even one -/
def divNearest (num den : Nat) : Nat :=
  let low := num / den
  let twice := 2 * (num % den)
  if twice < den then low
  else if den < twice then low + 1
  else low + low % 2

/-- `none` for negative numbers, for `2 ^ 64` and above, and for what is not a number -/
def ofSeconds? (x : Float) : Option Duration :=
  match Decimal.Binary.ofBits x.toBits with
  | none => none
  | some b =>
    if b.negative && b.m ≠ 0 then none
    else
      let v := Decimal.scale2 b.m b.q
      if UInt64.size * v.2 ≤ v.1 then none
      else ofNanos? (divNearest (v.1 * 1000000000) v.2)

def dropTrailingZeros (cs : List Char) : List Char :=
  (cs.reverse.dropWhile (· = '0')).reverse

/-- `whole` and the first `places` decimal places of `rest` -/
def withFraction (whole rest places : Nat) : List Char :=
  let fraction := dropTrailingZeros (Decimal.padded places rest)
  if fraction.isEmpty then Decimal.digits whole else Decimal.digits whole ++ '.' :: fraction

def text (d : Duration) : String :=
  let n := d.nanos
  String.ofList <|
    if 1000000000 ≤ n then withFraction (n / 1000000000) (n % 1000000000) 9 ++ ['s']
    else if 1000000 ≤ n then withFraction (n / 1000000) (n % 1000000) 6 ++ ['m', 's']
    else if 1000 ≤ n then withFraction (n / 1000) (n % 1000) 3 ++ ['µ', 's']
    else Decimal.digits n ++ ['n', 's']

end Duration

end Outbox
