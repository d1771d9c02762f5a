import Outbox.Time.Calendar
import Outbox.Time.Duration

/-!
# Points in time

A `Timestamp` is a second of the Unix count and the nanoseconds since it began.  A leap second is the
second before it, with nanoseconds from `10 ^ 9`.  The range is the years -262143 to 262142.

* `Timestamp.make?`       from its two numbers, if they are a point in the range;
* `≤`, `<`                by the second, then by the nanoseconds;
* `add?`, `sub?`          a duration later or earlier, `none` outside the range or where the duration
                          has `2 ^ 63` milliseconds or more;
* `addOrMax`              the largest time instead of `none`;
* `toMicros`              with the nanoseconds cut to whole microseconds;
* `unixNanos`             nanoseconds since 1970, in whole microseconds where 64 bits do not hold them.

A duration added inside a leap second stays there as long as it fits, and otherwise counts from the
second before it.
-/

namespace Outbox

structure Timestamp where
  secs : Int
  nanos : Nat
  secs_ge : -8334601228800 ≤ secs
  secs_le : secs ≤ 8210266876799
  nanos_ok : nanos < 1000000000 ∨ nanos < 2000000000 ∧ secs % 60 = 59
  deriving DecidableEq, Repr

namespace Timestamp

/-- the first second of the year -262143 -/
def minSecs : Int := -8334601228800

/-- the last second of the year 262142 -/
def maxSecs : Int := 8210266876799

def make? (secs : Int) (nanos : Nat) : Option Timestamp :=
  if h : (-8334601228800 ≤ secs ∧ secs ≤ 8210266876799) ∧
      (nanos < 1000000000 ∨ nanos < 2000000000 ∧ secs % 60 = 59) then
    some ⟨secs, nanos, h.1.1, h.1.2, h.2⟩
  else none

def max : Timestamp := ⟨8210266876799, 999999999, by decide, by decide, by decide⟩

def epoch : Timestamp := ⟨0, 0, by decide, by decide, by decide⟩

instance : Inhabited Timestamp := ⟨epoch⟩

theorem ext {a b : Timestamp} (hs : a.secs = b.secs) (hn : a.nanos = b.nanos) : a = b := by
  cases a; cases b; simp_all

/-- one number with the same order -/
def key (t : Timestamp) : Int := t.secs * 2000000000 + t.nanos

theorem nanos_lt (t : Timestamp) : t.nanos < 2000000000 := by
  rcases t.nanos_ok with h | h <;> omega

theorem key_inj {a b : Timestamp} (h : a.key = b.key) : a = b := by
  have ha := a.nanos_lt
  have hb := b.nanos_lt
  unfold key at h
  exact ext (by omega) (by omega)

instance : LE Timestamp := ⟨fun a b => a.key ≤ b.key⟩

instance : LT Timestamp := ⟨fun a b => a.key < b.key⟩

instance (a b : Timestamp) : Decidable (a ≤ b) := inferInstanceAs (Decidable (a.key ≤ b.key))

instance (a b : Timestamp) : Decidable (a < b) := inferInstanceAs (Decidable (a.key < b.key))

theorem le_iff (a b : Timestamp) : a ≤ b ↔ a.key ≤ b.key := Iff.rfl

theorem lt_iff (a b : Timestamp) : a < b ↔ a.key < b.key := Iff.rfl

/-- `nanos` may be any number of nanoseconds before or after the second -/
def ofNanos? (secs nanos : Int) : Option Timestamp :=
  make? (secs + nanos / 1000000000) (nanos % 1000000000).toNat

/-- the largest duration that a time can be moved by: `2 ^ 63 - 1` milliseconds -/
def maxShift : Nat := 0x7fffffffffffffff * 1000000

/-- as `add?`, whatever the size of the duration -/
def later? (t : Timestamp) (n : Nat) : Option Timestamp :=
  if 1000000000 ≤ t.nanos then
    if t.nanos + n < 2000000000 then make? t.secs (t.nanos + n)
    else ofNanos? t.secs ((t.nanos : Int) - 1000000000 + n)
  else ofNanos? t.secs (t.nanos + n)

def add? (t : Timestamp) (d : Duration) : Option Timestamp :=
  if d.nanos ≤ maxShift then t.later? d.nanos else none

def sub? (t : Timestamp) (d : Duration) : Option Timestamp :=
  if d.nanos ≤ maxShift then
    if 1000000000 ≤ t.nanos && d.nanos < 1000000000 then make? t.secs (t.nanos - d.nanos)
    else ofNanos? t.secs ((t.nanos : Int) - d.nanos)
  else none

def addOrMax (t : Timestamp) (d : Duration) : Timestamp := (t.add? d).getD max

/-- Cutting keeps the second, and a leap second stays one. -/
def toMicros (t : Timestamp) : Timestamp :=
  ⟨t.secs, t.nanos / 1000 * 1000, t.secs_ge, t.secs_le, by
    rcases t.nanos_ok with h | h
    · exact Or.inl (by omega)
    · exact Or.inr ⟨by omega, h.2⟩⟩

def unixNanos (t : Timestamp) : Int :=
  let exact := t.secs * 1000000000 + t.nanos
  if -0x8000000000000000 ≤ exact && exact < 0x8000000000000000 then exact
  else (t.secs * 1000000 + (t.nanos / 1000 : Nat)) * 1000

end Timestamp

end Outbox
