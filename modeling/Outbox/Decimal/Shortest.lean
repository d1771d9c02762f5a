import Outbox.Decimal.Natural

/-!
# The shortest decimal that names a double

A finite double other than zero is `m * 2 ^ q` (`Binary`).  The reals that are read as it form an
interval around it; the ends belong to it when `m` is even.  `shortest` walks down the decimal grids
`10 ^ k` from one that is too coarse and stops at the first one with a point in the interval:
no shorter decimal names the double, and of the two neighbours of the double on that grid the nearer
one is taken.  Which one it is when both are as near is left to the caller (`Tie`).

* `Binary.ofBits`      sign, significand and exponent of a bit pattern;
* `shortest tie m q`   `(c, k)` with `c * 10 ^ k` that decimal;
* `Layout`             how the digits are set: when with an exponent, whether whole numbers keep
                       `.0`, and how ties go;
* `Layout.write`       the text of a double, `none` where it is no finite number.
-/

namespace Outbox.Decimal

/-- The parts of a finite double: `(-1) ^ negative * m * 2 ^ q`. -/
structure Binary where
  negative : Bool
  m : Nat
  q : Int
  deriving DecidableEq, Repr

/-- `none` for the infinities and for what is not a number -/
def Binary.ofBits (bits : UInt64) : Option Binary :=
  let n := bits.toNat
  let fraction : Nat := n % 0x10000000000000
  let e : Nat := (n >>> 52) % 0x800
  let negative := n >>> 63 == 1
  if e = 2047 then none
  else if e = 0 then some ⟨negative, fraction, -1074⟩
  else some ⟨negative, 0x10000000000000 + fraction, (e : Int) - 1075⟩

/-- numerator and denominator of `x * 2 ^ q` -/
def scale2 (x : Nat) (q : Int) : Nat × Nat :=
  if 0 ≤ q then (x <<< q.toNat, 1) else (x, 1 <<< (-q).toNat)

/-- numerator and denominator of `10 ^ k` -/
def power10 (k : Int) : Nat × Nat :=
  if 0 ≤ k then (Nat.pow 10 k.toNat, 1) else (1, Nat.pow 10 (-k).toNat)

/-- which of two decimals is taken that are as near -/
inductive Tie
  | even
  | up
  deriving DecidableEq, Repr, Inhabited

/-- The point chosen when `low` and the one above it are as near. -/
def Tie.choose (tie : Tie) (low : Nat) : Nat :=
  match tie with
  | .even => if low % 2 = 0 then low else low + 1
  | .up => low + 1

theorem Tie.choose_even_mod (low : Nat) : Tie.even.choose low % 2 = 0 := by
  show (if low % 2 = 0 then low else low + 1) % 2 = 0
  split
  · assumption
  · omega

theorem Tie.choose_up (low : Nat) : Tie.up.choose low = low + 1 := rfl

/-- The neighbours of `m * 2 ^ q` on the grid `10 ^ k` that lie in the interval: the nearer one, by
`tie` if both are as near. -/
def gridPoint? (tie : Tie) (m : Nat) (q k : Int) : Option Nat :=
  let unit := scale2 1 (q - 2)
  let grid := power10 k
  -- everything is compared after multiplication by both denominators
  let step := grid.1 * unit.2
  let value := 4 * m * unit.1 * grid.2
  let below := (if m = 0x10000000000000 && q ≠ -1074 then 4 * m - 1 else 4 * m - 2) * unit.1 * grid.2
  let above := (4 * m + 2) * unit.1 * grid.2
  let inside (c : Nat) : Bool :=
    if m % 2 = 0 then below ≤ c * step && c * step ≤ above
    else below < c * step && c * step < above
  let low := value / step
  let high := low + 1
  match inside low && low ≠ 0, inside high with
  | true, false => some low
  | false, true => some high
  | false, false => none
  | true, true =>
    let down := value - low * step
    let up := high * step - value
    if down < up then some low
    else if up < down then some high
    else some (tie.choose low)

/-- walks down the grids; every double has at most 17 digits, so the fuel of the caller suffices -/
def shortestFrom (tie : Tie) (m : Nat) (q : Int) : Nat → Int → Nat × Int
  | 0, k => (0, k)
  | fuel + 1, k =>
    match gridPoint? tie m q k with
    | some c => (c, k)
    | none => shortestFrom tie m q fuel (k - 1)

/-- an exponent whose grid is coarser than the value -/
def coarse (m : Nat) (q : Int) : Int :=
  ((Nat.log2 m : Int) + 1 + q) * 30103 / 100000 + 1

def shortest (tie : Tie) (m : Nat) (q : Int) : Nat × Int := shortestFrom tie m q 25 (coarse m q)

/-- How the text of a double is set. -/
structure Layout where
  /-- an exponent is written when the decimal exponent of the first digit is outside these bounds -/
  exponentBounds : Option (Int × Int)
  /-- whole numbers end in `.0` -/
  keepsPoint : Bool
  /-- which digits are taken of two choices that are as near -/
  tie : Tie

/-- digits `ds` of a number `0.ds * 10 ^ point`, written without an exponent -/
def Layout.positional (l : Layout) (ds : List Char) (point : Int) : List Char :=
  let n : Int := ds.length
  if n ≤ point then
    ds ++ List.replicate (point - n).toNat '0' ++ (if l.keepsPoint then ['.', '0'] else [])
  else if 0 < point then ds.take point.toNat ++ '.' :: ds.drop point.toNat
  else '0' :: '.' :: (List.replicate (-point).toNat '0' ++ ds)

def scientific (ds : List Char) (exponent : Int) : List Char :=
  let body := match ds with
    | [] => []
    | [d] => [d]
    | d :: rest => d :: '.' :: rest
  body ++ 'e' :: (if exponent < 0 then '-' else '+') :: digits exponent.natAbs

def Layout.magnitude (l : Layout) (m : Nat) (q : Int) : List Char :=
  if m = 0 then (if l.keepsPoint then ['0', '.', '0'] else ['0'])
  else
    let (c, k) := shortest l.tie m q
    let ds := digits c
    let point : Int := ds.length + k
    match l.exponentBounds with
    | none => l.positional ds point
    | some (lo, hi) =>
      if lo ≤ point - 1 && point - 1 ≤ hi then l.positional ds point
      else scientific ds (point - 1)

def Layout.write (l : Layout) (x : Float) : Option (List Char) :=
  (Binary.ofBits x.toBits).map fun b =>
    (if b.negative then ['-'] else []) ++ l.magnitude b.m b.q

end Outbox.Decimal
