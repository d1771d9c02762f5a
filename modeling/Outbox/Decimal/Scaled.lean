import Outbox.Decimal.Natural
import Outbox.Text.Lower

/-!
# Doubles from decimals

* `exact m e`        the double nearest to `m * 10 ^ e`;
* `readFloat? cs`    a whole text as a double: sign, digits with a point on either side, exponent, or
                     one of `inf`, `infinity`, `nan` in any letter case;
* `scaled? s e`      `s * 10 ^ e` computed in doubles, `s` below `2 ^ 64`: one multiplication or
                     division by a power of ten (a very small number needs a few), `none` when the
                     result is too large.
-/

namespace Outbox.Decimal

def infinite : Float := 1.0 / 0.0

def notANumber : Float := 0.0 / 0.0

/-- `10 ^ n` as a double, for `n ≤ 308` -/
def power10Float (n : Nat) : Float := Float.ofScientific 1 false n

/-- Exponents far outside the range of doubles are not computed with. -/
def exact (m : Nat) (e : Int) : Float :=
  let top : Int := (digits m).length + e
  if m = 0 then 0.0
  else if 310 < top then infinite
  else if top < -400 then 0.0
  else if 0 ≤ e then Float.ofScientific m false e.toNat
  else Float.ofScientific m true (-e).toNat

/-- an optional sign in front -/
def splitSign : List Char → Bool × List Char
  | '-' :: cs => (true, cs)
  | '+' :: cs => (false, cs)
  | cs => (false, cs)

/-- the exponent at the end of a number: nothing, or `e` with at least one digit -/
def readExponent? : List Char → Option Int
  | [] => some 0
  | c :: cs =>
    if c = 'e' || c = 'E' then
      let (negative, ds) := splitSign cs
      if ds.isEmpty || !ds.all isDigit then none
      else some (if negative then -(ofDigits ds : Int) else (ofDigits ds : Int))
    else none

def readUnsigned? (cs : List Char) : Option Float :=
  let (whole, rest) := (cs.takeWhile isDigit, cs.dropWhile isDigit)
  let (fraction, rest) := match rest with
    | '.' :: r => (r.takeWhile isDigit, r.dropWhile isDigit)
    | r => ([], r)
  if whole.isEmpty && fraction.isEmpty then
    match String.ofList (Text.asciiLower cs) with
    | "inf" | "infinity" => some infinite
    | "nan" => some notANumber
    | _ => none
  else (readExponent? rest).map fun e => exact (ofDigits (whole ++ fraction)) (e - fraction.length)

def readFloat? (cs : List Char) : Option Float :=
  let (negative, rest) := splitSign cs
  (readUnsigned? rest).map fun x => if negative then -x else x

def scaleFrom? : Nat → Float → Int → Option Float
  | 0, _, _ => some 0.0
  | fuel + 1, f, e =>
    if e.natAbs ≤ 308 then
      if 0 ≤ e then
        let x := f * power10Float e.natAbs
        if x.isInf then none else some x
      else some (f / power10Float e.natAbs)
    else if f == 0.0 then some f
    else if 0 ≤ e then none
    else scaleFrom? fuel (f / 1e308) (e + 308)

/-- Three divisions by `1e308` bring every significand to zero. -/
def scaled? (significand : Nat) (e : Int) : Option Float :=
  scaleFrom? 4 significand.toUInt64.toFloat e

end Outbox.Decimal
