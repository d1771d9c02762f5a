import Outbox.Decimal.Scaled

/-!
# Numbers as a JSON text writes them

* `Numeral`            sign, digits before and after the point, exponent;
* `Numeral.read?`      reads one from the start of a text;
* `Numeral.integer?`   its value when it is written as an integer of 64 bits (`-0` is none);
* `Numeral.real?`      its value as a double.

A double is computed from the digits that fit in 64 bits; later ones only move the point.
-/

namespace Outbox.Json

open Outbox.Decimal

structure Numeral where
  negative : Bool
  whole : List Char
  fraction : List Char
  /-- sign and digits of the exponent -/
  exponent : Option (Bool × List Char)
  deriving DecidableEq, Repr

namespace Numeral

/-- digits before the point: a zero stands alone -/
def readWhole? : List Char → Option (List Char × List Char)
  | '0' :: c :: cs => if isDigit c then none else some (['0'], c :: cs)
  | ['0'] => some (['0'], [])
  | cs =>
    match cs.takeWhile isDigit with
    | [] => none
    | ds => some (ds, cs.dropWhile isDigit)

def readFraction? : List Char → Option (List Char × List Char)
  | '.' :: cs =>
    match cs.takeWhile isDigit with
    | [] => none
    | ds => some (ds, cs.dropWhile isDigit)
  | cs => some ([], cs)

def readExponent? : List Char → Option (Option (Bool × List Char) × List Char)
  | [] => some (none, [])
  | c :: cs =>
    if c = 'e' || c = 'E' then
      let (negative, cs) := splitSign cs
      match cs.takeWhile isDigit with
      | [] => none
      | ds => some (some (negative, ds), cs.dropWhile isDigit)
    else some (none, c :: cs)

def readUnsigned? (negative : Bool) (cs : List Char) : Option (Numeral × List Char) := do
  let (whole, cs) ← readWhole? cs
  let (fraction, cs) ← readFraction? cs
  let (exponent, cs) ← readExponent? cs
  some (⟨negative, whole, fraction, exponent⟩, cs)

def read? : List Char → Option (Numeral × List Char)
  | '-' :: cs => readUnsigned? true cs
  | cs => readUnsigned? false cs

def integer? (n : Numeral) : Option Int :=
  if n.fraction.isEmpty && n.exponent.isNone then
    let v := ofDigits n.whole
    if n.negative then
      if 0 < v && v ≤ 0x8000000000000000 then some (-(v : Int)) else none
    else if v < UInt64.size then some v else none
  else none

/-- `significand * 10 ^ exponent` of the digits read so far -/
structure Mantissa where
  significand : Nat
  exponent : Int

def Mantissa.fits (m : Mantissa) (c : Char) : Bool := 10 * m.significand + digitValue c < UInt64.size

/-- After the first digit before the point that does not fit, each one counts as a power of ten. -/
def wholeMantissa : Mantissa → List Char → Mantissa
  | m, [] => m
  | m, c :: cs =>
    if m.fits c then wholeMantissa ⟨10 * m.significand + digitValue c, m.exponent⟩ cs
    else ⟨m.significand, m.exponent + (cs.length + 1)⟩

/-- After the first digit behind the point that does not fit, all are dropped. -/
def fractionMantissa : Mantissa → List Char → Mantissa
  | m, [] => m
  | m, c :: cs =>
    if m.fits c then fractionMantissa ⟨10 * m.significand + digitValue c, m.exponent - 1⟩ cs
    else m

def mantissa (n : Numeral) : Mantissa :=
  fractionMantissa (wholeMantissa ⟨0, 0⟩ n.whole) n.fraction

/-- An exponent of more than 31 bits gives zero, or no double where a digit is not zero and the
exponent is positive. -/
def magnitude? (n : Numeral) : Option Float :=
  let m := n.mantissa
  match n.exponent with
  | none => scaled? m.significand m.exponent
  | some (negative, ds) =>
    let e := ofDigits ds
    if 0x80000000 ≤ e then
      if m.significand = 0 || negative then some 0.0 else none
    else scaled? m.significand (if negative then m.exponent - e else m.exponent + e)

def real? (n : Numeral) : Option Float :=
  n.magnitude?.map fun x => if n.negative then -x else x

end Numeral

end Outbox.Json
