/-!
# Natural numbers in decimal

* `digits n`            the digits of `n`, first one first, no leading zero;
* `intDigits i`         with a minus sign where `i` is negative;
* `ofDigits cs`         the number that a list of digits writes;
* `padded width n`      `digits n` with leading zeros up to `width`;
* `takeDigits limit`    the digits at the start of a text, at most `limit` of them;
* `readBounded max`     a whole text as a number up to `max`, or the first fault in it.
-/

namespace Outbox.Decimal

def digitChar (n : Nat) : Char := Char.ofNat (n + 48)

def digitValue (c : Char) : Nat := c.toNat - 48

def isDigit (c : Char) : Bool := '0' ≤ c && c ≤ '9'

def digits (n : Nat) : List Char :=
  if n < 10 then [digitChar n] else digits (n / 10) ++ [digitChar (n % 10)]
termination_by n
decreasing_by omega

def text (n : Nat) : String := String.ofList (digits n)

def intDigits (i : Int) : List Char :=
  if i < 0 then '-' :: digits i.natAbs else digits i.natAbs

def ofDigits (cs : List Char) : Nat := cs.foldl (fun n c => 10 * n + digitValue c) 0

theorem ofDigits_nil : ofDigits [] = 0 := rfl

theorem ofDigits_append_singleton (cs : List Char) (c : Char) :
    ofDigits (cs ++ [c]) = 10 * ofDigits cs + digitValue c := by
  simp [ofDigits, List.foldl_append]

def padded (width n : Nat) : List Char :=
  List.replicate (width - (digits n).length) '0' ++ digits n

/-- the leading digits of a text, at most `limit`, and what follows them -/
def takeDigits : Nat → List Char → List Char × List Char
  | 0, cs => ([], cs)
  | _ + 1, [] => ([], [])
  | limit + 1, c :: cs =>
    if isDigit c then
      let (ds, rest) := takeDigits limit cs
      (c :: ds, rest)
    else ([], c :: cs)

theorem takeDigits_append (limit : Nat) (cs : List Char) :
    (takeDigits limit cs).1 ++ (takeDigits limit cs).2 = cs := by
  induction limit generalizing cs with
  | zero => rfl
  | succ limit ih =>
    cases cs with
    | nil => rfl
    | cons c cs =>
      simp only [takeDigits]
      split
      · simp [ih]
      · rfl

/-- Why a text is no number in the range. -/
inductive Fault where
  | empty
  | invalidDigit
  | tooLarge
  deriving DecidableEq, Repr

def Fault.message : Fault → String
  | .empty => "cannot parse integer from empty string"
  | .invalidDigit => "invalid digit found in string"
  | .tooLarge => "number too large to fit in target type"

/-- Reads on from the value `n`; a character that is no digit is a fault before its place makes the
number too large. -/
def readFrom (max : Nat) : Nat → List Char → Except Fault Nat
  | n, [] => .ok n
  | n, c :: cs =>
    if isDigit c then
      if 10 * n + digitValue c ≤ max then readFrom max (10 * n + digitValue c) cs
      else .error .tooLarge
    else .error .invalidDigit

/-- One plus sign may stand in front; a sign alone is an invalid digit. -/
def readBounded (max : Nat) : List Char → Except Fault Nat
  | [] => .error .empty
  | ['+'] => .error .invalidDigit
  | '+' :: cs => readFrom max 0 cs
  | cs => readFrom max 0 cs

end Outbox.Decimal
