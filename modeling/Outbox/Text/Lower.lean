import Outbox.Text.CaseTable

/-!
# Lower-casing

* `lower`          full lower-casing of a text: every character goes to its lower-case form, `İ` to
                   two characters, and a capital sigma to `ς` at the end of a word;
* `asciiLower`     lower-casing of the letters A to Z only.

A capital sigma ends a word when a cased character stands before it and none after it, case-ignorable
characters not counted (`reachesCased`).
-/

namespace Outbox.Text

/-- the first character that is not case-ignorable is cased -/
def reachesCased (cs : List Char) : Bool :=
  match cs.dropWhile isCaseIgnorable with
  | [] => false
  | c :: _ => isCased c

/-- the lower-case form of `c` between `before` (nearest character first) and `after` -/
def lowerChar (before : List Char) (c : Char) (after : List Char) : List Char :=
  if c = 'Σ' then
    if reachesCased before && !reachesCased after then ['ς'] else ['σ']
  else if c = 'İ' then ['i', '\u0307']
  else [Char.ofNat (lowerOf c.toNat)]

/-- `before` is what has been read, nearest character first -/
def lowerFrom (before : List Char) : List Char → List Char
  | [] => []
  | c :: after => lowerChar before c after ++ lowerFrom (c :: before) after

def lower (cs : List Char) : List Char := lowerFrom [] cs

theorem lower_nil : lower [] = [] := rfl

theorem lowerFrom_cons (before : List Char) (c : Char) (after : List Char) :
    lowerFrom before (c :: after) = lowerChar before c after ++ lowerFrom (c :: before) after := rfl

def asciiLower (cs : List Char) : List Char := cs.map Char.toLower

end Outbox.Text
