import Outbox.Pattern.Mode
import Outbox.Text.Hex

/-!
# Backslashes

* `Escape`         what a backslash and its successors stand for;
* `Escape.read?`   reads what follows a backslash.

Numbers of groups, properties of characters and braces are not among them.
-/

namespace Outbox.Pattern

inductive Escape where
  /-- `byte` for two hexadecimal digits -/
  | literal (c : Char) (byte : Bool)
  /-- digits, blanks or word characters; `negated` for all others -/
  | set (negated : Bool)
  | textEdge
  | wordEdge
  deriving DecidableEq, Repr, Inhabited

namespace Escape

/-- ASCII characters that stand for themselves behind a backslash -/
def isPlain (c : Char) : Bool := Mode.isAscii c && !c.isAlphanum && c ≠ '<' && c ≠ '>'

/-- control characters that have a letter -/
def control? : Char → Option Char
  | 'a' => some '\x07'
  | 't' => some '\t'
  | 'n' => some '\n'
  | 'v' => some '\x0b'
  | 'f' => some '\x0c'
  | 'r' => some '\r'
  | _ => none

/-- exactly `n` digits, behind those that make up `value` -/
def readDigits? (m : Mode) : Nat → Nat → List Char → Option (Nat × List Char)
  | 0, value, cs => some (value, cs)
  | n + 1, value, cs =>
    match m.skip cs with
    | [] => none
    | c :: cs => do readDigits? m n (16 * value + (← Text.hexValue? c)) cs

def readHex? (m : Mode) (width : Nat) (cs : List Char) : Option (Escape × List Char) := do
  let (n, cs) ← readDigits? m width 0 cs
  if n.isValidChar then some (.literal (Char.ofNat n) (width = 2), cs) else none

def read? (m : Mode) : List Char → Option (Escape × List Char)
  | [] => none
  | 'x' :: cs => readHex? m 2 cs
  | 'u' :: cs => readHex? m 4 cs
  | 'U' :: cs => readHex? m 8 cs
  | c :: cs =>
    if isPlain c then some (.literal c false, cs)
    else if let some d := control? c then some (.literal d false, cs)
    else if "dsw".toList.contains c then some (.set false, cs)
    else if "DSW".toList.contains c then some (.set true, cs)
    else if "Az".toList.contains c then some (.textEdge, cs)
    else if "bB<>".toList.contains c then some (.wordEdge, cs)
    else none

end Escape

/-- whether an escape may stand by itself -/
def Mode.admits (m : Mode) : Escape → Bool
  | .literal c byte => m.admitsLiteral c byte
  | .set negated => m.admitsSet negated
  | .textEdge => true
  | .wordEdge => m.admitsWordEdge

end Outbox.Pattern
