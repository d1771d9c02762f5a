import Outbox.Decimal.Shortest
import Outbox.Text.Hex

/-!
# JSON values and their text

* `Json`              a JSON value; integers and doubles are kept apart;
* `Json.real x`       the value of a double: not a number and the infinities are `null`;
* `Json.setMember`    members in ascending order of their keys, a later one replaces an earlier one;
* `Json.write`        the compact text of a value, members in the order in which they stand.

A text escapes `"`, `\` and the control characters below U+0020; everything else stands as it is.
-/

namespace Outbox

inductive Json where
  | null
  | bool (b : Bool)
  | int (i : Int)
  | float (x : Float)
  | text (s : String)
  | list (items : List Json)
  | object (members : List (String × Json))
  deriving Inhabited

namespace Json

def real (x : Float) : Json :=
  if x.isFinite then .float x else .null

/-- Keys compare by their code points. -/
def setMember (key : String) (value : Json) : List (String × Json) → List (String × Json)
  | [] => [(key, value)]
  | (k, v) :: rest =>
    if key < k then (key, value) :: (k, v) :: rest
    else if key = k then (key, value) :: rest
    else (k, v) :: setMember key value rest

/-- an object with its members sorted, the last of several equal keys kept -/
def ofMembers (members : List (String × Json)) : Json :=
  .object (members.foldl (fun acc (k, v) => setMember k v acc) [])

/-- Doubles have an exponent when their first digit stands at `10 ^ 16` or above or below
`10 ^ -5`; whole ones keep `.0`, and ties go to the even digit. -/
def numberLayout : Decimal.Layout := ⟨some (-5, 15), true, .even⟩

def escapeChar (c : Char) : List Char :=
  if c = '"' then ['\\', '"']
  else if c = '\\' then ['\\', '\\']
  else if c = '\x08' then ['\\', 'b']
  else if c = '\t' then ['\\', 't']
  else if c = '\n' then ['\\', 'n']
  else if c = '\x0c' then ['\\', 'f']
  else if c = '\r' then ['\\', 'r']
  else if c.toNat < 0x20 then
    ['\\', 'u', '0', '0', if c.toNat < 16 then '0' else '1', Text.hexDigit (c.toNat % 16)]
  else [c]

def writeText (s : String) : List Char :=
  '"' :: s.toList.flatMap escapeChar ++ ['"']

def writeFloat (x : Float) : List Char := (numberLayout.write x).getD ['n', 'u', 'l', 'l']

mutual

def write : Json → List Char
  | .null => ['n', 'u', 'l', 'l']
  | .bool true => ['t', 'r', 'u', 'e']
  | .bool false => ['f', 'a', 'l', 's', 'e']
  | .int i => Decimal.intDigits i
  | .float x => writeFloat x
  | .text s => writeText s
  | .list [] => ['[', ']']
  | .list (v :: vs) => '[' :: (v.write ++ writeMore vs)
  | .object [] => ['\x7b', '\x7d']
  | .object ((k, v) :: ms) => '\x7b' :: (writeText k ++ ':' :: (v.write ++ writeMembers ms))

/-- the items after the first, and the closing bracket -/
def writeMore : List Json → List Char
  | [] => [']']
  | v :: vs => ',' :: (v.write ++ writeMore vs)

/-- the members after the first, and the closing brace -/
def writeMembers : List (String × Json) → List Char
  | [] => ['\x7d']
  | (k, v) :: ms => ',' :: (writeText k ++ ':' :: (v.write ++ writeMembers ms))

end

def compact (v : Json) : String := String.ofList v.write

end Json

end Outbox
