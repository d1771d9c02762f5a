import Outbox.Json.Value
import Outbox.Json.Numeral
import Outbox.Text.Hex

/-!
# Reading JSON

A text is first read into a `Doc`, which keeps what the text says before anything is made of it:
numbers as they are written and members in their order, equal keys included.  A string that holds
half of a surrogate pair is well formed but has no value (`Doc.string none`).

* `Doc.read?`        a whole text, white space allowed around it;
* `Doc.json?`        its value, if every string has one, no number is too large for a double, and
                     containers nest at most `room` deep;
* `Json.read?`       both, with containers nested at most 127 deep;
* `Doc.parts?`       the parts of a structure with named fields: an object with these keys (others
                     are passed over, but no field may stand twice) or the list of all fields in order;
* `Doc.text?`, `Doc.bool?`, `Doc.natural?`, `Doc.real?`, `Doc.optional?`   single fields.
-/

namespace Outbox

inductive Doc where
  | null
  | bool (b : Bool)
  | number (n : Json.Numeral)
  | string (s : Option String)
  | list (items : List Doc)
  | object (members : List (Option String × Doc))
  deriving Inhabited

namespace Doc

/-! ## the text -/

def isSpace (c : Char) : Bool := c = ' ' || c = '\n' || c = '\t' || c = '\r'

def skipSpace (cs : List Char) : List Char := cs.dropWhile isSpace

/-- the character that a single-letter escape stands for -/
def unescape? (c : Char) : Option Char :=
  match c with
  | '"' => some '"'
  | '\\' => some '\\'
  | '/' => some '/'
  | 'b' => some '\x08'
  | 'f' => some '\x0c'
  | 'n' => some '\n'
  | 'r' => some '\r'
  | 't' => some '\t'
  | _ => none

/-- What has been read of a string: its characters, last one first, or nothing once half of a
surrogate pair stood alone; and the first half of a pair whose second half has to follow. -/
structure Reading where
  chars : Option (List Char)
  half : Option Nat

namespace Reading

def start : Reading := ⟨some [], none⟩

def push (r : Reading) (c : Char) : Reading :=
  match r.half with
  | none => ⟨r.chars.map (c :: ·), none⟩
  | some _ => ⟨none, none⟩

/-- one 16-bit unit -/
def pushUnit (r : Reading) (u : Nat) : Reading :=
  if 0xd800 ≤ u && u < 0xdc00 then
    match r.half with
    | none => ⟨r.chars, some u⟩
    | some _ => ⟨none, some u⟩
  else if 0xdc00 ≤ u && u < 0xe000 then
    match r.half with
    | none => ⟨none, none⟩
    | some h =>
      ⟨r.chars.map (Char.ofNat (0x10000 + (h - 0xd800) * 0x400 + (u - 0xdc00)) :: ·), none⟩
  else r.push (Char.ofNat u)

def finish (r : Reading) : Option String :=
  match r.half with
  | none => r.chars.map fun cs => String.ofList cs.reverse
  | some _ => none

end Reading

/-- the rest of a string, up to and with its closing quote -/
def readString (r : Reading) : List Char → Option (Option String × List Char)
  | [] => none
  | '"' :: rest => some (r.finish, rest)
  | '\\' :: 'u' :: a :: b :: c :: d :: rest =>
    match Text.hexNumber? [a, b, c, d] with
    | some u => readString (r.pushUnit u) rest
    | none => none
  | '\\' :: c :: rest =>
    match unescape? c with
    | some c => readString (r.push c) rest
    | none => none
  | c :: rest => if c.toNat < 0x20 then none else readString (r.push c) rest

mutual

def readValue : Nat → List Char → Option (Doc × List Char)
  | 0, _ => none
  | fuel + 1, cs =>
    match skipSpace cs with
    | 'n' :: 'u' :: 'l' :: 'l' :: rest => some (.null, rest)
    | 't' :: 'r' :: 'u' :: 'e' :: rest => some (.bool true, rest)
    | 'f' :: 'a' :: 'l' :: 's' :: 'e' :: rest => some (.bool false, rest)
    | '"' :: rest => (readString .start rest).map fun (s, rest) => (.string s, rest)
    | '[' :: rest =>
      match skipSpace rest with
      | ']' :: rest => some (.list [], rest)
      | rest => (readItems fuel rest).map fun (items, rest) => (.list items, rest)
    | '\x7b' :: rest =>
      match skipSpace rest with
      | '\x7d' :: rest => some (.object [], rest)
      | rest => (readMembers fuel rest).map fun (members, rest) => (.object members, rest)
    | rest => (Json.Numeral.read? rest).map fun (n, rest) => (.number n, rest)

def readItems : Nat → List Char → Option (List Doc × List Char)
  | 0, _ => none
  | fuel + 1, cs => do
    let (item, rest) ← readValue fuel cs
    match skipSpace rest with
    | ',' :: rest =>
      let (items, rest) ← readItems fuel rest
      some (item :: items, rest)
    | ']' :: rest => some ([item], rest)
    | _ => none

def readMembers : Nat → List Char → Option (List (Option String × Doc) × List Char)
  | 0, _ => none
  | fuel + 1, cs =>
    match skipSpace cs with
    | '"' :: rest => do
      let (key, rest) ← readString .start rest
      match skipSpace rest with
      | ':' :: rest =>
        let (value, rest) ← readValue fuel rest
        match skipSpace rest with
        | ',' :: rest =>
          let (members, rest) ← readMembers fuel rest
          some ((key, value) :: members, rest)
        | '\x7d' :: rest => some ([(key, value)], rest)
        | _ => none
      | _ => none
    | _ => none

end

/-- A value takes at least one character and two calls. -/
def read? (cs : List Char) : Option Doc :=
  match readValue (2 * cs.length + 2) cs with
  | some (d, rest) => if (skipSpace rest).isEmpty then some d else none
  | none => none

/-! ## the value -/

def numberValue? (n : Json.Numeral) : Option Json :=
  match n.integer? with
  | some i => some (.int i)
  | none => n.real?.map Json.float

mutual

def json? : Nat → Doc → Option Json
  | _, .null => some .null
  | _, .bool b => some (.bool b)
  | _, .number n => numberValue? n
  | _, .string s => s.map Json.text
  | 0, .list _ => none
  | room + 1, .list items => (items? room items).map Json.list
  | 0, .object _ => none
  | room + 1, .object ms => (members? room ms).map Json.ofMembers

def items? : Nat → List Doc → Option (List Json)
  | _, [] => some []
  | room, d :: ds => do
    let v ← json? room d
    let vs ← items? room ds
    some (v :: vs)

def members? : Nat → List (Option String × Doc) → Option (List (String × Json))
  | _, [] => some []
  | room, (key, d) :: ms => do
    let k ← key
    let v ← json? room d
    let rest ← members? room ms
    some ((k, v) :: rest)

end

/-- containers that may nest in one text -/
def maxDepth : Nat := 127

/-! ## structures with named fields -/

/-- the values of the members with this key -/
def membersNamed (name : String) (ms : List (Option String × Doc)) : List Doc :=
  ms.filterMap fun (k, d) => if k = some name then some d else none

/-- one entry for each name, `none` where the field is missing -/
def parts? (names : List String) : Doc → Option (List (Option Doc))
  | .object ms =>
    if ms.all fun (k, _) => k.isSome then
      names.mapM fun name =>
        match membersNamed name ms with
        | [] => some none
        | [d] => some (some d)
        | _ => none
    else none
  | .list items => if items.length = names.length then some (items.map some) else none
  | _ => none

def text? : Doc → Option String
  | .string s => s
  | _ => none

def bool? : Doc → Option Bool
  | .bool b => some b
  | _ => none

/-- an integer literal from 0 to `max` -/
def natural? (max : Nat) : Doc → Option Nat
  | .number n =>
    match n.integer? with
    | some (.ofNat v) => if v ≤ max then some v else none
    | _ => none
  | _ => none

/-- any number as a double -/
def real? : Doc → Option Float
  | .number n => n.real?
  | _ => none

/-- missing and `null` are the same -/
def optional? {α : Type} (read : Doc → Option α) : Option Doc → Option (Option α)
  | none => some none
  | some .null => some none
  | some d => (read d).map some

end Doc

/-- a whole JSON text -/
def Json.read? (s : String) : Option Json :=
  (Doc.read? s.toList).bind (Doc.json? Doc.maxDepth)

end Outbox
