import Outbox.PubSub.Config
import Outbox.Text.Blank
import Outbox.Text.Lower

/-!
# Addresses

* `Url.read?`      an address of the schemes `http` and `https`: the authority, which names the host, and
                   the target of a request, which is its path and its query;
* `percent`        the bytes of a character behind percent signs, where its place in an address asks for
                   it.

Line breaks and tabs within an address do not count, nor does anything from `#` on.  A percent sign stays
as it is.
-/

namespace Outbox.PubSub

structure Url where
  authority : String
  target : String
  deriving DecidableEq, Repr

namespace Url

def percentByte (b : UInt8) : List Char :=
  ['%', (Text.hexDigit (b.toNat / 16)).toUpper, (Text.hexDigit (b.toNat % 16)).toUpper]

def percent (escapes : Char → Bool) (c : Char) : List Char :=
  if escapes c then (String.singleton c).toUTF8.toList.flatMap percentByte else [c]

/-- control characters and what is not ASCII, and a few more in every place -/
def escapesAlways (c : Char) : Bool :=
  c.toNat < 0x20 || 0x7e < c.toNat || " \"<>".toList.contains c

def escapesInPath (c : Char) : Bool := escapesAlways c || "`\x7b\x7d".toList.contains c

def escapesInQuery (c : Char) : Bool := escapesAlways c || c = '\''

/-- the segments between slashes; a backslash is one too -/
def segments (path : List Char) : List (List Char) :=
  path.foldr (fun c acc =>
    if c = '/' || c = '\\' then [] :: acc
    else
      match acc with
      | [] => [[c]]
      | s :: rest => (c :: s) :: rest) [[]]

def unescapeDots (segment : List Char) : List Char :=
  match segment with
  | '%' :: '2' :: e :: rest =>
    if e = 'e' || e = 'E' then '.' :: unescapeDots rest else segment
  | '.' :: rest => '.' :: unescapeDots rest
  | _ => segment

def isDot (segment : List Char) : Bool := unescapeDots segment = ['.']

def isTwoDots (segment : List Char) : Bool := unescapeDots segment = ['.', '.']

/-- resolves `.` and `..`; `done` holds the segments before, last one first -/
def resolve (done : List (List Char)) : List (List Char) → List (List Char)
  | [] => done.reverse
  | [s] =>
    if isDot s then ([] :: done).reverse
    else if isTwoDots s then ([] :: done.tail).reverse
    else (s :: done).reverse
  | s :: rest =>
    if isDot s then resolve done rest
    else if isTwoDots s then resolve done.tail rest
    else resolve (s :: done) rest

def writePath (path : List Char) : List Char :=
  (resolve [] (segments (path.drop 1))).flatMap fun s => '/' :: s.flatMap (percent escapesInPath)

def writeTarget (cs : List Char) : List Char :=
  let path := cs.takeWhile (· ≠ '?')
  match cs.dropWhile (· ≠ '?') with
  | [] => writePath path
  | _ :: query => writePath path ++ '?' :: query.flatMap (percent escapesInQuery)

/-- what stands for nothing in an address -/
def isIgnored (c : Char) : Bool := c = '\t' || c = '\n' || c = '\r'

def withoutScheme? (cs : List Char) : Option (List Char) :=
  let scheme := Text.asciiLower (cs.takeWhile (· ≠ ':'))
  match cs.dropWhile (· ≠ ':') with
  | ':' :: '/' :: '/' :: rest =>
    if scheme = "http".toList || scheme = "https".toList then some rest else none
  | _ => none

def isHostChar (c : Char) : Bool := !(" #%<>[\\]^|".toList.contains c) && !c.toNat < 0x21

def read? (s : String) : Option Url := do
  let cs := (s.toList.filter fun c => !isIgnored c).takeWhile (· ≠ '#')
  let cs := (cs.dropWhile (·.toNat ≤ 0x20)).reverse.dropWhile (·.toNat ≤ 0x20) |>.reverse
  let rest ← withoutScheme? cs
  let authority := rest.takeWhile fun c => !"/\\?".toList.contains c
  let target := rest.dropWhile fun c => !"/\\?".toList.contains c
  if authority.isEmpty || !authority.all isHostChar then none
  else some ⟨String.ofList authority, String.ofList (writeTarget target)⟩

end Url

end Outbox.PubSub
