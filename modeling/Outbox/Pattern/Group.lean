import Outbox.Pattern.Mode
import Outbox.Text.Letter

/-!
# Where groups begin

* `Opening`         the ways in which a group may begin, and the flags in parentheses that are no group;
* `Opening.read?`   reads what follows an opening parenthesis.

Groups that look ahead or behind are not among them.
-/

namespace Outbox.Pattern

inductive Opening where
  | plain
  | named (name : List Char)
  /-- a group in a mode of its own -/
  | inMode (m : Mode)
  /-- the mode from here to the end of the group around it -/
  | switch (m : Mode)
  deriving DecidableEq, Repr, Inhabited

namespace Opening

def startsName (c : Char) : Bool := c = '_' || Text.isAlphabetic c

def continuesName (c : Char) : Bool :=
  c = '_' || c = '.' || c = '[' || c = ']' || Text.isAlphanumeric c

def isName : List Char → Bool
  | [] => false
  | c :: cs => startsName c && cs.all continuesName

/-- what precedes and what follows a closing angle -/
def readName? (cs : List Char) : Option (Opening × List Char) :=
  let name := cs.takeWhile (· ≠ '>')
  match cs.dropWhile (· ≠ '>') with
  | _ :: rest => if isName name then some (named name, rest) else none
  | [] => none

/-- Flags behind a hyphen are taken off.  `flags` are those before, hyphen included, the last one first;
no two are alike, and the hyphen is not the last. -/
def readFlags? (m : Mode) (flags : List Char) : List Char → Option (Opening × List Char)
  | [] => none
  | c :: cs =>
    if c = ':' then if flags.head? = some '-' then none else some (inMode m, cs)
    else if c = ')' then
      if flags.isEmpty || flags.head? = some '-' then none else some (switch m, cs)
    else if flags.contains c then none
    else if c = '-' then readFlags? m (c :: flags) cs
    else
      match m.set? (!flags.contains '-') c with
      | some m => readFlags? m (c :: flags) cs
      | none => none

def read? (m : Mode) (cs : List Char) : Option (Opening × List Char) :=
  match m.skip cs with
  | '?' :: 'P' :: '<' :: cs => readName? cs
  | '?' :: '<' :: cs => readName? cs
  | '?' :: cs => readFlags? m [] cs
  | cs => some (plain, cs)

end Opening

end Outbox.Pattern
