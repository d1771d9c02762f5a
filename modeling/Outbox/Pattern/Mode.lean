import Outbox.Text.Blank

/-!
# Modes of a pattern

A pattern matches characters while `unicode` holds and bytes otherwise.  There are no tables of
Unicode at hand, so what would need one (letters in either case, digits, blanks, word characters) can
only be matched by bytes; and by bytes no part of a character outside ASCII may be matched.

* `Mode.skip`          the rest without the blanks and comments at its start, where they do not count;
* `Mode.standsAlone`   whether a hyphen in a class is no sign of a range;
* `Mode.set?`          the mode after a flag;
* `Mode.admits...`     what may be written in a mode.
-/

namespace Outbox.Pattern

structure Mode where
  /-- letters are matched in either case -/
  foldsCase : Bool
  unicode : Bool
  /-- blanks do not count, nor what is between `#` and the end of the line -/
  verbose : Bool
  deriving DecidableEq, Repr, Inhabited

namespace Mode

def standard : Mode := ⟨false, true, false⟩

/-! ## blanks and comments -/

def skipBlanks (comment : Bool) : List Char → List Char
  | [] => []
  | c :: cs =>
    if comment then skipBlanks (c ≠ '\n') cs
    else if c = '#' then skipBlanks true cs
    else if Text.isBlank c then skipBlanks false cs
    else c :: cs

def skip (m : Mode) (cs : List Char) : List Char := if m.verbose then skipBlanks false cs else cs

/-- The character that follows a hyphen; of a comment the first one is seen. -/
def seen? (m : Mode) (cs : List Char) : Option Char :=
  if m.verbose then
    match Text.trimStart cs with
    | '#' :: cs => (Text.trimStart cs).head?
    | cs => cs.head?
  else cs.head?

/-- A hyphen is no sign of a range before the end of the class and before a hyphen. -/
def standsAlone (m : Mode) (cs : List Char) : Bool := m.seen? cs = some ']' || m.seen? cs = some '-'

theorem skip_nil (m : Mode) : m.skip [] = [] := by
  cases h : m.verbose <;> simp [skip, skipBlanks, h]

theorem skip_of_not_verbose {m : Mode} (h : m.verbose = false) (cs : List Char) : m.skip cs = cs := by
  simp [skip, h]

/-! ## flags -/

/-- Flags that say how lines and greed go are known, and change nothing here. -/
def set? (m : Mode) (on : Bool) : Char → Option Mode
  | 'i' => some { m with foldsCase := on }
  | 'u' => some { m with unicode := on }
  | 'x' => some { m with verbose := on }
  | 'm' | 's' | 'U' | 'R' => some m
  | _ => none

/-! ## what may be written -/

def isAscii (c : Char) : Bool := c.toNat < 0x80

def knowsCase (m : Mode) : Bool := !(m.foldsCase && m.unicode)

/-- `byte` tells whether the character was written as a byte. -/
def admitsLiteral (m : Mode) (c : Char) (byte : Bool) : Bool :=
  m.knowsCase && (m.unicode || !byte || isAscii c)

/-- a character in a class -/
def admitsMember (m : Mode) (c : Char) : Bool := m.knowsCase && (m.unicode || isAscii c)

/-- digits, blanks or word characters, or all others -/
def admitsSet (m : Mode) (negated : Bool) : Bool := !m.unicode && !negated

/-- an ASCII class by its name -/
def admitsNamed (m : Mode) (negated : Bool) : Bool := m.knowsCase && (m.unicode || !negated)

def admitsNegation (m : Mode) : Bool := m.unicode

def admitsAny (m : Mode) : Bool := m.unicode

def admitsWordEdge (m : Mode) : Bool := !m.unicode

end Mode

end Outbox.Pattern
