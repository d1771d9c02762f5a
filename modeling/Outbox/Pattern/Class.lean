import Outbox.Pattern.Escape
import Outbox.Pattern.Parts

/-!
# Classes of characters

A class in brackets holds characters, ranges, sets and other classes, as in `[^a-f_[:digit:]]`; `&&`,
`--` and `~~` work on all that stands to their left and right.

* `readItem?`    a character, a set or a range;
* `readNamed?`   an ASCII class by its name;
* `Bracket`      a class whose end has not come yet;
* `readClass?`   how deep a class is nested, and what follows it.

Hyphens right at the start are characters, and so is a closing bracket there.
-/

namespace Outbox.Pattern

/-! ## items -/

/-- an escape, or any character for itself -/
def readMember? (m : Mode) : List Char → Option (Escape × List Char)
  | [] => none
  | '\\' :: cs => Escape.read? m cs
  | c :: cs => some (.literal c false, cs)

/-- whether a class may hold it -/
def Mode.holds (m : Mode) : Escape → Bool
  | .literal c _ => m.admitsMember c
  | .set negated => m.admitsSet negated
  | _ => false

/-- whether a class may hold all that is between the two -/
def Mode.holdsRange (m : Mode) : Escape → Escape → Bool
  | .literal first _, .literal last _ =>
    first ≤ last && m.admitsMember first && m.admitsMember last
  | _, _ => false

/-- the rest behind an item -/
def readItem? (m : Mode) (cs : List Char) : Option (List Char) := do
  let (first, cs) ← readMember? m cs
  match m.skip cs with
  | '-' :: rest =>
    if m.standsAlone rest then
      if m.holds first then some ('-' :: rest) else none
    else
      let (last, cs) ← readMember? m (m.skip rest)
      if m.holdsRange first last then some cs else none
  | cs => if m.holds first then some cs else none

def classNames : List (List Char) :=
  ["alnum", "alpha", "ascii", "blank", "cntrl", "digit", "graph", "lower", "print", "punct", "space",
   "upper", "word", "xdigit"].map String.toList

/-- What follows an opening bracket, if it is a name between colons: whether the class is negated, and
the rest. -/
def readNamed? : List Char → Option (Bool × List Char)
  | ':' :: cs =>
    let negated := cs.head? = some '^'
    let cs := if negated then cs.drop 1 else cs
    match cs.dropWhile (· ≠ ':') with
    | ':' :: ']' :: rest =>
      if classNames.contains (cs.takeWhile (· ≠ ':')) then some (negated, rest) else none
    | _ => none
  | _ => none

/-! ## brackets -/

structure Bracket where
  /-- whether there were only hyphens so far -/
  fresh : Bool
  /-- height of what stands to the left of the last operator -/
  left : Option Nat
  /-- what followed it -/
  parts : Parts
  deriving DecidableEq, Repr, Inhabited

namespace Bracket

def start : Bracket := ⟨true, none, .none⟩

def height (b : Bracket) : Nat :=
  match b.left with
  | none => b.parts.height
  | some h => max h b.parts.height + 1

def hyphen (b : Bracket) : Bracket := { b with parts := b.parts.add 0 }

def add (b : Bracket) (h : Nat) : Bracket := { b with fresh := false, parts := b.parts.add h }

def operate (b : Bracket) : Bracket := ⟨false, some b.height, .none⟩

theorem height_operate (b : Bracket) : b.operate.height = b.height + 1 := by
  simp [operate, height, Parts.none, Parts.height]

end Bracket

/-- the rest behind an opening bracket and a sign of negation -/
def readStart? (m : Mode) (cs : List Char) : Option (List Char) :=
  match m.skip cs with
  | '^' :: cs => if m.admitsNegation then some cs else none
  | cs => some cs

/-- `outer` are the classes around the one that is being read. -/
def readBrackets? (m : Mode) : Nat → List Bracket → Bracket → List Char → Option (Nat × List Char)
  | 0, _, _, _ => none
  | fuel + 1, outer, b, cs =>
    match m.skip cs with
    | [] => none
    | c :: cs =>
      if c = '-' && b.fresh then
        if m.admitsMember c then readBrackets? m fuel outer b.hyphen cs else none
      else if c = ']' && b.fresh && b.parts.count = 0 then
        if m.admitsMember c then readBrackets? m fuel outer (b.add 0) cs else none
      else if c = ']' then
        match outer with
        | [] => some (b.height + 1, cs)
        | o :: outer => readBrackets? m fuel outer (o.add (b.height + 1)) cs
      else if c = '[' then
        match readNamed? cs with
        | some (negated, cs) =>
          if m.admitsNamed negated then readBrackets? m fuel outer (b.add 0) cs else none
        | none => do readBrackets? m fuel (b :: outer) .start (← readStart? m cs)
      else if (c = '&' || c = '-' || c = '~') && cs.head? = some c then
        readBrackets? m fuel outer b.operate (cs.drop 1)
      else do readBrackets? m fuel outer (b.add 0) (← readItem? m (c :: cs))

/-- Reads what follows an opening bracket. -/
def readClass? (m : Mode) (cs : List Char) : Option (Nat × List Char) := do
  readBrackets? m cs.length [] .start (← readStart? m cs)

end Outbox.Pattern
