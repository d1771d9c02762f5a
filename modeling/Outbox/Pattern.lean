import Outbox.Pattern.Class
import Outbox.Pattern.Group

/-!
# Patterns

A pattern is a regular expression: alternatives between bars, each a sequence of characters, classes,
edges and groups, which may be repeated.

* `Frame`       a group whose end has not come yet;
* `height?`     how deep a pattern is nested, `none` where it cannot be read;
* `isPattern`   it can be read and is not nested too deep.

What a pattern matches is of no concern here.
-/

namespace Outbox.Pattern

structure Frame where
  mode : Mode
  /-- the alternatives that are complete -/
  complete : Parts
  /-- the one that is being read -/
  current : Parts
  /-- height of its last part, if that can be repeated -/
  last : Option Nat
  deriving DecidableEq, Repr, Inhabited

namespace Frame

def start (m : Mode) : Frame := ⟨m, .none, .none, none⟩

def add (f : Frame) (h : Nat) : Frame := { f with current := f.current.add h, last := some h }

/-- Flags are a part that cannot be repeated. -/
def switch (f : Frame) (m : Mode) : Frame :=
  { f with mode := m, current := f.current.add 0, last := none }

def repeat? (f : Frame) : Option Frame :=
  f.last.map fun h =>
    { f with
      current := { f.current with deepest := max f.current.deepest (h + 1) }, last := some (h + 1) }

def alternate (f : Frame) : Frame :=
  { f with complete := f.complete.add f.current.height, current := .none, last := none }

def height (f : Frame) : Nat := (f.complete.add f.current.height).height

theorem height_start (m : Mode) : (start m).height = 0 := rfl

theorem height_add_start (m : Mode) (h : Nat) : ((start m).add h).height = h := by
  simp [start, add, height, Parts.add, Parts.none, Parts.height]

end Frame

/-- `outer` are the groups around the one that is being read, `names` those of all groups so far. -/
def readFrom? : Nat → List (List Char) → List Frame → Frame → List Char → Option Nat
  | 0, _, _, _, _ => none
  | fuel + 1, names, outer, f, cs =>
    match f.mode.skip cs with
    | [] => if outer.isEmpty then some f.height else none
    | '(' :: cs =>
      match Opening.read? f.mode cs with
      | none => none
      | some (.plain, cs) => readFrom? fuel names (f :: outer) (.start f.mode) cs
      | some (.named name, cs) =>
        if names.contains name then none
        else readFrom? fuel (name :: names) (f :: outer) (.start f.mode) cs
      | some (.inMode m, cs) => readFrom? fuel names (f :: outer) (.start m) cs
      | some (.switch m, cs) => readFrom? fuel names outer (f.switch m) cs
    | ')' :: cs =>
      match outer with
      | [] => none
      | o :: outer => readFrom? fuel names outer (o.add (f.height + 1)) cs
    | '|' :: cs => readFrom? fuel names outer f.alternate cs
    | '[' :: cs => do
      let (h, cs) ← readClass? f.mode cs
      readFrom? fuel names outer (f.add h) cs
    | '\\' :: cs => do
      let (e, cs) ← Escape.read? f.mode cs
      if f.mode.admits e then readFrom? fuel names outer (f.add 0) cs else none
    | '\x7b' :: _ => none
    | c :: cs =>
      if c = '*' || c = '+' || c = '?' then do
        readFrom? fuel names outer (← f.repeat?) (if cs.head? = some '?' then cs.drop 1 else cs)
      else if c = '^' || c = '$' then readFrom? fuel names outer (f.add 0) cs
      else if if c = '.' then f.mode.admitsAny else f.mode.admitsLiteral c false then
        readFrom? fuel names outer (f.add 0) cs
      else none

def height? (cs : List Char) : Option Nat :=
  readFrom? (cs.length + 1) [] [] (.start .standard) cs

def deepestAllowed : Nat := 250

def isPattern (cs : List Char) : Bool := (height? cs).any fun h => h ≤ deepestAllowed

end Outbox.Pattern
