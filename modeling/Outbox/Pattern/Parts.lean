/-!
# How deep parts are nested

Parts that stand side by side are one level above the deepest of them; a single part needs no level of
its own.

* `Parts.add h`    one more part, of height `h`;
* `Parts.height`   the height of all of them together.
-/

namespace Outbox.Pattern

structure Parts where
  count : Nat
  deepest : Nat
  deriving DecidableEq, Repr, Inhabited

namespace Parts

def none : Parts := ⟨0, 0⟩

def add (p : Parts) (h : Nat) : Parts := ⟨p.count + 1, max p.deepest h⟩

def height (p : Parts) : Nat := if p.count ≤ 1 then p.deepest else p.deepest + 1

theorem height_none : none.height = 0 := rfl

theorem height_add_none (h : Nat) : (none.add h).height = h := by
  simp [none, add, height]

end Parts

end Outbox.Pattern
