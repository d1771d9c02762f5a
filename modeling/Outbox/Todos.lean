import Outbox.Todo

/-!
# Stored todos

* `Todos`             todos with distinct ids;
* `Todos.Change`      a change that is not made yet, `Todos.apply` makes it;
* `Todos.seenAfter`   what a look-up finds when changes are pending.
-/

namespace Outbox

structure Todos where
  items : List Todo
  distinct : (items.map Todo.id).Nodup

namespace Todos

def empty : Todos := ⟨[], List.nodup_nil⟩

instance : Inhabited Todos := ⟨empty⟩

def get? (s : Todos) (id : Uuid) : Option Todo := s.items.find? (·.id = id)

/-- A stored todo stays as it is. -/
def insert (t : Todo) (s : Todos) : Todos :=
  if h : s.items.any (·.id = t.id) then s
  else ⟨s.items ++ [t], by
    rw [List.map_append, List.nodup_append]
    refine ⟨s.distinct, by simp, ?_⟩
    intro a ha b hb hab
    obtain ⟨x, hx, rfl⟩ := List.mem_map.1 ha
    have hb : b = t.id := by simpa using hb
    exact h (List.any_eq_true.2 ⟨x, hx, by simp [hab, hb]⟩)⟩

def remove (id : Uuid) (s : Todos) : Todos :=
  ⟨s.items.filter (·.id ≠ id), (List.filter_sublist.map Todo.id).nodup s.distinct⟩

/-- in the order of their ids -/
def ids (s : Todos) : List Uuid := (s.items.map Todo.id).mergeSort fun a b => a ≤ b

/-! ## changes -/

inductive Change where
  | insert (t : Todo)
  | remove (id : Uuid)
  deriving DecidableEq, Repr

def apply (s : Todos) : Change → Todos
  | .insert t => s.insert t
  | .remove id => s.remove id

/-- what is found under `id` after a change, if it was `found` before -/
def Change.seen (id : Uuid) (found : Option Todo) : Change → Option Todo
  | .insert t => if t.id = id then some t else found
  | .remove removed => if removed = id then none else found

def seenAfter (s : Todos) (changes : List Change) (id : Uuid) : Option Todo :=
  changes.foldl (Change.seen id) (s.get? id)

end Todos

end Outbox
