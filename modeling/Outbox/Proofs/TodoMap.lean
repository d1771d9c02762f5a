import Mathlib.Logic.Function.Basic
import Outbox.Todos

/-!
# Stored todos as a map

* `Todos.get?_insert`, `get?_remove`   what is found when a todo was inserted or removed;
* `Rows`                    todos as a plain map from ids;
* `Rows.changed`            the map after a change;
* `Todos.get?_foldl_apply`  changes of what is stored are changes of the map.
-/

namespace Outbox

/-! ## stored todos -/

namespace Todos

variable {s : Todos} {id : Uuid} {t : Todo}

theorem get?_id (h : s.get? id = some t) : t.id = id := by
  simpa using List.find?_some h

theorem get?_eq_none : s.get? id = none ↔ ∀ t ∈ s.items, t.id ≠ id := by
  unfold get?
  rw [List.find?_eq_none]
  simp

/-- A todo whose id is in use is not inserted. -/
theorem insert_of_get? {u : Todo} (h : s.get? t.id = some u) : s.insert t = s := by
  have hany : s.items.any (·.id = t.id) = true :=
    List.any_eq_true.2 ⟨u, List.mem_of_find?_eq_some h, decide_eq_true (get?_id h)⟩
  unfold insert
  rw [dif_pos hany]

theorem get?_insert (t : Todo) (s : Todos) (id : Uuid) :
    (s.insert t).get? id = if id = t.id then some ((s.get? id).getD t) else s.get? id := by
  cases ht : s.get? t.id with
  | some u =>
    rw [insert_of_get? ht]
    split
    · rename_i hid
      rw [hid, ht, Option.getD_some]
    · rfl
  | none =>
    have hnone : ¬ s.items.any (·.id = t.id) = true := by
      rw [List.any_eq_true]
      rintro ⟨u, hu, hid⟩
      exact get?_eq_none.1 ht u hu (of_decide_eq_true hid)
    unfold insert
    rw [dif_neg hnone]
    show (s.items ++ [t]).find? (·.id = id) = _
    rw [List.find?_append, show s.items.find? (·.id = id) = s.get? id from rfl]
    by_cases hid : id = t.id
    · rw [if_pos hid, hid, ht]
      simp
    · rw [if_neg hid]
      simp [Ne.symm hid]

theorem get?_remove (removed : Uuid) (s : Todos) (id : Uuid) :
    (s.remove removed).get? id = if id = removed then none else s.get? id := by
  show (s.items.filter (·.id ≠ removed)).find? (·.id = id) = _
  rw [List.find?_filter]
  split
  · rename_i hid
    rw [List.find?_eq_none]
    intro t _
    simp [hid]
  · rename_i hid
    refine congrArg (s.items.find? ·) (funext fun t => ?_)
    by_cases ht : t.id = id
    · simp [ht, hid]
    · simp [ht]

end Todos

/-! ## a plain map -/

/-- what is found under each id -/
abbrev Rows : Type := Uuid → Option Todo

/-- A todo that is there already stays as it is. -/
def Rows.changed (m : Rows) : Todos.Change → Rows
  | .insert t => if (m t.id).isNone then Function.update m t.id (some t) else m
  | .remove id => Function.update m id none

namespace Todos

theorem get?_apply (s : Todos) (c : Change) : (s.apply c).get? = Rows.changed s.get? c := by
  funext id
  cases c with
  | insert t =>
    show (s.insert t).get? id = (if _ then _ else _ : Rows) id
    rw [get?_insert]
    split
    · rename_i hid
      rw [hid]
      cases ht : s.get? t.id with
      | none => exact (Function.update_self t.id (some t) s.get?).symm
      | some u => exact ht.symm
    · rename_i hid
      split
      · exact (Function.update_of_ne hid _ _).symm
      · rfl
  | remove removed =>
    show (s.remove removed).get? id = Function.update s.get? removed none id
    rw [get?_remove, Function.update_apply]

/-- Changes are made one after another. -/
theorem get?_foldl_apply (s : Todos) (cs : List Change) :
    (cs.foldl apply s).get? = cs.foldl Rows.changed s.get? := by
  induction cs generalizing s with
  | nil => rfl
  | cons c cs ih => rw [List.foldl_cons, List.foldl_cons, ih, get?_apply]

end Todos

end Outbox
