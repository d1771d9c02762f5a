import Outbox.Proofs.Lookup
import Outbox.Proofs.Site

/-!
# What a unit of work stages

* `Exchange.event?`, `Exchange.change?`   what a call staged, as its answer tells;
* `Staged.answer_events`, `Staged.answer_changes`   nothing else is staged;
* `Staged.conflict?_eq_none`, `Staged.conflict?_eq_some`   when the staged events can be stored.
-/

namespace Outbox

/-- the event that was staged, if the answer tells of one -/
def Exchange.event? : Exchange → Option Event
  | ⟨.enqueue e, answer⟩ =>
    match (answer : Except StoreError Enqueued) with
    | .ok (.inserted _) => some e
    | _ => none
  | _ => none

/-- the change of the todos that was staged, if the answer tells of one -/
def Exchange.change? : Exchange → Option Todos.Change
  | ⟨.insertTodo t, answer⟩ =>
    match (answer : Except StoreError Bool) with
    | .ok true => some (.insert t)
    | _ => none
  | ⟨.deleteTodo id, answer⟩ =>
    match (answer : Except StoreError Todo) with
    | .ok _ => some (.remove id)
    | _ => none
  | _ => none

namespace Staged

variable {s : Stores} {t : Staged}

theorem keyTaken_eq_true {key : Option String} :
    t.keyTaken key = true ↔ ∃ k e, key = some k ∧ e ∈ t.events ∧ e.dedupeKey = some k := by
  cases key with
  | none => simp [keyTaken]
  | some k => simp [keyTaken]

/-! ## calls -/

/-- An event is staged unless its key is taken by then, in the unit of work or in the outbox. -/
theorem enqueue_cases (s : Stores) (t : Staged) (e : Event) :
    t.enqueue s e = (.duplicate, t) ∨
      (¬ t.keyTaken e.dedupeKey = true ∧ ¬ s.outbox.keyTaken e.dedupeKey = true) ∧
        t.enqueue s e = (.inserted e.id, { t with events := t.events ++ [e] }) := by
  unfold enqueue
  split
  · exact Or.inl rfl
  · rename_i hfree
    rw [Bool.or_eq_true, not_or] at hfree
    exact Or.inr ⟨hfree, rfl⟩

theorem answer_events (s : Stores) (c : Call) (t : Staged) :
    (answer s c t).2.events =
      t.events ++ (Exchange.event? ⟨c, (answer s c t).1⟩).toList := by
  cases c with
  | enqueue e =>
    show (t.enqueue s e).2.events =
      t.events ++ (Exchange.event? ⟨.enqueue e, .ok (t.enqueue s e).1⟩).toList
    rcases enqueue_cases s t e with h | ⟨_, h⟩
    · rw [h]
      exact (List.append_nil _).symm
    · rw [h]
      rfl
  | insertTodo todo =>
    show (t.insertTodo s todo).2.events = t.events ++ []
    unfold insertTodo
    split <;> exact (List.append_nil _).symm
  | deleteTodo id =>
    show (t.deleteTodo s id).2.events = t.events ++ []
    unfold deleteTodo
    split <;> exact (List.append_nil _).symm
  | getTodo id => exact (List.append_nil _).symm

theorem answer_changes (s : Stores) (c : Call) (t : Staged) :
    (answer s c t).2.changes =
      t.changes ++ (Exchange.change? ⟨c, (answer s c t).1⟩).toList := by
  cases c with
  | enqueue e =>
    show (t.enqueue s e).2.changes = t.changes ++ []
    rcases enqueue_cases s t e with h | ⟨_, h⟩
    all_goals rw [h]
    all_goals exact (List.append_nil _).symm
  | insertTodo todo =>
    show (t.insertTodo s todo).2.changes =
      t.changes ++ (Exchange.change? ⟨.insertTodo todo, .ok (t.insertTodo s todo).1⟩).toList
    unfold insertTodo
    split
    · exact (List.append_nil _).symm
    · rfl
  | deleteTodo id =>
    show (t.deleteTodo s id).2.changes =
      t.changes ++ (Exchange.change? ⟨.deleteTodo id, (t.deleteTodo s id).1⟩).toList
    unfold deleteTodo
    split
    · exact (List.append_nil _).symm
    · rfl
  | getTodo id => exact (List.append_nil _).symm

/-! ## the end -/

theorem conflict?_eq_none :
    t.conflict? s = none ↔ ∀ e ∈ t.events, ¬ s.outbox.keyTaken e.dedupeKey = true := by
  unfold conflict?
  rw [List.find?_eq_none]
  constructor
  · intro h e he htaken
    obtain ⟨key, r, hk, hr, hkr⟩ := Store.keyTaken_eq_true.1 htaken
    rw [hk] at htaken
    exact h key (List.mem_filterMap.2 ⟨e, he, hk⟩) htaken
  · intro h key hkey
    obtain ⟨e, he, hk⟩ := List.mem_filterMap.1 hkey
    have hfree := h e he
    rw [hk] at hfree
    exact hfree

theorem conflict?_eq_some {key : String} (h : t.conflict? s = some key) :
    ∃ e ∈ t.events, e.dedupeKey = some key ∧ s.outbox.keyTaken e.dedupeKey = true := by
  obtain ⟨e, he, hk⟩ := List.mem_filterMap.1 (List.mem_of_find?_eq_some h)
  have htaken : s.outbox.hasKey key = true := List.find?_some h
  refine ⟨e, he, hk, ?_⟩
  rw [hk]
  exact htaken

end Staged

end Outbox
