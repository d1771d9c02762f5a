import Outbox.Proofs.DedupeKeys
import Outbox.Proofs.KeyParts
import Outbox.Proofs.TodoMap

/-!
# Todos and the records that tell of them

* `Todo.dedupeKey_inj`      the key of an event shows which todo it is about, and what it tells;
* `Staged.insertTodo_empty`, `deleteTodo_empty`, `enqueue_event`   what a command stages;
* `Record.IsOf`             a record tells of a todo, whatever was done to it since it was stored;
* `Store.Tells`             such a record is stored, and `Store.TellsOnly` that there are no others;
* `TellsOnly.hasKey_iff`    then the key of an event is taken just if its record is stored;
* `Store.tells_put`, `tells_of_from`   what is told after a record is stored, and after anything else.

Where a todo is known by its id alone, `value` gives the todo.
-/

namespace Outbox

/-! ## keys -/

namespace Todo

theorem News.eventType_inj {m n : News} (h : m.eventType = n.eventType) : m = n := by
  cases m <;> cases n <;> first | rfl | exact absurd h (by decide)

/-- The key of an event shows what it tells, and of which todo. -/
theorem dedupeKey_inj {t u : Todo} {m n : News} (h : t.dedupeKey m = u.dedupeKey n) :
    m = n ∧ t.id = u.id := by
  obtain ⟨hmessage, _⟩ := DedupeKey.perWrite_inj h
  obtain ⟨hfree, hid⟩ := DedupeKey.perMessage_inj hmessage
  exact ⟨News.eventType_inj ((String.append_right_inj _).1 hfree), hid⟩

end Todo

/-! ## what commands stage -/

namespace Staged

theorem insertTodo_empty (s : Stores) (t : Todo) :
    empty.insertTodo s t =
      if (s.todos.get? t.id).isSome then (false, empty) else (true, ⟨[], [.insert t]⟩) := rfl

theorem deleteTodo_empty (s : Stores) (id : Uuid) :
    empty.deleteTodo s id =
      match s.todos.get? id with
      | none => (.error (Todo.notFound id), empty)
      | some t => (.ok t, ⟨[], [.remove id]⟩) := rfl

/-- The event of a command is staged unless it is told already. -/
theorem enqueue_event (s : Stores) (changes : List Todos.Change) (t : Todo) (news : Todo.News)
    (eventId : Uuid) (now : Timestamp) :
    (⟨[], changes⟩ : Staged).enqueue s (t.event news eventId now) =
      if s.outbox.hasKey (t.dedupeKey news) then (.duplicate, ⟨[], changes⟩)
      else (.inserted eventId, ⟨[t.event news eventId now], changes⟩) := rfl

end Staged

/-! ## records -/

/-- The part of a record that no operation changes tells of the todo. -/
def Record.IsOf (r : Record) (t : Todo) (news : Todo.News) : Prop :=
  r.fixed = (t.event news r.id r.createdAt).record.fixed

namespace Record.IsOf

variable {r : Record} {t : Todo} {news : Todo.News}

theorem event (t : Todo) (news : Todo.News) (eventId : Uuid) (now : Timestamp) :
    (t.event news eventId now).record.IsOf t news := rfl

theorem ofFixed {r' : Record} (h : r.IsOf t news) (hf : r'.fixed = r.fixed) : r'.IsOf t news := by
  have hcreated (a : Record) : a.fixed.createdAt = a.createdAt := rfl
  unfold IsOf
  rw [← hcreated r', hf, hcreated, id_eq_of_fixed hf]
  exact h

theorem dedupeKey (h : r.IsOf t news) : r.dedupeKey = some (t.dedupeKey news) :=
  dedupeKey_eq_of_fixed h

theorem inj {u : Todo} {n : Todo.News} (h : r.IsOf t news) (h' : r.IsOf u n) :
    news = n ∧ t.id = u.id :=
  Todo.dedupeKey_inj (Option.some.inj (h.dedupeKey.symm.trans h'.dedupeKey))

end Record.IsOf

namespace Store

variable {s s' : Store} {t : Todo} {news : Todo.News} {value : Uuid → Todo} {id : Uuid}

/-- The record that tells this of a todo is stored. -/
def Tells (s : Store) (t : Todo) (news : Todo.News) : Prop := ∃ r ∈ s.records, r.IsOf t news

/-- All records tell of todos. -/
def TellsOnly (value : Uuid → Todo) (s : Store) : Prop :=
  ∀ r ∈ s.records, ∃ id news, r.IsOf (value id) news

theorem not_tells_empty (t : Todo) (news : Todo.News) : ¬ Store.empty.Tells t news :=
  fun ⟨_, hr, _⟩ => absurd hr List.not_mem_nil

theorem TellsOnly.empty (value : Uuid → Todo) : Store.empty.TellsOnly value :=
  fun _ hr => absurd hr List.not_mem_nil

theorem hasKey_eq_true {key : String} :
    s.hasKey key = true ↔ ∃ r ∈ s.records, r.dedupeKey = some key := by
  simp [hasKey]

theorem Tells.hasKey (h : s.Tells t news) : s.hasKey (t.dedupeKey news) = true := by
  obtain ⟨r, hr, hof⟩ := h
  exact hasKey_eq_true.2 ⟨r, hr, hof.dedupeKey⟩

theorem TellsOnly.hasKey_iff (h : s.TellsOnly value) (hvalue : ∀ id, (value id).id = id) :
    s.hasKey ((value id).dedupeKey news) = true ↔ s.Tells (value id) news := by
  refine ⟨fun hkey => ?_, Tells.hasKey⟩
  obtain ⟨r, hr, hk⟩ := hasKey_eq_true.1 hkey
  obtain ⟨i, n, hof⟩ := h r hr
  obtain ⟨rfl, hid⟩ := Todo.dedupeKey_inj (Option.some.inj (hof.dedupeKey.symm.trans hk))
  rw [hvalue, hvalue] at hid
  exact ⟨r, hr, hid ▸ hof⟩

/-! ### what happens to them -/

/-- The record of an event with a new id is stored beside all others. -/
theorem tells_put (hvalue : ∀ id, (value id).id = id) {eventId : Uuid} (hnew : s.get? eventId = none)
    {i : Uuid} {n : Todo.News} {now : Timestamp} :
    (s.put ((value i).event n eventId now).record).Tells (value id) news ↔
      s.Tells (value id) news ∨ id = i ∧ news = n := by
  constructor
  · rintro ⟨r, hr, hof⟩
    rcases mem_put.1 hr with rfl | ⟨hr, _⟩
    · obtain ⟨hn, hid⟩ := hof.inj (.event (value i) n eventId now)
      rw [hvalue, hvalue] at hid
      exact Or.inr ⟨hid, hn⟩
    · exact Or.inl ⟨r, hr, hof⟩
  · rintro (⟨r, hr, hof⟩ | ⟨rfl, rfl⟩)
    · exact ⟨r, mem_put.2 (Or.inr ⟨hr, get?_eq_none.1 hnew r hr⟩), hof⟩
    · exact ⟨_, mem_put.2 (Or.inl rfl), .event _ _ _ _⟩

theorem TellsOnly.put (h : s.TellsOnly value) (i : Uuid) (n : Todo.News) (eventId : Uuid)
    (now : Timestamp) : (s.put ((value i).event n eventId now).record).TellsOnly value := by
  intro r hr
  rcases mem_put.1 hr with rfl | ⟨hr, _⟩
  · exact ⟨i, n, .event _ _ _ _⟩
  · exact h r hr

theorem TellsOnly.ofFrom (h : s.TellsOnly value) (hs : s.From s') : s'.TellsOnly value := by
  intro r' hr'
  obtain ⟨r, hr, hf⟩ := hs r'.id r' (get?_of_mem hr')
  obtain ⟨i, n, hof⟩ := h r (mem_of_get? hr)
  exact ⟨i, n, hof.ofFixed hf⟩

/-- What is told stays told until a record is removed. -/
theorem tells_of_from (hs : s.From s') (hkept : ∀ r ∈ s.records, (s'.get? r.id).isSome = true) :
    s'.Tells t news ↔ s.Tells t news := by
  constructor
  · rintro ⟨r', hr', hof⟩
    obtain ⟨r, hr, hf⟩ := hs r'.id r' (get?_of_mem hr')
    exact ⟨r, mem_of_get? hr, hof.ofFixed hf.symm⟩
  · rintro ⟨r, hr, hof⟩
    obtain ⟨r', hr'⟩ := Option.isSome_iff_exists.1 (hkept r hr)
    obtain ⟨a, ha, hf⟩ := hs r.id r' hr'
    cases (get?_of_mem hr).symm.trans ha
    exact ⟨r', mem_of_get? hr', hof.ofFixed hf⟩

end Store

end Outbox
