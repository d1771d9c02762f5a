import Outbox.Proofs.Origin
import Outbox.Proofs.TodoEvents

/-!
# Creating a todo again

A command that is left alone inserts or removes its todo, and enqueues its event.  To create a todo again
changes nothing as long as both the todo and the record are still there.

* `Stores.execute_creation`, `execute_deletion`   what a command does to the stores from beginning to end;
* `World.createTodo_eq`, `deleteTodo_stores`      the same in a world;
* `Deed`, `Site.performAll`   a history of commands, and of all that is done to the outbox between them;
* `Site.Through`              every deed of a history is as `P` wants it;
* `Keeps`                     a deed leaves alone the record that tells of a creation;
* `create_again`              who creates a todo again finds it created;
* `create_again_changes`      but a todo that was deleted comes back, and a creation whose record is gone
                              is told again.
-/

namespace Outbox

open Scenario (World)

/-! ## commands that are left alone -/

namespace Staged

/-- The event of a command that is left alone is stored unless it is told already. -/
theorem conflict?_event {s : Stores} {changes : List Todos.Change} {t : Todo} {news : Todo.News}
    {eventId : Uuid} {now : Timestamp} (h : s.outbox.hasKey (t.dedupeKey news) = false) :
    conflict? s ⟨[t.event news eventId now], changes⟩ = none := by
  rw [conflict?_eq_none]
  intro e he
  rw [List.mem_singleton.1 he]
  exact ne_true_of_eq_false h

end Staged

namespace Stores

variable (s : Stores) (eventId : Uuid) (now : Timestamp) (rollback : Option String)

/-- A command that has staged its change tells of it, and stores both. -/
theorem finish_telling (t : Todo) (news : Todo.News) (changes : List Todos.Change) :
    s.finish ((t.telling news eventId now).run (Staged.answer s) ⟨[], changes⟩).2 rollback
        ((t.telling news eventId now).run (Staged.answer s) ⟨[], changes⟩).1 =
      (.ok t,
        ⟨(s.outbox.enqueue (t.event news eventId now)).2, changes.foldl Todos.apply s.todos⟩) := by
  have hrun : (t.telling news eventId now).run (Staged.answer s) ⟨[], changes⟩ =
      (.ok t, ((⟨[], changes⟩ : Staged).enqueue s (t.event news eventId now)).2) := rfl
  rw [hrun, Staged.enqueue_event]
  cases hkey : s.outbox.hasKey (t.dedupeKey news) with
  | true =>
    have htaken : s.outbox.keyTaken (t.event news eventId now).dedupeKey = true := hkey
    rw [Store.enqueue_taken htaken]
    rfl
  | false =>
    have hfree : ¬ s.outbox.keyTaken (t.event news eventId now).dedupeKey = true :=
      ne_true_of_eq_false hkey
    rw [Store.enqueue_free hfree]
    show s.finish ⟨[t.event news eventId now], changes⟩ rollback (.ok t) = _
    unfold finish Staged.commit
    rw [Staged.conflict?_event hkey]
    rfl

theorem execute_creation (t : Todo) :
    s.execute (t.creation eventId now) rollback =
      (.ok t, ⟨(s.outbox.enqueue (t.event .created eventId now)).2, s.todos.insert t⟩) := by
  have hrun : (t.creation eventId now).run (Staged.answer s) .empty =
      (t.telling .created eventId now).run (Staged.answer s) (Staged.empty.insertTodo s t).2 := rfl
  unfold execute
  rw [hrun, Staged.insertTodo_empty]
  cases hg : s.todos.get? t.id with
  | none => exact s.finish_telling eventId now rollback t .created [.insert t]
  | some u =>
    rw [Todos.insert_of_get? hg]
    exact s.finish_telling eventId now rollback t .created []

theorem run_deletion {id : Uuid} {answer : Except StoreError Todo} {staged : Staged}
    (h : Staged.empty.deleteTodo s id = (answer, staged)) :
    (Todo.deletion id eventId now).run (Staged.answer s) .empty =
      match answer with
      | .error e => (.error e, staged)
      | .ok t => (t.telling .deleted eventId now).run (Staged.answer s) staged := by
  have hanswer : Staged.answer s (.deleteTodo id) .empty = (answer, staged) := h
  unfold Todo.deletion
  rw [Program.run_ask, hanswer]
  cases answer <;> rfl

theorem execute_deletion (id : Uuid) :
    s.execute (Todo.deletion id eventId now) rollback =
      match s.todos.get? id with
      | none => (.error ((Todo.notFound id).afterRollback rollback), s)
      | some t =>
        (.ok t, ⟨(s.outbox.enqueue (t.event .deleted eventId now)).2, s.todos.remove id⟩) := by
  have hstaged := Staged.deleteTodo_empty s id
  unfold execute
  cases hg : s.todos.get? id with
  | none =>
    rw [hg] at hstaged
    rw [s.run_deletion eventId now hstaged]
    rfl
  | some t =>
    rw [hg] at hstaged
    rw [s.run_deletion eventId now hstaged]
    exact s.finish_telling eventId now rollback t .deleted [.remove id]

end Stores

namespace Scenario.World

variable (w : World)

/-- What a command comes to, but for the log. -/
theorem command_eq (news : Todo.News) (work : Timestamp → Work (Except StoreError Todo)) :
    (w.command news work).1 = (w.stores.execute (work w.now) w.rollbackFailure).1 ∧
      (w.command news work).2.stores = (w.stores.execute (work w.now) w.rollbackFailure).2 := by
  have hfinish (t : Staged) (result : Except StoreError Todo) :
      (w.finish t result).1 = (w.stores.finish t w.rollbackFailure result).1 ∧
        (w.finish t result).2.stores = (w.stores.finish t w.rollbackFailure result).2 := ⟨rfl, rfl⟩
  unfold command Stores.execute
  dsimp only
  rcases (work w.now).run (Staged.answer w.stores) .empty with ⟨result, staged⟩
  dsimp only
  obtain ⟨hended, hstores⟩ := hfinish staged result
  rw [← hended, ← hstores]
  rcases w.finish staged result with ⟨ended, v⟩
  cases ended with
  | error e => exact ⟨rfl, rfl⟩
  | ok t => exact ⟨rfl, rfl⟩

variable (eventId : Uuid)

theorem createTodo_eq (t : Todo) :
    (w.createTodo eventId t).1 = .ok t ∧
      (w.createTodo eventId t).2.stores =
        ⟨(w.stores.outbox.enqueue (t.event .created eventId w.now)).2, w.stores.todos.insert t⟩ := by
  have h := w.command_eq .created (t.creation eventId)
  rw [Stores.execute_creation] at h
  exact h

/-- A todo that is not found is not deleted, and nothing changes then. -/
theorem deleteTodo_stores (id : Uuid) :
    (w.deleteTodo eventId id).2.stores =
      match w.stores.todos.get? id with
      | none => w.stores
      | some t =>
        ⟨(w.stores.outbox.enqueue (t.event .deleted eventId w.now)).2, w.stores.todos.remove id⟩ := by
  have h := (w.command_eq .deleted (Todo.deletion id eventId)).2
  rw [Stores.execute_deletion] at h
  refine h.trans ?_
  cases w.stores.todos.get? id <;> rfl

end Scenario.World

/-! ## keys that are taken -/

namespace Store

variable {s s' : Store} {e : Event} {key : String}

theorem hasKey_enqueue_self (hk : e.dedupeKey = some key) : (s.enqueue e).2.hasKey key = true := by
  by_cases htaken : s.keyTaken e.dedupeKey = true
  · rw [enqueue_taken htaken]
    rw [hk] at htaken
    exact htaken
  · rw [enqueue_free htaken]
    exact hasKey_eq_true.2 ⟨e.record, mem_put.2 (Or.inl rfl), hk⟩

/-- An event with a new id takes no record's place. -/
theorem hasKey_enqueue (h : s.hasKey key = true) (hnew : (s.get? e.id).isNone = true) :
    (s.enqueue e).2.hasKey key = true := by
  by_cases htaken : s.keyTaken e.dedupeKey = true
  · rw [enqueue_taken htaken]
    exact h
  · obtain ⟨r, hr, hk⟩ := hasKey_eq_true.1 h
    have hne : r.id ≠ e.record.id := get?_eq_none.1 (Option.isNone_iff_eq_none.1 hnew) r hr
    rw [enqueue_free htaken]
    exact hasKey_eq_true.2 ⟨r, mem_put.2 (Or.inr ⟨hr, hne⟩), hk⟩

theorem hasKey_of_from (hs : s.From s')
    (hkept : ∀ r ∈ s.records, r.dedupeKey = some key → (s'.get? r.id).isSome = true)
    (h : s.hasKey key = true) : s'.hasKey key = true := by
  obtain ⟨r, hr, hk⟩ := hasKey_eq_true.1 h
  obtain ⟨r', hr'⟩ := Option.isSome_iff_exists.1 (hkept r hr hk)
  obtain ⟨a, ha, hf⟩ := hs r.id r' hr'
  cases (get?_of_mem hr).symm.trans ha
  exact hasKey_eq_true.2 ⟨r', mem_of_get? hr', (Record.dedupeKey_eq_of_fixed hf).trans hk⟩

end Store

/-! ## histories -/

inductive Deed where
  /-- a command from beginning to end, with the id of its event -/
  | create (eventId : Uuid) (t : Todo)
  | delete (eventId id : Uuid)
  /-- whatever else is done to the outbox -/
  | beside (a : Action Todo) (h : a.isProducing = false)
  | clock (start : Timestamp) (elapsed : Nat)

def Deed.deletes (id : Uuid) : Deed → Bool
  | .delete _ deleted => deleted = id
  | _ => false

namespace Site

def perform (s : Site Todo) : Deed → Site Todo
  | .create eventId t => { s with world := (s.world.createTodo eventId t).2 }
  | .delete eventId id => { s with world := (s.world.deleteTodo eventId id).2 }
  | .beside a _ => s.act a
  | .clock start elapsed => s.atTime start elapsed

def performAll (s : Site Todo) (ds : List Deed) : Site Todo := ds.foldl perform s

/-- Every deed is as `P` wants it. -/
def Through (P : Site Todo → Deed → Prop) : Site Todo → List Deed → Prop
  | _, [] => True
  | s, d :: ds => P s d ∧ Through P (s.perform d) ds

instance decidableThrough (P : Site Todo → Deed → Prop) [∀ s d, Decidable (P s d)] (s : Site Todo)
    (ds : List Deed) : Decidable (Through P s ds) :=
  match ds with
  | [] => .isTrue trivial
  | d :: ds => @instDecidableAnd _ _ _ (decidableThrough P (s.perform d) ds)

/-- A command has an event id that is not in use, and nothing else removes the record that tells of the
creation of `t`. -/
def Keeps (t : Todo) (s : Site Todo) : Deed → Prop
  | .create eventId _ => (s.outbox.get? eventId).isNone = true
  | .delete eventId _ => (s.outbox.get? eventId).isNone = true
  | .beside a _ => ∀ r ∈ s.outbox.records, r.dedupeKey = some (t.dedupeKey .created) →
    ((s.act a).outbox.get? r.id).isSome = true
  | .clock _ _ => True

instance (t : Todo) (s : Site Todo) (d : Deed) : Decidable (Keeps t s d) :=
  match d with
  | .create _ _ => inferInstanceAs (Decidable (_ = true))
  | .delete _ _ => inferInstanceAs (Decidable (_ = true))
  | .beside _ _ => inferInstanceAs (Decidable (∀ r ∈ _, _))
  | .clock _ _ => .isTrue trivial

variable {s : Site Todo} {t : Todo}

/-- What every deed keeps, a history keeps. -/
theorem performAll_keeps {P : Site Todo → Deed → Prop} {I : Site Todo → Prop}
    (step : ∀ s d, I s → P s d → I (s.perform d)) {ds : List Deed} (h : I s) (hds : s.Through P ds) :
    I (s.performAll ds) := by
  induction ds generalizing s with
  | nil => exact h
  | cons d ds ih => exact ih (step s d h hds.1) hds.2

theorem Through.of_forall {P : Deed → Prop} {ds : List Deed} (h : ∀ d ∈ ds, P d) :
    s.Through (fun _ d => P d) ds := by
  induction ds generalizing s with
  | nil => trivial
  | cons d ds ih => exact ⟨h d List.mem_cons_self, ih fun e he => h e (List.mem_cons_of_mem d he)⟩

/-- A todo stays stored until it is deleted, whatever else is created. -/
theorem isSome_perform {d : Deed} {id : Uuid} (h : (s.world.stores.todos.get? id).isSome = true)
    (hd : d.deletes id = false) : ((s.perform d).world.stores.todos.get? id).isSome = true := by
  cases d with
  | create eventId u =>
    show ((s.world.createTodo eventId u).2.stores.todos.get? id).isSome = true
    rw [(s.world.createTodo_eq eventId u).2, Todos.get?_insert]
    split
    · rfl
    · exact h
  | delete eventId deleted =>
    have hne : id ≠ deleted := fun hid => of_decide_eq_false hd hid.symm
    show ((s.world.deleteTodo eventId deleted).2.stores.todos.get? id).isSome = true
    rw [s.world.deleteTodo_stores eventId deleted]
    cases s.world.stores.todos.get? deleted with
    | none => exact h
    | some u =>
      show ((s.world.stores.todos.remove deleted).get? id).isSome = true
      rw [Todos.get?_remove, if_neg hne]
      exact h
  | beside a ha =>
    show ((s.act a).world.stores.todos.get? id).isSome = true
    rw [act_todos ha]
    exact h
  | clock start elapsed => exact h

/-- The record that tells of a creation stays, and with it the key. -/
theorem hasKey_perform {d : Deed} (h : s.outbox.hasKey (t.dedupeKey .created) = true)
    (hd : Keeps t s d) : (s.perform d).outbox.hasKey (t.dedupeKey .created) = true := by
  cases d with
  | create eventId u =>
    show (s.world.createTodo eventId u).2.stores.outbox.hasKey _ = true
    rw [(s.world.createTodo_eq eventId u).2]
    exact Store.hasKey_enqueue h hd
  | delete eventId deleted =>
    show (s.world.deleteTodo eventId deleted).2.stores.outbox.hasKey _ = true
    rw [s.world.deleteTodo_stores eventId deleted]
    cases s.world.stores.todos.get? deleted with
    | none => exact h
    | some u => exact Store.hasKey_enqueue h hd
  | beside a ha => exact Store.hasKey_of_from (act_from ha s) hd h
  | clock start elapsed => exact h

/-- **Who creates a todo again finds it created.**  Whatever the stores held when the todo was created,
whatever commands, relays and others have done since, and whatever the ids of the events are: the command
succeeds, the todos stay as they are unless this one was deleted, and the outbox stays as it is unless the
record was removed that tells of the creation. -/
theorem create_again (s : Site Todo) (t : Todo) (eventId again : Uuid) (since : List Deed) :
    (((s.performAll (.create eventId t :: since)).world.createTodo again t).1 = .ok t) ∧
      ((∀ d ∈ since, d.deletes t.id = false) →
        ((s.performAll (.create eventId t :: since)).world.createTodo again t).2.stores.todos =
          (s.performAll (.create eventId t :: since)).world.stores.todos) ∧
      ((s.perform (.create eventId t)).Through (Keeps t) since →
        ((s.performAll (.create eventId t :: since)).world.createTodo again t).2.stores.outbox =
          (s.performAll (.create eventId t :: since)).world.stores.outbox) := by
  have hcreated : (s.perform (.create eventId t)).world.stores = _ := (s.world.createTodo_eq eventId t).2
  refine ⟨(World.createTodo_eq _ again t).1, fun hdeletes => ?_, fun hkeeps => ?_⟩
  · have hstart : ((s.perform (.create eventId t)).world.stores.todos.get? t.id).isSome = true := by
      rw [hcreated, Todos.get?_insert, if_pos rfl]
      rfl
    have hfound := performAll_keeps
      (I := fun s => (s.world.stores.todos.get? t.id).isSome = true)
      (fun _ _ h hd => isSome_perform h hd) hstart (.of_forall hdeletes)
    obtain ⟨u, hu⟩ := Option.isSome_iff_exists.1 hfound
    rw [(World.createTodo_eq _ again t).2]
    exact Todos.insert_of_get? hu
  · have hstart : (s.perform (.create eventId t)).world.stores.outbox.hasKey (t.dedupeKey .created) =
        true := by
      rw [hcreated]
      exact Store.hasKey_enqueue_self rfl
    have htaken := performAll_keeps
      (I := fun s => s.outbox.hasKey (t.dedupeKey .created) = true)
      (fun _ _ h hd => hasKey_perform h hd) hstart hkeeps
    rw [(World.createTodo_eq _ again t).2]
    exact congrArg Prod.snd (Store.enqueue_taken (e := t.event .created _ _) htaken)

/-- The event is delivered, and another todo is created and deleted. -/
theorem create_again_delivered :
    let s : Site Todo := .new { (default : World) with lease := .ofSecs 60 }
    let t : Todo := ⟨.ofNat 7, "ship it", false, .epoch⟩
    let first : Uuid := .ofNat 101
    let again : Uuid := .ofNat 105
    let since : List Deed :=
      [.beside (.tick 0 .standard) rfl, .beside (.claim 0) rfl, .clock .epoch 5,
        .create (.ofNat 102) { t with id := .ofNat 8 }, .beside (.move 0 .start) rfl,
        .beside (.conclude 0 0 true) rfl, .delete (.ofNat 103) (.ofNat 8), .delete (.ofNat 104) (.ofNat 9),
        .beside (.purge .epoch) rfl]
    ((∀ d ∈ since, d.deletes t.id = false) ∧ (s.perform (.create first t)).Through (Keeps t) since ∧
        (s.performAll (.create first t :: since)).outbox.records.map
            (fun r => (r.entityId, r.eventType, r.status)) =
          [(t.id, "TODO_CREATED", .processed), (.ofNat 8, "TODO_CREATED", .pending),
            (.ofNat 8, "TODO_DELETED", .pending)]) ∧
      ((s.performAll (.create first t :: since)).world.createTodo again t).1 = .ok t ∧
      ((s.performAll (.create first t :: since)).world.createTodo again t).2.stores.todos =
        (s.performAll (.create first t :: since)).world.stores.todos ∧
      ((s.performAll (.create first t :: since)).world.createTodo again t).2.stores.outbox =
        (s.performAll (.create first t :: since)).world.stores.outbox := by
  intro s t first again since
  have hdeletes : ∀ d ∈ since, d.deletes t.id = false := by decide +kernel
  have hkeeps : (s.perform (.create first t)).Through (Keeps t) since := by decide +kernel
  obtain ⟨hok, htodos, houtbox⟩ := create_again s t first again since
  exact ⟨⟨hdeletes, hkeeps, by decide +kernel⟩, hok, htodos hdeletes, houtbox hkeeps⟩

/-- A todo that was deleted comes back, and nobody is told.  A todo whose record was removed after its
delivery is told of again. -/
theorem create_again_changes :
    let w : World := { (default : World) with lease := .ofSecs 60 }
    let t : Todo := ⟨.ofNat 7, "ship it", false, .epoch⟩
    let removing : Relay.Config := { Relay.Config.standard with completion := .delete }
    let deleted := (Site.new w).performAll [.create (.ofNat 101) t, .delete (.ofNat 102) t.id]
    let delivered := (Site.new w).performAll
      [.create (.ofNat 101) t, .beside (.tick 0 removing) rfl, .beside (.claim 0) rfl,
        .beside (.move 0 .start) rfl, .beside (.conclude 0 0 true) rfl]
    (deleted.world.stores.todos.items = [] ∧
        deleted.outbox.records.map Record.eventType = ["TODO_CREATED", "TODO_DELETED"] ∧
        (deleted.world.createTodo (.ofNat 103) t).2.stores.todos.items = [t] ∧
        (deleted.world.createTodo (.ofNat 103) t).2.stores.outbox.records.map Record.eventType =
          ["TODO_CREATED", "TODO_DELETED"]) ∧
      delivered.delivered.length = 1 ∧ delivered.outbox.records.map Record.eventType = [] ∧
      (delivered.world.createTodo (.ofNat 103) t).2.stores.outbox.records.map Record.eventType =
        ["TODO_CREATED"] := by
  decide +kernel

end Site

end Outbox
