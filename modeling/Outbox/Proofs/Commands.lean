import Outbox.Proofs.EnqueueFrame
import Outbox.Proofs.TodoRetry

/-!
# A command tells of its todo once, or does nothing

A command that is left alone inserts or removes its todo, and then the outbox holds the one record that
tells of it.  The key of the record may be taken by then, by an earlier command or by somebody who
enqueued an event with it; keys are unique in every outbox that was empty once, so there is one record
with the key in either case.

* `KeysUnique.countP_eq_one`   how many records have a key that is taken;
* `Store.TellsOnce`      what a command makes of the outbox;
* `commands_tell_once`   what a command makes of the stores, whatever happened to them before.
-/

namespace Outbox

open Scenario (World)

namespace Store

variable {s : Store} {key : String}

theorem KeysUnique.countP_eq_one (h : s.KeysUnique) (hkey : s.hasKey key = true) :
    (s.records.countP fun r => r.dedupeKey = some key) = 1 := by
  obtain ⟨r, hr, hrk⟩ := hasKey_eq_true.1 hkey
  have hids := s.distinct
  have hsame {a : Record} (ha : a ∈ s.records) (hak : a.dedupeKey = some key) : a.id = r.id :=
    h a.id r.id a r key (get?_of_mem ha) (get?_of_mem hr) hak hrk
  obtain ⟨as, bs, hsplit⟩ := List.append_of_mem hr
  rw [hsplit, List.map_append, List.map_cons, List.nodup_append, List.nodup_cons] at hids
  obtain ⟨_, ⟨hbs, _⟩, has⟩ := hids
  have hnone {l : List Record} (hl : ∀ a ∈ l, a ∈ s.records ∧ a.id ≠ r.id) :
      (l.countP fun r => r.dedupeKey = some key) = 0 :=
    List.countP_eq_zero.2 fun a ha hak => (hl a ha).2 (hsame (hl a ha).1 (of_decide_eq_true hak))
  rw [hsplit, List.countP_append, List.countP_cons, hnone, hnone, if_pos (decide_eq_true hrk)]
  · refine fun a ha => ⟨by simp [hsplit, ha], fun hid => hbs ?_⟩
    exact List.mem_map.2 ⟨a, ha, hid⟩
  · refine fun a ha => ⟨by simp [hsplit, ha], fun hid => ?_⟩
    exact has a.id (List.mem_map_of_mem ha) r.id List.mem_cons_self hid

/-- The outbox `s'` is `s` with one record that tells this of the todo. -/
structure TellsOnce (s s' : Store) (t : Todo) (news : Todo.News) (eventId : Uuid) (now : Timestamp) :
    Prop where
  once : (s'.records.countP fun r =>
    r.dedupeKey = some (DedupeKey.perWrite Todo.entityType news.eventType t.id t.createdAt)) = 1
  kept : ∀ r ∈ s.records, s'.get? r.id = some r
  only : ∀ r ∈ s'.records, r ∈ s.records ∨ r = (t.event news eventId now).record

theorem KeysUnique.tellsOnce (h : s.KeysUnique) {eventId : Uuid} (hnew : s.get? eventId = none)
    (t : Todo) (news : Todo.News) (now : Timestamp) :
    s.TellsOnce (s.enqueue (t.event news eventId now)).2 t news eventId now := by
  have hkey := hasKey_enqueue_self (s := s) (e := t.event news eventId now) rfl
  by_cases htaken : s.keyTaken (t.event news eventId now).dedupeKey = true
  · rw [enqueue_taken htaken] at hkey ⊢
    exact ⟨h.countP_eq_one hkey, fun r hr => get?_of_mem hr, fun r hr => Or.inl hr⟩
  · rw [enqueue_free htaken] at hkey ⊢
    have hgains := s.gains_putAll [t.event news eventId now]
    refine ⟨(h.put htaken).countP_eq_one hkey, fun r hr => hgains.kept r hr ?_, fun r hr => ?_⟩
    · rw [List.map_singleton, List.mem_singleton]
      exact get?_eq_none.1 hnew r hr
    · refine (hgains.only r hr).imp_right ?_
      rintro ⟨e, he, rfl⟩
      rw [List.mem_singleton.1 he]

end Store

namespace Site

variable {α : Type}

/-- **A command tells of its todo once, or does nothing.**  Whatever happened before to an outbox that was
empty at first, and to the todos: a command with a new event id is left alone.  To create a todo succeeds;
there is a todo under its id then, the one that was there before if there was one.  To delete a todo
succeeds just if there is one under the id, which is gone then, and otherwise changes nothing.  A command
that succeeds leaves one record that tells of it, and all other todos and records as they are. -/
theorem commands_tell_once (w : World) (xs : List (Step α)) {eventId : Uuid}
    (hnew : ((Site.new w).run xs).outbox.get? eventId = none) (now : Timestamp)
    (rollback : Option String) :
    let s := ((Site.new w).run xs).world.stores
    (∀ t : Todo, ∃ s', s.execute (t.creation eventId now) rollback = (.ok t, s') ∧
      s.outbox.TellsOnce s'.outbox t .created eventId now ∧
      ∀ id, s'.todos.get? id =
        if id = t.id then some ((s.todos.get? id).getD t) else s.todos.get? id) ∧
    ∀ id : Uuid,
      let ended := s.execute (Todo.deletion id eventId now) rollback
      (∀ t, ended.1 = .ok t ↔ s.todos.get? id = some t) ∧
      (∀ t, ended.1 = .ok t → t.id = id ∧
        s.outbox.TellsOnce ended.2.outbox t .deleted eventId now ∧
        ∀ i, ended.2.todos.get? i = if i = id then none else s.todos.get? i) ∧
      ∀ e, ended.1 = .error e → ended.2 = s := by
  intro s
  have hkeys : s.outbox.KeysUnique := ((Keyed.new w).run xs).stored
  refine ⟨fun t => ⟨_, s.execute_creation eventId now rollback t, hkeys.tellsOnce hnew t _ now,
    Todos.get?_insert t s.todos⟩, fun id => ?_⟩
  dsimp only
  rw [Stores.execute_deletion]
  cases hget : s.todos.get? id with
  | none =>
    exact ⟨fun t => ⟨fun h => (nomatch h), fun h => (nomatch h)⟩, fun t h => (nomatch h),
      fun _ _ => rfl⟩
  | some u =>
    refine ⟨fun t => ⟨fun h => congrArg some (Except.ok.inj h), fun h => congrArg Except.ok ?_⟩,
      fun t ht => ?_, nofun⟩
    · exact Option.some.inj h
    · cases Except.ok.inj ht
      exact ⟨Todos.get?_id hget, hkeys.tellsOnce hnew u _ now, Todos.get?_remove id s.todos⟩

/-- A todo was created, the record of that delivered, and the todo deleted.  It is created again, where
the key is taken, or deleted again. -/
theorem commands_tell_once_again :
    let w : World := { (default : World) with lease := .ofSecs 60 }
    let t : Todo := ⟨.ofNat 7, "ship it", false, .epoch⟩
    let xs : List (Step Todo) :=
      [.openUnit 0 (t.creation (.ofNat 1) .epoch), .proceed 0, .proceed 0, .proceed 0, .tick 0 .standard,
        .claim 0, .move 0 .start, .conclude 0 0 true, .openUnit 1 (Todo.deletion t.id (.ofNat 2) .epoch),
        .proceed 1, .proceed 1, .proceed 1].map fun a => ⟨.epoch, 0, a⟩
    let s := ((Site.new w).run xs).world.stores
    let deleted := s.execute (Todo.deletion t.id (.ofNat 3) .epoch) none
    (s.outbox.get? (.ofNat 3) = none ∧ s.todos.items = [] ∧
        s.outbox.records.map (fun r => (r.eventType, r.status)) =
          [("TODO_CREATED", .processed), ("TODO_DELETED", .pending)]) ∧
      (∃ s', s.execute (t.creation (.ofNat 3) .epoch) none = (.ok t, s') ∧
        s.outbox.TellsOnce s'.outbox t .created (.ofNat 3) .epoch ∧ s'.todos.get? t.id = some t) ∧
      deleted.1 = .error (Todo.notFound t.id) ∧ deleted.2 = s := by
  intro w t xs s deleted
  have hnew : s.outbox.get? (.ofNat 3) = none := Option.isNone_iff_eq_none.1 (by decide +kernel)
  have hempty : s.todos.items = [] := by decide +kernel
  have hget : s.todos.get? t.id = none := by
    unfold Todos.get?
    rw [hempty]
    rfl
  obtain ⟨hcreate, hdelete⟩ := commands_tell_once w xs hnew .epoch none
  obtain ⟨s', hs', htells, htodos⟩ := hcreate t
  have hfails : deleted.1 = .error (Todo.notFound t.id) := by decide +kernel
  refine ⟨⟨hnew, hempty, by decide +kernel⟩, ⟨s', hs', htells, ?_⟩, hfails, (hdelete t.id).2.2 _ hfails⟩
  rw [htodos, if_pos rfl, hget, Option.getD_none]

end Site

end Outbox
