import Outbox.Proofs.UnitOfWork

/-!
# What an enqueue leaves alone

An event is refused for its dedupe key, but stored under its id.  So an enqueue, or the end of a unit of
work, leaves every record alone whose id is not that of a stored event.

* `Store.Gains`      some events were stored, and all else is as before;
* `Store.gains_putAll`   storing events one after another does that;
* `enqueue_gains`    enqueues and units of work add records, or change nothing;
* `enqueue_replaces` but an event with an id in use, and a key that is not, takes the place of a record.
-/

namespace Outbox

open Scenario (World)

/-- what storing these events makes of a store -/
structure Store.Gains (s s' : Store) (es : List Event) : Prop where
  kept : ∀ r ∈ s.records, r.id ∉ es.map Event.id → s'.get? r.id = some r
  only : ∀ r ∈ s'.records, r ∈ s.records ∨ ∃ e ∈ es, r = e.record
  /-- Where all ids are new and different, one record is added for each event. -/
  added : (s.records.map Record.id ++ es.map Event.id).Nodup →
    s'.records = s.records ++ es.map Event.record

theorem Store.gains_putAll (s : Store) (es : List Event) :
    s.Gains (es.foldl (fun o e => o.put e.record) s) es where
  kept := fun r hr hid => (Site.get?_putAll hid).trans (get?_of_mem hr)
  only := fun r hr => by
    have hget := get?_of_mem hr
    rcases Site.get?_putAll_cases es s r.id with hold | ⟨e, he, _, hnew⟩
    · exact Or.inl (mem_of_get? (hold.symm.trans hget))
    · exact Or.inr ⟨e, he, Option.some.inj (hget.symm.trans hnew)⟩
  added := fun hids => by
    obtain ⟨_, hnew, hapart⟩ := List.nodup_append.1 hids
    refine Site.records_putAll hnew fun e he => get?_eq_none.2 fun r hr => ?_
    exact hapart r.id (List.mem_map_of_mem hr) e.id (List.mem_map_of_mem he)

namespace Stores

/-- **What an enqueue leaves alone.**  An event whose key is taken is a duplicate, and a unit of work with
such an event ends in a conflict; either changes nothing.  All other events are stored.  Whatever is
stored, records with other ids stay as they are, and where no record has the id of an event, nothing is
replaced. -/
theorem enqueue_gains (s : Stores) (e : Event) (t : Staged) :
    (if s.outbox.keyTaken e.dedupeKey then s.outbox.enqueue e = (.duplicate, s.outbox)
      else ∃ o, s.outbox.enqueue e = (.inserted e.id, o) ∧ s.outbox.Gains o [e]) ∧
    (if t.events.any fun e => s.outbox.keyTaken e.dedupeKey then
        ∃ key, t.commit s = .error (Staged.conflict key)
      else ∃ s', t.commit s = .ok s' ∧ s.outbox.Gains s'.outbox t.events) := by
  constructor
  · split
    · rename_i htaken
      exact Store.enqueue_taken htaken
    · rename_i hfree
      exact ⟨_, Store.enqueue_free hfree, Store.gains_putAll _ [e]⟩
  · unfold Staged.commit
    split
    · rename_i htaken
      cases hcon : t.conflict? s with
      | some key => exact ⟨key, rfl⟩
      | none =>
        obtain ⟨e, he, hk⟩ := List.any_eq_true.1 htaken
        exact absurd hk (Staged.conflict?_eq_none.1 hcon e he)
    · rename_i hfree
      cases hcon : t.conflict? s with
      | some key =>
        obtain ⟨e, he, _, hk⟩ := Staged.conflict?_eq_some hcon
        exact absurd (List.any_eq_true.2 ⟨e, he, hk⟩) hfree
      | none => exact ⟨_, rfl, Store.gains_putAll _ _⟩

/-- One event was delivered.  Another with its own id is added, alone or by a unit of work. -/
theorem enqueue_gains_beside :
    let w : World := { (default : World) with lease := .ofSecs 60 }
    let e (n : Nat) : Event := Event.create (.ofNat n) "Todo" (.ofNat 7) "todos" "TODO_CREATED" .null .epoch
    let xs : List (Step Unit) :=
      [.enqueue (e 1), .tick 0 .standard, .claim 0, .move 0 .start, .conclude 0 0 true].map
        fun a => ⟨.epoch, 0, a⟩
    let s := ((Site.new w).run xs).world.stores
    let t : Staged := ⟨[e 2, e 3], []⟩
    (s.outbox.records.map (fun r => (r.id, r.status)) = [(.ofNat 1, .processed)] ∧
        s.outbox.keyTaken (e 2).dedupeKey = false) ∧
      (∃ o, s.outbox.enqueue (e 2) = (.inserted (.ofNat 2), o) ∧
        o.records = s.outbox.records ++ [(e 2).record]) ∧
      ∃ s', t.commit s = .ok s' ∧ s'.outbox.records = s.outbox.records ++ [(e 2).record, (e 3).record] := by
  intro w e xs s t
  obtain ⟨⟨o, ho, hgains⟩, s', hs', hgains'⟩ := enqueue_gains s (e 2) t
  exact ⟨⟨by decide +kernel, rfl⟩, ⟨o, ho, hgains.added (by decide +kernel)⟩,
    s', hs', hgains'.added (by decide +kernel)⟩

/-- An event that was delivered is enqueued again, alone or by a unit of work.  Its processed record is
gone, and a pending one waits to be delivered. -/
theorem enqueue_replaces :
    let w : World := { (default : World) with lease := .ofSecs 60 }
    let e : Event := Event.create (.ofNat 1) "Todo" (.ofNat 7) "todos" "TODO_CREATED" .null .epoch
    let xs : List (Step Unit) :=
      [.enqueue e, .tick 0 .standard, .claim 0, .move 0 .start, .conclude 0 0 true].map
        fun a => ⟨.epoch, 0, a⟩
    let s := ((Site.new w).run xs).world.stores
    let seen (o : Store) := o.records.map fun r => (r.id, r.status, r.processedAt)
    seen s.outbox = [(.ofNat 1, .processed, some .epoch)] ∧
      (s.outbox.enqueue e).1 = .inserted (.ofNat 1) ∧
      seen (s.outbox.enqueue e).2 = [(.ofNat 1, .pending, none)] ∧
      ((⟨[e], []⟩ : Staged).commit s).toOption.map (fun s' => seen s'.outbox) =
        some [(.ofNat 1, .pending, none)] := by
  decide +kernel

end Stores

end Outbox
