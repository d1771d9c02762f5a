import Outbox.Proofs.Effect

/-!
# No event is delivered early

An event says from when on it may be delivered.  The time in its record is written anew by every claim,
every retry and every requeue.  What survives all of them: a record that was ever touched is that of an
event whose time had come, because nobody but a claim touches it first, and a claim takes what is due.

* `Ripe`            the time of an event has come;
* `Patient`         every stored record is as it was enqueued or that of a ripe event, and relays hold
                    records of ripe events only;
* `Effect.patient`  whatever happens, it stays so;
* `Effect.called`   only what a relay holds is published;
* `Forward`         what is asked of a step: the time of day is not set back, and only relays deliver;
* `never_early`     no publish begins before the time of its event, in any run.
-/

namespace Outbox

open Relay (Batch)
open Scenario (World)

namespace Site

variable {α : Type}

/-- The event with this id may be delivered by now. -/
def Ripe (now : Timestamp) (committed : List Event) (id : Uuid) : Prop :=
  ∃ e ∈ committed, e.id = id ∧ e.record.availableAt ≤ now

theorem Ripe.mono {now now' : Timestamp} {c c' : List Event} {id : Uuid} (h : Ripe now c id)
    (hnow : now ≤ now') (hc : ∀ e ∈ c, e ∈ c') : Ripe now' c' id := by
  obtain ⟨e, he, hid, hdue⟩ := h
  exact ⟨e, hc e he, hid, Int.le_trans hdue hnow⟩

structure Patient (now : Timestamp) (v : View) : Prop where
  /-- Nobody has touched the record, or its event is ripe. -/
  stored : ∀ id r, v.outbox.get? id = some r →
    (∃ e ∈ v.committed, r = e.record) ∨ Ripe now v.committed id
  held : ∀ i, ∀ q ∈ (v.relays i).held, Ripe now v.committed q.id

namespace Patient

variable {now : Timestamp} {v : View}

theorem new (now : Timestamp) (w : World) : Patient now (Site.new w : Site α).view :=
  ⟨fun _ _ h => (nomatch h), fun _ _ h => absurd h List.not_mem_nil⟩

/-- Time goes by, and more events are ripe. -/
theorem later {now' : Timestamp} (h : Patient now v) (hnow : now ≤ now') : Patient now' v where
  stored := fun id r hr => (h.stored id r hr).imp_right fun hripe => hripe.mono hnow fun _ he => he
  held := fun i q hq => (h.held i q hq).mono hnow fun _ he => he

/-- What is due is ripe. -/
theorem ripe_of_due (h : Patient now v) {r : Record} (hr : v.outbox.get? r.id = some r)
    (hdue : r.availableAt ≤ now) : Ripe now v.committed r.id := by
  rcases h.stored r.id r hr with ⟨e, he, hre⟩ | hripe
  · subst hre
    exact ⟨e, he, rfl, hdue⟩
  · exact hripe

/-- What is no longer pending was claimed once. -/
theorem ripe_of_settled (h : Patient now v) {id : Uuid} {r : Record} (hr : v.outbox.get? id = some r)
    (hst : r.status ≠ .pending) : Ripe now v.committed id := by
  rcases h.stored id r hr with ⟨e, _, hre⟩ | hripe
  · subst hre
    exact absurd rfl hst
  · exact hripe

end Patient

/-! ## one step -/

variable {s : Site α} {a : Action α} {v : View} {ns : List Happening}

/-- Only a claim changes a record whose event is not known to be ripe, and then it is due. -/
theorem Effect.patient_stored (hv : Effect s a v ns) (h : Patient s.world.now s.view)
    (ha : a.isByHand = false) {id : Uuid} {r' : Record} (hr' : v.outbox.get? id = some r') :
    (∃ e ∈ v.committed, r' = e.record) ∨ Ripe s.world.now v.committed id := by
  cases hv with
  | stored _ es =>
    have hold : ∀ e ∈ s.committed, e ∈ s.committed ++ es := fun e he => List.mem_append_left es he
    have hr' : (es.foldl (fun o e => o.put e.record) s.outbox).get? id = some r' := hr'
    rcases get?_putAll_cases es s.outbox id with hg | ⟨e, he, _, hg⟩
    · rw [hg] at hr'
      rcases h.stored id r' hr' with ⟨e, he, hre⟩ | hripe
      · exact Or.inl ⟨e, hold e he, hre⟩
      · exact Or.inr (hripe.mono (Int.le_refl _) hold)
    · rw [hg] at hr'
      injection hr' with hr'
      exact Or.inl ⟨e, List.mem_append_right s.committed he, hr'.symm⟩
  | @claimed i config time hr =>
    have hr' : (s.outbox.claim s.world.now s.world.lease config.batchSize).2.get? id = some r' := hr'
    rcases Store.get?_claim_cases s.world.now s.world.lease config.batchSize s.outbox id with
      hsame | ⟨r, hr, _, hdue, _⟩
    · exact h.stored id r' (hsame.symm.trans hr')
    · obtain rfl : r.id = id := Store.get?_id hr
      exact Or.inr (h.ripe_of_due hr hdue)
  | @settled i c k t o report _ _ hr ho hw =>
    by_cases hid : id = o.record.id
    · subst hid
      have hplace : .ended o ∈ (s.relays i).places := by
        rw [hr]
        exact (Batch.places_settled ho t.report).mem_iff.2 List.mem_cons_self
      exact Or.inr (h.held i o.record (Post.record_mem_held hplace))
    · refine h.stored id r' ((Store.get?_write hw ?_).symm.trans hr')
      rwa [Relay.writeFor_id]
  | requeued hrequeue =>
    obtain ⟨r, hr, hst, hout⟩ := Store.get?_requeue hrequeue
    rw [hout id] at hr'
    split at hr'
    · rename_i hid
      subst hid
      exact Or.inr (h.ripe_of_settled hr (by rw [hst]; decide))
    · exact h.stored id r' hr'
  | @purged time =>
    rcases Store.get?_purge_cases time s.outbox id with hg | ⟨_, _, _, hg⟩
    · exact h.stored id r' (hg.symm.trans hr')
    · cases hg.symm.trans hr'
  | taken => cases ha
  | overwritten _ => cases ha
  | _ => exact h.stored id r' hr'

/-- **The time of an event is waited for**, whatever happens to its record. -/
theorem Effect.patient (hv : Effect s a v ns) (h : Patient s.world.now s.view)
    (ha : a.isByHand = false) : Patient s.world.now v := by
  refine ⟨fun id r' hr' => hv.patient_stored h ha hr', fun i q hq => ?_⟩
  rcases hv.dwindles with hd | ⟨j, config, time, hr, rfl⟩
  · obtain ⟨es, hes, _⟩ := hv.fates ha
    obtain ⟨gone, hp⟩ := (hd i).held
    have hheld : Ripe s.world.now s.committed q.id :=
      h.held i q (hp.mem_iff.2 (List.mem_append_right gone hq))
    exact hheld.mono (Int.le_refl _) fun e he => hes ▸ List.mem_append_left es he
  by_cases hij : i = j
  · subst hij
    have hq : q ∈ ((s.view.setRelay i _).relays i).held := hq
    rw [View.relays_setRelay_self, Post.held, Post.places, Batch.map_record_places,
      Batch.records_ofRecords] at hq
    obtain ⟨hg, _, hdue⟩ := Store.mem_claim hq
    exact h.ripe_of_due hg hdue
  · have hq : q ∈ ((s.view.setRelay j _).relays i).held := hq
    rw [View.relays_setRelay_ne hij] at hq
    exact h.held i q hq

/-- A publish that begins is of a record that a relay holds. -/
theorem Effect.called (hv : Effect s a v ns) {id : Uuid} (hid : .called id ∈ ns) :
    ∃ i, ∃ q ∈ (s.relays i).held, q.id = id := by
  cases hv with
  | stored _ es =>
    obtain ⟨e, _, he⟩ := List.mem_map.1 hid
    cases he
  | @started i c t r rest hr hw hf =>
    cases List.mem_singleton.1 hid
    have hplace : .waiting r ∈ (s.relays i).places := by
      rw [hr]
      show _ ∈ t.places
      rw [Batch.places_late hw t.report]
      exact List.mem_cons_self
    exact ⟨i, r, Post.record_mem_held hplace, rfl⟩
  | landed _ _ _ => cases List.mem_singleton.1 hid
  | requeued _ => cases List.mem_singleton.1 hid
  | _ => cases hid

theorem not_called_conclude {i k : Nat} {inTime : Bool} {id : Uuid} :
    .called id ∉ s.news (.conclude i k inTime) := by
  intro hid
  obtain ⟨o, _, ho⟩ := List.mem_map.1 hid
  cases ho

theorem called_of_began {i : Nat} {id : Uuid}
    (h : id ∈ ((s.move i .start).publishes.drop s.publishes.length).map Publish.id) :
    .called id ∈ s.news (.move i .start) := by
  obtain ⟨p, hp, rfl⟩ := List.mem_map.1 h
  exact List.mem_map.2 ⟨p, hp, rfl⟩

/-! ## runs -/

/-- what is asked of a step: the time of day is not set back, and only relays deliver -/
structure Forward (s : Site α) (x : Step α) : Prop where
  later : s.world.now ≤ (s.atTime x.start x.elapsed).world.now
  ordinary : s.Ordinary x

instance (s : Site α) (x : Step α) : Decidable (Forward s x) :=
  decidable_of_iff (s.world.now ≤ (s.atTime x.start x.elapsed).world.now ∧ s.Ordinary x)
    ⟨fun ⟨h₁, h₂⟩ => ⟨h₁, h₂⟩, fun h => ⟨h.later, h.ordinary⟩⟩

/-- The time of day stands still while something happens. -/
theorem now_act (a : Action α) (s : Site α) : (s.act a).world.now = s.world.now := by
  obtain ⟨hs, he, _⟩ := act_clock a s
  unfold World.now
  rw [hs, he]

theorem Patient.next {x : Step α} (h : Patient s.world.now s.view) (hx : Forward s x) :
    Patient (s.next x).world.now (s.next x).view := by
  have hids : ((s.next x).committed.map Event.id).Nodup := (List.nodup_append.1 hx.ordinary.1).2.1
  refine act_effects (I := fun s _ => Patient s.world.now s.view) (P := fun _ a => a.isByHand = false)
    (l := []) (fun _ _ _ _ _ => ⟨rfl, rfl⟩) ?_ (s := s.atTime x.start x.elapsed) (h.later hx.later)
    hx.ordinary.2 hids
  intro s a _ h ha hv _
  rw [now_act]
  exact hv.patient h ha

/-- **No event is delivered early.**  Any number of relays work on an outbox that was empty at first, and
write outcomes at any time after their publishes, while events are enqueued, units of work come and go,
dead letters are requeued and old records are purged.  Whenever a publish of a record begins, the time
from which on its event may be delivered has come. -/
theorem never_early (w : World) (xs : List (Step α)) (x : Step α)
    (hxs : (Site.new w).RunOk Forward (xs ++ [x])) {id : Uuid}
    (hid : .called id ∈ (((Site.new w).run xs).atTime x.start x.elapsed).news x.action) :
    (∃ e ∈ ((Site.new w).run xs).committed, e.id = id) ∧
      ∀ e ∈ ((Site.new w).run xs).committed, e.id = id →
        e.record.availableAt ≤ (((Site.new w).run xs).atTime x.start x.elapsed).world.now := by
  obtain ⟨hbefore, hx, _⟩ := hxs.split
  have hpatient := run_keeps (I := fun s => Patient s.world.now s.view) (fun _ _ h hx => h.next hx)
    (.new _ w) hbefore
  generalize (Site.new w).run xs = s at hid hx hpatient
  have hnow : Patient (s.atTime x.start x.elapsed).world.now (s.atTime x.start x.elapsed).view :=
    hpatient.later hx.later
  have heffect := act_effect (a := x.action)
    (fun i k inTime ha => not_called_conclude (ha ▸ hid)) (s.atTime x.start x.elapsed)
  obtain ⟨i, q, hq, rfl⟩ := heffect.called hid
  obtain ⟨e, he, heq, hdue⟩ := hnow.held i q hq
  refine ⟨⟨e, he, heq⟩, fun e' he' heq' => ?_⟩
  obtain ⟨es, hes, _⟩ := heffect.fates hx.ordinary.2
  have hids : ((s.atTime x.start x.elapsed).committed.map Event.id).Nodup := by
    have hafter : ((s.next x).committed.map Event.id).Nodup :=
      (List.nodup_append.1 hx.ordinary.1).2.1
    rw [show (s.next x).committed = _ from hes, List.map_append] at hafter
    exact (List.nodup_append.1 hafter).1
  rw [List.inj_on_of_nodup_map hids he' he (heq'.trans heq.symm)]
  exact hdue

/-- An event is held back for five seconds.  A tick before that finds nothing.  Then its publish fails, it
becomes a dead letter and is requeued, and is published again. -/
theorem never_early_requeued :
    let w : World := { (default : World) with lease := .ofSecs 60 }
    let e : Event :=
      { Event.create (.ofNat 1) "Todo" (.ofNat 7) "todos" "TODO_CREATED" .null .epoch with
        maxRetries := 0, availableAt := Timestamp.epoch.later? 5000000000 }
    let second := 1000000000
    let xs : List (Step Unit) :=
      [⟨.epoch, 0, .enqueue e⟩, ⟨.epoch, 0, .script [.unavailable "no"] [] none []⟩,
        ⟨.epoch, 4 * second, .tick 0 .standard⟩, ⟨.epoch, 4 * second, .claim 0⟩,
        ⟨.epoch, 4 * second, .move 0 .start⟩, ⟨.epoch, 5 * second, .tick 1 .standard⟩,
        ⟨.epoch, 5 * second, .claim 1⟩, ⟨.epoch, 5 * second, .move 1 .start⟩,
        ⟨.epoch, 6 * second, .conclude 1 0 true⟩, ⟨.epoch, 6 * second, .requeue (.ofNat 1)⟩,
        ⟨.epoch, 6 * second, .tick 1 .standard⟩, ⟨.epoch, 6 * second, .claim 1⟩]
    let x : Step Unit := ⟨.epoch, 7 * second, .move 1 .start⟩
    let s := (Site.new w).run xs
    ((Site.new w).RunOk Forward (xs ++ [x]) ∧
        (s.next x).publishes.map (fun p => (p.relay, p.id, p.began)) =
          [(1, .ofNat 1, 5 * second), (1, .ofNat 1, 7 * second)]) ∧
      ∃ e ∈ s.committed, e.id = .ofNat 1 ∧
        e.record.availableAt ≤ (s.atTime x.start x.elapsed).world.now := by
  intro w e second xs x s
  have hxs : (Site.new w).RunOk Forward (xs ++ [x]) := by decide +kernel
  have hid : .called (.ofNat 1) ∈ (s.atTime x.start x.elapsed).news x.action :=
    called_of_began (by decide +kernel)
  obtain ⟨⟨e, he, heq⟩, hdue⟩ := never_early w xs x hxs hid
  exact ⟨⟨hxs, by decide +kernel⟩, e, he, heq, hdue e he heq⟩

end Site
end Outbox
