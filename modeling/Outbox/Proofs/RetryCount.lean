import Outbox.Proofs.Lease
import Outbox.Proofs.Lifecycle

/-!
# Retry counts only grow

A relay writes the count that it claimed, or one more.  That is not less than the count in the store as
long as the claim is live, since until then nobody else can claim the record.  An outcome that is written
after its claim has run out may find a record that others have claimed and failed to publish since; the
store takes it all the same.

* `Unhurried`, `Punctual`   outcomes are written at any time, or before their claim has run out;
* `UpToDate`                what live claims hold is as it is stored, and hidden from other claims;
* `Effect.upToDate`         whatever happens, it stays so while writes are punctual;
* `Fate.retryCount_le`      and nothing that happens to a record lowers its count;
* `retryCount_mono`         while they are, no count ever falls;
* `retryCount_lowered`      an outcome written late lowers one.
-/

namespace Outbox

open Relay (Batch)
open Scenario (World)

namespace Action

variable {α : Type}

/-- the relay that writes an outcome -/
def writer? : Action α → Option Nat
  | .move i (.settle _) => some i
  | .conclude i _ _ => some i
  | _ => none

def isRequeue : Action α → Bool
  | .requeue _ => true
  | _ => false

end Action

namespace Site

variable {α : Type}

/-! ## steps -/

/-- what is asked of a step: there is one clock, which does not go backward and does not reach the end of
time; publishes end in time, only relays deliver, and nothing is requeued -/
structure Unhurried (s : Site α) (x : Step α) : Prop where
  clock : x.start = s.world.start
  later : s.world.elapsed ≤ x.elapsed
  inRange : (x.start.add? (.ofNanos x.elapsed)).any (· < .max) = true
  inTime : ∀ p ∈ s.publishes, p.ended = none → x.elapsed ≤ p.deadline
  fresh : s.Fresh x
  byRelays : x.action.isByHand = false
  noRequeue : x.action.isRequeue = false

/-- and besides, outcomes are written before their claim has run out -/
structure Punctual (s : Site α) (x : Step α) : Prop extends Unhurried s x where
  inLease : ∀ i ∈ x.action.writer?, ∀ c ∈ (s.relays i).claimedAt?,
    x.elapsed < c + s.world.lease.nanos

instance (s : Site α) (x : Step α) : Decidable (Unhurried s x) :=
  decidable_of_iff
    (x.start = s.world.start ∧ s.world.elapsed ≤ x.elapsed ∧
      (x.start.add? (.ofNanos x.elapsed)).any (· < .max) = true ∧
      (∀ p ∈ s.publishes, p.ended = none → x.elapsed ≤ p.deadline) ∧ s.Fresh x ∧
      x.action.isByHand = false ∧ x.action.isRequeue = false)
    ⟨fun ⟨h₁, h₂, h₃, h₄, h₅, h₆, h₇⟩ => ⟨h₁, h₂, h₃, h₄, h₅, h₆, h₇⟩,
      fun h => ⟨h.clock, h.later, h.inRange, h.inTime, h.fresh, h.byRelays, h.noRequeue⟩⟩

instance (s : Site α) (x : Step α) : Decidable (Punctual s x) :=
  decidable_of_iff
    (Unhurried s x ∧ ∀ i ∈ x.action.writer?, ∀ c ∈ (s.relays i).claimedAt?,
      x.elapsed < c + s.world.lease.nanos)
    ⟨fun ⟨h, hl⟩ => ⟨h, hl⟩, fun h => ⟨h.toUnhurried, h.inLease⟩⟩

/-! ## live claims -/

/-- The record is available again when a claim made at the time `c` runs out. -/
def HiddenSince (w : World) (c : Nat) (r : Record) : Prop :=
  ∃ t, w.start.later? c = some t ∧ r.availableAt = t.addOrMax w.lease

/-- What relays hold under live claims is as it is stored, and hidden from all others. -/
structure UpToDate (w : World) (v : View) : Prop extends v.Sourced where
  hidden : ∀ i c, (v.relays i).claimedAt? = some c → Live w c → ∀ q ∈ (v.relays i).held,
    ∃ a, v.outbox.get? q.id = some a ∧ a.status = .pending ∧ a.retryCount = q.retryCount ∧
      HiddenSince w c a
  distinct : ∀ i c, (v.relays i).claimedAt? = some c → Live w c →
    ((v.relays i).held.map Record.id).Nodup
  /-- No record is held under two live claims. -/
  apart : ∀ i j c d, (v.relays i).claimedAt? = some c → (v.relays j).claimedAt? = some d →
    Live w c → Live w d → ∀ q ∈ (v.relays i).held, ∀ r ∈ (v.relays j).held, q.id = r.id → i = j

/-- what holds of the clock at the moment of a step -/
structure Reading (w : World) : Prop where
  now : w.start.later? w.elapsed = some w.now
  notLast : w.now < .max

/-- Until its claim has run out a record is not due. -/
theorem HiddenSince.not_due {w : World} {c : Nat} {r : Record} (h : HiddenSince w c r) (hw : Reading w)
    (hc : Live w c) : ¬ r.availableAt ≤ w.now := by
  obtain ⟨t, ht, hr⟩ := h
  rw [hr]
  cases hu : t.add? w.lease with
  | none =>
    rw [Timestamp.addOrMax_of_none hu]
    exact Int.not_le.2 hw.notLast
  | some u =>
    have hlater : w.start.later? (c + w.lease.nanos) = some u :=
      (Timestamp.later?_later? ht _).symm.trans (Timestamp.add?_some hu).2
    rw [Timestamp.addOrMax_of_add? hu, Timestamp.later?_le_iff hlater hw.now]
    exact Nat.not_le_of_lt hc

namespace UpToDate

variable {w : World} {v v' : View}

theorem new (w : World) : UpToDate (Site.new w : Site α).world (Site.new w : Site α).view where
  toSourced := .new w
  hidden := nofun
  distinct := nofun
  apart := nofun

/-- Time goes by, and fewer claims are live. -/
theorem later {w' : World} (h : UpToDate w v) (hs : w'.start = w.start) (hl : w'.lease = w.lease)
    (he : w.elapsed ≤ w'.elapsed) : UpToDate w' v := by
  have hlive {c : Nat} (hc : Live w' c) : Live w c := by
    unfold Live at hc ⊢
    rw [hl] at hc
    exact Nat.lt_of_le_of_lt he hc
  refine ⟨h.toSourced, fun i c hi hc q hq => ?_, fun i c hi hc => h.distinct i c hi (hlive hc),
    fun i j c d hi hj hc hd => h.apart i j c d hi hj (hlive hc) (hlive hd)⟩
  unfold HiddenSince
  rw [hs, hl]
  exact h.hidden i c hi (hlive hc) q hq

/-- Relays hold no more than before, and the store keeps what they hold under live claims. -/
theorem frame (h : UpToDate w v) (hs : v'.Sourced) (hr : ∀ i, (v.relays i).Dwindles (v'.relays i))
    (hg : ∀ i c, (v'.relays i).claimedAt? = some c → Live w c → ∀ q ∈ (v'.relays i).held,
      v'.outbox.get? q.id = v.outbox.get? q.id) : UpToDate w v' := by
  have hold {i : Nat} {q : Record} (hq : q ∈ (v'.relays i).held) : q ∈ (v.relays i).held := by
    obtain ⟨gone, hp⟩ := (hr i).held
    exact hp.mem_iff.2 (List.mem_append_right gone hq)
  refine ⟨hs, fun i c hi hc q hq => ?_, fun i c hi hc => ?_, fun i j c d hi hj hc hd q hq r hr' => ?_⟩
  · rw [hg i c hi hc q hq]
    exact h.hidden i c ((hr i).claimed c hi) hc q (hold hq)
  · obtain ⟨gone, hp⟩ := (hr i).held
    have hn := (hp.map Record.id).nodup_iff.1 (h.distinct i c ((hr i).claimed c hi) hc)
    rw [List.map_append] at hn
    exact (List.nodup_append.1 hn).2.1
  · exact h.apart i j c d ((hr i).claimed c hi) ((hr j).claimed d hj) hc hd q (hold hq) r (hold hr')

/-- What is held under a live claim is not due, and so it is not claimed. -/
theorem ne_of_claimed (h : UpToDate w v) (hw : Reading w) {i c : Nat}
    (hi : (v.relays i).claimedAt? = some c) (hc : Live w c) {r : Record} (hr : r ∈ (v.relays i).held)
    {limit : Nat} {q : Record} (hq : q ∈ (v.outbox.claim w.now w.lease limit).1) : q.id ≠ r.id := by
  obtain ⟨a, ha, _, _, hhidden⟩ := h.hidden i c hi hc r hr
  obtain ⟨hg, _, hdue⟩ := Store.mem_claim hq
  intro hid
  rw [hid] at hg
  cases ha.symm.trans hg
  exact hhidden.not_due hw hc hdue

/-- What is claimed now is held under no other live claim. -/
theorem claim {s : Site α} (h : UpToDate s.world s.view) (hw : Reading s.world) {i : Nat}
    {t : Batch} {limit : Nat}
    (ht : t.places = (s.outbox.claim s.world.now s.world.lease limit).1.map .waiting) {v : View}
    (hs : v.Sourced)
    (hv : v =
      { s.view.setRelay i (.busy s.world.elapsed t) with
        outbox := (s.outbox.claim s.world.now s.world.lease limit).2 }) : UpToDate s.world v := by
  have hself : v.relays i = .busy s.world.elapsed t := by
    rw [hv]
    exact View.relays_setRelay_self i _ s.view
  have hother {j : Nat} (hji : j ≠ i) : v.relays j = s.relays j := by
    rw [hv]
    exact View.relays_setRelay_ne hji _ s.view
  have hheld : (v.relays i).held = (s.outbox.claim s.world.now s.world.lease limit).1 := by
    rw [hself, Post.held, Post.places, ht, List.map_map]
    exact List.map_id _
  have hbatch {q : Record} (hq : q ∈ (v.relays i).held) :
      q ∈ (s.outbox.claim s.world.now s.world.lease limit).1 := hheld ▸ hq
  have hout : v.outbox = (s.outbox.claim s.world.now s.world.lease limit).2 := by rw [hv]
  have hfree {j c : Nat} (hji : j ≠ i) (hj : (v.relays j).claimedAt? = some c) (hc : Live s.world c)
      {r : Record} (hr : r ∈ (v.relays j).held) {q : Record} (hq : q ∈ (v.relays i).held) :
      q.id ≠ r.id := by
    rw [hother hji] at hj hr
    exact h.ne_of_claimed hw hj hc hr (hbatch hq)
  refine ⟨hs, fun j c hj hc q hq => ?_, fun j c hj hc => ?_, fun j k c d hj hk hc hd q hq r hr hid => ?_⟩
  · rw [hout]
    by_cases hji : j = i
    · subst hji
      rw [hself] at hj
      cases hj
      have hpending := (Store.mem_claim (hbatch hq)).2.1
      exact ⟨_, Store.get?_claim_of_mem (hbatch hq), hpending, rfl, s.world.now, hw.now, rfl⟩
    · rw [Store.get?_claim_of_notMem fun a ha =>
        hfree hji hj hc hq (show a ∈ (v.relays i).held from hheld ▸ ha)]
      rw [hother hji] at hj hq
      exact h.hidden j c hj hc q hq
  · by_cases hji : j = i
    · subst hji
      rw [hheld]
      exact Store.claim_nodup s.outbox _ _ _
    · rw [hother hji] at hj ⊢
      exact h.distinct j c hj hc
  · by_cases hji : j = i
    · subst hji
      by_cases hkj : k = j
      · exact hkj.symm
      · exact absurd hid (hfree hkj hk hd hr hq)
    · by_cases hki : k = i
      · subst hki
        exact absurd hid.symm (hfree hji hj hc hq hr)
      · rw [hother hji] at hj hq
        rw [hother hki] at hk hr
        exact h.apart j k c d hj hk hc hd q hq r hr hid

/-- Nobody holds, under a live claim, the record whose outcome is written under one. -/
theorem ne_of_settled (h : UpToDate w v) {i c : Nat} {t t' : Batch} {o : Relay.Outcome}
    (hr : v.relays i = .busy c t) (hc : Live w c) (hp : t.places.Perm (.ended o :: t'.places)) {j d : Nat}
    (hj : ((v.setRelay i (.busy c t')).relays j).claimedAt? = some d) (hd : Live w d) {q : Record}
    (hq : q ∈ ((v.setRelay i (.busy c t')).relays j).held) : q.id ≠ o.record.id := by
  have hheld : (v.relays i).held.Perm (o.record :: (Post.busy c t').held) := by
    rw [hr]
    exact hp.map Batch.Place.record
  have hclaimed : (v.relays i).claimedAt? = some c := by
    rw [hr]
    rfl
  intro hid
  by_cases hji : j = i
  · subst hji
    rw [View.relays_setRelay_self] at hq
    have hn := (hheld.map Record.id).nodup_iff.1 (h.distinct j c hclaimed hc)
    rw [List.map_cons, List.nodup_cons] at hn
    exact hn.1 (List.mem_map.2 ⟨q, hq, hid⟩)
  · rw [View.relays_setRelay_ne hji] at hj hq
    exact hji (h.apart j i d c hj hclaimed hd hc q hq _ (hheld.mem_iff.2 List.mem_cons_self) hid)

end UpToDate

/-- what keeps live claims up to date: only relays deliver, and they write outcomes under live claims -/
structure Covered (s : Site α) (a : Action α) : Prop where
  reading : Reading s.world
  byRelays : a.isByHand = false
  inLease : ∀ i ∈ a.writer?, ∀ c ∈ (s.relays i).claimedAt?, Live s.world c

/-- what `Punctual` gives at the moment of a step -/
structure Fitting (s : Site α) (a : Action α) : Prop where
  reading : Reading s.world
  byRelays : a.isByHand = false
  noRequeue : a.isRequeue = false
  inLease : ∀ i ∈ a.writer?, ∀ c ∈ (s.relays i).claimedAt?, Live s.world c

theorem Fitting.covered {s : Site α} {a : Action α} (h : Fitting s a) : Covered s a :=
  ⟨h.reading, h.byRelays, h.inLease⟩

/-- A clock that shows a time in the range reads it. -/
theorem reading_atTime {s : Site α} {x : Step α}
    (h : (x.start.add? (.ofNanos x.elapsed)).any (· < .max) = true) :
    Reading (s.atTime x.start x.elapsed).world := by
  obtain ⟨now, hnow, hlast⟩ := (Option.any_eq_true ..).1 h
  have hw : (s.atTime x.start x.elapsed).world.now = now := Timestamp.addOrMax_of_add? hnow
  constructor
  · rw [hw]
    exact Timestamp.later?_of_add?_ofNanos hnow
  · rw [hw]
    exact of_decide_eq_true hlast

theorem Punctual.fitting {s : Site α} {x : Step α} (hx : Punctual s x) :
    Fitting (s.atTime x.start x.elapsed) x.action :=
  ⟨reading_atTime hx.inRange, hx.byRelays, hx.noRequeue, hx.inLease⟩

theorem claimedAt?_move (i : Nat) (m : Relay.Move) (s : Site α) :
    ((s.move i m).relays i).claimedAt? = (s.relays i).claimedAt? := by
  rcases move_cases i m s with hs | ⟨c, t, t', world, hr, _, hs⟩
  · rw [hs]
  · rw [hs, relays_setRelay_self, hr]
    rfl

/-- A publish ends and its outcome is written in one step. -/
theorem Covered.land {s : Site α} {i k : Nat} {inTime : Bool} (h : Covered s (.conclude i k inTime)) :
    Covered s (.move i (.land k inTime)) ∧
      Covered (s.act (.move i (.land k inTime))) (.move i (.settle (s.unwritten i))) := by
  obtain ⟨hs, he, hl⟩ := act_clock (.move i (.land k inTime)) s
  refine ⟨⟨h.reading, rfl, nofun⟩, ⟨?_, ?_⟩, rfl, fun j hj c hc => ?_⟩
  · unfold World.now
    rw [hs, he]
    exact h.reading.now
  · unfold World.now
    rw [hs, he]
    exact h.reading.notLast
  · cases hj
    unfold Live
    rw [he, hl]
    exact h.inLease i rfl c ((claimedAt?_move i _ s).symm.trans hc)

theorem Fitting.land {s : Site α} {i k : Nat} {inTime : Bool} (h : Fitting s (.conclude i k inTime)) :
    Fitting s (.move i (.land k inTime)) ∧
      Fitting (s.act (.move i (.land k inTime))) (.move i (.settle (s.unwritten i))) := by
  obtain ⟨hland, hsettle⟩ := h.covered.land
  exact ⟨⟨hland.reading, rfl, rfl, hland.inLease⟩, ⟨hsettle.reading, rfl, rfl, hsettle.inLease⟩⟩

/-- **What live claims hold stays up to date** while outcomes are written under them. -/
theorem Effect.upToDate {s : Site α} {a : Action α} {v : View} {ns : List Happening}
    (hv : Effect s a v ns) (h : UpToDate s.world s.view) (ha : Covered s a)
    (hids : (v.committed.map Event.id).Nodup) : UpToDate s.world v := by
  have hs := h.toSourced.effect hv ha.byRelays
  rcases hv.dwindles with hd | ⟨i, config, time, hr, rfl⟩
  case inr => exact h.claim ha.reading (Batch.places_ofRecords _ _ _ _) hs rfl
  cases hv with
  | stored _ es =>
    refine h.frame hs hd fun i c hi hc q hq => get?_putAll fun hmem => ?_
    obtain ⟨e, he, hf⟩ := h.held i q hq
    have hold : q.id ∈ s.committed.map Event.id :=
      List.mem_map.2 ⟨e, he, (Record.id_eq_of_fixed hf).symm⟩
    rw [List.map_append, List.nodup_append] at hids
    exact hids.2.2 _ hold _ hmem rfl
  | @claimed i config time hr =>
    -- a relay that claims does not dwindle
    have hc := (hd i).claimed s.world.elapsed (congrArg _ (View.relays_setRelay_self i _ s.view))
    rw [hr] at hc
    cases hc
  | @settled i c k t o report delay outbox hr ho hwrite =>
    have hc : Live s.world c := ha.inLease i rfl c (by rw [hr]; rfl)
    refine h.frame hs hd fun j d hj hlive q hq => Store.get?_write hwrite ?_
    rw [Relay.writeFor_id]
    exact h.ne_of_settled hr hc (Batch.places_settled ho report) hj hlive hq
  | requeued hrequeue =>
    -- only failed records are requeued
    refine h.frame hs hd fun i c hi hc q hq => ?_
    obtain ⟨a, hg, hst, _⟩ := h.hidden i c hi hc q hq
    obtain ⟨r, hr, hfailed, hout⟩ := Store.get?_requeue hrequeue
    refine (hout q.id).trans (if_neg fun hid => ?_)
    rw [hid] at hg
    cases (show s.outbox.get? _ = some a from hg).symm.trans hr
    cases hst.symm.trans hfailed
  | @purged time =>
    refine h.frame hs hd fun i c hi hc q hq => ?_
    obtain ⟨a, hg, hst, _⟩ := h.hidden i c hi hc q hq
    rcases Store.get?_purge_cases time s.outbox q.id with hsame | ⟨r, hr, hp, _⟩
    · exact hsame
    · cases (show s.outbox.get? q.id = some a from hg).symm.trans hr
      cases hst.symm.trans hp
  | taken => cases ha.byRelays
  | overwritten _ => cases ha.byRelays
  | _ => exact h.frame hs hd fun _ _ _ _ _ _ => rfl

/-! ## counts -/

/-- No fate lowers a count, unless an outcome is written after its claim has run out. -/
theorem Fate.retryCount_le {s : Site α} {a : Action α} {es : List Event} {id : Uuid} {r r' : Record}
    (h : Fate s a es id (some r) (some r')) (hup : UpToDate s.world s.view) (ha : Fitting s a)
    (hg : s.outbox.get? id = some r) (hnew : id ∉ es.map Event.id) : r.retryCount ≤ r'.retryCount := by
  cases h with
  | same => exact UInt32.le_refl _
  | stored he hid => exact absurd (List.mem_map.2 ⟨_, he, hid⟩) hnew
  | hidden _ => exact UInt32.le_refl _
  | @written i k o _ _ hsettle ho hid hw =>
    obtain ⟨c, hc⟩ := Post.claimedAt?_of_mem_places ho
    have hlive : Live s.world c := ha.inLease i (by rw [hsettle]; rfl) c hc
    obtain ⟨b, hb, _, hcount, _⟩ := hup.hidden i c hc hlive o.record (Post.record_mem_held ho)
    rw [hid] at hb
    cases hg.symm.trans hb
    rw [hcount]
    cases hw with
    | delivered _ _ => exact UInt32.le_refl _
    | failed _ _ =>
      rw [Store.retryCount_outcome]
      exact Relay.le_oneMore _
  | requeued hrequeue _ =>
    have hno := ha.noRequeue
    rw [hrequeue] at hno
    cases hno

/-! ## runs -/

/-- The record with this id counts at least `n` retries, and no other will get the id. -/
structure Floor (id : Uuid) (n : UInt32) (w : World) (v : View) : Prop extends UpToDate w v where
  known : n = 0 ∨ id ∈ v.committed.map Event.id
  atLeast : ∀ r, v.outbox.get? id = some r → n ≤ r.retryCount

namespace Floor

variable {id : Uuid} {n : UInt32} {s : Site α}

theorem new (id : Uuid) (w : World) :
    Floor id 0 (Site.new w : Site α).world (Site.new w : Site α).view :=
  ⟨.new w, Or.inl rfl, fun _ _ => UInt32.zero_le⟩

theorem raise (h : Floor id n s.world s.view) {r : Record} (hr : s.outbox.get? id = some r) :
    Floor id r.retryCount s.world s.view where
  toUpToDate := h.toUpToDate
  known := by
    obtain ⟨e, he, hf⟩ := h.stored id r hr
    have hid : e.id = id := (Record.id_eq_of_fixed hf).symm.trans (Store.get?_id hr)
    exact Or.inr (hid ▸ List.mem_map_of_mem he)
  atLeast := fun r' hr' => by
    cases hr.symm.trans hr'
    exact UInt32.le_refl _

theorem effect {a : Action α} {v : View} {ns : List Happening} (h : Floor id n s.world s.view)
    (ha : Fitting s a) (hv : Effect s a v ns) (hids : (v.committed.map Event.id).Nodup) :
    Floor id n s.world v := by
  obtain ⟨es, hes, hfates⟩ := hv.fates ha.byRelays
  refine ⟨hv.upToDate h.toUpToDate ha.covered hids, ?_, fun r' hr' => ?_⟩
  · rw [hes, List.map_append]
    exact h.known.imp_right (List.mem_append_left _)
  rcases h.known with rfl | hknown
  · exact UInt32.zero_le
  rw [hes, List.map_append, List.nodup_append] at hids
  have hnew : id ∉ es.map Event.id := fun hmem => hids.2.2 id hknown id hmem rfl
  have hfate := hfates id
  rw [hr'] at hfate
  cases hr : s.outbox.get? id with
  | none =>
    -- what is gone does not come back, since its id is not used again
    rw [hr] at hfate
    rcases hfate.origin with ⟨e, he, hid, _⟩ | ⟨_, hnone, _⟩
    · exact absurd (List.mem_map.2 ⟨e, he, hid⟩) hnew
    · cases hnone
  | some r =>
    rw [hr] at hfate
    exact UInt32.le_trans (h.atLeast r hr) (hfate.retryCount_le h.toUpToDate ha hr hnew)

theorem act {a : Action α} (h : Floor id n s.world s.view) (ha : Fitting s a)
    (hids : ((s.act a).committed.map Event.id).Nodup) : Floor id n (s.act a).world (s.act a).view := by
  refine act_effects (I := fun s _ => Floor id n s.world s.view) (P := Fitting) (l := [])
    (fun _ _ _ _ hok => hok.land) ?_ h ha hids
  intro s a _ h hok hv hids
  obtain ⟨hs, he, hl⟩ := act_clock a s
  have hfloor := h.effect hok hv hids
  exact ⟨hfloor.toUpToDate.later hs hl (Nat.le_of_eq he.symm), hfloor.known, hfloor.atLeast⟩

theorem next {x : Step α} (h : Floor id n s.world s.view) (hx : Punctual s x) :
    Floor id n (s.next x).world (s.next x).view := by
  have hids : ((s.next x).committed.map Event.id).Nodup := (List.nodup_append.1 hx.fresh).2.1
  have hlater : UpToDate (s.atTime x.start x.elapsed).world s.view :=
    h.toUpToDate.later hx.clock rfl hx.later
  exact act (s := s.atTime x.start x.elapsed) ⟨hlater, h.known, h.atLeast⟩ hx.fitting hids

end Floor

/-- **Retry counts only grow** in any number of relays that write outcomes while their claims last.  The
outbox was empty at first; meanwhile events are enqueued, units of work come and go and old records are
purged. -/
theorem retryCount_mono (w : World) (xs ys : List (Step α)) (hxs : (Site.new w).RunOk Punctual xs)
    (hys : ((Site.new w).run xs).RunOk Punctual ys) {id : Uuid} {r r' : Record}
    (hr : ((Site.new w).run xs).outbox.get? id = some r)
    (hr' : (((Site.new w).run xs).run ys).outbox.get? id = some r') : r.retryCount ≤ r'.retryCount := by
  have hbefore := run_keeps (I := fun s => Floor id 0 s.world s.view) (fun _ _ h hx => h.next hx)
    (.new id w) hxs
  have hafter := run_keeps (I := fun s => Floor id r.retryCount s.world s.view)
    (fun _ _ h hx => h.next hx) (hbefore.raise hr) hys
  exact hafter.atLeast r' hr'

/-- One relay loses its claim before it writes that it delivered the event; another claims the event
then, and fails. -/
theorem retryCount_mono_retried :
    let w : World := { (default : World) with lease := .ofSecs 60 }
    let e : Event := .create (.ofNat 1) "Todo" (.ofNat 7) "todos" "TODO_CREATED" .null .epoch
    let minute := 60 * 1000000000
    let xs : List (Step Unit) :=
      [⟨.epoch, 0, .enqueue e⟩, ⟨.epoch, 0, .tick 0 .standard⟩, ⟨.epoch, 0, .claim 0⟩,
        ⟨.epoch, 0, .move 0 .start⟩, ⟨.epoch, 1, .move 0 (.land 0 true)⟩]
    let ys : List (Step Unit) :=
      [⟨.epoch, minute, .script [.unavailable "no"] [] none []⟩, ⟨.epoch, minute, .tick 1 .standard⟩,
        ⟨.epoch, minute, .claim 1⟩, ⟨.epoch, minute, .move 1 .start⟩,
        ⟨.epoch, 1 + minute, .move 1 (.land 0 true)⟩, ⟨.epoch, 2 + minute, .move 1 (.settle 0)⟩]
    let s := (Site.new w).run xs
    ((Site.new w).RunOk Punctual xs ∧ s.RunOk Punctual ys ∧
        s.outbox.records.map (fun r => (r.id, r.status, r.retryCount)) = [(e.id, .pending, 0)] ∧
        (s.run ys).outbox.records.map (fun r => (r.id, r.status, r.retryCount)) =
          [(e.id, .pending, 1)]) ∧
      ∃ r r', s.outbox.get? e.id = some r ∧ (s.run ys).outbox.get? e.id = some r' ∧
        r.retryCount ≤ r'.retryCount := by
  intro w e minute xs ys s
  have hxs : (Site.new w).RunOk Punctual xs := by decide +kernel
  have hys : s.RunOk Punctual ys := by decide +kernel
  have hsome : (s.outbox.get? e.id).isSome = true := by decide +kernel
  have hsome' : ((s.run ys).outbox.get? e.id).isSome = true := by decide +kernel
  obtain ⟨r, hr⟩ := Option.isSome_iff_exists.1 hsome
  obtain ⟨r', hr'⟩ := Option.isSome_iff_exists.1 hsome'
  exact ⟨⟨hxs, hys, by decide +kernel, by decide +kernel⟩, r, r', hr, hr',
    retryCount_mono w xs ys hxs hys hr hr'⟩

/-- In the same course of things the first relay still writes, after the second, that it delivered the
event, and the count falls back to what it claimed. -/
theorem retryCount_lowered :
    let w : World := { (default : World) with lease := .ofSecs 60 }
    let e : Event := .create (.ofNat 1) "Todo" (.ofNat 7) "todos" "TODO_CREATED" .null .epoch
    let minute := 60 * 1000000000
    let xs : List (Step Unit) :=
      [⟨.epoch, 0, .enqueue e⟩, ⟨.epoch, 0, .tick 0 .standard⟩, ⟨.epoch, 0, .claim 0⟩,
        ⟨.epoch, 0, .move 0 .start⟩, ⟨.epoch, 1, .move 0 (.land 0 true)⟩,
        ⟨.epoch, minute, .script [.unavailable "no"] [] none []⟩, ⟨.epoch, minute, .tick 1 .standard⟩,
        ⟨.epoch, minute, .claim 1⟩, ⟨.epoch, minute, .move 1 .start⟩,
        ⟨.epoch, 1 + minute, .move 1 (.land 0 true)⟩, ⟨.epoch, 2 + minute, .move 1 (.settle 0)⟩]
    let x : Step Unit := ⟨.epoch, 3 + minute, .move 0 (.settle 0)⟩
    let s := (Site.new w).run xs
    (Site.new w).RunOk Unhurried xs ∧ s.Unhurried x ∧
      s.outbox.records.map (fun r => (r.id, r.status, r.retryCount)) = [(e.id, .pending, 1)] ∧
      (s.next x).outbox.records.map (fun r => (r.id, r.status, r.retryCount)) =
        [(e.id, .processed, 0)] := by
  decide +kernel

end Site
end Outbox
