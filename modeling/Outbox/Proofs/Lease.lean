import Outbox.Proofs.Clock
import Outbox.Proofs.Origin

/-!
# Claims under a lease

Many relays claim from one outbox under a lease.  All of them go by one clock, and a publish lasts at
most its time limit.

* `Publish.Apart`    of two publishes of a record the first is over before the second begins;
* `Live`             a claim has not run out yet;
* `Claimed`          what a relay may rely on: while its claim is live, the records whose publish is not
                     over are pending in the store and hidden until the claim runs out;
* `Leased`           this for every relay, and what it says about the publishes so far;
* `Timely`           what is asked of a step, and `Poised` what it gives at the moment of the step;
* `Leased.eq_of_live`, `Leased.not_due`   nobody else has what a live claim holds, or can claim it;
* `Leased.store`, `requeue`, `purge`      what is done to the outbox keeps all this.
-/

namespace Outbox

open Relay (Batch Flight Move)
open Scenario (World)

/-- of two publishes of one record, the first is over before the second begins -/
def Publish.Apart (p q : Publish) : Prop := p.id = q.id → ∃ t, p.ended = some t ∧ t < q.began

/-- Publishes stay apart when one of them ends. -/
theorem Publish.Apart.close {p q r : Publish} (h : p.Apart q) (hr : r.ended = none) {now : Nat} :
    (p.close r now).Apart (q.close r now) := by
  intro hid
  rw [close_id, close_id] at hid
  obtain ⟨t, ht, hlt⟩ := h hid
  have hpr : p ≠ r := by
    rintro rfl
    rw [hr] at ht
    cases ht
  rw [close_of_ne hpr, close_began]
  exact ⟨t, ht, hlt⟩

namespace Site

variable {α : Type}

/-- the claim made at the time `c` has not run out -/
def Live (w : World) (c : Nat) : Prop := w.elapsed < c + w.lease.nanos

structure Claimed (w : World) (used : List Uuid) (c : Nat) (t : Batch) : Prop where
  lease : t.lease = w.lease
  began : t.began < c
  past : c ≤ w.elapsed
  distinct : (t.queue.map Record.id).Nodup
  known : ∀ r ∈ t.queue, r.id ∈ used
  hidden : Live w c → ∀ r ∈ t.queue, ∃ a, w.stores.outbox.get? r.id = some a ∧
    a.status = .pending ∧ w.start.later? (c + w.lease.nanos) = some a.availableAt
  short : ∀ f ∈ t.flights, f.started + t.config.publishTimeout.nanos ≤ t.began + w.lease.nanos

namespace Claimed

variable {w : World} {used : List Uuid} {c : Nat} {t : Batch}

/-- A publish that starts while a whole one still fits into the lease ends before the lease does. -/
theorem short_of_fits (h : Claimed w used c t) (hl : w.lease.nanos ≤ Timestamp.maxShift)
    (hf : t.fits w.elapsed = true) :
    w.elapsed + t.config.publishTimeout.nanos ≤ t.began + w.lease.nanos := by
  have hbegan : t.began ≤ w.elapsed := Nat.le_of_lt (Nat.lt_of_lt_of_le h.began h.past)
  have hf : min (min (w.elapsed - t.began) Duration.maxNanos + t.config.publishTimeout.nanos)
      Duration.maxNanos ≤ t.lease.nanos := of_decide_eq_true hf
  rw [h.lease] at hf
  unfold Timestamp.maxShift at hl
  unfold Duration.maxNanos at hf
  omega

/-- The claim is live then. -/
theorem live_of_fits (h : Claimed w used c t) (hl : w.lease.nanos ≤ Timestamp.maxShift)
    (hf : t.fits w.elapsed = true) : Live w c := by
  have hshort := h.short_of_fits hl hf
  have hbegan := h.began
  unfold Live
  omega

/-- What is not touched stays claimed. -/
theorem frame {w' : World} {used' : List Uuid} (h : Claimed w used c t) (hs : w'.start = w.start)
    (he : w'.elapsed = w.elapsed) (hl : w'.lease = w.lease) (hu : ∀ id ∈ used, id ∈ used')
    (hg : Live w c → ∀ r ∈ t.queue, w'.stores.outbox.get? r.id = w.stores.outbox.get? r.id) :
    Claimed w' used' c t where
  lease := h.lease.trans hl.symm
  began := h.began
  past := by
    rw [he]
    exact h.past
  distinct := h.distinct
  known := fun r hr => hu _ (h.known r hr)
  hidden := fun hlive r hr => by
    unfold Live at hlive
    rw [he, hl] at hlive
    rw [hs, hl, hg hlive r hr]
    exact h.hidden hlive r hr
  short := by
    rw [hl]
    exact h.short

/-- A batch that goes on stays claimed. -/
theorem moved {v w' : World} {t' : Batch} {m : Move} (h : Claimed w used c t)
    (hm : Batch.Moved (World.backend v.lease) t v m t' w')
    (he : v.elapsed = w.elapsed) (hl : w.lease.nanos ≤ Timestamp.maxShift) : Claimed w used c t' := by
  obtain ⟨hlease, hbegan, hconfig⟩ := hm.same
  obtain ⟨gone, hq⟩ := hm.queue
  have hmem : ∀ r ∈ t'.queue, r ∈ t.queue := fun r hr =>
    hq.mem_iff.2 (List.mem_append_right gone hr)
  have hn := (hq.map Record.id).nodup_iff.1 h.distinct
  rw [List.map_append] at hn
  have hshort : ∀ f ∈ t'.flights,
      f.started + t'.config.publishTimeout.nanos ≤ t'.began + w.lease.nanos := by
    intro f hf
    rw [hconfig, hbegan]
    rcases hm.mem_flights hf with hf | ⟨hstart, hfits⟩
    · exact h.short f hf
    · have hnow : (World.backend v.lease).now v = w.elapsed := he
      rw [hnow] at hstart hfits
      rw [hstart]
      exact h.short_of_fits hl hfits
  exact
    { lease := hlease.trans h.lease
      began := hbegan ▸ h.began
      past := h.past
      distinct := hn.of_append_right
      known := fun r hr => h.known r (hmem r hr)
      hidden := fun hlive r hr => h.hidden hlive r (hmem r hr)
      short := hshort }

end Claimed

/-- the publishes of the relay `i` that are under way -/
def underway (i : Nat) : Post → List Publish
  | .busy _ t => t.flights.map (.ofFlight i t.config)
  | _ => []

theorem underway_eq_nil {i : Nat} {p : Post} (hp : ∀ c t, p ≠ .busy c t) : underway i p = [] := by
  cases p with
  | idle => rfl
  | began config time => rfl
  | busy c t => exact absurd rfl (hp c t)

theorem underway_of_isFree {i : Nat} {p : Post} (hp : p.isFree = true) : underway i p = [] := by
  cases p with
  | idle => rfl
  | began config time => rfl
  | busy c t =>
    have hp : (t.waiting.isEmpty && t.flights.isEmpty && t.outcomes.isEmpty) = true := hp
    simp only [Bool.and_eq_true, List.isEmpty_iff] at hp
    show t.flights.map (Publish.ofFlight i t.config) = []
    rw [hp.1.2, List.map_nil]

structure Leased (s : Site α) : Prop where
  looked : ∀ i config time, s.relays i = .began config time → time ≤ s.world.elapsed
  claimed : ∀ i c t, s.relays i = .busy c t → Claimed s.world s.used c t
  /-- No two batches were claimed at one time. -/
  single : ∀ i j c t u, s.relays i = .busy c t → s.relays j = .busy c u → i = j
  flying : ∀ p, p ∈ s.publishes ∧ p.ended = none ↔ p ∈ underway p.relay (s.relays p.relay)
  past : ∀ p ∈ s.publishes, ∀ e, p.ended = some e → e ≤ s.world.elapsed
  apart : s.publishes.Pairwise Publish.Apart

/-- what holds at the moment of a step, when everything so far lies in the past -/
structure Poised (s : Site α) : Prop where
  looked : ∀ i config time, s.relays i = .began config time → time < s.world.elapsed
  claimed : ∀ i c t, s.relays i = .busy c t → c < s.world.elapsed
  past : ∀ p ∈ s.publishes, ∀ e, p.ended = some e → e < s.world.elapsed
  inTime : ∀ p ∈ s.publishes, p.ended = none → s.world.elapsed ≤ p.deadline
  reading : ∃ u, s.world.start.later? s.world.elapsed = some s.world.now ∧
    s.world.now.add? s.world.lease = some u

theorem Poised.lease_le {s : Site α} (hp : Poised s) : s.world.lease.nanos ≤ Timestamp.maxShift := by
  obtain ⟨_, _, hu⟩ := hp.reading
  exact (Timestamp.add?_some hu).1

/-- what is asked of a step: there is one clock, it goes forward from step to step and stays in the
range of time, as does the end of a lease; publishes end in time, and their outcomes are written at
once -/
structure Timely (s : Site α) (x : Step α) : Prop where
  clock : x.start = s.world.start
  later : s.world.elapsed < x.elapsed
  inRange : ((x.start.add? (.ofNanos x.elapsed)).bind (·.add? s.world.lease)).isSome = true
  inTime : ∀ p ∈ s.publishes, p.ended = none → x.elapsed ≤ p.deadline
  fresh : s.Fresh x
  prompt : x.action.isPrompt = true

instance (s : Site α) (x : Step α) : Decidable (Timely s x) :=
  decidable_of_iff
    (x.start = s.world.start ∧ s.world.elapsed < x.elapsed ∧
      ((x.start.add? (.ofNanos x.elapsed)).bind (·.add? s.world.lease)).isSome = true ∧
      (∀ p ∈ s.publishes, p.ended = none → x.elapsed ≤ p.deadline) ∧ s.Fresh x ∧
      x.action.isPrompt = true)
    ⟨fun ⟨h₁, h₂, h₃, h₄, h₅, h₆⟩ => ⟨h₁, h₂, h₃, h₄, h₅, h₆⟩,
      fun h => ⟨h.clock, h.later, h.inRange, h.inTime, h.fresh, h.prompt⟩⟩

namespace Leased

variable {s : Site α}

/-- The same record is not held by two relays whose claims are live. -/
theorem eq_of_live (h : Leased s) {i j c d : Nat} {t u : Batch} (hi : s.relays i = .busy c t)
    (hj : s.relays j = .busy d u) (hc : Live s.world c) (hd : Live s.world d) {r q : Record}
    (hr : r ∈ t.queue) (hq : q ∈ u.queue) (hid : r.id = q.id) : i = j := by
  obtain ⟨a, ha, _, hac⟩ := (h.claimed i c t hi).hidden hc r hr
  obtain ⟨b, hb, _, hbd⟩ := (h.claimed j d u hj).hidden hd q hq
  rw [hid, hb] at ha
  injection ha with ha
  subst ha
  have hcd : c = d := Nat.add_right_cancel (Timestamp.later?_inj hac hbd)
  subst hcd
  exact h.single i j c t u hi hj

theorem flying_of_busy (h : Leased s) {i c : Nat} {t : Batch} (hr : s.relays i = .busy c t)
    {q : Publish} (hq : q.relay = i) :
    q ∈ s.publishes ∧ q.ended = none ↔ q ∈ t.flights.map (.ofFlight i t.config) := by
  rw [h.flying q, hq, hr]
  exact Iff.rfl

theorem flight_of_underway (h : Leased s) {q : Publish} (hq : q ∈ s.publishes) (hn : q.ended = none) :
    ∃ c t, s.relays q.relay = .busy c t ∧ ∃ f ∈ t.flights, f.record.id = q.id := by
  have hfly := (h.flying q).1 ⟨hq, hn⟩
  cases hr : s.relays q.relay with
  | idle =>
    rw [hr] at hfly
    exact absurd hfly List.not_mem_nil
  | began config time =>
    rw [hr] at hfly
    exact absurd hfly List.not_mem_nil
  | busy c t =>
    rw [hr] at hfly
    obtain ⟨f, hf, hfq⟩ := List.mem_map.1 hfly
    exact ⟨c, t, rfl, f, hf, congrArg Publish.id hfq⟩

/-- While a publish is under way, the claim that it belongs to is live. -/
theorem live_of_flight (h : Leased s) (hp : Poised s) {i c : Nat} {t : Batch}
    (hi : s.relays i = .busy c t) {f : Flight} (hf : f ∈ t.flights) : Live s.world c := by
  have hc := h.claimed i c t hi
  have hfly := (h.flying_of_busy hi rfl).2 (List.mem_map_of_mem hf)
  have hin : s.world.elapsed ≤ f.started + t.config.publishTimeout.nanos :=
    hp.inTime _ hfly.1 hfly.2
  have hshort := hc.short f hf
  have hbegan := hc.began
  unfold Live
  omega

/-- A record that a live claim holds is not due. -/
theorem not_due (h : Leased s) (hp : Poised s) {i c : Nat} {t : Batch} (hi : s.relays i = .busy c t)
    (hc : Live s.world c) {r a : Record} (hr : r ∈ t.queue) (ha : s.outbox.get? r.id = some a) :
    ¬ a.availableAt ≤ s.world.now := by
  obtain ⟨b, hb, _, hlater⟩ := (h.claimed i c t hi).hidden hc r hr
  have hab : b = a := Option.some.inj (hb.symm.trans ha)
  obtain ⟨u, hnow, _⟩ := hp.reading
  subst hab
  rw [Timestamp.later?_le_iff hlater hnow]
  exact Nat.not_le_of_lt hc

/-! ## what keeps all this -/

/-- a change of the world that leaves alone what live claims hold -/
theorem frame (h : Leased s) {s' : Site α} (hr : s'.relays = s.relays)
    (hp : s'.publishes = s.publishes) (hs : s'.world.start = s.world.start)
    (he : s'.world.elapsed = s.world.elapsed) (hl : s'.world.lease = s.world.lease)
    (hu : ∀ id ∈ s.used, id ∈ s'.used)
    (hg : ∀ i c t, s.relays i = .busy c t → Live s.world c →
      ∀ r ∈ t.queue, s'.outbox.get? r.id = s.outbox.get? r.id) : Leased s' where
  looked := by
    rw [hr, he]
    exact h.looked
  claimed := by
    rw [hr]
    exact fun i c t hi => (h.claimed i c t hi).frame hs he hl hu (hg i c t hi)
  single := by
    rw [hr]
    exact h.single
  flying := by
    rw [hr, hp]
    exact h.flying
  past := by
    rw [hp, he]
    exact h.past
  apart := by
    rw [hp]
    exact h.apart

/-- a relay goes on, and the publishes with it -/
theorem setRelay (h : Leased s) (i : Nat) (p : Post) (publishes : List Publish)
    (hlooked : ∀ config time, p = .began config time → time ≤ s.world.elapsed)
    (hclaimed : ∀ c t, p = .busy c t → Claimed s.world s.used c t)
    (hsingle : ∀ c t, p = .busy c t → ∀ j u, s.relays j = .busy c u → j = i)
    (hothers : ∀ q, q.relay ≠ i →
      (q ∈ publishes ∧ q.ended = none ↔ q ∈ s.publishes ∧ q.ended = none))
    (hown : ∀ q, q.relay = i → (q ∈ publishes ∧ q.ended = none ↔ q ∈ underway i p))
    (hpast : ∀ q ∈ publishes, ∀ e, q.ended = some e → e ≤ s.world.elapsed)
    (hapart : publishes.Pairwise Publish.Apart) : Leased ({ s with publishes }.setRelay i p) where
  looked := fun k config time hk => by
    by_cases hki : k = i
    · subst hki
      exact hlooked config time ((relays_setRelay_self _ k p).symm.trans hk)
    · exact h.looked k config time ((relays_setRelay_ne _ p hki).symm.trans hk)
  claimed := fun k c t hk => by
    by_cases hki : k = i
    · subst hki
      exact hclaimed c t ((relays_setRelay_self _ k p).symm.trans hk)
    · exact h.claimed k c t ((relays_setRelay_ne _ p hki).symm.trans hk)
  single := fun k j c t u hk hj => by
    by_cases hki : k = i
    · subst hki
      have hp : p = .busy c t := (relays_setRelay_self _ k p).symm.trans hk
      by_cases hjk : j = k
      · exact hjk.symm
      · exact (hsingle c t hp j u ((relays_setRelay_ne _ p hjk).symm.trans hj)).symm
    · have hold : s.relays k = .busy c t := (relays_setRelay_ne _ p hki).symm.trans hk
      by_cases hji : j = i
      · subst hji
        exact hsingle c u ((relays_setRelay_self _ j p).symm.trans hj) k t hold
      · exact h.single k j c t u hold ((relays_setRelay_ne _ p hji).symm.trans hj)
  flying := fun q => by
    by_cases hqi : q.relay = i
    · rw [hqi, relays_setRelay_self]
      exact hown q hqi
    · rw [relays_setRelay_ne _ p hqi]
      exact (hothers q hqi).trans (h.flying q)
  past := hpast
  apart := hapart

/-- a relay without publishes goes on to something that is not a batch -/
theorem setFree (h : Leased s) {i : Nat} {p : Post} (hp : ∀ c t, p ≠ .busy c t)
    (hfree : underway i (s.relays i) = [])
    (hlooked : ∀ config time, p = .began config time → time ≤ s.world.elapsed) :
    Leased (s.setRelay i p) := by
  refine h.setRelay i p s.publishes hlooked (fun c t hb => absurd hb (hp c t))
    (fun c t hb => absurd hb (hp c t)) (fun q _ => Iff.rfl) (fun q hq => ?_) h.past h.apart
  rw [h.flying q, hq, hfree, underway_eq_nil hp]

end Leased

/-! ## actions on the outbox -/

namespace Leased

variable {s : Site α}

/-- Events with new ids are stored. -/
theorem store (h : Leased s) (es : List Event) {world : World} {pieces : Nat → Option (Piece α)}
    (hs : world.start = s.world.start) (he : world.elapsed = s.world.elapsed)
    (hl : world.lease = s.world.lease)
    (ho : world.stores.outbox = es.foldl (fun o e => o.put e.record) s.outbox)
    (hids : (s.first ++ (s.committed ++ es).map Event.id).Nodup) :
    Leased { s with world, pieces, committed := s.committed ++ es } := by
  rw [List.map_append, ← List.append_assoc] at hids
  have hnew : ∀ id ∈ s.used, id ∉ es.map Event.id := fun id hid he =>
    (List.nodup_append.1 hids).2.2 id hid id he rfl
  refine h.frame rfl rfl hs he hl (fun id hid => ?_) fun i c t hi _ r hr => ?_
  · unfold used
    rw [List.map_append, ← List.append_assoc]
    exact List.mem_append_left _ hid
  · show world.stores.outbox.get? r.id = _
    rw [ho]
    exact get?_putAll (hnew r.id ((h.claimed i c t hi).known r hr))

/-- a change of the outbox in which live claims keep what they hold -/
theorem ofOutbox (h : Leased s) {world : World} (hs : world.start = s.world.start)
    (he : world.elapsed = s.world.elapsed) (hl : world.lease = s.world.lease) {σ : Store}
    (ho : world.stores.outbox = σ)
    (hg : ∀ i c t, s.relays i = .busy c t → Live s.world c →
      ∀ r ∈ t.queue, σ.get? r.id = s.outbox.get? r.id) : Leased { s with world } := by
  refine h.frame rfl rfl hs he hl (fun id hid => hid) fun i c t hi hc r hr => ?_
  show world.stores.outbox.get? r.id = _
  rw [ho]
  exact hg i c t hi hc r hr

/-- a change of the world around the outbox -/
theorem sameOutbox (h : Leased s) {world : World} (hs : world.start = s.world.start)
    (he : world.elapsed = s.world.elapsed) (hl : world.lease = s.world.lease)
    (ho : world.stores = s.world.stores) : Leased { s with world } :=
  h.ofOutbox hs he hl (congrArg Stores.outbox ho) fun _ _ _ _ _ _ _ => rfl

theorem requeue (h : Leased s) (id : Uuid) : Leased { s with world := (s.world.requeue id).2 } := by
  rcases World.requeue_cases id s.world with hw | ⟨σ, hσ, hw⟩
  · rw [hw]
    exact h
  · rw [hw]
    obtain ⟨a, ha, hst, hget⟩ := Store.get?_requeue hσ
    refine h.ofOutbox rfl rfl rfl (σ := σ) rfl fun i c t hi hc r hr => ?_
    rw [hget r.id]
    split
    · rename_i hid
      obtain ⟨b, hb, hpend, _⟩ := (h.claimed i c t hi).hidden hc r hr
      rw [hid, show s.world.stores.outbox.get? id = some a from ha] at hb
      injection hb with hb
      subst hb
      exact absurd (hst.symm.trans hpend) (by decide)
    · rfl

theorem purge (h : Leased s) (t : Timestamp) : Leased { s with world := (s.world.purge t).2 } := by
  rcases World.purge_cases t s.world with ha | ha
  · exact h.sameOutbox ha.start.symm ha.elapsed.symm ha.lease.symm ha.stores.symm
  · have ho : (s.world.purge t).2.stores.outbox = (s.outbox.purge t).2 :=
      congrArg Stores.outbox ha.stores.symm
    refine h.ofOutbox ha.start.symm ha.elapsed.symm ha.lease.symm ho fun i c u hi hc r hr => ?_
    obtain ⟨a, hga, hpend, _⟩ := (h.claimed i c u hi).hidden hc r hr
    rw [Store.get?_purge, show s.outbox.get? r.id = some a from hga, Option.filter_some,
      if_pos (by simp [Store.isProcessedBefore, hpend])]

end Leased

end Site
end Outbox
