import Outbox.Proofs.Lease

/-!
# No record is published twice at once

What relays do keeps what their claims promise (`Leased`).

* `Leased.claim`     what is claimed is held by no live claim;
* `Leased.start`     a publish that begins finds every earlier one of its record over;
* `Leased.conclude`  an outcome is written while its claim is live;
* `publishes_apart`  the publishes of one record never overlap.
-/

namespace Outbox

open Relay (Batch Flight Move)
open Scenario (World)

namespace Site

namespace Leased

variable {α : Type} {s : Site α}

/-- The batch of a claim made now is hidden until the claim runs out. -/
theorem claimed_of_claim (hst : Stocked s) (hp : Poised s) {config : Relay.Config} {time : Nat}
    {w : World} (htime : time < s.world.elapsed)
    (ha : World.Alike
      (s.world.withOutbox (s.outbox.claim s.world.now s.world.lease config.batchSize).2) w) :
    Claimed w s.used s.world.elapsed
      (.ofRecords config s.world.lease time
        (s.outbox.claim s.world.now s.world.lease config.batchSize).1) where
  lease := ha.lease
  began := htime
  past := Nat.le_of_eq ha.elapsed
  distinct := by
    rw [Batch.queue_ofRecords]
    exact Store.claim_nodup _ _ _ _
  known := fun r hr => by
    rw [Batch.queue_ofRecords] at hr
    exact hst _ r (Store.mem_claim hr).1
  hidden := fun _ r hr => by
    rw [Batch.queue_ofRecords] at hr
    obtain ⟨u, hnow, hu⟩ := hp.reading
    obtain ⟨_, hpend, _⟩ := Store.mem_claim hr
    refine ⟨{ r with availableAt := s.world.now.addOrMax s.world.lease }, ?_, hpend, ?_⟩
    · rw [← ha.stores]
      exact Store.get?_claim_of_mem hr
    · rw [← ha.start, ← ha.lease, Timestamp.addOrMax_of_add? hu]
      exact (Timestamp.later?_later? hnow _).symm.trans (Timestamp.add?_some hu).2
  short := fun f hf => absurd hf List.not_mem_nil

theorem claim (h : Leased s) (hst : Stocked s) (hp : Poised s) (i : Nat) : Leased (s.claim i) := by
  rcases claim_cases i s with hs | ⟨config, time, world, hr, ha, hs⟩ | ⟨config, time, world, hr, ha, hs⟩
  · rw [hs]
    exact h
  · rw [hs]
    have hw : Leased { s with world } :=
      h.sameOutbox ha.start.symm ha.elapsed.symm ha.lease.symm ha.stores.symm
    refine hw.setFree nofun ?_ nofun
    show underway i (s.relays i) = []
    rw [hr]
    rfl
  · rw [hs]
    have hw : Leased { s with world } := by
      have ho : world.stores.outbox = (s.outbox.claim s.world.now s.world.lease config.batchSize).2 :=
        congrArg Stores.outbox ha.stores.symm
      refine h.ofOutbox ha.start.symm ha.elapsed.symm ha.lease.symm ho fun k c t hk hc r hrt => ?_
      refine Store.get?_claim_of_notMem fun q hq hid => ?_
      obtain ⟨hget, _, hdue⟩ := Store.mem_claim hq
      rw [hid] at hget
      exact h.not_due hp hk hc hrt hget hdue
    refine hw.setRelay i _ s.publishes nofun ?_ ?_ (fun q _ => Iff.rfl) ?_ hw.past h.apart
    · intro c t hb
      injection hb with hc ht
      subst hc ht
      exact claimed_of_claim hst hp (hp.looked i config time hr) ha
    · -- every other batch was claimed at an earlier time
      intro c t hb j u hj
      injection hb with hc
      exact absurd (hp.claimed j c u hj) (hc ▸ Nat.lt_irrefl _)
    · intro q hq
      rw [h.flying q, hq, hr]
      exact Iff.rfl

/-- A move leaves alone what live claims hold, unless it writes an outcome of a record that is held. -/
theorem ofMoved (h : Leased s) {t t' : Batch} {m : Move} {world : World}
    (hm : Batch.Moved (World.backend s.world.lease) t s.world m t' world)
    (hfree : ∀ k o, m = .settle k → t.outcomes[k]? = some o →
      ∀ j d u, s.relays j = .busy d u → Live s.world d → ∀ r ∈ u.queue, r.id ≠ o.record.id) :
    Leased { s with world } := by
  obtain ⟨⟨hs, he, hl⟩, hcases⟩ := World.moved_cases hm
  rcases hcases with ⟨hst, _⟩ | ⟨hst, _⟩ | ⟨_, k, o, hk, ho, delay, σ, hσ, hst⟩
  · exact h.sameOutbox hs he hl hst
  · exact h.sameOutbox hs he hl hst
  · refine h.ofOutbox hs he hl (congrArg Stores.outbox hst) fun j d u hj hd r hr =>
      Store.get?_write hσ ?_
    rw [Relay.writeFor_id]
    exact hfree k o hk ho j d u hj hd r hr

/-- a relay with a batch makes a move -/
theorem goOn (h : Leased s) (hl : s.world.lease.nanos ≤ Timestamp.maxShift) {i c : Nat} {t t' : Batch}
    {m : Move} {world : World} (hr : s.relays i = .busy c t)
    (hm : Batch.Moved (World.backend s.world.lease) t s.world m t' world)
    (hw : Leased { s with world }) {publishes : List Publish}
    (hothers : ∀ q, q.relay ≠ i →
      (q ∈ publishes ∧ q.ended = none ↔ q ∈ s.publishes ∧ q.ended = none))
    (hown : ∀ q, q.relay = i →
      (q ∈ publishes ∧ q.ended = none ↔ q ∈ t'.flights.map (.ofFlight i t'.config)))
    (hpast : ∀ q ∈ publishes, ∀ e, q.ended = some e → e ≤ s.world.elapsed)
    (hapart : publishes.Pairwise Publish.Apart) :
    Leased ({ s with world, publishes }.setRelay i (.busy c t')) := by
  obtain ⟨⟨_, he, hlease⟩, _⟩ := World.moved_cases hm
  refine hw.setRelay i (.busy c t') publishes nofun ?_ ?_ hothers hown ?_ hapart
  · intro d u hb
    injection hb with hc ht
    subst hc ht
    exact (hw.claimed i c t hr).moved hm he.symm (hlease ▸ hl)
  · intro d u hb j v hj
    injection hb with hc
    subst hc
    exact h.single j i c v t hj hr
  · intro q hq e heq
    show e ≤ world.elapsed
    rw [he]
    exact hpast q hq e heq

/-- a relay with a batch makes a move that neither begins nor ends a publish -/
theorem goOnSame (h : Leased s) (hl : s.world.lease.nanos ≤ Timestamp.maxShift) {i c : Nat}
    {t t' : Batch} {m : Move} {world : World} (hr : s.relays i = .busy c t)
    (hm : Batch.Moved (World.backend s.world.lease) t s.world m t' world)
    (hw : Leased { s with world }) (hf : t'.flights = t.flights) :
    Leased ({ s with world }.setRelay i (.busy c t')) := by
  refine h.goOn hl hr hm hw (fun q _ => Iff.rfl) (fun q hq => ?_) h.past h.apart
  rw [hf, hm.same.2.2]
  exact h.flying_of_busy hr hq

/-- A publish that begins finds every earlier one of its record over. -/
theorem apart_of_starts (h : Leased s) (hp : Poised s) {i c : Nat} {t : Batch}
    (hr : s.relays i = .busy c t) {r : Record} {rest : List Record} (hw : t.waiting = r :: rest)
    (hf : t.fits s.world.elapsed = true) {q : Publish} (hq : q ∈ s.publishes) :
    q.Apart (.ofFlight i t.config ⟨r, s.world.elapsed⟩) := by
  intro hid
  have hid : q.id = r.id := hid
  cases he : q.ended with
  | some e => exact ⟨e, rfl, hp.past q hq e he⟩
  | none =>
    have hc := h.claimed i c t hr
    have hlive : Live s.world c := hc.live_of_fits hp.lease_le hf
    have hrw : r ∈ t.waiting := by
      rw [hw]
      exact List.mem_cons_self
    have hrt := Batch.mem_queue_of_waiting hrw
    obtain ⟨d, u, hu, f, hfu, hfid⟩ := h.flight_of_underway hq he
    have hi : q.relay = i := h.eq_of_live hu hr (h.live_of_flight hp hu hfu) hlive
      (Batch.mem_queue_of_flight hfu) hrt (hfid.trans hid)
    rw [hi, hr] at hu
    injection hu with _ hu
    subst hu
    -- one batch would hold the record twice
    exact absurd (hfid.trans hid).symm (Batch.id_ne_of_waiting hc.distinct hrw hfu)

theorem start (h : Leased s) (hp : Poised s) (i : Nat) : Leased (s.move i .start) := by
  rcases move_cases i .start s with hs | ⟨c, t, t', world, hr, hm, hs⟩
  · rw [hs]
    exact h
  rw [hs]
  have hw : Leased { s with world } := h.ofMoved hm fun _ _ hk => nomatch hk
  rcases hm.flights_start with hf | ⟨r, rest, hwait, hfit, hf⟩
  · rw [note_start_same hf]
    exact h.goOnSame hp.lease_le hr hm hw hf
  · rw [note_start hf]
    refine h.goOn hp.lease_le hr hm hw ?_ ?_ ?_ ?_
    · intro q hqi
      rw [List.mem_append, List.mem_singleton, or_iff_left]
      rintro rfl
      exact hqi rfl
    · intro q hqi
      rw [hf, hm.same.2.2, List.map_append, List.mem_append, List.mem_append, or_and_right,
        h.flying_of_busy hr hqi]
      refine or_congr Iff.rfl ⟨And.left, fun hq => ⟨hq, ?_⟩⟩
      rw [List.mem_singleton.1 hq]
      rfl
    · intro q hq e he
      rcases List.mem_append.1 hq with hq | hq
      · exact h.past q hq e he
      · rw [List.mem_singleton.1 hq] at he
        cases he
    · rw [List.pairwise_append]
      refine ⟨h.apart, List.pairwise_singleton _ _, ?_⟩
      intro q hq p hp'
      rw [List.mem_singleton.1 hp']
      exact h.apart_of_starts hp hr hwait hfit hq

theorem land (h : Leased s) (hp : Poised s) (i k : Nat) (inTime : Bool) :
    Leased (s.move i (.land k inTime)) := by
  rcases move_cases i (.land k inTime) s with hs | ⟨c, t, t', world, hr, hm, hs⟩
  · rw [hs]
    exact h
  rw [hs]
  have hw : Leased { s with world } := h.ofMoved hm fun _ _ hk => nomatch hk
  cases hk : t.flights[k]? with
  | none =>
    rw [note_land_none hk]
    refine h.goOnSame hp.lease_le hr hm hw ?_
    rw [hm.flights_land, List.eraseIdx_of_length_le (List.getElem?_eq_none_iff.1 hk)]
  | some f =>
    rw [note_land hk]
    refine h.goOn hp.lease_le hr hm hw ?_ ?_ ?_ ?_
    · intro q hqi
      rw [Publish.mem_map_close, and_iff_left]
      rintro rfl
      exact hqi rfl
    · intro q hqi
      rw [Publish.mem_map_close, h.flying_of_busy hr hqi, hm.flights_land, hm.same.2.2]
      constructor
      · rintro ⟨hq, hne⟩
        obtain ⟨g, hg, rfl⟩ := List.mem_map.1 hq
        rcases List.mem_cons.1 ((Batch.flights_perm hk).mem_iff.1 hg) with rfl | hg
        · exact absurd rfl hne
        · exact List.mem_map_of_mem hg
      · intro hq
        obtain ⟨g, hg, rfl⟩ := List.mem_map.1 hq
        have hrecord : g.record ∈ t.waiting ++ (t.flights.eraseIdx k).map Flight.record :=
          List.mem_append_right _ (List.mem_map_of_mem hg)
        have hid := Batch.id_ne_of_land hk (h.claimed i c t hr).distinct hrecord
        exact ⟨List.mem_map_of_mem (List.mem_of_mem_eraseIdx hg), fun heq => hid (congrArg Publish.id heq)⟩
    · intro q hq e he
      obtain ⟨p, hpm, rfl⟩ := List.mem_map.1 hq
      by_cases hpf : p = .ofFlight i t.config f
      · rw [Publish.close, if_pos hpf] at he
        injection he with he
        exact Nat.le_of_eq he.symm
      · rw [Publish.close_of_ne hpf] at he
        exact h.past p hpm e he
    · exact h.apart.map _ fun p q hpq => hpq.close rfl

theorem settle (h : Leased s) (hl : s.world.lease.nanos ≤ Timestamp.maxShift) (i k : Nat)
    (hfree : ∀ c t o, s.relays i = .busy c t → t.outcomes[k]? = some o →
      ∀ j d u, s.relays j = .busy d u → Live s.world d → ∀ r ∈ u.queue, r.id ≠ o.record.id) :
    Leased (s.move i (.settle k)) := by
  rcases move_cases i (.settle k) s with hs | ⟨c, t, t', world, hr, hm, hs⟩
  · rw [hs]
    exact h
  rw [hs]
  have hw : Leased { s with world } := by
    refine h.ofMoved hm fun l o hk ho => ?_
    injection hk with hk
    subst hk
    exact hfree c t o hr ho
  refine h.goOnSame hl hr hm hw ?_
  cases hm <;> rfl

theorem unwritten_eq {i c : Nat} {t : Batch} (hr : s.relays i = .busy c t) :
    s.unwritten i = t.outcomes.length := by
  unfold unwritten
  rw [hr]

/-- A publish ends, and its outcome is written while the claim of its record is live. -/
theorem conclude (h : Leased s) (hp : Poised s) (i k : Nat) (inTime : Bool) :
    Leased ((s.move i (.land k inTime)).move i (.settle (s.unwritten i))) := by
  have hland := h.land hp i k inTime
  rcases move_cases i (.land k inTime) s with hs | ⟨c₀, t₀, t', world, hr₀, hm, hs⟩
  · rw [hs]
    refine h.settle hp.lease_le i _ fun c t o hr ho => ?_
    rw [unwritten_eq hr, List.getElem?_eq_none (Nat.le_refl _)] at ho
    cases ho
  obtain ⟨⟨_, he, hl⟩, _⟩ := World.moved_cases hm
  rw [hs] at hland ⊢
  refine hland.settle (hl ▸ hp.lease_le) i _ fun c t o hr ho j d u hj hd r hru hid => ?_
  rw [relays_setRelay_self] at hr
  injection hr with hc ht
  subst hc ht
  rw [unwritten_eq hr₀] at ho
  obtain ⟨f, hf, hof, hqueue⟩ := hm.outcome_land ho
  rw [hof] at hid
  by_cases hji : j = i
  · subst hji
    rw [relays_setRelay_self] at hj
    injection hj with _ hu
    subst hu
    rw [hqueue] at hru
    exact Batch.id_ne_of_land hf (h.claimed j c₀ t₀ hr₀).distinct hru hid
  · rw [relays_setRelay_ne _ _ hji] at hj
    have hfm : f ∈ t₀.flights := List.mem_of_getElem? hf
    have hd : Live s.world d := by
      unfold Live at hd ⊢
      exact he ▸ hl ▸ hd
    have hlive : Live s.world c₀ := h.live_of_flight hp hr₀ hfm
    exact hji (h.eq_of_live hj hr₀ hd hlive hru (Batch.mem_queue_of_flight hfm) hid)

/-! ## runs -/

theorem tick (h : Leased s) (i : Nat) (config : Relay.Config) : Leased (s.tick i config) := by
  rcases tick_cases i config s with hs | ⟨hfree, hs⟩
  · rw [hs]
    exact h
  · rw [hs]
    refine h.setFree nofun (underway_of_isFree hfree) fun _ time hb => ?_
    injection hb with _ htime
    exact Nat.le_of_eq htime.symm

theorem enqueue (h : Leased s) (e : Event) (hids : (s.enqueue e).used.Nodup) :
    Leased (s.enqueue e) := by
  rcases enqueue_cases e s with hs | ⟨_, hs⟩
  · rw [hs]
    exact h
  · rw [hs] at hids ⊢
    exact h.store [e] rfl rfl rfl rfl hids

theorem proceed (h : Leased s) (j : Nat) (hids : (s.proceed j).used.Nodup) : Leased (s.proceed j) := by
  rcases proceed_cases j s with ⟨world, pieces, ha, hs⟩ | ⟨a, staged, said, pieces, _, _, hs⟩
  · rw [hs]
    have hw : Leased { s with world } :=
      h.sameOutbox ha.start.symm ha.elapsed.symm ha.lease.symm ha.stores.symm
    exact ⟨hw.looked, hw.claimed, hw.single, hw.flying, hw.past, hw.apart⟩
  · rw [hs] at hids ⊢
    exact h.store staged.events rfl rfl rfl rfl hids

theorem act (h : Leased s) (hst : Stocked s) (hp : Poised s) {a : Action α}
    (hids : (s.act a).used.Nodup) (hprompt : a.isPrompt = true) : Leased (s.act a) := by
  cases a with
  | enqueue e => exact h.enqueue e hids
  | openUnit j work =>
    obtain ⟨pieces, hs⟩ := openUnit_cases j work s
    rw [show s.act (.openUnit j work) = _ from hs]
    exact ⟨h.looked, h.claimed, h.single, h.flying, h.past, h.apart⟩
  | proceed j => exact h.proceed j hids
  | tick i config => exact h.tick i config
  | claim i => exact h.claim hst hp i
  | move i m =>
    cases m with
    | start => exact h.start hp i
    | land k inTime => cases hprompt
    | settle k => cases hprompt
  | conclude i k inTime => exact h.conclude hp i k inTime
  | requeue id => exact h.requeue id
  | purge t => exact h.purge t
  | take limit => cases hprompt
  | write wr => cases hprompt
  | script failures missing rollbackFailure faults => exact h.sameOutbox rfl rfl rfl rfl

/-- Time goes by. -/
theorem atTime (h : Leased s) {now : Nat} (hnow : s.world.elapsed ≤ now) :
    Leased (s.atTime s.world.start now) where
  looked := fun i config time hi => Nat.le_trans (h.looked i config time hi) hnow
  claimed := fun i c t hi => by
    have hc := h.claimed i c t hi
    exact
      { lease := hc.lease
        began := hc.began
        past := Nat.le_trans hc.past hnow
        distinct := hc.distinct
        known := hc.known
        hidden := fun hlive => hc.hidden (Nat.lt_of_le_of_lt hnow hlive)
        short := hc.short }
  single := h.single
  flying := h.flying
  past := fun p hp e he => Nat.le_trans (h.past p hp e he) hnow
  apart := h.apart

theorem poised (h : Leased s) {x : Step α} (hx : Timely s x) :
    Poised (s.atTime s.world.start x.elapsed) where
  looked := fun i config time hi => Nat.lt_of_le_of_lt (h.looked i config time hi) hx.later
  claimed := fun i c t hi => Nat.lt_of_le_of_lt (h.claimed i c t hi).past hx.later
  past := fun p hp e he => Nat.lt_of_le_of_lt (h.past p hp e he) hx.later
  inTime := hx.inTime
  reading := by
    obtain ⟨u, hrange⟩ := Option.isSome_iff_exists.1 hx.inRange
    obtain ⟨now, hnow, hu⟩ := Option.bind_eq_some_iff.1 hrange
    rw [hx.clock] at hnow
    have hw : (s.atTime s.world.start x.elapsed).world.now = now := Timestamp.addOrMax_of_add? hnow
    rw [hw]
    exact ⟨u, Timestamp.later?_of_add?_ofNanos hnow, hu⟩

theorem step (h : Leased s) (hst : Stocked s) {x : Step α} (hx : Timely s x) : Leased (s.next x) := by
  have hids : (s.next x).used.Nodup := hx.fresh
  unfold next at hids ⊢
  rw [hx.clock] at hids ⊢
  exact (h.atTime (Nat.le_of_lt hx.later)).act hst (h.poised hx) hids hx.prompt

protected theorem ofWorld (w : World) : Leased (Site.ofWorld w : Site α) where
  looked := nofun
  claimed := nofun
  single := nofun
  flying := fun _ => ⟨fun hp => absurd hp.1 List.not_mem_nil, fun hp => absurd hp List.not_mem_nil⟩
  past := fun _ hp => absurd hp List.not_mem_nil
  apart := List.Pairwise.nil

end Leased

/-- **Publishes of one record never overlap.**  Relays of any settings share an outbox of any contents,
while events are enqueued, units of work come and go, dead letters are requeued and old records are
purged. -/
theorem publishes_apart {α : Type} (w : World) (xs : List (Step α))
    (hxs : (Site.ofWorld w).RunOk Timely xs) :
    ((Site.ofWorld w).run xs).publishes.Pairwise Publish.Apart := by
  have hrun := run_keeps (P := Timely) (I := fun s => Stocked s ∧ Leased s)
    (fun _ x h hx => ⟨h.1.next x, h.2.step h.1 hx⟩) ⟨Stocked.ofWorld w, Leased.ofWorld w⟩ hxs
  exact hrun.2.apart

/-- An outcome cannot be written; the record is published again when its claim has run out. -/
theorem publishes_apart_again :
    let w : World := { (default : World) with lease := .ofSecs 60 }
    let e : Event := .create (.ofNat 1) "Todo" (.ofNat 7) "todos" "TODO_CREATED" .null .epoch
    let xs : List (Step Unit) :=
      [(1, .enqueue e), (2, .tick 0 .standard), (3, .tick 1 .standard), (4, .claim 0), (5, .claim 1),
        (6, .script [] [] none [(.update, .domain "no")]), (7, .move 0 .start), (8, .conclude 0 0 true),
        (60000000004, .tick 1 .standard), (60000000005, .claim 1), (60000000006, .move 1 .start),
        (60000000007, .conclude 1 0 true)].map fun (n, a) => ⟨.epoch, n, a⟩
    ((Site.ofWorld w).RunOk Timely xs ∧
        ((Site.ofWorld w).run xs).publishes.map (fun p => (p.relay, p.id, p.began, p.ended)) =
          [(0, e.id, 7, some 8), (1, e.id, 60000000006, some 60000000007)]) ∧
      ((Site.ofWorld w).run xs).publishes.Pairwise Publish.Apart :=
  have h := by decide +kernel
  ⟨⟨h, by decide +kernel⟩, publishes_apart _ _ h⟩

end Site
end Outbox
