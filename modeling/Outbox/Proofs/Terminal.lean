import Outbox.Proofs.RetryCount

/-!
# Terminal records are left alone

The store refuses to update a record that is not pending, but it deletes any.  So what a relay writes can
touch a terminal record in one way only: the relay deletes what it delivers, and somebody else has settled
the record in the meantime.

* `Action.dismisses`        somebody who is no relay takes a terminal record out of its rest;
* `Site.writing?`           what a relay writes in a step;
* `of_settling?_delete`     it is a deletion only where the relay removes what it delivers;
* `Effect.get?_terminal`    nothing but these touches a terminal record;
* `Heedful`                 outcomes are written before their claim has run out;
* `UpToDate.not_deleting`   then what is written is about a pending record, and deletes no terminal one;
* `terminal_stays`          terminal records stay as they are, in every run;
* `terminal_removed`        a delivery that is written late removes a dead letter.
-/

namespace Outbox

open Relay (Batch)
open Scenario (World)

namespace Action

variable {α : Type}

/-- whether a terminal record is requeued or purged -/
def dismisses (r : Record) : Action α → Bool
  | .requeue id => id = r.id && r.status = .failed
  | .purge olderThan => Store.isProcessedBefore olderThan r
  | _ => false

end Action

namespace Site

variable {α : Type}

/-! ## what relays write -/

/-- what the relay `i` writes when it settles its outcome `k` -/
def settling? (i k : Nat) (s : Site α) : Option Write :=
  match s.relays i with
  | .busy _ t => t.outcomes[k]?.map fun o => Relay.writeFor t.config.completion o.record o.result
  | _ => none

def writing? (s : Site α) : Action α → Option Write
  | .move i (.settle k) => s.settling? i k
  | .conclude i k inTime => (s.move i (.land k inTime)).settling? i (s.unwritten i)
  | _ => none

theorem settling?_of_busy {s : Site α} {i c k : Nat} {t : Batch} {o : Relay.Outcome}
    (hr : s.relays i = .busy c t) (ho : t.outcomes[k]? = some o) :
    s.settling? i k = some (Relay.writeFor t.config.completion o.record o.result) := by
  unfold settling?
  rw [hr]
  show t.outcomes[k]?.map _ = _
  rw [ho, Option.map_some]

theorem settling?_of_not_busy {s : Site α} {i k : Nat} (hr : ∀ c t, s.relays i ≠ .busy c t) :
    s.settling? i k = none := by
  unfold settling?
  split
  · rename_i c t h
    exact absurd h (hr c t)
  · rfl

theorem settling?_of_none {s : Site α} {i c k : Nat} {t : Batch} (hr : s.relays i = .busy c t)
    (ho : t.outcomes[k]? = none) : s.settling? i k = none := by
  unfold settling?
  rw [hr]
  show t.outcomes[k]?.map _ = none
  rw [ho, Option.map_none]

/-- What is written deletes a record only where a relay that keeps none has delivered it. -/
theorem of_settling?_delete {s : Site α} {i k : Nat} {id : Uuid}
    (h : s.settling? i k = some (.delete id)) :
    ∃ c t o, s.relays i = .busy c t ∧ t.outcomes[k]? = some o ∧ o.record.id = id ∧
      t.config.completion = .delete ∧ o.result = .ok () := by
  unfold settling? at h
  split at h
  case h_2 => cases h
  rename_i c t hr
  obtain ⟨o, ho, hw⟩ := Option.map_eq_some_iff.1 h
  refine ⟨c, t, o, hr, ho, ?_⟩
  rcases hres : o.result with e | ⟨⟩
  · rw [hres] at hw
    cases hw
  · rw [hres] at hw
    cases hc : t.config.completion with
    | retain =>
      rw [hc] at hw
      cases hw
    | delete =>
      rw [hc] at hw
      cases hw
      exact ⟨rfl, rfl, rfl⟩

/-! ## one step -/

/-- Nothing but a requeue, a purge or a deletion touches a terminal record. -/
theorem Effect.get?_terminal {s : Site α} {a : Action α} {v : View} {ns : List Happening}
    (hv : Effect s a v ns) (hs : s.view.Sourced) (ha : a.isByHand = false)
    (hids : (v.committed.map Event.id).Nodup) {id : Uuid} {r : Record}
    (hr : s.outbox.get? id = some r) (hterminal : r.status ≠ .pending)
    (hdismiss : a.dismisses r = false)
    (hdelete : ∀ i k, a = .move i (.settle k) → s.settling? i k ≠ some (.delete id)) :
    v.outbox.get? id = some r := by
  have hne {q : Record} (hq : s.outbox.get? id = some q) (hst : q.status = .pending) : False := by
    cases hr.symm.trans hq
    exact hterminal hst
  cases hv with
  | stored _ es =>
    refine (get?_putAll fun hmem => ?_).trans hr
    obtain ⟨e, he, hf⟩ := hs.stored id r hr
    have hid : e.id = id := (Record.id_eq_of_fixed hf).symm.trans (Store.get?_id hr)
    have hold : id ∈ s.committed.map Event.id := hid ▸ List.mem_map_of_mem he
    rw [List.map_append, List.nodup_append] at hids
    exact hids.2.2 id hold id hmem rfl
  | claimed _ =>
    refine (Store.get?_claim_of_notMem fun q hq hid => ?_).trans hr
    obtain ⟨hg, hst, _⟩ := Store.mem_claim hq
    exact hne (hid ▸ hg) hst
  | @settled i c k t o _ _ _ hbusy ho hwrite =>
    have hdelete := hdelete i k rfl
    rw [settling?_of_busy hbusy ho] at hdelete
    generalize Relay.writeFor t.config.completion o.record o.result = wr at hwrite hdelete
    by_cases hid : id = wr.id
    case neg => exact (Store.get?_write hwrite hid).trans hr
    cases wr with
    | update i st n err =>
      obtain ⟨q, hq, hst, _⟩ := Store.get?_update hwrite
      exact (hne (hid.symm ▸ hq) hst).elim
    | delete i => exact absurd (congrArg (some ∘ Write.delete) hid.symm) hdelete
  | @requeued i _ hrequeue =>
    obtain ⟨q, hq, hst, hout⟩ := Store.get?_requeue hrequeue
    refine (hout id).trans ((if_neg fun hid => ?_).trans hr)
    subst hid
    cases hr.symm.trans hq
    simp [Action.dismisses, Store.get?_id hr, hst] at hdismiss
  | @purged time =>
    have hkept : Store.isProcessedBefore time r = false := hdismiss
    show (s.outbox.purge time).2.get? id = some r
    rw [Store.get?_purge, hr, Option.filter_some, hkept]
    rfl
  | taken => cases ha
  | overwritten _ => cases ha
  | _ => exact hr

/-! ## live claims -/

/-- what is asked of a step: there is one clock, which does not go backward and does not reach the end of
time; only relays deliver, and write each outcome before its claim has run out -/
structure Heedful (s : Site α) (x : Step α) : Prop where
  clock : x.start = s.world.start
  later : s.world.elapsed ≤ x.elapsed
  inRange : (x.start.add? (.ofNanos x.elapsed)).any (· < .max) = true
  ordinary : s.Ordinary x
  inLease : ∀ i ∈ x.action.writer?, ∀ c ∈ (s.relays i).claimedAt?,
    x.elapsed < c + s.world.lease.nanos

instance (s : Site α) (x : Step α) : Decidable (Heedful s x) :=
  decidable_of_iff
    (x.start = s.world.start ∧ s.world.elapsed ≤ x.elapsed ∧
      (x.start.add? (.ofNanos x.elapsed)).any (· < .max) = true ∧ s.Ordinary x ∧
      ∀ i ∈ x.action.writer?, ∀ c ∈ (s.relays i).claimedAt?, x.elapsed < c + s.world.lease.nanos)
    ⟨fun ⟨h₁, h₂, h₃, h₄, h₅⟩ => ⟨h₁, h₂, h₃, h₄, h₅⟩,
      fun h => ⟨h.clock, h.later, h.inRange, h.ordinary, h.inLease⟩⟩

theorem Heedful.covered {s : Site α} {x : Step α} (hx : Heedful s x) :
    Covered (s.atTime x.start x.elapsed) x.action :=
  ⟨reading_atTime hx.inRange, hx.ordinary.2, hx.inLease⟩

theorem Heedful.nodup {s : Site α} {x : Step α} (hx : Heedful s x) :
    ((s.next x).committed.map Event.id).Nodup :=
  (List.nodup_append.1 hx.ordinary.1).2.1

/-- What is held under a live claim is pending, so no outcome of it deletes a terminal record. -/
theorem UpToDate.not_deleting {s : Site α} (h : UpToDate s.world s.view) {i k : Nat}
    (ha : Covered s (.move i (.settle k))) {id : Uuid} {r : Record} (hr : s.outbox.get? id = some r)
    (hterminal : r.status ≠ .pending) : s.settling? i k ≠ some (.delete id) := by
  intro hdelete
  obtain ⟨c, t, o, hbusy, ho, hid, _, _⟩ := of_settling?_delete hdelete
  have hclaimed : (s.relays i).claimedAt? = some c := by
    rw [hbusy]
    rfl
  have hplace : .ended o ∈ (s.relays i).places := by
    rw [hbusy]
    exact (Batch.places_settled ho t.report).mem_iff.2 List.mem_cons_self
  obtain ⟨q, hq, hst, _⟩ := h.hidden i c hclaimed (ha.inLease i rfl c hclaimed) o.record
    (Post.record_mem_held hplace)
  rw [hid] at hq
  cases hr.symm.trans hq
  exact hterminal hst

namespace UpToDate

variable {s : Site α}

theorem of_effect {a : Action α} {ns : List Happening} (h : UpToDate s.world s.view)
    (hv : Effect s a (s.act a).view ns) (ha : Covered s a)
    (hids : ((s.act a).committed.map Event.id).Nodup) : UpToDate (s.act a).world (s.act a).view := by
  obtain ⟨hs, he, hl⟩ := act_clock a s
  exact (hv.upToDate h ha hids).later hs hl (Nat.le_of_eq he.symm)

theorem next {x : Step α} (h : UpToDate s.world s.view) (hx : Heedful s x) :
    UpToDate (s.next x).world (s.next x).view := by
  have hids : ((s.next x).committed.map Event.id).Nodup := hx.nodup
  have hlater : UpToDate (s.atTime x.start x.elapsed).world s.view := h.later hx.clock rfl hx.later
  exact act_effects (I := fun s _ => UpToDate s.world s.view) (P := Covered) (l := [])
    (fun _ _ _ _ hok => hok.land) (fun _ _ _ h ha hv hids => h.of_effect hv ha hids)
    (s := s.atTime x.start x.elapsed) hlater hx.covered hids

end UpToDate

/-! ## runs -/

/-- The record is terminal, and everything under a live claim is up to date. -/
structure Resting (id : Uuid) (r : Record) (s : Site α) : Prop where
  upToDate : UpToDate s.world s.view
  stored : s.outbox.get? id = some r

namespace Resting

variable {s : Site α} {id : Uuid} {r : Record}

theorem next {x : Step α} (h : Resting id r s) (hterminal : r.status ≠ .pending) (hx : Heedful s x)
    (hdismiss : x.action.dismisses r = false) : Resting id r (s.next x) := by
  have hlater : UpToDate (s.atTime x.start x.elapsed).world s.view :=
    h.upToDate.later hx.clock rfl hx.later
  refine act_effects (I := fun s _ => Resting id r s)
    (P := fun s a => Covered s a ∧ a.dismisses r = false) (l := [])
    (fun _ _ _ _ hok => ⟨⟨hok.1.land.1, rfl⟩, hok.1.land.2, rfl⟩) ?_
    (s := s.atTime x.start x.elapsed) ⟨hlater, h.stored⟩ ⟨hx.covered, hdismiss⟩ hx.nodup
  intro s a _ h ⟨ha, hdismiss⟩ hv hids
  refine ⟨h.upToDate.of_effect hv ha hids, ?_⟩
  refine hv.get?_terminal h.upToDate.toSourced ha.byRelays hids h.stored hterminal hdismiss ?_
  rintro i k rfl
  exact h.upToDate.not_deleting ha h.stored hterminal

end Resting

/-- what is asked of the steps while `r` is at rest: only relays deliver, and `r` is not requeued or
purged -/
def Leaves (r : Record) (s : Site α) (x : Step α) : Prop :=
  s.Ordinary x ∧ x.action.dismisses r = false

instance (r : Record) (s : Site α) (x : Step α) : Decidable (Leaves r s x) :=
  inferInstanceAs (Decidable (_ ∧ _))

/-- No relay writes that it deletes the record. -/
def Spares (id : Uuid) (s : Site α) (x : Step α) : Prop :=
  (s.atTime x.start x.elapsed).writing? x.action ≠ some (.delete id)

instance (id : Uuid) (s : Site α) (x : Step α) : Decidable (Spares id s x) :=
  inferInstanceAs (Decidable (_ ≠ _))

/-- What is stored and what relays hold are records of events, in every run. -/
theorem sourced_run (w : World) {xs : List (Step α)} (hxs : (Site.new w).RunOk Ordinary xs) :
    ((Site.new w).run xs).view.Sourced :=
  run_effects (I := fun v _ => v.Sourced) (P := fun _ a => a.isByHand = false) (l := [])
    (fun _ _ _ _ _ => ⟨rfl, rfl⟩) (fun _ _ _ _ _ h ha hv _ => h.effect hv ha) (.new w) hxs

/-- What is not deleted stays, however late outcomes are written. -/
theorem get?_run_of_spares {s : Site α} (h : s.view.Sourced) {ys : List (Step α)} {id : Uuid}
    {r : Record} (hr : s.outbox.get? id = some r) (hterminal : r.status ≠ .pending)
    (hys : s.RunOk (Leaves r) ys) (hspares : s.RunOk (Spares id) ys) :
    (s.run ys).outbox.get? id = some r := by
  have hok := hys.combine
    (R := fun s x => s.Fresh x ∧ x.action.isByHand = false ∧ x.action.dismisses r = false ∧
      (s.atTime x.start x.elapsed).writing? x.action ≠ some (.delete id))
    (fun _ _ ⟨⟨hfresh, hhand⟩, hdismiss⟩ hdelete => ⟨hfresh, hhand, hdismiss, hdelete⟩) hspares
  refine (run_effects (I := fun v _ => v.Sourced ∧ v.outbox.get? id = some r) (l := [])
    (P := fun s a => a.isByHand = false ∧ a.dismisses r = false ∧
      s.writing? a ≠ some (.delete id)) ?_ ?_ ⟨h, hr⟩ hok).2
  · intro s i k inTime ⟨_, _, hdelete⟩
    exact ⟨⟨rfl, rfl, nofun⟩, rfl, rfl, hdelete⟩
  · intro s a v ns _ ⟨h, hr⟩ ⟨hhand, hdismiss, hdelete⟩ hv hids
    refine ⟨h.effect hv hhand, hv.get?_terminal h hhand hids hr hterminal hdismiss ?_⟩
    rintro i k rfl
    exact hdelete

/-- **Terminal records are left alone.**  Any number of relays work on an outbox that was empty at first,
keep or remove what they deliver, and write outcomes at any time after their publishes, while events are
enqueued, units of work come and go, dead letters are requeued and old records are purged.  A record that
is processed or a dead letter stays as it is until it is requeued or purged, as long as no relay deletes
it; and none does while all outcomes are written before their claims have run out. -/
theorem terminal_stays (w : World) (xs ys : List (Step α)) (hxs : (Site.new w).RunOk Ordinary xs)
    {id : Uuid} {r : Record} (hr : ((Site.new w).run xs).outbox.get? id = some r)
    (hterminal : r.status.isTerminal = true) (hys : ((Site.new w).run xs).RunOk (Leaves r) ys)
    (hkept : ((Site.new w).run xs).RunOk (Spares id) ys ∨ (Site.new w).RunOk Heedful (xs ++ ys)) :
    (((Site.new w).run xs).run ys).outbox.get? id = some r := by
  have hsettled : r.status ≠ .pending := by
    intro hst
    rw [hst] at hterminal
    cases hterminal
  rcases hkept with hspares | hheed
  · exact get?_run_of_spares (sourced_run w hxs) hr hsettled hys hspares
  · obtain ⟨hbefore, hafter⟩ := hheed.split
    have hup := run_keeps (I := fun s => UpToDate s.world s.view) (fun _ _ h hx => h.next hx) (.new w)
      hbefore
    have hok := hafter.combine (R := fun s x => Heedful s x ∧ x.action.dismisses r = false)
      (fun _ _ hx hleaves => ⟨hx, hleaves.2⟩) hys
    exact (run_keeps (I := Resting id r) (fun _ _ h hx => h.next hsettled hx.1 hx.2) ⟨hup, hr⟩
      hok).stored

/-- One relay loses its claim before it writes; another makes the record a dead letter.  What the first one
writes is refused then, and so the dead letter outlives it, as it outlives a relay that removes the next
event, and a purge. -/
theorem terminal_stays_refused :
    let w : World := { (default : World) with lease := .ofSecs 60 }
    let event (n : Nat) (retries : UInt32) :=
      { Event.create (.ofNat n) "Todo" (.ofNat 7) "todos" "TODO_CREATED" .null .epoch with
        maxRetries := retries }
    let removing : Relay.Config := { Relay.Config.standard with completion := .delete }
    let minute := 60 * 1000000000
    let xs : List (Step Unit) :=
      [⟨.epoch, 0, .enqueue (event 1 0)⟩, ⟨.epoch, 0, .tick 0 .standard⟩, ⟨.epoch, 0, .claim 0⟩,
        ⟨.epoch, 0, .move 0 .start⟩, ⟨.epoch, 1, .move 0 (.land 0 true)⟩,
        ⟨.epoch, minute, .script [.unavailable "no"] [] none []⟩, ⟨.epoch, minute, .tick 1 removing⟩,
        ⟨.epoch, minute, .claim 1⟩, ⟨.epoch, minute, .move 1 .start⟩,
        ⟨.epoch, 1 + minute, .conclude 1 0 true⟩]
    let ys : List (Step Unit) :=
      [⟨.epoch, 2 + minute, .enqueue (event 2 5)⟩, ⟨.epoch, 2 + minute, .tick 1 removing⟩,
        ⟨.epoch, 2 + minute, .claim 1⟩, ⟨.epoch, 2 + minute, .move 1 .start⟩,
        ⟨.epoch, 3 + minute, .conclude 1 0 true⟩, ⟨.epoch, 3 + minute, .purge .max⟩]
    let late : Step Unit := ⟨.epoch, 4 + minute, .move 0 (.settle 0)⟩
    let s := (Site.new w).run xs
    let r := (s.outbox.get? (.ofNat 1)).getD default
    (r.status = .failed ∧ (s.run ys).delivered.length = 2 ∧
        (s.run ys).outbox.records.map (fun r => (r.id, r.status)) = [(.ofNat 1, .failed)]) ∧
      s.outbox.get? (.ofNat 1) = some r ∧ s.RunOk (Leaves r) (ys ++ [late]) ∧
      (s.run (ys ++ [late])).outbox.get? (.ofNat 1) = some r := by
  intro w event removing minute xs ys late s r
  have hxs : (Site.new w).RunOk Ordinary xs := by decide +kernel
  have hsome : (s.outbox.get? (.ofNat 1)).isSome = true := by decide +kernel
  have hr : s.outbox.get? (.ofNat 1) = some r := by
    rw [← Option.some_get hsome, Option.get_eq_getD]
  have hys : s.RunOk (Leaves r) (ys ++ [late]) := by decide +kernel
  have hspares : s.RunOk (Spares (.ofNat 1)) (ys ++ [late]) := by decide +kernel
  exact ⟨by decide +kernel, hr, hys,
    terminal_stays w xs (ys ++ [late]) hxs hr (by decide +kernel) hys (.inl hspares)⟩

/-- But if the first relay removes what it delivers, its late deletion is not refused, and the dead letter
is gone. -/
theorem terminal_removed :
    let w : World := { (default : World) with lease := .ofSecs 60 }
    let e : Event :=
      { Event.create (.ofNat 1) "Todo" (.ofNat 7) "todos" "TODO_CREATED" .null .epoch with
        maxRetries := 0 }
    let removing : Relay.Config := { Relay.Config.standard with completion := .delete }
    let minute := 60 * 1000000000
    let xs : List (Step Unit) :=
      [⟨.epoch, 0, .enqueue e⟩, ⟨.epoch, 0, .tick 0 removing⟩, ⟨.epoch, 0, .claim 0⟩,
        ⟨.epoch, 0, .move 0 .start⟩, ⟨.epoch, 1, .move 0 (.land 0 true)⟩,
        ⟨.epoch, minute, .script [.unavailable "no"] [] none []⟩, ⟨.epoch, minute, .tick 1 removing⟩,
        ⟨.epoch, minute, .claim 1⟩, ⟨.epoch, minute, .move 1 .start⟩,
        ⟨.epoch, 1 + minute, .conclude 1 0 true⟩]
    let late : Step Unit := ⟨.epoch, 2 + minute, .move 0 (.settle 0)⟩
    let s := (Site.new w).run xs
    (Site.new w).RunOk Unhurried (xs ++ [late]) ∧
      s.outbox.records.map (fun r => (r.id, r.status)) = [(e.id, .failed)] ∧
      (s.next late).outbox.records.map (fun r => (r.id, r.status)) = [] := by
  decide +kernel

end Site
end Outbox
