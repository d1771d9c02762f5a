import Outbox.Proofs.Claims
import Outbox.Proofs.Effect

/-!
# A retry waits

The delay before an attempt is computed with doubles, and anything may come of that; but what comes out
is at least a millisecond.  So a record that is put back after a failed attempt is due later than the
attempt, and nobody claims it until then.

* `Policy.minDelay_le_delay`   the least delay of any policy;
* `Store.Kept`         what every operation on an outbox keeps; `run_kept`: so does every run;
* `Store.Unstamped`    what waits has no time of delivery, so a retry has none to take away;
* `Store.PutBack`      what a retry makes of the outbox;
* `retried_later`      a retry in any outbox that was empty once.
-/

namespace Outbox

open Scenario (World)

/-- Whatever the numbers of the policy are, also where they are not finite or no numbers at all. -/
theorem Backoff.Policy.minDelay_le_delay (p : Policy) (n : UInt32) (sway : Float) :
    minDelay ≤ p.delay n sway := by
  unfold delay
  dsimp only
  split
  · assumption
  · exact Nat.le_refl _

namespace Timestamp

/-- Where a duration leads out of range, the largest time is late enough. -/
theorem le_later?_getD {t u : Timestamp} {m n : Nat} (hu : t.later? m = some u) (hmax : u ≤ max)
    (h : m ≤ n) : u ≤ (t.later? n).getD max := by
  cases hv : t.later? n with
  | none => exact hmax
  | some v => exact (later?_le_iff hu hv).2 h

end Timestamp

namespace Store

/-! ## what every operation keeps -/

/-- No operation on an outbox leads out of `P`. -/
structure Kept (P : Store → Prop) : Prop where
  put : ∀ {s} (e : Event), P s → P (s.put e.record)
  claim : ∀ {s} (now lease limit), P s → P (s.claim now lease limit).2
  write : ∀ {s s' now delay wr}, P s → s.write now delay wr = .ok s' → P s'
  requeue : ∀ {s s' now id}, P s → s.requeue now id = .ok s' → P s'
  purge : ∀ {s} (time), P s → P (s.purge time).2

theorem Kept.putAll {P : Store → Prop} (hP : Kept P) (es : List Event) {s : Store} (h : P s) :
    P (es.foldl (fun o e => o.put e.record) s) := by
  induction es generalizing s with
  | nil => exact h
  | cons e es ih => exact ih (hP.put e h)

/-- Nothing that is pending has a time of delivery. -/
def Unstamped (s : Store) : Prop :=
  ∀ id r, s.get? id = some r → r.status = .pending → r.processedAt = none

theorem Unstamped.kept : Kept Unstamped where
  put := by
    intro s e h id r hr hst
    rw [get?_put] at hr
    split at hr
    · cases hr
      rfl
    · exact h id r hr hst
  claim := by
    intro s now lease limit h id r hr hst
    rcases get?_claim_cases now lease limit s id with hsame | ⟨q, hq, hqst, _, hhidden⟩
    · exact h id r (hsame.symm.trans hr) hst
    · cases hhidden.symm.trans hr
      exact h id q hq hqst
  write := by
    intro s s' now delay wr h hs id r hr hst
    cases wr with
    | update i st n err =>
      obtain ⟨q, _, _, hget⟩ := get?_update hs
      rw [hget] at hr
      split at hr
      · cases hr
        -- it waits after the update, so this was a retry, which takes a time of delivery away
        rw [status_outcome] at hst
        subst hst
        rfl
      · exact h id r hr hst
    | delete i =>
      rw [get?_delete hs] at hr
      split at hr
      · cases hr
      · exact h id r hr hst
  requeue := by
    intro s s' now i h hs id r hr hst
    obtain ⟨q, _, _, hget⟩ := get?_requeue hs
    rw [hget] at hr
    split at hr
    · cases hr
      rfl
    · exact h id r hr hst
  purge := by
    intro s time h id r hr hst
    rcases get?_purge_cases time s id with hget | ⟨_, _, _, hget⟩
    · exact h id r (hget.symm.trans hr) hst
    · cases hget.symm.trans hr

/-! ## one retry -/

/-- The store `s'` is `s` with a record put back that is due again at `time`. -/
structure PutBack (s s' : Store) (r : Record) (n : UInt32) (err : Option String) (time : Timestamp) :
    Prop where
  stored : s'.get? r.id = some { r with retryCount := n, lastError := err, availableAt := time }
  others : ∀ id, id ≠ r.id → s'.get? id = s.get? id

/-- A record that waits can be put back. -/
theorem update_putBack {s : Store} {r : Record} (hr : r ∈ s.records) (hst : r.status = .pending)
    (hstamp : r.processedAt = none) (now : Timestamp) (delay : Duration) (n : UInt32)
    (err : Option String) :
    ∃ s', s.update now delay r.id .pending n err = .ok s' ∧
      s.PutBack s' r n err ((now.later? delay.nanos).getD .max) := by
  have hs : s.update now delay r.id .pending n err = .ok _ :=
    if_pos (has_eq_true.2 ⟨r, get?_of_mem hr, hst⟩)
  obtain ⟨q, hq, _, hget⟩ := get?_update hs
  cases (get?_of_mem hr).symm.trans hq
  refine ⟨_, hs, ?_, fun id hid => (hget id).trans (if_neg hid)⟩
  rw [hget, if_pos rfl, ← Timestamp.addOrMax_eq]
  unfold outcome
  dsimp only
  -- the status and the time of delivery are written, too, but as they were
  rw [← hst, ← hstamp]

theorem PutBack.hiddenUntil {s s' : Store} {r : Record} {n : UInt32} {err : Option String}
    {time : Timestamp} (h : s.PutBack s' r n err time) : s'.HiddenUntil r.id time := .stored h.stored

end Store

namespace Site

variable {α : Type}

/-! ## runs -/

section
variable {P : Store → Prop} {s : Site α}

theorem Effect.kept {a : Action α} {v : View} {ns : List Happening} (hv : Effect s a v ns)
    (hP : Store.Kept P) (h : P s.outbox) : P v.outbox := by
  cases hv with
  | stored _ es => exact hP.putAll es h
  | claimed _ => exact hP.claim _ _ _ h
  | settled _ _ hw => exact hP.write h hw
  | requeued hr => exact hP.requeue h hr
  | purged => exact hP.purge _ h
  | taken => exact hP.claim _ _ _ h
  | overwritten hw => exact hP.write h hw
  | _ => exact h

theorem act_kept (hP : Store.Kept P) (h : P s.outbox) (a : Action α) : P (s.act a).outbox := by
  by_cases hc : ∃ i k inTime, a = .conclude i k inTime
  case neg => exact (act_effect (fun i k b ha => hc ⟨i, k, b, ha⟩) s).kept hP h
  obtain ⟨i, k, inTime, rfl⟩ := hc
  rw [(act_conclude i k inTime s).1]
  have hland : P (s.move i (.land k inTime)).outbox := (effect_move i _ s).kept hP h
  exact (effect_move i (.settle (s.unwritten i)) _).kept hP hland

theorem run_kept (hP : Store.Kept P) (h : P s.outbox) (xs : List (Step α)) :
    P (s.run xs).outbox := by
  induction xs generalizing s with
  | nil => exact h
  | cons x xs ih => exact ih (act_kept hP (s := s.atTime x.start x.elapsed) h x.action)

end

/-- **A retry waits.**  The delay before the next attempt is a millisecond or more.  A pending record of an
outbox that was empty once, whatever happened to it since, is due again when the delay is over, or when
time itself is; nothing but that, its count of failures and its error is changed.  Before then no claim
returns it, whatever else is asked of the outbox, unless it is put back or requeued again, or something
stored under its id. -/
theorem retried_later (w : World) (xs : List (Step α)) (p : Backoff.Policy) (n : UInt32) (sway : Float) :
    let s := ((Site.new w).run xs).world.stores
    let delay := p.delay n sway
    1000000 ≤ delay.nanos ∧
      ∀ r ∈ s.outbox.records, r.status = .pending →
        ∀ (now due : Timestamp) (err : Option String), now.later? 1000000 = some due → due < .max →
          let time := (now.later? delay.nanos).getD .max
          now < due ∧ due ≤ time ∧
            ∃ o, s.outbox.update now delay r.id .pending n err = .ok o ∧
              s.outbox.PutBack o r n err time ∧
              ∀ (lease : Duration) (ys : List Visit), { s with outbox := o }.Quiet lease r.id ys →
                ∀ (clock : Timestamp) (limit : Nat), clock < time →
                  ∀ q ∈ (({ s with outbox := o }.serveAll lease ys).outbox.claim clock lease limit).1,
                    q.id ≠ r.id := by
  intro s delay
  have hdelay : 1000000 ≤ delay.nanos := p.minDelay_le_delay n sway
  have hempty : (Site.new w : Site α).outbox.Unstamped := fun _ _ h => nomatch h
  have hstamp : s.outbox.Unstamped := run_kept Store.Unstamped.kept hempty xs
  refine ⟨hdelay, fun r hr hst now due err hdue hmax => ?_⟩
  obtain ⟨o, ho, hback⟩ :=
    Store.update_putBack hr hst (hstamp r.id r (Store.get?_of_mem hr) hst) now delay n err
  exact ⟨Timestamp.later?_lt now.later?_zero hdue (by decide),
    Timestamp.le_later?_getD hdue (Int.le_of_lt hmax) hdelay, o, ho, hback,
    fun _ _ hys _ limit hclock => Stores.not_claimed hback.hiddenUntil hys hclock limit⟩

/-- A record is claimed ten seconds after it was stored, and put back a second later, with no delay or what
is no number.  Others enqueue and claim; a claim less than a millisecond later does not return it. -/
theorem retried_later_claimed :
    let w : World := { (default : World) with lease := .ofSecs 60 }
    let e (n : Nat) : Event := Event.create (.ofNat n) "Todo" (.ofNat 7) "todos" "TODO_CREATED" .null .epoch
    let clock (n : Nat) : Timestamp := Timestamp.epoch.addOrMax (.ofNanos n)
    let xs : List (Step Unit) :=
      [⟨.epoch, 0, .enqueue (e 1)⟩, ⟨clock 10000000000, 0, .take 1⟩, ⟨clock 10000000000, 0, .enqueue (e 2)⟩]
    let s := ((Site.new w).run xs).world.stores
    let p : Backoff.Policy := ⟨.ofNanos 0, .ofNanos 0, 0.0 / 0.0, -1.0⟩
    let delay := p.delay 1 0.5
    let ys : List Visit := [⟨clock 11000000000, .enqueue (e 3)⟩, ⟨clock 11000500000, .claim 5⟩]
    ∃ r ∈ s.outbox.records, ∃ o,
      (r.id = .ofNat 1 ∧ r.status = .pending ∧ r.availableAt = clock 70000000000 ∧
          (clock 11000000000).later? 1000000 = some (clock 11001000000) ∧ clock 11001000000 < .max) ∧
        s.outbox.update (clock 11000000000) delay r.id .pending 1 (some "no") = .ok o ∧
        s.outbox.PutBack o r 1 (some "no") (((clock 11000000000).later? delay.nanos).getD .max) ∧
        ∀ q ∈ (({ s with outbox := o }.serveAll w.lease ys).outbox.claim (clock 11000999999) w.lease 5).1,
          q.id ≠ r.id := by
  intro w e clock xs s p delay ys
  have hclaimed : ∃ r ∈ s.outbox.records,
      r.id = .ofNat 1 ∧ r.status = .pending ∧ r.availableAt = clock 70000000000 := by decide +kernel
  have hdue : (clock 11000000000).later? 1000000 = some (clock 11001000000) := by decide +kernel
  have hmax : clock 11001000000 < .max := by decide +kernel
  have hids : .ofNat 1 ∉ (Request.enqueue (e 3)).ids := by decide +kernel
  obtain ⟨r, hr, hid, hst, hlease⟩ := hclaimed
  obtain ⟨_, hretry⟩ := retried_later w xs p 1 0.5
  obtain ⟨_, hlate, o, ho, hback, hclaims⟩ := hretry r hr hst _ _ (some "no") hdue hmax
  refine ⟨r, hr, o, ⟨hid, hst, hlease, hdue, hmax⟩, ho, hback, hclaims w.lease ys ?_ _ 5 ?_⟩
  · rw [hid]
    exact ⟨⟨rfl, hids, by decide +kernel⟩, ⟨rfl, List.not_mem_nil, by decide +kernel⟩, trivial⟩
  · have hearly : clock 11000999999 < clock 11001000000 := by decide +kernel
    exact Int.lt_of_lt_of_le hearly hlate

end Site

end Outbox
