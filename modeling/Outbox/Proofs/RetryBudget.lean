import Outbox.Proofs.Alone
import Outbox.Proofs.Lifecycle

/-!
# A relay that is alone keeps to the retries

Every failed publish of a record is charged to it, once and at once with the end of its tick, and nothing
else is.  A record is therefore published at most once more often than it may be retried, until somebody
requeues it.

* `Tally`          the publishes of a record since its event was stored or it was requeued;
* `Charged`        a record whose failures, but for those of one place in a batch, are written down;
* `Spot.Within`    what a spot and the tally of its id have to do with each other;
* `Goes.within`    they go on like that;
* `retries_within_budget`   whatever happens, every record is charged for what failed, and not more.
-/

namespace Outbox

open Relay (Batch Outcome)
open Scenario (World)

/-! ## tallies -/

structure Tally where
  /-- how many publishes have begun -/
  calls : Nat
  /-- how those went that failed, oldest first -/
  failures : List PublishError
  deriving DecidableEq

namespace Tally

def none : Tally := ⟨0, []⟩

def add (t : Tally) : Happening → Tally
  | .stored _ => .none
  | .requeued _ => .none
  | .called _ => { t with calls := t.calls + 1 }
  | .ended _ (.ok _) => t
  | .ended _ (.error e) => { t with failures := t.failures ++ [e] }

/-- the tally of one id -/
def ofTale (u : Uuid) (hs : List Happening) : Tally := (hs.filter (·.id = u)).foldl add .none

end Tally

namespace Spot

/-- the failure that is not written down yet -/
def unwritten : Option Batch.Place → List PublishError
  | some (.ended ⟨_, .error e⟩) => [e]
  | _ => []

/-- the publish that is not written down yet -/
def begun : Option Batch.Place → Nat
  | some (.flying _) => 1
  | some (.ended _) => 1
  | _ => 0

/-- The failures `es` are written down in the record. -/
structure Charged (r : Record) (x : Option Batch.Place) (t : Tally) (es : List PublishError) : Prop where
  failures : t.failures = es ++ unwritten x
  count : r.retryCount.toNat = es.length
  message : ∀ e ∈ es.getLast?, r.lastError = some e.message
  calls : t.calls = es.length + begun x + if r.status = .processed then 1 else 0

theorem begun_le (x : Option Batch.Place) : begun x ≤ 1 := by
  cases x with
  | none => exact Nat.zero_le 1
  | some x =>
    cases x with
    | waiting q => exact Nat.zero_le 1
    | flying q => exact Nat.le_refl 1
    | ended o => exact Nat.le_refl 1

namespace Charged

variable {r : Record} {x : Option Batch.Place} {t : Tally} {es : List PublishError}

/-- Whatever the status, there was at most one publish more than there may be retries. -/
theorem calls_le (h : Charged r x t es) (hs : r.Sound) (hx : r.status ≠ .pending → x = none) :
    t.calls ≤ r.maxRetries.toNat + 1 := by
  rw [h.calls, ← h.count]
  have hbegun := begun_le x
  cases hst : r.status with
  | pending =>
    have hle := UInt32.le_iff_toNat_le.1 (hs.within (by rw [hst]; decide))
    rw [if_neg (by decide)]
    omega
  | processed =>
    have hle := UInt32.le_iff_toNat_le.1 (hs.within (by rw [hst]; decide))
    rw [hx (by rw [hst]; decide), if_pos rfl]
    exact Nat.succ_le_succ hle
  | failed =>
    rw [hs.exceeded hst, hx (by rw [hst]; decide), if_neg (by decide)]
    exact Nat.le_refl _

/-- A success is written down, and the failures before it stay. -/
theorem delivered {q : Record} {now : Timestamp} (h : Charged r (some (.ended ⟨q, .ok ()⟩)) t es)
    (hst : r.status = .pending) (hq : r = { q with availableAt := r.availableAt }) :
    Charged
      { r with
        status := .processed, retryCount := q.retryCount, lastError := q.lastError
        processedAt := some now }
      none t es where
  failures := h.failures
  count := by
    rw [← h.count, hq]
  message := by
    have hm := h.message
    rw [hq] at hm
    exact hm
  calls := by
    rw [h.calls, if_neg (by rw [hst]; decide)]
    rfl

/-- A failure is written down, and the last one is the one to be read. -/
theorem failed {q : Record} {e : PublishError} {now : Timestamp} {delay : Duration}
    (h : Charged r (some (.ended ⟨q, .error e⟩)) t es) (hst : r.status = .pending)
    (hq : r = { q with availableAt := r.availableAt }) (hs : r.Sound)
    (hm : r.maxRetries.toNat < 0xffffffff) :
    Charged
      (Store.outcome now delay (if Relay.exhausted q then .failed else .pending)
        (Relay.oneMore q.retryCount) (some e.message) r)
      none t (es ++ [e]) where
  failures := by
    rw [h.failures, List.append_assoc]
    rfl
  count := by
    have hcount : q.retryCount = r.retryCount := by rw [hq]
    have hle := UInt32.le_iff_toNat_le.1 (hs.within (by rw [hst]; decide))
    have hone := Relay.toNat_oneMore q.retryCount
    rw [hcount] at hone
    rw [Store.retryCount_outcome, hcount, List.length_append, List.length_singleton, ← h.count]
    omega
  message := by
    intro e' he'
    rw [List.getLast?_concat] at he'
    injection he' with he'
    rw [Store.lastError_outcome, he']
  calls := by
    have hnp : ¬ (if Relay.exhausted q then Status.failed else .pending) = .processed := by
      split <;> decide
    rw [h.calls, if_neg (by rw [hst]; decide), List.length_append, Store.status_outcome, if_neg hnp]
    rfl

end Charged

/-- A record with as many retries as 32 bits hold is retried for ever, and its count stops there. -/
def Within : Spot → Tally → Prop
  | ⟨none, _, _⟩, _ => True
  | ⟨some e, none, _⟩, t => e.maxRetries.toNat < 0xffffffff → t.calls ≤ e.maxRetries.toNat + 1
  | ⟨some e, some r, x⟩, t =>
    r.Sound ∧ r.maxRetries = e.maxRetries ∧
      (r.maxRetries.toNat < 0xffffffff → ∃ es, Charged r x t es)

namespace Within

variable {e : Event} {r : Record} {t : Tally}

/-- No more is said of a record that is removed. -/
theorem removed {x : Option Batch.Place} (h : Within ⟨some e, some r, x⟩ t)
    (hx : r.status ≠ .pending → x = none) (y : Option Batch.Place) : Within ⟨some e, none, y⟩ t := by
  obtain ⟨hs, hm, hc⟩ := h
  intro hlt
  rw [← hm] at hlt ⊢
  obtain ⟨es, hes⟩ := hc hlt
  exact hes.calls_le hs hx

theorem written {o : Outcome} {r' : Option Record} (hst : r.status = .pending)
    (hq : r = { o.record with availableAt := r.availableAt })
    (h : Within ⟨some e, some r, some (.ended o)⟩ t) (hw : Site.Written o (some r) r') :
    Within ⟨some e, r', none⟩ t := by
  have hgone := h.removed (fun hne => absurd hst hne) none
  obtain ⟨hs, hm, hc⟩ := h
  have hle : o.record.retryCount ≤ o.record.maxRetries := by
    have hle := hs.within (by rw [hst]; decide)
    rw [hq] at hle
    exact hle
  have hmax : o.record.maxRetries = r.maxRetries := by rw [hq]
  obtain ⟨q, result⟩ := o
  cases hw with
  | delivered hok _ =>
    cases hok
    refine ⟨⟨⟨fun _ => rfl, fun _ => rfl⟩, fun _ => hmax ▸ hle, nofun⟩, hm, fun hlt => ?_⟩
    obtain ⟨es, hes⟩ := hc hlt
    exact ⟨es, hes.delivered hst hq⟩
  | removed hok => exact hgone
  | failed he _ =>
    cases he
    refine ⟨.failed hle hmax, Store.maxRetries_outcome.trans hm, fun hlt => ?_⟩
    rw [Store.maxRetries_outcome] at hlt
    obtain ⟨es, hes⟩ := hc hlt
    exact ⟨_, hes.failed hst hq hs hlt⟩

end Within

theorem Goes.within {u : Uuid} {p p' : Spot} {ns : List Happening} {t : Tally} (h : p.Goes u ns p')
    (hp : p.Tidy) (hw : p.Within t) : p'.Within (ns.foldl Tally.add t) := by
  cases h with
  | stays => exact hw
  | @stored e hid => exact ⟨.event e, rfl, fun _ => ⟨[], rfl, rfl, nofun, rfl⟩⟩
  | @claimed _ r time hst =>
    obtain ⟨e, rfl⟩ := hp.known rfl
    obtain ⟨hs, hm, hc⟩ := hw
    refine ⟨.pending hst (hs.none_of_pending hst) (hs.within (by rw [hst]; decide)), hm, fun hlt => ?_⟩
    obtain ⟨es, hes⟩ := hc hlt
    exact ⟨es, hes.failures, hes.count, hes.message, hes.calls⟩
  | @spared _ _ q =>
    obtain ⟨e, r, heq, _, _⟩ := hp.stored (x := .waiting q) rfl
    cases heq
    obtain ⟨hs, hm, hc⟩ := hw
    refine ⟨hs, hm, fun hlt => ?_⟩
    obtain ⟨es, hes⟩ := hc hlt
    exact ⟨es, hes.failures, hes.count, hes.message, hes.calls⟩
  | @called _ _ q =>
    obtain ⟨e, r, heq, _, _⟩ := hp.stored (x := .waiting q) rfl
    cases heq
    obtain ⟨hs, hm, hc⟩ := hw
    refine ⟨hs, hm, fun hlt => ?_⟩
    obtain ⟨es, hes⟩ := hc hlt
    refine ⟨es, hes.failures, hes.count, hes.message, ?_⟩
    show t.calls + 1 = es.length + 1 + _
    rw [hes.calls]
    exact Nat.add_right_comm _ _ 1
  | @ended _ _ q result =>
    obtain ⟨e, r, heq, _, _⟩ := hp.stored (x := .flying q) rfl
    cases heq
    obtain ⟨hs, hm, hc⟩ := hw
    refine ⟨hs, hm, fun hlt => ?_⟩
    obtain ⟨es, hes⟩ := hc hlt
    have hfailures := hes.failures
    cases result with
    | ok => exact ⟨es, hfailures, hes.count, hes.message, hes.calls⟩
    | error err =>
      refine ⟨es, ?_, hes.count, hes.message, hes.calls⟩
      show t.failures ++ [err] = es ++ [err]
      rw [hfailures]
      exact congrArg (· ++ [err]) (List.append_nil es)
  | @written _ o _ r' h =>
    obtain ⟨e, r, heq, hst, hq⟩ := hp.stored (x := .ended o) rfl
    cases heq
    exact hw.written hst hq h
  | requeued hst =>
    obtain ⟨e, rfl⟩ := hp.known rfl
    exact ⟨.pending rfl rfl UInt32.zero_le, hw.2.1,
      fun _ => ⟨[], rfl, rfl, nofun, rfl⟩⟩
  | purged hst =>
    obtain ⟨e, rfl⟩ := hp.known rfl
    exact hw.removed (fun _ => rfl) none

end Spot

namespace Site

variable {α : Type}

/-- What the tally of its id says about a record whose failures are all written down. -/
structure Accords (r : Record) (t : Tally) : Prop where
  count : r.retryCount.toNat = t.failures.length
  within : r.status ≠ .failed → t.failures.length ≤ r.maxRetries.toNat
  exceeded : r.status = .failed → t.failures.length = r.maxRetries.toNat + 1
  message : ∀ e ∈ t.failures.getLast?, r.lastError = some e.message

theorem Accords.ofCharged {r : Record} {t : Tally} {es : List PublishError}
    (h : Spot.Charged r none t es) (hs : r.Sound) : Accords r t := by
  have hfailures : t.failures = es := h.failures.trans (List.append_nil es)
  refine ⟨?_, fun hst => ?_, fun hst => ?_, ?_⟩
  · rw [hfailures]
    exact h.count
  · rw [hfailures, ← h.count]
    exact UInt32.le_iff_toNat_le.1 (hs.within hst)
  · rw [hfailures, ← h.count]
    exact hs.exceeded hst
  · rw [hfailures]
    exact h.message

/-- The records of `s` are charged for the publishes that the relay `i` made in the tale `hs`. -/
structure Budgeted (i : Nat) (s : Site α) (hs : List Happening) : Prop where
  /-- at all times, and of records that are gone too -/
  calls : ∀ e ∈ s.committed, e.maxRetries.toNat < 0xffffffff →
    (Tally.ofTale e.id hs).calls ≤ e.maxRetries.toNat + 1
  /-- between two ticks -/
  charged : (s.relays i).isFree = true → ∀ id r, s.outbox.get? id = some r →
    r.maxRetries.toNat < 0xffffffff → Accords r (Tally.ofTale id hs)
  /-- A record for which the lease is too short is left as it is, and no publish is told of. -/
  spared : ∀ c t, s.relays i = .busy c t → ∀ start elapsed, t.fits elapsed = false →
    ((s.atTime start elapsed).act (.move i .start)).outbox = s.outbox ∧
      (s.atTime start elapsed).news (.move i .start) = []

/-- Where the lease is too short, nothing starts. -/
theorem start_of_late {i c : Nat} {s : Site α} {t : Batch} (hr : s.relays i = .busy c t)
    (hfit : t.fits s.world.elapsed = false) :
    (s.act (.move i .start)).outbox = s.outbox ∧ s.news (.move i .start) = [] := by
  have heffect := act_effect (a := .move i .start) (fun _ _ _ h => nomatch h) s
  show (s.act (.move i .start)).view.outbox = s.outbox ∧ _
  generalize (s.act (.move i .start)).view = v at heffect ⊢
  generalize s.news (.move i .start) = ns at heffect ⊢
  cases heffect with
  | nothing => exact ⟨rfl, rfl⟩
  | stored ha es => cases ha
  | late _ _ _ => exact ⟨rfl, rfl⟩
  | started hr' _ hfit' =>
    cases hr.symm.trans hr'
    rw [hfit] at hfit'
    cases hfit'

/-- **A relay that is alone keeps to the retries.**  One relay ticks again and again on an outbox that was
empty at first and does not fail, while events are enqueued, units of work come and go, dead letters are
requeued, old records are purged, and the broker fails as it likes or takes too long.  Every record has
been charged for just those publishes that failed since its event was stored or it was requeued, and it
was published at most once more than it may be retried. -/
theorem retries_within_budget (i : Nat) (w : World) (xs : List (Step α))
    (hxs : (Site.new w).RunOk (Alone i) xs) :
    Budgeted i ((Site.new w).run xs) ((Site.new w).tale xs) := by
  have hwithin := run_spots (J := fun _ p hs => p.Within (hs.foldl Tally.add .none)) w
    (fun _ => trivial)
    (fun u p ns p' hs h ht hg => by rw [List.foldl_append]; exact hg.within ht h) hxs
  refine ⟨fun e he hlt => ?_, fun hfree id r hr hlt => ?_, fun c t hr start elapsed hfit => ?_⟩
  · obtain ⟨htidy, hw⟩ := hwithin e.id
    unfold View.spot at htidy hw
    rw [show View.committed _ = ((Site.new w).run xs).committed from rfl,
      find?_of_committed (committed_nodup hxs) he] at htidy hw
    cases hg : ((Site.new w).run xs).view.outbox.get? e.id with
    | none =>
      rw [hg] at hw
      exact hw hlt
    | some r =>
      rw [hg] at htidy hw
      obtain ⟨hs, hm, hc⟩ := hw
      rw [← hm] at hlt ⊢
      obtain ⟨es, hes⟩ := hc hlt
      exact hes.calls_le hs fun hst => htidy.place_eq_none rfl hst
  · obtain ⟨htidy, hw⟩ := hwithin id
    obtain ⟨e, he⟩ := htidy.known hr
    rw [spot_of_isFree hfree, hr] at he hw
    rw [show List.find? _ _ = some e from he] at hw
    obtain ⟨hs, _, hc⟩ := hw
    obtain ⟨es, hes⟩ := hc hlt
    exact .ofCharged hes hs
  · exact start_of_late (s := Site.atTime start elapsed _) hr hfit

/-- One event is requeued after its only failure; its next publish finds the lease too short, and the
one after that takes too long.  Another has a retry left. -/
theorem retries_within_budget_requeued :
    let w : World := { (default : World) with lease := .ofSecs 60 }
    let event (n : Nat) (retries : UInt32) :=
      { Event.create (.ofNat n) "Todo" (.ofNat 7) "todos" "TODO_CREATED" .null .epoch with
        maxRetries := retries }
    let minute := 60 * 1000000000
    let xs : List (Step Unit) :=
      [⟨.epoch, 0, .script [.unavailable "a", .unavailable "b"] [] none []⟩,
        ⟨.epoch, 0, .enqueue (event 1 0)⟩, ⟨.epoch, 0, .tick 0 .standard⟩, ⟨.epoch, 0, .claim 0⟩,
        ⟨.epoch, 0, .move 0 .start⟩, ⟨.epoch, 0, .conclude 0 0 true⟩,
        ⟨.epoch, 1, .requeue (.ofNat 1)⟩, ⟨.epoch, 1, .tick 0 .standard⟩, ⟨.epoch, 1, .claim 0⟩,
        ⟨.epoch, minute, .move 0 .start⟩, ⟨.epoch, 1 + minute, .tick 0 .standard⟩,
        ⟨.epoch, 1 + minute, .claim 0⟩, ⟨.epoch, 1 + minute, .move 0 .start⟩,
        ⟨.epoch, 2 + minute, .move 0 (.land 0 false)⟩, ⟨.epoch, 3 + minute, .move 0 (.settle 0)⟩,
        ⟨.epoch, 3 + minute, .enqueue (event 2 5)⟩, ⟨.epoch, 3 + minute, .tick 0 .standard⟩,
        ⟨.epoch, 3 + minute, .claim 0⟩, ⟨.epoch, 3 + minute, .move 0 .start⟩,
        ⟨.epoch, 4 + minute, .conclude 0 0 true⟩]
    ((Site.new w).RunOk (Alone 0) xs ∧ (((Site.new w).run xs).relays 0).isFree = true ∧
        ((Site.new w).run xs).outbox.records.map (fun r => (r.id, r.status, r.retryCount)) =
          [(.ofNat 1, .failed, 1), (.ofNat 2, .pending, 1)] ∧
        Tally.ofTale (.ofNat 1) ((Site.new w).tale xs) = ⟨1, [.timedOut (.ofSecs 10)]⟩ ∧
        Tally.ofTale (.ofNat 2) ((Site.new w).tale xs) = ⟨1, [.unavailable "b"]⟩) ∧
      Budgeted 0 ((Site.new w).run xs) ((Site.new w).tale xs) :=
  have h := by decide +kernel
  ⟨⟨h, by decide +kernel, by decide +kernel, by decide +kernel, by decide +kernel⟩,
    retries_within_budget 0 _ _ h⟩

end Site
end Outbox
