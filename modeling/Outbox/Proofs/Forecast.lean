import Outbox.Proofs.DeliveryOrder
import Outbox.Proofs.LeaseBudget
import Outbox.Proofs.Lifecycle

/-!
# What a record says of its next failure

A record can be asked whether one more failure is one too many, and a relay decides the same when a publish
has failed.  The sum of the record overflows at the largest count, the relay stops there.

* `Record.forecast_eq`             below the largest count the forecast is what the relay decides;
* `Record.forecast_of_largest`     at the largest count there is none;
* `World.write_of_pending`         without faults a pending record takes on the status that is written;
* `Batch.failures`                 the publishes of a batch that fail, or are cut off;
* `Failing`                        how far a record is whose publish fails;
* `Failing.move`, `Failing.play`   each move of the batch keeps to that;
* `forecast_of_failure`            the status of the record when the tick is over.
-/

namespace Outbox

open Scenario (World)

/-! ## the two sums -/

namespace Record

open Relay (exhausted oneMore)

theorem forecast_eq {r : Record} (h : r.retryCount ≠ 0xffffffff) :
    r.exhaustedAfterFailure = .ok (exhausted r) := by
  unfold exhausted exhaustedAfterFailure oneMore
  rw [if_neg h, if_neg h]

/-- The sum of the record overflows. -/
theorem forecast_of_largest {r : Record} (h : r.retryCount = 0xffffffff) :
    r.exhaustedAfterFailure = .error .overflow := by
  unfold exhaustedAfterFailure
  exact if_pos h

/-- The sum of the relay stays where it is. -/
theorem exhausted_of_largest {r : Record} (h : r.retryCount = 0xffffffff) :
    exhausted r = true ↔ r.maxRetries ≠ 0xffffffff := by
  have hcount : (oneMore r.retryCount).toNat = 0xffffffff := by rw [h]; rfl
  have hmax : r.maxRetries = 0xffffffff ↔ r.maxRetries.toNat = 0xffffffff := UInt32.toNat_inj.symm
  have hlt := r.maxRetries.toNat_lt
  rw [Relay.exhausted_iff, hcount, Ne, hmax]
  omega

end Record

/-! ## writes without faults -/

namespace Scenario.World

variable {w w' v : World} {lease : Duration} {t t' : Relay.Batch} {m : Relay.Move}

/-- Without faults a pending record takes on the status that is written for it. -/
theorem write_of_pending {id : Uuid} {st : Status} {n : UInt32} {err : Option String}
    {reply : Except StoreError Unit} {q : Record} (hf : w.faults = [])
    (hq : w.stores.outbox.get? id = some q) (hst : q.status = .pending)
    (h : w.write (.update id st n err) = (reply, v)) :
    ∃ q', v.stores.outbox.get? id = some q' ∧ q'.status = st := by
  rcases write_cases h with ⟨e, rfl, _⟩ | ⟨_, delay, s, hs, ha⟩
  · obtain ⟨delay, e', he⟩ := write_error h hf
    obtain ⟨s, hs, _⟩ := Store.update_of_get? hq hst w.now delay st n err
    have he : w.stores.outbox.update w.now delay id st n err = .error e' := he
    rw [hs] at he
    cases he
  · obtain ⟨r, _, _, hget⟩ := Store.get?_update hs
    have hsame : v.stores.outbox = s := (congrArg Stores.outbox ha.stores).symm
    refine ⟨Store.outcome w.now delay st n err r, ?_, Store.status_outcome⟩
    rw [hsame, hget id, if_pos rfl]

/-- A write changes nothing but the record it is about. -/
theorem get?_of_write {wr : Write} {reply : Except StoreError Unit} (h : w.write wr = (reply, v))
    {id : Uuid} (hid : id ≠ wr.id) : v.stores.outbox.get? id = w.stores.outbox.get? id := by
  rcases write_cases h with ⟨_, _, ha⟩ | ⟨_, _, s, hs, ha⟩
  · rw [ha.stores]
  · have hsame : v.stores.outbox = s := (congrArg Stores.outbox ha.stores).symm
    rw [hsame, Store.get?_write hs hid]

theorem faults_changed (hf : w.faults = []) (r : Except StoreError Store) :
    (w.changed r).2.faults = [] := by
  cases r <;> exact hf

theorem faults_delay (n : UInt32) : (w.delay n).2.faults = w.faults := by
  unfold delay
  rcases w.chance.next with ⟨sway, chance⟩
  rfl

theorem faults_write (hf : w.faults = []) (wr : Write) : (w.write wr).2.faults = [] := by
  cases wr with
  | update id st n err =>
    rw [write_update, method_of_steady _ _ hf]
    exact faults_changed ((faults_delay n).trans hf) _
  | delete id =>
    rw [write_delete, method_of_steady _ _ hf]
    exact faults_changed hf _

theorem faults_logAll (e : Option Log.Entry) : ((backend lease).logAll e w).faults = w.faults := by
  cases e <;> rfl

/-- No move adds a fault. -/
theorem faults_moved (hf : w.faults = []) (h : Relay.Batch.Moved (backend lease) t w m t' w') :
    w'.faults = [] := by
  cases h with
  | nothing _ => exact hf
  | late _ _ => exact hf
  | started _ _ _ => exact hf
  | @landed i f inTime result v _ ha =>
    rw [faults_logAll]
    obtain ⟨b, rfl, _⟩ := arrive_cases ha
    exact hf
  | @settled i o reply v _ hw =>
    rw [faults_logAll]
    have hv := faults_write hf (Relay.writeFor t.config.completion o.record o.result)
    have hw : w.write (Relay.writeFor t.config.completion o.record o.result) = (reply, v) := hw
    rwa [hw] at hv

end Scenario.World

namespace Relay

/-! ## publishes that fail -/

namespace Batch

variable {σ : Type}

/-- the publish that a move ends, if it fails -/
def failure? (b : Backend σ) (t : Batch) (s : σ) : Move → Option (Record × PublishError)
  | .land i inTime =>
    t.flights[i]?.bind fun f =>
      match (t.arrive b f.record inTime s).1 with
      | .ok () => none
      | .error e => some (f.record, e)
  | _ => none

/-- the publishes that fail in some turns, or are cut off -/
def failures (b : Backend σ) : List (Turn σ) → Batch → σ → List (Record × PublishError)
  | [], _, _ => []
  | x :: xs, t, s =>
    let next := t.move b (x.before s) x.move
    (t.failure? b (x.before s) x.move).toList ++ failures b xs next.1 next.2

variable {b : Backend σ} {t t' : Batch} {s s' : σ} {m : Move}

theorem Moved.records_subperm (h : Moved b t s m t' s') : t'.records.Subperm t.records :=
  (List.sublist_append_right _ _).subperm.trans (h.leftBehind 0).2

/-- A publish that fails leaves an outcome that says so. -/
theorem Moved.mem_outcomes_of_failure (h : Moved b t s m t' s') {r : Record} {e : PublishError}
    (he : t.failure? b s m = some (r, e)) : ⟨r, .error e⟩ ∈ t'.outcomes := by
  cases h with
  | nothing hm =>
    cases m with
    | start => cases he
    | land i inTime =>
      rw [failure?, hm i inTime rfl] at he
      cases he
    | settle i => cases he
  | late _ _ => cases he
  | started _ _ _ => cases he
  | @landed i f inTime result w hf ha =>
    rw [failure?, hf, Option.bind_some, ha] at he
    cases result with
    | ok => cases he
    | error e' =>
      cases he
      exact List.mem_append_right _ (List.mem_singleton_self _)
  | settled _ _ => cases he

/-- A publish fails of a record that is in the batch. -/
theorem mem_records_of_failures {xs : List (Turn σ)} {r : Record} {e : PublishError}
    (h : (r, e) ∈ t.failures b xs s) : r ∈ t.records := by
  induction xs generalizing t s with
  | nil => exact absurd h List.not_mem_nil
  | cons x xs ih =>
    have hmoved := moved b t (x.before s) x.move
    refine hmoved.mem_records ((List.mem_append.1 h).elim (fun he => ?_) ih)
    exact mem_records_of_outcome (hmoved.mem_outcomes_of_failure (Option.mem_toList.1 he))

end Batch

/-! ## a record whose publish fails -/

/-- Of a claimed record it is known what is stored for it: until its outcome is written it is pending, and
a failure, one of `fs`, is then written as the relay decides. -/
structure Failing (r : Record) (fs : List (Record × PublishError)) (t : Batch) (s : Store) : Prop where
  distinct : (t.records.map Record.id).Nodup
  pending : r ∈ t.records → ∃ q, s.get? r.id = some q ∧ q.status = .pending
  told : ∀ e, (r, e) ∈ fs → ⟨r, .error e⟩ ∈ t.outcomes ∨
    r.id ∉ t.records.map Record.id ∧
      ∃ q, s.get? r.id = some q ∧ q.status = if exhausted r then .failed else .pending

namespace Failing

variable {r : Record} {fs fs' : List (Record × PublishError)} {t t' : Batch} {s s' : Store}

theorem new (config : Config) (lease : Duration) (began : Nat) (now : Timestamp) (o : Store)
    (limit : Nat) :
    Failing r [] (.ofRecords config lease began (o.claim now lease limit).1)
      (o.claim now lease limit).2 where
  distinct := by
    rw [Batch.records_ofRecords]
    exact Store.claim_nodup o now lease limit
  pending := fun hr => by
    rw [Batch.records_ofRecords] at hr
    exact ⟨_, Store.get?_claim_of_mem hr, (Store.mem_claim hr).2.1⟩
  told := fun _ he => absurd he List.not_mem_nil

/-- What is stored for the record stays as it is. -/
theorem goOn (h : Failing r fs t s) (hrecords : t'.records.Subperm t.records)
    (houtcomes : ∀ e, ⟨r, .error e⟩ ∈ t.outcomes → ⟨r, .error e⟩ ∈ t'.outcomes)
    (hsame : s'.get? r.id = s.get? r.id) : Failing r fs t' s' where
  distinct := by
    obtain ⟨rs, hperm, hsublist⟩ := hrecords
    exact (hperm.map Record.id).nodup_iff.1 ((hsublist.map Record.id).nodup h.distinct)
  pending := fun hr => by
    rw [hsame]
    exact h.pending (hrecords.subset hr)
  told := fun e he => by
    rw [hsame]
    exact (h.told e he).imp (houtcomes e) fun ⟨hgone, hq⟩ =>
      ⟨fun hr => hgone (List.map_subset _ hrecords.subset hr), hq⟩

/-- One more publish has failed. -/
theorem add (h : Failing r fs t s) (hfs : ∀ e, (r, e) ∈ fs' → ⟨r, .error e⟩ ∈ t.outcomes) :
    Failing r (fs ++ fs') t s :=
  { h with told := fun e he => (List.mem_append.1 he).elim (h.told e) fun he => Or.inl (hfs e he) }

/-- An outcome is written. -/
theorem settled {w v : World} (h : Failing r fs t w.stores.outbox) (hf : w.faults = []) {i : Nat}
    {o : Outcome} {reply : Except StoreError Unit} (ho : t.outcomes[i]? = some o)
    (hw : w.write (writeFor t.config.completion o.record o.result) = (reply, v)) (report : Report) :
    Failing r fs { t with outcomes := t.outcomes.eraseIdx i, report } v.stores.outbox := by
  have hperm := Batch.records_settled ho report
  have hrest : t.outcomes.Perm (o :: t.outcomes.eraseIdx i) := by
    obtain ⟨hlt, rfl⟩ := List.getElem?_eq_some_iff.1 ho
    exact (List.getElem_cons_eraseIdx_perm hlt).symm
  by_cases hid : o.record.id = r.id
  · -- the record is out of the batch now, and none of its id was there beside it
    have hnodup := (hperm.map Record.id).nodup_iff.1 h.distinct
    rw [List.map_cons, List.nodup_cons] at hnodup
    have hgone := hid ▸ hnodup.1
    refine ⟨hnodup.2, fun hr => absurd (List.mem_map_of_mem hr) hgone, fun e he => Or.inr ⟨hgone, ?_⟩⟩
    rcases h.told e he with hmem | ⟨hgone', _⟩
    · rcases List.mem_cons.1 (hrest.subset hmem) with rfl | hmem
      · obtain ⟨q, hq, hst⟩ := h.pending (Batch.mem_records_of_outcome (List.mem_of_getElem? ho))
        exact World.write_of_pending hf hq hst hw
      · have hr : r ∈ ({ t with outcomes := t.outcomes.eraseIdx i, report } : Batch).records :=
          Batch.mem_records_of_outcome (o := ⟨r, .error e⟩) hmem
        exact absurd (List.mem_map_of_mem hr) hgone
    · refine absurd ?_ hgone'
      rw [← hid]
      exact List.mem_map_of_mem (Batch.mem_records_of_outcome (List.mem_of_getElem? ho))
  · refine h.goOn ((List.sublist_cons_self _ _).subperm.trans hperm.symm.subperm) (fun e he => ?_) ?_
    · refine (List.mem_cons.1 (hrest.subset he)).resolve_left fun heq => hid ?_
      rw [← heq]
    · refine World.get?_of_write hw ?_
      rw [writeFor_id]
      exact fun h => hid h.symm

/-- Each move gets on with the batch. -/
theorem move (lease : Duration) {w : World} (h : Failing r fs t w.stores.outbox) (hf : w.faults = []) (m : Move) :
    Failing r (fs ++ (t.failure? (World.backend lease) w m).toList)
        (t.move (World.backend lease) w m).1 (t.move (World.backend lease) w m).2.stores.outbox ∧
      (t.move (World.backend lease) w m).2.faults = [] := by
  have hmoved := Batch.moved (World.backend lease) t w m
  generalize t.move (World.backend lease) w m = next at hmoved ⊢
  obtain ⟨t', w'⟩ := next
  dsimp only at hmoved ⊢
  refine ⟨Failing.add ?_ fun e he => hmoved.mem_outcomes_of_failure (Option.mem_toList.1 he),
    World.faults_moved hf hmoved⟩
  have hrecords := hmoved.records_subperm
  cases hmoved with
  | nothing _ => exact h
  | late _ _ => exact h.goOn hrecords (fun _ he => he) rfl
  | started _ _ _ => exact h.goOn hrecords (fun _ he => he) rfl
  | @landed i f inTime result v _ ha =>
    refine h.goOn hrecords (fun _ he => List.mem_append_left _ he) ?_
    have hlog := World.logAll_alike lease (published f.record result) v
    obtain ⟨b, rfl, _⟩ := World.arrive_cases ha
    rw [← hlog.stores]
  | @settled i o reply v ho hw =>
    have hlog := World.logAll_alike lease (written o.record o.result reply) v
    rw [← hlog.stores]
    exact h.settled hf ho hw _

/-- So does any number of turns, between which nobody else changes what is stored for the record. -/
theorem play (lease : Duration) {xs : List (Turn World)}
    (hxs : ∀ x ∈ xs, ∀ v : World, v.faults = [] → (x.before v).faults = [] ∧
      (x.before v).stores.outbox.get? r.id = v.stores.outbox.get? r.id)
    {w : World} (h : Failing r fs t w.stores.outbox) (hf : w.faults = []) :
    Failing r (fs ++ t.failures (World.backend lease) xs w) (t.play (World.backend lease) xs w).1
      (t.play (World.backend lease) xs w).2.stores.outbox := by
  induction xs generalizing fs t w with
  | nil =>
    rw [Batch.failures, List.append_nil]
    exact h
  | cons x xs ih =>
    rw [List.forall_mem_cons] at hxs
    obtain ⟨hf', hsame⟩ := hxs.1 w hf
    have h' := h.goOn (List.Subperm.refl _) (fun _ he => he) hsame
    obtain ⟨hnext, hfaults⟩ := h'.move lease hf' x.move
    rw [Batch.failures, Batch.play, ← List.append_assoc]
    exact ih hxs.2 hnext hfaults

/-- In the end every failure is written. -/
theorem finish (h : Failing r fs t s) (hfin : t.finished = true) {e : PublishError} (he : (r, e) ∈ fs) :
    ∃ q, s.get? r.id = some q ∧ q.status = if exhausted r then .failed else .pending := by
  have hnone := (Batch.finished_iff.1 hfin).2.2
  refine ((h.told e he).resolve_left fun hmem => ?_).2
  rw [hnone] at hmem
  exact absurd hmem List.not_mem_nil

end Failing

/-! ## ticks -/

/-- A world in memory without faults claims what its store claims. -/
theorem claim_of_faultless (config : Config) (began : Nat) {w : World} (hw : w.faults = []) :
    let claimed := w.stores.outbox.claim w.now w.lease config.batchSize
    (Batch.claim (World.backend w.lease) config began w).1 =
        .ok (.ofRecords config w.lease began claimed.1) ∧
      (Batch.claim (World.backend w.lease) config began w).2.stores.outbox = claimed.2 ∧
      (Batch.claim (World.backend w.lease) config began w).2.faults = [] := by
  intro claimed
  have hclaim : (World.backend w.lease).claim config.batchSize w = (.ok claimed.1, w.withOutbox claimed.2) :=
    World.method_of_steady .fetch _ hw
  have hreply : ((World.backend w.lease).claim config.batchSize w).1 = .ok claimed.1 :=
    congrArg Prod.fst hclaim
  obtain ⟨e, he⟩ := Batch.exists_claim_log began hreply
  have hlog := World.logAll_alike w.lease e (w.withOutbox claimed.2)
  rw [he, hclaim]
  refine ⟨Batch.claim_of_ok began hreply, ?_, ?_⟩
  · rw [← hlog.stores]
    rfl
  · rw [World.faults_logAll]
    exact hw

/-- **The forecast of a record.**  A tick claims a record and its publish fails or is cut off.  The broker
answers anything at all, any number of publishes may be under way, and others may do anything meanwhile
that leaves alone what is stored for the record.  When the tick is over the forecast has said whether the
record is a dead letter, unless its failures had been counted as far as 32 bits go: then there is no
forecast, and the record is a dead letter unless it has as many retries. -/
theorem forecast_of_failure (config : Config) (began : Nat) {w : World} (hw : w.faults = []) {r : Record}
    {xs : List (Turn World)}
    (hxs : ∀ x ∈ xs, ∀ v : World, v.faults = [] → (x.before v).faults = [] ∧
      (x.before v).stores.outbox.get? r.id = v.stores.outbox.get? r.id) :
    let b := World.backend w.lease
    let batch := (w.stores.outbox.claim w.now w.lease config.batchSize).1
    let t := Batch.ofRecords config w.lease began batch
    let ended := Batch.tick b config began w xs
    ∀ e, (r, e) ∈ t.failures b xs (Batch.claim b config began w).2 → ended.1.isSome = true →
      (w.stores.outbox.get? r.id = some r ∧ r.status = .pending ∧ r.availableAt ≤ w.now) ∧
        ∃ q, ended.2.stores.outbox.get? r.id = some q ∧
          (r.retryCount ≠ 0xffffffff → r.exhaustedAfterFailure = .ok (decide (q.status = .failed))) ∧
          (r.retryCount = 0xffffffff → r.exhaustedAfterFailure = .error .overflow ∧
            (q.status = .failed ↔ r.maxRetries ≠ 0xffffffff)) := by
  intro b batch t ended e he hover
  obtain ⟨hclaim, hstore, hfaults⟩ := claim_of_faultless config began hw
  have hended : ended = _ := Batch.tick_of_ok hclaim xs
  rw [hended] at hover ⊢
  have hfin : (t.play b xs (Batch.claim b config began w).2).1.finished = true := by
    by_contra hfin
    rw [if_neg hfin] at hover
    cases hover
  have hr : r ∈ batch := by
    have hr := Batch.mem_records_of_failures he
    rwa [Batch.records_ofRecords] at hr
  have hnew : Failing r [] t (Batch.claim b config began w).2.stores.outbox := by
    rw [hstore]
    exact Failing.new config w.lease began w.now w.stores.outbox config.batchSize
  obtain ⟨q, hq, hst⟩ := (hnew.play w.lease hxs hfaults).finish hfin he
  have hfailed : q.status = .failed ↔ exhausted r = true := by
    rw [hst]
    cases exhausted r <;> decide
  refine ⟨Store.mem_claim hr, q, hq, fun hcount => ?_, fun hcount => ?_⟩
  · have hsame : decide (q.status = .failed) = exhausted r :=
      Bool.eq_iff_iff.2 (decide_eq_true_iff.trans hfailed)
    rw [hsame]
    exact Record.forecast_eq hcount
  · exact ⟨Record.forecast_of_largest hcount, hfailed.trans (Record.exhausted_of_largest hcount)⟩

/-- The failures of a record have been counted as far as 32 bits go.  There is no forecast, and the next
failure makes it a dead letter. -/
theorem forecast_overflows :
    let r : Record :=
      { (Event.create (.ofNat 1) "Todo" (.ofNat 7) "gone" "TODO_CREATED" .null .epoch).record with
        retryCount := 0xffffffff }
    let w : World :=
      { (default : World) with
        stores := { (default : Stores) with outbox := Store.empty.put r }
        broker := (Broker.empty none).markMissing "gone"
        lease := .ofSecs 60 }
    let ended := Batch.tickAtOnce (World.backend w.lease) .standard w
    r.exhaustedAfterFailure = .error .overflow ∧ ended.1 = .ok ⟨1, 0, 0, 1, 0, 0⟩ ∧
      ended.2.stores.outbox.records.map (fun r => (r.id, r.status)) = [(r.id, .failed)] := by
  decide +kernel

/-- A publish is cut off, and the failure is the last one that is counted. -/
theorem forecast_of_failure_last :
    let r : Record :=
      { (Event.create (.ofNat 1) "Todo" (.ofNat 7) "todos" "TODO_CREATED" .null .epoch).record with
        retryCount := 0xfffffffe, maxRetries := 0xfffffffe }
    let w : World :=
      { (default : World) with
        stores := { (default : Stores) with outbox := Store.empty.put r }
        lease := .ofSecs 60 }
    let b := World.backend w.lease
    let batch := (w.stores.outbox.claim w.now w.lease Config.standard.batchSize).1
    let xs : List (Turn World) := [⟨id, .start⟩, ⟨id, .land 0 false⟩, ⟨id, .settle 0⟩]
    let failures := (Batch.ofRecords .standard w.lease 0 batch).failures b xs (Batch.claim b .standard 0 w).2
    let ended := Batch.tick b .standard 0 w xs
    (w.faults = [] ∧
        (∀ x ∈ xs, ∀ v : World, v.faults = [] → (x.before v).faults = [] ∧
          (x.before v).stores.outbox.get? r.id = v.stores.outbox.get? r.id) ∧
        (r, .timedOut (.ofSecs 10)) ∈ failures ∧ ended.1.isSome = true) ∧
      r.exhaustedAfterFailure = .ok true ∧
      ∃ q, ended.2.stores.outbox.get? r.id = some q ∧ q.status = .failed := by
  intro r w b batch xs failures ended
  have hxs : ∀ x ∈ xs, ∀ v : World, v.faults = [] → (x.before v).faults = [] ∧
      (x.before v).stores.outbox.get? r.id = v.stores.outbox.get? r.id := by
    have hid (v : World) (hv : v.faults = []) :
        v.faults = [] ∧ v.stores.outbox.get? r.id = v.stores.outbox.get? r.id := ⟨hv, rfl⟩
    simp only [xs, List.forall_mem_cons]
    exact ⟨hid, hid, hid, fun _ h => absurd h List.not_mem_nil⟩
  have hcutOff : (r, .timedOut (.ofSecs 10)) ∈ failures := by
    have hids : failures.map (fun p => (p.1.id, p.2)) = [(r.id, .timedOut (.ofSecs 10))] := by
      decide +kernel
    have hmem : (r.id, .timedOut (.ofSecs 10)) ∈ failures.map fun p => (p.1.id, p.2) := by
      rw [hids]
      exact List.mem_singleton_self _
    obtain ⟨⟨q, e⟩, hq, heq⟩ := List.mem_map.1 hmem
    obtain ⟨hid, rfl⟩ := Prod.mk.inj heq
    -- the failed record is one of the batch, and so is stored under its id
    have hbatch := Batch.mem_records_of_failures hq
    rw [Batch.records_ofRecords] at hbatch
    have hstored : w.stores.outbox.get? r.id = some r := rfl
    have hid : q.id = r.id := hid
    have hqr := (Store.mem_claim hbatch).1
    rw [hid, hstored] at hqr
    rwa [Option.some.inj hqr]
  have hover : ended.1.isSome = true := by decide +kernel
  obtain ⟨_, q, hq, hfailed, _⟩ := forecast_of_failure .standard 0 (w := w) rfl hxs _ hcutOff hover
  have hsaid : r.exhaustedAfterFailure = .ok (decide (q.status = .failed)) := hfailed (by decide)
  have hyes : r.exhaustedAfterFailure = .ok true := rfl
  rw [hyes] at hsaid
  exact ⟨⟨rfl, hxs, hcutOff, hover⟩, hyes, q, hq, of_decide_eq_true (Except.ok.inj hsaid).symm⟩

end Relay

end Outbox
