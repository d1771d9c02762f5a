import Outbox.Proofs.DueOrder
import Outbox.Proofs.Ledger
import Outbox.Proofs.World

/-!
# The order of the deliveries of a batch does not matter

The publishes of a batch start, end and are written down in any order.  Each write is about a record of
its own, so what a tick comes to is what its records come to one by one.

* `Store.update_of_get?`, `Store.delete_of_get?`   a write lists the other records as before;
* `Still`               what stands still during a tick: the time of day, the delays and the answers;
* `Still.conclude`      what becomes of a claimed record, whatever becomes of the others;
* `Still.fate`          what becomes of a stored record;
* `Still.exists_write`  the write after a publish does what `conclude` says;
* `Steady`              a backend with a store in memory, under such conditions;
* `World.unswayed`      such a backend: a world in which every draw of chance comes out the same;
* `Batch.InTime`        no record is left for a later claim, and no publish is cut off;
* `Concluded`           how far a tick is: the records that are done, and those that are not;
* `Concluded.move`      each move gets on with the batch;
* `tick_any_order`      in the end all records are done, and nothing else is changed.
-/

namespace Outbox

namespace Store

variable {s : Store} {id : Uuid} {r : Record}

/-- An update lists the other records as before. -/
theorem update_of_get? (h : s.get? id = some r) (hst : r.status = .pending) (now : Timestamp)
    (delay : Duration) (st : Status) (n : UInt32) (err : Option String) :
    ∃ s', s.update now delay id st n err = .ok s' ∧
      s'.records = s.records.filterMap fun q =>
        if q.id = id then some (outcome now delay st n err r) else some q := by
  refine ⟨_, if_pos (has_eq_true.2 ⟨r, h, hst⟩), ?_⟩
  show s.records.map _ = _
  rw [← List.filterMap_eq_map]
  refine List.filterMap_congr fun q hq => ?_
  by_cases hid : q.id = id
  · have hqr : q = r := Option.some.inj ((get?_of_mem hq).symm.trans (hid ▸ h))
    subst hqr
    rw [Function.comp_apply, if_pos (decide_eq_true hid), if_pos hid]
    cases st <;> rfl
  · rw [Function.comp_apply, if_neg (by simpa using hid), if_neg hid]

/-- So does a removal. -/
theorem delete_of_get? (h : s.get? id = some r) :
    ∃ s', s.delete id = .ok s' ∧
      s'.records = s.records.filterMap fun q => if q.id = id then none else some q := by
  have hany : s.records.any (·.id = id) = true :=
    List.any_eq_true.2 ⟨r, mem_of_get? h, decide_eq_true (get?_id h)⟩
  refine ⟨_, if_pos hany, ?_⟩
  show s.records.filter _ = _
  rw [← List.filterMap_eq_filter]
  refine List.filterMap_congr fun q _ => ?_
  by_cases hid : q.id = id <;> simp [Option.guard, hid]

end Store

open Scenario (World)

namespace Relay

variable {σ : Type}

/-! ## what stands still -/

structure Still where
  /-- the time of day -/
  now : Timestamp
  /-- until the next attempt, after so many failures -/
  delay : Uuid → UInt32 → Duration
  /-- what the publisher answers -/
  answer : Record → Except PublishError Unit

namespace Still

/-- the delay that goes with a write -/
def delayOf (c : Still) : Write → Duration
  | .update id _ n _ => c.delay id n
  | .delete _ => .ofNanos 0

/-- what becomes of a record that was claimed for the time of `lease` -/
def conclude (c : Still) (completion : Completion) (lease : Duration) (r : Record) : Option Record :=
  match c.answer r with
  | .ok () =>
    match completion with
    | .retain =>
      some { r with
        status := .processed, availableAt := c.now.addOrMax lease, processedAt := some c.now }
    | .delete => none
  | .error e =>
    let count := oneMore r.retryCount
    let r := { r with retryCount := count, lastError := some e.message, processedAt := none }
    if count ≤ r.maxRetries then
      some { r with status := .pending, availableAt := c.now.addOrMax (c.delay r.id count) }
    else some { r with status := .failed, availableAt := c.now.addOrMax lease }

/-- what is counted for a record -/
def delivery (c : Still) (r : Record) : Delivery :=
  match c.answer r with
  | .ok () => .delivered
  | .error _ => if oneMore r.retryCount ≤ r.maxRetries then .retried else .deadLettered

/-- what becomes of a stored record when those of `batch` were claimed -/
def fate (c : Still) (completion : Completion) (lease : Duration) (batch : List Record) (r : Record) :
    Option Record :=
  if batch.any (·.id = r.id) then c.conclude completion lease r else some r

variable {c : Still} {completion : Completion} {lease : Duration} {r : Record}

theorem exhausted_eq (r : Record) : exhausted r = !decide (oneMore r.retryCount ≤ r.maxRetries) := by
  unfold exhausted
  by_cases h : oneMore r.retryCount ≤ r.maxRetries
  · simp [h, UInt32.not_lt.2 h]
  · simp [h, UInt32.not_le.1 h]

theorem deliveryFor_answer (r : Record) : deliveryFor r (c.answer r) (.ok ()) = c.delivery r := by
  unfold delivery
  cases c.answer r with
  | ok => rfl
  | error e =>
    unfold deliveryFor
    rw [exhausted_eq]
    by_cases h : oneMore r.retryCount ≤ r.maxRetries <;> simp [h]

theorem id_of_conclude {q : Record} (h : c.conclude completion lease r = some q) : q.id = r.id := by
  unfold conclude at h
  split at h
  · cases completion <;> cases h
    rfl
  · dsimp only at h
    split at h <;> cases h <;> rfl

/-- The write after a publish does to a claimed record what `conclude` says, and nothing else. -/
theorem exists_write (completion : Completion) {s : Store}
    (h : s.get? r.id = some { r with availableAt := c.now.addOrMax lease }) (hst : r.status = .pending) :
    let w := writeFor completion r (c.answer r)
    ∃ s', s.write c.now (c.delayOf w) w = .ok s' ∧
      s'.records = s.records.filterMap fun q =>
        if q.id = r.id then c.conclude completion lease r else some q := by
  unfold conclude
  cases c.answer r with
  | ok =>
    cases completion with
    | retain => exact Store.update_of_get? h hst _ _ _ _ _
    | delete => exact Store.delete_of_get? h
  | error e =>
    dsimp only [writeFor]
    rw [exhausted_eq]
    by_cases hcount : oneMore r.retryCount ≤ r.maxRetries
    · simp only [hcount, decide_true, Bool.not_true, Bool.false_eq_true, if_true, if_false]
      exact Store.update_of_get? h hst _ _ _ _ _
    · simp only [hcount, decide_false, Bool.not_false, if_true, if_false]
      exact Store.update_of_get? h hst _ _ _ _ _

/-- how far a record is when of those in `batch` the ones in `gone` are done -/
def halfway (c : Still) (completion : Completion) (lease : Duration) (batch gone : List Record)
    (r : Record) : Option Record :=
  if gone.any (·.id = r.id) then c.conclude completion lease r
  else if batch.any (·.id = r.id) then some { r with availableAt := c.now.addOrMax lease } else some r

end Still

/-! ## backends -/

/-- The store of a backend is one in memory, and `c` is what stands still while it is calm. -/
structure Steady (b : Backend σ) (c : Still) (store : σ → Store) (Calm : σ → Prop) : Prop where
  claim : ∀ limit s, Calm s → Calm (b.claim limit s).2 ∧
    (b.claim limit s).1 = .ok ((store s).claim c.now b.lease limit).1 ∧
    store (b.claim limit s).2 = ((store s).claim c.now b.lease limit).2
  write : ∀ w s o, Calm s → (store s).write c.now (c.delayOf w) w = .ok o → Calm (b.write w s).2 ∧
    (b.write w s).1 = .ok () ∧ store (b.write w s).2 = o
  call : ∀ r s, Calm s → Calm (b.call r s) ∧ store (b.call r s) = store s
  answer : ∀ r s, Calm s → Calm (b.answer r s).2 ∧ (b.answer r s).1 = c.answer r ∧
    store (b.answer r s).2 = store s
  log : ∀ e s, Calm s → Calm (b.log e s) ∧ store (b.log e s) = store s

theorem Steady.logAll {b : Backend σ} {c : Still} {store : σ → Store} {Calm : σ → Prop}
    (hb : Steady b c store Calm) (e : Option Log.Entry) {s : σ} (hs : Calm s) :
    Calm (b.logAll e s) ∧ store (b.logAll e s) = store s := by
  cases e with
  | none => exact ⟨hs, rfl⟩
  | some e => exact hb.log e s hs

end Relay

/-! ## a world in memory -/

namespace Scenario.World

/-- the world as a relay sees it, if every draw of chance comes out the same -/
def unswayed (lease : Duration) : Relay.Backend World :=
  { backend lease with
    write := fun wr w => ((w.write wr).1, { (w.write wr).2 with chance := w.chance }) }

/-- what stands still in a world whose broker has no failures to come -/
def still (w : World) : Relay.Still where
  now := w.now
  delay := fun _ n => w.backoff.delay n w.chance.next.1
  answer := fun r =>
    if w.broker.missing.contains r.topic then .error (.topicNotFound r.topic) else .ok ()

/-- Nothing has changed in `v` that the answers and the writes in `w` depend on, and nothing fails. -/
structure Calm (w v : World) : Prop where
  now : v.now = w.now
  faults : v.faults = []
  failures : v.broker.failures = []
  missing : v.broker.missing = w.broker.missing
  lease : v.lease = w.lease
  backoff : v.backoff = w.backoff
  chance : v.chance = w.chance

variable {w v : World}

theorem Calm.claim (h : Calm w v) (limit : Nat) :
    v.claim limit = (.ok (v.stores.outbox.claim w.now w.lease limit).1,
      v.withOutbox (v.stores.outbox.claim w.now w.lease limit).2) := by
  rw [← h.now, ← h.lease]
  exact method_of_steady .fetch _ h.faults

theorem Calm.write (h : Calm w v) {wr : Write} {o : Store}
    (ho : v.stores.outbox.write w.now (w.still.delayOf wr) wr = .ok o) :
    (unswayed w.lease).write wr v = (.ok (), v.withOutbox o) := by
  show ((v.write wr).1, { (v.write wr).2 with chance := v.chance }) = _
  cases wr with
  | update id st n err =>
    obtain ⟨chance, hdelay⟩ : ∃ chance, v.delay n = (w.still.delay id n, { v with chance }) := by
      refine ⟨v.chance.next.2, ?_⟩
      unfold delay still
      rw [h.backoff, h.chance]
    have hnow := (delay_alike n v).now.symm.trans h.now
    rw [hdelay] at hnow
    have ho : v.stores.outbox.update w.now (w.still.delay id n) id st n err = .ok o := ho
    rw [write_update, method_of_steady _ _ h.faults, hdelay, hnow, ho]
    rfl
  | delete id =>
    have ho : v.stores.outbox.delete id = .ok o := ho
    rw [write_delete, method_of_steady _ _ h.faults, ho]
    rfl

theorem Calm.answer (h : Calm w v) (r : Record) :
    (Broker.answer r v.broker).1 = w.still.answer r ∧
      (Broker.answer r v.broker).2.failures = [] ∧
      (Broker.answer r v.broker).2.missing = w.broker.missing := by
  show _ = (if _ then _ else _) ∧ _
  unfold Broker.answer
  rw [h.missing]
  by_cases ht : w.broker.missing.contains r.topic = true
  · rw [if_pos ht, if_pos ht]
    exact ⟨rfl, h.failures, h.missing⟩
  · rw [if_neg ht, if_neg ht, h.failures]
    exact ⟨rfl, rfl, rfl⟩

theorem unswayed_steady (w : World) :
    Relay.Steady (unswayed w.lease) w.still (fun v => v.stores.outbox) (Calm w) where
  claim := fun limit v h => by
    have hclaim : (unswayed w.lease).claim limit v = _ := h.claim limit
    rw [hclaim]
    exact ⟨{ h with }, rfl, rfl⟩
  write := fun wr v o h ho => by
    rw [h.write ho]
    exact ⟨{ h with }, rfl, rfl⟩
  call := fun r v h => ⟨{ h with }, rfl⟩
  answer := fun r v h =>
    have ⟨hanswer, hfailures, hmissing⟩ := h.answer r
    ⟨{ h with failures := hfailures, missing := hmissing }, hanswer, rfl⟩
  log := fun e v h => ⟨{ h with }, rfl⟩

end Scenario.World

namespace Relay

variable {σ : Type}

/-! ## turns in time -/

namespace Batch

/-- A record that is looked at is not too late, and a publish that ends is not cut off. -/
def InTimeAt (b : Backend σ) (t : Batch) (s : σ) : Move → Prop
  | .start => t.waiting ≠ [] → t.fits (b.now s) = true
  | .land _ inTime => inTime = true
  | .settle _ => True

def InTime (b : Backend σ) : List (Turn σ) → Batch → σ → Prop
  | [], _, _ => True
  | x :: xs, t, s =>
    t.InTimeAt b (x.before s) x.move ∧
      InTime b xs (t.move b (x.before s) x.move).1 (t.move b (x.before s) x.move).2

end Batch

/-! ## how far a tick is -/

/-- Of the records `batch` that were claimed from the store `o`, those in `gone` are done; the others are
still in `t`, and their claims in `s`. -/
structure Concluded (c : Still) (config : Config) (lease : Duration) (o : Store)
    (batch gone : List Record) (t : Batch) (s : Store) : Prop where
  distinct : (batch.map Record.id).Nodup
  claimed : ∀ r ∈ batch, o.get? r.id = some r ∧ r.status = .pending
  same : t.config = config
  split : (gone ++ t.records).Perm batch
  answers : ∀ x ∈ t.outcomes, x.result = c.answer x.record
  report : t.report = .ofVerdicts batch.length (gone.map c.delivery)
  stored : s.records = o.records.filterMap (c.halfway config.completion lease batch gone)

namespace Concluded

variable {c : Still} {config : Config} {lease : Duration} {o s s' : Store} {batch gone : List Record}
  {t t' : Batch} {r : Record}

theorem new (c : Still) (config : Config) (lease : Duration) (began : Nat) (o : Store) {rs : List Record}
    (hrs : rs.Perm (o.claim c.now lease config.batchSize).1) :
    Concluded c config lease o (o.claim c.now lease config.batchSize).1 []
      (.ofRecords config lease began rs) (o.claim c.now lease config.batchSize).2 where
  distinct := Store.claim_nodup _ _ _ _
  claimed := fun r hr => ⟨(Store.mem_claim hr).1, (Store.mem_claim hr).2.1⟩
  same := rfl
  split := by rwa [Batch.records_ofRecords]
  answers := fun x hx => absurd hx List.not_mem_nil
  report := by
    rw [← hrs.length_eq]
    rfl
  stored := by
    show o.records.map _ = _
    rw [← List.filterMap_eq_map]
    refine List.filterMap_congr fun q _ => ?_
    unfold Still.halfway
    rw [List.any_nil, if_neg Bool.false_ne_true]
    exact apply_ite some _ _ _

/-- What is still in the batch is not done. -/
theorem notMem_gone (h : Concluded c config lease o batch gone t s) (hr : r ∈ t.records) :
    gone.any (·.id = r.id) = false := by
  have hids := (h.split.map Record.id).nodup_iff.2 h.distinct
  rw [List.map_append] at hids
  refine Bool.eq_false_iff.2 fun hany => ?_
  obtain ⟨g, hg, hid⟩ := List.any_eq_true.1 hany
  exact (List.nodup_append.1 hids).2.2 _ (List.mem_map_of_mem hg) _ (List.mem_map_of_mem hr)
    (of_decide_eq_true hid)

theorem mem_batch (h : Concluded c config lease o batch gone t s) (hr : r ∈ t.records) : r ∈ batch :=
  h.split.subset (List.mem_append_right _ hr)

theorem halfway_of_mem (h : Concluded c config lease o batch gone t s) (hr : r ∈ t.records) :
    c.halfway config.completion lease batch gone r =
      some { r with availableAt := c.now.addOrMax lease } := by
  unfold Still.halfway
  rw [h.notMem_gone hr, if_neg Bool.false_ne_true, if_pos]
  exact List.any_eq_true.2 ⟨r, h.mem_batch hr, decide_eq_true rfl⟩

/-- What is still in the batch is stored as its claim left it. -/
theorem get?_of_mem (h : Concluded c config lease o batch gone t s) (hr : r ∈ t.records) :
    s.get? r.id = some { r with availableAt := c.now.addOrMax lease } := by
  have hmem : r ∈ o.records := Store.mem_of_get? (h.claimed r (h.mem_batch hr)).1
  refine Store.get?_eq_some.2 ⟨?_, rfl⟩
  rw [h.stored]
  exact List.mem_filterMap.2 ⟨r, hmem, h.halfway_of_mem hr⟩

/-- One more record is done. -/
theorem halfway_cons (h : Concluded c config lease o batch gone t s) (hr : r ∈ t.records) {q : Record}
    (hq : q ∈ o.records) :
    c.halfway config.completion lease batch (r :: gone) q =
      (c.halfway config.completion lease batch gone q).bind fun a =>
        if a.id = r.id then c.conclude config.completion lease r else some a := by
  have hrecord : r ∈ o.records := Store.mem_of_get? (h.claimed r (h.mem_batch hr)).1
  by_cases hid : q.id = r.id
  · have hqr := Store.eq_of_id_eq hq hrecord hid
    subst hqr
    rw [h.halfway_of_mem hr]
    simp [Still.halfway]
  · have hne : ¬ r.id = q.id := fun h => hid h.symm
    unfold Still.halfway
    rw [List.any_cons, decide_eq_false hne, Bool.false_or]
    split
    · cases hc : c.conclude config.completion lease q with
      | none => rfl
      | some a =>
        rw [Option.bind_some, if_neg]
        rwa [Still.id_of_conclude hc]
    · split <;> rw [Option.bind_some, if_neg hid]

/-- A record is elsewhere in the batch. -/
theorem goOn (h : Concluded c config lease o batch gone t s) (hconfig : t'.config = t.config)
    (hrecords : t'.records.Perm t.records) (hanswers : ∀ x ∈ t'.outcomes, x.result = c.answer x.record)
    (hreport : t'.report = t.report) : Concluded c config lease o batch gone t' s :=
  ⟨h.distinct, h.claimed, hconfig.trans h.same, (hrecords.append_left gone).trans h.split, hanswers,
    hreport.trans h.report, h.stored⟩

/-- An outcome is written. -/
theorem settle (h : Concluded c config lease o batch gone t s) {i : Nat} {x : Outcome}
    (hx : t.outcomes[i]? = some x) :
    let w := writeFor config.completion x.record (c.answer x.record)
    ∃ s', s.write c.now (c.delayOf w) w = .ok s' ∧
      Concluded c config lease o batch (x.record :: gone)
        { t with
          outcomes := t.outcomes.eraseIdx i
          report := t.report.record (deliveryFor x.record (c.answer x.record) (.ok ())) } s' := by
  have hrecord := Batch.mem_records_of_outcome (List.mem_of_getElem? hx)
  obtain ⟨s', hw, hs'⟩ := Still.exists_write config.completion (h.get?_of_mem hrecord)
    (h.claimed _ (h.mem_batch hrecord)).2
  refine ⟨s', hw, h.distinct, h.claimed, h.same, ?_, ?_, ?_, ?_⟩
  · have hrecords := Batch.records_settled hx
      (t.report.record (deliveryFor x.record (c.answer x.record) (.ok ())))
    exact (List.perm_middle.symm.trans (hrecords.symm.append_left gone)).trans h.split
  · exact fun y hy => h.answers y (List.mem_of_mem_eraseIdx hy)
  · rw [Still.deliveryFor_answer, List.map_cons, Report.ofVerdicts_cons, ← h.report]
  · rw [hs', h.stored, List.filterMap_filterMap]
    exact List.filterMap_congr fun q hq => (h.halfway_cons hrecord hq).symm

variable {b : Backend σ} {store : σ → Store} {Calm : σ → Prop} {w : σ}

/-- A move in time gets on with the batch. -/
theorem move (hb : Steady b c store Calm) (h : Concluded c config b.lease o batch gone t (store w))
    (hw : Calm w) {m : Move} (hm : t.InTimeAt b w m) :
    ∃ gone', Concluded c config b.lease o batch gone' (t.move b w m).1 (store (t.move b w m).2) ∧
      Calm (t.move b w m).2 := by
  have hmoved := Batch.moved b t w m
  generalize t.move b w m = next at hmoved ⊢
  obtain ⟨t', w'⟩ := next
  dsimp only at hmoved ⊢
  cases hmoved with
  | nothing _ => exact ⟨gone, h, hw⟩
  | @late r rest hwaiting hf =>
    have hfits := hm (by rw [hwaiting]; exact List.cons_ne_nil r rest)
    rw [hf] at hfits
    cases hfits
  | @started r rest hwaiting hroom hf =>
    obtain ⟨hcalm, hsame⟩ := hb.call r w hw
    refine ⟨gone, ?_, hcalm⟩
    rw [hsame]
    exact h.goOn rfl (Batch.records_started hwaiting _) h.answers rfl
  | @landed i f inTime result v hf ha =>
    have htime : inTime = true := hm
    subst htime
    obtain ⟨hcalm, hanswer, hstore⟩ := hb.answer f.record w hw
    have ha : b.answer f.record w = (result, v) := ha
    rw [ha] at hcalm hanswer hstore
    obtain ⟨hcalm', hsame⟩ := hb.logAll (published f.record result) hcalm
    refine ⟨gone, ?_, hcalm'⟩
    rw [hsame, hstore]
    refine h.goOn rfl (Batch.records_landed hf _) (fun x hx => ?_) rfl
    rcases List.mem_append.1 hx with hx | hx
    · exact h.answers x hx
    · rw [List.mem_singleton.1 hx]
      exact hanswer
  | @settled i x reply v hx hwrite =>
    rw [h.same, h.answers x (List.mem_of_getElem? hx)] at hwrite
    obtain ⟨s', hs', hnext⟩ := h.settle hx
    obtain ⟨hcalm, hreply, hstore⟩ := hb.write _ w s' hw hs'
    rw [hwrite] at hcalm hreply hstore
    dsimp only at hcalm hreply hstore
    subst hreply hstore
    rw [h.answers x (List.mem_of_getElem? hx)]
    obtain ⟨hcalm', hsame⟩ := hb.logAll (written x.record (c.answer x.record) (.ok ())) hcalm
    exact ⟨x.record :: gone, by rwa [hsame], hcalm'⟩

/-- Turns in time get on with the batch. -/
theorem play (hb : Steady b c store Calm) {xs : List (Turn σ)}
    (hxs : ∀ x ∈ xs, ∀ w, Calm w → Calm (x.before w) ∧ store (x.before w) = store w)
    (h : Concluded c config b.lease o batch gone t (store w)) (hw : Calm w) (ht : t.InTime b xs w) :
    ∃ gone', Concluded c config b.lease o batch gone' (t.play b xs w).1 (store (t.play b xs w).2) := by
  induction xs generalizing gone t w with
  | nil => exact ⟨gone, h⟩
  | cons x xs ih =>
    rw [List.forall_mem_cons] at hxs
    obtain ⟨hcalm, hsame⟩ := hxs.1 w hw
    rw [← hsame] at h
    obtain ⟨gone', h', hcalm'⟩ := h.move hb hcalm ht.1
    exact ih hxs.2 h' hcalm' ht.2

/-- In the end every record of the batch is done. -/
theorem finish (h : Concluded c config lease o batch gone t s) (hfin : t.finished = true) :
    t.report = .ofVerdicts batch.length (batch.map c.delivery) ∧
      s.records = o.records.filterMap (c.fate config.completion lease batch) := by
  have hnone : t.records = [] := by
    obtain ⟨hw, hf, ho⟩ := Batch.finished_iff.1 hfin
    rw [Batch.records, hw, hf, ho]
    rfl
  have hgone : gone.Perm batch := by
    have hsplit := h.split
    rwa [hnone, List.append_nil] at hsplit
  refine ⟨?_, ?_⟩
  · rw [h.report]
    exact Report.ofVerdicts_perm _ (hgone.map _)
  · rw [h.stored]
    refine List.filterMap_congr fun q _ => ?_
    unfold Still.halfway Still.fate
    rw [hgone.any_eq]
    split <;> rfl

end Concluded

/-! ## ticks -/

theorem Steady.claimed {b : Backend σ} {c : Still} {store : σ → Store} {Calm : σ → Prop}
    (hb : Steady b c store Calm) (config : Config) (began : Nat) {s : σ} (hs : Calm s) :
    (Batch.claim b config began s).1 =
        .ok (.ofRecords config b.lease began ((store s).claim c.now b.lease config.batchSize).1) ∧
      Calm (Batch.claim b config began s).2 ∧
      store (Batch.claim b config began s).2 =
        ((store s).claim c.now b.lease config.batchSize).2 := by
  obtain ⟨hcalm, hreply, hstore⟩ := hb.claim config.batchSize s hs
  obtain ⟨e, he⟩ := Batch.exists_claim_log began hreply
  obtain ⟨hcalm', hsame⟩ := hb.logAll e hcalm
  rw [he]
  exact ⟨Batch.claim_of_ok began hreply, hcalm', hsame.trans hstore⟩

/-- **The order of the deliveries of a batch does not matter.**  The store is one in memory, which nobody
else changes meanwhile, the time of day and the delays stand still, and what the publisher answers depends
on the record alone and comes in time.  However many publishes may be under way at once, and in whatever
order they start and end and their outcomes are written: once nothing is left to do, every claimed record
has become what it becomes by itself, the other records are as they were, and the report counts each
claimed record once.  This takes at most three moves for each record, and until then there is something to
do. -/
theorem tick_any_order {b : Backend σ} {c : Still} {store : σ → Store} {Calm : σ → Prop}
    (hb : Steady b c store Calm) (config : Config) (began : Nat) {s : σ} (hs : Calm s) :
    let batch := ((store s).claim c.now b.lease config.batchSize).1
    let claimed := Batch.claim b config began s
    claimed.1 = .ok (.ofRecords config b.lease began batch) ∧
      ∀ (rs : List Record) (xs : List (Turn σ)), rs.Perm batch →
        (∀ x ∈ xs, ∀ s, Calm s → Calm (x.before s) ∧ store (x.before s) = store s) →
        (Batch.ofRecords config b.lease began rs).InTime b xs claimed.2 →
        let ended := (Batch.ofRecords config b.lease began rs).play b xs claimed.2
        (ended.1.finished = true →
          ended.1.report = .ofVerdicts batch.length (batch.map c.delivery) ∧
            (store ended.2).records =
              (store s).records.filterMap (c.fate config.completion b.lease batch)) ∧
          (ended.1.finished = false → ∃ m, ∀ f : σ → σ, Batch.Busy b [⟨f, m⟩] ended.1 ended.2) ∧
          (Batch.Busy b xs (.ofRecords config b.lease began rs) claimed.2 →
            xs.length ≤ 3 * batch.length) := by
  intro batch claimed
  obtain ⟨hreply, hcalm, hstore⟩ := hb.claimed config began hs
  refine ⟨hreply, fun rs xs hrs hxs ht => ?_⟩
  have hnew := Concluded.new c config b.lease began (store s) hrs
  rw [← hstore] at hnew
  obtain ⟨gone, hdone⟩ := hnew.play hb hxs hcalm ht
  refine ⟨hdone.finish, fun hfin => ?_, fun hbusy => ?_⟩
  · obtain ⟨m, hm⟩ := Batch.exists_move b hfin
    exact ⟨m, fun f => ⟨hm _, trivial⟩⟩
  · have hle := hbusy.length_le
    have hlen := hrs.length_eq
    simp only [Batch.todo, Batch.ofRecords, List.length_nil] at hle
    omega

/-- The failures of a record have been counted as far as 32 bits go.  The count stays, and so does not
exceed the largest number of retries. -/
theorem retried_at_largest_count :
    let r : Record :=
      { (Event.create (.ofNat 1) "Todo" (.ofNat 7) "gone" "TODO_CREATED" .null .epoch).record with
        retryCount := 0xffffffff, maxRetries := 0xffffffff }
    let w : World :=
      { (default : World) with
        stores := { (default : Stores) with outbox := Store.empty.put r }
        broker := (Broker.empty none).markMissing "gone"
        lease := .ofSecs 60 }
    let ended := Batch.tickAtOnce (World.backend w.lease) .standard w
    ended.1 = .ok ⟨1, 0, 1, 0, 0, 0⟩ ∧
      ended.2.stores.outbox.records.map (fun r => (r.id, r.status, r.retryCount)) =
        [(r.id, .pending, r.retryCount)] ∧
      r.maxRetries.toNat < r.retryCount.toNat + 1 := by
  decide +kernel

/-- Two records at once, looked at, ended and written in the other order. -/
theorem tick_any_order_reversed :
    let record (n : Nat) (topic : String) : Record :=
      (Event.create (.ofNat n) "Todo" (.ofNat 7) topic "TODO_CREATED" .null .epoch).record
    let done := { record 3 "todos" with status := .processed }
    let w : World :=
      { (default : World) with
        stores := { (default : Stores) with
          outbox := ((Store.empty.put (record 1 "todos")).put (record 2 "gone")).put done }
        broker := (Broker.empty none).markMissing "gone"
        lease := .ofSecs 60 }
    let b := World.unswayed w.lease
    let config := { Config.standard with maxConcurrency := 2 }
    let rs := [record 2 "gone", record 1 "todos"]
    let xs : List (Turn World) :=
      [.start, .start, .land 1 true, .land 0 true, .settle 0, .settle 0].map fun m => ⟨id, m⟩
    let t := Batch.ofRecords config b.lease 0 rs
    let ended := t.play b xs (Batch.claim b config 0 w).2
    (rs.Perm (w.stores.outbox.claim w.now b.lease config.batchSize).1 ∧
        t.InTime b xs (Batch.claim b config 0 w).2 ∧ ended.1.finished = true) ∧
      ended.1.report = ⟨2, 1, 1, 0, 0, 0⟩ ∧
      ended.2.stores.outbox.records.map (fun r => (r.id, r.status, r.retryCount)) =
        [(.ofNat 1, .processed, 0), (.ofNat 2, .pending, 1), (.ofNat 3, .processed, 0)] := by
  intro record done w b config rs xs t ended
  have hnow : w.now = .epoch := by decide +kernel
  have hdue : w.stores.outbox.due w.now = rs.reverse := by
    rw [Store.due_of_pairwise (by decide +kernel), hnow]
    rfl
  have hcalm : w.Calm w := ⟨rfl, rfl, rfl, rfl, rfl, rfl, rfl⟩
  have hclaim : b.claim config.batchSize w =
      (.ok rs.reverse, w.withOutbox (w.stores.outbox.adjust (fun r => rs.reverse.any (·.id = r.id))
        fun r => { r with availableAt := w.now.addOrMax w.lease })) := by
    show w.claim _ = _
    rw [hcalm.claim, Store.claim, hdue]
    rfl
  have hbatch : (w.stores.outbox.claim w.still.now b.lease config.batchSize).1 = rs.reverse := by
    show (w.stores.outbox.claim w.now b.lease config.batchSize).1 = _
    rw [Store.claim, hdue]
    rfl
  have hperm : rs.Perm (w.stores.outbox.claim w.now b.lease config.batchSize).1 := by
    show rs.Perm (w.stores.outbox.claim w.still.now b.lease config.batchSize).1
    rw [hbatch]
    exact rs.reverse_perm.symm
  have hin : t.InTime b xs (Batch.claim b config 0 w).2 := by
    rw [Batch.claim, hclaim]
    exact ⟨fun _ => by decide +kernel, fun _ => by decide +kernel, rfl, rfl, trivial, trivial, trivial⟩
  have hfin : ended.1.finished = true := by
    show (t.play b xs (Batch.claim b config 0 w).2).1.finished = true
    rw [Batch.claim, hclaim]
    decide +kernel
  have hkeep : ∀ x ∈ xs, ∀ v, w.Calm v → w.Calm (x.before v) ∧
      (x.before v).stores.outbox = v.stores.outbox := by
    intro x hx
    obtain ⟨m, _, rfl⟩ := List.mem_map.1 hx
    exact fun v hv => ⟨hv, rfl⟩
  have hsteady : Steady b w.still (fun v => v.stores.outbox) w.Calm := World.unswayed_steady w
  obtain ⟨hreport, hrecords⟩ := ((tick_any_order hsteady config 0 hcalm).2 rs xs hperm hkeep hin).1 hfin
  have hended : ended =
      Batch.play b xs (Batch.ofRecords config b.lease 0 rs) (Batch.claim b config 0 w).2 := rfl
  rw [hbatch, ← hended] at hreport hrecords
  refine ⟨⟨hperm, hin, hfin⟩, hreport, ?_⟩
  rw [hrecords]
  rfl

end Relay
end Outbox
