import Mathlib.Data.List.Perm.Basic
import Mathlib.Tactic.Tauto
import Outbox.Relay.Batch

/-!
# What a move of a batch does

`Batch.Moved b t s m t' s'` lists the ways in which the move `m` takes a batch `t` in a surrounding
state `s` to `t'` in `s'`, whatever the store and the broker answer:

* `nothing`   the move was not possible;
* `late`      the first waiting record is left for a later claim;
* `started`   its publish begins;
* `landed`    a publish ends, its outcome waits to be written;
* `settled`   an outcome is written.

`Batch.moved` shows that there is no other way.

* `Batch.places`   where in the batch each record is, and what a move does about it;
* `Batch.queue`    the records whose publish is not over.
-/

namespace Outbox.Relay

variable {σ : Type}

namespace Batch

/-- `w` is the state after the publish has ended or after the outcome was written, before the log. -/
inductive Moved (b : Backend σ) (t : Batch) (s : σ) : Move → Batch → σ → Prop where
  | nothing {m : Move} (hm : ∀ i inTime, m = .land i inTime → t.flights[i]? = none) :
      Moved b t s m t s
  | late {r : Record} {rest : List Record} (hw : t.waiting = r :: rest)
      (hf : t.fits (b.now s) = false) :
      Moved b t s .start { t with waiting := rest, report := t.report.record .leaseExpired }
        (b.log (tooLate r (t.elapsed (b.now s))) s)
  | started {r : Record} {rest : List Record} (hw : t.waiting = r :: rest)
      (hr : t.hasRoom = true) (hf : t.fits (b.now s) = true) :
      Moved b t s .start { t with waiting := rest, flights := t.flights ++ [⟨r, b.now s⟩] }
        (b.call r s)
  | landed {i : Nat} {f : Flight} {inTime : Bool} {result : Except PublishError Unit} {w : σ}
      (hf : t.flights[i]? = some f) (ha : t.arrive b f.record inTime s = (result, w)) :
      Moved b t s (.land i inTime)
        { t with flights := t.flights.eraseIdx i, outcomes := t.outcomes ++ [⟨f.record, result⟩] }
        (b.logAll (published f.record result) w)
  | settled {i : Nat} {o : Outcome} {reply : Except StoreError Unit} {w : σ}
      (ho : t.outcomes[i]? = some o)
      (hw : b.write (writeFor t.config.completion o.record o.result) s = (reply, w)) :
      Moved b t s (.settle i)
        { t with
          outcomes := t.outcomes.eraseIdx i
          report := t.report.record (deliveryFor o.record o.result reply) }
        (b.logAll (written o.record o.result reply) w)

theorem moved_start (b : Backend σ) (t : Batch) (s : σ) :
    Moved b t s .start (t.start b s).1 (t.start b s).2 := by
  unfold start
  split
  · exact .nothing nofun
  · rename_i r rest hw
    split
    · rename_i hr
      split
      · rename_i hf
        exact .started hw hr hf
      · rename_i hf
        exact .late hw (Bool.eq_false_iff.2 hf)
    · exact .nothing nofun

theorem moved_land (b : Backend σ) (t : Batch) (i : Nat) (inTime : Bool) (s : σ) :
    Moved b t s (.land i inTime) (t.land b i inTime s).1 (t.land b i inTime s).2 := by
  unfold land
  split
  · rename_i hn
    refine .nothing fun k b hk => ?_
    injection hk with hk
    rwa [← hk]
  · rename_i f hf
    exact .landed hf rfl

theorem moved_settle (b : Backend σ) (t : Batch) (i : Nat) (s : σ) :
    Moved b t s (.settle i) (t.settle b i s).1 (t.settle b i s).2 := by
  unfold settle
  split
  · exact .nothing nofun
  · rename_i o ho
    exact .settled ho rfl

theorem moved (b : Backend σ) (t : Batch) (s : σ) (m : Move) :
    Moved b t s m (t.move b s m).1 (t.move b s m).2 := by
  cases m with
  | start => exact moved_start b t s
  | land i inTime => exact moved_land b t i inTime s
  | settle i => exact moved_settle b t i s

/-! ## the records of a batch -/

/-- the records whose outcome is not written yet -/
def records (t : Batch) : List Record :=
  t.waiting ++ t.flights.map Flight.record ++ t.outcomes.map Outcome.record

theorem records_ofRecords (config : Config) (lease : Duration) (began : Nat) (rs : List Record) :
    (ofRecords config lease began rs).records = rs := by
  simp [records, ofRecords]

theorem finished_iff {t : Batch} :
    t.finished = true ↔ t.waiting = [] ∧ t.flights = [] ∧ t.outcomes = [] := by
  unfold finished
  rw [Bool.and_eq_true, Bool.and_eq_true, List.isEmpty_iff, List.isEmpty_iff, List.isEmpty_iff, and_assoc]

theorem mem_records_of_flight {t : Batch} {f : Flight} (hf : f ∈ t.flights) : f.record ∈ t.records := by
  unfold records
  exact List.mem_append_left _ (List.mem_append_right _ (List.mem_map_of_mem hf))

theorem mem_records_of_outcome {t : Batch} {o : Outcome} (ho : o ∈ t.outcomes) :
    o.record ∈ t.records := by
  unfold records
  exact List.mem_append_right _ (List.mem_map_of_mem ho)

/-- where a record of a batch is -/
inductive Place where
  | waiting (r : Record)
  | flying (r : Record)
  | ended (o : Outcome)

def Place.record : Place → Record
  | .waiting r => r
  | .flying r => r
  | .ended o => o.record

def places (t : Batch) : List Place :=
  t.waiting.map .waiting ++ t.flights.map (fun f => .flying f.record) ++ t.outcomes.map .ended

theorem map_record_places (t : Batch) : t.places.map Place.record = t.records := by
  have hw : Place.record ∘ Place.waiting = id := rfl
  unfold places records
  simp only [List.map_append, List.map_map, hw, List.map_id]
  rfl

theorem places_ofRecords (config : Config) (lease : Duration) (began : Nat) (rs : List Record) :
    (ofRecords config lease began rs).places = rs.map .waiting := by
  simp [places, ofRecords]

theorem places_late {t : Batch} {r : Record} {rest : List Record} (hw : t.waiting = r :: rest)
    (report : Report) :
    t.places = .waiting r :: ({ t with waiting := rest, report } : Batch).places := by
  unfold places
  rw [hw]
  rfl

theorem places_started {t : Batch} {r : Record} {rest : List Record} (hw : t.waiting = r :: rest)
    (now : Nat) :
    ∃ others, t.places = .waiting r :: others ∧
      ({ t with waiting := rest, flights := t.flights ++ [⟨r, now⟩] } : Batch).places.Perm
        (.flying r :: others) := by
  refine ⟨({ t with waiting := rest } : Batch).places, ?_, ?_⟩
  · unfold places
    rw [hw]
    rfl
  · unfold places
    rw [List.map_append, ← List.append_assoc]
    exact (List.perm_append_singleton _ _).append_right _

theorem places_landed {t : Batch} {k : Nat} {f : Flight} (hf : t.flights[k]? = some f)
    (result : Except PublishError Unit) :
    ∃ others, t.places.Perm (.flying f.record :: others) ∧
      ({ t with
        flights := t.flights.eraseIdx k
        outcomes := t.outcomes ++ [⟨f.record, result⟩] } : Batch).places.Perm
          (.ended ⟨f.record, result⟩ :: others) := by
  obtain ⟨hlt, rfl⟩ := List.getElem?_eq_some_iff.1 hf
  refine ⟨({ t with flights := t.flights.eraseIdx k } : Batch).places, ?_, ?_⟩
  · have hperm := (List.getElem_cons_eraseIdx_perm hlt).symm.map fun f => Place.flying f.record
    exact ((hperm.append_left _).trans List.perm_middle).append_right _
  · unfold places
    rw [List.map_append, ← List.append_assoc]
    exact List.perm_append_singleton _ _

theorem places_settled {t : Batch} {k : Nat} {o : Outcome} (ho : t.outcomes[k]? = some o)
    (report : Report) :
    t.places.Perm (.ended o :: ({ t with outcomes := t.outcomes.eraseIdx k, report } : Batch).places) := by
  obtain ⟨hlt, rfl⟩ := List.getElem?_eq_some_iff.1 ho
  have hperm := (List.getElem_cons_eraseIdx_perm hlt).symm.map Place.ended
  exact (hperm.append_left _).trans List.perm_middle

theorem records_started {t : Batch} {r : Record} {rest : List Record} (hw : t.waiting = r :: rest)
    (now : Nat) :
    ({ t with waiting := rest, flights := t.flights ++ [⟨r, now⟩] } : Batch).records.Perm t.records := by
  obtain ⟨others, hp, hp'⟩ := places_started hw now
  rw [← map_record_places, ← map_record_places, hp]
  exact hp'.map Place.record

theorem records_landed {t : Batch} {i : Nat} {f : Flight} (hf : t.flights[i]? = some f)
    (result : Except PublishError Unit) :
    ({ t with
      flights := t.flights.eraseIdx i
      outcomes := t.outcomes ++ [⟨f.record, result⟩] } : Batch).records.Perm t.records := by
  obtain ⟨others, hp, hp'⟩ := places_landed hf result
  rw [← map_record_places, ← map_record_places]
  exact (hp'.map Place.record).trans (hp.symm.map Place.record)

theorem records_settled {t : Batch} {k : Nat} {o : Outcome} (ho : t.outcomes[k]? = some o)
    (report : Report) :
    t.records.Perm
      (o.record :: ({ t with outcomes := t.outcomes.eraseIdx k, report } : Batch).records) := by
  rw [← map_record_places, ← map_record_places]
  exact (places_settled ho report).map Place.record

/-- No move adds a record to a batch. -/
theorem Moved.mem_records {b : Backend σ} {t t' : Batch} {s s' : σ} {m : Move}
    (h : Moved b t s m t' s') {r : Record} (hr : r ∈ t'.records) : r ∈ t.records := by
  unfold records at hr ⊢
  cases h with
  | nothing hm => exact hr
  | late hw hf =>
    rw [hw]
    simp only [List.mem_append, List.mem_cons] at hr ⊢
    tauto
  | started hw hroom hf =>
    rw [hw]
    simp only [List.mem_append, List.mem_cons, List.map_append, List.map_cons, List.map_nil] at hr ⊢
    simp only [List.not_mem_nil, or_false] at hr
    tauto
  | @landed i f inTime result w hf ha =>
    have hmem : f ∈ t.flights := List.mem_of_getElem? hf
    simp only [List.mem_append, List.mem_map, List.mem_singleton] at hr ⊢
    rcases hr with (hr | ⟨g, hg, rfl⟩) | ⟨o, ho | rfl, rfl⟩
    · exact Or.inl (Or.inl hr)
    · exact Or.inl (Or.inr ⟨g, List.mem_of_mem_eraseIdx hg, rfl⟩)
    · exact Or.inr ⟨o, ho, rfl⟩
    · exact Or.inl (Or.inr ⟨f, hmem, rfl⟩)
  | settled ho hw =>
    simp only [List.mem_append, List.mem_map] at hr ⊢
    rcases hr with hr | ⟨o, ho, rfl⟩
    · exact Or.inl hr
    · exact Or.inr ⟨o, List.mem_of_mem_eraseIdx ho, rfl⟩

/-! ## the records whose publish is not over -/

def queue (t : Batch) : List Record := t.waiting ++ t.flights.map Flight.record

theorem queue_ofRecords (config : Config) (lease : Duration) (began : Nat) (rs : List Record) :
    (ofRecords config lease began rs).queue = rs := by
  simp [queue, ofRecords]

theorem mem_queue_of_waiting {t : Batch} {r : Record} (hr : r ∈ t.waiting) : r ∈ t.queue :=
  List.mem_append_left _ hr

theorem mem_queue_of_flight {t : Batch} {f : Flight} (hf : f ∈ t.flights) : f.record ∈ t.queue :=
  List.mem_append_right _ (List.mem_map_of_mem hf)

theorem flights_perm {t : Batch} {i : Nat} {f : Flight} (hf : t.flights[i]? = some f) :
    t.flights.Perm (f :: t.flights.eraseIdx i) := by
  obtain ⟨hlt, rfl⟩ := List.getElem?_eq_some_iff.1 hf
  exact (List.getElem_cons_eraseIdx_perm hlt).symm

/-- A publish that ends takes its record out of the queue. -/
theorem queue_land {t : Batch} {i : Nat} {f : Flight} (hf : t.flights[i]? = some f) :
    t.queue.Perm (f.record :: (t.waiting ++ (t.flights.eraseIdx i).map Flight.record)) :=
  (((flights_perm hf).map Flight.record).append_left t.waiting).trans List.perm_middle

/-- No other record of the queue has the id of a publish that ends. -/
theorem id_ne_of_land {t : Batch} {i : Nat} {f : Flight} (hf : t.flights[i]? = some f)
    (hn : (t.queue.map Record.id).Nodup) {r : Record}
    (hr : r ∈ t.waiting ++ (t.flights.eraseIdx i).map Flight.record) : r.id ≠ f.record.id := by
  have hn := ((queue_land hf).map Record.id).nodup_iff.1 hn
  rw [List.map_cons, List.nodup_cons] at hn
  exact fun hid => hn.1 (List.mem_map.2 ⟨r, hr, hid⟩)

/-- No waiting record has the id of one whose publish is under way. -/
theorem id_ne_of_waiting {t : Batch} (hn : (t.queue.map Record.id).Nodup) {r : Record}
    (hr : r ∈ t.waiting) {f : Flight} (hf : f ∈ t.flights) : r.id ≠ f.record.id := by
  unfold queue at hn
  rw [List.map_append] at hn
  have hwaiting : r.id ∈ t.waiting.map Record.id := List.mem_map_of_mem hr
  have hflying : f.record.id ∈ (t.flights.map Flight.record).map Record.id :=
    List.mem_map_of_mem (List.mem_map_of_mem hf)
  exact (List.nodup_append.1 hn).2.2 _ hwaiting _ hflying

/-- No move adds a record to the queue. -/
theorem Moved.queue {b : Backend σ} {t t' : Batch} {s s' : σ} {m : Move} (h : Moved b t s m t' s') :
    ∃ gone, t.queue.Perm (gone ++ t'.queue) := by
  cases h with
  | nothing hm => exact ⟨[], List.Perm.refl _⟩
  | @late r rest hw hf =>
    refine ⟨[r], ?_⟩
    unfold Batch.queue
    rw [hw]
    exact List.Perm.refl _
  | @started r rest hw hroom hf =>
    refine ⟨[], ?_⟩
    unfold Batch.queue
    rw [hw, List.map_append, List.nil_append, ← List.append_assoc]
    exact (List.perm_append_singleton r (rest ++ t.flights.map Flight.record)).symm
  | @landed i f inTime result w hf ha => exact ⟨[f.record], queue_land hf⟩
  | settled ho hw => exact ⟨[], List.Perm.refl _⟩

theorem Moved.same {b : Backend σ} {t t' : Batch} {s s' : σ} {m : Move} (h : Moved b t s m t' s') :
    t'.lease = t.lease ∧ t'.began = t.began ∧ t'.config = t.config := by
  cases h <;> exact ⟨rfl, rfl, rfl⟩

/-- A publish was under way before, or begins now and fits into the lease. -/
theorem Moved.mem_flights {b : Backend σ} {t t' : Batch} {s s' : σ} {m : Move}
    (h : Moved b t s m t' s') {f : Flight} (hf : f ∈ t'.flights) :
    f ∈ t.flights ∨ f.started = b.now s ∧ t.fits (b.now s) = true := by
  cases h with
  | nothing hm => exact Or.inl hf
  | late hw hfit => exact Or.inl hf
  | started hw hroom hfit =>
    rcases List.mem_append.1 hf with hf | hf
    · exact Or.inl hf
    · rw [List.mem_singleton.1 hf]
      exact Or.inr ⟨rfl, hfit⟩
  | landed hl ha => exact Or.inl (List.mem_of_mem_eraseIdx hf)
  | settled ho hw => exact Or.inl hf

/-- A start lets the flights be, or adds one. -/
theorem Moved.flights_start {b : Backend σ} {t t' : Batch} {s s' : σ} (h : Moved b t s .start t' s') :
    t'.flights = t.flights ∨ ∃ r rest, t.waiting = r :: rest ∧ t.fits (b.now s) = true ∧
      t'.flights = t.flights ++ [⟨r, b.now s⟩] := by
  cases h with
  | nothing hm => exact Or.inl rfl
  | late hw hf => exact Or.inl rfl
  | started hw hr hf => exact Or.inr ⟨_, _, hw, hf, rfl⟩

/-- A landing takes a flight away, where there is one. -/
theorem Moved.flights_land {b : Backend σ} {t t' : Batch} {s s' : σ} {i : Nat} {inTime : Bool}
    (h : Moved b t s (.land i inTime) t' s') : t'.flights = t.flights.eraseIdx i := by
  cases h with
  | nothing hm =>
    exact (List.eraseIdx_of_length_le (List.getElem?_eq_none_iff.1 (hm i inTime rfl))).symm
  | landed hf ha => rfl

/-- The outcome that a landing adds is that of the flight it ends. -/
theorem Moved.outcome_land {b : Backend σ} {t t' : Batch} {s s' : σ} {i : Nat} {inTime : Bool}
    (h : Moved b t s (.land i inTime) t' s') {o : Outcome} (ho : t'.outcomes[t.outcomes.length]? = some o) :
    ∃ f, t.flights[i]? = some f ∧ o.record = f.record ∧
      t'.queue = t.waiting ++ (t.flights.eraseIdx i).map Flight.record := by
  cases h with
  | nothing hm =>
    rw [List.getElem?_eq_none (Nat.le_refl _)] at ho
    cases ho
  | @landed _ f _ result _ hf ha =>
    have ho : (t.outcomes ++ [⟨f.record, result⟩])[t.outcomes.length]? = some o := ho
    rw [List.getElem?_concat_length] at ho
    injection ho with ho
    exact ⟨f, hf, by rw [← ho], rfl⟩

end Batch

end Outbox.Relay
