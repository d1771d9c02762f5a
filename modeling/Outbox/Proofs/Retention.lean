import Outbox.Proofs.Clock
import Outbox.Proofs.Contacts
import Outbox.Proofs.World

/-!
# What a purge removes

A purge counts the retention back from the time of day.  Both may be out of range, the retention and the
time that it leads to, and then there is nothing that was processed before it.

* `Timestamp.Within`       no more than a duration goes by between two times, leap seconds included;
* `Within.le`              then who counts the duration back does not come to a later time;
* `Store.count_purge`      the number that a purge of a store answers;
* `Config.Outdated`        a record that is to be removed was processed before the cutoff;
* `purge_of_cutoff`, `purge_of_none`   the purge of a relay is the purge of the store, or nothing;
* `purge_takes_outdated`   what is to be removed is removed, and nothing else changes.
-/

namespace Outbox

open Scenario (World Method)

/-! ## times -/

namespace Timestamp

/-- At `now` no more than `d` has gone by since `time`: who goes on from the one and back from the other
meets at some time, and both together come that far.  (To go only on, or only back, may miss the other
time if that is in a leap second.) -/
def Within (time now : Timestamp) (d : Duration) : Prop :=
  now ≤ time ∨ ∃ t a b, time.add? a = some t ∧ now.sub? b = some t ∧ a.nanos + b.nanos ≤ d.nanos

theorem Within.le {time now cutoff : Timestamp} {d : Duration} (h : time.Within now d)
    (hcutoff : now.sub? d = some cutoff) : cutoff ≤ time := by
  have htime := time.nanos_lt
  have hnow := now.nanos_lt
  have hcutoff := sub?_some hcutoff
  rcases h with h | ⟨t, a, b, ha, hb, hab⟩
  · rw [le_iff] at h ⊢
    unfold key at h ⊢
    omega
  · have ha := later?_some (add?_some ha).2
    have hb := sub?_some hb
    rw [le_iff]
    unfold key
    omega

end Timestamp

/-! ## stores -/

namespace Store

variable {t : Timestamp}

theorem isProcessedBefore_iff {r : Record} :
    isProcessedBefore t r = true ↔
      r.status = .processed ∧ ∃ time, r.processedAt = some time ∧ time < t := by
  unfold isProcessedBefore
  rw [Bool.and_eq_true, decide_eq_true_eq, Option.any_eq_true]
  simp only [decide_eq_true_eq]

theorem count_purge (t : Timestamp) (s : Store) :
    (s.purge t).1 = s.records.countP (isProcessedBefore t) := by
  have hsum := List.length_eq_length_filter_add (isProcessedBefore t) (l := s.records)
  show s.records.length - (s.records.filter fun r => !isProcessedBefore t r).length = _
  rw [List.countP_eq_length_filter]
  omega

end Store

/-! ## relays -/

namespace Relay

/-- A purge at `now` is to remove the record. -/
def Config.Outdated (c : Config) (now : Timestamp) (r : Record) : Prop :=
  ∃ cutoff time, c.cutoff? now = some cutoff ∧ r.status = .processed ∧ r.processedAt = some time ∧
    time < cutoff

variable {config : Config} {now : Timestamp} {w : World}

theorem outdated_of_cutoff {cutoff : Timestamp} (h : config.cutoff? now = some cutoff) (r : Record) :
    config.Outdated now r ↔ Store.isProcessedBefore cutoff r = true := by
  rw [Store.isProcessedBefore_iff]
  constructor
  · rintro ⟨_, time, hcutoff, hst, hat, hlt⟩
    cases h.symm.trans hcutoff
    exact ⟨hst, time, hat, hlt⟩
  · rintro ⟨hst, time, hat, hlt⟩
    exact ⟨cutoff, time, h, hst, hat, hlt⟩

theorem not_outdated_of_none (h : config.cutoff? now = none) (r : Record) : ¬ config.Outdated now r := by
  rintro ⟨_, _, hcutoff, _⟩
  cases h.symm.trans hcutoff

instance (c : Config) (now : Timestamp) (r : Record) : Decidable (c.Outdated now r) :=
  match h : c.cutoff? now with
  | none => .isFalse (not_outdated_of_none h r)
  | some _ => decidable_of_iff _ (outdated_of_cutoff h r).symm

/-- The cutoff is out of range, whatever the reason. -/
theorem cutoff?_eq_none_iff :
    config.cutoff? now = none ↔ ∀ retention, config.retention = some retention →
      (now.secs * 1000000000 + now.nanos - retention.nanos : Int) < Timestamp.minSecs * 1000000000 := by
  unfold Config.cutoff?
  rw [Option.bind_eq_none_iff]
  exact forall₂_congr fun _ _ => Timestamp.sub?_eq_none_iff

theorem purge_of_none (lease : Duration) (h : config.cutoff? w.now = none) :
    (purge (World.backend lease) config w).1 = .ok 0 ∧
      (purge (World.backend lease) config w).2.stores = w.stores := by
  unfold Config.cutoff? at h
  unfold purge
  cases hretention : config.retention with
  | none => exact ⟨rfl, rfl⟩
  | some retention =>
    rw [hretention, Option.bind_some] at h
    have hwall : ((World.backend lease).wall w).sub? retention = none := h
    dsimp only
    rw [hwall]
    exact ⟨rfl, rfl⟩

theorem purge_of_cutoff (lease : Duration) {cutoff : Timestamp} (h : config.cutoff? w.now = some cutoff)
    (hw : ∀ e, (.purge, e) ∉ w.faults) :
    (purge (World.backend lease) config w).1 = .ok (w.stores.outbox.purge cutoff).1 ∧
      (purge (World.backend lease) config w).2.stores =
        { w.stores with outbox := (w.stores.outbox.purge cutoff).2 } := by
  obtain ⟨retention, hretention, hsub⟩ := Option.bind_eq_some_iff.1 h
  have hwall : ((World.backend lease).wall w).sub? retention = some cutoff := hsub
  have hpurge : (World.backend lease).purge cutoff w =
      (.ok (w.stores.outbox.purge cutoff).1, w.withOutbox (w.stores.outbox.purge cutoff).2) :=
    World.method_of_unscripted _ hw
  unfold purge
  rw [hretention]
  dsimp only
  rw [hwall]
  dsimp only
  rw [hpurge]
  dsimp only
  split <;> exact ⟨rfl, rfl⟩

/-- What a purge answers, and what it leaves. -/
theorem purge_exact (lease : Duration) (config : Config) (hw : ∀ e, (.purge, e) ∉ w.faults) :
    (purge (World.backend lease) config w).1 =
        .ok (w.stores.outbox.records.countP fun r => config.Outdated w.now r) ∧
      (purge (World.backend lease) config w).2.stores.outbox.records =
        w.stores.outbox.records.filter fun r => ¬ config.Outdated w.now r := by
  cases hcutoff : config.cutoff? w.now with
  | none =>
    obtain ⟨hended, hstores⟩ := purge_of_none lease hcutoff
    have hnot := not_outdated_of_none hcutoff
    rw [hended, hstores, List.countP_eq_zero.2 fun r _ => by simpa using hnot r,
      List.filter_eq_self.2 fun r _ => by simpa using hnot r]
    exact ⟨rfl, rfl⟩
  | some cutoff =>
    obtain ⟨hended, hstores⟩ := purge_of_cutoff lease hcutoff hw
    have hiff := outdated_of_cutoff hcutoff
    rw [hended, hstores, Store.count_purge]
    refine ⟨congrArg _ (List.countP_congr fun r _ => ?_), List.filter_congr fun r _ => ?_⟩
    · rw [decide_eq_true_eq, hiff]
    · rw [Bool.eq_iff_iff, Bool.not_eq_true', decide_eq_true_eq, hiff, Bool.not_eq_true]

/-- **A purge takes neither too much nor too little.**  It removes just the records that were processed
before the cutoff, and answers how many these are.  Where the retention leads out of the range of times, or
there is none, it removes nothing.  So it keeps what is pending or failed, and what was processed no longer
ago than the retention; and what it keeps is as it was. -/
theorem purge_takes_outdated (lease : Duration) (config : Config) {w : World}
    (hw : ∀ e, (.purge, e) ∉ w.faults) :
    let ended := purge (World.backend lease) config w
    let before := w.stores.outbox
    let after := ended.2.stores.outbox
    (ended.1 = .ok (before.records.countP fun r => config.Outdated w.now r) ∧
      after.records = before.records.filter fun r => ¬ config.Outdated w.now r) ∧
    ((∀ retention, config.retention = some retention →
        (w.now.secs * 1000000000 + w.now.nanos - retention.nanos : Int) <
          Timestamp.minSecs * 1000000000) →
      ended.1 = .ok 0 ∧ after = before) ∧
    (∀ retention, config.retention = some retention → ∀ r ∈ before.records,
      (r.status = .processed → ∀ time, r.processedAt = some time → time.Within w.now retention) →
        after.get? r.id = some r) ∧
    ∀ r ∈ after.records, before.get? r.id = some r := by
  intro ended before after
  have hexact := purge_exact lease config hw
  have hmem {r : Record} : r ∈ after.records ↔ r ∈ before.records ∧ ¬ config.Outdated w.now r := by
    show r ∈ ended.2.stores.outbox.records ↔ _
    rw [hexact.2, List.mem_filter, decide_eq_true_eq]
  refine ⟨hexact, fun hrange => ?_, fun retention hretention r hr hkept => ?_, fun r hr => ?_⟩
  · obtain ⟨hended, hstores⟩ := purge_of_none lease (cutoff?_eq_none_iff.2 hrange)
    exact ⟨hended, congrArg Stores.outbox hstores⟩
  · refine Store.get?_of_mem (hmem.2 ⟨hr, ?_⟩)
    rintro ⟨cutoff, time, hcutoff, hst, htime, hlt⟩
    have hsub : w.now.sub? retention = some cutoff := by
      rwa [Config.cutoff?, hretention, Option.bind_some] at hcutoff
    exact absurd hlt (Int.not_lt.2 ((hkept hst time htime).le hsub))
  · exact Store.get?_of_mem (hmem.1 hr).1

/-- Two records were processed, about an hour ago, the later one in a leap second.  Another method is to
fail.  The longest retention leads out of range. -/
theorem purge_takes_outdated_leap :
    let leap : Timestamp := ⟨3599, 1200000000, by decide, by decide, by decide⟩
    let record (n : Nat) (status : Status) (processedAt : Option Timestamp) : Record :=
      { (Event.create (.ofNat n) "Todo" (.ofNat 7) "todos" "TODO_CREATED" .null .epoch).record with
        status, processedAt }
    let records := [record 1 .processed (some (Timestamp.epoch.addOrMax (.ofSecs 3599))),
      record 2 .processed (some leap), record 3 .failed none, record 4 .pending none]
    let w : World :=
      { (default : World) with
        elapsed := 7200100000000, stores := ⟨⟨records, by decide⟩, default⟩
        faults := [(.fetch, .notFound (.ofNat 1))] }
    let retaining (d : Duration) : Config := { Config.standard with retention := some d }
    let ended := purge (World.backend (.ofSecs 60)) (retaining (.ofSecs 3601)) w
    ((∀ e, (.purge, e) ∉ w.faults) ∧ leap.Within w.now (.ofSecs 3601)) ∧
      ended.1 = .ok 1 ∧ ended.2.stores.outbox.records.map Record.id = [.ofNat 2, .ofNat 3, .ofNat 4] ∧
      ended.2.stores.outbox.get? (.ofNat 2) = some (record 2 .processed (some leap)) ∧
      (purge (World.backend (.ofSecs 60)) (retaining (.ofNanos Duration.maxNanos)) w).1 = .ok 0 := by
  intro leap record records w retaining ended
  have hw : ∀ e, (.purge, e) ∉ w.faults := fun e he => nomatch List.mem_singleton.1 he
  have hwithin : leap.Within w.now (.ofSecs 3601) :=
    Or.inr ⟨w.now, .ofNanos 3600900000000, .ofNanos 0, by decide +kernel, by decide +kernel, by decide⟩
  obtain ⟨⟨hcount, hrest⟩, _, hkept, _⟩ :=
    purge_takes_outdated (.ofSecs 60) (retaining (.ofSecs 3601)) hw
  obtain ⟨_, hrange, _⟩ :=
    purge_takes_outdated (.ofSecs 60) (retaining (.ofNanos Duration.maxNanos)) hw
  refine ⟨⟨hw, hwithin⟩, hcount.trans (by decide +kernel), ?_, ?_, (hrange ?_).1⟩
  · rw [hrest]
    decide +kernel
  · refine hkept _ rfl (record 2 .processed (some leap)) (by simp [w, records]) fun _ time htime => ?_
    cases htime
    exact hwithin
  · intro retention hretention
    cases hretention
    decide +kernel

end Relay

end Outbox
