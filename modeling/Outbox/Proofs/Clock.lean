import Outbox.Time.Timestamp

/-!
# Time goes by

* `later?_some`      where the clock stands some nanoseconds after a time;
* `later?_lt`        more nanoseconds, a later time, also across a leap second;
* `later?_later?`    nanoseconds after nanoseconds add up;
* `add?_some`        adding a duration is `later?`, where it is possible at all;
* `addOrMax_eq`      otherwise it leads out of range;
* `le_addOrMax`      a time with a duration added to it is not an earlier one;
* `sub?_some`        where the clock stood a duration before a time;
* `sub?_eq_none_iff` this is a time unless it is before all times.
-/

namespace Outbox.Timestamp

theorem eq_iff_key {s t : Timestamp} : s = t ↔ s.key = t.key := ⟨congrArg key, key_inj⟩

theorem make?_some {secs : Int} {nanos : Nat} {t : Timestamp} (h : make? secs nanos = some t) :
    t.secs = secs ∧ t.nanos = nanos := by
  unfold make? at h
  split at h
  · injection h with h
    subst h
    exact ⟨rfl, rfl⟩
  · cases h

theorem ofNanos?_some {secs nanos : Int} {t : Timestamp} (h : ofNanos? secs nanos = some t) :
    t.secs = secs + nanos / 1000000000 ∧ (t.nanos : Int) = nanos % 1000000000 := by
  obtain ⟨hs, hn⟩ := make?_some h
  refine ⟨hs, ?_⟩
  rw [hn, Int.toNat_of_nonneg (Int.emod_nonneg _ (by decide))]

/-- The clock stays inside a leap second while it can, and otherwise counts on from the second before. -/
theorem later?_some {s t : Timestamp} {n : Nat} (h : s.later? n = some t) :
    (1000000000 ≤ s.nanos ∧ s.nanos + n < 2000000000 ∧ t.secs = s.secs ∧ t.nanos = s.nanos + n) ∨
      (1000000000 ≤ s.nanos ∧ 2000000000 ≤ s.nanos + n ∧
        t.secs = s.secs + (s.nanos - 1000000000 + n : Int) / 1000000000 ∧
        (t.nanos : Int) = (s.nanos - 1000000000 + n : Int) % 1000000000) ∨
      (s.nanos < 1000000000 ∧ t.secs = s.secs + (s.nanos + n : Int) / 1000000000 ∧
        (t.nanos : Int) = (s.nanos + n : Int) % 1000000000) := by
  unfold later? at h
  split at h
  · rename_i hleap
    split at h
    · rename_i hstay
      exact Or.inl ⟨hleap, hstay, make?_some h⟩
    · rename_i hleave
      exact Or.inr (Or.inl ⟨hleap, Nat.le_of_not_lt hleave, ofNanos?_some h⟩)
  · rename_i hleap
    exact Or.inr (Or.inr ⟨Nat.lt_of_not_le hleap, ofNanos?_some h⟩)

theorem later?_lt {s a b : Timestamp} {m n : Nat} (ha : s.later? m = some a)
    (hb : s.later? n = some b) (h : m < n) : a < b := by
  rw [lt_iff]
  unfold key
  have ha := later?_some ha
  have hb := later?_some hb
  omega

theorem later?_le_iff {s a b : Timestamp} {m n : Nat} (ha : s.later? m = some a)
    (hb : s.later? n = some b) : a ≤ b ↔ m ≤ n := by
  constructor
  · intro h
    refine Nat.le_of_not_lt fun hlt => ?_
    have hba := later?_lt hb ha hlt
    rw [le_iff] at h
    rw [lt_iff] at hba
    omega
  · intro h
    rcases Nat.lt_or_eq_of_le h with h | rfl
    · exact Int.le_of_lt (later?_lt ha hb h)
    · rw [ha] at hb
      injection hb with hb
      subst hb
      exact Int.le_refl _

theorem later?_zero (s : Timestamp) : s.later? 0 = some s := by
  have hlt := s.nanos_lt
  have hok := s.nanos_ok
  have hge := s.secs_ge
  have hle := s.secs_le
  unfold later?
  by_cases hleap : 1000000000 ≤ s.nanos
  · rw [if_pos hleap, if_pos (by omega)]
    exact dif_pos ⟨⟨hge, hle⟩, hok⟩
  · rw [if_neg hleap]
    unfold ofNanos?
    have hsecs : s.secs + (s.nanos + (0 : Nat) : Int) / 1000000000 = s.secs := by omega
    have hnanos : ((s.nanos + (0 : Nat) : Int) % 1000000000).toNat = s.nanos := by omega
    rw [hsecs, hnanos]
    exact dif_pos ⟨⟨hge, hle⟩, hok⟩

theorem later?_inj {s a : Timestamp} {m n : Nat} (hm : s.later? m = some a)
    (hn : s.later? n = some a) : m = n :=
  Nat.le_antisymm ((later?_le_iff hm hn).1 (Int.le_refl _)) ((later?_le_iff hn hm).1 (Int.le_refl _))

theorem later?_later? {s t : Timestamp} {m : Nat} (h : s.later? m = some t) (n : Nat) :
    t.later? n = s.later? (m + n) := by
  have ht := later?_some h
  unfold later? ofNanos?
  rcases ht with ⟨hs, hn, hsecs, hnanos⟩ | ⟨hs, hn, hsecs, hnanos⟩ | ⟨hs, hsecs, hnanos⟩
  · rw [if_pos (by omega), if_pos hs, hsecs, hnanos]
    by_cases hstay : s.nanos + m + n < 2000000000
    · rw [if_pos hstay, if_pos (by omega), Nat.add_assoc]
    · rw [if_neg hstay, if_neg (by omega)]
      congr 2 <;> omega
  · rw [if_neg (by omega), if_pos hs, if_neg (by omega), hsecs]
    congr 1 <;> omega
  · rw [if_neg (by omega), if_neg (by omega), hsecs]
    congr 1 <;> omega

/-- A duration that no time can be moved by leads out of range from every time. -/
theorem later?_of_lt {s : Timestamp} {n : Nat} (h : maxShift < n) : s.later? n = none := by
  cases hlater : s.later? n with
  | none => rfl
  | some t =>
    have hspec := later?_some hlater
    have hs := s.secs_ge
    have ht := t.secs_le
    have hn := t.nanos_lt
    unfold maxShift at h
    omega

/-- Where a duration can be added to a time, it is not among the largest. -/
theorem add?_some {s t : Timestamp} {d : Duration} (h : s.add? d = some t) :
    d.nanos ≤ maxShift ∧ s.later? d.nanos = some t := by
  unfold add? at h
  split at h
  · rename_i hd
    exact ⟨hd, h⟩
  · cases h

/-- A number of nanoseconds that can be added was not cut to the largest duration. -/
theorem later?_of_add?_ofNanos {s t : Timestamp} {n : Nat} (h : s.add? (.ofNanos n) = some t) :
    s.later? n = some t := by
  obtain ⟨hshift, hlater⟩ := add?_some h
  rw [Duration.nanos_ofNanos] at hshift hlater
  have hn : min n Duration.maxNanos = n := by
    unfold maxShift at hshift
    unfold Duration.maxNanos at hshift ⊢
    omega
  rwa [hn] at hlater

theorem addOrMax_of_add? {s t : Timestamp} {d : Duration} (h : s.add? d = some t) :
    s.addOrMax d = t := by
  unfold addOrMax
  rw [h, Option.getD_some]

theorem addOrMax_of_none {s : Timestamp} {d : Duration} (h : s.add? d = none) : s.addOrMax d = max := by
  unfold addOrMax
  rw [h, Option.getD_none]

/-- The time that is the duration later, and the largest time where that is out of range. -/
theorem addOrMax_eq (s : Timestamp) (d : Duration) : s.addOrMax d = (s.later? d.nanos).getD max := by
  unfold addOrMax add?
  by_cases h : d.nanos ≤ maxShift
  · rw [if_pos h]
  · rw [if_neg h, later?_of_lt (Nat.lt_of_not_le h)]

theorem le_addOrMax {s : Timestamp} (h : s ≤ max) (d : Duration) : s ≤ s.addOrMax d := by
  cases ht : s.add? d with
  | none => rwa [addOrMax_of_none ht]
  | some t =>
    rw [addOrMax_of_add? ht]
    exact (later?_le_iff (later?_zero s) (add?_some ht).2).2 (Nat.zero_le _)

/-! ## back in time -/

/-- Inside a leap second less than a second leads at most back to the second before it. -/
theorem sub?_some {s t : Timestamp} {d : Duration} (h : s.sub? d = some t) :
    (1000000000 ≤ s.nanos ∧ d.nanos < 1000000000 ∧ t.secs = s.secs ∧ t.nanos = s.nanos - d.nanos) ∨
      ((s.nanos < 1000000000 ∨ 1000000000 ≤ d.nanos) ∧
        t.secs = s.secs + (s.nanos - d.nanos : Int) / 1000000000 ∧
        (t.nanos : Int) = (s.nanos - d.nanos : Int) % 1000000000) := by
  unfold sub? at h
  split at h
  · split at h
    · rename_i hstay
      rw [Bool.and_eq_true, decide_eq_true_eq, decide_eq_true_eq] at hstay
      exact Or.inl ⟨hstay.1, hstay.2, make?_some h⟩
    · rename_i hleave
      rw [Bool.and_eq_true, decide_eq_true_eq, decide_eq_true_eq] at hleave
      exact Or.inr ⟨by omega, ofNanos?_some h⟩
  · cases h

/-- A time can be moved back by a duration unless that leads out of range. -/
theorem sub?_eq_none_iff {t : Timestamp} {d : Duration} :
    t.sub? d = none ↔ (t.secs * 1000000000 + t.nanos - d.nanos : Int) < minSecs * 1000000000 := by
  have hge := t.secs_ge
  have hle := t.secs_le
  have hok := t.nanos_ok
  constructor
  · intro h
    refine Int.not_le.1 fun hin => ?_
    unfold minSecs at hin
    unfold sub? maxShift at h
    rw [if_pos (by omega)] at h
    split at h
    · rename_i hstay
      rw [Bool.and_eq_true, decide_eq_true_eq, decide_eq_true_eq] at hstay
      unfold make? at h
      rw [dif_pos ⟨⟨hge, hle⟩, by omega⟩] at h
      cases h
    · rename_i hleave
      rw [Bool.and_eq_true, decide_eq_true_eq, decide_eq_true_eq] at hleave
      unfold ofNanos? make? at h
      rw [dif_pos ⟨by omega, by omega⟩] at h
      cases h
  · intro h
    cases hs : t.sub? d with
    | none => rfl
    | some c =>
      have hc := sub?_some hs
      have hge := c.secs_ge
      unfold minSecs at h
      omega

end Outbox.Timestamp
