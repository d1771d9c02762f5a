import Mathlib.Algebra.Ring.Nat
import Mathlib.Data.List.Basic
import Outbox.Time.Calendar

/-!
# Days and dates

* `monthLength_le`        no month has more than 31 days;
* `yearOfDay_spec`        a day lies in its year;
* `monthOfDay_spec`       a day of a year lies in its month;
* `Date.exists_ofDay`     the date of a day exists;
* `Date.toDay_ofDay`      and is the date of that day only.
-/

namespace Outbox.Calendar

/-- the days of a year -/
def yearLength (year : Int) : Nat := if isLeap year then 366 else 365

theorem sum_monthLengths (year : Int) : (monthLengths (isLeap year)).sum = yearLength year := by
  unfold yearLength
  cases isLeap year <;> rfl

theorem monthLength_le (year : Int) (month : Nat) : monthLength year month ≤ 31 := by
  have key (leap : Bool) : ∀ n ∈ monthLengths leap, n ≤ 31 := by cases leap <;> decide
  unfold monthLength
  rw [List.getD_eq_getElem?_getD]
  cases h : (monthLengths (isLeap year))[month - 1]? with
  | none => exact Nat.zero_le 31
  | some n => exact key _ n (List.mem_of_getElem? h)

theorem daysBeforeYear_cycles (cycle : Int) {century four one : Nat} (hcentury : century ≤ 3)
    (hfour : four ≤ 24) (hone : one ≤ 3) :
    daysBeforeYear (400 * cycle + 100 * century + 4 * four + one + 1) =
      146097 * cycle + 36524 * century + 1461 * four + 365 * one := by
  unfold daysBeforeYear
  dsimp only
  omega

/-- Years are counted in cycles of 400, of which only the last year of a century need not be leap. -/
theorem yearOfDay_spec (n : Int) :
    daysBeforeYear (yearOfDay n).1 + (yearOfDay n).2 = n ∧
      (yearOfDay n).2 < yearLength (yearOfDay n).1 := by
  obtain ⟨cycle, r, hr, hn⟩ : ∃ (cycle : Int) (r : Nat), r < 146097 ∧ n = 146097 * cycle + r :=
    ⟨n / 146097, (n % 146097).toNat, by omega, by omega⟩
  obtain ⟨century, r₁, hcentury, hr₁⟩ : ∃ century r₁ : Nat, century = min (r / 36524) 3 ∧
      r₁ = r - century * 36524 := ⟨_, _, rfl, rfl⟩
  obtain ⟨four, r₂, hfour, hr₂⟩ : ∃ four r₂ : Nat, four = r₁ / 1461 ∧ r₂ = r₁ % 1461 :=
    ⟨_, _, rfl, rfl⟩
  obtain ⟨one, hone⟩ : ∃ one : Nat, one = min (r₂ / 365) 3 := ⟨_, rfl⟩
  have hcycle : n / 146097 = cycle := by omega
  have hrest : (n % 146097).toNat = r := by omega
  have hyear : yearOfDay n =
      (400 * cycle + 100 * century + 4 * four + one + 1, r₂ - one * 365) := by
    unfold yearOfDay
    rw [hcycle, hrest, hone, hr₂, hfour, hr₁, hcentury]
  have hfour_le : four ≤ 24 := by omega
  rw [hyear]
  constructor
  · rw [daysBeforeYear_cycles cycle (by omega) hfour_le (by omega)]
    omega
  · have hle : r₂ - one * 365 ≤ 365 := by omega
    show r₂ - one * 365 < yearLength _
    unfold yearLength isLeap
    by_cases hlast : r₂ - one * 365 = 365
    · -- the last day of a fourth year, which closes a century only in the last one of the cycle
      rw [if_pos, hlast]
      · decide
      · simp only [Bool.and_eq_true, Bool.or_eq_true, decide_eq_true_eq, ne_eq, decide_not,
          Bool.not_eq_true', decide_eq_false_iff_not]
        omega
    · split <;> omega

theorem monthOfDay_spec (lengths : List Nat) (month n : Nat) (h : n < lengths.sum) :
    ∃ k d, k < lengths.length ∧ monthOfDay lengths month n = (month + k, d + 1) ∧
      (lengths.take k).sum + d = n ∧ d < lengths.getD k 0 := by
  induction lengths generalizing month n with
  | nil => exact absurd h (Nat.not_lt_zero n)
  | cons length rest ih =>
    by_cases hn : n < length
    · exact ⟨0, n, Nat.succ_pos _, if_pos hn, Nat.zero_add n, hn⟩
    · rw [List.sum_cons] at h
      obtain ⟨k, d, hk, hm, hsum, hd⟩ := ih (month + 1) (n - length) (by omega)
      refine ⟨k + 1, d, Nat.succ_lt_succ hk, ?_, ?_, hd⟩
      · rw [monthOfDay, if_neg hn, hm, Nat.add_assoc, Nat.add_comm 1 k]
      · rw [List.take_succ_cons, List.sum_cons]
        omega

namespace Date

theorem ofDay_eq (day : Int) :
    ∃ year k d, k < 12 ∧ Date.ofDay day = ⟨year, k + 1, d + 1⟩ ∧ d < monthLength year (k + 1) ∧
      daysBeforeYear year + (daysBeforeMonth year (k + 1) + d : Nat) = day + epochDay := by
  obtain ⟨hday, hlt⟩ := yearOfDay_spec (day + epochDay)
  rw [← sum_monthLengths] at hlt
  obtain ⟨k, d, hk, hm, hsum, hd⟩ := monthOfDay_spec _ 1 _ hlt
  refine ⟨(yearOfDay (day + epochDay)).1, k, d, hk, ?_, hd, ?_⟩
  · unfold Date.ofDay
    dsimp only
    rw [hm, Nat.add_comm 1 k]
  · rw [show daysBeforeMonth _ (k + 1) + d = (yearOfDay (day + epochDay)).2 from hsum]
    exact hday

/-- The date of a day exists. -/
theorem exists_ofDay (day : Int) : (Date.ofDay day).Exists := by
  obtain ⟨year, k, d, hk, hdate, hd, _⟩ := ofDay_eq day
  rw [hdate]
  exact ⟨Nat.succ_pos k, hk, Nat.succ_pos d, hd⟩

/-- A day is the day of its date. -/
theorem toDay_ofDay (day : Int) : (Date.ofDay day).toDay = day := by
  obtain ⟨year, k, d, _, hdate, _, hday⟩ := ofDay_eq day
  rw [hdate]
  show daysBeforeYear year + (daysBeforeMonth year (k + 1) : Int) + (((d + 1 : Nat) : Int) - 1) -
    epochDay = day
  omega

end Date

end Outbox.Calendar
