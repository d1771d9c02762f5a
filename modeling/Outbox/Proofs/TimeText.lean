import Outbox.Proofs.CalendarDays
import Outbox.Proofs.Digits
import Outbox.Time.Rfc3339

/-!
# The text of a point in time is read as this point

The text is read part by part, each part in front of any text that does not go on with it.

* `readYear?_yearDigits`, `readDate?_ofDate`     a date, with a sign where its year has one;
* `placesValue_fraction`, `readFraction?_fractionDigits`   3, 6 or 9 decimal places, or none;
* `readClock?_leap`, `readClock?_usual`          a time of day, in a leap second or not;
* `read?_text`                                   the whole text.
-/

namespace Outbox

namespace Text

theorem trimStart_cons {c : Char} (cs : List Char) (h : isBlank c = false) :
    trimStart (c :: cs) = c :: cs :=
  List.dropWhile_cons_of_neg (by rw [h]; decide)

/-- Digits are not blank. -/
theorem isBlank_of_isDigit {c : Char} (h : Decimal.isDigit c = true) : isBlank c = false := by
  have key : ∀ n : Fin 58, 48 ≤ n.val → inRanges blankRanges n.val = false := by decide
  simp only [Decimal.isDigit, Bool.and_eq_true, decide_eq_true_eq] at h
  have hlow : 48 ≤ c.toNat := h.1
  have hhigh : c.toNat ≤ 57 := h.2
  exact key ⟨c.toNat, Nat.lt_succ_of_le hhigh⟩ hlow

theorem trimStart_of_digits {cs : List Char} (hcs : ∀ c ∈ cs, Decimal.isDigit c = true) (hne : cs ≠ [])
    (rest : List Char) : trimStart (cs ++ rest) = cs ++ rest := by
  cases cs with
  | nil => exact absurd rfl hne
  | cons c cs => exact trimStart_cons _ (isBlank_of_isDigit (hcs c List.mem_cons_self))

end Text

namespace Timestamp

open Decimal (isDigit ofDigits padded StopsDigits)
open Text (trimStart isBlank trimStart_cons)

/-! ## numbers -/

theorem readNumber?_digits {limit : Nat} {ds rest : List Char} (hds : ∀ c ∈ ds, isDigit c = true)
    (hne : ds ≠ []) (h : ds.length = limit ∨ ds.length ≤ limit ∧ StopsDigits rest) :
    readNumber? limit (ds ++ rest) = some (ofDigits ds, rest) := by
  unfold readNumber?
  rw [Decimal.takeDigits_append_digits hds h]
  cases ds with
  | nil => exact absurd rfl hne
  | cons d ds => rfl

/-- As many digits as may be read are read, whatever follows. -/
theorem readNumber?_padded {width n : Nat} (h : n < 10 ^ width) (hw : width ≠ 0) (rest : List Char) :
    readNumber? width (padded width n ++ rest) = some (n, rest) := by
  rw [readNumber?_digits (Decimal.isDigit_of_mem_padded width n) (Decimal.padded_ne_nil width n)
    (Or.inl (Decimal.length_padded h hw)), Decimal.ofDigits_padded]

theorem readNumber?_of_stops (width n : Nat) {rest : List Char} (h : StopsDigits rest) :
    readNumber? (padded width n ++ rest).length (padded width n ++ rest) = some (n, rest) := by
  have hle : (padded width n).length ≤ (padded width n ++ rest).length := by
    rw [List.length_append]
    exact Nat.le_add_right _ _
  rw [readNumber?_digits (Decimal.isDigit_of_mem_padded width n) (Decimal.padded_ne_nil width n)
    (Or.inr ⟨hle, h⟩), Decimal.ofDigits_padded]

theorem trimStart_padded (width n : Nat) (rest : List Char) :
    trimStart (padded width n ++ rest) = padded width n ++ rest :=
  Text.trimStart_of_digits (Decimal.isDigit_of_mem_padded width n) (Decimal.padded_ne_nil width n) rest

/-! ## dates -/

theorem trimStart_yearDigits (year : Int) (rest : List Char) :
    trimStart (yearDigits year ++ rest) = yearDigits year ++ rest := by
  unfold yearDigits
  split
  · exact trimStart_padded 4 _ rest
  · split <;> exact trimStart_cons _ rfl

/-- A year that does not begin with a sign has four digits. -/
theorem readYear?_digits {ds : List Char} (hds : ∀ c ∈ ds, isDigit c = true) (hne : ds ≠ [])
    (rest : List Char) :
    readYear? (ds ++ rest) = (readNumber? 4 (ds ++ rest)).map fun (n, rest) => ((n : Int), rest) := by
  cases ds with
  | nil => exact absurd rfl hne
  | cons d ds =>
    have hd := hds d List.mem_cons_self
    unfold readYear?
    split
    · rename_i heq
      rw [(List.cons_eq_cons.1 heq).1] at hd
      cases hd
    · rename_i heq
      rw [(List.cons_eq_cons.1 heq).1] at hd
      cases hd
    · rfl

theorem readYear?_yearDigits (year : Int) {rest : List Char} (h : StopsDigits rest) :
    readYear? (yearDigits year ++ rest) = some (year, rest) := by
  unfold yearDigits
  by_cases hyear : 0 ≤ year ∧ year ≤ 9999
  · have hlt : year.natAbs < 10 ^ 4 := by omega
    rw [if_pos (by simpa using hyear),
      readYear?_digits (Decimal.isDigit_of_mem_padded _ _) (Decimal.padded_ne_nil _ _),
      readNumber?_padded hlt (by decide)]
    show some ((year.natAbs : Int), rest) = _
    rw [Int.natAbs_of_nonneg hyear.1]
  · rw [if_neg (by simpa using hyear)]
    by_cases hneg : year < 0
    · rw [if_pos hneg, List.cons_append, readYear?, readNumber?_of_stops _ _ h]
      show some (-(year.natAbs : Int), rest) = _
      rw [Int.ofNat_natAbs_of_nonpos (Int.le_of_lt hneg), Int.neg_neg]
    · rw [if_neg hneg, List.cons_append, readYear?, readNumber?_of_stops _ _ h]
      show some ((year.natAbs : Int), rest) = _
      rw [Int.natAbs_of_nonneg (Int.not_lt.1 hneg)]

theorem readDate?_ofDate {date : Calendar.Date} (hmonth : date.month < 10 ^ 2)
    (hday : date.day < 10 ^ 2) (rest : List Char) :
    readDate? (yearDigits date.year ++ '-' :: (padded 2 date.month ++ '-' :: (padded 2 date.day ++ rest))) =
      some (date, rest) := by
  have hstops (cs : List Char) : StopsDigits ('-' :: cs) := .cons cs rfl
  have htrim (cs : List Char) : trimStart ('-' :: cs) = '-' :: cs := trimStart_cons cs rfl
  have hchar (cs : List Char) : readChar? '-' ('-' :: cs) = some cs := rfl
  unfold readDate?
  simp only [trimStart_yearDigits, readYear?_yearDigits _ (hstops _), htrim, hchar, trimStart_padded,
    readNumber?_padded hmonth (show 2 ≠ 0 by decide), readNumber?_padded hday (show 2 ≠ 0 by decide),
    Option.bind_eq_bind, Option.bind_some]

/-! ## times of day -/

/-- Decimal places write a part of a second. -/
theorem placesValue_padded {width n : Nat} (h : n < 10 ^ width) (hw : width ≠ 0) (h9 : width ≤ 9) :
    placesValue (padded width n) = n * 10 ^ (9 - width) := by
  have hlen := Decimal.length_padded h hw
  unfold placesValue
  rw [List.take_of_length_le (by omega), hlen, Decimal.ofDigits_padded]
  rfl

theorem readFraction?_places {width n : Nat} (h : n < 10 ^ width) (hw : width ≠ 0) (h9 : width ≤ 9)
    {rest : List Char} (hrest : StopsDigits rest) :
    readFraction? ('.' :: (padded width n ++ rest)) = some (n * 10 ^ (9 - width), rest) := by
  have hds := Decimal.isDigit_of_mem_padded width n
  rw [readFraction?, Decimal.takeWhile_append_digits hds hrest, Decimal.dropWhile_append_digits hds hrest,
    ← placesValue_padded h hw h9]
  cases hp : padded width n with
  | nil => exact absurd hp (Decimal.padded_ne_nil width n)
  | cons d ds => rfl

/-- The fraction is written with the fewest places that lose nothing. -/
theorem readFraction?_fractionDigits {nanos : Nat} (h : nanos < 1000000000) (rest : List Char) :
    readFraction? (fractionDigits nanos ++ 'Z' :: rest) = some (nanos, 'Z' :: rest) := by
  have hrest : StopsDigits ('Z' :: rest) := .cons rest rfl
  unfold fractionDigits
  split
  · rename_i hzero
    rw [hzero]
    rfl
  split
  · rename_i hmillis
    rw [List.cons_append, readFraction?_places (by omega) (by decide) (by decide) hrest]
    congr 2
    omega
  split
  · rename_i hmicros
    rw [List.cons_append, readFraction?_places (by omega) (by decide) (by decide) hrest]
    congr 2
    omega
  · rw [List.cons_append, readFraction?_places (by omega) (by decide) (by decide) hrest]
    congr 2
    omega

theorem readClock?_digits {hour minute second nanos : Nat} (hhour : hour ≤ 23) (hminute : minute ≤ 59)
    (hsecond : second ≤ 60) (hnanos : nanos < 1000000000) (rest : List Char) :
    readClock?
        (padded 2 hour ++ ':' :: (padded 2 minute ++ ':' :: (padded 2 second ++
          (fractionDigits nanos ++ 'Z' :: rest)))) =
      some
        (if second = 60 then (hour * 3600 + minute * 60 + 59, 1000000000 + nanos)
          else (hour * 3600 + minute * 60 + second, nanos), 'Z' :: rest) := by
  have htrim (cs : List Char) : trimStart (':' :: cs) = ':' :: cs := trimStart_cons cs rfl
  have hchar (cs : List Char) : readChar? ':' (':' :: cs) = some cs := rfl
  have hnumber {n : Nat} (hn : n < 10 ^ 2) (cs : List Char) :
      readNumber? 2 (padded 2 n ++ cs) = some (n, cs) := readNumber?_padded hn (by decide) cs
  unfold readClock?
  simp only [trimStart_padded, htrim, hchar, hnumber (show hour < 10 ^ 2 by omega),
    hnumber (show minute < 10 ^ 2 by omega), hnumber (show second < 10 ^ 2 by omega),
    readFraction?_fractionDigits hnanos, Option.bind_eq_bind, Option.bind_some, hhour, hminute, hsecond,
    decide_true, Bool.and_self, if_true]
  split <;> rfl

/-! ## points in time -/

theorem make?_eq (t : Timestamp) : make? t.secs t.nanos = some t := by
  unfold make?
  rw [dif_pos ⟨⟨t.secs_ge, t.secs_le⟩, t.nanos_ok⟩]

/-- The clock shows the second of the day, and the second 60 in a leap second. -/
theorem clock_eq (t : Timestamp) :
    ∃ hour minute second nanos, hour ≤ 23 ∧ minute ≤ 59 ∧ second ≤ 60 ∧ nanos < 1000000000 ∧
      t.chars =
        yearDigits (Calendar.Date.ofDay (t.secs / 86400)).year ++ '-' ::
          (padded 2 (Calendar.Date.ofDay (t.secs / 86400)).month ++ '-' ::
            (padded 2 (Calendar.Date.ofDay (t.secs / 86400)).day ++ 'T' ::
              (padded 2 hour ++ ':' :: (padded 2 minute ++ ':' :: (padded 2 second ++
                (fractionDigits nanos ++ ['Z'])))))) ∧
      (if second = 60 then (hour * 3600 + minute * 60 + 59, 1000000000 + nanos)
        else (hour * 3600 + minute * 60 + second, nanos)) = ((t.secs % 86400).toNat, t.nanos) := by
  obtain ⟨s, hs⟩ : ∃ s, s = (t.secs % 86400).toNat := ⟨_, rfl⟩
  have hlt : s < 86400 := by omega
  have hhour : s / 3600 ≤ 23 := by omega
  have hminute : s / 60 % 60 ≤ 59 := by omega
  by_cases hleap : 1000000000 ≤ t.nanos
  · have hlast : t.secs % 60 = 59 := by
      rcases t.nanos_ok with h | h
      · omega
      · exact h.2
    have hnanos := t.nanos_lt
    refine ⟨s / 3600, s / 60 % 60, 60, t.nanos - 1000000000, hhour, hminute, Nat.le_refl 60,
      by omega, ?_, ?_⟩
    · unfold chars
      simp only [← hs, hleap, if_true, List.append_assoc, List.cons_append]
    · have hsum : s / 3600 * 3600 + s / 60 % 60 * 60 + 59 = s := by omega
      rw [if_pos rfl, hsum, hs, Nat.add_sub_cancel' hleap]
  · refine ⟨s / 3600, s / 60 % 60, s % 60, t.nanos, hhour, hminute, by omega, by omega, ?_, ?_⟩
    · unfold chars
      simp only [← hs, hleap, if_false, List.append_assoc, List.cons_append]
    · have hsum : s / 3600 * 3600 + s / 60 % 60 * 60 + s % 60 = s := by omega
      have hne : s % 60 ≠ 60 := by omega
      rw [if_neg hne, hsum, hs]

theorem readChars?_chars (t : Timestamp) : readChars? t.chars = some t := by
  obtain ⟨hour, minute, second, nanos, hhour, hminute, hsecond, hnanos, hchars, hclock⟩ := clock_eq t
  have hexists := Calendar.Date.exists_ofDay (t.secs / 86400)
  have hmonth := hexists.2.1
  have hday := Nat.le_trans hexists.2.2.2 (Calendar.monthLength_le _ _)
  have hsecs : t.secs / 86400 * 86400 + ((t.secs % 86400).toNat : Int) = t.secs := by omega
  have hoffset : readOffset? (trimStart ['Z']) = some (0, []) := rfl
  have hend : Text.isBlankText [] = true := rfl
  have hrange : minSecs ≤ t.secs ∧ t.secs ≤ maxSecs := ⟨t.secs_ge, t.secs_le⟩
  unfold readChars?
  rw [hchars, readDate?_ofDate (by omega) (by omega)]
  simp only [Option.bind_eq_bind, Option.bind_some,
    readClock?_digits hhour hminute hsecond hnanos, hclock, hoffset, hexists, hend,
    Calendar.Date.toDay_ofDay, hsecs, hrange, decide_true, Bool.and_self, if_true, Int.sub_zero, make?_eq]

/-- The text of a point in time is read as this point. -/
theorem read?_text (t : Timestamp) : read? t.text = some t := by
  unfold read? text
  rw [String.toList_ofList]
  exact readChars?_chars t

end Timestamp

end Outbox
