import Mathlib.Algebra.Ring.Nat
import Mathlib.Data.List.Basic
import Outbox.Decimal.Natural
import Outbox.Text.Hex

/-!
# Digits of numbers

A number is written with `digits` or, to a fixed width, `padded` and `hexWord`; it is read back with
`ofDigits` and `hexNumber?`, after a run of digits was taken off the front of a text.

* `ofDigits_digits`, `ofDigits_padded`     decimal digits write the number they were made from;
* `head_digits`                            only zero begins with a zero;
* `length_digits_le`, `length_padded`      how many digits there are;
* `StopsDigits`                            a text that does not go on with a digit;
* `takeWhile_append_digits`, `dropWhile_append_digits`, `takeDigits_append_digits`
                                           in front of such a text all the digits are taken;
* `hexNumber?_hexWord`                     hexadecimal digits write the number modulo `16 ^ width`.
-/

namespace Outbox

namespace Decimal

/-! ## one digit -/

theorem isDigit_digitChar {n : Nat} (h : n < 10) : isDigit (digitChar n) = true := by
  have key : ∀ a : Fin 10, isDigit (digitChar a.val) = true := by decide
  exact key ⟨n, h⟩

theorem digitValue_digitChar {n : Nat} (h : n < 10) : digitValue (digitChar n) = n := by
  have key : ∀ a : Fin 10, digitValue (digitChar a.val) = a.val := by decide
  exact key ⟨n, h⟩

theorem digitChar_eq_zero {n : Nat} (h : n < 10) (hz : digitChar n = '0') : n = 0 := by
  have hv := digitValue_digitChar h
  rw [hz] at hv
  exact hv.symm

/-! ## the digits of a number -/

theorem digits_of_lt {n : Nat} (h : n < 10) : digits n = [digitChar n] := by
  rw [digits, if_pos h]

theorem digits_of_le {n : Nat} (h : 10 ≤ n) :
    digits n = digits (n / 10) ++ [digitChar (n % 10)] := by
  rw [digits, if_neg (Nat.not_lt.2 h)]

theorem digits_ne_nil (n : Nat) : digits n ≠ [] := by
  by_cases h : n < 10
  · rw [digits_of_lt h]
    exact List.cons_ne_nil _ _
  · rw [digits_of_le (Nat.not_lt.1 h)]
    exact List.append_ne_nil_of_right_ne_nil _ (List.cons_ne_nil _ _)

theorem isDigit_of_mem_digits (n : Nat) : ∀ c ∈ digits n, isDigit c = true := by
  induction n using digits.induct with
  | case1 n h =>
    rw [digits_of_lt h]
    intro c hc
    rw [List.mem_singleton.1 hc]
    exact isDigit_digitChar h
  | case2 n h ih =>
    rw [digits_of_le (Nat.not_lt.1 h)]
    intro c hc
    rcases List.mem_append.1 hc with hc | hc
    · exact ih c hc
    · rw [List.mem_singleton.1 hc]
      exact isDigit_digitChar (Nat.mod_lt n (by decide))

theorem ofDigits_digits (n : Nat) : ofDigits (digits n) = n := by
  induction n using digits.induct with
  | case1 n h =>
    rw [digits_of_lt h]
    show 10 * 0 + digitValue (digitChar n) = n
    rw [digitValue_digitChar h, Nat.mul_zero, Nat.zero_add]
  | case2 n h ih =>
    rw [digits_of_le (Nat.not_lt.1 h), ofDigits_append_singleton, ih,
      digitValue_digitChar (Nat.mod_lt n (by decide))]
    exact Nat.div_add_mod n 10

/-- Only zero begins with a zero. -/
theorem head_digits {n : Nat} (h : n ≠ 0) : (digits n).head? ≠ some '0' := by
  induction n using digits.induct with
  | case1 n hlt =>
    rw [digits_of_lt hlt]
    intro hz
    exact h (digitChar_eq_zero hlt (Option.some.inj hz))
  | case2 n hge ih =>
    have hhigh : n / 10 ≠ 0 := by omega
    rw [digits_of_le (Nat.not_lt.1 hge), List.head?_append_of_ne_nil _ (digits_ne_nil _)]
    exact ih hhigh

theorem length_digits_le {n k : Nat} (h : n < 10 ^ k) (hk : k ≠ 0) : (digits n).length ≤ k := by
  induction k generalizing n with
  | zero => exact absurd rfl hk
  | succ k ih =>
    by_cases hn : n < 10
    · rw [digits_of_lt hn]
      exact Nat.succ_le_succ (Nat.zero_le k)
    · have hpow : n < 10 ^ k * 10 := by rwa [Nat.pow_succ] at h
      have hhigh : n / 10 < 10 ^ k := (Nat.div_lt_iff_lt_mul (by decide)).2 hpow
      have hk : k ≠ 0 := by
        rintro rfl
        exact hn h
      rw [digits_of_le (Nat.not_lt.1 hn), List.length_append]
      exact Nat.succ_le_succ (ih hhigh hk)

/-! ## to a fixed width -/

theorem isDigit_of_mem_padded (width n : Nat) : ∀ c ∈ padded width n, isDigit c = true := by
  intro c hc
  rcases List.mem_append.1 hc with hc | hc
  · rw [(List.mem_replicate.1 hc).2]
    rfl
  · exact isDigit_of_mem_digits n c hc

theorem ofDigits_zeros_append (k : Nat) (cs : List Char) :
    ofDigits (List.replicate k '0' ++ cs) = ofDigits cs := by
  induction k with
  | zero => rfl
  | succ k ih => exact ih

theorem ofDigits_padded (width n : Nat) : ofDigits (padded width n) = n := by
  unfold padded
  rw [ofDigits_zeros_append, ofDigits_digits]

theorem length_padded {width n : Nat} (h : n < 10 ^ width) (hw : width ≠ 0) :
    (padded width n).length = width := by
  have hle := length_digits_le h hw
  unfold padded
  rw [List.length_append, List.length_replicate]
  omega

theorem padded_ne_nil (width n : Nat) : padded width n ≠ [] :=
  List.append_ne_nil_of_right_ne_nil _ (digits_ne_nil n)

/-! ## what follows -/

/-- The text does not begin with a digit. -/
def StopsDigits (cs : List Char) : Prop := ∀ c, cs.head? = some c → isDigit c = false

theorem StopsDigits.nil : StopsDigits [] := nofun

theorem StopsDigits.cons {c : Char} (cs : List Char) (h : isDigit c = false) :
    StopsDigits (c :: cs) := by
  intro d hd
  rw [← Option.some.inj hd]
  exact h

section
variable {ds rest : List Char}

theorem takeWhile_stops (h : StopsDigits rest) : rest.takeWhile isDigit = [] := by
  cases rest with
  | nil => rfl
  | cons c cs => exact List.takeWhile_cons_of_neg (by rw [h c rfl]; decide)

theorem takeWhile_append_digits (hds : ∀ c ∈ ds, isDigit c = true) (h : StopsDigits rest) :
    (ds ++ rest).takeWhile isDigit = ds := by
  rw [List.takeWhile_append_of_pos hds, takeWhile_stops h, List.append_nil]

theorem dropWhile_append_digits (hds : ∀ c ∈ ds, isDigit c = true) (h : StopsDigits rest) :
    (ds ++ rest).dropWhile isDigit = rest := by
  rw [List.dropWhile_append_of_pos hds]
  cases rest with
  | nil => rfl
  | cons c cs => exact List.dropWhile_cons_of_neg (by rw [h c rfl]; decide)

theorem takeDigits_stops (limit : Nat) (h : StopsDigits rest) : takeDigits limit rest = ([], rest) := by
  cases limit with
  | zero => rfl
  | succ limit =>
    cases rest with
    | nil => rfl
    | cons c cs =>
      have hc : ¬ isDigit c = true := by
        rw [h c rfl]
        decide
      unfold takeDigits
      rw [if_neg hc]

/-- All the digits are taken if none follows, or if there may not be more. -/
theorem takeDigits_append_digits {limit : Nat} (hds : ∀ c ∈ ds, isDigit c = true)
    (h : ds.length = limit ∨ ds.length ≤ limit ∧ StopsDigits rest) :
    takeDigits limit (ds ++ rest) = (ds, rest) := by
  induction ds generalizing limit with
  | nil =>
    rcases h with rfl | ⟨_, h⟩
    · rfl
    · exact takeDigits_stops limit h
  | cons c ds ih =>
    obtain ⟨limit, rfl⟩ : ∃ k, limit = k + 1 := by
      refine Nat.exists_eq_succ_of_ne_zero ?_
      rintro rfl
      rcases h with h | ⟨h, _⟩ <;> simp at h
    have hrest : ds.length = limit ∨ ds.length ≤ limit ∧ StopsDigits rest := by
      simpa using h
    rw [List.cons_append, takeDigits, if_pos (hds c List.mem_cons_self),
      ih (fun d hd => hds d (List.mem_cons_of_mem c hd)) hrest]

end

end Decimal

namespace Text

/-! ## hexadecimal digits -/

theorem hexValue?_hexDigit {n : Nat} (h : n < 16) : hexValue? (hexDigit n) = some n := by
  have key : ∀ a : Fin 16, hexValue? (hexDigit a.val) = some a.val := by decide
  exact key ⟨n, h⟩

theorem hexNumber?_append_singleton (cs : List Char) (c : Char) :
    hexNumber? (cs ++ [c]) = (hexNumber? cs).bind fun n => (hexValue? c).map (16 * n + ·) := by
  unfold hexNumber?
  rw [List.foldlM_append]
  simp only [List.foldlM_cons, List.foldlM_nil, bind_pure]
  rfl

theorem hexNumber?_hexWord (width n : Nat) :
    hexNumber? (hexWord width n) = some (n % 16 ^ width) := by
  induction width generalizing n with
  | zero => exact congrArg some (Nat.mod_one n).symm
  | succ width ih =>
    rw [hexWord, hexNumber?_append_singleton, ih, Option.bind_some,
      hexValue?_hexDigit (Nat.mod_lt n (by decide)), Option.map_some, Nat.pow_succ',
      Nat.mod_mul, Nat.add_comm]

end Text

end Outbox
