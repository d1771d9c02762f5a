import Mathlib.Algebra.Ring.Nat
import Outbox.Proofs.Digits
import Outbox.Uuid

/-!
# The text of an id

* `hexWord_inj`        the last digits of a number tell these digits;
* `hexWord_add`        digits that are cut in two are those of the two parts of the number;
* `Uuid.text_inj`      different ids have different texts;
* `Uuid.read?_text`    the text of an id is read as this id.
-/

namespace Outbox

namespace Text

theorem hexDigit_inj {m n : Nat} (hm : m < 16) (hn : n < 16) (h : hexDigit m = hexDigit n) : m = n := by
  have key : ∀ a b : Fin 16, hexDigit a.val = hexDigit b.val → a = b := by decide
  exact congrArg Fin.val (key ⟨m, hm⟩ ⟨n, hn⟩ h)

theorem hexWord_inj (width : Nat) {m n : Nat} (h : hexWord width m = hexWord width n) :
    m % 16 ^ width = n % 16 ^ width := by
  induction width generalizing m n with
  | zero => rw [pow_zero, Nat.mod_one, Nat.mod_one]
  | succ width ih =>
    obtain ⟨hhigh, hlow⟩ := List.append_inj' h rfl
    have hhigh := ih hhigh
    have hlow : m % 16 = n % 16 :=
      hexDigit_inj (Nat.mod_lt _ (by decide)) (Nat.mod_lt _ (by decide)) (List.cons_eq_cons.1 hlow).1
    rw [pow_succ', Nat.mod_mul, Nat.mod_mul, hhigh, hlow]

theorem hexWord_add (high low n : Nat) :
    hexWord (high + low) n = hexWord high (n / 16 ^ low) ++ hexWord low n := by
  induction low generalizing n with
  | zero =>
    rw [pow_zero, Nat.div_one]
    exact (List.append_nil _).symm
  | succ low ih =>
    rw [← Nat.add_assoc, hexWord, hexWord, ih, Nat.div_div_eq_div_mul, ← pow_succ', List.append_assoc]

theorem exists_of_mem_hexWord {c : Char} {width n : Nat} (h : c ∈ hexWord width n) :
    ∃ k < 16, c = hexDigit k := by
  induction width generalizing n with
  | zero => cases h
  | succ width ih =>
    rcases List.mem_append.1 h with h | h
    · exact ih h
    · exact ⟨n % 16, Nat.mod_lt n (by decide), List.mem_singleton.1 h⟩

end Text

namespace Uuid

open Text (hexWord hexWord_inj hexWord_length)

theorem chars_inj {u v : Uuid} (h : u.chars = v.chars) : u = v := by
  unfold chars at h
  obtain ⟨h, h0⟩ := List.append_inj' h (by simp [hexWord_length])
  obtain ⟨h, h1⟩ := List.append_inj' h (by simp [hexWord_length])
  obtain ⟨h, h2⟩ := List.append_inj' h (by simp [hexWord_length])
  obtain ⟨h4, h3⟩ := List.append_inj' h (by simp [hexWord_length])
  have h0 := hexWord_inj 12 (List.cons_eq_cons.1 h0).2
  have h1 := hexWord_inj 4 (List.cons_eq_cons.1 h1).2
  have h2 := hexWord_inj 4 (List.cons_eq_cons.1 h2).2
  have h3 := hexWord_inj 4 (List.cons_eq_cons.1 h3).2
  have h4 := hexWord_inj 8 h4
  have hu := u.bits.isLt
  have hv := v.bits.isLt
  have hbits : u.bits.toNat = v.bits.toNat := by omega
  exact congrArg Uuid.mk (BitVec.eq_of_toNat_eq hbits)

/-- Different ids have different texts. -/
theorem text_inj {u v : Uuid} (h : u.text = v.text) : u = v :=
  chars_inj (String.ofList_injective h)

/-! ## reading -/

theorem readHyphenated?_groups {a b c d e : List Char} (ha : a.length = 8) (hb : b.length = 4)
    (hc : c.length = 4) (hd : d.length = 4) (he : e.length = 12) :
    readHyphenated? (a ++ '-' :: b ++ '-' :: c ++ '-' :: d ++ '-' :: e) =
      readDigits? (a ++ b ++ c ++ d ++ e) := by
  unfold readHyphenated?
  simp [ha, hb, hc, hd, he, List.drop_append, List.drop_eq_nil_of_le]

/-- A text of 36 characters that begins with a digit can only be the form with hyphens. -/
theorem readChars?_of_head {c : Char} {cs : List Char} (hlen : (c :: cs).length = 36) (hu : c ≠ 'u')
    (hbrace : c ≠ '\x7b') : readChars? (c :: cs) = readHyphenated? (c :: cs) := by
  unfold readChars?
  split
  · rename_i heq
    exact absurd (List.cons_eq_cons.1 heq).1 hu
  · rename_i heq
    exact absurd (List.cons_eq_cons.1 heq).1 hbrace
  · rw [if_neg (by rw [hlen]; decide)]

theorem readChars?_chars (u : Uuid) : readChars? u.chars = some u := by
  have hdigits (n : Nat) : hexWord 32 n = hexWord 8 (n >>> 96) ++ hexWord 4 (n >>> 80) ++
      hexWord 4 (n >>> 64) ++ hexWord 4 (n >>> 48) ++ hexWord 12 n := by
    simp only [Nat.shiftRight_eq_div_pow]
    rw [Text.hexWord_add 20 12, Text.hexWord_add 16 4, Text.hexWord_add 12 4, Text.hexWord_add 8 4]
    simp only [Nat.div_div_eq_div_mul]
    rfl
  obtain ⟨c, cs, hcs⟩ : ∃ c cs, u.chars = c :: cs := ⟨_, _, rfl⟩
  have hlen : u.chars.length = 36 := by simp [chars, hexWord_length]
  have hc : ∃ k < 16, c = Text.hexDigit k := by
    have hmem : c ∈ hexWord 8 (u.bits.toNat >>> 96) := by
      have hhead : u.chars.head? = (hexWord 8 (u.bits.toNat >>> 96)).head? := rfl
      rw [hcs] at hhead
      exact List.mem_of_mem_head? hhead.symm
    exact Text.exists_of_mem_hexWord hmem
  have hkind : ∀ k : Fin 16, Text.hexDigit k ≠ 'u' ∧ Text.hexDigit k ≠ '\x7b' := by decide
  obtain ⟨k, hk, rfl⟩ := hc
  obtain ⟨hu, hbrace⟩ := hkind ⟨k, hk⟩
  have hread : readChars? u.chars = readHyphenated? u.chars := by
    rw [hcs] at hlen ⊢
    exact readChars?_of_head hlen hu hbrace
  rw [hread, chars, readHyphenated?_groups (hexWord_length _ _) (hexWord_length _ _)
    (hexWord_length _ _) (hexWord_length _ _) (hexWord_length _ _), ← hdigits, readDigits?,
    if_pos (hexWord_length _ _), Text.hexNumber?_hexWord, Option.map_some,
    Nat.mod_eq_of_lt (show u.bits.toNat < 16 ^ 32 from u.bits.isLt)]
  have hbits : BitVec.ofNat 128 u.bits.toNat = u.bits := BitVec.eq_of_toNat_eq (by simp)
  exact congrArg (some ∘ Uuid.mk) hbits

/-- The text of an id is read as this id. -/
theorem read?_text (u : Uuid) : read? u.text = some u := by
  unfold read? text
  rw [String.toList_ofList]
  exact readChars?_chars u

end Uuid

end Outbox
