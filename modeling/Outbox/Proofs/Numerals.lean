import Outbox.Decimal.Scaled
import Outbox.Proofs.Digits

/-!
# What the readers of numbers accept

The grammar of a number is stated beside its reader, and the reader takes just the texts of the grammar.

* `IsNatural max`   digits of a number up to `max`, with at most a plus sign in front;
* `IsExponent`      nothing, or `e` and a whole number;
* `IsUnsigned`      digits with a point and an exponent, or one of the words for what is not finite;
* `IsReal`          a number with at most one sign in front;
* `readBounded_eq_ok`, `readExponent?_eq_some`, `readUnsigned?_eq_some`, `readFloat?_eq_some`
                    between the readers and the grammars.
-/

namespace Outbox.Decimal

/-- at least one digit, and nothing else -/
def AreDigits (ds : List Char) : Prop := ds ≠ [] ∧ ∀ c ∈ ds, isDigit c = true

theorem AreDigits.ne_plus {ds rest cs : List Char} (h : AreDigits ds) : '+' :: cs ≠ ds ++ rest := by
  obtain ⟨hne, hds⟩ := h
  cases ds with
  | nil => exact absurd rfl hne
  | cons d ds =>
    intro heq
    injection heq with hd _
    exact absurd (hds d List.mem_cons_self) (by rw [← hd]; decide)

/-! ## natural numbers -/

def IsNatural (max : Nat) (cs : List Char) (n : Nat) : Prop :=
  ∃ ds, AreDigits ds ∧ (cs = ds ∨ cs = '+' :: ds) ∧ n = ofDigits ds ∧ n ≤ max

theorem le_foldl_digits (cs : List Char) (n : Nat) :
    n ≤ cs.foldl (fun n c => 10 * n + digitValue c) n := by
  induction cs generalizing n with
  | nil => exact Nat.le_refl n
  | cons c cs ih =>
    have hle := ih (10 * n + digitValue c)
    rw [List.foldl_cons]
    omega

theorem readFrom_eq_ok {max n : Nat} (hn : n ≤ max) (cs : List Char) (k : Nat) :
    readFrom max n cs = .ok k ↔
      (∀ c ∈ cs, isDigit c = true) ∧ k = cs.foldl (fun n c => 10 * n + digitValue c) n ∧ k ≤ max := by
  induction cs generalizing n with
  | nil =>
    constructor
    · intro h
      injection h with h
      exact ⟨nofun, h.symm, h ▸ hn⟩
    · rintro ⟨_, rfl, _⟩
      rfl
  | cons c cs ih =>
    rw [readFrom, List.foldl_cons, List.forall_mem_cons]
    by_cases hc : isDigit c = true
    case neg =>
      rw [if_neg hc]
      exact ⟨nofun, fun h => absurd h.1.1 hc⟩
    rw [if_pos hc]
    by_cases hle : 10 * n + digitValue c ≤ max
    · rw [if_pos hle, ih hle]
      exact ⟨fun h => ⟨⟨hc, h.1⟩, h.2⟩, fun h => ⟨h.1.2, h.2⟩⟩
    · -- more digits make a number that is too large no smaller
      have hgrows := le_foldl_digits cs (10 * n + digitValue c)
      rw [if_neg hle]
      refine ⟨nofun, ?_⟩
      rintro ⟨_, rfl, hk⟩
      omega

theorem readBounded_eq_ok (max : Nat) (cs : List Char) (n : Nat) :
    readBounded max cs = .ok n ↔ IsNatural max cs n := by
  have hdigits (ds : List Char) (hne : ds ≠ []) :
      readFrom max 0 ds = .ok n ↔ AreDigits ds ∧ n = ofDigits ds ∧ n ≤ max := by
    rw [readFrom_eq_ok (Nat.zero_le max)]
    exact ⟨fun h => ⟨⟨hne, h.1⟩, h.2⟩, fun h => ⟨h.1.2, h.2⟩⟩
  unfold readBounded
  split
  · refine ⟨nofun, ?_⟩
    rintro ⟨ds, hds, rfl | h, _⟩
    · exact absurd rfl hds.1
    · cases h
  · refine ⟨nofun, ?_⟩
    rintro ⟨ds, hds, rfl | h, _⟩
    · exact absurd (List.append_nil _).symm hds.ne_plus
    · injection h with _ h
      exact absurd h.symm hds.1
  · rename_i ds hne
    rw [hdigits ds fun h => hne (by rw [h])]
    refine ⟨fun h => ⟨ds, h.1, Or.inr rfl, h.2⟩, ?_⟩
    rintro ⟨ds', hds, rfl | h, hn⟩
    · exact absurd (List.append_nil _).symm hds.ne_plus
    · injection h with _ h
      exact h ▸ ⟨hds, hn⟩
  · rename_i hnil _ hplus
    rw [hdigits cs fun h => hnil h]
    refine ⟨fun h => ⟨cs, h.1, Or.inl rfl, h.2⟩, ?_⟩
    rintro ⟨ds, hds, rfl | h, hn⟩
    · exact ⟨hds, hn⟩
    · exact absurd h (hplus ds)

/-- After at most a plus sign there come digits of a number above `max`, whatever comes after them. -/
def Exceeds (max : Nat) (cs : List Char) : Prop :=
  ∃ ds rest, AreDigits ds ∧ (cs = ds ++ rest ∨ cs = '+' :: (ds ++ rest)) ∧ max < ofDigits ds

theorem readFrom_eq_error {max n : Nat} (hn : n ≤ max) {cs : List Char} {f : Fault}
    (h : readFrom max n cs = .error f) :
    let exceeds := ∃ ds rest, cs = ds ++ rest ∧ (∀ c ∈ ds, isDigit c = true) ∧
      max < ds.foldl (fun n c => 10 * n + digitValue c) n
    exceeds ∧ f = .tooLarge ∨ ¬ exceeds ∧ f = .invalidDigit := by
  intro exceeds
  induction cs generalizing n with
  | nil => cases h
  | cons c cs ih =>
    rw [readFrom] at h
    by_cases hc : isDigit c = true
    case neg =>
      rw [if_neg hc] at h
      injection h with h
      refine Or.inr ⟨?_, h.symm⟩
      rintro ⟨_ | ⟨d, ds⟩, rest, hcs, hds, hlt⟩
      · exact absurd hn (Nat.not_le.2 hlt)
      · injection hcs with hcd _
        exact hc (hcd ▸ hds d List.mem_cons_self)
    rw [if_pos hc] at h
    by_cases hle : 10 * n + digitValue c ≤ max
    · rw [if_pos hle] at h
      rcases ih hle h with ⟨⟨ds, rest, rfl, hds, hlt⟩, rfl⟩ | ⟨hno, rfl⟩
      · exact Or.inl ⟨⟨c :: ds, rest, rfl, List.forall_mem_cons.2 ⟨hc, hds⟩, hlt⟩, rfl⟩
      · refine Or.inr ⟨?_, rfl⟩
        rintro ⟨_ | ⟨d, ds⟩, rest, hcs, hds, hlt⟩
        · exact absurd hn (Nat.not_le.2 hlt)
        · injection hcs with hcd hcs
          subst hcd
          exact hno ⟨ds, rest, hcs, (List.forall_mem_cons.1 hds).2, hlt⟩
    · rw [if_neg hle] at h
      injection h with h
      refine Or.inl ⟨⟨[c], cs, rfl, ?_, Nat.not_le.1 hle⟩, h.symm⟩
      intro d hd
      rw [List.mem_singleton.1 hd]
      exact hc

/-- A number is told to be too large as soon as its digits show it, even if what follows is no digit. -/
theorem readBounded_eq_error {max : Nat} {cs : List Char} {f : Fault} (hne : cs ≠ [])
    (h : readBounded max cs = .error f) :
    Exceeds max cs ∧ f = .tooLarge ∨ ¬ Exceeds max cs ∧ f = .invalidDigit := by
  have hfrom {body : List Char} (hbody : readFrom max 0 body = .error f)
      (hcs : ∀ ds rest, AreDigits ds → (cs = ds ++ rest ∨ cs = '+' :: (ds ++ rest) ↔ body = ds ++ rest)) :
      Exceeds max cs ∧ f = .tooLarge ∨ ¬ Exceeds max cs ∧ f = .invalidDigit := by
    have hsame : Exceeds max cs ↔ ∃ ds rest, body = ds ++ rest ∧ (∀ c ∈ ds, isDigit c = true) ∧
        max < ds.foldl (fun n c => 10 * n + digitValue c) 0 := by
      constructor
      · rintro ⟨ds, rest, hds, heq, hlt⟩
        exact ⟨ds, rest, (hcs ds rest hds).1 heq, hds.2, hlt⟩
      · rintro ⟨ds, rest, heq, hds, hlt⟩
        have hne : ds ≠ [] := by
          rintro rfl
          exact absurd hlt (Nat.not_lt_zero max)
        exact ⟨ds, rest, ⟨hne, hds⟩, (hcs ds rest ⟨hne, hds⟩).2 heq, hlt⟩
    rw [hsame]
    exact readFrom_eq_error (Nat.zero_le max) hbody
  unfold readBounded at h
  split at h
  · exact absurd rfl hne
  · injection h with h
    refine Or.inr ⟨?_, h.symm⟩
    rintro ⟨ds, rest, hds, heq | heq, _⟩
    · exact hds.ne_plus heq
    · injection heq with _ heq
      exact hds.1 (List.append_eq_nil_iff.1 heq.symm).1
  · refine hfrom h fun ds rest hds => ⟨fun heq => ?_, fun heq => Or.inr (heq ▸ rfl)⟩
    rcases heq with heq | heq
    · exact absurd heq hds.ne_plus
    · injection heq with _ heq
  · rename_i hplus
    exact hfrom h fun ds rest _ =>
      ⟨fun heq => heq.resolve_right fun hp => hplus (ds ++ rest) hp, Or.inl⟩

/-! ## doubles -/

/-- an optional sign in front of `ds` -/
inductive Signed (ds : List Char) : List Char → Bool → Prop where
  | bare : Signed ds ds false
  | plus : Signed ds ('+' :: ds) false
  | minus : Signed ds ('-' :: ds) true

theorem signed_splitSign (cs : List Char) : Signed (splitSign cs).2 cs (splitSign cs).1 := by
  unfold splitSign
  split <;> constructor

theorem splitSign_of_signed {cs ds : List Char} {negative : Bool} (h : Signed ds cs negative)
    (hds : ∀ c, ds.head? = some c → c ≠ '+' ∧ c ≠ '-') : splitSign cs = (negative, ds) := by
  cases h with
  | bare =>
    unfold splitSign
    split
    · exact absurd rfl (hds '-' rfl).2
    · exact absurd rfl (hds '+' rfl).1
    · rfl
  | plus => rfl
  | minus => rfl

/-- the exponent at the end of a number -/
inductive IsExponent : List Char → Int → Prop where
  | none : IsExponent [] 0
  | some {c : Char} {cs ds : List Char} {negative : Bool} (hc : c = 'e' ∨ c = 'E')
      (hs : Signed ds cs negative) (hds : AreDigits ds) :
      IsExponent (c :: cs) (if negative then -(ofDigits ds : Int) else ofDigits ds)

theorem AreDigits.head {ds : List Char} (h : AreDigits ds) (c : Char) (hc : ds.head? = some c) :
    isDigit c = true :=
  h.2 c (List.mem_of_mem_head? hc)

theorem AreDigits.ne_sign {ds : List Char} (h : AreDigits ds) (c : Char) (hc : ds.head? = some c) :
    c ≠ '+' ∧ c ≠ '-' := by
  have hd := h.head c hc
  constructor
  · rintro rfl
    exact absurd hd (by decide)
  · rintro rfl
    exact absurd hd (by decide)

theorem readExponent?_eq_some (cs : List Char) (e : Int) :
    readExponent? cs = some e ↔ IsExponent cs e := by
  cases cs with
  | nil =>
    constructor
    · intro h
      injection h with h
      exact h ▸ .none
    · intro h
      cases h
      rfl
  | cons c cs =>
    rw [readExponent?]
    by_cases hc : c = 'e' ∨ c = 'E'
    case neg =>
      have hfalse : (decide (c = 'e') || decide (c = 'E')) = false := by simpa using hc
      rw [hfalse]
      refine ⟨nofun, ?_⟩
      rintro ⟨⟩
      exact absurd ‹_› hc
    have htrue : (decide (c = 'e') || decide (c = 'E')) = true := by simpa using hc
    rw [htrue, if_pos rfl]
    constructor
    · intro h
      have hs := signed_splitSign cs
      generalize splitSign cs = split at h hs
      obtain ⟨negative, ds⟩ := split
      dsimp only at h
      split at h
      · cases h
      · rename_i hds
        have hds : AreDigits ds := by
          simp only [Bool.or_eq_true, not_or, List.isEmpty_iff, Bool.not_eq_true', Bool.not_eq_false,
            List.all_eq_true] at hds
          exact hds
        injection h with h
        exact h ▸ .some hc hs hds
    · intro h
      cases h with
      | @some _ _ ds negative _ hs hds =>
        have hgood : (ds.isEmpty || !ds.all isDigit) = false := by
          simp only [Bool.or_eq_false_iff, List.isEmpty_eq_false_iff, Bool.not_eq_false',
            List.all_eq_true]
          exact hds
        rw [splitSign_of_signed hs hds.ne_sign]
        dsimp only
        rw [hgood]
        rfl

/-- the words for what is not finite, in any letter case -/
def IsWord (cs : List Char) (word : String) : Prop := cs.map Char.toLower = word.toList

/-- digits before and after a point, which can be missing if no digit comes after it -/
inductive IsPointed (whole fraction : List Char) : List Char → Prop where
  | whole (h : fraction = []) : IsPointed whole fraction whole
  | pointed : IsPointed whole fraction (whole ++ '.' :: fraction)

inductive IsUnsigned : List Char → Float → Prop where
  | infinite {cs : List Char} (h : IsWord cs "inf" ∨ IsWord cs "infinity") : IsUnsigned cs infinite
  | notANumber {cs : List Char} (h : IsWord cs "nan") : IsUnsigned cs notANumber
  | decimal {whole fraction pointed exponent : List Char} {e : Int}
      (hds : AreDigits (whole ++ fraction)) (hp : IsPointed whole fraction pointed)
      (he : IsExponent exponent e) :
      IsUnsigned (pointed ++ exponent) (exact (ofDigits (whole ++ fraction)) (e - fraction.length))

/-- a number with at most one sign in front -/
def IsReal (cs : List Char) (x : Float) : Prop :=
  ∃ ds y negative, Signed ds cs negative ∧ IsUnsigned ds y ∧ x = if negative then -y else y

theorem IsExponent.stops {cs : List Char} {e : Int} (h : IsExponent cs e) : StopsDigits cs := by
  cases h with
  | none => exact .nil
  | some hc =>
    refine .cons _ ?_
    rcases hc with rfl | rfl <;> decide

theorem IsExponent.head {cs : List Char} {e : Int} (h : IsExponent cs e) (r : List Char) :
    cs ≠ '.' :: r := by
  rintro rfl
  cases h with
  | some hc => rcases hc with h | h <;> cases h

theorem toLower_of_isDigit {c : Char} (h : isDigit c = true) : c.toLower = c := by
  have hle : c ≤ '9' := by
    unfold isDigit at h
    simp only [Bool.and_eq_true, decide_eq_true_eq] at h
    exact h.2
  have hupper : ¬ (c.val ≥ 'A'.val ∧ c.val ≤ 'Z'.val) := fun ⟨hge, _⟩ =>
    absurd (UInt32.le_trans hge hle) (by decide)
  unfold Char.toLower
  rw [dif_neg hupper]

/-- Each of the words begins with a letter. -/
theorem IsWord.first {cs : List Char} {word : String} (h : IsWord cs word)
    (hw : word.toList.head? = some 'i' ∨ word.toList.head? = some 'n') (c : Char)
    (hc : cs.head? = some c) : isDigit c = false ∧ c ≠ '.' ∧ c ≠ '+' ∧ c ≠ '-' := by
  have hlower : c.toLower = 'i' ∨ c.toLower = 'n' := by
    rw [← h, List.head?_map, hc, Option.map_some] at hw
    exact hw.imp Option.some.inj Option.some.inj
  refine ⟨Bool.eq_false_iff.2 fun hdigit => ?_, ?_, ?_, ?_⟩
  · rw [toLower_of_isDigit hdigit] at hlower
    rcases hlower with rfl | rfl <;> cases hdigit
  all_goals
    rintro rfl
    exact absurd hlower (by decide)

/-- what the words are read as -/
def readWord? (cs : List Char) : Option Float :=
  match String.ofList (Text.asciiLower cs) with
  | "inf" | "infinity" => some infinite
  | "nan" => some notANumber
  | _ => none

theorem readWord?_eq_some (cs : List Char) (x : Float) :
    readWord? cs = some x ↔
      (IsWord cs "inf" ∨ IsWord cs "infinity") ∧ x = infinite ∨ IsWord cs "nan" ∧ x = notANumber := by
  have hword (word : String) : String.ofList (Text.asciiLower cs) = word ↔ IsWord cs word := by
    unfold IsWord Text.asciiLower
    exact ⟨fun h => by rw [← h, String.toList_ofList], fun h => by rw [h, String.ofList_toList]⟩
  simp only [← hword]
  unfold readWord?
  constructor
  · intro h
    split at h
    · rename_i hw
      exact Or.inl ⟨Or.inl hw, (Option.some.inj h).symm⟩
    · rename_i hw
      exact Or.inl ⟨Or.inr hw, (Option.some.inj h).symm⟩
    · rename_i hw
      exact Or.inr ⟨hw, (Option.some.inj h).symm⟩
    · cases h
  · rintro (⟨hw | hw, rfl⟩ | ⟨hw, rfl⟩)
    all_goals
      rw [hw]
      rfl

/-- what is read when the digits before and after the point are these -/
theorem readUnsigned?_pointed {whole fraction pointed rest : List Char}
    (hw : ∀ c ∈ whole, isDigit c = true) (hf : ∀ c ∈ fraction, isDigit c = true)
    (hp : IsPointed whole fraction pointed) (hrest : StopsDigits rest)
    (hpoint : pointed = whole → ∀ r, rest ≠ '.' :: r) :
    readUnsigned? (pointed ++ rest) =
      if whole.isEmpty && fraction.isEmpty then readWord? (pointed ++ rest)
      else (readExponent? rest).map fun e => exact (ofDigits (whole ++ fraction)) (e - fraction.length) := by
  unfold readUnsigned?
  cases hp with
  | whole h =>
    subst h
    rw [takeWhile_append_digits hw hrest, dropWhile_append_digits hw hrest]
    dsimp only
    split
    · exact absurd rfl (hpoint rfl _)
    · rfl
  | pointed =>
    have hstop : StopsDigits ('.' :: fraction ++ rest) := .cons _ (by decide)
    rw [List.append_assoc, takeWhile_append_digits hw hstop, dropWhile_append_digits hw hstop]
    simp only [List.cons_append, takeWhile_append_digits hf hrest, dropWhile_append_digits hf hrest]
    rfl

/-- a text that is not taken for a decimal number -/
theorem readUnsigned?_word {cs : List Char} {word : String} (hw : IsWord cs word)
    (hfirst : word.toList.head? = some 'i' ∨ word.toList.head? = some 'n') :
    readUnsigned? cs = readWord? cs := by
  have h := hw.first hfirst
  have hpoint : ∀ r, cs ≠ '.' :: r := fun r hr => (h '.' (by rw [hr]; rfl)).2.1 rfl
  have hnone : ∀ c ∈ ([] : List Char), isDigit c = true := fun c hc => absurd hc List.not_mem_nil
  exact readUnsigned?_pointed hnone hnone (.whole rfl) (fun c hc => (h c hc).1) fun _ => hpoint

theorem stopsDigits_dropWhile (cs : List Char) : StopsDigits (cs.dropWhile isDigit) := by
  intro c hc
  have hnot := List.head?_dropWhile_not isDigit cs
  rw [hc] at hnot
  simpa using hnot

/-- Every text can be taken apart like this. -/
theorem exists_pointed (cs : List Char) :
    ∃ whole fraction pointed rest, cs = pointed ++ rest ∧ (∀ c ∈ whole, isDigit c = true) ∧
      (∀ c ∈ fraction, isDigit c = true) ∧ IsPointed whole fraction pointed ∧ StopsDigits rest ∧
        (pointed = whole → ∀ r, rest ≠ '.' :: r) := by
  have hall (ds : List Char) : ∀ c ∈ ds.takeWhile isDigit, isDigit c = true :=
    fun c hc => List.all_eq_true.1 List.all_takeWhile c hc
  have hcs : cs = cs.takeWhile isDigit ++ cs.dropWhile isDigit := List.takeWhile_append_dropWhile.symm
  by_cases hpoint : ∃ r, cs.dropWhile isDigit = '.' :: r
  · obtain ⟨r, hr⟩ := hpoint
    refine ⟨cs.takeWhile isDigit, r.takeWhile isDigit, _, r.dropWhile isDigit, ?_, hall cs, hall r,
      .pointed, stopsDigits_dropWhile r, fun h => ?_⟩
    · rw [List.append_assoc, List.cons_append, List.takeWhile_append_dropWhile, ← hr]
      exact hcs
    · exact absurd (List.self_eq_append_right.1 h.symm) (List.cons_ne_nil _ _)
  · exact ⟨cs.takeWhile isDigit, [], _, cs.dropWhile isDigit, hcs, hall cs, nofun, .whole rfl,
      stopsDigits_dropWhile cs, fun _ r hr => hpoint ⟨r, hr⟩⟩

theorem readUnsigned?_eq_some (cs : List Char) (x : Float) :
    readUnsigned? cs = some x ↔ IsUnsigned cs x := by
  constructor
  · intro h
    obtain ⟨whole, fraction, pointed, rest, rfl, hw, hf, hp, hrest, hpoint⟩ := exists_pointed cs
    rw [readUnsigned?_pointed hw hf hp hrest hpoint] at h
    split at h
    · rcases (readWord?_eq_some _ x).1 h with ⟨hword, rfl⟩ | ⟨hword, rfl⟩
      · exact .infinite hword
      · exact .notANumber hword
    · rename_i hne
      obtain ⟨e, he, rfl⟩ := Option.map_eq_some_iff.1 h
      refine .decimal ⟨fun hnil => hne ?_, fun c hc => ?_⟩ hp ((readExponent?_eq_some rest e).1 he)
      · rw [(List.append_eq_nil_iff.1 hnil).1, (List.append_eq_nil_iff.1 hnil).2]
        rfl
      · exact (List.mem_append.1 hc).elim (hw c) (hf c)
  · intro h
    cases h with
    | infinite hw =>
      have hread : readUnsigned? cs = readWord? cs :=
        hw.elim (readUnsigned?_word · (Or.inl rfl)) (readUnsigned?_word · (Or.inl rfl))
      exact hread.trans ((readWord?_eq_some cs _).2 (Or.inl ⟨hw, rfl⟩))
    | notANumber hw =>
      have hread := readUnsigned?_word hw (Or.inr rfl)
      exact hread.trans ((readWord?_eq_some cs _).2 (Or.inr ⟨hw, rfl⟩))
    | @decimal whole fraction pointed exponent e hds hp he =>
      have hne : ¬ (whole.isEmpty && fraction.isEmpty) = true := by
        rw [Bool.and_eq_true, List.isEmpty_iff, List.isEmpty_iff]
        rintro ⟨rfl, rfl⟩
        exact hds.1 rfl
      rw [readUnsigned?_pointed (fun c hc => hds.2 c (List.mem_append_left _ hc))
        (fun c hc => hds.2 c (List.mem_append_right _ hc)) hp he.stops fun _ r => he.head r, if_neg hne,
        (readExponent?_eq_some exponent e).2 he, Option.map_some]

theorem IsUnsigned.ne_sign {cs : List Char} {x : Float} (h : IsUnsigned cs x) (c : Char)
    (hc : cs.head? = some c) : c ≠ '+' ∧ c ≠ '-' := by
  cases h with
  | infinite hw =>
    rcases hw with hw | hw
    all_goals exact (hw.first (Or.inl rfl) c hc).2.2
  | notANumber hw => exact (hw.first (Or.inr rfl) c hc).2.2
  | @decimal whole fraction pointed exponent e hds hp he =>
    cases whole with
    | cons d whole =>
      have hd : (pointed ++ exponent).head? = some d := by cases hp <;> rfl
      obtain rfl : d = c := Option.some.inj (hd.symm.trans hc)
      exact hds.ne_sign d rfl
    | nil =>
      cases hp with
      | whole hnil =>
        subst hnil
        exact absurd rfl hds.1
      | pointed =>
        obtain rfl : '.' = c := Option.some.inj hc
        decide

theorem readFloat?_eq_some (cs : List Char) (x : Float) : readFloat? cs = some x ↔ IsReal cs x := by
  have hread (negative : Bool) (ds : List Char) (h : splitSign cs = (negative, ds)) :
      readFloat? cs = (readUnsigned? ds).map fun y => if negative then -y else y := by
    rw [readFloat?, h]
  constructor
  · intro h
    rw [hread _ _ rfl] at h
    obtain ⟨y, hy, rfl⟩ := Option.map_eq_some_iff.1 h
    exact ⟨_, y, _, signed_splitSign cs, (readUnsigned?_eq_some _ y).1 hy, rfl⟩
  · rintro ⟨ds, y, negative, hs, hy, rfl⟩
    rw [hread _ _ (splitSign_of_signed hs hy.ne_sign), (readUnsigned?_eq_some ds y).2 hy, Option.map_some]

end Outbox.Decimal
