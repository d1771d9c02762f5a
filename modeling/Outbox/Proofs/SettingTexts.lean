import Outbox.Proofs.Numerals
import Outbox.Settings

/-!
# What a variable of the environment says

* `Text.Trimmed`     a text without the blanks at its ends;
* `Stated`           a variable that is set and not blank;
* `Form`             what the texts of a kind of value are; the forms of all readers of settings;
* `Reader.Reads`     a reader takes just the texts of a form;
* `Value`            what a variable stands for: what it says, or a default if it says nothing;
* `get_eq_ok`, `get_eq_error`, `optional_eq_ok`, `optional_eq_error`   variables are read as what they
                     stand for, and otherwise the text that was found is told.
-/

namespace Outbox

/-! ## blanks -/

namespace Text

/-- `t` is what is left of `cs` without the blanks at both ends -/
def Trimmed (cs t : List Char) : Prop :=
  ∃ a b, cs = a ++ t ++ b ∧ (∀ c ∈ a, isBlank c = true) ∧ (∀ c ∈ b, isBlank c = true) ∧
    (∀ c, t.head? = some c → isBlank c = false) ∧ ∀ c, t.getLast? = some c → isBlank c = false

theorem trimStart_of_head {cs : List Char} (h : ∀ c, cs.head? = some c → isBlank c = false) :
    trimStart cs = cs := by
  cases cs with
  | nil => rfl
  | cons c cs => exact List.dropWhile_cons_of_neg (by rw [h c rfl]; decide)

theorem trimStart_blank {cs : List Char} (h : ∀ c ∈ cs, isBlank c = true) : trimStart cs = [] := by
  have hdrop : (cs ++ []).dropWhile isBlank = [] := List.dropWhile_append_of_pos h
  rwa [List.append_nil] at hdrop

/-- Leading blanks are dropped, and nothing else. -/
theorem exists_trimStart (cs : List Char) :
    ∃ a, cs = a ++ trimStart cs ∧ (∀ c ∈ a, isBlank c = true) ∧
      ∀ c, (trimStart cs).head? = some c → isBlank c = false := by
  refine ⟨cs.takeWhile isBlank, List.takeWhile_append_dropWhile.symm,
    fun c hc => List.all_eq_true.1 List.all_takeWhile c hc, fun c hc => ?_⟩
  have hnot := List.head?_dropWhile_not isBlank cs
  have hc : (cs.dropWhile isBlank).head? = some c := hc
  rw [hc] at hnot
  simpa using hnot

theorem trimmed_iff {cs t : List Char} : Trimmed cs t ↔ t = trim cs := by
  constructor
  · rintro ⟨a, b, rfl, ha, hb, hhead, hlast⟩
    by_cases ht : t = []
    · subst ht
      have hall : ∀ c ∈ a ++ [] ++ b, isBlank c = true := by
        intro c hc
        rw [List.append_nil] at hc
        exact (List.mem_append.1 hc).elim (ha c) (hb c)
      rw [trim, trimStart_blank hall]
      rfl
    · have hstart : trimStart (a ++ t ++ b) = t ++ b := by
        rw [List.append_assoc]
        refine (List.dropWhile_append_of_pos ha).trans (trimStart_of_head fun c hc => hhead c ?_)
        rwa [List.head?_append_of_ne_nil _ ht] at hc
      have hend : trimStart (t ++ b).reverse = t.reverse := by
        rw [List.reverse_append]
        refine (List.dropWhile_append_of_pos fun c hc => hb c (List.mem_reverse.1 hc)).trans
          (trimStart_of_head fun c hc => hlast c ?_)
        rwa [List.head?_reverse] at hc
      rw [trim, hstart, hend, List.reverse_reverse]
  · rintro rfl
    obtain ⟨a, hcs, ha, hhead⟩ := exists_trimStart cs
    obtain ⟨b, hrev, hb, hlast⟩ := exists_trimStart (trimStart cs).reverse
    have hstart : trimStart cs = trim cs ++ b.reverse := by
      have h := congrArg List.reverse hrev
      rwa [List.reverse_reverse, List.reverse_append] at h
    refine ⟨a, b.reverse, ?_, ha, fun c hc => hb c (List.mem_reverse.1 hc), fun c hc => ?_, fun c hc => ?_⟩
    · rw [List.append_assoc, ← hstart]
      exact hcs
    · refine hhead c ?_
      rw [hstart, List.head?_append, hc]
      rfl
    · refine hlast c ?_
      rwa [trim, List.getLast?_reverse] at hc

end Text

namespace Settings

/-! ## variables -/

/-- The variable is set to `v`, which is not blank. -/
def Stated (env : Environment) (name v : String) : Prop :=
  env name = some v ∧ ∃ c ∈ v.toList, Text.isBlank c = false

theorem value?_eq_some {env : Environment} {name v : String} :
    value? env name = some v ↔ Stated env name v := by
  have hblank (w : String) :
      (!Text.isBlankText w.toList) = true ↔ ∃ c ∈ w.toList, Text.isBlank c = false := by
    rw [Bool.not_eq_true', Text.isBlankText, List.all_eq_false]
    simp only [Bool.not_eq_true]
  unfold value? Stated
  rw [Option.filter_eq_some_iff, hblank]

theorem value?_eq_none {env : Environment} {name : String} :
    value? env name = none ↔ ∀ v, ¬ Stated env name v := by
  rw [Option.eq_none_iff_forall_ne_some]
  exact forall_congr' fun v => not_congr value?_eq_some

/-- the texts of a kind of value, and what each of them stands for -/
abbrev Form (α : Type) : Type := List Char → α → Prop

/-- what a variable stands for: what it says without the blanks around it, or `default` -/
def Value {α : Type} (form : Form α) (env : Environment) (name : String) (default a : α) : Prop :=
  (∃ v t, Stated env name v ∧ Text.Trimmed v.toList t ∧ form t a) ∨
    (∀ v, ¬ Stated env name v) ∧ a = default

/-! ## kinds of values -/

/-- what is to be said of one variable -/
inductive Kind where
  | natural (max : Nat)
  | real
  | flag
  | completion

def IsFlag : Form Bool := fun cs b => cs = (if b then "true" else "false").toList

/-- in any letter case -/
def IsCompletion : Form Completion := fun cs p =>
  cs.map Char.toLower = (match p with | .retain => "retain" | .delete => "delete").toList

/-- The text says a value of the kind. -/
def Kind.Accepts : Kind → List Char → Prop
  | .natural max, cs => ∃ n, Decimal.IsNatural max cs n
  | .real, cs => ∃ x, Decimal.IsReal cs x
  | .flag, cs => ∃ b, IsFlag cs b
  | .completion, cs => ∃ p, IsCompletion cs p

/-- what is said of a text that does not -/
def Kind.Complains : Kind → List Char → String → Prop
  | .natural max, cs, reason =>
    Decimal.Exceeds max cs ∧ reason = "number too large to fit in target type" ∨
      ¬ Decimal.Exceeds max cs ∧ reason = "invalid digit found in string"
  | .real, _, reason => reason = "invalid float literal"
  | .flag, _, reason => reason = "provided string was not `true` or `false`"
  | .completion, cs, reason =>
    reason = "unknown completion policy '" ++ String.ofList (cs.map Char.toLower) ++
      "' (expected 'retain' or 'delete')"

/-- the numbers of 64 bits -/
abbrev Kind.count : Kind := .natural 0xffffffffffffffff

def IsMillis : Form Duration := fun cs d =>
  ∃ n, Decimal.IsNatural 0xffffffffffffffff cs n ∧ d.nanos = n * 1000000

/-- `factor` seconds for each unit, as far as 64 bits hold them -/
def IsSecs (factor : Nat) : Form Duration := fun cs d =>
  ∃ n, Decimal.IsNatural 0xffffffffffffffff cs n ∧
    d.nanos = min (n * factor) 0xffffffffffffffff * 1000000000

/-- A reader takes the texts of a form, which are those of a kind, and complains of all others. -/
structure Reads {α : Type} (read : Reader α) (kind : Kind) (form : Form α) : Prop where
  ok : ∀ cs a, read cs = .ok a ↔ form cs a
  accepts : ∀ cs, kind.Accepts cs ↔ ∃ a, form cs a
  error : ∀ cs reason, cs ≠ [] → read cs = .error reason → kind.Complains cs reason

theorem natural_reads (max : Nat) : Reads (readNatural max) (.natural max) (Decimal.IsNatural max) where
  ok := fun cs n => by
    rw [← Decimal.readBounded_eq_ok, readNatural]
    cases Decimal.readBounded max cs with
    | error f => exact ⟨nofun, nofun⟩
    | ok m => exact ⟨fun h => congrArg _ (Except.ok.inj h), fun h => congrArg _ (Except.ok.inj h)⟩
  accepts := fun _ => Iff.rfl
  error := fun cs reason hne h => by
    rw [readNatural] at h
    cases hread : Decimal.readBounded max cs with
    | ok m =>
      rw [hread] at h
      cases h
    | error f =>
      rw [hread] at h
      injection h with h
      rcases Decimal.readBounded_eq_error hne hread with ⟨hexceeds, rfl⟩ | ⟨hexceeds, rfl⟩
      · exact Or.inl ⟨hexceeds, h.symm⟩
      · exact Or.inr ⟨hexceeds, h.symm⟩

/-- numbers of units that are read as durations -/
theorem Reads.map_natural {max : Nat} {f : Nat → Duration} {form : Form Duration}
    (hform : ∀ cs d, form cs d ↔ ∃ n, Decimal.IsNatural max cs n ∧ d = f n) :
    Reads (fun cs => (readNatural max cs).map f) (.natural max) form where
  ok := fun cs d => by
    rw [hform]
    constructor
    · intro h
      cases hread : readNatural max cs with
      | error e =>
        rw [hread] at h
        cases h
      | ok n =>
        rw [hread] at h
        injection h with h
        exact ⟨n, ((natural_reads max).ok cs n).1 hread, h.symm⟩
    · rintro ⟨n, hn, rfl⟩
      rw [((natural_reads max).ok cs n).2 hn]
      rfl
  accepts := fun cs => by
    constructor
    · rintro ⟨n, hn⟩
      exact ⟨f n, (hform cs _).2 ⟨n, hn, rfl⟩⟩
    · rintro ⟨d, hd⟩
      obtain ⟨n, hn, _⟩ := (hform cs d).1 hd
      exact ⟨n, hn⟩
  error := fun cs reason hne h => by
    cases hread : readNatural max cs with
    | ok n =>
      rw [hread] at h
      cases h
    | error e =>
      rw [hread] at h
      injection h with h
      exact (natural_reads max).error cs reason hne (h ▸ hread)

theorem toNat_of_count {n : Nat} (h : n ≤ 0xffffffffffffffff) : n.toUInt64.toNat = n :=
  Nat.mod_eq_of_lt (Nat.lt_succ_of_le h)

theorem nanos_ofMillis {n : Nat} (h : n ≤ 0xffffffffffffffff) :
    (Duration.ofMillis n.toUInt64).nanos = n * 1000000 := by
  rw [Duration.ofMillis, toNat_of_count h, Duration.nanos_ofNanos]
  exact Nat.min_eq_left (by unfold Duration.maxNanos; omega)

theorem nanos_ofSecs {n : Nat} (h : n ≤ 0xffffffffffffffff) :
    (Duration.ofSecs n.toUInt64).nanos = n * 1000000000 := by
  rw [Duration.ofSecs, toNat_of_count h, Duration.nanos_ofNanos]
  exact Nat.min_eq_left (by unfold Duration.maxNanos; omega)

theorem millis_reads : Reads readMillis .count IsMillis := by
  refine Reads.map_natural fun cs d => exists_congr fun n => and_congr_right fun hn => ?_
  obtain ⟨_, _, _, _, hle⟩ := hn
  rw [← nanos_ofMillis hle]
  exact ⟨Duration.ext, congrArg Duration.nanos⟩

theorem secs_reads (factor : Nat) : Reads (readSecs factor) .count (IsSecs factor) := by
  refine Reads.map_natural fun cs d => exists_congr fun n => and_congr_right fun _ => ?_
  rw [← nanos_ofSecs (Nat.min_le_right _ _)]
  exact ⟨Duration.ext, congrArg Duration.nanos⟩

theorem real_reads : Reads readReal .real Decimal.IsReal where
  ok := fun cs x => by
    rw [← Decimal.readFloat?_eq_some, readReal]
    cases Decimal.readFloat? cs with
    | none => exact ⟨nofun, nofun⟩
    | some y => exact ⟨fun h => congrArg some (Except.ok.inj h), fun h => congrArg _ (Option.some.inj h)⟩
  accepts := fun _ => Iff.rfl
  error := fun cs reason _ h => by
    rw [readReal] at h
    split at h
    · cases h
    · exact (Except.error.inj h).symm

theorem flag_reads : Reads readFlag .flag IsFlag where
  ok := fun cs b => by
    unfold readFlag IsFlag
    by_cases ht : cs = ['t', 'r', 'u', 'e']
    · subst ht
      cases b <;> decide
    by_cases hf : cs = ['f', 'a', 'l', 's', 'e']
    · subst hf
      cases b <;> decide
    rw [if_neg ht, if_neg hf]
    cases b
    · exact ⟨nofun, fun h => absurd h hf⟩
    · exact ⟨nofun, fun h => absurd h ht⟩
  accepts := fun _ => Iff.rfl
  error := fun cs reason _ h => by
    unfold readFlag at h
    split at h
    · cases h
    · split at h
      · cases h
      · exact (Except.error.inj h).symm

theorem completion_reads : Reads readCompletion .completion IsCompletion where
  ok := fun cs p => by
    have hword (word : String) :
        String.ofList (Text.asciiLower cs) = word ↔ cs.map Char.toLower = word.toList := by
      rw [← String.toList_inj, String.toList_ofList]
      rfl
    unfold readCompletion Completion.parse IsCompletion
    rw [String.toList_ofList]
    dsimp only
    rw [← hword]
    generalize String.ofList (Text.asciiLower cs) = word
    by_cases hretain : word = "retain"
    · subst hretain
      cases p <;> decide
    by_cases hdelete : word = "delete"
    · subst hdelete
      cases p <;> decide
    rw [if_neg hretain, if_neg hdelete]
    cases p
    · exact ⟨nofun, fun h => absurd h hretain⟩
    · exact ⟨nofun, fun h => absurd h hdelete⟩
  accepts := fun _ => Iff.rfl
  error := fun cs reason _ h => by
    unfold readCompletion Completion.parse at h
    rw [String.toList_ofList] at h
    dsimp only at h
    split at h
    · cases h
    · split at h
      · cases h
      · exact (Except.error.inj h).symm

/-! ## reading a variable -/

section

variable {α : Type} {read : Reader α} {kind : Kind} {form : Form α} {env : Environment} {name : String}

/-- The variable says a value of the kind, if it says anything. -/
def Readable (kind : Kind) (env : Environment) (name : String) : Prop :=
  ∀ v t, Stated env name v → Text.Trimmed v.toList t → kind.Accepts t

/-- what is told of a variable that does not -/
def Misread (kind : Kind) (env : Environment) (name : String) (f : Fault) : Prop :=
  ∃ v t reason, Stated env name v ∧ Text.Trimmed v.toList t ∧ ¬ kind.Accepts t ∧
    kind.Complains t reason ∧ f = .invalid name v reason

theorem Stated.trimmed_ne_nil {v : String} (h : Stated env name v) : Text.trim v.toList ≠ [] := by
  obtain ⟨_, c, hc, hblank⟩ := h
  obtain ⟨a, b, hv, ha, hb, _⟩ := Text.trimmed_iff.2 (Eq.refl (Text.trim v.toList))
  intro hnil
  rw [hnil, List.append_nil] at hv
  rw [hv] at hc
  rcases List.mem_append.1 hc with hc | hc
  · exact absurd (ha c hc) (by rw [hblank]; decide)
  · exact absurd (hb c hc) (by rw [hblank]; decide)

theorem Stated.unique {v w : String} (h : Stated env name v) (k : Stated env name w) : v = w :=
  Option.some.inj (h.1.symm.trans k.1)

theorem readable_iff {v : String} (h : Stated env name v) :
    Readable kind env name ↔ kind.Accepts (Text.trim v.toList) := by
  constructor
  · exact fun hr => hr v _ h (Text.trimmed_iff.2 rfl)
  · intro ha w t hw ht
    rw [Text.trimmed_iff.1 ht, hw.unique h]
    exact ha

theorem readable_of_not_stated (h : ∀ v, ¬ Stated env name v) : Readable kind env name :=
  fun v _ hv => absurd hv (h v)

theorem value_iff {v : String} (h : Stated env name v) {default a : α} :
    Value form env name default a ↔ form (Text.trim v.toList) a := by
  constructor
  · rintro (⟨w, t, hw, ht, ha⟩ | ⟨hnone, _⟩)
    · rwa [Text.trimmed_iff.1 ht, hw.unique h] at ha
    · exact absurd h (hnone v)
  · exact fun ha => Or.inl ⟨v, _, h, Text.trimmed_iff.2 rfl, ha⟩

theorem value_of_not_stated (h : ∀ v, ¬ Stated env name v) {default a : α} :
    Value form env name default a ↔ a = default :=
  ⟨fun hv => hv.elim (fun ⟨v, _, hs, _⟩ => absurd hs (h v)) And.right, fun ha => Or.inr ⟨h, ha⟩⟩

/-- A variable says nothing, or a value that is read, or something that is told as a fault. -/
theorem optional_cases (hr : Reads read kind form) (env : Environment) (name : String) :
    (∀ v, ¬ Stated env name v) ∧ optional env read name = .ok none ∨
      (∃ v a, Stated env name v ∧ form (Text.trim v.toList) a ∧ optional env read name = .ok (some a)) ∨
      ∃ f, optional env read name = .error f ∧ ¬ Readable kind env name ∧ Misread kind env name f := by
  cases hv : value? env name with
  | none =>
    refine Or.inl ⟨value?_eq_none.1 hv, ?_⟩
    rw [optional, hv]
  | some v =>
    have hs := value?_eq_some.1 hv
    cases hread : read (Text.trim v.toList) with
    | ok a =>
      refine Or.inr (Or.inl ⟨v, a, hs, (hr.ok _ a).1 hread, ?_⟩)
      rw [optional, hv]
      dsimp only
      rw [parse, hread]
      rfl
    | error reason =>
      have hno : ¬ kind.Accepts (Text.trim v.toList) := by
        rw [hr.accepts]
        rintro ⟨a, ha⟩
        rw [(hr.ok _ a).2 ha] at hread
        cases hread
      refine Or.inr (Or.inr ⟨.invalid name v reason, ?_, ?_, v, _, reason, hs, Text.trimmed_iff.2 rfl, hno,
        hr.error _ reason hs.trimmed_ne_nil hread, rfl⟩)
      · rw [optional, hv]
        dsimp only
        rw [parse, hread]
        rfl
      · rwa [readable_iff hs]

/-- A text says at most one value. -/
theorem Reads.unique (hr : Reads read kind form) {cs : List Char} {a b : α} (ha : form cs a)
    (hb : form cs b) : b = a :=
  (Except.ok.inj (((hr.ok cs a).2 ha).symm.trans ((hr.ok cs b).2 hb))).symm

/-- A variable is read as what it stands for; otherwise it is told that it cannot be read. -/
theorem get_cases (hr : Reads read kind form) (env : Environment) (name : String) (default : α) :
    (∃ a, get env read name default = .ok a ∧ Readable kind env name ∧
      ∀ b, Value form env name default b ↔ b = a) ∨
    ∃ f, get env read name default = .error f ∧ ¬ Readable kind env name ∧ Misread kind env name f := by
  rcases optional_cases hr env name with ⟨hnone, h⟩ | ⟨v, a, hs, ha, h⟩ | ⟨f, h, hf⟩
  · refine Or.inl ⟨default, ?_, readable_of_not_stated hnone, fun b => value_of_not_stated hnone⟩
    rw [get, h]
    rfl
  · refine Or.inl ⟨a, ?_, (readable_iff hs).2 ((hr.accepts _).2 ⟨a, ha⟩), fun b => ?_⟩
    · rw [get, h]
      rfl
    · rw [value_iff hs]
      exact ⟨hr.unique ha, fun hb => hb ▸ ha⟩
  · refine Or.inr ⟨f, ?_, hf⟩
    rw [get, h]
    rfl

/-- the form of a value that may be left out -/
def Given (form : Form α) : Form (Option α) := fun cs o => ∃ a, form cs a ∧ o = some a

theorem given_cases (hr : Reads read kind form) (env : Environment) (name : String) :
    (∃ o, optional env read name = .ok o ∧ Readable kind env name ∧
      ∀ b, Value (Given form) env name none b ↔ b = o) ∨
    ∃ f, optional env read name = .error f ∧ ¬ Readable kind env name ∧ Misread kind env name f := by
  rcases optional_cases hr env name with ⟨hnone, h⟩ | ⟨v, a, hs, ha, h⟩ | hf
  · exact Or.inl ⟨none, h, readable_of_not_stated hnone, fun b => value_of_not_stated hnone⟩
  · refine Or.inl ⟨some a, h, (readable_iff hs).2 ((hr.accepts _).2 ⟨a, ha⟩), fun b => ?_⟩
    rw [value_iff hs]
    constructor
    · rintro ⟨c, hc, rfl⟩
      rw [hr.unique ha hc]
    · exact fun hb => ⟨a, ha, hb⟩
  · exact Or.inr hf

end

end Settings
end Outbox
