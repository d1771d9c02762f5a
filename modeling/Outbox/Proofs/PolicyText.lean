import Outbox.Backoff
import Outbox.Proofs.RecordText

/-!
# A policy survives its JSON text, but for parts of milliseconds

* `Json.ReadsBack.real?`       a double is read from its text, if that gives it back;
* `Duration.wholeMillis`       a delay as the text has it, in whole milliseconds of 64 bits;
* `Policy.read?_compact`       a policy is read back from its text with such delays;
* `Policy.survives_text`       which policies come back as they were, and what comes of a second time.
-/

namespace Outbox

namespace Json

/-! ## doubles -/

theorem ReadsBack.real? {x : Float} (h : ReadsBack x) : (Json.float x).doc.real? = some x := by
  have hvalue := h.legible.2
  show (Numeral.ofFloat x).real? = some x
  unfold Doc.numberValue? at hvalue
  split at hvalue
  · cases hvalue
  · obtain ⟨y, hy, hxy⟩ := Option.map_eq_some_iff.1 hvalue
    rw [hy, Json.float.inj hxy]

theorem real_of_isFinite {x : Float} (h : x.isFinite = true) : Json.real x = .float x := if_pos h

end Json

/-! ## delays -/

namespace Duration

/-- as a number of milliseconds, which has 64 bits -/
def wholeMillis (d : Duration) : Duration := ofNanos (min d.millis 0xffffffffffffffff * 1000000)

/-- a whole number of milliseconds that 64 bits can hold -/
def IsMillis (d : Duration) : Prop := d.nanos % 1000000 = 0 ∧ d.nanos / 1000000 ≤ 0xffffffffffffffff

instance (d : Duration) : Decidable d.IsMillis :=
  inferInstanceAs (Decidable (d.nanos % 1000000 = 0 ∧ d.nanos / 1000000 ≤ 0xffffffffffffffff))

theorem nanos_wholeMillis (d : Duration) :
    d.wholeMillis.nanos = min (d.nanos / 1000000) 0xffffffffffffffff * 1000000 := by
  have hle : min (d.nanos / 1000000) 0xffffffffffffffff * 1000000 ≤ maxNanos := by
    unfold maxNanos
    omega
  exact Nat.min_eq_left hle

theorem wholeMillis_eq_self_iff {d : Duration} : d.wholeMillis = d ↔ d.IsMillis := by
  have hext : d.wholeMillis = d ↔ d.wholeMillis.nanos = d.nanos := ⟨congrArg nanos, ext⟩
  rw [hext, nanos_wholeMillis, IsMillis]
  omega

theorem isMillis_wholeMillis (d : Duration) : d.wholeMillis.IsMillis := by
  rw [IsMillis, nanos_wholeMillis]
  omega

end Duration

namespace Backoff.Policy

/-- with delays of whole milliseconds -/
def wholeMillis (p : Policy) : Policy :=
  { p with initialInterval := p.initialInterval.wholeMillis, maxInterval := p.maxInterval.wholeMillis }

theorem wholeMillis_eq_self_iff {p : Policy} :
    p.wholeMillis = p ↔ p.initialInterval.IsMillis ∧ p.maxInterval.IsMillis := by
  rw [← Duration.wholeMillis_eq_self_iff, ← Duration.wholeMillis_eq_self_iff]
  constructor
  · exact fun h => ⟨congrArg initialInterval h, congrArg maxInterval h⟩
  · rintro ⟨hinitial, hmax⟩
    unfold wholeMillis
    rw [hinitial, hmax]

/-- the number of milliseconds that is written -/
theorem millisJson_eq (d : Duration) :
    millisJson d = .int (min d.millis 0xffffffffffffffff : Nat) := by
  have hmin : min (d.millis : Int) 0xffffffffffffffff = (min d.millis 0xffffffffffffffff : Nat) := by omega
  exact congrArg Json.int hmin

theorem readMillis?_doc (d : Duration) : readMillis? (millisJson d).doc = some d.wholeMillis := by
  have hle : min d.millis 0xffffffffffffffff ≤ 0xffffffffffffffff := Nat.min_le_right _ _
  have hinteger : (Json.Numeral.ofInt (min d.millis 0xffffffffffffffff : Nat)).integer? =
      some ((min d.millis 0xffffffffffffffff : Nat) : Int) :=
    Json.Numeral.integer?_ofInt (by omega) (by omega)
  have hnatural : (millisJson d).doc.natural? 0xffffffffffffffff =
      some (min d.millis 0xffffffffffffffff) := by
    rw [millisJson_eq]
    exact Doc.natural?_number hinteger hle
  have hcount : (min d.millis 0xffffffffffffffff).toUInt64.toNat = min d.millis 0xffffffffffffffff :=
    UInt64.toNat_ofNat_of_lt' (Nat.lt_succ_of_le hle)
  rw [readMillis?, hnatural, Option.map_some, Duration.ofMillis, hcount]
  rfl

/-- The text of a delay is that of the delay which it is read as. -/
theorem millisJson_wholeMillis (d : Duration) : millisJson d.wholeMillis = millisJson d := by
  have hmillis : min d.wholeMillis.millis 0xffffffffffffffff = min d.millis 0xffffffffffffffff := by
    unfold Duration.millis
    rw [Duration.nanos_wholeMillis]
    omega
  rw [millisJson_eq, millisJson_eq, hmillis]

theorem json_wholeMillis (p : Policy) : p.wholeMillis.json = p.json := by
  unfold json
  rw [wholeMillis, millisJson_wholeMillis, millisJson_wholeMillis]

variable {p : Policy}

theorem legible_json (hmultiplier : Json.Legible (Json.real p.multiplier))
    (hjitter : Json.Legible (Json.real p.jitter)) : ∀ u ∈ p.json.within, u.Legible := by
  have hmillis (d : Duration) : ∀ u ∈ (millisJson d).within, u.Legible := by
    rw [millisJson_eq]
    exact List.forall_mem_singleton.2 ⟨by omega, by omega⟩
  have hreal (x : Float) (hx : Json.Legible (Json.real x)) : ∀ u ∈ (Json.real x).within, u.Legible := by
    unfold Json.real at hx ⊢
    split
    · rename_i hfinite
      rw [if_pos hfinite] at hx
      exact List.forall_mem_singleton.2 hx
    · exact List.forall_mem_singleton.2 trivial
  refine Json.forall_within_object trivial ?_
  simp only [List.forall_mem_cons]
  exact ⟨hmillis _, hmillis _, hreal _ hmultiplier, hreal _ hjitter, List.forall_mem_nil _⟩

theorem read?_compact (hmultiplier : p.multiplier.isFinite = true) (hjitter : p.jitter.isFinite = true)
    (hmultiplier' : Json.ReadsBack p.multiplier) (hjitter' : Json.ReadsBack p.jitter) :
    read? p.json.compact = some p.wholeMillis := by
  have hmultiplier := Json.real_of_isFinite hmultiplier
  have hjitter := Json.real_of_isFinite hjitter
  have hlegible : ∀ u ∈ p.json.within, u.Legible := by
    refine legible_json ?_ ?_
    · rw [hmultiplier]
      exact hmultiplier'.legible
    · rw [hjitter]
      exact hjitter'.legible
  have hdistinct : fieldNames.Nodup := by decide
  have hparts : p.json.doc.parts? fieldNames = _ := Doc.parts?_doc hdistinct (Doc.forall₂_members _)
  simp only [List.map_cons, List.map_nil] at hparts
  unfold read? Json.compact
  rw [String.toList_ofList, Doc.read?_write hlegible, Option.bind_some, ofDoc?, hparts]
  -- the fields are taken out of the list, and then they are read
  dsimp only [Option.bind_eq_bind, Option.bind_some]
  rw [readMillis?_doc, readMillis?_doc, hmultiplier, hjitter, hmultiplier'.real?, hjitter'.real?]
  rfl

/-- **A policy survives its text.**  It is read back with its factors, if these are finite and are read back
from their own texts, and with its delays in whole milliseconds, of which no more than 64 bits hold are
kept.  So it comes back as it was just if its delays are such already, and from then on nothing changes any
more: neither the text nor what is read of it. -/
theorem survives_text (hmultiplier : p.multiplier.isFinite = true) (hjitter : p.jitter.isFinite = true)
    (hmultiplier' : Json.ReadsBack p.multiplier) (hjitter' : Json.ReadsBack p.jitter) :
    read? p.json.compact = some p.wholeMillis ∧
      (read? p.json.compact = some p ↔ p.initialInterval.IsMillis ∧ p.maxInterval.IsMillis) ∧
      p.wholeMillis.json.compact = p.json.compact ∧
      ((read? p.json.compact).bind fun q => read? q.json.compact) = read? p.json.compact := by
  have hread := read?_compact hmultiplier hjitter hmultiplier' hjitter'
  refine ⟨hread, ?_, congrArg Json.compact p.json_wholeMillis, ?_⟩
  · rw [hread, Option.some_inj, wholeMillis_eq_self_iff]
  · rw [hread, Option.bind_some, json_wholeMillis, hread]

/-- A first delay of a millisecond and a half, and the largest delay there is. -/
theorem survives_text_cut :
    let p : Policy := ⟨.ofNanos 1500000, .ofNanos Duration.maxNanos, 2.0, 0.1⟩
    (p.multiplier.isFinite = true ∧ p.jitter.isFinite = true ∧ Json.ReadsBack p.multiplier ∧
        Json.ReadsBack p.jitter) ∧
      read? p.json.compact =
        some ⟨.ofNanos 1000000, .ofNanos (0xffffffffffffffff * 1000000), 2.0, 0.1⟩ ∧
      read? p.json.compact ≠ some p := by
  intro p
  have hmultiplier : p.multiplier.isFinite = true := by decide
  have hjitter : p.jitter.isFinite = true := by decide
  have hmultiplier' : Json.ReadsBack p.multiplier :=
    ⟨⟨false, ['2'], ['0'], none⟩, by decide +kernel, rfl⟩
  have hjitter' : Json.ReadsBack p.jitter := ⟨⟨false, ['0'], ['1'], none⟩, by decide +kernel, rfl⟩
  have hinitial : p.initialInterval.wholeMillis = .ofNanos 1000000 := by decide
  have hmax : p.maxInterval.wholeMillis = .ofNanos (0xffffffffffffffff * 1000000) := by decide
  obtain ⟨hread, hsame, _⟩ := survives_text hmultiplier hjitter hmultiplier' hjitter'
  rw [wholeMillis, hinitial, hmax] at hread
  refine ⟨⟨hmultiplier, hjitter, hmultiplier', hjitter'⟩, hread, fun h => ?_⟩
  exact absurd (hsame.1 h) (by decide)

end Backoff.Policy

end Outbox
