import Mathlib.Data.List.Forall2
import Outbox.Proofs.JsonValues
import Outbox.Proofs.TimeText
import Outbox.Proofs.UuidText
import Outbox.Record

/-!
# Records survive their JSON text

* `Doc.parts?_object`        the fields of an object with distinct keys;
* `Record.readUuid?_doc`, `Record.readTime?_doc`, `Record.readCount?_doc`, `Status.ofDoc?_doc`,
  `Record.optional?_doc`     each field is read from what its text says;
* `Json.Whole`               a number is an integer of 64 bits;
* `Record.ofDoc?_spec`       the payload of a record that was read;
* `Record.read?_text_reread`  the text of a record is read as the record.
-/

namespace Outbox

namespace Json

/-! ## numbers -/

/-- A number is an integer of 64 bits, or the double that `-0` stands for. -/
def Whole : Json → Prop
  | .int i => -0x8000000000000000 ≤ i ∧ i < 0x10000000000000000
  | .float x => x = -0.0
  | _ => True

instance : DecidablePred Whole
  | .int i => inferInstanceAs (Decidable (-0x8000000000000000 ≤ i ∧ i < 0x10000000000000000))
  | .float x => inferInstanceAs (Decidable (x = -0.0))
  | .null | .bool _ | .text _ | .list _ | .object _ => .isTrue trivial

theorem Whole.legible {v : Json} (h : v.Whole) : v.Legible := by
  cases v with
  | int i => exact h
  | float x =>
    rw [show x = -0.0 from h]
    exact legible_negativeZero
  | _ => trivial

theorem forall_within_object {P : Json → Prop} {ms : List (String × Json)} (h : P (.object ms))
    (hms : ∀ p ∈ ms, ∀ u ∈ p.2.within, P u) : ∀ u ∈ (object ms).within, P u := by
  refine List.forall_mem_cons.2 ⟨h, fun u hu => ?_⟩
  obtain ⟨p, hp, hu⟩ := mem_withinMembers.1 hu
  exact hms p hp u hu

end Json

namespace Doc

/-! ## fields -/

section

variable {name : String} {v : Json} {ms : List (String × Json)}

theorem membersNamed_cons_self : membersNamed name (Json.memberDocs ((name, v) :: ms)) =
    v.doc :: membersNamed name (Json.memberDocs ms) :=
  List.filterMap_cons_some (if_pos rfl)

theorem membersNamed_cons_of_ne {k : String} (h : k ≠ name) :
    membersNamed name (Json.memberDocs ((k, v) :: ms)) = membersNamed name (Json.memberDocs ms) :=
  List.filterMap_cons_none (if_neg fun heq => h (Option.some.inj heq))

theorem membersNamed_of_not_mem (h : name ∉ ms.map Prod.fst) :
    membersNamed name (Json.memberDocs ms) = [] := by
  induction ms with
  | nil => rfl
  | cons p ms ih =>
    have hne : p.1 ≠ name := fun heq => h (heq ▸ List.mem_cons_self)
    rw [membersNamed_cons_of_ne hne, ih fun hmem => h (List.mem_cons_of_mem _ hmem)]

theorem membersNamed_of_mem (hdistinct : (ms.map Prod.fst).Nodup) (h : (name, v) ∈ ms) :
    membersNamed name (Json.memberDocs ms) = [v.doc] := by
  induction ms with
  | nil => exact absurd h List.not_mem_nil
  | cons p ms ih =>
    obtain ⟨hfresh, hrest⟩ := List.nodup_cons.1 hdistinct
    rcases List.mem_cons.1 h with rfl | h
    · rw [membersNamed_cons_self, membersNamed_of_not_mem hfresh]
    · have hne : p.1 ≠ name := by
        intro heq
        rw [heq] at hfresh
        exact hfresh (List.mem_map.2 ⟨_, h, rfl⟩)
      rw [membersNamed_cons_of_ne hne, ih hrest h]

theorem isSome_memberDocs (ms : List (String × Json)) :
    ((Json.memberDocs ms).all fun (k, _) => k.isSome) = true := by
  induction ms with
  | nil => rfl
  | cons p ms ih => exact ih

/-- Each field is found under its name, in whatever order the members stand. -/
theorem parts?_doc {names : List String} {values : List Json} (hdistinct : (ms.map Prod.fst).Nodup)
    (h : List.Forall₂ (fun name v => (name, v) ∈ ms) names values) :
    parts? names (Json.object ms).doc = some (values.map fun v => some v.doc) := by
  show (if (Json.memberDocs ms).all fun (k, _) => k.isSome then _ else none) = _
  rw [if_pos (isSome_memberDocs ms)]
  induction h with
  | nil => rfl
  | cons hmem _ ih =>
    rw [List.mapM_cons, membersNamed_of_mem hdistinct hmem, ih]
    rfl

end

theorem natural?_number {n : Json.Numeral} {k max : Nat} (h : n.integer? = some (k : Int)) (hk : k ≤ max) :
    (Doc.number n).natural? max = some k := by
  rw [natural?, h]
  exact if_pos hk

theorem forall₂_members (ms : List (String × Json)) :
    List.Forall₂ (fun name v => (name, v) ∈ ms) (ms.map Prod.fst) (ms.map Prod.snd) :=
  List.forall₂_map_left_iff.2 (List.forall₂_map_right_iff.2 (List.forall₂_same.2 fun _ hp => hp))

end Doc

namespace Status

theorem ofName?_name (st : Status) : ofName? st.name = some st := by
  cases st <;> decide

theorem ofDoc?_doc (st : Status) : ofDoc? (Json.text st.name).doc = some st := ofName?_name st

end Status

namespace Record

theorem readUuid?_doc (u : Uuid) : readUuid? (uuidJson u).doc = some u := by
  show (some u.text).bind Uuid.read? = some u
  rw [Option.bind_some, Uuid.read?_text]

theorem readTime?_doc (t : Timestamp) : readTime? (timeJson t).doc = some t := by
  show (some t.text).bind Timestamp.read? = some t
  rw [Option.bind_some, Timestamp.read?_text]

theorem readCount?_doc (n : UInt32) : readCount? (Json.int n.toNat).doc = some n := by
  have hlt : n.toNat < 0x100000000 := n.toNat_lt
  have hinteger : (Json.Numeral.ofInt n.toNat).integer? = some (n.toNat : Int) :=
    Json.Numeral.integer?_ofInt (by omega) (by omega)
  have hnatural : (Json.int n.toNat).doc.natural? 0xffffffff = some n.toNat :=
    Doc.natural?_number hinteger (Nat.le_of_lt_succ hlt)
  rw [readCount?, hnatural]
  exact congrArg some (UInt32.ofNat_toNat)

theorem optional?_doc {α : Type} {f : α → Json} {read : Doc → Option α}
    (hread : ∀ a, read (f a).doc = some a) (hnull : read .null = none) (o : Option α) :
    Doc.optional? read (some (optionJson f o).doc) = some o := by
  cases o with
  | none => rfl
  | some a =>
    have ha := hread a
    have hne : (f a).doc ≠ .null := by
      intro heq
      rw [heq, hnull] at ha
      cases ha
    show Doc.optional? read (some (f a).doc) = _
    rw [Doc.optional?, ha]
    · rfl
    · exact hne

/-! ## records -/

/-- A record is what its text says, if its payload is. -/
theorem ofDoc?_doc {r : Record} (hdepth : r.payload.depth ≤ 126)
    (hpayload : ∀ u ∈ r.payload.within, u.Legible ∧ u.Ascending) : ofDoc? r.json.doc = some r := by
  have hdistinct : fieldNames.Nodup := by decide
  have hparts : r.json.doc.parts? fieldNames = _ := Doc.parts?_doc hdistinct (Doc.forall₂_members _)
  have htext (s : String) : (Json.text s).doc.text? = some s := rfl
  have hjson : Doc.json? (Doc.maxDepth - 1) r.payload.doc = some r.payload :=
    Doc.json?_doc _ _ hdepth hpayload
  simp only [List.map_cons, List.map_nil] at hparts
  rw [ofDoc?, hparts]
  -- the fields are taken out of the list, then they are read, and then the record is put together
  dsimp only [Option.bind_eq_bind, Option.bind_some]
  rw [readUuid?_doc, htext, readUuid?_doc, htext, htext, hjson, Status.ofDoc?_doc, readCount?_doc,
    readCount?_doc, optional?_doc htext rfl, optional?_doc htext rfl, readTime?_doc,
    optional?_doc readTime?_doc rfl, readTime?_doc]
  rfl

theorem legible_json {r : Record} (hpayload : ∀ u ∈ r.payload.within, u.Legible) :
    ∀ u ∈ r.json.within, u.Legible := by
  have htext (s : String) : ∀ u ∈ (Json.text s).within, u.Legible :=
    List.forall_mem_singleton.2 trivial
  have huuid (u : Uuid) : ∀ v ∈ (uuidJson u).within, v.Legible := htext u.text
  have htime (t : Timestamp) : ∀ u ∈ (timeJson t).within, u.Legible := htext t.text
  have hcount (n : UInt32) : ∀ u ∈ (Json.int n.toNat).within, u.Legible := by
    have hlt : n.toNat < 0x100000000 := n.toNat_lt
    exact List.forall_mem_singleton.2 ⟨by omega, by omega⟩
  have hoption {α : Type} {f : α → Json} (hf : ∀ a, ∀ u ∈ (f a).within, u.Legible) (o : Option α) :
      ∀ u ∈ (optionJson f o).within, u.Legible := by
    cases o with
    | none => exact List.forall_mem_singleton.2 trivial
    | some a => exact hf a
  refine Json.forall_within_object trivial ?_
  simp only [List.forall_mem_cons]
  exact ⟨huuid _, htext _, huuid _, htext _, htext _, hpayload, htext _, hcount _, hcount _,
    hoption htext _, hoption htext _, htime _, hoption htime _, htime _, List.forall_mem_nil _⟩

/-- What a text of a record says is what the record has, and nothing is lost when it is written. -/
theorem read?_json_text {r : Record} (hdepth : r.payload.depth ≤ 126)
    (hpayload : ∀ u ∈ r.payload.within, u.Legible ∧ u.Ascending) : read? r.text = some r := by
  unfold read? text Json.compact
  rw [String.toList_ofList, Doc.read?_write (legible_json fun u hu => (hpayload u hu).1),
    Option.bind_some, ofDoc?_doc hdepth hpayload]

/-- The payload of a record that was read is a value that was read. -/
theorem payload_of_ofDoc? {d : Doc} {r : Record} (h : ofDoc? d = some r) :
    ∃ payload, Doc.json? 126 payload = some r.payload := by
  unfold ofDoc? at h
  obtain ⟨parts, _, h⟩ := Option.bind_eq_some_iff.1 h
  split at h
  · -- the payload is the sixth of the fourteen fields
    iterate 5 obtain ⟨_, -, h⟩ := Option.bind_eq_some_iff.1 h
    obtain ⟨payload, hpayload, h⟩ := Option.bind_eq_some_iff.1 h
    iterate 8 obtain ⟨_, -, h⟩ := Option.bind_eq_some_iff.1 h
    obtain rfl := Option.some.inj h
    obtain ⟨d, -, hd⟩ := Option.bind_eq_some_iff.1 hpayload
    exact ⟨d, hd⟩
  · cases h

/-- **Records survive their JSON text.**  A record is read back from its text, whatever its strings, its
counts and its times are, if its payload has only integers of 64 bits for numbers and no containers that
nest deeper than 126; the keys of its objects are sorted, as those of every object that is built are.
And a record that was read from any text, with such numbers, is read back from the text that is written
for it. -/
theorem read?_text_reread :
    (∀ r : Record, r.payload.depth ≤ 126 → (∀ u ∈ r.payload.within, u.Whole ∧ u.Ascending) →
        read? r.text = some r) ∧
      ∀ (s : String) (r : Record), read? s = some r → (∀ u ∈ r.payload.within, u.Whole) →
        read? r.text = some r := by
  have hback (r : Record) (hdepth : r.payload.depth ≤ 126)
      (hpayload : ∀ u ∈ r.payload.within, u.Whole ∧ u.Ascending) : read? r.text = some r :=
    read?_json_text hdepth fun u hu => ⟨(hpayload u hu).1.legible, (hpayload u hu).2⟩
  refine ⟨hback, fun s r hread hwhole => ?_⟩
  obtain ⟨d, -, hd⟩ := Option.bind_eq_some_iff.1 hread
  obtain ⟨payload, hpayload⟩ := payload_of_ofDoc? hd
  obtain ⟨hdepth, hsound⟩ := Doc.json?_spec payload 126 r.payload hpayload
  exact hback r hdepth fun u hu => ⟨hwhole u hu, (hsound u hu).1⟩

/-- A record that failed in a leap second and has been due since the first second there is; and a text
that lists the fields without their names, with an escaped letter, unsorted keys, minus zero and a time
with an offset. -/
theorem read?_text_reread_leap :
    let r : Record :=
      { id := .ofNat 7, entityType := "Todo", entityId := .ofNat 9, topic := "todos", eventType := "\"é\\"
        payload := .object [("a", .list [.int (-5), .null]), ("b", .int 0xffffffffffffffff)]
        status := .failed, retryCount := 0xffffffff, maxRetries := 0, lastError := none
        dedupeKey := some "\n", availableAt := ⟨-8334601228800, 0, by decide, by decide, by decide⟩
        processedAt := none, createdAt := ⟨1483228799, 1500000000, by decide, by decide, by decide⟩ }
    let s := "[\"00000000-0000-0000-0000-000000000007\", \"Todo\", " ++
      "\"00000000-0000-0000-0000-000000000009\", \"todos\", \"\\u00e9\", \x7b\"b\":-0,\"a\":[-5]\x7d, " ++
      "\"FAILED\", 4294967295, 0, null, \"k\", \"-262143-01-01T00:00:00Z\", null, " ++
      "\"2017-01-01 01:59:60.5+02:00\"]"
    (r.payload.depth ≤ 126 ∧ ∀ u ∈ r.payload.within, u.Whole ∧ u.Ascending) ∧ read? r.text = some r ∧
      ∃ q, read? s = some q ∧ (∀ u ∈ q.payload.within, u.Whole) ∧ read? q.text = some q := by
  intro r s
  have hdepth : r.payload.depth ≤ 126 := by decide
  have hpayload : ∀ u ∈ r.payload.within, u.Whole ∧ u.Ascending := by decide
  have hread : ((read? s).map fun q => decide (∀ u ∈ q.payload.within, u.Whole)) = some true := by
    decide +kernel
  obtain ⟨q, hq, hwhole⟩ := Option.map_eq_some_iff.1 hread
  exact ⟨⟨hdepth, hpayload⟩, read?_text_reread.1 r hdepth hpayload, q, hq, of_decide_eq_true hwhole,
    read?_text_reread.2 s q hq (of_decide_eq_true hwhole)⟩

end Record

end Outbox
