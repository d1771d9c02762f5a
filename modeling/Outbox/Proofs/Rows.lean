import Mathlib.Data.List.Forall2
import Outbox.Proofs.Clock
import Outbox.Sql.Records

/-!
# Rows carry records

An insertion describes a row, and a reader of its own makes a record of a row.

* `Timestamp.IsMicros`      a time that a count of microseconds reaches;
* `storedTime_of_isMicros`  such a time is kept as it is;
* `recordOfRow_boundRow`    the row of an event is read as the record of the event;
* `Row.Decodes`             a row has a value in a column, or null where it may;
* `exists_recordOfRow_iff`  which rows are read as records;
* `recordsOfRows_eq_ok_iff` a list of rows is read row by row;
* `follow_eq_ok_iff`        what comes of a statement comes of its reply;
* `rows_carry_records`      all of this, and what the three queries for records return.
-/

namespace Outbox

/-! ## times -/

/-- A whole number of microseconds since 1970.  A leap second has no number of its own: the count goes on
with the next second. -/
def Timestamp.IsMicros (t : Timestamp) : Prop := ∃ n : Int, ofNanos? 0 (n * 1000) = some t

theorem Timestamp.isMicros_iff {t : Timestamp} :
    t.IsMicros ↔ t.nanos % 1000 = 0 ∧ t.nanos < 1000000000 := by
  constructor
  · rintro ⟨n, hn⟩
    obtain ⟨_, hnanos⟩ := ofNanos?_some hn
    omega
  · rintro ⟨hmicros, hlt⟩
    refine ⟨t.secs * 1000000 + (t.nanos / 1000 : Nat), ?_⟩
    have hsecs : 0 + (t.secs * 1000000 + (t.nanos / 1000 : Nat)) * 1000 / 1000000000 = t.secs := by omega
    have hnanos : ((t.secs * 1000000 + (t.nanos / 1000 : Nat)) * 1000 % 1000000000).toNat = t.nanos := by
      omega
    rw [ofNanos?, hsecs, hnanos]
    exact dif_pos ⟨⟨t.secs_ge, t.secs_le⟩, Or.inl hlt⟩

instance (t : Timestamp) : Decidable t.IsMicros := decidable_of_iff _ Timestamp.isMicros_iff.symm

namespace Sql

/-- No microsecond is cut, on either side of the year 2000. -/
theorem storedTime_of_isMicros {t : Timestamp} (h : t.IsMicros) : storedTime t = t := by
  obtain ⟨hmicros, hlt⟩ := Timestamp.isMicros_iff.1 h
  have hcount : Int.tdiv ((t.secs - epochSecs) * 1000000000 + t.nanos) 1000 * 1000 =
      (t.secs - epochSecs) * 1000000000 + t.nanos := Int.tdiv_mul_cancel (by omega)
  have hsecs : epochSecs + ((t.secs - epochSecs) * 1000000000 + t.nanos) / 1000000000 = t.secs := by
    omega
  have hnanos : (((t.secs - epochSecs) * 1000000000 + t.nanos) % 1000000000).toNat = t.nanos := by
    omega
  have hstored : Timestamp.ofNanos? epochSecs ((t.secs - epochSecs) * 1000000000 + t.nanos) = some t := by
    rw [Timestamp.ofNanos?, hsecs, hnanos]
    exact dif_pos ⟨⟨t.secs_ge, t.secs_le⟩, Or.inl hlt⟩
  unfold storedTime
  dsimp only
  rw [hcount, hstored]
  rfl

/-- A leap second is kept as the second after it. -/
example : storedTime ⟨1483228799, 1500000000, by decide, by decide, by decide⟩ =
    ⟨1483228800, 500000000, by decide, by decide, by decide⟩ := by decide

/-! ## counts -/

/-- A count comes back as it is, up to the largest one of 31 bits. -/
theorem toCount_min (n : UInt32) : toCount (min (n.toNat : Int) 0x7fffffff) = min n 0x7fffffff := by
  have hlt := n.toNat_lt
  by_cases h : n ≤ 0x7fffffff
  · have hle : n.toNat ≤ 0x7fffffff := UInt32.le_iff_toNat_le.1 h
    have hmin : min (n.toNat : Int) 0x7fffffff = n.toNat := by omega
    rw [hmin, show min n 0x7fffffff = n from if_pos h]
    exact UInt32.ofNat_toNat
  · have hle : ¬ n.toNat ≤ 0x7fffffff := fun hle => h (UInt32.le_iff_toNat_le.2 hle)
    have hmin : min (n.toNat : Int) 0x7fffffff = 0x7fffffff := by omega
    rw [hmin, show min n 0x7fffffff = 0x7fffffff from if_neg h]
    rfl

/-! ## the row of an event -/

open Records (insertion insertEvent)

/-- what a server has of an event, and gives back -/
def insertedRow (e : Event) : Row := insertion.row recordColumns (insertEvent e).params

/-- the parameters of an insertion, when `wire` tells which time arrives for a time -/
def boundValues (wire : Timestamp → Timestamp) (e : Event) : List Value :=
  [.uuid e.id, .text e.entityType, .uuid e.entityId, .text e.topic, .text e.eventType, .json e.payload,
   ofCount e.maxRetries, ofOption .text e.dedupeKey, ofOption (fun t => .time (wire t)) e.availableAt,
   .time (wire e.createdAt)]

def boundRow (wire : Timestamp → Timestamp) (e : Event) : Row :=
  insertion.row recordColumns (boundValues wire e)

/-- The times that arrive are those that the server keeps. -/
theorem boundRow_storedTime (e : Event) : boundRow storedTime e = insertedRow e := rfl

/-- Whatever the event is, its row is read as its record, with the times that arrive. -/
theorem recordOfRow_boundRow (wire : Timestamp → Timestamp) (e : Event) :
    recordOfRow (boundRow wire e) = .ok
      { e.record with
        maxRetries := min e.maxRetries 0x7fffffff
        availableAt := wire e.record.availableAt
        createdAt := wire e.createdAt } := by
  rw [← toCount_min]
  obtain ⟨id, entityType, entityId, topic, eventType, payload, maxRetries, dedupeKey, availableAt,
    createdAt⟩ := e
  -- a key may be null, and without an earliest delivery the time of creation takes its place
  cases dedupeKey <;> cases availableAt <;> rfl

theorem recordOfRow_insertedRow (e : Event) :
    recordOfRow (insertedRow e) = .ok
      { e.record with
        maxRetries := min e.maxRetries 0x7fffffff
        availableAt := storedTime e.record.availableAt
        createdAt := storedTime e.createdAt } := by
  rw [← boundRow_storedTime]
  exact recordOfRow_boundRow storedTime e

/-! ## the columns of a row -/

/-- a value of this type -/
def ColumnType.holds : ColumnType → Value → Bool
  | .uuid, .uuid _ => true
  | .text, .text _ => true
  | .int4, .int _ => true
  | .int8, .int _ => true
  | .bool, .flag _ => true
  | .jsonb, .json _ => true
  | .timestamptz, .time _ => true
  | _, _ => false

/-- the columns of a record that may be null -/
def nullableColumns : List String := ["last_error", "dedupe_key", "processed_at"]

/-- The row has this column, with a value of its type, or with null where that is allowed. -/
def Row.Decodes (r : Row) (column : String × ColumnType) : Prop :=
  ∃ v, r.field column.1 = .ok v ∧
    (column.2.holds v = true ∨ v = .null ∧ column.1 ∈ nullableColumns)

/-- The values that can be read are those of the type. -/
def ColumnType.ReadBy {α : Type} (type : ColumnType) (read : Value → Option α) : Prop :=
  ∀ v, (read v).isSome = type.holds v

theorem readBy_uuid : ColumnType.uuid.ReadBy Value.uuid? := fun v => by cases v <;> rfl

theorem readBy_text : ColumnType.text.ReadBy Value.text? := fun v => by cases v <;> rfl

theorem readBy_int4 : ColumnType.int4.ReadBy Value.int? := fun v => by cases v <;> rfl

theorem readBy_jsonb : ColumnType.jsonb.ReadBy Value.json? := fun v => by cases v <;> rfl

theorem readBy_timestamptz : ColumnType.timestamptz.ReadBy Value.time? := fun v => by cases v <;> rfl

section

variable {α β : Type} {r : Row} {name : String} {type : ColumnType} {read : Value → Option α}

theorem ColumnType.ReadBy.null (hread : type.ReadBy read) : read .null = none := by
  have h := hread .null
  rw [show type.holds .null = false by cases type <;> rfl] at h
  exact Option.not_isSome_iff_eq_none.1 (by rw [h]; decide)

/-- A value that is needed is found if the row decodes there. -/
theorem exists_required_iff (hread : type.ReadBy read) (hname : name ∉ nullableColumns) :
    (∃ a, r.required read name = .ok a) ↔ r.Decodes (name, type) := by
  have hvalue : r.Decodes (name, type) ↔ ∃ v, r.field name = .ok v ∧ (read v).isSome = true := by
    simp only [Row.Decodes, hname, and_false, or_false, hread _]
  rw [hvalue]
  unfold Row.required
  split
  case h_1 e he => simp [he]
  case h_2 he => simp [he, hread.null]
  case h_3 v hnull he => cases h : read v <;> simp [he, h]

/-- A value that may be null is found if the row decodes there. -/
theorem exists_nullable_iff (hread : type.ReadBy read) (hname : name ∈ nullableColumns) :
    (∃ a, r.nullable read name = .ok a) ↔ r.Decodes (name, type) := by
  have hvalue : r.Decodes (name, type) ↔
      ∃ v, r.field name = .ok v ∧ ((read v).isSome = true ∨ v = .null) := by
    simp only [Row.Decodes, hname, and_true, hread _]
  rw [hvalue]
  unfold Row.nullable
  split
  case h_1 e he => simp [he]
  case h_2 he => simp [he]
  case h_3 v hnull he => cases h : read v <;> simp_all

theorem bind_eq_ok_iff {x : Except StoreError α} {f : α → Except StoreError β} {b : β} :
    (x >>= f) = .ok b ↔ ∃ a, x = .ok a ∧ f a = .ok b := by
  cases x with
  | error e => exact ⟨nofun, nofun⟩
  | ok a =>
    constructor
    · exact fun hb => ⟨a, rfl, hb⟩
    · rintro ⟨_, ha, hb⟩
      cases ha
      exact hb

theorem parse_eq_ok_iff {s : String} {st : Status} : Status.parse s = .ok st ↔ s = st.name := by
  constructor
  · intro h
    unfold Status.parse at h
    split at h
    · rename_i found hfound
      cases h
      have hname := List.find?_some hfound
      exact (of_decide_eq_true hname).symm
    · cases h
  · rintro rfl
    cases st <;> decide

theorem required_text_iff {s : String} :
    Row.required Value.text? name r = .ok s ↔ r.field name = .ok (.text s) := by
  unfold Row.required
  split
  case h_1 e he => simp [he]
  case h_2 he => simp [he]
  case h_3 v hnull he => cases v <;> simp [he, Value.text?]

/-- The name of a status is a text that can be parsed. -/
theorem exists_parsed_iff :
    (∃ st : Status, r.field name = .ok (.text st.name)) ↔
      ∃ s, Row.required Value.text? name r = .ok s ∧ ∃ st, Status.parse s = .ok st := by
  simp only [required_text_iff, parse_eq_ok_iff]
  constructor
  · exact fun ⟨st, hst⟩ => ⟨_, hst, st, rfl⟩
  · rintro ⟨_, hs, st, rfl⟩
    exact ⟨st, hs⟩

/-- A sequence of steps succeeds if each of them does. -/
theorem exists_bind_iff {x : Except StoreError α} {f : α → Except StoreError β} :
    (∃ b, (x >>= f) = .ok b) ↔ ∃ a, x = .ok a ∧ ∃ b, f a = .ok b := by
  simp only [bind_eq_ok_iff]
  rw [exists_comm]
  simp only [exists_and_left]

/-- A row is read as a record just if each column can be read and the status is one of the three. -/
theorem exists_recordOfRow_iff (r : Row) :
    (∃ q, recordOfRow r = .ok q) ↔
      (∀ column ∈ recordColumns, r.Decodes column) ∧
        ∃ st : Status, r.field "status" = .ok (.text st.name) := by
  rw [exists_parsed_iff]
  -- both sides as the values that are found
  simp only [recordColumns, List.forall_mem_cons]
  simp (disch := decide) only [← exists_required_iff readBy_uuid, ← exists_required_iff readBy_text,
    ← exists_required_iff readBy_jsonb, ← exists_required_iff readBy_int4,
    ← exists_required_iff readBy_timestamptz, ← exists_nullable_iff readBy_text,
    ← exists_nullable_iff readBy_timestamptz]
  unfold recordOfRow
  simp only [exists_bind_iff, Except.ok.injEq, exists_eq', and_true, exists_and_right]
  -- the status is a column like the others, and is parsed besides
  constructor
  · rintro ⟨s, hs, hretryCount, hmaxRetries, hid, hentityType, hentityId, htopic, heventType, hpayload,
      hparsed, hlastError, hdedupeKey, havailableAt, hprocessedAt, hcreatedAt⟩
    exact ⟨⟨hid, hentityType, hentityId, htopic, heventType, hpayload, ⟨s, hs⟩, hretryCount,
      hmaxRetries, hlastError, hdedupeKey, havailableAt, hprocessedAt, hcreatedAt, nofun⟩, s, hs, hparsed⟩
  · rintro ⟨⟨hid, hentityType, hentityId, htopic, heventType, hpayload, _, hretryCount, hmaxRetries,
      hlastError, hdedupeKey, havailableAt, hprocessedAt, hcreatedAt, _⟩, s, hs, hparsed⟩
    exact ⟨s, hs, hretryCount, hmaxRetries, hid, hentityType, hentityId, htopic, heventType, hpayload,
      hparsed, hlastError, hdedupeKey, havailableAt, hprocessedAt, hcreatedAt⟩

end

/-! ## rows in their order -/

/-- this row is read as this record -/
def Row.Reads (r : Row) (q : Record) : Prop := recordOfRow r = .ok q

/-- All rows are read, in their order, or none is returned. -/
theorem recordsOfRows_eq_ok_iff {rows : List Row} {records : List Record} :
    recordsOfRows rows = .ok records ↔ List.Forall₂ Row.Reads rows records := by
  induction rows generalizing records with
  | nil =>
    rw [List.forall₂_nil_left_iff]
    exact ⟨fun h => (Except.ok.inj h).symm, fun h => congrArg Except.ok h.symm⟩
  | cons r rows ih =>
    rw [recordsOfRows, List.mapM_cons, bind_eq_ok_iff, List.forall₂_cons_left_iff]
    simp only [bind_eq_ok_iff]
    constructor
    · rintro ⟨q, hq, rest, hrest, hrecords⟩
      exact ⟨q, rest, hq, ih.1 hrest, (Except.ok.inj hrecords).symm⟩
    · rintro ⟨q, rest, hq, hrest, rfl⟩
      exact ⟨q, hq, rest, ih.2 hrest, rfl⟩

section

variable {α σ : Type} {answer : (a : Ask) → σ → a.Answer × σ} {s : σ}

/-- What comes of a statement is what comes of the reply of the server. -/
theorem follow_eq_ok_iff {target what : String} {within : Bool} {st : Statement}
    {f : Reply → Session (Except StoreError α)} {a : α} :
    (((attempt target what within st).follow f).run answer s).1 = .ok a ↔
      ∃ r, (answer (.statement within st) s).1 = .ok r ∧
        ((f r).run answer (answer (.statement within st) s).2).1 = .ok a := by
  simp only [attempt, Session.follow, Program.bind, Program.run_ask]
  rcases answer (.statement within st) s with ⟨reply, s'⟩
  cases reply with
  | error reason => exact ⟨nofun, nofun⟩
  | ok r =>
    constructor
    · exact fun h => ⟨r, rfl, h⟩
    · rintro ⟨_, hr, h⟩
      cases hr
      exact h

/-! ## what the queries return -/

namespace Records

theorem claim_eq_ok_iff {lease : Duration} {limit : Nat} (hlimit : limit ≠ 0) {records : List Record} :
    ((claim lease limit).run answer s).1 = .ok records ↔
      ∃ r, (answer (.statement false (claimRecords limit lease)) s).1 = .ok r ∧
        List.Forall₂ Row.Reads r.rows records := by
  rw [claim, if_neg hlimit, ask, follow_eq_ok_iff]
  refine exists_congr fun r => and_congr_right fun _ => ?_
  rw [← recordsOfRows_eq_ok_iff]
  cases recordsOfRows r.rows with
  | error e => exact ⟨nofun, nofun⟩
  | ok read => rfl

theorem listFailed_eq_ok_iff {limit offset : Nat} {records : List Record} :
    ((listFailed limit offset).run answer s).1 = .ok records ↔
      ∃ r, (answer (.statement false (failedRecords limit offset)) s).1 = .ok r ∧
        List.Forall₂ Row.Reads r.rows records := by
  rw [listFailed, ask, follow_eq_ok_iff]
  exact exists_congr fun r => and_congr_right fun _ => recordsOfRows_eq_ok_iff

theorem get_eq_ok_iff {id : Uuid} {found : Option Record} :
    ((get id).run answer s).1 = .ok found ↔
      ∃ r, (answer (.statement false (getRecord id)) s).1 = .ok r ∧
        List.Forall₂ Row.Reads (r.rows.take 1) found.toList := by
  rw [get, ask, follow_eq_ok_iff]
  refine exists_congr fun r => and_congr_right fun _ => ?_
  rcases r.rows with _ | ⟨row, rows⟩
  · rw [List.take_nil, List.forall₂_nil_left_iff, Option.toList_eq_nil_iff]
    exact ⟨fun h => (Except.ok.inj h).symm, fun h => congrArg Except.ok h.symm⟩
  · have hone : List.Forall₂ Row.Reads [row] found.toList ↔ ∃ q, row.Reads q ∧ found = some q := by
      rw [List.forall₂_cons_left_iff]
      simp only [List.forall₂_nil_left_iff, exists_and_left, exists_eq_left, Option.toList_eq_singleton_iff]
    rw [List.take_succ_cons, List.take_zero, hone]
    change (recordOfRow row).map some = .ok found ↔ ∃ q, recordOfRow row = .ok q ∧ found = some q
    cases recordOfRow row with
    | error e => exact ⟨nofun, fun ⟨_, hq, _⟩ => nomatch hq⟩
    | ok q =>
      constructor
      · exact fun h => ⟨q, rfl, (Except.ok.inj h).symm⟩
      · rintro ⟨_, hq, rfl⟩
        cases hq
        rfl

end Records

end

/-! ## the rows of an outbox -/

/-- The database carries the records that an outbox in memory has.  The row of an event is read as the
record of the event, apart from a limit of retries beyond 31 bits, if its times arrive as they are.  From
those times a server cuts what is no whole microsecond, and nothing of whole microseconds.  A row is read
just if every column can be read and its status has a name, and a query returns records just if it is
answered with rows that are all read, in their order. -/
theorem rows_carry_records :
    (∀ e : Event,
      recordOfRow (boundRow id e) = .ok { e.record with maxRetries := min e.maxRetries 0x7fffffff }) ∧
    (∀ e : Event, recordOfRow (insertedRow e) = .ok
      { e.record with
        maxRetries := min e.maxRetries 0x7fffffff
        availableAt := storedTime e.record.availableAt
        createdAt := storedTime e.createdAt }) ∧
    (∀ e : Event, e.createdAt.IsMicros → (∀ t ∈ e.availableAt, t.IsMicros) →
      recordOfRow (insertedRow e) = .ok { e.record with maxRetries := min e.maxRetries 0x7fffffff }) ∧
    (∀ r : Row, (∃ q, recordOfRow r = .ok q) ↔
      (∀ column ∈ recordColumns, r.Decodes column) ∧
        ∃ st : Status, r.field "status" = .ok (.text st.name)) ∧
    ∀ {σ : Type} (answer : (a : Ask) → σ → a.Answer × σ) (s : σ),
      (∀ lease limit records, limit ≠ 0 →
        (((Records.claim lease limit).run answer s).1 = .ok records ↔
          ∃ r, (answer (.statement false (Records.claimRecords limit lease)) s).1 = .ok r ∧
            List.Forall₂ Row.Reads r.rows records)) ∧
      (∀ limit offset records,
        ((Records.listFailed limit offset).run answer s).1 = .ok records ↔
          ∃ r, (answer (.statement false (Records.failedRecords limit offset)) s).1 = .ok r ∧
            List.Forall₂ Row.Reads r.rows records) ∧
      ∀ id found,
        ((Records.get id).run answer s).1 = .ok found ↔
          ∃ r, (answer (.statement false (Records.getRecord id)) s).1 = .ok r ∧
            List.Forall₂ Row.Reads (r.rows.take 1) found.toList := by
  refine ⟨recordOfRow_boundRow id, recordOfRow_insertedRow, fun e hcreated havailable => ?_,
    exists_recordOfRow_iff, fun answer s => ⟨fun _ _ _ hlimit => Records.claim_eq_ok_iff hlimit,
      fun _ _ _ => Records.listFailed_eq_ok_iff, fun _ _ => Records.get_eq_ok_iff⟩⟩
  have havailable : e.record.availableAt.IsMicros := by
    unfold Event.record
    cases h : e.availableAt with
    | none => exact hcreated
    | some t => exact havailable t h
  rw [recordOfRow_insertedRow, storedTime_of_isMicros hcreated, storedTime_of_isMicros havailable]
  rfl

/-- an event that may be tried again more often than 31 bits can say -/
def manyRetries : Event where
  id := ⟨1⟩
  entityType := "order"
  entityId := ⟨2⟩
  topic := "orders"
  eventType := "order.placed"
  payload := .object [("total", .int 5)]
  maxRetries := 0xffffffff
  dedupeKey := some "k"
  availableAt := some ⟨60, 1000, by decide, by decide, by decide⟩
  createdAt := .epoch

/-- The record of the event comes back with the largest limit of 31 bits, from its row and from a claim. -/
theorem rows_carry_records_clamped :
    recordOfRow (insertedRow manyRetries) = .ok { manyRetries.record with maxRetries := 0x7fffffff } ∧
      ((Records.claim (.ofNanos 0) 1).run
        (fun | .statement _ _, s => (.ok ⟨1, [insertedRow manyRetries]⟩, s)
             | .log _, s => ((), s)
             | .begin, s => (.ok (), s)
             | .commit, s => (.ok (), s)
             | .rollback, s => (.ok (), s)) ()).1 =
        .ok [{ manyRetries.record with maxRetries := 0x7fffffff }] := by
  have hread := rows_carry_records.2.2.1 manyRetries (by decide) (by decide)
  refine ⟨hread, ?_⟩
  exact ((rows_carry_records.2.2.2.2 _ ()).1 _ 1 _ (by decide)).2 ⟨_, rfl, .cons hread .nil⟩

end Sql
end Outbox
