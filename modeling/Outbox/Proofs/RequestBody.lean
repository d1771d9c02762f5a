import Outbox.Proofs.RecordText
import Outbox.PubSub.Request

/-!
# A request is read back

A message goes through three encodings on its way: the payload is a JSON text, its bytes are written in
base 64, and these stand as a string in the JSON text of a request.

* `Base64.decode?_encode`       bytes are read back from base 64;
* `Message.textOfBytes?_bytes` and a text from its bytes;
* `PubSub.received?`            what a consumer makes of the text of a request;
* `PubSub.received?_body`       of the request for a message it gets the message;
* `PubSub.publish_readable`     what is sent for a record says the record's payload and its attributes.
-/

namespace Outbox

namespace Text.Base64

/-! ## base 64 -/

theorem value?_digit {n : Nat} (h : n < 64) : value? (digit n) = some n := by
  have key : ∀ n : Fin 64, value? (digit n.val) = some n.val := by decide
  exact key ⟨n, h⟩

theorem digit_ne_pad {n : Nat} (h : n < 64) : digit n ≠ '=' := by
  have key : ∀ n : Fin 64, digit n.val ≠ '=' := by decide
  exact key ⟨n, h⟩

/-- Bytes come back, whatever their number is modulo three. -/
theorem decode?_encode : ∀ bs : List UInt8, decode? (encode bs) = some bs
  | [] => rfl
  | [a] => by
    have ha := a.toNat_lt
    have hlow : a.toNat % 4 * 16 % 16 = 0 := by omega
    have hbyte : a.toNat / 4 * 4 + a.toNat % 4 * 16 / 16 = a.toNat := by omega
    rw [encode, decode?, value?_digit (by omega), value?_digit (by omega)]
    simp only [Option.bind_eq_bind, Option.bind_some, hlow, if_true, hbyte, UInt8.ofNat_toNat]
  | [a, b] => by
    have ha := a.toNat_lt
    have hb := b.toNat_lt
    have hlow : b.toNat % 16 * 4 % 4 = 0 := by omega
    have hfirst : a.toNat / 4 * 4 + (a.toNat % 4 * 16 + b.toNat / 16) / 16 = a.toNat := by omega
    have hsecond : (a.toNat % 4 * 16 + b.toNat / 16) % 16 * 16 + b.toNat % 16 * 4 / 4 = b.toNat := by omega
    rw [encode, decode?, value?_digit (by omega), value?_digit (by omega), value?_digit (by omega)]
    · simp only [Option.bind_eq_bind, Option.bind_some, hlow, if_true, hfirst, hsecond, UInt8.ofNat_toNat]
    · exact fun h => digit_ne_pad (by omega) h
  | a :: b :: c :: rest => by
    have ha := a.toNat_lt
    have hb := b.toNat_lt
    have hc := c.toNat_lt
    have hfirst : a.toNat / 4 * 4 + (a.toNat % 4 * 16 + b.toNat / 16) / 16 = a.toNat := by omega
    have hsecond : (a.toNat % 4 * 16 + b.toNat / 16) % 16 * 16 + (b.toNat % 16 * 4 + c.toNat / 64) / 4 =
        b.toNat := by omega
    have hthird : (b.toNat % 16 * 4 + c.toNat / 64) % 4 * 64 + c.toNat % 64 = c.toNat := by omega
    have hpad : digit (c.toNat % 64) ≠ '=' := digit_ne_pad (by omega)
    rw [encode, decode?, value?_digit (by omega), value?_digit (by omega), value?_digit (by omega),
      value?_digit (by omega), decode?_encode rest]
    · simp only [Option.bind_eq_bind, Option.bind_some, hfirst, hsecond, hthird, UInt8.ofNat_toNat]
    · exact fun _ h _ => hpad h
    · exact fun h _ => hpad h

end Text.Base64

/-! ## bytes -/

theorem byteArray_toList_loop (bs : ByteArray) (i : Nat) (acc : List UInt8) :
    ByteArray.toList.loop bs i acc = acc.reverse ++ bs.data.toList.drop i := by
  fun_induction ByteArray.toList.loop bs i acc with
  | case1 i acc hi ih =>
    have hlength : i < bs.data.toList.length := hi
    have hget : bs.get! i = bs.data.toList[i] := getElem!_pos bs.data i hi
    rw [ih, hget, List.reverse_cons, List.append_assoc, List.drop_eq_getElem_cons hlength]
    rfl
  | case2 i acc hi =>
    have hlength : bs.data.toList.length ≤ i := Nat.le_of_not_lt hi
    rw [List.drop_eq_nil_of_le hlength, List.append_nil]

theorem byteArray_toList (bs : ByteArray) : bs.toList = bs.data.toList :=
  byteArray_toList_loop bs 0 []

/-- the text of bytes in UTF-8 -/
def textOfBytes? (bytes : List UInt8) : Option String := String.fromUTF8? ⟨bytes.toArray⟩

theorem Message.textOfBytes?_bytes (m : Message) : textOfBytes? m.bytes = some m.body := by
  unfold textOfBytes? Message.bytes
  rw [byteArray_toList, Array.toArray_toList]
  exact dif_pos m.body.isValidUTF8

namespace PubSub

/-! ## what a consumer reads -/

/-- a message as it comes out of a request -/
structure Received where
  data : List UInt8
  attributes : List (String × String)
  deriving DecidableEq, Repr

def attribute? : String × Json → Option (String × String)
  | (name, .text value) => some (name, value)
  | _ => none

def messageOf? : Json → Option Received
  | .object ms => do
    let .text data ← ms.lookup "data" | none
    let .object attributes ← ms.lookup "attributes" | none
    let data ← Text.Base64.decode? data.toList
    let attributes ← attributes.mapM attribute?
    some ⟨data, attributes⟩
  | _ => none

def messagesOf? : Json → Option (List Received)
  | .object ms => do
    let .list messages ← ms.lookup "messages" | none
    messages.mapM messageOf?
  | _ => none

/-- the messages of a request, from its JSON text -/
def received? (request : String) : Option (List Received) := (Json.read? request).bind messagesOf?

section

variable (attributes : List (String × String))

/-- attributes as the members of an object -/
def members : List (String × Json) := attributes.map fun (k, v) => (k, .text v)

theorem mapM_attribute?_members : (members attributes).mapM attribute? = some attributes := by
  induction attributes with
  | nil => rfl
  | cons a rest ih =>
    rw [members, List.map_cons, List.mapM_cons]
    show ((members rest).mapM attribute?).bind (fun rest => some (a :: rest)) = _
    rw [ih]
    rfl

theorem depth_members : (Json.object (members attributes)).depth ≤ 1 := by
  refine Nat.succ_le_succ (Json.depthMembers_le.2 fun p hp => ?_)
  obtain ⟨a, _, rfl⟩ := List.mem_map.1 hp
  exact Nat.le_refl 0

theorem within_members (hkeys : attributes.Pairwise fun a b => a.1 < b.1) :
    ∀ u ∈ (Json.object (members attributes)).within, u.Legible ∧ u.Ascending := by
  refine Json.forall_within_object ⟨trivial, List.pairwise_map.2 hkeys⟩ fun p hp => ?_
  obtain ⟨a, _, rfl⟩ := List.mem_map.1 hp
  exact List.forall_mem_singleton.2 ⟨trivial, trivial⟩

end

theorem body_eq (m : Message) :
    body m = .object [("messages", .list [.object
      [("data", .text (String.ofList (Text.Base64.encode m.bytes))),
       ("attributes", .object (members m.attributes))]])] := rfl

section

variable (m : Message) (hkeys : m.attributes.Pairwise fun a b => a.1 < b.1)

include hkeys

theorem legible_body : ∀ u ∈ (body m).within, u.Legible := by
  have hattributes : ∀ u ∈ (Json.object (members m.attributes)).within, u.Legible :=
    fun u hu => (within_members m.attributes hkeys u hu).1
  have hdata (s : String) : ∀ u ∈ (Json.text s).within, u.Legible := List.forall_mem_singleton.2 trivial
  refine Json.forall_within_object trivial (List.forall_mem_singleton.2 ?_)
  refine List.forall_mem_cons.2 ⟨trivial, ?_⟩
  rw [Json.withinItems, Json.withinItems, List.append_nil]
  refine Json.forall_within_object trivial ?_
  exact List.forall_mem_cons.2 ⟨hdata _, List.forall_mem_singleton.2 hattributes⟩

/-- The request has one message, with its two members, which are sorted when they are read. -/
theorem read?_body :
    Json.read? (body m).compact = some (.object [("messages", .list [.object
      [("attributes", .object (members m.attributes)),
       ("data", .text (String.ofList (Text.Base64.encode m.bytes)))]])]) := by
  have hattributes : Doc.json? 124 (Json.object (members m.attributes)).doc =
      some (.object (members m.attributes)) :=
    Doc.json?_doc _ 124 (Nat.le_trans (depth_members m.attributes) (by decide))
      (within_members m.attributes hkeys)
  unfold Json.read? Json.compact
  rw [String.toList_ofList, Doc.read?_write (legible_body m hkeys), Option.bind_some, body_eq]
  simp only [Json.doc, Json.docs, Json.memberDocs, Doc.json?, Doc.items?, Doc.members?, Doc.maxDepth]
    at hattributes ⊢
  rw [hattributes]
  rfl

/-- A consumer gets the message, with all of its bytes and attributes. -/
theorem received?_body : received? (body m).compact = some [⟨m.bytes, m.attributes⟩] := by
  have hdata : Text.Base64.decode? (String.ofList (Text.Base64.encode m.bytes)).toList = some m.bytes := by
    rw [String.toList_ofList, Text.Base64.decode?_encode]
  have hmessage : messageOf? (.object [("attributes", .object (members m.attributes)),
      ("data", .text (String.ofList (Text.Base64.encode m.bytes)))]) = some ⟨m.bytes, m.attributes⟩ := by
    show (Text.Base64.decode? _).bind (fun data => ((members m.attributes).mapM attribute?).bind
      fun attributes => some (Received.mk data attributes)) = _
    rw [hdata, mapM_attribute?_members]
    rfl
  unfold received?
  rw [read?_body m hkeys]
  show (List.mapM messageOf? [_]) = _
  rw [List.mapM_cons, hmessage]
  rfl

end

theorem keyed_attributes (r : Record) : r.message.attributes.Pairwise fun a b => a.1 < b.1 := by
  have hkeys : ["entity_id", "entity_type", "event_type", "outbox_id"].Pairwise (· < ·) := by decide
  exact List.pairwise_map.1 hkeys

theorem body_of_publish {c : Config} {r : Record} {peer : Peer} {request : Request}
    (h : (publish c r peer).2 = some request) : request.body = (body r.message).compact := by
  have hsent : request? c r = some request := by
    unfold publish at h
    cases hrequest : request? c r with
    | none =>
      rw [hrequest] at h
      cases h
    | some sent =>
      rw [hrequest] at h
      cases peer <;> first | exact h | cases h
  unfold request? at hsent
  dsimp only at hsent
  split at hsent
  · cases hsent
  split at hsent
  · obtain rfl := Option.some.inj hsent
    rfl
  · cases hsent

/-! ## what a publish says -/

/-- What is sent for a record, to whatever service, has one message: its data is the text of the record's
payload, and its attributes are four parts of the record, whatever characters they have.  Payloads whose
numbers are integers of 64 bits and whose containers nest at most 127 deep are read back as well; the keys
of their objects are sorted, as those of every object that is built are. -/
theorem publish_readable (r : Record) (hdepth : r.payload.depth ≤ 127)
    (hpayload : ∀ u ∈ r.payload.within, u.Whole ∧ u.Ascending) :
    (∃ m, received? (body r.message).compact = some [m] ∧
      (textOfBytes? m.data).bind Json.read? = some r.payload ∧
      m.attributes = [("entity_id", r.entityId.text), ("entity_type", r.entityType),
        ("event_type", r.eventType), ("outbox_id", r.id.text)]) ∧
    ∀ c peer request, (publish c r peer).2 = some request → request.body = (body r.message).compact := by
  refine ⟨⟨_, received?_body r.message (keyed_attributes r), ?_, rfl⟩, fun c peer request => body_of_publish⟩
  rw [Message.textOfBytes?_bytes, Option.bind_some]
  exact Json.read?_compact hdepth fun u hu => ⟨(hpayload u hu).1.legible, (hpayload u hu).2⟩

/-- Quotation marks, backslashes, a control character and a line break, sent to a service on a host of its
own. -/
theorem publish_readable_escaped :
    let r : Record :=
      { id := ⟨7⟩, entityType := "\"Todo\"", entityId := ⟨9⟩, topic := "todos", eventType := "é\\\n"
        payload := .object [("\\", .list [.int (-5), .text "\"\x01"])]
        status := .pending, retryCount := 0, maxRetries := 5, lastError := none, dedupeKey := none
        availableAt := .epoch, processedAt := none, createdAt := .epoch }
    (r.payload.depth ≤ 127 ∧ ∀ u ∈ r.payload.within, u.Whole ∧ u.Ascending) ∧
      ∃ request, (publish (.emulator "p" "localhost:8085") r .closes).2 = some request ∧
        ∃ m, received? request.body = some [m] ∧
          (textOfBytes? m.data).bind Json.read? = some r.payload ∧
          m.attributes = [("entity_id", "00000000-0000-0000-0000-000000000009"),
            ("entity_type", "\"Todo\""), ("event_type", "é\\\n"),
            ("outbox_id", "00000000-0000-0000-0000-000000000007")] := by
  intro r
  have hdepth : r.payload.depth ≤ 127 := by decide
  have hpayload : ∀ u ∈ r.payload.within, u.Whole ∧ u.Ascending := by decide
  have hsends : ((publish (.emulator "p" "localhost:8085") r .closes).2).isSome = true := by decide +kernel
  obtain ⟨request, hrequest⟩ := Option.isSome_iff_exists.1 hsends
  obtain ⟨⟨m, hm, htext, hattributes⟩, hbody⟩ := publish_readable r hdepth hpayload
  refine ⟨⟨hdepth, hpayload⟩, request, hrequest, m, ?_, htext, hattributes.trans (by decide +kernel)⟩
  rw [hbody _ _ _ hrequest]
  exact hm

end PubSub

end Outbox
