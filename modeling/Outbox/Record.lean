import Outbox.Error
import Outbox.Json.Doc
import Outbox.Time.Rfc3339

/-!
# Outbox records

* `Status`                  where a record stands; `name` and `ofName?` are its text;
* `Record`                  a stored row: an event on its way to the broker;
* `exhaustedAfterFailure`   one more failed publish would be one too many, which cannot be told when the
                          failures have been counted as far as 32 bits go;
* `Record.json`, `Record.ofDoc?`   its JSON form, fields in the order of the structure.
-/

namespace Outbox

inductive Status where
  | pending
  | processed
  | failed
  deriving DecidableEq, Repr, Inhabited

namespace Status

def name : Status → String
  | .pending => "PENDING"
  | .processed => "PROCESSED"
  | .failed => "FAILED"

def ofName? (s : String) : Option Status :=
  [pending, processed, failed].find? fun st => st.name = s

def parse (s : String) : Except StoreError Status :=
  match ofName? s with
  | some st => .ok st
  | none => .error (.invalidStatus s)

/-- Processed and failed records are not delivered again. -/
def isTerminal : Status → Bool
  | .pending => false
  | _ => true

/-- the name alone, or as the only key of an object whose value is `null` -/
def ofDoc? : Doc → Option Status
  | .string (some s) => ofName? s
  | .object [(some s, .null)] => ofName? s
  | _ => none

end Status

structure Record where
  id : Uuid
  entityType : String
  entityId : Uuid
  topic : String
  eventType : String
  payload : Json
  status : Status
  retryCount : UInt32
  maxRetries : UInt32
  lastError : Option String
  dedupeKey : Option String
  availableAt : Timestamp
  processedAt : Option Timestamp
  createdAt : Timestamp
  deriving Inhabited

namespace Record

/-- The sum is taken in 32 bits, and there is no answer if it does not fit. -/
def exhaustedAfterFailure (r : Record) : Except CountError Bool :=
  if r.retryCount = 0xffffffff then .error .overflow
  else .ok (r.maxRetries < r.retryCount + 1)

/-! ## JSON -/

def optionJson {α : Type} (f : α → Json) : Option α → Json
  | none => .null
  | some a => f a

def uuidJson (u : Uuid) : Json := .text u.text

def timeJson (t : Timestamp) : Json := .text t.text

def json (r : Record) : Json :=
  .object
    [("id", uuidJson r.id), ("entity_type", .text r.entityType), ("entity_id", uuidJson r.entityId),
     ("topic", .text r.topic), ("event_type", .text r.eventType), ("payload", r.payload),
     ("status", .text r.status.name), ("retry_count", .int r.retryCount.toNat),
     ("max_retries", .int r.maxRetries.toNat), ("last_error", optionJson .text r.lastError),
     ("dedupe_key", optionJson .text r.dedupeKey), ("available_at", timeJson r.availableAt),
     ("processed_at", optionJson timeJson r.processedAt), ("created_at", timeJson r.createdAt)]

def fieldNames : List String :=
  ["id", "entity_type", "entity_id", "topic", "event_type", "payload", "status", "retry_count",
   "max_retries", "last_error", "dedupe_key", "available_at", "processed_at", "created_at"]

def readUuid? (d : Doc) : Option Uuid := d.text?.bind Uuid.read?

def readTime? (d : Doc) : Option Timestamp := d.text?.bind Timestamp.read?

def readCount? (d : Doc) : Option UInt32 := (d.natural? 0xffffffff).map Nat.toUInt32

/-- The record is itself one of the containers that may nest. -/
def ofDoc? (d : Doc) : Option Record := do
  match ← d.parts? fieldNames with
  | [id, entityType, entityId, topic, eventType, payload, status, retryCount, maxRetries, lastError,
     dedupeKey, availableAt, processedAt, createdAt] =>
    some
      { id := ← id >>= readUuid?
        entityType := ← entityType >>= Doc.text?
        entityId := ← entityId >>= readUuid?
        topic := ← topic >>= Doc.text?
        eventType := ← eventType >>= Doc.text?
        payload := ← payload >>= Doc.json? (Doc.maxDepth - 1)
        status := ← status >>= Status.ofDoc?
        retryCount := ← retryCount >>= readCount?
        maxRetries := ← maxRetries >>= readCount?
        lastError := ← Doc.optional? Doc.text? lastError
        dedupeKey := ← Doc.optional? Doc.text? dedupeKey
        availableAt := ← availableAt >>= readTime?
        processedAt := ← Doc.optional? readTime? processedAt
        createdAt := ← createdAt >>= readTime? }
  | _ => none

def read? (s : String) : Option Record := (Doc.read? s.toList).bind ofDoc?

def text (r : Record) : String := r.json.compact

/-! ## order -/

/-- the order of creation, ids deciding between records of one time -/
def createdLE (a b : Record) : Bool :=
  a.createdAt < b.createdAt || (a.createdAt = b.createdAt && a.id ≤ b.id)

/-- the order in which due records are claimed -/
def dueLE (a b : Record) : Bool :=
  a.availableAt < b.availableAt || (a.availableAt = b.availableAt && createdLE a b)

end Record

end Outbox
