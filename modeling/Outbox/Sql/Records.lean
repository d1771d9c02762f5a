import Outbox.Sql.Session
import Outbox.Store

/-!
# The outbox in a database

* `insertion`, `enqueue`     an event is inserted unless its dedupe key is taken;
* `claim`                    due records are locked, hidden for the lease, and returned;
* `update`, `delete`, `write`   how a delivery went;
* `requeue`, `purge`, `get`, `listFailed`, `counts`   operations;
* `recordOfRow`              a record from the fields of a row, read in a fixed order.
-/

namespace Outbox.Sql

/-! ## rows -/

def recordColumns : List (String × ColumnType) :=
  [("id", .uuid), ("entity_type", .text), ("entity_id", .uuid), ("topic", .text),
   ("event_type", .text), ("payload", .jsonb), ("status", .text), ("retry_count", .int4),
   ("max_retries", .int4), ("last_error", .text), ("dedupe_key", .text),
   ("available_at", .timestamptz), ("processed_at", .timestamptz), ("created_at", .timestamptz)]

def columnNames : String := String.intercalate ", " (recordColumns.map (·.1))

/-- Negative counts become zero. -/
def toCount (i : Int) : UInt32 := i.toNat.toUInt32

/-- The order of reading decides which fault is found first. -/
def recordOfRow (r : Row) : Except StoreError Record := do
  let status ← r.required Value.text? "status"
  let retryCount ← r.required Value.int? "retry_count"
  let maxRetries ← r.required Value.int? "max_retries"
  let id ← r.required Value.uuid? "id"
  let entityType ← r.required Value.text? "entity_type"
  let entityId ← r.required Value.uuid? "entity_id"
  let topic ← r.required Value.text? "topic"
  let eventType ← r.required Value.text? "event_type"
  let payload ← r.required Value.json? "payload"
  let status ← Status.parse status
  let lastError ← r.nullable Value.text? "last_error"
  let dedupeKey ← r.nullable Value.text? "dedupe_key"
  let availableAt ← r.required Value.time? "available_at"
  let processedAt ← r.nullable Value.time? "processed_at"
  let createdAt ← r.required Value.time? "created_at"
  .ok
    { id, entityType, entityId, topic, eventType, payload, status, retryCount := toCount retryCount
      maxRetries := toCount maxRetries, lastError, dedupeKey, availableAt, processedAt, createdAt }

/-- the records of all rows, or the first fault -/
def recordsOfRows (rows : List Row) : Except StoreError (List Record) := rows.mapM recordOfRow

/-! ## statements -/

namespace Records

def target : String := "courier_outbox::repository::postgres"

def entry (message : String) (fields : List (String × Json)) : Log.Entry :=
  ⟨.debug, target, message, fields, none⟩

def insertion : Insert where
  table := "outbox_events"
  columns :=
    [("id", .param 1), ("entity_type", .param 2), ("entity_id", .param 3), ("topic", .param 4),
     ("event_type", .param 5), ("payload", .param 6), ("status", .text "PENDING"),
     ("retry_count", .int 0), ("max_retries", .param 7), ("dedupe_key", .param 8),
     ("available_at", .coalesce 9 10), ("created_at", .param 10)]
  onConflict := "ON CONFLICT (dedupe_key) WHERE dedupe_key IS NOT NULL DO NOTHING"

def insertionParams (e : Event) : List Value :=
  [.uuid e.id, .text e.entityType, .uuid e.entityId, .text e.topic, .text e.eventType,
   .json e.payload, ofCount e.maxRetries, ofOption .text e.dedupeKey, ofOption ofTime e.availableAt,
   ofTime e.createdAt]

def insertEvent (e : Event) : Statement := ⟨insertion.text, insertionParams e, []⟩

def claimRecords (limit : Nat) (lease : Duration) : Statement where
  text :=
    r"WITH due AS (
      SELECT id, available_at AS due_at
      FROM outbox_events
      WHERE status = 'PENDING'
        AND available_at <= NOW()
      ORDER BY available_at, created_at
      LIMIT $1
      FOR UPDATE SKIP LOCKED
    ),
    claimed AS (
      UPDATE outbox_events o
      SET available_at = NOW() + make_interval(secs => $2)
      FROM due
      WHERE o.id = due.id
      RETURNING o.id, o.entity_type, o.entity_id, o.topic, o.event_type,
        o.payload, o.status, o.retry_count, o.max_retries,
        o.last_error, o.dedupe_key, due.due_at AS available_at,
        o.processed_at, o.created_at
    )
    SELECT * FROM claimed
    ORDER BY available_at, created_at"
  params := [ofLimit limit, .real lease.seconds]
  columns := recordColumns

def retryLater (id : Uuid) (retryCount : UInt32) (lastError : Option String) (delay : Duration) :
    Statement where
  text :=
    r"UPDATE outbox_events
    SET retry_count = $2,
      last_error = $3,
      available_at = NOW() + make_interval(secs => $4),
      processed_at = NULL
    WHERE id = $1 AND status = 'PENDING'"
  params := [.uuid id, ofCount retryCount, ofOption .text lastError, .real delay.seconds]
  columns := []

def finishRecord (id : Uuid) (status : Status) (retryCount : UInt32) (lastError : Option String) :
    Statement where
  text :=
    r"UPDATE outbox_events
    SET status = $2,
      retry_count = $3,
      last_error = $4,
      processed_at = CASE WHEN $2 = 'PROCESSED' THEN NOW() ELSE NULL END
    WHERE id = $1 AND status = 'PENDING'"
  params := [.uuid id, .text status.name, ofCount retryCount, ofOption .text lastError]
  columns := []

def deleteRecord (id : Uuid) : Statement :=
  ⟨"DELETE FROM outbox_events WHERE id = $1", [.uuid id], []⟩

def getRecord (id : Uuid) : Statement :=
  ⟨"SELECT " ++ columnNames ++ " FROM outbox_events WHERE id = $1", [.uuid id], recordColumns⟩

def purgeRecords (olderThan : Timestamp) : Statement :=
  ⟨"DELETE FROM outbox_events WHERE status = 'PROCESSED' AND processed_at < $1", [ofTime olderThan],
    []⟩

def failedRecords (limit offset : Nat) : Statement where
  text :=
    "SELECT " ++ columnNames ++
    r" FROM outbox_events
    WHERE status = 'FAILED'
    ORDER BY created_at DESC, id DESC
    LIMIT $1 OFFSET $2"
  params := [ofLimit limit, ofLimit offset]
  columns := recordColumns

def requeueRecord (id : Uuid) : Statement where
  text :=
    r"UPDATE outbox_events
    SET status = 'PENDING',
      retry_count = 0,
      available_at = NOW(),
      processed_at = NULL
    WHERE id = $1 AND status = 'FAILED'"
  params := [.uuid id]
  columns := []

def countRecords : Statement :=
  ⟨"SELECT status, COUNT(*) AS count FROM outbox_events GROUP BY status", [],
    [("status", .text), ("count", .int8)]⟩

/-! ## operations -/

/-- a statement on a connection of its own -/
def ask (what : String) (s : Statement) : Session (Except StoreError Reply) :=
  attempt target what false s

def done {α : Type} (e : Log.Entry) (a : α) : Session (Except StoreError α) :=
  .ask (.log e) fun _ => .done (.ok a)

def enqueue (within : Bool) (e : Event) : Session (Except StoreError Enqueued) :=
  (attempt target "insert outbox event" within (insertEvent e)).follow fun r =>
    if r.affected = 0 then
      done (entry "duplicate outbox event ignored"
        [Log.text "dedupe_key" (e.dedupeKey.getD ""), Log.text "event_type" e.eventType]) .duplicate
    else
      done (entry "enqueued outbox event"
        [Log.text "outbox_id" e.id.text, Log.text "topic" e.topic, Log.text "event_type" e.eventType])
        (.inserted e.id)

/-- Nothing is sent for a limit of zero. -/
def claim (lease : Duration) (limit : Nat) : Session (Except StoreError (List Record)) :=
  if limit = 0 then .done (.ok [])
  else
    (ask "claim outbox events" (claimRecords limit lease)).follow fun r =>
      match recordsOfRows r.rows with
      | .error e => .done (.error e)
      | .ok records =>
        done (entry "claimed outbox events" [Log.count "claimed" records.length]) records

/-- a change of one record, which has to be there -/
def change (what : String) (s : Statement) (id : Uuid) (e : Log.Entry) :
    Session (Except StoreError Unit) :=
  (ask what s).follow fun r => if r.affected = 0 then .done (.error (.notFound id)) else done e ()

/-- `delay` is the time until the next attempt. -/
def update (delay : Duration) (id : Uuid) (status : Status) (retryCount : UInt32)
    (lastError : Option String) : Session (Except StoreError Unit) :=
  change "update outbox event"
    (match status with
      | .pending => retryLater id retryCount lastError delay
      | _ => finishRecord id status retryCount lastError)
    id
    (entry "updated outbox event"
      [Log.text "outbox_id" id.text, Log.text "status" status.name,
       Log.count "retry_count" retryCount.toNat])

def delete (id : Uuid) : Session (Except StoreError Unit) :=
  change "delete outbox event" (deleteRecord id) id
    (entry "deleted outbox event" [Log.text "outbox_id" id.text])

def write (delay : Duration) : Write → Session (Except StoreError Unit)
  | .update id status retryCount lastError => update delay id status retryCount lastError
  | .delete id => delete id

def requeue (id : Uuid) : Session (Except StoreError Unit) :=
  change "requeue outbox event" (requeueRecord id) id
    (entry "requeued failed outbox event" [Log.text "outbox_id" id.text])

/-- Rows after the first do not count. -/
def get (id : Uuid) : Session (Except StoreError (Option Record)) :=
  (ask "get outbox event" (getRecord id)).follow fun r =>
    .done (match r.rows with
      | [] => .ok none
      | row :: _ => (recordOfRow row).map some)

def purge (olderThan : Timestamp) : Session (Except StoreError Nat) :=
  (ask "purge processed outbox events" (purgeRecords olderThan)).follow fun r => .done (.ok r.affected)

def listFailed (limit offset : Nat) : Session (Except StoreError (List Record)) :=
  (ask "list failed outbox events" (failedRecords limit offset)).follow fun r =>
    .done (recordsOfRows r.rows)

def addRow (c : Counts) (r : Row) : Except StoreError Counts := do
  let status ← r.required Value.text? "status"
  let n ← r.required Value.int? "count"
  let status ← Status.parse status
  .ok (c.add status n.toNat)

def counts : Session (Except StoreError Counts) :=
  (ask "count outbox events" countRecords).follow fun r => .done (r.rows.foldlM addRow ⟨0, 0, 0⟩)

end Records

end Outbox.Sql
