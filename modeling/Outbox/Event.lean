import Outbox.Record
import Outbox.Payload
import Outbox.DedupeKey

/-!
# Events

* `Event`             an event that a domain operation wants delivered;
* `Event.create`      with the defaults: five retries, no dedupe key, deliverable at once;
* `Event.withDelay`   held back for a while after its creation (at once where the time would be out of
                      range);
* `Event.record`      the row that is stored for it;
* `Event.Draft`       an event described by what is set on it, `Draft.build` at a time.
-/

namespace Outbox

structure Event where
  id : Uuid
  entityType : String
  entityId : Uuid
  topic : String
  eventType : String
  payload : Json
  maxRetries : UInt32
  dedupeKey : Option String
  /-- the earliest delivery, `none` for at once -/
  availableAt : Option Timestamp
  createdAt : Timestamp
  deriving Inhabited

namespace Event

def defaultMaxRetries : UInt32 := 5

def create (id : Uuid) (entityType : String) (entityId : Uuid) (topic eventType : String)
    (payload : Json) (createdAt : Timestamp) : Event :=
  { id, entityType, entityId, topic, eventType, payload, createdAt
    maxRetries := defaultMaxRetries, dedupeKey := none, availableAt := none }

/-- Durations that no time can be moved by are out of range whatever the time. -/
def withDelay (e : Event) (d : Duration) : Event :=
  { e with availableAt := e.createdAt.add? d }

def record (e : Event) : Record :=
  { id := e.id, entityType := e.entityType, entityId := e.entityId, topic := e.topic
    eventType := e.eventType, payload := e.payload, status := .pending, retryCount := 0
    maxRetries := e.maxRetries, lastError := none, dedupeKey := e.dedupeKey
    availableAt := e.availableAt.getD e.createdAt, processedAt := none, createdAt := e.createdAt }

/-- Something that is set on an event. -/
inductive Change where
  | dedupeKey (key : String)
  | maxRetries (n : UInt32)
  | availableAt (t : Timestamp)
  | delay (d : Duration)

def apply (e : Event) : Change → Event
  | .dedupeKey key => { e with dedupeKey := some key }
  | .maxRetries n => { e with maxRetries := n }
  | .availableAt t => { e with availableAt := some t }
  | .delay d => e.withDelay d

structure Draft where
  id : Uuid
  entityType : String
  entityId : Uuid
  topic : String
  eventType : String
  payload : Payload
  /-- `none` for the time of `build` -/
  createdAt : Option Timestamp
  changes : List Change

def Draft.build (d : Draft) (now : Timestamp) : Except StoreError Event :=
  match d.payload.encode with
  | .error reason => .error (.serialization reason)
  | .ok payload =>
    .ok (d.changes.foldl apply
      (create d.id d.entityType d.entityId d.topic d.eventType payload (d.createdAt.getD now)))

end Event

end Outbox
