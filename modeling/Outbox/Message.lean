import Outbox.Record

/-!
# Messages

* `Message`           what is handed to the broker for a record;
* `Record.message`    the payload's JSON text, with the attributes that consumers can filter by.
-/

namespace Outbox

structure Message where
  topic : String
  /-- a JSON text; its UTF-8 bytes are sent -/
  body : String
  /-- sorted by name -/
  attributes : List (String × String)
  deriving DecidableEq, Repr

def Message.bytes (m : Message) : List UInt8 := m.body.toUTF8.toList

def Record.message (r : Record) : Message :=
  { topic := r.topic
    body := r.payload.compact
    attributes :=
      [("entity_id", r.entityId.text), ("entity_type", r.entityType), ("event_type", r.eventType),
       ("outbox_id", r.id.text)] }

end Outbox
