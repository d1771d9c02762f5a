import Outbox.Time.Timestamp
import Outbox.Uuid
import Outbox.Text.Lower

/-!
# Dedupe keys

The key of an event names the operation that caused it, so that a repeated operation makes the same key
and its event is stored once.

* `perWrite`     one event for each write: kind in lower case, event type, id and time of the write;
* `perMessage`   one event for each message;
* `perEntity`    one event for the whole life of an entity.
-/

namespace Outbox.DedupeKey

def lowerKind (kind : String) : String := String.ofList (Text.lower kind.toList)

def perWrite (kind eventType : String) (entityId : Uuid) (at_ : Timestamp) : String :=
  lowerKind kind ++ ":" ++ eventType ++ ":" ++ entityId.text ++ ":" ++
    String.ofList (Decimal.intDigits at_.unixNanos)

def perMessage (kind eventType : String) (messageId : Uuid) : String :=
  lowerKind kind ++ ":" ++ eventType ++ ":" ++ messageId.text

def perEntity (entityId : Uuid) : String := entityId.text

end Outbox.DedupeKey
