import Outbox.Event
import Outbox.Log

/-!
# Todo items

* `Todo`                      a small domain that writes through the outbox;
* `Todo.create`               a new item, its time cut to microseconds;
* `Todo.json`, `Todo.ofDoc?`  its JSON form;
* `Todo.event`                the event that tells of its creation or deletion.
-/

namespace Outbox

structure Todo where
  id : Uuid
  title : String
  completed : Bool
  createdAt : Timestamp
  deriving DecidableEq, Repr, Inhabited

namespace Todo

def create (id : Uuid) (title : String) (now : Timestamp) : Todo :=
  { id, title, completed := false, createdAt := now.toMicros }

def members (t : Todo) : List (String × Json) :=
  [("id", Record.uuidJson t.id), ("title", .text t.title), ("completed", .bool t.completed),
   ("created_at", Record.timeJson t.createdAt)]

def json (t : Todo) : Json := .object t.members

def fieldNames : List String := ["id", "title", "completed", "created_at"]

def ofDoc? (d : Doc) : Option Todo := do
  match ← d.parts? fieldNames with
  | [id, title, completed, createdAt] =>
    some
      { id := ← id >>= Record.readUuid?
        title := ← title >>= Doc.text?
        completed := ← completed >>= Doc.bool?
        createdAt := ← createdAt >>= Record.readTime? }
  | _ => none

def read? (s : String) : Option Todo := (Doc.read? s.toList).bind ofDoc?

/-! ## events -/

def entityType : String := "Todo"

def topic : String := "todos"

/-- What is told about a todo. -/
inductive News where
  | created
  | deleted
  deriving DecidableEq, Repr

def News.eventType : News → String
  | .created => "TODO_CREATED"
  | .deleted => "TODO_DELETED"

def dedupeKey (t : Todo) (news : News) : String :=
  DedupeKey.perWrite entityType news.eventType t.id t.createdAt

/-- The payload is the todo, its fields sorted by name. -/
def event (t : Todo) (news : News) (eventId : Uuid) (now : Timestamp) : Event :=
  { Event.create eventId entityType t.id topic news.eventType (Json.ofMembers t.members) now with
    dedupeKey := some (t.dedupeKey news) }

/-- logged when a command is done -/
def told (news : News) (t : Todo) : Log.Entry :=
  { level := .info
    target := "courier_outbox::todos::service"
    message := match news with
      | .created => "todo created"
      | .deleted => "todo deleted"
    fields := [Log.text "todo_id" t.id.text]
    span := none }

def notFound (id : Uuid) : StoreError := .domain ("todo not found: " ++ id.text)

end Todo

end Outbox
