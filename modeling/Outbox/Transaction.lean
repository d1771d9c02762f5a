import Outbox.Program
import Outbox.Store
import Outbox.Todos

/-!
# Transactions

Work on todos and their events is a `Program` of calls, so that one piece of work runs against any kind
of store.

* `Call`, `Call.Answer`     what work can ask for;
* `Work`                    a program of calls; `Todo.creation` and `Todo.deletion` are the two commands;
* `Stores`                  the outbox and the todos, which are changed together;
* `Staged`                  what a transaction has done so far and nobody else sees;
* `Staged.answer`           one call of a transaction;
* `Staged.commit`           everything at once, or nothing and a conflict when another transaction took a
                            dedupe key meanwhile;
* `Stores.execute`          a piece of work from beginning to end.
-/

namespace Outbox

inductive Call where
  | enqueue (e : Event)
  | insertTodo (t : Todo)
  | deleteTodo (id : Uuid)
  | getTodo (id : Uuid)

/-- Inserting a todo answers whether it is new. -/
def Call.Answer : Call → Type
  | .enqueue _ => Except StoreError Enqueued
  | .insertTodo _ => Except StoreError Bool
  | .deleteTodo _ => Except StoreError Todo
  | .getTodo _ => Except StoreError (Option Todo)

abbrev Work (α : Type) : Type := Program Call Call.Answer α

/-! ## commands -/

namespace Todo

/-- tells of a todo once its own change is made -/
def telling (news : News) (eventId : Uuid) (now : Timestamp) (t : Todo) :
    Work (Except StoreError Todo) :=
  .ask (.enqueue (t.event news eventId now)) fun
    | .error e => .done (.error e)
    | .ok _ => .done (.ok t)

/-- A todo that is stored already is told of again; its dedupe key makes that a duplicate. -/
def creation (t : Todo) (eventId : Uuid) (now : Timestamp) : Work (Except StoreError Todo) :=
  .ask (.insertTodo t) fun
    | .error e => .done (.error e)
    | .ok _ => t.telling .created eventId now

def deletion (id : Uuid) (eventId : Uuid) (now : Timestamp) : Work (Except StoreError Todo) :=
  .ask (.deleteTodo id) fun
    | .error e => .done (.error e)
    | .ok t => t.telling .deleted eventId now

end Todo

/-! ## transactions in memory -/

structure Stores where
  outbox : Store
  todos : Todos
  deriving Inhabited

/-- in the order in which things were done -/
structure Staged where
  events : List Event
  changes : List Todos.Change
  deriving Inhabited

namespace Staged

def empty : Staged := ⟨[], []⟩

/-- whether an event of the transaction itself has the key -/
def keyTaken (t : Staged) : Option String → Bool
  | none => false
  | some key => t.events.any (·.dedupeKey = some key)

def enqueue (s : Stores) (t : Staged) (e : Event) : Enqueued × Staged :=
  if t.keyTaken e.dedupeKey || s.outbox.keyTaken e.dedupeKey then (.duplicate, t)
  else (.inserted e.id, { t with events := t.events ++ [e] })

/-- what the transaction finds under an id -/
def todo? (s : Stores) (t : Staged) (id : Uuid) : Option Todo := s.todos.seenAfter t.changes id

def insertTodo (s : Stores) (t : Staged) (todo : Todo) : Bool × Staged :=
  if (t.todo? s todo.id).isSome then (false, t)
  else (true, { t with changes := t.changes ++ [.insert todo] })

def deleteTodo (s : Stores) (t : Staged) (id : Uuid) : Except StoreError Todo × Staged :=
  match t.todo? s id with
  | none => (.error (Todo.notFound id), t)
  | some todo => (.ok todo, { t with changes := t.changes ++ [.remove id] })

/-- The stores are only looked at. -/
def answer (s : Stores) : (c : Call) → Staged → c.Answer × Staged
  | .enqueue e, t => ((.ok (t.enqueue s e).1 : Except StoreError Enqueued), (t.enqueue s e).2)
  | .insertTodo todo, t => ((.ok (t.insertTodo s todo).1 : Except StoreError Bool), (t.insertTodo s todo).2)
  | .deleteTodo id, t => t.deleteTodo s id
  | .getTodo id, t => ((.ok (t.todo? s id) : Except StoreError (Option Todo)), t)

/-- the first staged key that is taken by now -/
def conflict? (s : Stores) (t : Staged) : Option String :=
  (t.events.filterMap Event.dedupeKey).find? s.outbox.hasKey

def conflict (key : String) : StoreError :=
  .conflict ("dedupe key committed by a concurrent transaction: " ++ key)

def commit (s : Stores) (t : Staged) : Except StoreError Stores :=
  match t.conflict? s with
  | some key => .error (conflict key)
  | none =>
    .ok
      { outbox := t.events.foldl (fun o e => o.put e.record) s.outbox
        todos := t.changes.foldl Todos.apply s.todos }

end Staged

/-- the error that a transaction ends with, when its rollback fails for a reason or does not fail -/
def StoreError.afterRollback (e : StoreError) : Option String → StoreError
  | none => e
  | some reason => .rollbackFailed e reason

namespace Stores

/-- `rollback` is why a rollback would fail. -/
def finish {α : Type} (s : Stores) (t : Staged) (rollback : Option String) :
    Except StoreError α → Except StoreError α × Stores
  | .error e => (.error (e.afterRollback rollback), s)
  | .ok a =>
    match t.commit s with
    | .error e => (.error e, s)
    | .ok s' => (.ok a, s')

def execute {α : Type} (work : Work (Except StoreError α)) (rollback : Option String) (s : Stores) :
    Except StoreError α × Stores :=
  let ended := work.run (Staged.answer s) .empty
  s.finish ended.2 rollback ended.1

end Stores

end Outbox
