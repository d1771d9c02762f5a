import Outbox.Sql.Records
import Outbox.Transaction

/-!
# Work in a database transaction

* `ofCall`       the statement behind each call of a piece of `Work`;
* `enclosed`     a transaction around a session: a commit after a success, a rollback after an error;
* `execute`      a piece of work in a transaction;
* `command`      a todo command, logged when it is done.
-/

namespace Outbox.Sql

/-! ## todos -/

def todosTarget : String := "courier_outbox::todos::postgres"

def todoColumns : List (String × ColumnType) :=
  [("id", .uuid), ("title", .text), ("completed", .bool), ("created_at", .timestamptz)]

def todoOfRow (r : Row) : Except StoreError Todo := do
  let id ← r.required Value.uuid? "id"
  let title ← r.required Value.text? "title"
  let completed ← r.required Value.flag? "completed"
  let createdAt ← r.required Value.time? "created_at"
  .ok { id, title, completed, createdAt }

def insertTodo (t : Todo) : Statement where
  text :=
    r"INSERT INTO todos (id, title, completed, created_at)
    VALUES ($1, $2, $3, $4)
    ON CONFLICT (id) DO NOTHING"
  params := [.uuid t.id, .text t.title, .flag t.completed, ofTime t.createdAt]
  columns := []

def deleteTodo (id : Uuid) : Statement :=
  ⟨"DELETE FROM todos WHERE id = $1 RETURNING id, title, completed, created_at", [.uuid id],
    todoColumns⟩

def getTodo (id : Uuid) : Statement :=
  ⟨"SELECT id, title, completed, created_at FROM todos WHERE id = $1", [.uuid id], todoColumns⟩

def insertedEntry (new : Bool) : Log.Entry :=
  ⟨.debug, todosTarget, "insert todo", [("inserted", .bool new)], none⟩

/-! ## calls -/

def ofCall : (c : Call) → Session c.Answer
  | .enqueue e => Records.enqueue true e
  | .insertTodo t =>
    (attempt todosTarget "insert todo" true (insertTodo t)).follow fun r =>
      .ask (.log (insertedEntry (r.affected = 1))) fun _ =>
        (.done (.ok (decide (r.affected = 1))) : Session (Except StoreError Bool))
  | .deleteTodo id =>
    (attempt todosTarget "delete todo" true (deleteTodo id)).follow fun r =>
      (.done (match r.rows with
        | [] => .error (Todo.notFound id)
        | row :: _ => todoOfRow row) : Session (Except StoreError Todo))
  | .getTodo id =>
    (attempt todosTarget "get todo" true (getTodo id)).follow fun r =>
      (.done (match r.rows with
        | [] => .ok none
        | row :: _ => (todoOfRow row).map some) : Session (Except StoreError (Option Todo)))

/-! ## transactions -/

def transactionTarget : String := "courier_outbox::uow::postgres"

/-- an entry of level error without fields -/
def failure (what reason : String) : Log.Entry :=
  ⟨.error, transactionTarget, "Failed to " ++ what ++ " transaction: " ++ reason, [], none⟩

def rollbackFailure (e : StoreError) (reason : String) : Log.Entry :=
  ⟨.error, transactionTarget, "rollback failed", [Log.error e, Log.text "rollback_error" reason],
    none⟩

def rolledBack (e : StoreError) : Log.Entry :=
  ⟨.debug, transactionTarget, "unit of work rolled back", [Log.error e], none⟩

variable {α β : Type}

/-- the end of a transaction whose work came to `a` or failed -/
def finish : Except StoreError α → Session (Except StoreError α)
  | .ok a =>
    .ask .commit fun
      | .ok () => .done (.ok a)
      | .error reason =>
        .ask (.log (failure "commit" reason)) fun _ => .done (.error (.database reason))
  | .error e =>
    .ask .rollback fun
      | .ok () => .ask (.log (rolledBack e)) fun _ => .done (.error e)
      | .error reason =>
        .ask (.log (rollbackFailure e reason)) fun _ => .done (.error (.rollbackFailed e reason))

/-- `verdict` says what the work came to; what it ended with is returned too, if it ran at all. -/
def enclosed (verdict : β → Except StoreError α) (work : Session β) :
    Session (Option β × Except StoreError α) :=
  .ask .begin fun
    | .error reason =>
      .ask (.log (failure "begin" reason)) fun _ => .done (none, .error (.database reason))
    | .ok () =>
      work.bind fun b => (finish (verdict b)).bind fun outcome => .done (some b, outcome)

def execute (work : Work (Except StoreError α)) : Session (Except StoreError α) :=
  (enclosed id (work.mapAsk ofCall)).bind fun (_, outcome) => .done outcome

def command (news : Todo.News) (work : Work (Except StoreError Todo)) :
    Session (Except StoreError Todo) :=
  (execute work).follow fun t => .ask (.log (Todo.told news t)) fun _ => .done (.ok t)

end Outbox.Sql
