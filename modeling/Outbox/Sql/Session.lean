import Outbox.Log
import Outbox.Program
import Outbox.Sql.Statement

/-!
# Sessions with a server

A `Session` is a program that sends statements, one after another, and reads a reply to each.

* `Ask`             a statement, a word on a transaction, or an entry for the log;
* `Session.follow`  goes on after a success;
* `attempt`         sends a statement; a failure is logged and becomes a `StoreError`.
-/

namespace Outbox.Sql

structure Reply where
  affected : Nat
  rows : List Row
  deriving Inhabited

inductive Ask where
  | begin
  | commit
  | rollback
  /-- within the open transaction, or on a connection of its own -/
  | statement (within : Bool) (s : Statement)
  | log (e : Log.Entry)

/-- Failures come as a text. -/
def Ask.Answer : Ask → Type
  | .statement _ _ => Except String Reply
  | .log _ => Unit
  | _ => Except String Unit

abbrev Session (α : Type) : Type := Program Ask Ask.Answer α

namespace Session

variable {α β : Type}

def log (e : Log.Entry) : Session Unit := .ask (.log e) .done

def fail (e : StoreError) : Session (Except StoreError α) := .done (.error e)

def follow (p : Session (Except StoreError α)) (f : α → Session (Except StoreError β)) :
    Session (Except StoreError β) :=
  p.bind fun
    | .error e => .done (.error e)
    | .ok a => f a

end Session

/-- `what` completes the words "Failed to". -/
def attempt (target what : String) (within : Bool) (s : Statement) :
    Session (Except StoreError Reply) :=
  .ask (.statement within s) fun
    | .ok r => .done (.ok r)
    | .error reason =>
      .ask (.log ⟨.error, target, "Failed to " ++ what ++ ": " ++ reason, [], none⟩) fun _ =>
        .done (.error (.database reason))

end Outbox.Sql
