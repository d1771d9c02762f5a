import Outbox.Sql.Transaction

/-!
# A server that plays a script

A `Peer` knows no SQL: it notes what is sent to it and replies from a list.

* `Network`        whether the peer can be reached at all;
* `Scripted`       one reply of the script;
* `Peer.answer`    what it answers to one `Ask`;
* `Peer.run`       a whole session.

A connection that went away in a transaction stays away until the transaction is over.
-/

namespace Outbox.Sql

inductive Network where
  | connected
  /-- every connection is refused with a message -/
  | refusing (message : String)
  /-- nothing can be reached -/
  | unreachable
  deriving DecidableEq, Repr, Inhabited

inductive Scripted where
  | done (affected : Nat)
  /-- rows by column; `columns` is their shape where it is not that of the statement -/
  | rows (rows : List (List (String × Json))) (columns : Option (List (String × ColumnType)))
  | failed (message : String)
  | closed
  deriving Inhabited

/-- messages with which words on transactions fail -/
structure TransactionFaults where
  begin : Option String
  commit : Option String
  rollback : Option String
  deriving Inhabited

structure Peer where
  network : Network
  replies : List Scripted
  faults : TransactionFaults
  /-- the connection of the open transaction is gone -/
  gone : Bool
  /-- statements with their parameters, first one first -/
  sent : List (String × List Value)
  log : List Log.Entry
  deriving Inhabited

/-! ## error texts -/

def returned (message : String) : String := "error returned from database: " ++ message

def communication (reason : String) : String := "error communicating with database: " ++ reason

def unreachable : String := communication "Network is unreachable (os error 101)"

def endOfInput : String := communication "expected to read 5 bytes, got 0 bytes at EOF"

/-! ## rows -/

/-- A JSON column holds JSON's own `null`, any other one becomes null by it. -/
def ColumnType.read : ColumnType → Json → Value
  | .jsonb, v => .json v
  | _, .null => .null
  | .uuid, .text s => ofOption .uuid (Uuid.read? s)
  | .timestamptz, .text s => ofOption .time (Timestamp.read? s)
  | .text, .text s => .text s
  | .int4, .int i => .int i
  | .int8, .int i => .int i
  | .bool, .bool b => .flag b
  | _, _ => .null

def scriptedRow (columns : List (String × ColumnType)) (fields : List (String × Json)) : Row :=
  columns.map fun (name, type) =>
    match fields.find? (·.1 = name) with
    | none => (name, .null)
    | some (_, v) => (name, type.read v)

def Scripted.reply (s : Statement) : Scripted → Except String Reply
  | .done n => .ok ⟨n, []⟩
  | .rows rs columns =>
    .ok ⟨rs.length,
      if s.columns.isEmpty then [] else rs.map (scriptedRow (columns.getD s.columns))⟩
  | .failed message => .error (returned message)
  | .closed => .error endOfInput

/-! ## answers -/

namespace Peer

def note (text : String) (params : List Value) (p : Peer) : Peer :=
  { p with sent := p.sent ++ [(text, params)] }

/-- what stands in the way of a new connection -/
def obstacle (p : Peer) : Option String :=
  match p.network with
  | .connected => none
  | .refusing message => some (returned message)
  | .unreachable => some unreachable

/-- Replies that have run out are empty. -/
def reply (s : Statement) (p : Peer) : Except String Reply × Peer :=
  let p := p.note s.text s.params
  match p.replies with
  | [] => (.ok ⟨0, []⟩, p)
  | r :: rest =>
    let gone := match r with
      | .closed => true
      | _ => p.gone
    (r.reply s, { p with replies := rest, gone })

/-- the end of a transaction; after a failure it is rolled back once more -/
def close (word : String) (fault : Option String) (p : Peer) : Except String Unit × Peer :=
  if p.gone then (.error endOfInput, { p with gone := false })
  else
    match fault with
    | none => (.ok (), p.note word [])
    | some message => (.error (returned message), (p.note word []).note "ROLLBACK" [])

def open_ (p : Peer) : Except String Unit × Peer :=
  match p.obstacle with
  | some reason => (.error reason, p)
  | none =>
    match p.faults.begin with
    | none => (.ok (), { p.note "BEGIN" [] with gone := false })
    | some message => (.error (returned message), p.note "BEGIN" [])

def statement (within : Bool) (s : Statement) (p : Peer) : Except String Reply × Peer :=
  if within then if p.gone then (.error endOfInput, p) else p.reply s
  else
    match p.obstacle with
    | some reason => (.error reason, p)
    | none =>
      let (r, p) := p.reply s
      (r, { p with gone := false })

def answer : (a : Ask) → Peer → a.Answer × Peer
  | .begin, p => p.open_
  | .commit, p => p.close "COMMIT" p.faults.commit
  | .rollback, p => p.close "ROLLBACK" p.faults.rollback
  | .statement within s, p => p.statement within s
  | .log e, p => ((), { p with log := p.log ++ [e] })

def run {α : Type} (s : Session α) (p : Peer) : α × Peer := Program.run answer s p

end Peer

end Outbox.Sql
