import Outbox.Scenario.World

/-!
# The steps of a scenario

* `Step`     what is done: to the outbox, the broker, the clock, todos, by a relay, or in a transaction;
* `Op`       one part of a transaction that is written out;
* `Cue`      something that happens beside a relay, some time after its start;
* `Result`   what a step comes to.
-/

namespace Outbox.Scenario

mutual

inductive Step where
  | create (d : Event.Draft)
  | fetch (limit : Nat)
  | update (id : Uuid) (status : Status) (retryCount : UInt32) (lastError : Option String)
  | delete (id : Uuid)
  | requeue (id : Uuid)
  | get (id : Uuid)
  | purge (olderThan : Timestamp)
  | listFailed (limit offset : Nat)
  | counts
  | snapshot
  | relayConfig (c : Relay.Config)
  | advance (nanos : Nat)
  | failStore (m : Method) (e : StoreError)
  | failPublish (e : PublishError) (times : Nat)
  | markMissing (topic : String)
  | publish (id : Uuid)
  | delivered
  | tick (c : Relay.Config) (cues : List Cue)
  | run (c : Relay.Config) (signal : Bool) (cues : List Cue)
  | purgeOld (c : Relay.Config)
  | execute (ops : List Op)
  | failRollback (reason : String)
  | createTodo (t : Todo)
  | deleteTodo (id : Uuid)
  | getTodo (id : Uuid)
  | todoCount

/-- With `caught` an error does not end the transaction. -/
inductive Op where
  | insertTodo (caught : Bool) (t : Todo)
  | deleteTodo (caught : Bool) (id : Uuid)
  | getTodo (caught : Bool) (id : Uuid)
  | enqueue (caught : Bool) (d : Event.Draft)
  | fail (caught : Bool) (e : StoreError)
  /-- outside the transaction; whatever comes of it, the transaction goes on -/
  | outside (s : Step)

/-- Nanoseconds after the start, and what happens then. -/
inductive Cue where
  | step (after : Nat) (s : Step)
  /-- a value is sent to the relay -/
  | send (after : Nat) (value : Bool)
  /-- nobody can send any more -/
  | drop (after : Nat)

end

instance : Inhabited Step := ⟨.counts⟩

instance : Inhabited Op := ⟨.outside .counts⟩

instance : Inhabited Cue := ⟨.drop 0⟩

def Cue.after : Cue → Nat
  | .step n _ => n
  | .send n _ => n
  | .drop n => n

inductive Result where
  | nothing
  | ok
  | failed (e : StoreError)
  | unpublished (e : PublishError)
  | enqueued (r : Enqueued)
  | records (rs : List Record)
  | record (r : Option Record)
  | number (n : Nat)
  | flag (b : Bool)
  | counts (c : Counts) (size : Nat)
  | size (n : Nat)
  | relayConfig (c : Relay.Config)
  | delivered (calls : Nat) (messages : List Message)
  | todo (t : Option Todo)
  | tick (report : Except StoreError Relay.Report) (cues : List Result)
  | run (cues : List Result)
  | transaction (ops : List Result) (outcome : Except StoreError Unit)
  deriving Inhabited

namespace Result

def ofExcept {α : Type} (f : α → Result) : Except StoreError α → Result
  | .ok a => f a
  | .error e => .failed e

def done : Except StoreError Unit → Result := ofExcept fun _ => .ok

end Result

end Outbox.Scenario
