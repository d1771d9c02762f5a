import Outbox.Backoff
import Outbox.Broker
import Outbox.Relay.Schedule
import Outbox.Transaction

/-!
# A world in memory

Everything that takes part in a scenario: a clock that moves only when it is told to, the stores, the
broker, faults that are to come, and the log.

* `World.backend`   the world as a relay sees it;
* `World.command`   a todo command, from beginning to end;
* `World.withId`    gives an event id to a command.
-/

namespace Outbox.Scenario

/-- the methods of the outbox that can be made to fail -/
inductive Method where
  | fetch
  | update
  | delete
  | purge
  deriving DecidableEq, Repr, Inhabited

structure World where
  start : Timestamp
  /-- nanoseconds since the start -/
  elapsed : Nat
  stores : Stores
  broker : Broker
  backoff : Backoff.Policy
  lease : Duration
  /-- why the next rollback fails -/
  rollbackFailure : Option String
  /-- errors to come, first one first -/
  faults : List (Method × StoreError)
  /-- event ids made so far under which something was stored -/
  made : Nat
  chance : Backoff.Chance
  /-- oldest first -/
  log : List Log.Entry
  deriving Inhabited

namespace World

def now (w : World) : Timestamp := w.start.addOrMax (.ofNanos w.elapsed)

def addLog (e : Log.Entry) (w : World) : World := { w with log := w.log ++ [e] }

def withOutbox (w : World) (s : Store) : World := { w with stores := { w.stores with outbox := s } }

/-- the next fault of a method, which is then used up -/
def takeFault (m : Method) (w : World) : Option StoreError × World :=
  match w.faults.find? (·.1 = m) with
  | none => (none, w)
  | some (_, e) => (some e, { w with faults := w.faults.eraseP (·.1 = m) })

/-- runs a method unless a fault is due -/
def method {α : Type} (m : Method) (f : World → Except StoreError α × World) (w : World) :
    Except StoreError α × World :=
  match w.takeFault m with
  | (some e, w) => (.error e, w)
  | (none, w) => f w

/-- a change of the outbox that may fail, and then changes nothing -/
def changed (w : World) : Except StoreError Store → Except StoreError Unit × World
  | .error e => (.error e, w)
  | .ok s => (.ok (), w.withOutbox s)

/-- the delay before the attempt after `n` failures -/
def delay (n : UInt32) (w : World) : Duration × World :=
  let (sway, chance) := w.chance.next
  (w.backoff.delay n sway, { w with chance })

/-! ## the outbox -/

def claim (limit : Nat) : World → Except StoreError (List Record) × World :=
  method .fetch fun w =>
    let (batch, s) := w.stores.outbox.claim w.now w.lease limit
    (.ok batch, w.withOutbox s)

def update (id : Uuid) (status : Status) (retryCount : UInt32) (lastError : Option String) :
    World → Except StoreError Unit × World :=
  method .update fun w =>
    let (delay, w) := w.delay retryCount
    w.changed (w.stores.outbox.update w.now delay id status retryCount lastError)

def delete (id : Uuid) : World → Except StoreError Unit × World :=
  method .delete fun w => w.changed (w.stores.outbox.delete id)

def purge (olderThan : Timestamp) : World → Except StoreError Nat × World :=
  method .purge fun w =>
    let (n, s) := w.stores.outbox.purge olderThan
    (.ok n, w.withOutbox s)

def write (w : World) : Write → Except StoreError Unit × World
  | .update id status retryCount lastError => w.update id status retryCount lastError
  | .delete id => w.delete id

def requeue (id : Uuid) (w : World) : Except StoreError Unit × World :=
  w.changed (w.stores.outbox.requeue w.now id)

def enqueue (d : Event.Draft) (w : World) : Except StoreError Enqueued × World :=
  match d.build w.now with
  | .error e => (.error e, w)
  | .ok e =>
    let (outcome, s) := w.stores.outbox.enqueue e
    (.ok outcome, w.withOutbox s)

/-! ## the broker -/

def call (w : World) : World := { w with broker := w.broker.call }

def answer (r : Record) (w : World) : Except PublishError Unit × World :=
  let (result, broker) := w.broker.answer r
  (result, { w with broker })

def latency (w : World) : Duration := w.broker.latency.getD (.ofNanos 0)

def backend (lease : Duration) : Relay.Backend World where
  now := World.elapsed
  wall := World.now
  lease := lease
  claim := World.claim
  write := fun wr w => w.write wr
  purge := World.purge
  call := fun _ w => w.call
  answer := World.answer
  log := World.addLog

/-! ## transactions -/

/-- A rollback, whether it fails or not, takes the failure that was set. -/
def finish {α : Type} (t : Staged) (result : Except StoreError α) (w : World) :
    Except StoreError α × World :=
  let (ended, stores) := w.stores.finish t w.rollbackFailure result
  let rollbackFailure :=
    match result with
    | .ok _ => w.rollbackFailure
    | .error _ => none
  (ended, { w with stores, rollbackFailure })

def command (news : Todo.News) (work : Timestamp → Work (Except StoreError Todo)) (w : World) :
    Except StoreError Todo × World :=
  let (result, staged) := (work w.now).run (Staged.answer w.stores) .empty
  match w.finish staged result with
  | (.error e, w) => (.error e, w)
  | (.ok t, w) => (.ok t, w.addLog (Todo.told news t))

def createTodo (eventId : Uuid) (t : Todo) : World → Except StoreError Todo × World :=
  command .created (t.creation eventId)

def deleteTodo (eventId id : Uuid) : World → Except StoreError Todo × World :=
  command .deleted (Todo.deletion id eventId)

/-! ## ids -/

/-- An id under which nothing was stored is given again. -/
def countMade (id : Uuid) (w : World) : World :=
  if (w.stores.outbox.get? id).isSome then { w with made := w.made + 1 } else w

/-- gives the next id to a command -/
def withId (f : Uuid → World → Except StoreError Todo × World) (w : World) :
    Except StoreError Todo × World :=
  let id := Uuid.numbered (w.made + 1)
  match f id w with
  | (.error e, w) => (.error e, w)
  | (.ok t, w) => (.ok t, w.countMade id)

end World

end Outbox.Scenario
