import Outbox.Backoff
import Outbox.Broker
import Outbox.Relay.Schedule
import Outbox.Sql.Peer

/-!
# A relay on a database

* `Publisher`        how publishes go;
* `Client`           a peer and the state of a publisher, with the settings of the outbox;
* `Client.backend`   the client as a relay sees it;
* `Client.tick`      one tick; publishes take no time;
* `Client.command`   a todo command, `withId` gives it an event id.
-/

namespace Outbox.Sql

/-- what publishes do to a state `β` -/
structure Publisher (β : Type) where
  call : β → β
  /-- the end of a publish, and what is logged of it -/
  answer : Record → β → (Except PublishError Unit × Option Log.Entry) × β

def Publisher.ofBroker : Publisher Broker where
  call := Broker.call
  answer := fun r b =>
    let (result, b) := b.answer r
    ((result, none), b)

structure Client (β : Type) where
  peer : Peer
  publishing : β
  start : Timestamp
  /-- nanoseconds since the start -/
  elapsed : Nat
  lease : Duration
  backoff : Backoff.Policy
  chance : Backoff.Chance
  /-- event ids made so far that were sent -/
  made : Nat
  deriving Inhabited

namespace Client

variable {α β : Type}

def wall (c : Client β) : Timestamp := c.start.addOrMax (.ofNanos c.elapsed)

def ask (s : Session α) (c : Client β) : α × Client β :=
  let (a, peer) := c.peer.run s
  (a, { c with peer })

def addLog (e : Log.Entry) (c : Client β) : Client β :=
  { c with peer := { c.peer with log := c.peer.log ++ [e] } }

/-- the delay before the attempt after `n` failures -/
def delay (n : UInt32) (c : Client β) : Duration × Client β :=
  let (sway, chance) := c.chance.next
  (c.backoff.delay n sway, { c with chance })

def write (w : Write) (c : Client β) : Except StoreError Unit × Client β :=
  match w with
  | .delete id => c.ask (Records.delete id)
  | .update id status retryCount lastError =>
    let (delay, c) := c.delay retryCount
    c.ask (Records.update delay id status retryCount lastError)

/-! ## relays -/

/-- what is logged meanwhile is part of a tick -/
def inTick (f : Client β → α × Client β) (c : Client β) : α × Client β :=
  let (a, c') := f { c with peer := { c.peer with log := [] } }
  (a, { c' with peer := { c'.peer with log := c.peer.log ++ c'.peer.log.map Relay.inTick } })

def answer (p : Publisher β) (r : Record) (c : Client β) : Except PublishError Unit × Client β :=
  let ((result, e), publishing) := p.answer r c.publishing
  let c := { c with publishing }
  match e with
  | none => (result, c)
  | some e => (result, c.addLog (Relay.inTick e))

def backend (p : Publisher β) (lease : Duration) : Relay.Backend (Client β) where
  now := Client.elapsed
  wall := Client.wall
  lease := lease
  claim := fun limit => inTick (ask (Records.claim lease limit))
  write := fun w => inTick (write w)
  purge := fun olderThan c => c.ask (Records.purge olderThan)
  call := fun _ c => { c with publishing := p.call c.publishing }
  answer := answer p
  log := addLog

def tick (p : Publisher β) (config : Relay.Config) (c : Client β) :
    Except StoreError Relay.Report × Client β :=
  Relay.Batch.tickAtOnce (backend p c.lease) config c

/-! ## todo commands -/

def command (news : Todo.News) (work : Timestamp → Work (Except StoreError Todo)) (c : Client β) :
    Except StoreError Todo × Client β :=
  c.ask (Sql.command news (work c.wall))

def createTodo (eventId : Uuid) (t : Todo) : Client β → Except StoreError Todo × Client β :=
  command .created (t.creation eventId)

def deleteTodo (eventId id : Uuid) : Client β → Except StoreError Todo × Client β :=
  command .deleted (Todo.deletion id eventId)

def isSent (id : Uuid) (p : Peer) : Bool :=
  p.sent.any fun (_, params) => params.any fun v => v.uuid? = some id

/-- gives the next id to a command; an id that was never sent is given again -/
def withId (f : Uuid → Client β → Except StoreError Todo × Client β) (c : Client β) :
    Except StoreError Todo × Client β :=
  let id := Uuid.numbered (c.made + 1)
  let (r, c) := f id c
  (r, if isSent id c.peer then { c with made := c.made + 1 } else c)

end Client

end Outbox.Sql
