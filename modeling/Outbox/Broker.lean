import Outbox.Message
import Outbox.Error

/-!
# A broker in memory

A publish is called, takes the broker's latency, and then ends with an answer.

* `Broker.call`      counts the call;
* `Broker.answer`    a missing topic, the next scripted failure, or the message is delivered.
-/

namespace Outbox

structure Broker where
  latency : Option Duration
  /-- answers to come, first one first -/
  failures : List PublishError
  missing : List String
  calls : Nat
  /-- oldest first -/
  delivered : List Message
  deriving Inhabited

namespace Broker

def empty (latency : Option Duration) : Broker := ⟨latency, [], [], 0, []⟩

def fail (e : PublishError) (times : Nat) (b : Broker) : Broker :=
  { b with failures := b.failures ++ List.replicate times e }

def markMissing (topic : String) (b : Broker) : Broker := { b with missing := topic :: b.missing }

def call (b : Broker) : Broker := { b with calls := b.calls + 1 }

def answer (r : Record) (b : Broker) : Except PublishError Unit × Broker :=
  if b.missing.contains r.topic then (.error (.topicNotFound r.topic), b)
  else
    match b.failures with
    | e :: rest => (.error e, { b with failures := rest })
    | [] => (.ok (), { b with delivered := b.delivered ++ [r.message] })

end Broker

end Outbox
