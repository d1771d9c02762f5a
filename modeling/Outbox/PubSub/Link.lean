import Outbox.Log
import Outbox.PubSub.Request

/-!
# A link to the Pub/Sub service

* `Link`            the service as a relay meets it, with the requests that it received;
* `Link.answer`     a publish, and what is logged of it;
* `messageIds?`     the ids that the service gave, from the body of its answer.
-/

namespace Outbox.PubSub

/-! ## answers -/

/-- Without the field there are no ids. -/
def idsOfDoc? : Doc → Option (List String)
  | .list [] => some []
  | d => do
    match ← d.parts? ["messageIds"] with
    | [none] => some []
    | [some (.list ids)] => ids.mapM Doc.text?
    | _ => none

def messageIds? (body : String) : Option (List String) := (Doc.read? body.toList).bind idsOfDoc?

def listText (xs : List String) : String := "[" ++ String.intercalate ", " (xs.map Text.quote) ++ "]"

def target : String := "courier_relay::pubsub"

/-- A success counts even where its body cannot be read. -/
def accepted (body : Option String) : Log.Entry :=
  match body.bind messageIds? with
  | some ids =>
    ⟨.debug, target, "published to Pub/Sub", [Log.text "message_ids" (listText ids)], none⟩
  | none =>
    ⟨.debug, target, "published to Pub/Sub, response body not understood",
      [Log.text "error" "error decoding response body"], none⟩

/-! ## links -/

structure Link where
  config : Config
  peer : Peer
  /-- first one first -/
  requests : List Request
  deriving Inhabited

namespace Link

/-- how long a publish takes, unless it is broken off -/
def latency (l : Link) : Duration :=
  match l.peer with
  | .hangs => l.config.requestTimeout
  | _ => .ofNanos 0

/-- the body of an answer, if it comes whole -/
def body (l : Link) : Option String :=
  match l.peer with
  | .replies _ body => some body
  | _ => none

def answer (r : Record) (l : Link) : (Except PublishError Unit × Option Log.Entry) × Link :=
  let (result, request) := publish l.config r l.peer
  let entry :=
    match result with
    | .ok () => some (accepted l.body)
    | .error _ => none
  ((result, entry), { l with requests := l.requests ++ request.toList })

end Link

end Outbox.PubSub
