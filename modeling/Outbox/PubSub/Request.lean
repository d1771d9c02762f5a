import Outbox.Message
import Outbox.PubSub.Url
import Outbox.Text.Base64

/-!
# Publishing to the Pub/Sub service

* `body`       the JSON of a request: one message, its data in base64;
* `classify`   the failure that a status other than a success stands for;
* `request?`   what is sent for a record, if its address and token can be sent at all;
* `publish`    how a publish ends, given what the other side does.
-/

namespace Outbox.PubSub

def body (m : Message) : Json :=
  .object
    [("messages", .list
      [.object
        [("data", .text (String.ofList (Text.Base64.encode m.bytes))),
         ("attributes", .object (m.attributes.map fun (k, v) => (k, .text v)))]])]

/-- A missing topic, a service that may be back later, or a message that it does not want. -/
def classify (status : Nat) (topic body : String) : PublishError :=
  if status = 404 then .topicNotFound topic
  else if status = 429 || (500 ≤ status && status ≤ 599) then
    .unavailable ("status " ++ Decimal.text status ++ ": " ++ body)
  else .rejected status body

structure Request where
  method : String
  authority : String
  /-- path and query as they are sent -/
  target : String
  authorization : Option String
  contentType : String
  body : String
  deriving DecidableEq, Repr

/-- A header holds no control characters but the tab. -/
def isHeaderText (s : String) : Bool := s.toList.all fun c => c = '\t' || (' ' ≤ c && c ≠ '\x7f')

def authorization (c : Config) : Option String :=
  c.accessToken.map fun token =>
    String.ofList (Text.trim ("Bearer " ++ token).toList)

def request? (c : Config) (r : Record) : Option Request :=
  let m := r.message
  match Url.read? (c.publishUrl m.topic) with
  | none => none
  | some url =>
    if c.accessToken.all isHeaderText then
      some
        { method := "POST", authority := url.authority, target := url.target
          authorization := authorization c, contentType := "application/json"
          body := (body m).compact }
    else none

/-- what the other side does -/
inductive Peer where
  | replies (status : Nat) (body : String)
  /-- the answer breaks off within its body -/
  | breaksOff (status : Nat)
  | closes
  | hangs
  /-- no connection can be made -/
  | unreachable
  deriving DecidableEq, Repr, Inhabited

def isSuccess (status : Nat) : Bool := 200 ≤ status && status ≤ 299

def outcome (status : Nat) (topic body : String) : Except PublishError Unit :=
  if isSuccess status then .ok () else .error (classify status topic body)

def unsendable : PublishError := .transport "builder error"

def broken : PublishError := .transport "error sending request"

/-- the result, and the request if one was sent -/
def publish (c : Config) (r : Record) (peer : Peer) : Except PublishError Unit × Option Request :=
  match request? c r with
  | none => (.error unsendable, none)
  | some request =>
    match peer with
    | .replies status body => (outcome status r.topic body, some request)
    | .breaksOff status => (outcome status r.topic "", some request)
    | .closes => (.error broken, some request)
    | .hangs => (.error (.timedOut c.requestTimeout), some request)
    | .unreachable => (.error broken, none)

end Outbox.PubSub
