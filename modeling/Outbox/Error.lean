import Outbox.Uuid
import Outbox.Time.Duration

/-!
# What can go wrong

* `StoreError`      failures of stores and units of work, with their `message`; a failed rollback
                    keeps the error that caused it (`root`, `causes`);
* `PublishError`    failures of a publish, with their `message`;
* `CountError`      failures of sums in 32 bits, with their `message`.
-/

namespace Outbox

inductive StoreError where
  | notFound (id : Uuid)
  | database (reason : String)
  | serialization (reason : String)
  | domain (reason : String)
  | conflict (reason : String)
  | invalidStatus (status : String)
  /-- the error that led to a rollback, and why the rollback failed -/
  | rollbackFailed (cause : StoreError) (rollback : String)
  deriving DecidableEq, Repr, Inhabited

namespace StoreError

def message : StoreError → String
  | .notFound id => "outbox record not found: " ++ id.text
  | .database reason => "database error: " ++ reason
  | .serialization reason => "serialization error: " ++ reason
  | .domain reason => "domain error: " ++ reason
  | .conflict reason => "conflict: " ++ reason
  | .invalidStatus status => "invalid outbox status: " ++ status
  | .rollbackFailed cause rollback => cause.message ++ "; rollback also failed: " ++ rollback

/-- the error that led to all the rollbacks -/
def root : StoreError → StoreError
  | .rollbackFailed cause _ => cause.root
  | e => e

/-- the messages of the errors inside, outermost first -/
def causes : StoreError → List String
  | .rollbackFailed cause _ => cause.message :: cause.causes
  | _ => []

end StoreError

inductive PublishError where
  | topicNotFound (topic : String)
  | unavailable (reason : String)
  | timedOut (limit : Duration)
  | rejected (status : Nat) (body : String)
  | transport (reason : String)
  | encoding (reason : String)
  deriving DecidableEq, Repr, Inhabited

def PublishError.message : PublishError → String
  | .topicNotFound topic => "topic not found: " ++ topic
  | .unavailable reason => "broker unavailable: " ++ reason
  | .timedOut limit => "publish timed out after " ++ limit.text
  | .rejected status body =>
    "broker rejected message (status " ++ Decimal.text status ++ "): " ++ body
  | .transport reason => "transport error: " ++ reason
  | .encoding reason => "message encoding error: " ++ reason

inductive CountError where
  /-- the sum does not fit into 32 bits -/
  | overflow
  deriving DecidableEq, Repr, Inhabited

def CountError.message : CountError → String
  | .overflow => "attempt to add with overflow"

end Outbox
