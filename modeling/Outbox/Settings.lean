import Outbox.Backoff
import Outbox.Log
import Outbox.PubSub.Config
import Outbox.Relay.Config
import Outbox.Text.Blank

/-!
# Settings of a relay service

* `Environment`           named texts; a blank one counts as missing;
* `Settings`              all that a relay service has to know;
* `Settings.ofEnvironment`   reads them, in a fixed order, up to the first `Fault`;
* `Fault.message`         what is wrong.

Numbers may have blanks around them.  The claim lease has to be longer than the time limit of a publish,
so that at least one publish fits into it.
-/

namespace Outbox

abbrev Environment : Type := String → Option String

structure Settings where
  databaseUrl : String
  databaseMaxConnections : Nat
  runMigrations : Bool
  claimLease : Duration
  relay : Relay.Config
  backoff : Backoff.Policy
  pubsub : PubSub.Config
  logFormat : Log.Format
  deriving Inhabited

namespace Settings

inductive Fault where
  | missing (name : String)
  | invalid (name raw reason : String)
  | leaseTooShort (lease timeout : Duration)
  | jitterOutOfRange (jitter : Float)

/-- Doubles are written without an exponent, whole ones without a point; ties go away from zero. -/
def jitterLayout : Decimal.Layout := ⟨none, false, .up⟩

def jitterText (x : Float) : String :=
  match jitterLayout.write x with
  | some cs => String.ofList cs
  | none => if x.isNaN then "NaN" else if 0.0 < x then "inf" else "-inf"

def Fault.message : Fault → String
  | .missing name => name ++ " is required"
  | .invalid name raw reason =>
    "invalid value for " ++ name ++ " (" ++ Text.quote raw ++ "): " ++ reason
  | .leaseTooShort lease timeout =>
    "OUTBOX_CLAIM_LEASE_MS (" ++ Decimal.text lease.millis ++
      "ms) must be longer than OUTBOX_PUBLISH_TIMEOUT_MS (" ++ Decimal.text timeout.millis ++ "ms)"
  | .jitterOutOfRange jitter =>
    "OUTBOX_BACKOFF_JITTER must be between 0 and 1, got " ++ jitterText jitter

/-! ## single values -/

/-- how a kind of value is read from a text without blanks around it -/
abbrev Reader (α : Type) : Type := List Char → Except String α

def readNatural (max : Nat) : Reader Nat := fun cs =>
  (Decimal.readBounded max cs).mapError Decimal.Fault.message

def readReal : Reader Float := fun cs =>
  match Decimal.readFloat? cs with
  | some x => .ok x
  | none => .error "invalid float literal"

def readFlag : Reader Bool := fun cs =>
  if cs = ['t', 'r', 'u', 'e'] then .ok true
  else if cs = ['f', 'a', 'l', 's', 'e'] then .ok false
  else .error "provided string was not `true` or `false`"

def readCompletion : Reader Completion := fun cs => Completion.parse (String.ofList cs)

def readMillis : Reader Duration := fun cs =>
  (readNatural 0xffffffffffffffff cs).map fun n => Duration.ofMillis n.toUInt64

/-- `factor` seconds for each unit, as far as 64 bits hold them -/
def readSecs (factor : Nat) : Reader Duration := fun cs =>
  (readNatural 0xffffffffffffffff cs).map fun n => Duration.ofSecs (min (n * factor) 0xffffffffffffffff).toUInt64

/-- Blank values count as missing. -/
def value? (env : Environment) (name : String) : Option String :=
  (env name).filter fun v => !Text.isBlankText v.toList

def required (env : Environment) (name : String) : Except Fault String :=
  match value? env name with
  | none => .error (.missing name)
  | some v => .ok v

def parse {α : Type} (read : Reader α) (name raw : String) : Except Fault α :=
  match read (Text.trim raw.toList) with
  | .ok a => .ok a
  | .error reason => .error (.invalid name raw reason)

def optional {α : Type} (env : Environment) (read : Reader α) (name : String) :
    Except Fault (Option α) :=
  match value? env name with
  | none => .ok none
  | some raw => (parse read name raw).map some

def get {α : Type} (env : Environment) (read : Reader α) (name : String) (default : α) :
    Except Fault α :=
  (optional env read name).map fun v => v.getD default

/-! ## parts of the settings -/

def relayOf (env : Environment) : Except Fault Relay.Config := do
  let pollInterval ← get env readMillis "OUTBOX_POLL_INTERVAL_MS" (.ofMillis 1000)
  let batchSize ← get env (readNatural 0xffffffffffffffff) "OUTBOX_BATCH_SIZE" 50
  let maxConcurrency ← get env (readNatural 0xffffffffffffffff) "OUTBOX_MAX_CONCURRENCY" 1
  let publishTimeout ← get env readMillis "OUTBOX_PUBLISH_TIMEOUT_MS" (.ofMillis 10000)
  let completion ← get env readCompletion "OUTBOX_COMPLETION_POLICY" .retain
  let purgeInterval ← get env (readSecs 1) "OUTBOX_PURGE_INTERVAL_SECS" (.ofSecs 3600)
  let retention ← optional env (readSecs 3600) "OUTBOX_RETENTION_HOURS"
  let config : Relay.Config :=
    { pollInterval, batchSize := 1, maxConcurrency := 1, publishTimeout, completion, retention,
      purgeInterval }
  .ok ((config.withBatchSize batchSize).withMaxConcurrency maxConcurrency)

def leaseOf (env : Environment) (timeout : Duration) : Except Fault Duration := do
  let lease ← get env readMillis "OUTBOX_CLAIM_LEASE_MS" (.ofMillis 60000)
  if lease ≤ timeout then .error (.leaseTooShort lease timeout) else .ok lease

def jitterOf (env : Environment) : Except Fault Float := do
  let jitter ← get env readReal "OUTBOX_BACKOFF_JITTER" 0.1
  if 0.0 ≤ jitter && jitter ≤ 1.0 then .ok jitter else .error (.jitterOutOfRange jitter)

def backoffOf (env : Environment) : Except Fault Backoff.Policy := do
  let jitter ← jitterOf env
  let initialInterval ← get env readMillis "OUTBOX_BACKOFF_INITIAL_MS" (.ofMillis 1000)
  let maxInterval ← get env readMillis "OUTBOX_BACKOFF_MAX_MS" (.ofMillis 300000)
  let multiplier ← get env readReal "OUTBOX_BACKOFF_MULTIPLIER" 2.0
  let policy := { Backoff.Policy.exponential with initialInterval, maxInterval }
  .ok ((policy.withMultiplier multiplier).withJitter jitter)

/-- An emulator gets no token, whatever is set. -/
def pubsubOf (env : Environment) (projectId : String) (timeout : Duration) : PubSub.Config :=
  match value? env "PUBSUB_EMULATOR_HOST" with
  | some host => { PubSub.Config.emulator projectId host with requestTimeout := timeout }
  | none =>
    { projectId, requestTimeout := timeout
      endpoint := (value? env "PUBSUB_ENDPOINT").getD PubSub.Config.standardEndpoint
      accessToken := value? env "PUBSUB_ACCESS_TOKEN" }

/-- The first fault in the order of reading is the one that counts. -/
def ofEnvironment (env : Environment) : Except Fault Settings := do
  let databaseUrl ← required env "DATABASE_URL"
  let projectId ← required env "PUBSUB_PROJECT_ID"
  let relay ← relayOf env
  let claimLease ← leaseOf env relay.publishTimeout
  let backoff ← backoffOf env
  let databaseMaxConnections ←
    get env (readNatural 0xffffffff) "DATABASE_MAX_CONNECTIONS" 10
  let runMigrations ← get env readFlag "OUTBOX_RUN_MIGRATIONS" true
  .ok
    { databaseUrl, databaseMaxConnections, runMigrations, claimLease, relay, backoff
      pubsub := pubsubOf env projectId relay.publishTimeout
      logFormat := .ofSetting (value? env "LOG_FORMAT") }

end Settings

end Outbox
