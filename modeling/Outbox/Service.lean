import Outbox.Dotenv
import Outbox.Log.Filter
import Outbox.PubSub.Link
import Outbox.Sql.Client
import Outbox.Sql.Migrations

/-!
# The relay as a service

A service reads its settings, connects to the database, brings its tables up to date and then lets a
relay run until it is told to stop.

* `Surroundings`       the environment, a file of variables, and whom the service can reach;
* `Service.begin`      everything up to the first round of the relay;
* `Service.step?`      what happens next;
* `Service.run`        a service from its start to its `Ending`.

What would be logged before the settings are read goes nowhere.
-/

namespace Outbox

structure Surroundings where
  environment : Environment
  /-- a file of variables -/
  file : Option String
  database : Sql.Peer
  pubsub : PubSub.Peer
  start : Timestamp
  /-- The service is told to stop as soon as so many statements were sent. -/
  stopAfter : Option Nat

/-- The environment has the last word over the file. -/
def Surroundings.variables (s : Surroundings) : Environment :=
  match s.file with
  | none => s.environment
  | some file => Dotenv.extend s.environment (Dotenv.load s.environment file)

/-- A service whose relay is at work. -/
structure Service where
  settings : Settings
  client : Sql.Client PubSub.Link
  loop : Relay.Loop
  signal : Relay.Signal

namespace Service

/-! ## endings -/

/-- why a service does not get to work -/
inductive Failure where
  | settings (fault : Settings.Fault)
  | connection (reason : String)
  | migrations (reason : String)

structure Ending where
  failure : Option Failure
  /-- what is shown of the log -/
  log : List Log.Entry
  statements : List (String × List Sql.Value)
  requests : List PubSub.Request

/-- the lines that say something, without blanks at their ends -/
def spokenLines (s : String) : List String :=
  ((Dotenv.physicalLines s.toList).map fun l => String.ofList (Text.trim l)).filter
    fun l => !l.isEmpty

def Failure.what : Failure → String
  | .settings _ => "Failed to load relay configuration"
  | .connection _ => "Failed to connect to database"
  | .migrations _ => "Failed to run database migrations"

def Failure.cause : Failure → String
  | .settings fault => fault.message
  | .connection reason => reason
  | .migrations reason => reason

/-- the lines of an error, its cause last -/
def Failure.lines (f : Failure) : List String :=
  ("Error: " ++ f.what) :: "Caused by:" :: spokenLines f.cause

def Ending.code (e : Ending) : Nat := if e.failure.isSome then 1 else 0

/-! ## starting -/

def target : String := "courier_relay"

def entry (message : String) (fields : List (String × Json)) : Log.Entry :=
  ⟨.info, target, message, fields, none⟩

def configured (c : PubSub.Config) : Log.Entry :=
  entry "Pub/Sub publisher configured"
    [Log.text "project_id" c.projectId, Log.text "endpoint" c.endpoint]

def clientOf (settings : Settings) (s : Surroundings) : Sql.Client PubSub.Link where
  peer := s.database
  publishing := ⟨settings.pubsub, s.pubsub, []⟩
  start := s.start
  elapsed := 0
  lease := settings.claimLease
  backoff := settings.backoff
  chance := .ofSeed 0
  made := 0

/-- what is left of a service that fails, or is done, with this client -/
def leave (env : Environment) (failure : Option Failure) (c : Sql.Client PubSub.Link) : Ending where
  failure := failure
  log := (Log.Filter.ofSetting (env "RUST_LOG")).select c.peer.log
  statements := c.peer.sent
  requests := c.publishing.requests

def publisher : Sql.Publisher PubSub.Link := ⟨id, PubSub.Link.answer⟩

def backend (settings : Settings) : Relay.Backend (Sql.Client PubSub.Link) :=
  Sql.Client.backend publisher settings.claimLease

def work (settings : Settings) (c : Sql.Client PubSub.Link) : Service :=
  let (loop, client) :=
    Relay.Loop.begin (backend settings) settings.relay (c.addLog (configured settings.pubsub))
  ⟨settings, client, loop, .initial false⟩

/-- brings the tables up to date, if that is wanted -/
def migrate (settings : Settings) (c : Sql.Client PubSub.Link) :
    Except String Unit × Sql.Client PubSub.Link :=
  if settings.runMigrations then
    match c.ask (Sql.migrate Sql.migrations) with
    | (.error reason, c) => (.error reason, c)
    | (.ok (), c) => (.ok (), c.addLog (entry "Database migrations applied" []))
  else (.ok (), c)

/-- An address begins with a scheme and a colon; blanks in front of it do not count. -/
def isAddress (s : String) : Bool :=
  let (scheme, rest) := (s.toList.dropWhile fun c => c ≤ ' ').span fun c => c ≠ ':'
  scheme.head?.any Char.isAlpha && scheme.all (fun c => c.isAlphanum || "+-.".toList.contains c) &&
    !rest.isEmpty

/-- what stands in the way of a connection to the database -/
def obstacle (settings : Settings) (c : Sql.Client PubSub.Link) : Option String :=
  if isAddress settings.databaseUrl then c.peer.obstacle
  else some "error with configuration: relative URL without a base"

def begin (s : Surroundings) : Except Ending Service :=
  let env := s.variables
  match Settings.ofEnvironment env with
  | .error fault => .error ⟨some (.settings fault), [], [], []⟩
  | .ok settings =>
    let c := (clientOf settings s).addLog (entry "courier-relay starting..." [])
    match obstacle settings c with
    | some reason => .error (leave env (some (.connection reason)) c)
    | none =>
      match migrate settings (c.addLog (entry "Connected to database" [])) with
      | (.error reason, c) => .error (leave env (some (.migrations reason)) c)
      | (.ok (), c) => .ok (work settings c)

/-! ## at work -/

/-- whether it is time to tell the relay to stop -/
def isTold (stopAfter : Option Nat) (v : Service) : Bool :=
  !v.signal.value && stopAfter.any fun n => n ≤ v.client.peer.sent.length

def tell (v : Service) : Service :=
  { v with
    client := v.client.addLog (entry "Shutdown signal received, finishing current batch" [])
    signal := v.signal.send true }

/-- a move of the relay, or else of the clock to the time of the next one -/
def step? (stopAfter : Option Nat) (v : Service) : Option Service :=
  if v.isTold stopAfter then some v.tell
  else
    let latency := v.client.publishing.latency
    match v.loop.next? v.signal v.client.elapsed latency with
    | some m =>
      let (loop, client) := v.loop.move (backend v.settings) v.signal v.client m
      some { v with loop, client }
    | none =>
      (v.loop.wake? latency).map fun time =>
        { v with client := { v.client with elapsed := max v.client.elapsed time } }

/-- `fuel` bounds the steps. -/
def follow (stopAfter : Option Nat) : Nat → Service → Service
  | 0, v => v
  | fuel + 1, v =>
    match v.step? stopAfter with
    | none => v
    | some v => follow stopAfter fuel v

def run (fuel : Nat) (s : Surroundings) : Ending :=
  match begin s with
  | .error ending => ending
  | .ok v =>
    let v := v.follow s.stopAfter fuel
    leave s.variables none (v.client.addLog (entry "courier-relay shutdown complete" []))

end Service

end Outbox
