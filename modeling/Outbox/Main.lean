import Outbox.Service

/-!
The relay service as a command.  It reads its settings from the environment and from a file `.env`, and
writes its log to standard output.  This build has no network, so every database is out of reach.
-/

open Outbox

/-- all names that settings or the file can ask for -/
def settingNames (file : String) : List String :=
  ["DATABASE_URL", "PUBSUB_PROJECT_ID", "OUTBOX_POLL_INTERVAL_MS", "OUTBOX_BATCH_SIZE",
   "OUTBOX_MAX_CONCURRENCY", "OUTBOX_PUBLISH_TIMEOUT_MS", "OUTBOX_COMPLETION_POLICY",
   "OUTBOX_PURGE_INTERVAL_SECS", "OUTBOX_RETENTION_HOURS", "OUTBOX_CLAIM_LEASE_MS",
   "OUTBOX_BACKOFF_JITTER", "OUTBOX_BACKOFF_INITIAL_MS", "OUTBOX_BACKOFF_MAX_MS",
   "OUTBOX_BACKOFF_MULTIPLIER", "PUBSUB_EMULATOR_HOST", "PUBSUB_ENDPOINT", "PUBSUB_ACCESS_TOKEN",
   "DATABASE_MAX_CONNECTIONS", "OUTBOX_RUN_MIGRATIONS", "LOG_FORMAT", "RUST_LOG"] ++
    ((file.toList.splitBy fun a b => a.isAlphanum = b.isAlphanum).map String.ofList)

def readSetting (name : String) : IO (Option (String × String)) := do
  return (← IO.getEnv name).map fun value => (name, value)

def readFile : IO (Option String) := do
  try
    return some (← IO.FS.readFile ".env")
  catch _ => return none

def logText (format : Log.Format) (e : Log.Entry) : String :=
  match format with
  | .text => e.line
  | .json => e.json.compact

/-- steps of a service before it is given up -/
def patience : Nat := 0x100000

def main : IO UInt32 := do
  let file ← readFile
  let vars ← (settingNames (file.getD "")).filterMapM readSetting
  let surroundings : Surroundings :=
    { environment := Dotenv.extend (fun _ => none) vars, file
      database := { (default : Sql.Peer) with network := .unreachable }, pubsub := .unreachable
      start := default, stopAfter := none }
  let ending := Service.run patience surroundings
  let format := Log.Format.ofSetting (Settings.value? surroundings.variables "LOG_FORMAT")
  for e in ending.log do
    IO.println (logText format e)
  for l in (ending.failure.map Service.Failure.lines).getD [] do
    IO.eprintln l
  return ending.code.toUInt32
