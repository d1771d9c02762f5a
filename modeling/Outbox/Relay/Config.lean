import Outbox.Time.Duration
import Outbox.Text.Lower

/-!
# Settings of a relay

* `Completion`         what becomes of a delivered record;
* `Relay.Config`       how often, how much and how long; `Config.standard` has the defaults.
-/

namespace Outbox

inductive Completion where
  | retain
  | delete
  deriving DecidableEq, Repr, Inhabited

namespace Completion

def unknown (s : String) : String :=
  "unknown completion policy '" ++ s ++ "' (expected 'retain' or 'delete')"

/-- The case of ASCII letters does not matter. -/
def parse (s : String) : Except String Completion :=
  let s := String.ofList (Text.asciiLower s.toList)
  if s = "retain" then .ok .retain else if s = "delete" then .ok .delete else .error (unknown s)

end Completion

namespace Relay

structure Config where
  /-- the pause after a batch that was not full -/
  pollInterval : Duration
  /-- the most records that are claimed at once -/
  batchSize : Nat
  /-- the most publishes under way at once -/
  maxConcurrency : Nat
  publishTimeout : Duration
  completion : Completion
  /-- the age at which processed records are removed, `none` for never -/
  retention : Option Duration
  purgeInterval : Duration
  deriving DecidableEq, Repr

namespace Config

def standard : Config where
  pollInterval := .ofSecs 1
  batchSize := 50
  maxConcurrency := 1
  publishTimeout := .ofSecs 10
  completion := .retain
  retention := none
  purgeInterval := .ofSecs 3600

instance : Inhabited Config := ⟨standard⟩

def withBatchSize (c : Config) (n : Nat) : Config := { c with batchSize := max n 1 }

def withMaxConcurrency (c : Config) (n : Nat) : Config := { c with maxConcurrency := max n 1 }

end Config

end Relay

end Outbox
