import Outbox.Json.Value
import Outbox.Error
import Outbox.Text.Lower

/-!
# Log entries

* `Log.Entry`    level, target (where in the program it was written), message and named fields, and the
                 `Span` that it is part of;
* `Log.Format`   lines of text, or JSON.
-/

namespace Outbox.Log

inductive Level where
  | error
  | warn
  | info
  | debug
  | trace
  deriving DecidableEq, Repr, Inhabited

namespace Level

def name : Level → String
  | .error => "ERROR"
  | .warn => "WARN"
  | .info => "INFO"
  | .debug => "DEBUG"
  | .trace => "TRACE"

/-- 1 for the gravest -/
def rank : Level → Nat
  | .error => 1
  | .warn => 2
  | .info => 3
  | .debug => 4
  | .trace => 5

end Level

/-- a stretch of work, of level `info`, that entries can be part of -/
structure Span where
  name : String
  target : String
  deriving DecidableEq, Repr, Inhabited

structure Entry where
  level : Level
  target : String
  message : String
  fields : List (String × Json)
  span : Option Span
  deriving Inhabited

namespace Entry

/-- level, message and an object of the fields, without the span -/
def json (e : Entry) : Json := .list [.text e.level.name, .text e.message, .object e.fields]

end Entry

/-! ## how entries are written -/

inductive Format where
  | text
  | json
  deriving DecidableEq, Repr, Inhabited

/-- `json` in any letter case; everything else is text. -/
def Format.ofSetting : Option String → Format
  | none => .text
  | some s => if String.ofList (Text.asciiLower s.toList) = "json" then .json else .text

/-! ## fields -/

def count (name : String) (n : Nat) : String × Json := (name, .int n)

def text (name value : String) : String × Json := (name, .text value)

def error (e : StoreError) : String × Json := ("error", .text e.message)

end Outbox.Log
