import Outbox.Log
import Outbox.Pattern
import Outbox.Decimal.Natural
import Outbox.Decimal.Scaled
import Outbox.Text.Blank
import Outbox.Text.Letter

/-!
# Directives of a filter

A directive is a level, which holds for every target, or a target with a level behind `=` (without one,
everything is shown), as in `relay=warn`.  Brackets behind the target name a span, a field in braces, or
both, as in `relay[tick]=debug` and `[{limit=50}]=info`.

* `Directive.read?`      none where a directive cannot be read;
* `Directive.concerns`   an entry that the directive decides on by itself;
* `Directive.names`      a span whose parts it shows, besides what is shown anyway.

Blanks around a directive are passed over when its parts are told apart, but the parts are cut out of the
whole by their distance from its start.
-/

namespace Outbox.Log

structure Field where
  name : List Char
  /-- whether it has to have a certain value -/
  valued : Bool
  deriving DecidableEq, Repr, Inhabited

structure Directive where
  target : Option (List Char)
  span : Option (List Char)
  field : Option Field
  /-- the least grave level that is shown -/
  level : Option Level
  deriving DecidableEq, Repr, Inhabited

namespace Directive

/-! ## levels -/

def levelOfRank? : Nat → Option (Option Level)
  | 0 => some none
  | 1 => some (some .error)
  | 2 => some (some .warn)
  | 3 => some (some .info)
  | 4 => some (some .debug)
  | 5 => some (some .trace)
  | _ => none

def levelNamed? (cs : List Char) : Option (Option Level) :=
  match String.ofList (Text.asciiLower cs) with
  | "off" => some none
  | "error" => some (some .error)
  | "warn" => some (some .warn)
  | "info" => some (some .info)
  | "debug" => some (some .debug)
  | "trace" => some (some .trace)
  | _ => none

/-- a name in any letter case, or the rank -/
def readLevel? (cs : List Char) : Option (Option Level) :=
  match Decimal.readBounded 0xffffffffffffffff cs with
  | .ok n => levelOfRank? n
  | .error _ => levelNamed? cs

/-! ## parts -/

def size (cs : List Char) : Nat := (cs.map Char.utf8Size).foldr (· + ·) 0

def dropBytes : Nat → List Char → List Char
  | 0, cs => cs
  | _, [] => []
  | n + 1, c :: cs => dropBytes (n + 1 - c.utf8Size) cs

def takeBytes : Nat → List Char → List Char
  | 0, _ => []
  | _, [] => []
  | n + 1, c :: cs => c :: takeBytes (n + 1 - c.utf8Size) cs

/-- the part of a directive from one place up to another -/
def cut (cs : List Char) (first last : Nat) : List Char := takeBytes (last - first) (dropBytes first cs)

def isStart (c : Char) : Bool := Text.isAlphanumeric c || c = '_' || c = ':' || c = '-'

/-- a level from a place up to the end, if there is anything -/
def readLevelFrom? (cs : List Char) (place : Nat) : Option (Option Level) :=
  match dropBytes place cs with
  | [] => some (some .trace)
  | level => readLevel? level

/-- what follows brackets -/
def readEnd? (cs : List Char) (place : Nat) (d : Directive) : List Char → Option Directive
  | [] => some d
  | '=' :: _ => (readLevelFrom? cs (place + 1)).map fun level => { d with level }
  | _ => none

/-- The value of a field is a number or a pattern. -/
def isValue (cs : List Char) : Bool := (Decimal.readFloat? cs).isSome || Pattern.isPattern cs

def readField? (cs : List Char) : Option Field :=
  match cs, cs.dropWhile (· ≠ '=') with
  | [], _ => none
  | _, [] => some ⟨cs, false⟩
  | _, _ :: value =>
    if isValue (value.takeWhile (· ≠ '=')) then some ⟨cs.takeWhile (· ≠ '='), true⟩ else none

/-- what follows an opening brace -/
def readBraces? (cs : List Char) (place : Nat) (d : Directive) (rest : List Char) :
    Option Directive := do
  let inner := rest.takeWhile (· ≠ '\x7d')
  let stop := place + size inner
  match rest.dropWhile (· ≠ '\x7d') with
  | _ :: ']' :: rest =>
    let field ← readField? (cut cs place stop)
    readEnd? cs (stop + 2) { d with field := some field } rest
  | _ => none

/-- what follows an opening bracket -/
def readBrackets? (cs : List Char) (place : Nat) (target : Option (List Char)) (rest : List Char) :
    Option Directive :=
  let inner := rest.takeWhile fun c => c ≠ ']' && c ≠ '\x7b'
  let stop := place + size inner
  let span := cut cs place stop
  match rest.dropWhile fun c => c ≠ ']' && c ≠ '\x7b' with
  | ']' :: rest => readEnd? cs (stop + 1) ⟨target, some span, none, some .trace⟩ rest
  | '\x7b' :: rest =>
    readBraces? cs (stop + 1)
      ⟨target, if span.isEmpty then none else some span, none, some .trace⟩ rest
  | _ => none

/-- A target may hold all sorts of characters, but not begin with them. -/
def read? (cs : List Char) : Option Directive :=
  let body := Text.trim cs
  let name := body.takeWhile fun c => c ≠ '=' && c ≠ '['
  let stop := size name
  let rest := body.dropWhile fun c => c ≠ '=' && c ≠ '['
  if name.isEmpty then
    match rest with
    | '[' :: rest => readBrackets? cs 1 none rest
    | _ => none
  else if !name.head?.any isStart then none
  else
    match rest with
    | [] =>
      match readLevel? cs with
      | some level => some ⟨none, none, none, level⟩
      | none => some ⟨some cs, none, none, some .trace⟩
    | '=' :: _ =>
      (readLevelFrom? cs (stop + 1)).map fun level => ⟨some (cut cs 0 stop), none, none, level⟩
    | _ :: rest => readBrackets? cs (stop + 1) (some (cut cs 0 stop)) rest

/-! ## entries and spans -/

def shows (d : Directive) (level : Level) : Bool := d.level.any fun l => level.rank ≤ l.rank

def coversTarget (d : Directive) (target : String) : Bool :=
  d.target.all fun t => t.isPrefixOf target.toList

/-- whether it says anything about what is not part of a span -/
def isPlain (d : Directive) : Bool := d.span.isNone && d.field.all fun f => !f.valued

/-- Every entry has a message. -/
def coversFields (d : Directive) (e : Entry) : Bool :=
  d.field.all fun f => ("message" :: e.fields.map (·.1)).contains (String.ofList f.name)

def concerns (d : Directive) (e : Entry) : Bool :=
  d.isPlain && d.coversTarget e.target && d.coversFields e

/-- Spans have no fields. -/
def names (d : Directive) (s : Span) : Bool :=
  d.span = some s.name.toList && d.field.isNone && d.coversTarget s.target

/-- A longer target weighs more than a shorter one, and that more than a field. -/
def weight (d : Directive) : Nat :=
  2 * (match d.target with
    | none => 0
    | some t => size t + 1) + if d.field.isSome then 1 else 0

def fieldName (d : Directive) : String := String.ofList ((d.field.map Field.name).getD [])

/-- whether `d` decides instead of the earlier directive `b` where both could -/
def prevailsOver (d b : Directive) : Bool :=
  if b.weight ≠ d.weight then b.weight < d.weight else !(d.fieldName < b.fieldName)

end Directive

end Outbox.Log
