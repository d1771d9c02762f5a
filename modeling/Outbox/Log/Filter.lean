import Outbox.Log.Directive
import Outbox.Text.Hex

/-!
# Which entries are shown

A filter is a list of directives, as in `relay=warn,store::todos=debug`.  Of those that concern an entry
the weightiest decides.

* `Filter.read?`      none where a directive cannot be read;
* `Filter.standard`   what counts where nothing is set, or nothing that can be read;
* `Filter.shows`      whether an entry is shown;
* `Filter.select`     what is shown of a log;
* `Entry.line`        an entry as a line of text.
-/

namespace Outbox.Log

abbrev Filter : Type := List Directive

namespace Filter

def standard : Filter :=
  [⟨some "courier_relay".toList, none, none, some .info⟩,
   ⟨some "courier_outbox".toList, none, none, some .info⟩]

/-- the pieces between commas, empty ones left out -/
def pieces (cs : List Char) : List (List Char) :=
  (cs.foldr (fun c acc =>
    if c = ',' then [] :: acc
    else
      match acc with
      | [] => [[c]]
      | p :: rest => (c :: p) :: rest) [[]]).filter fun p => !p.isEmpty

def read? (s : String) : Option Filter := (pieces s.toList).mapM Directive.read?

def ofSetting : Option String → Filter
  | none => standard
  | some s => (read? s).getD standard

/-- Of two directives of one weight the later one counts. -/
def decisive? (f : Filter) (concerned : Directive → Bool) : Option Directive :=
  (f.filter concerned).foldl (fun best d =>
    match best with
    | none => some d
    | some b => if d.prevailsOver b then some d else some b) none

def shows (f : Filter) (e : Entry) : Bool :=
  ((f.decisive? fun d => d.concerns e).any fun d => d.shows e.level) ||
    e.span.any fun s => f.any fun d => d.names s && d.shows e.level

def showsSpan (f : Filter) (s : Span) : Bool :=
  ((f.decisive? fun d => d.isPlain && d.coversTarget s.target).any fun d => d.shows .info) ||
    f.any fun d => d.names s

/-- the entries that are shown, without the spans that are not -/
def select (f : Filter) (log : List Entry) : List Entry :=
  (log.filter f.shows).map fun e => { e with span := e.span.filter f.showsSpan }

end Filter

/-! ## lines of text -/

def fieldText : Json → String
  | .text s => s
  | v => v.compact

/-- Characters by which a text could take hold of a terminal are written by their codes. -/
def messageChar (c : Char) : List Char :=
  if "\x07\x08\x0c\x1b\x7f".toList.contains c then
    ['\\', 'x', Text.hexDigit (c.toNat / 16), Text.hexDigit (c.toNat % 16)]
  else if 0x80 ≤ c.toNat && c.toNat ≤ 0x9f then ['\\', 'u', '\x7b'] ++ Text.hexText c.toNat ++ ['\x7d']
  else [c]

def messageText (s : String) : String := String.ofList (s.toList.flatMap messageChar)

def spanText : Option Span → String
  | none => ""
  | some s => s.name ++ ": "

/-- level, span, target, message and fields; without the time -/
def Entry.line (e : Entry) : String :=
  e.level.name ++ " " ++ spanText e.span ++ e.target ++ ": " ++ messageText e.message ++
    String.join (e.fields.map fun (name, v) => " " ++ name ++ "=" ++ fieldText v)

end Outbox.Log
