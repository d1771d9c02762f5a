import Outbox.Settings
import Outbox.Text.Letter

/-!
# Variables in a file

A file of lines `NAME=value`, with comments after `#`, an optional `export`, quotes around values, escapes,
and the values of other variables behind `$`.

* `Dotenv.load`     the variables that a file sets, up to its first faulty line; those of the environment
                    stay as they are;
* `Dotenv.extend`   the environment with these variables.
-/

namespace Outbox.Dotenv

open Text (isBlank trimStart trim isAlphanumeric)

/-! ## values -/

inductive Quote where
  | none
  | single
  | double
  deriving DecidableEq, Repr

/-- how far the name of another variable is read -/
inductive Naming where
  | none
  | bare
  | braced
  deriving DecidableEq, Repr

structure Value where
  quote : Quote
  escaped : Bool
  /-- only blanks and a comment may follow -/
  ended : Bool
  naming : Naming
  /-- the name so far, last character first -/
  name : List Char
  /-- the value so far, last character first -/
  out : List Char
  deriving Repr

namespace Value

def start : Value := ⟨.none, false, false, .none, [], []⟩

def push (v : Value) (c : Char) : Value := { v with out := c :: v.out }

/-- puts the value of the named variable in place of its name -/
def substitute (env : Environment) (v : Value) : Value :=
  let value := (env (String.ofList v.name.reverse)).getD ""
  { v with naming := .none, name := [], out := value.toList.reverse ++ v.out }

def unescape? (c : Char) : Option Char :=
  if c = 'n' then some '\n'
  else if c = '\\' || c = '\'' || c = '"' || c = '$' || c = ' ' then some c
  else none

/-- one character of a name that stands without braces, or the first one after it -/
def nameChar (env : Environment) (v : Value) (c : Char) : Value :=
  if isAlphanumeric c then { v with name := c :: v.name }
  else if c = '\x7b' && v.name.isEmpty then { v with naming := .braced }
  else
    let v := v.substitute env
    if c = '$' then { v with naming := .bare } else v.push c

def bracedChar (env : Environment) (v : Value) (c : Char) : Value :=
  if isAlphanumeric c then { v with name := c :: v.name }
  else if c = '\x7d' then v.substitute env
  else { v with name := c :: v.name }

def plainChar (v : Value) (c : Char) : Value :=
  if c = '\'' then { v with quote := .single }
  else if c = '"' then { v with quote := .double }
  else if c = '\\' then { v with escaped := true }
  else if c = ' ' || c = '\t' then { v with ended := true }
  else v.push c

def quotedChar (v : Value) (c : Char) : Value :=
  if c = '"' then { v with quote := .none }
  else if c = '\\' then { v with escaped := true }
  else v.push c

def step? (env : Environment) (v : Value) (c : Char) : Option Value :=
  if v.escaped then (unescape? c).map fun c => { v.push c with escaped := false }
  else if v.quote = .single then
    some (if c = '\'' then { v with quote := .none } else v.push c)
  else
    match v.naming with
    | .bare => some (v.nameChar env c)
    | .braced => some (v.bracedChar env c)
    | .none =>
      if c = '$' then some { v with naming := .bare }
      else if v.quote = .double then some (v.quotedChar c)
      else some (v.plainChar c)

def finish? (env : Environment) (v : Value) : Option String :=
  if v.naming = .braced || v.quote ≠ .none then none
  else some (String.ofList (v.substitute env).out.reverse)

def read? (env : Environment) (v : Value) : List Char → Option String
  | [] => v.finish? env
  | c :: cs =>
    if v.ended then
      if c = ' ' || c = '\t' then read? env v cs
      else if c = '#' then v.finish? env
      else none
    else
      match v.step? env c with
      | none => none
      | some v => read? env v cs

end Value

/-! ## lines -/

def isKeyStart (c : Char) : Bool := c.isAlpha || c = '_'

def isKeyChar (c : Char) : Bool := c.isAlphanum || c = '_' || c = '.'

def readKey? (cs : List Char) : Option (List Char × List Char) :=
  if cs.head?.any isKeyStart then some (cs.takeWhile isKeyChar, trimStart (cs.dropWhile isKeyChar))
  else none

def readEqual? : List Char → Option (List Char)
  | '=' :: cs => some (trimStart cs)
  | _ => none

/-- `export` may itself be a name. -/
def readAssigned? (cs : List Char) : Option (List Char × List Char) := do
  let (key, rest) ← readKey? cs
  match readEqual? rest with
  | some rest => some (key, rest)
  | none =>
    if key = "export".toList then
      let (key, rest) ← readKey? rest
      (readEqual? rest).map fun rest => (key, rest)
    else none

/-- `none` for a faulty line, `some none` for one that sets nothing; blanks at the ends do not count -/
def readLine? (env : Environment) (line : List Char) : Option (Option (String × String)) :=
  match trim line with
  | [] => some none
  | '#' :: _ => some none
  | cs =>
    match readAssigned? cs with
    | none => none
    | some (key, rest) =>
      let key := String.ofList key
      match rest with
      | [] => some (some (key, ""))
      | '#' :: _ => some (some (key, ""))
      | rest => (Value.read? env .start rest).map fun value => some (key, value)

/-- where the reading of lines stands: quotes may hold line breaks -/
inductive Within where
  | complete
  | blank
  | escape
  | single
  | singleEscape
  | double
  | doubleEscape
  deriving DecidableEq, Repr

def Within.next (w : Within) (c : Char) : Within :=
  match w with
  | .escape => .complete
  | .single => if c = '\\' then .singleEscape else if c = '\'' then .complete else .single
  | .singleEscape => .single
  | .double => if c = '\\' then .doubleEscape else if c = '"' then .complete else .double
  | .doubleEscape => .double
  | .complete =>
    if isBlank c && c ≠ '\n' && c ≠ '\r' then .blank
    else if c = '\\' then .escape
    else if c = '"' then .double
    else if c = '\'' then .single
    else .complete
  | .blank =>
    if c = '\\' then .escape
    else if c = '"' then .double
    else if c = '\'' then .single
    else .complete

/-- the state after a line, and its part before a comment if there is one -/
def scan (w : Within) (seen : List Char) : List Char → Within × Option (List Char)
  | [] => (w, none)
  | c :: cs =>
    if w = .blank && c = '#' then (.complete, some seen.reverse)
    else scan (w.next c) (c :: seen) cs

/-- lines with their ends -/
def physicalLines : List Char → List (List Char)
  | [] => []
  | c :: cs =>
    if c = '\n' then ['\n'] :: physicalLines cs
    else
      match physicalLines cs with
      | [] => [[c]]
      | l :: rest => (c :: l) :: rest

def dropEnd (line : List Char) : List Char :=
  match line.reverse with
  | '\n' :: '\r' :: rest => rest.reverse
  | '\n' :: rest => rest.reverse
  | _ => line

/-- lines that go on while a quote is open; a last `none` for one that never ends -/
def logicalLines (w : Within) (open_ : List Char) : List (List Char) → List (Option (List Char))
  | [] => if w = .complete then [] else [none]
  | l :: rest =>
    let line := open_ ++ l
    if (trimStart line).head? = some '#' then some [] :: logicalLines .complete [] rest
    else
      match scan w [] l with
      | (_, some before) => some (open_ ++ before) :: logicalLines .complete [] rest
      | (.complete, none) => some (dropEnd line) :: logicalLines .complete [] rest
      | (w, none) => logicalLines w line rest

/-! ## files -/

def extend (env : Environment) (vars : List (String × String)) : Environment := fun name =>
  match env name with
  | some v => some v
  | none => (vars.find? (·.1 = name)).map (·.2)

def loadLines (env : Environment) (vars : List (String × String)) :
    List (Option (List Char)) → List (String × String)
  | [] => vars
  | none :: _ => vars
  | some line :: rest =>
    match readLine? (extend env vars) line with
    | none => vars
    | some none => loadLines env vars rest
    | some (some var) => loadLines env (vars ++ [var]) rest

def load (env : Environment) (file : String) : List (String × String) :=
  let cs := match file.toList with
    | '\ufeff' :: cs => cs
    | cs => cs
  loadLines env [] (logicalLines .complete [] (physicalLines cs))

end Outbox.Dotenv
