import Outbox.Error
import Outbox.Json.Value
import Outbox.Time.Rfc3339

/-!
# Statements, rows and values

* `Sql.Value`       what a parameter or a field of a row can be;
* `Statement`       a text with parameters, and the columns of the rows that it returns;
* `Row.required`, `Row.nullable`   a field of a row by its name;
* `Insert`          an insertion as data: its `text`, and the `row` that it describes.

A server keeps times in microseconds, counted from the year 2000 and cut towards it, and counts of 31
bits.
-/

namespace Outbox.Sql

inductive Value where
  | null
  | flag (b : Bool)
  | int (i : Int)
  | real (x : Float)
  | text (s : String)
  | uuid (u : Uuid)
  | time (t : Timestamp)
  | json (v : Json)
  deriving Inhabited

inductive ColumnType where
  | uuid
  | text
  | int4
  | int8
  | bool
  | jsonb
  | timestamptz
  deriving DecidableEq, Repr, Inhabited

structure Statement where
  text : String
  params : List Value
  columns : List (String × ColumnType)
  deriving Inhabited

/-! ## what a server can keep -/

/-- 2000-01-01 -/
def epochSecs : Int := 946684800

/-- A leap second runs on into the next second. -/
def storedTime (t : Timestamp) : Timestamp :=
  let micros := Int.tdiv ((t.secs - epochSecs) * 1000000000 + t.nanos) 1000
  (Timestamp.ofNanos? epochSecs (micros * 1000)).getD t

def ofTime (t : Timestamp) : Value := .time (storedTime t)

def ofOption {α : Type} (f : α → Value) : Option α → Value
  | none => .null
  | some a => f a

def ofCount (n : UInt32) : Value := .int (min n.toNat 0x7fffffff)

/-- a limit or an offset, in 63 bits -/
def ofLimit (n : Nat) : Value := .int (min n 0x7fffffffffffffff)

/-! ## rows -/

abbrev Row : Type := List (String × Value)

namespace Row

def missing (name : String) : StoreError := .database ("no column found for name: " ++ name)

def undecoded (name reason : String) : StoreError :=
  .database ("error occurred while decoding column " ++ "\"" ++ name ++ "\": " ++ reason)

def unexpectedNull : String := "unexpected null; try decoding as an `Option`"

def mismatched : String := "mismatched types"

def field (r : Row) (name : String) : Except StoreError Value :=
  match r.find? (·.1 = name) with
  | none => .error (missing name)
  | some (_, v) => .ok v

def required {α : Type} (read : Value → Option α) (name : String) (r : Row) : Except StoreError α :=
  match r.field name with
  | .error e => .error e
  | .ok .null => .error (undecoded name unexpectedNull)
  | .ok v =>
    match read v with
    | none => .error (undecoded name mismatched)
    | some a => .ok a

def nullable {α : Type} (read : Value → Option α) (name : String) (r : Row) :
    Except StoreError (Option α) :=
  match r.field name with
  | .error e => .error e
  | .ok .null => .ok none
  | .ok v =>
    match read v with
    | none => .error (undecoded name mismatched)
    | some a => .ok (some a)

end Row

namespace Value

def text? : Value → Option String
  | .text s => some s
  | _ => none

def int? : Value → Option Int
  | .int i => some i
  | _ => none

def flag? : Value → Option Bool
  | .flag b => some b
  | _ => none

def uuid? : Value → Option Uuid
  | .uuid u => some u
  | _ => none

def time? : Value → Option Timestamp
  | .time t => some t
  | _ => none

def json? : Value → Option Json
  | .json v => some v
  | _ => none

end Value

/-! ## insertions -/

/-- what goes into a column -/
inductive Expr where
  /-- counted from 1 -/
  | param (n : Nat)
  | text (s : String)
  | int (n : Nat)
  /-- the first of two parameters that is not null -/
  | coalesce (n m : Nat)

def paramText (n : Nat) : String := "$" ++ Decimal.text n

def Expr.write : Expr → String
  | .param n => paramText n
  | .text s => "'" ++ s ++ "'"
  | .int n => Decimal.text n
  | .coalesce n m => "COALESCE(" ++ paramText n ++ ", " ++ paramText m ++ ")"

def Expr.eval (params : List Value) : Expr → Value
  | .param n => params.getD (n - 1) .null
  | .text s => .text s
  | .int n => .int n
  | .coalesce n m =>
    match params.getD (n - 1) .null with
    | .null => params.getD (m - 1) .null
    | v => v

structure Insert where
  table : String
  columns : List (String × Expr)
  onConflict : String

namespace Insert

def text (i : Insert) : String :=
  "INSERT INTO " ++ i.table ++ " ( " ++ String.intercalate ", " (i.columns.map (·.1)) ++ " ) VALUES ("
    ++ String.intercalate ", " (i.columns.map (·.2.write)) ++ ") " ++ i.onConflict

def value (i : Insert) (params : List Value) (name : String) : Value :=
  match i.columns.find? (·.1 = name) with
  | none => .null
  | some (_, e) => e.eval params

/-- the row of a table with these columns; a column that the insertion does not name is null -/
def row (i : Insert) (columns : List (String × ColumnType)) (params : List Value) : Row :=
  columns.map fun (name, _) => (name, i.value params name)

end Insert

end Outbox.Sql
