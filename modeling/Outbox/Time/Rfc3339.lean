import Outbox.Time.Timestamp
import Outbox.Text.Blank

/-!
# The text of a point in time

* `Timestamp.text`     RFC 3339 in UTC: `2024-01-01T00:00:00Z`, with 3, 6 or 9 decimal places, the
                       fewest that lose nothing, or none; years outside 0 to 9999 have a sign; a
                       leap second is written as second 60;
* `Timestamp.read?`    reads it and looser forms: blanks before a number or a separator, numbers with
                       fewer digits, a space or `t` between date and time, any number of decimal
                       places (those after the ninth count for nothing), `z`, `UTC` or an offset of
                       up to 23:59 hours.
-/

namespace Outbox.Timestamp

open Decimal (isDigit ofDigits takeDigits padded)
open Text (trimStart isBlank isBlankText)

/-! ## writing -/

def yearDigits (year : Int) : List Char :=
  if 0 ≤ year && year ≤ 9999 then padded 4 year.natAbs
  else (if year < 0 then '-' else '+') :: padded 4 year.natAbs

def fractionDigits (nanos : Nat) : List Char :=
  if nanos = 0 then []
  else if nanos % 1000000 = 0 then '.' :: padded 3 (nanos / 1000000)
  else if nanos % 1000 = 0 then '.' :: padded 6 (nanos / 1000)
  else '.' :: padded 9 nanos

def chars (t : Timestamp) : List Char :=
  let date := Calendar.Date.ofDay (t.secs / 86400)
  let second := (t.secs % 86400).toNat
  let leap := 1000000000 ≤ t.nanos
  yearDigits date.year ++ '-' :: padded 2 date.month ++ '-' :: padded 2 date.day ++
    'T' :: padded 2 (second / 3600) ++ ':' :: padded 2 (second / 60 % 60) ++
    ':' :: padded 2 (if leap then 60 else second % 60) ++
    fractionDigits (if leap then t.nanos - 1000000000 else t.nanos) ++ ['Z']

def text (t : Timestamp) : String := String.ofList t.chars

/-! ## reading -/

/-- one to `limit` digits -/
def readNumber? (limit : Nat) (cs : List Char) : Option (Nat × List Char) :=
  match takeDigits limit cs with
  | ([], _) => none
  | (ds, rest) => some (ofDigits ds, rest)

/-- Only a year with a sign may have more than four digits. -/
def readYear? : List Char → Option (Int × List Char)
  | '-' :: cs => (readNumber? cs.length cs).map fun (n, rest) => (-(n : Int), rest)
  | '+' :: cs => (readNumber? cs.length cs).map fun (n, rest) => ((n : Int), rest)
  | cs => (readNumber? 4 cs).map fun (n, rest) => ((n : Int), rest)

def readChar? (c : Char) : List Char → Option (List Char)
  | [] => none
  | d :: rest => if d = c then some rest else none

def readDate? (cs : List Char) : Option (Calendar.Date × List Char) := do
  let (year, cs) ← readYear? (trimStart cs)
  let cs ← readChar? '-' (trimStart cs)
  let (month, cs) ← readNumber? 2 (trimStart cs)
  let cs ← readChar? '-' (trimStart cs)
  let (day, cs) ← readNumber? 2 (trimStart cs)
  some (⟨year, month, day⟩, cs)

/-- the nanoseconds that decimal places write -/
def placesValue (ds : List Char) : Nat :=
  ofDigits (ds.take 9) * Nat.pow 10 (9 - (ds.take 9).length)

def readFraction? : List Char → Option (Nat × List Char)
  | '.' :: cs =>
    match cs.takeWhile isDigit with
    | [] => none
    | ds => some (placesValue ds, cs.dropWhile isDigit)
  | cs => some (0, cs)

/-- A time of day: seconds since midnight, and nanoseconds, from `10 ^ 9` in a leap second. -/
def readClock? (cs : List Char) : Option ((Nat × Nat) × List Char) := do
  let (hour, cs) ← readNumber? 2 (trimStart cs)
  let cs ← readChar? ':' (trimStart cs)
  let (minute, cs) ← readNumber? 2 (trimStart cs)
  let cs ← readChar? ':' (trimStart cs)
  let (second, cs) ← readNumber? 2 (trimStart cs)
  let (nanos, cs) ← readFraction? cs
  if hour ≤ 23 && minute ≤ 59 && second ≤ 60 then
    let start := hour * 3600 + minute * 60
    if second = 60 then some ((start + 59, 1000000000 + nanos), cs)
    else some ((start + second, nanos), cs)
  else none

def readTwoDigits? : List Char → Option (Nat × List Char)
  | a :: b :: rest => if isDigit a && isDigit b then some (ofDigits [a, b], rest) else none
  | _ => none

/-- hours and minutes after the sign of an offset, in seconds -/
def readOffsetSize? (cs : List Char) : Option (Nat × List Char) := do
  let (hours, cs) ← readTwoDigits? cs
  let (minutes, cs) ← readTwoDigits? (cs.dropWhile fun c => c = ':' || isBlank c)
  if hours ≤ 23 && minutes ≤ 59 then some (hours * 3600 + minutes * 60, cs) else none

/-- seconds that the local time is ahead of UTC -/
def readOffset? : List Char → Option (Int × List Char)
  | 'Z' :: rest => some (0, rest)
  | 'z' :: rest => some (0, rest)
  | '+' :: rest => (readOffsetSize? rest).map fun (n, rest) => ((n : Int), rest)
  | '-' :: rest => (readOffsetSize? rest).map fun (n, rest) => (-(n : Int), rest)
  | '−' :: rest => (readOffsetSize? rest).map fun (n, rest) => (-(n : Int), rest)
  | a :: b :: c :: rest =>
    if [a, b, c].map Char.toUpper = ['U', 'T', 'C'] then some (0, rest) else none
  | _ => none

def readChars? (cs : List Char) : Option Timestamp := do
  let (date, cs) ← readDate? cs
  let cs ← match cs with
    | 'T' :: rest => some rest
    | 't' :: rest => some rest
    | ' ' :: rest => some rest
    | _ => none
  let ((second, nanos), cs) ← readClock? cs
  let (offset, cs) ← readOffset? (trimStart cs)
  if date.Exists && isBlankText cs then
    let localSecs := date.toDay * 86400 + second
    if minSecs ≤ localSecs && localSecs ≤ maxSecs then make? (localSecs - offset) nanos else none
  else none

def read? (s : String) : Option Timestamp := readChars? s.toList

end Outbox.Timestamp
