/-!
# The Gregorian calendar

Dates of the proleptic Gregorian calendar and the count of days from 1970-01-01.

* `isLeap`, `monthLength`    leap years and the lengths of the months;
* `Date`                     a year, a month and a day that exist;
* `Date.toDay`               the day's number, negative before 1970;
* `Date.ofDay`               the date with that number.

A year begins `365 * y + y / 4 - y / 100 + y / 400` days after the first day of the year 1, where `y`
years have gone by; `ofDay` takes the number apart into cycles of 400, 100, 4 and 1 years.
-/

namespace Outbox.Calendar

def isLeap (year : Int) : Bool :=
  year % 4 = 0 && (year % 100 ≠ 0 || year % 400 = 0)

def monthLengths (leap : Bool) : List Nat :=
  [31, if leap then 29 else 28, 31, 30, 31, 30, 31, 31, 30, 31, 30, 31]

def monthLength (year : Int) (month : Nat) : Nat :=
  (monthLengths (isLeap year)).getD (month - 1) 0

structure Date where
  year : Int
  month : Nat
  day : Nat
  deriving DecidableEq, Repr

def Date.Exists (d : Date) : Prop :=
  1 ≤ d.month ∧ d.month ≤ 12 ∧ 1 ≤ d.day ∧ d.day ≤ monthLength d.year d.month

instance (d : Date) : Decidable d.Exists := by unfold Date.Exists; infer_instance

/-- days from 0001-01-01 to the first day of the year -/
def daysBeforeYear (year : Int) : Int :=
  let y := year - 1
  365 * y + y / 4 - y / 100 + y / 400

def daysBeforeMonth (year : Int) (month : Nat) : Nat :=
  ((monthLengths (isLeap year)).take (month - 1)).foldr (· + ·) 0

/-- 1970-01-01 counted from 0001-01-01 -/
def epochDay : Int := 719162

def Date.toDay (d : Date) : Int :=
  daysBeforeYear d.year + (daysBeforeMonth d.year d.month : Int) + ((d.day : Int) - 1) - epochDay

/-- the year that holds a day counted from 0001-01-01, and the days of it that have gone by -/
def yearOfDay (n : Int) : Int × Nat :=
  let cycle := n / 146097
  let r := (n % 146097).toNat
  let century := min (r / 36524) 3
  let r := r - century * 36524
  let four := r / 1461
  let r := r % 1461
  let one := min (r / 365) 3
  (400 * cycle + 100 * century + 4 * four + one + 1, r - one * 365)

/-- month and day of the month, for `n` days gone by since the first day of `month` -/
def monthOfDay : List Nat → Nat → Nat → Nat × Nat
  | [], month, n => (month, n + 1)
  | length :: rest, month, n =>
    if n < length then (month, n + 1) else monthOfDay rest (month + 1) (n - length)

def Date.ofDay (day : Int) : Date :=
  let (year, gone) := yearOfDay (day + epochDay)
  let (month, dayOfMonth) := monthOfDay (monthLengths (isLeap year)) 1 gone
  ⟨year, month, dayOfMonth⟩

end Outbox.Calendar
