import Portal.Text.Basic

/-!
# Points in time

A date and a time of day in UTC, to the nanosecond. Any minute may have a leap second, number 60.
-/

namespace Portal

/-!
## Calendar dates

Days of the Gregorian calendar, which also counts the days before its introduction. The year 0 is
the one before the year 1.
-/

def isLeapYear (year : Int) : Bool :=
  year % 4 == 0 && (year % 100 != 0 || year % 400 == 0)

def daysInMonth (year : Int) (month : Nat) : Nat :=
  if month = 2 then (if isLeapYear year then 29 else 28)
  else if month = 4 ∨ month = 6 ∨ month = 9 ∨ month = 11 then 30
  else 31

structure Date where
  year : Int
  month : Nat
  day : Nat
  in_calendar : -262143 ≤ year ∧ year ≤ 262142 ∧ 1 ≤ month ∧ month ≤ 12 ∧ 1 ≤ day ∧
    day ≤ daysInMonth year month
  deriving DecidableEq

namespace Date

def of? (year : Int) (month day : Nat) : Option Date :=
  if h : -262143 ≤ year ∧ year ≤ 262142 ∧ 1 ≤ month ∧ month ≤ 12 ∧ 1 ≤ day ∧
      day ≤ daysInMonth year month then
    some ⟨year, month, day, h⟩
  else none

/-- The day after, unless the calendar ends. -/
def next? (d : Date) : Option Date :=
  if d.day < daysInMonth d.year d.month then of? d.year d.month (d.day + 1)
  else if d.month < 12 then of? d.year (d.month + 1) 1
  else of? (d.year + 1) 1 1

/-- The day before, unless the calendar begins. -/
def previous? (d : Date) : Option Date :=
  if 1 < d.day then of? d.year d.month (d.day - 1)
  else if 1 < d.month then of? d.year (d.month - 1) (daysInMonth d.year (d.month - 1))
  else of? (d.year - 1) 12 31

end Date

/-! ## Times -/

structure Timestamp where
  date : Date
  hour : Nat
  minute : Nat
  second : Nat
  nanos : Nat
  in_day : hour < 24 ∧ minute < 60 ∧ second ≤ 60 ∧ nanos < 1000000000
  deriving DecidableEq

namespace Timestamp

/-- The time of day that a clock `east` minutes ahead of UTC shows. `none` if the calendar has no
such day in UTC. -/
def ofLocal? (date : Date) (hour minute second nanos : Nat) (east : Int) : Option Timestamp := do
  let minutes : Int := 60 * hour + minute - east
  let date ← if minutes < 0 then date.previous? else if 1440 ≤ minutes then date.next? else date
  let ofDay := (minutes % 1440).toNat
  if h : ofDay / 60 < 24 ∧ ofDay % 60 < 60 ∧ second ≤ 60 ∧ nanos < 1000000000 then
    some ⟨date, ofDay / 60, ofDay % 60, second, nanos, h⟩
  else none

open Text (paddedDigits)

/-- Four digits, and a sign if they do not suffice. -/
def yearText (year : Int) : List Char :=
  if year < 0 then '-' :: paddedDigits 4 year.natAbs
  else if 9999 < year then '+' :: paddedDigits 4 year.natAbs
  else paddedDigits 4 year.natAbs

/-- As many groups of three digits as it takes. -/
def fractionText (nanos : Nat) : List Char :=
  if nanos = 0 then []
  else if nanos % 1000000 = 0 then '.' :: paddedDigits 3 (nanos / 1000000)
  else if nanos % 1000 = 0 then '.' :: paddedDigits 6 (nanos / 1000)
  else '.' :: paddedDigits 9 nanos

def text (t : Timestamp) : String :=
  .ofList <|
    yearText t.date.year ++ '-' :: paddedDigits 2 t.date.month ++ '-' :: paddedDigits 2 t.date.day ++
      'T' :: paddedDigits 2 t.hour ++ ':' :: paddedDigits 2 t.minute ++ ':' :: paddedDigits 2 t.second ++
      fractionText t.nanos ++ ['Z']

end Timestamp

end Portal
