/-!
# Days of the calendar

Days are counted in the proleptic Gregorian calendar, with a year zero and negative years before
it. The calendar is bounded, so the last day has no successor and the first no predecessor.
-/

namespace Ebms

/-- The first year of the calendar. -/
def Date.firstYear : Int := -262143

/-- The last year of the calendar. -/
def Date.lastYear : Int := 262142

/-- Every fourth year is a leap year, except those of the centuries that 400 does not divide. -/
def Date.isLeapYear (year : Int) : Bool :=
  year % 4 == 0 && (year % 100 != 0 || year % 400 == 0)

/-- The number of days in a month. -/
def Date.daysInMonth (year : Int) (month : Nat) : Nat :=
  if month = 2 then (if isLeapYear year then 29 else 28)
  else if month = 4 ∨ month = 6 ∨ month = 9 ∨ month = 11 then 30
  else 31

/-- A year, a month and a day that name a day of the calendar. -/
def Date.IsDay (year : Int) (month day : Nat) : Prop :=
  firstYear ≤ year ∧ year ≤ lastYear ∧ 1 ≤ month ∧ month ≤ 12 ∧ 1 ≤ day ∧
    day ≤ daysInMonth year month

instance (year : Int) (month day : Nat) : Decidable (Date.IsDay year month day) := by
  unfold Date.IsDay
  infer_instance

/-- A day of the calendar. -/
structure Date where
  year : Int
  month : Nat
  day : Nat
  isDay : Date.IsDay year month day
  deriving DecidableEq, Repr

namespace Date

/-- The day with these numbers, if the calendar has it. -/
def ofNumbers? (year : Int) (month day : Nat) : Option Date :=
  if h : IsDay year month day then some ⟨year, month, day, h⟩ else none

/-- The day after a day. -/
def next? (date : Date) : Option Date :=
  if date.day < daysInMonth date.year date.month then
    ofNumbers? date.year date.month (date.day + 1)
  else if date.month < 12 then ofNumbers? date.year (date.month + 1) 1
  else ofNumbers? (date.year + 1) 1 1

/-- The day before a day. -/
def previous? (date : Date) : Option Date :=
  if 1 < date.day then ofNumbers? date.year date.month (date.day - 1)
  else if 1 < date.month then
    ofNumbers? date.year (date.month - 1) (daysInMonth date.year (date.month - 1))
  else ofNumbers? (date.year - 1) 12 31

end Date

end Ebms
