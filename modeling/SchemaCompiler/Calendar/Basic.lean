/-
**Calendar dates and times of day.**

The days of a month in the Gregorian calendar, which is used for all years, and the range of years
that a date may have.
-/

namespace SchemaCompiler.Calendar

/-- Whether a year has a leap day. -/
def isLeapYear (year : Int) : Bool :=
  year % 4 == 0 && (year % 100 != 0 || year % 400 == 0)

/-- The number of days of a month. -/
def daysInMonth (year : Int) (month : Nat) : Nat :=
  if month = 2 then if isLeapYear year then 29 else 28
  else if month = 4 ∨ month = 6 ∨ month = 9 ∨ month = 11 then 30
  else 31

/-- Whether a year is in range. -/
def isYear (year : Int) : Bool :=
  -262143 ≤ year && year ≤ 262142

/-- Whether a year, a month and a day make a date. -/
def isDate (year : Int) (month day : Nat) : Bool :=
  isYear year && 1 ≤ month && month ≤ 12 && 1 ≤ day && day ≤ daysInMonth year month

/-- Whether an hour, a minute and a second make a time of day. The second 60 is a leap second. -/
def isTimeOfDay (hour minute second : Nat) : Bool :=
  hour < 24 && minute < 60 && second ≤ 60

end SchemaCompiler.Calendar
