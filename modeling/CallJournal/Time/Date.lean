/-! Dates of the proleptic Gregorian calendar, counted in days from 1970-01-01. -/

namespace CallJournal

structure Date where
  year : Int
  month : Nat
  day : Nat
  deriving DecidableEq, Repr

namespace Date

/-- Every fourth year, but of the full centuries only every fourth. -/
def isLeap (year : Int) : Bool := year % 4 == 0 && (year % 100 != 0 || year % 400 == 0)

def monthLengths (leap : Bool) : List Nat :=
  [31, if leap then 29 else 28, 31, 30, 31, 30, 31, 31, 30, 31, 30, 31]

/-- Days from the start of 0001-01-01 to the start of 1970-01-01. -/
def epochOffset : Int := 719162

/-- The month, counted from `first`, and the day of the month of a day of the year, from zero. -/
def monthDay (first : Nat) : List Nat → Nat → Nat × Nat
  | [], dayOfYear => (first, dayOfYear + 1)
  | length :: rest, dayOfYear =>
    if dayOfYear < length then (first, dayOfYear + 1)
    else monthDay (first + 1) rest (dayOfYear - length)

def ofDay (day : Int) : Date :=
  let shifted := day + epochOffset
  let era := shifted / 146097
  let inEra := (shifted % 146097).toNat
  let century := min (inEra / 36524) 3
  let inCentury := inEra - century * 36524
  let cycle := inCentury / 1461
  let inCycle := inCentury % 1461
  let single := min (inCycle / 365) 3
  let year : Int := era * 400 + (century * 100 + cycle * 4 + single + 1 : Nat)
  let (month, dayOfMonth) := monthDay 1 (monthLengths (isLeap year)) (inCycle - single * 365)
  ⟨year, month, dayOfMonth⟩

/-- Days from the start of 0001-01-01 to the start of a year. -/
def daysBefore (year : Int) : Int :=
  let past := year - 1
  past * 365 + past / 4 - past / 100 + past / 400

/-- Days from the start of a year to the start of a month. -/
def daysBeforeMonth (leap : Bool) (month : Nat) : Nat :=
  ((monthLengths leap).take (month - 1)).foldr (· + ·) 0

def toDay (date : Date) : Int :=
  daysBefore date.year + daysBeforeMonth (isLeap date.year) date.month + (date.day - 1) -
    epochOffset

def isValid (date : Date) : Bool :=
  1 ≤ date.month && date.month ≤ 12 && 1 ≤ date.day &&
    date.day ≤ (monthLengths (isLeap date.year)).getD (date.month - 1) 0

end Date

end CallJournal
