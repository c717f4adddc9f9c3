import CallJournal.Time.Date
import CallJournal.Time.Duration

/-! Points in time. Inside a leap second the nanoseconds are a second's worth or more. -/

namespace CallJournal

/-- Seconds since 1970-01-01T00:00:00Z and nanoseconds after them. -/
structure Instant where
  seconds : Int
  nanos : Nat
  deriving DecidableEq, Repr

namespace Instant

def secondsPerDay : Int := 86400

def date (instant : Instant) : Date := .ofDay (instant.seconds / secondsPerDay)

def secondOfDay (instant : Instant) : Nat := (instant.seconds % secondsPerDay).toNat

def inLeapSecond (instant : Instant) : Bool := Duration.nanosPerSecond ≤ instant.nanos

def lastDay : Int := Date.toDay ⟨262142, 12, 31⟩

/-- Moves an instant forward. A sum that leaves a leap second counts on from the second before it;
one that leaves the calendar is refused. -/
def plus? (instant : Instant) (duration : Duration) : Option Instant :=
  let total := instant.nanos + duration.nanos
  let sum : Instant :=
    if instant.inLeapSecond then
      if total < 2 * Duration.nanosPerSecond then ⟨instant.seconds, total⟩
      else
        let escaped := total - Duration.nanosPerSecond
        ⟨instant.seconds + (escaped / Duration.nanosPerSecond : Nat),
          escaped % Duration.nanosPerSecond⟩
    else
      ⟨instant.seconds + (total / Duration.nanosPerSecond : Nat),
        total % Duration.nanosPerSecond⟩
  if sum.seconds / secondsPerDay ≤ lastDay then some sum else none

/-- A number with leading zeros up to a width. -/
def padded (width value : Nat) : List Char :=
  let digits := Nat.toDigits 10 value
  List.replicate (width - digits.length) '0' ++ digits

/-- Four digits from year 0 to 9999; outside, a sign and at least four digits. -/
def yearText (year : Int) : List Char :=
  if 0 ≤ year ∧ year ≤ 9999 then padded 4 year.toNat
  else (if year < 0 then '-' else '+') :: padded 4 year.natAbs

/-- Date and time of day to the second, in UTC. -/
def text (instant : Instant) : String :=
  let date := instant.date
  let second := instant.secondOfDay % 60 + if instant.inLeapSecond then 1 else 0
  String.ofList <|
    yearText date.year ++ '-' :: padded 2 date.month ++ '-' :: padded 2 date.day ++
      'T' :: padded 2 (instant.secondOfDay / 3600) ++
      ':' :: padded 2 (instant.secondOfDay / 60 % 60) ++ ':' :: padded 2 second ++ ['Z']

/-- The number that some digits are; nothing but digits is accepted. -/
def number? (digits : List Char) : Option Nat :=
  if !digits.isEmpty && digits.all Char.isDigit then some (Nat.ofDigitChars 10 digits 0) else none

/-- The fields of a date and time text: year, month, day, hour, minute, second. -/
def readFields? (text : List Char) : Option (Date × Nat × Nat × Nat) := do
  let (sign, unsigned) := match text with
    | '-' :: rest => ((-1 : Int), rest)
    | '+' :: rest => (1, rest)
    | _ => (1, text)
  let year ← number? (unsigned.takeWhile Char.isDigit)
  match unsigned.dropWhile Char.isDigit with
  | ['-', m1, m2, '-', d1, d2, 'T', h1, h2, ':', n1, n2, ':', s1, s2, 'Z'] =>
    let month ← number? [m1, m2]
    let day ← number? [d1, d2]
    let hour ← number? [h1, h2]
    let minute ← number? [n1, n2]
    let second ← number? [s1, s2]
    return (⟨sign * year, month, day⟩, hour, minute, second)
  | _ => none

/-- The seconds since 1970 that a date and time text stands for; a second 60 counts as the one
before it. -/
def readSeconds? (text : String) : Option Int := do
  let (date, hour, minute, second) ← readFields? text.toList
  if date.isValid && hour < 24 && minute < 60 && second ≤ 60 then
    some (date.toDay * secondsPerDay + (hour * 3600 + minute * 60 + min second 59 : Nat))
  else none

end Instant

end CallJournal
