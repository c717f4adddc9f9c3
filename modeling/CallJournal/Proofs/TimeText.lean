import CallJournal.Proofs.Calendar
import CallJournal.Text.Ascii
import CallJournal.Time.Instant
import Mathlib.Data.List.Basic

namespace CallJournal.Instant

variable {width value : Nat} {instant : Instant} {year : Int} {digits : List Char}

/-- What a clock can show: a leap second is the last one of its minute, and has an end. -/
structure IsOnClock (instant : Instant) : Prop where
  nanos : instant.nanos < 2 * Duration.nanosPerSecond
  leap : instant.inLeapSecond = true → instant.secondOfDay % 60 = 59

theorem isDigit_of_mem_padded {char : Char} (among : char ∈ padded width value) :
    char.isDigit = true := by
  rcases List.mem_append.mp among with zero | digit
  · rw [List.eq_of_mem_replicate zero]
    rfl
  · exact Nat.isDigit_of_mem_toDigits (by decide) (by decide) digit

theorem padded_ne_nil : padded width value ≠ [] :=
  List.append_ne_nil_of_right_ne_nil _ Nat.toDigits_ne_nil

theorem ofDigitChars_padded (width value : Nat) :
    Nat.ofDigitChars 10 (padded width value) 0 = value := by
  rw [padded, Nat.ofDigitChars_append, Nat.ofDigitChars_replicate_zero, Nat.mul_zero,
    Nat.ofDigitChars_ten_toDigits]

theorem number?_padded (width value : Nat) : number? (padded width value) = some value := by
  have filled : (padded width value).isEmpty = false :=
    Bool.eq_false_iff.mpr fun vacant => padded_ne_nil (List.isEmpty_iff.mp vacant)
  have numeric : (padded width value).all Char.isDigit = true :=
    List.all_eq_true.mpr fun _ => isDigit_of_mem_padded
  rw [number?, filled, numeric, ofDigitChars_padded]
  rfl

theorem length_padded (positive : 0 < width) (small : value < Nat.pow 10 width) :
    (padded width value).length = width := by
  have short : (Nat.toDigits 10 value).length ≤ width :=
    (Nat.length_toDigits_le_iff (by decide) positive).mpr small
  rw [padded, List.length_append, List.length_replicate]
  omega

theorem exists_padded_two (small : value < 100) :
    ∃ tens ones, padded 2 value = [tens, ones] ∧ number? [tens, ones] = some value := by
  obtain ⟨tens, ones, whole⟩ := List.length_eq_two.mp (length_padded (by decide) small)
  exact ⟨tens, ones, whole, whole ▸ number?_padded 2 value⟩

/-- The fields of a text whose sign has been taken off. -/
def unsignedFields? (sign : Int) (unsigned : List Char) : Option (Date × Nat × Nat × Nat) := do
  let year ← number? (unsigned.takeWhile Char.isDigit)
  match unsigned.dropWhile Char.isDigit with
  | ['-', m1, m2, '-', d1, d2, 'T', h1, h2, ':', n1, n2, ':', s1, s2, 'Z'] =>
    let month ← number? [m1, m2]
    let day ← number? [d1, d2]
    let hour ← number? [h1, h2]
    let minute ← number? [n1, n2]
    let second ← number? [s1, s2]
    return (⟨sign * year, month, day⟩, hour, minute, second)
  | _ => none

theorem readFields?_minus (rest : List Char) :
    readFields? ('-' :: rest) = unsignedFields? (-1) rest := rfl

theorem readFields?_plus (rest : List Char) :
    readFields? ('+' :: rest) = unsignedFields? 1 rest := rfl

theorem readFields?_digit {first : Char} (digit : first.isDigit = true) (rest : List Char) :
    readFields? (first :: rest) = unsignedFields? 1 (first :: rest) := by
  unfold readFields?
  split
  rename_i equal
  split at equal
  · rename_i signed
    rw [(List.cons.inj signed).1] at digit
    exact absurd digit (by decide)
  · rename_i signed
    rw [(List.cons.inj signed).1] at digit
    exact absurd digit (by decide)
  · cases equal
    rfl

/-- Everything behind the year. -/
def afterYear (month day hour minute second : Nat) : List Char :=
  '-' :: padded 2 month ++ '-' :: padded 2 day ++ 'T' :: padded 2 hour ++ ':' :: padded 2 minute ++
    ':' :: padded 2 second ++ ['Z']

section

variable {month day hour minute second : Nat}

/-- The date and the time of day are read behind the digits of a year. -/
theorem unsignedFields?_append_afterYear {sign : Int} {years : Nat} (months : month < 100)
    (days : day < 100) (hours : hour < 100) (minutes : minute < 100) (seconds : second < 100) :
    unsignedFields? sign (padded width years ++ afterYear month day hour minute second) =
      some (⟨sign * years, month, day⟩, hour, minute, second) := by
  obtain ⟨m1, m2, monthWhole, monthRead⟩ := exists_padded_two months
  obtain ⟨d1, d2, dayWhole, dayRead⟩ := exists_padded_two days
  obtain ⟨h1, h2, hourWhole, hourRead⟩ := exists_padded_two hours
  obtain ⟨n1, n2, minuteWhole, minuteRead⟩ := exists_padded_two minutes
  obtain ⟨s1, s2, secondWhole, secondRead⟩ := exists_padded_two seconds
  have behind : afterYear month day hour minute second =
      ['-', m1, m2, '-', d1, d2, 'T', h1, h2, ':', n1, n2, ':', s1, s2, 'Z'] := by
    simp only [afterYear, monthWhole, dayWhole, hourWhole, minuteWhole, secondWhole]
    rfl
  have numeric : ∀ char ∈ padded width years, char.isDigit = true := fun _ => isDigit_of_mem_padded
  have kept : ∀ rest, ('-' :: rest).takeWhile Char.isDigit = [] := fun _ => rfl
  have left : ∀ rest, ('-' :: rest).dropWhile Char.isDigit = '-' :: rest := fun _ => rfl
  rw [unsignedFields?, List.takeWhile_append_of_pos numeric, List.dropWhile_append_of_pos numeric,
    behind, kept, left, List.append_nil, number?_padded]
  simp only [Option.bind_eq_bind, Option.bind_some, monthRead, dayRead, hourRead, minuteRead,
    secondRead]
  rfl

theorem readFields?_yearText_append (year : Int) (months : month < 100) (days : day < 100)
    (hours : hour < 100) (minutes : minute < 100) (seconds : second < 100) :
    readFields? (yearText year ++ afterYear month day hour minute second) =
      some (⟨year, month, day⟩, hour, minute, second) := by
  unfold yearText
  split
  · rename_i plain
    obtain ⟨first, rest, whole⟩ := List.exists_cons_of_ne_nil (@padded_ne_nil 4 year.toNat)
    have digit : first.isDigit = true := isDigit_of_mem_padded (whole ▸ List.mem_cons_self)
    have read := @unsignedFields?_append_afterYear 4 _ _ _ _ _ 1 year.toNat months days hours
      minutes seconds
    rw [whole, List.cons_append] at read ⊢
    rw [readFields?_digit digit, read, Int.one_mul, Int.toNat_of_nonneg plain.1]
  · split
    · rename_i negative
      have size : (-1 : Int) * year.natAbs = year := by omega
      rw [List.cons_append, readFields?_minus,
        unsignedFields?_append_afterYear months days hours minutes seconds, size]
    · rename_i later
      have size : (1 : Int) * year.natAbs = year := by omega
      rw [List.cons_append, readFields?_plus,
        unsignedFields?_append_afterYear months days hours minutes seconds, size]

theorem readFields?_of_date {date : Date} (valid : date.isValid = true) (hours : hour < 24)
    (minutes : minute < 60) (seconds : second ≤ 60) :
    readFields? (yearText date.year ++ afterYear date.month date.day hour minute second) =
      some (date, hour, minute, second) := by
  have months := Date.month_le valid
  have days := Date.day_le valid
  exact readFields?_yearText_append date.year (by omega) (by omega) (by omega) (by omega) (by omega)

theorem readSeconds?_of_readFields? {written : String} {date : Date}
    (read : readFields? written.toList = some (date, hour, minute, second))
    (valid : date.isValid = true) (hours : hour < 24) (minutes : minute < 60)
    (seconds : second ≤ 60) :
    readSeconds? written = some (date.toDay * secondsPerDay +
      (hour * 3600 + minute * 60 + min second 59 : Nat)) := by
  simp only [readSeconds?, read, Option.bind_eq_bind, Option.bind_some, valid, hours, minutes,
    seconds, decide_true, Bool.and_self, if_true]

end

/-- The second that is shown; in a leap second it is the one behind the last. -/
def shownSecond (instant : Instant) : Nat :=
  instant.secondOfDay % 60 + if instant.inLeapSecond then 1 else 0

theorem toList_text (instant : Instant) : instant.text.toList =
    yearText instant.date.year ++ afterYear instant.date.month instant.date.day
      (instant.secondOfDay / 3600) (instant.secondOfDay / 60 % 60) instant.shownSecond := by
  unfold text afterYear shownSecond
  simp only [List.append_assoc, String.toList_ofList]

theorem secondOfDay_lt (instant : Instant) : instant.secondOfDay < 86400 := by
  simp only [secondOfDay, secondsPerDay]
  omega

theorem shownSecond_le (instant : Instant) : instant.shownSecond ≤ 60 := by
  unfold shownSecond
  split <;> omega

/-- Reading takes a leap second for the one before it. -/
theorem min_shownSecond (clock : instant.IsOnClock) :
    min instant.shownSecond 59 = instant.secondOfDay % 60 := by
  unfold shownSecond
  split
  · rename_i leap
    rw [clock.leap leap]
    rfl
  · omega

theorem isValid_date (instant : Instant) : instant.date.isValid = true := Date.isValid_ofDay _

theorem readFields?_text (instant : Instant) : readFields? instant.text.toList =
    some (instant.date, instant.secondOfDay / 3600, instant.secondOfDay / 60 % 60,
      instant.shownSecond) := by
  have day := instant.secondOfDay_lt
  rw [toList_text]
  exact readFields?_of_date instant.isValid_date (by omega) (by omega) instant.shownSecond_le

/-- A written time is read as the second that was written. -/
theorem readSeconds?_text (clock : instant.IsOnClock) :
    readSeconds? instant.text = some instant.seconds := by
  have day := instant.secondOfDay_lt
  have counted : instant.date.toDay = instant.seconds / secondsPerDay := Date.toDay_ofDay _
  have place : (instant.secondOfDay : Int) = instant.seconds % secondsPerDay :=
    Int.toNat_of_nonneg (Int.emod_nonneg _ (by decide))
  rw [readSeconds?_of_readFields? instant.readFields?_text instant.isValid_date (by omega)
    (by omega) instant.shownSecond_le, min_shownSecond clock, counted, Option.some.injEq]
  simp only [secondsPerDay] at place ⊢
  omega

/-- Some digits, as many as `width`, that say a number. -/
structure IsNumeral (width value : Nat) (digits : List Char) : Prop where
  length : digits.length = width
  decimal : ∀ digit ∈ digits, '0' ≤ digit ∧ digit ≤ '9'
  value : Nat.ofDigitChars 10 digits 0 = value

/-- `YYYY-MM-DDTHH:MM:SSZ`, where the calendar has the date and the day has the time. Second 60 is
for leap seconds. -/
def IsRfc3339 (written : String) : Prop :=
  ∃ (year month day hour minute second : Nat)
    (years months days hours minutes seconds : List Char),
    written.toList = years ++ '-' :: months ++ '-' :: days ++ 'T' :: hours ++ ':' :: minutes ++
      ':' :: seconds ++ ['Z'] ∧
    IsNumeral 4 year years ∧ IsNumeral 2 month months ∧ IsNumeral 2 day days ∧
    IsNumeral 2 hour hours ∧ IsNumeral 2 minute minutes ∧ IsNumeral 2 second seconds ∧
    Date.isValid ⟨year, month, day⟩ = true ∧ hour < 24 ∧ minute < 60 ∧ second ≤ 60

theorem isNumeral_padded (positive : 0 < width) (small : value < Nat.pow 10 width) :
    IsNumeral width value (padded width value) where
  length := length_padded positive small
  decimal _ among := Text.isDigit_iff.mp (isDigit_of_mem_padded among)
  value := ofDigitChars_padded width value

theorem not_isRfc3339_of_head {written : String} {sign : Char} {rest : List Char}
    (whole : written.toList = sign :: rest) (other : sign.isDigit = false) :
    ¬ IsRfc3339 written := by
  rintro ⟨year, -, -, -, -, -, years, _, _, _, _, _, parts, numeral, -⟩
  obtain ⟨first, more, front⟩ : ∃ first more, years = first :: more := by
    cases years with
    | nil => cases numeral.length
    | cons first more => exact ⟨first, more, rfl⟩
  have same : sign = first := by
    rw [whole, front] at parts
    exact (List.cons.inj parts).1
  have digit := Text.isDigit_iff.mpr (numeral.decimal first (front ▸ List.mem_cons_self))
  exact absurd (same ▸ digit) (Bool.eq_false_iff.mp other)

theorem isRfc3339_of_date {written : String} {date : Date} {hour minute second : Nat}
    (whole :
      written.toList = yearText date.year ++ afterYear date.month date.day hour minute second)
    (plain : 0 ≤ date.year ∧ date.year ≤ 9999) (valid : date.isValid = true) (hours : hour < 24)
    (minutes : minute < 60) (seconds : second ≤ 60) : IsRfc3339 written := by
  have two {value : Nat} (small : value < 100) : IsNumeral 2 value (padded 2 value) :=
    isNumeral_padded (by decide) small
  have four : IsNumeral 4 date.year.toNat (padded 4 date.year.toNat) :=
    isNumeral_padded (by decide) (show date.year.toNat < 10000 by omega)
  have year : (date.year.toNat : Int) = date.year := Int.toNat_of_nonneg plain.1
  have months := Date.month_le valid
  have days := Date.day_le valid
  rw [yearText, if_pos plain] at whole
  refine ⟨date.year.toNat, date.month, date.day, hour, minute, second, _, _, _, _, _, _, ?_, four,
    two (by omega), two (by omega), two (by omega), two (by omega), two (by omega), ?_, hours,
    minutes, seconds⟩
  · rw [whole]
    simp only [afterYear, List.append_assoc, List.cons_append]
  · rw [year]
    exact valid

/-- Written times are RFC 3339 times as long as four digits are enough for the year. -/
theorem isRfc3339_text_iff : IsRfc3339 instant.text ↔
    0 ≤ instant.date.year ∧ instant.date.year ≤ 9999 := by
  have day := instant.secondOfDay_lt
  constructor
  · intro formed
    by_cases plain : 0 ≤ instant.date.year ∧ instant.date.year ≤ 9999
    · exact plain
    · have whole := instant.toList_text
      rw [yearText, if_neg plain, List.cons_append] at whole
      refine absurd formed (not_isRfc3339_of_head whole ?_)
      split <;> rfl
  · intro plain
    exact isRfc3339_of_date instant.toList_text plain instant.isValid_date (by omega) (by omega)
      instant.shownSecond_le

end CallJournal.Instant
