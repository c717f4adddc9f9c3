import CallJournal.Time.Date

/-! Every day has a date of the calendar, from which it is counted back. The proof goes by periods
of 400, 100, 4 and 1 years. -/

namespace CallJournal.Date

variable {day : Int} {year other : Int} {dayOfYear : Nat} {lengths : List Nat}

def yearLength (year : Int) : Nat := if isLeap year then 366 else 365

/-- A day of the year lies in one of the months, behind all that are before it. -/
theorem monthDay_cases (first : Nat) (inside : dayOfYear < lengths.foldr (· + ·) 0) :
    ∃ before length after, lengths = before ++ length :: after ∧
      ∃ dayOfMonth < length, before.foldr (· + ·) 0 + dayOfMonth = dayOfYear ∧
        monthDay first lengths dayOfYear = (first + before.length, dayOfMonth + 1) := by
  induction lengths generalizing first dayOfYear with
  | nil => exact absurd inside (Nat.not_lt_zero _)
  | cons length rest ih =>
    by_cases here : dayOfYear < length
    · refine ⟨[], length, rest, rfl, dayOfYear, here, Nat.zero_add _, ?_⟩
      rw [monthDay, if_pos here]
      rfl
    · have later : dayOfYear - length < rest.foldr (· + ·) 0 := by
        rw [List.foldr_cons] at inside
        omega
      obtain ⟨before, inner, after, rfl, dayOfMonth, small, sum, found⟩ := ih (first + 1) later
      refine ⟨length :: before, inner, after, rfl, dayOfMonth, small, ?_, ?_⟩
      · rw [List.foldr_cons]
        omega
      · rw [monthDay, if_neg here, found, List.length_cons, Nat.add_assoc, Nat.add_comm 1]

theorem sum_monthLengths (year : Int) :
    (monthLengths (isLeap year)).foldr (· + ·) 0 = yearLength year := by
  unfold yearLength
  cases isLeap year <;> rfl

theorem length_monthLengths (leap : Bool) : (monthLengths leap).length = 12 := rfl

/-- Whether a year has a day more decides how many days there are before the next one. -/
theorem daysBefore_succ (year : Int) :
    daysBefore (year + 1) = daysBefore year + yearLength year := by
  simp only [daysBefore, yearLength, isLeap, Bool.and_eq_true, Bool.or_eq_true, beq_iff_eq,
    bne_iff_ne, ne_eq]
  split <;> omega

theorem daysBefore_le (earlier : year ≤ other) : daysBefore year ≤ daysBefore other := by
  simp only [daysBefore]
  omega

section

variable {era : Int} {century cycle single : Nat}

/-- The year that begins behind some periods of 400, 100, 4 and 1 years. -/
def yearBehind (era : Int) (century cycle single : Nat) : Int :=
  era * 400 + (century * 100 + cycle * 4 + single + 1 : Nat)

/-- How a day falls into periods: the last day of a leap year is the only one behind 365 others. -/
theorem exists_periods (day : Int) : ∃ (era : Int) (century cycle single dayOfYear : Nat),
    century ≤ 3 ∧ cycle ≤ 24 ∧ single ≤ 3 ∧ dayOfYear ≤ 365 ∧
      (dayOfYear = 365 → single = 3 ∧ (cycle = 24 → century = 3)) ∧
      era * 146097 + century * 36524 + cycle * 1461 + single * 365 + dayOfYear =
        day + epochOffset ∧
      ofDay day = ⟨yearBehind era century cycle single,
        (monthDay 1 (monthLengths (isLeap (yearBehind era century cycle single))) dayOfYear).1,
        (monthDay 1 (monthLengths (isLeap (yearBehind era century cycle single)))
          dayOfYear).2⟩ := by
  refine ⟨_, _, _, _, _, ?_, ?_, ?_, ?_, ?_, ?_, rfl⟩ <;> omega

theorem daysBefore_yearBehind (centuries : century ≤ 3) (cycles : cycle ≤ 24)
    (singles : single ≤ 3) : daysBefore (yearBehind era century cycle single) =
      era * 146097 + century * 36524 + cycle * 1461 + single * 365 := by
  have past : yearBehind era century cycle single - 1 =
      era * 400 + century * 100 + cycle * 4 + single := by
    simp only [yearBehind]
    omega
  have fourths : (era * 400 + century * 100 + cycle * 4 + single : Int) / 4 =
      era * 100 + century * 25 + cycle := by omega
  have hundredths : (era * 400 + century * 100 + cycle * 4 + single : Int) / 100 =
      era * 4 + century := by omega
  have whole : (era * 400 + century * 100 + cycle * 4 + single : Int) / 400 = era := by omega
  simp only [daysBefore, past, fourths, hundredths, whole]
  omega

/-- A leap year is the last one of four, unless these are the last ones of a century that is not the
last one of its era. -/
theorem isLeap_yearBehind (centuries : century ≤ 3) (cycles : cycle ≤ 24) (singles : single ≤ 3) :
    isLeap (yearBehind era century cycle single) = true ↔
      single = 3 ∧ (cycle = 24 → century = 3) := by
  simp only [yearBehind, isLeap, Bool.and_eq_true, Bool.or_eq_true, beq_iff_eq, bne_iff_ne, ne_eq]
  omega

end

theorem exists_dayOfYear (day : Int) : ∃ (year : Int) (dayOfYear : Nat),
    dayOfYear < yearLength year ∧ daysBefore year + dayOfYear = day + epochOffset ∧
      ofDay day = ⟨year, (monthDay 1 (monthLengths (isLeap year)) dayOfYear).1,
        (monthDay 1 (monthLengths (isLeap year)) dayOfYear).2⟩ := by
  obtain ⟨era, century, cycle, single, dayOfYear, centuries, cycles, singles, long, last, sum,
      date⟩ :=
    exists_periods day
  refine ⟨_, dayOfYear, ?_, ?_, date⟩
  · unfold yearLength
    split
    · exact Nat.lt_succ_of_le long
    · rename_i common
      rw [isLeap_yearBehind centuries cycles singles] at common
      exact Nat.lt_of_le_of_ne long fun behind => common (last behind)
  · rw [daysBefore_yearBehind centuries cycles singles]
    exact sum

/-- The parts of the date of a day, and how they are counted. -/
theorem ofDay_cases (day : Int) :
    ∃ (year : Int) (before after : List Nat) (length dayOfMonth : Nat),
    monthLengths (isLeap year) = before ++ length :: after ∧ dayOfMonth < length ∧
      daysBefore year + (before.foldr (· + ·) 0 + dayOfMonth : Nat) = day + epochOffset ∧
      ofDay day = ⟨year, 1 + before.length, dayOfMonth + 1⟩ := by
  obtain ⟨year, dayOfYear, inside, sum, date⟩ := exists_dayOfYear day
  obtain ⟨before, length, after, months, dayOfMonth, small, whole, found⟩ :=
    monthDay_cases 1 (sum_monthLengths year ▸ inside)
  rw [found] at date
  exact ⟨year, before, after, length, dayOfMonth, months, small, whole ▸ sum, date⟩

theorem isValid_ofDay (day : Int) : (ofDay day).isValid = true := by
  obtain ⟨year, before, after, length, dayOfMonth, months, small, -, date⟩ := ofDay_cases day
  have twelve : before.length < 12 := by
    rw [← length_monthLengths (isLeap year), months, List.length_append, List.length_cons]
    omega
  have known : (monthLengths (isLeap year)).getD (1 + before.length - 1) 0 = length := by
    rw [months, Nat.add_sub_cancel_left]
    simp
  rw [date, isValid]
  simp only [known, Bool.and_eq_true, decide_eq_true_eq]
  omega

theorem month_le {date : Date} (valid : date.isValid = true) : date.month ≤ 12 := by
  simp only [isValid, Bool.and_eq_true, decide_eq_true_eq] at valid
  exact valid.1.1.2

theorem day_le {date : Date} (valid : date.isValid = true) : date.day ≤ 31 := by
  have lengths : ∀ leap, ∀ index < 12, (monthLengths leap).getD index 0 ≤ 31 := by decide
  simp only [isValid, Bool.and_eq_true, decide_eq_true_eq] at valid
  exact Nat.le_trans valid.2 (lengths (isLeap date.year) (date.month - 1) (by omega))

theorem toDay_ofDay (day : Int) : (ofDay day).toDay = day := by
  obtain ⟨year, before, after, length, dayOfMonth, months, -, sum, date⟩ := ofDay_cases day
  have behind : daysBeforeMonth (isLeap year) (1 + before.length) = before.foldr (· + ·) 0 := by
    rw [daysBeforeMonth, months, Nat.add_sub_cancel_left, List.take_left]
  simp only [date, toDay, behind]
  omega

theorem toDay_newYear (year : Int) : toDay ⟨year, 1, 1⟩ = daysBefore year - epochOffset := by
  have none : daysBeforeMonth (isLeap year) 1 = 0 := rfl
  simp only [toDay, none]
  omega

/-- Earlier years have the earlier days. -/
theorem year_ofDay_lt_iff : (ofDay day).year < year ↔ day < toDay ⟨year, 1, 1⟩ := by
  obtain ⟨own, dayOfYear, inside, sum, date⟩ := exists_dayOfYear day
  have next := daysBefore_succ own
  rw [congrArg Date.year date, toDay_newYear]
  constructor
  · intro earlier
    have before : daysBefore (own + 1) ≤ daysBefore year := daysBefore_le earlier
    omega
  · intro earlier
    apply Int.lt_of_not_ge
    intro later
    have before : daysBefore year ≤ daysBefore own := daysBefore_le later
    omega

end CallJournal.Date
