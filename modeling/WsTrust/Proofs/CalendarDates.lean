import Mathlib.Tactic.IntervalCases
import WsTrust.Calendar

/-!
# Dates and the days that are counted

The days from one date to another are counted by year, where an era of four
hundred years always has the same number of days.  Counting loses nothing: the
date is found again from the number of its day, and date and time of day are
found again from their instant.
-/

namespace WsTrust

def Instant.earlier (instant : Instant) (seconds : Int) : Instant where
  seconds := instant.seconds - seconds
  nanoseconds := instant.nanoseconds

@[simp]
theorem Instant.earlier_zero (instant : Instant) :
    instant.earlier 0 = instant := by
  rw [earlier, Int.sub_zero]

namespace Calendar

/-! ## Days of an era -/

/-- A day of a year of an era, both counted from zero.  Years begin in March, so
that the last day of a year is missing unless the year ends with a leap day. -/
structure IsDayOfYear (yearOfEra dayOfYear : Int) : Prop where
  year_nonneg : 0 ≤ yearOfEra
  year_lt : yearOfEra < 400
  day_nonneg : 0 ≤ dayOfYear
  day_le : dayOfYear ≤ 365
  leapDay : dayOfYear = 365 →
    (yearOfEra + 1) % 4 = 0 ∧
      ((yearOfEra + 1) % 100 ≠ 0 ∨ (yearOfEra + 1) % 400 = 0)

namespace IsDayOfYear

variable {yearOfEra dayOfYear dayOfEra : Int}
  (isDay : IsDayOfYear yearOfEra dayOfYear)
  (counted :
    yearOfEra * 365 + yearOfEra / 4 - yearOfEra / 100 + dayOfYear = dayOfEra)

include isDay counted

/-- The year is found from the day of the era: each leap day is made up for by a
correction, which sets in on that day or earlier in its year. -/
theorem yearOfEra_eq :
    (dayOfEra - dayOfEra / 1460 + dayOfEra / 36524 - dayOfEra / 146096) / 365 =
      yearOfEra := by
  obtain ⟨nonneg, below, first, last, leapDay⟩ := isDay
  obtain ⟨century, cycle, year, rfl, _, _, _⟩ :
      ∃ century cycle year : Int,
        yearOfEra = century * 100 + cycle * 4 + year ∧
          (0 ≤ century ∧ century ≤ 3) ∧ (0 ≤ cycle ∧ cycle ≤ 24) ∧
            0 ≤ year ∧ year ≤ 3 :=
    ⟨yearOfEra / 100, yearOfEra % 100 / 4, yearOfEra % 4, by omega⟩
  have days :
      dayOfEra = century * 36524 + cycle * 1461 + year * 365 + dayOfYear := by
    omega
  have leapYear : dayOfYear = 365 → year = 3 ∧ (cycle = 24 → century = 3) := by
    omega
  clear counted leapDay
  have cycles :
      dayOfEra / 1460 = century * 25 + cycle +
        if 1460 ≤ century * 24 + cycle + year * 365 + dayOfYear then 1
        else 0 := by
    split <;> omega
  have centuries : dayOfEra / 36524 = century + dayOfEra / 146096 := by
    by_cases lastOfEra : dayOfEra = 146096
    · omega
    · have inCentury : cycle * 1461 + year * 365 + dayOfYear < 36524 := by
        omega
      have reached : dayOfEra / 36524 = century := by omega
      omega
  split at cycles <;> omega

theorem dayOfEra_mem : 0 ≤ dayOfEra ∧ dayOfEra < 146097 := by
  obtain ⟨nonneg, below, first, last, leapDay⟩ := isDay
  omega

theorem dateOfDays_eq (era : Int) :
    dateOfDays (era * 146097 + dayOfEra - 719468) =
      (let marchMonth := (5 * dayOfYear + 2) / 153
        let day := dayOfYear - (153 * marchMonth + 2) / 5 + 1
        let month :=
          if marchMonth < 10 then marchMonth + 3 else marchMonth - 9
        let year := yearOfEra + era * 400
        (if month ≤ 2 then year + 1 else year, month.toNat, day.toNat)) := by
  have inEra := isDay.dayOfEra_mem counted
  have era_eq :
      (era * 146097 + dayOfEra - 719468 + 719468) / 146097 = era := by
    omega
  have dayOfEra_eq :
      (era * 146097 + dayOfEra - 719468 + 719468) % 146097 = dayOfEra := by
    omega
  have dayOfYear_eq :
      dayOfEra - (365 * yearOfEra + yearOfEra / 4 - yearOfEra / 100) =
        dayOfYear := by
    omega
  simp only [dateOfDays, era_eq, dayOfEra_eq, isDay.yearOfEra_eq counted,
    dayOfYear_eq]

end IsDayOfYear

/-! ## Months -/

theorem daysInMonth_le (year : Int) (month : Nat) :
    daysInMonth year month ≤ 31 := by
  unfold daysInMonth
  split
  · split <;> decide
  · split <;> decide

theorem isLeapYear_iff (year : Int) :
    isLeapYear year = true ↔
      year % 4 = 0 ∧ (year % 100 ≠ 0 ∨ year % 400 = 0) := by
  simp [isLeapYear]

/-- The month of a day of a year that begins in March. -/
theorem marchMonth_eq
    {marchMonth day : Int}
    (firstMonth : 0 ≤ marchMonth) (lastMonth : marchMonth ≤ 11)
    (firstDay : 1 ≤ day) (lastDay : day ≤ 31)
    (short : marchMonth ∈ [1, 3, 6, 8, 11] → day ≤ 30) :
    (5 * ((153 * marchMonth + 2) / 5 + day - 1) + 2) / 153 = marchMonth := by
  interval_cases marchMonth <;> simp at short <;> omega

/-- A month and its year as they are counted, where January and February belong
to the year before. -/
structure IsCountedAs
    (year : Int) (month : Nat) (marchYear marchMonth : Int) : Prop where
  year_eq : marchYear = if month ≤ 2 then year - 1 else year
  month_eq : marchMonth = if month ≤ 2 then (month : Int) + 9 else month - 3

namespace IsCountedAs

variable {year marchYear marchMonth : Int} {month day : Nat}
  (counted : IsCountedAs year month marchYear marchMonth)
  (firstMonth : 1 ≤ month) (lastMonth : month ≤ 12)
  (firstDay : 1 ≤ day) (lastDay : day ≤ daysInMonth year month)

include counted

theorem daysOfDate_eq :
    daysOfDate year month day =
      marchYear / 400 * 146097 +
          (marchYear % 400 * 365 + marchYear % 400 / 4 -
              marchYear % 400 / 100 +
            ((153 * marchMonth + 2) / 5 + day - 1)) -
        719468 := by
  obtain ⟨rfl, rfl⟩ := counted
  rfl

include firstMonth lastMonth

theorem marchMonth_mem : 0 ≤ marchMonth ∧ marchMonth ≤ 11 := by
  have month_eq := counted.month_eq
  split at month_eq <;> omega

include lastDay

theorem day_le_of_short (short : marchMonth ∈ [1, 3, 6, 8, 11]) :
    (day : Int) ≤ 30 := by
  obtain ⟨rfl, rfl⟩ := counted
  interval_cases month <;> simp [daysInMonth] at lastDay short <;> try omega
  split at lastDay <;> omega

/-- A month that is counted last is February, which has at most one more day
than every year has. -/
theorem february (last : marchMonth = 11) :
    day ≤ 28 ∨
      day = 29 ∧
        (marchYear + 1) % 4 = 0 ∧
          ((marchYear + 1) % 100 ≠ 0 ∨ (marchYear + 1) % 400 = 0) := by
  obtain ⟨rfl, rfl⟩ := counted
  have isFebruary : month = 2 := by
    split at last <;> omega
  subst isFebruary
  rw [if_pos (by decide), Int.sub_add_cancel, ← isLeapYear_iff]
  cases leap : isLeapYear year <;>
    simp [daysInMonth, leap] at lastDay ⊢ <;> omega

include firstDay

theorem isDayOfYear :
    IsDayOfYear (marchYear % 400)
      ((153 * marchMonth + 2) / 5 + (day : Int) - 1) := by
  obtain ⟨first, last⟩ := counted.marchMonth_mem firstMonth lastMonth
  have february := counted.february firstMonth lastMonth lastDay
  have atMost := daysInMonth_le year month
  constructor <;> omega

end IsCountedAs

/-- The date of a day is found again from the number of the day. -/
theorem dateOfDays_daysOfDate
    {year : Int} {month day : Nat}
    (firstMonth : 1 ≤ month) (lastMonth : month ≤ 12) (firstDay : 1 ≤ day)
    (lastDay : day ≤ daysInMonth year month) :
    dateOfDays (daysOfDate year month day) = (year, month, day) := by
  obtain ⟨marchYear, marchMonth, counted⟩ :
      ∃ marchYear marchMonth, IsCountedAs year month marchYear marchMonth :=
    ⟨_, _, rfl, rfl⟩
  have isDay :=
    counted.isDayOfYear firstMonth lastMonth firstDay lastDay
  have inYear := counted.marchMonth_mem firstMonth lastMonth
  have atMost := daysInMonth_le year month
  have monthOfDay :
      (5 * ((153 * marchMonth + 2) / 5 + (day : Int) - 1) + 2) / 153 =
        marchMonth :=
    marchMonth_eq inYear.1 inYear.2 (by omega) (by omega)
      (counted.day_le_of_short firstMonth lastMonth lastDay)
  have monthOfYear :
      (if marchMonth < 10 then marchMonth + 3 else marchMonth - 9) = month := by
    have month_eq := counted.month_eq
    split at month_eq <;> split <;> omega
  have year_eq := counted.year_eq
  rw [counted.daysOfDate_eq, isDay.dateOfDays_eq rfl]
  simp only [monthOfDay, monthOfYear, Prod.mk.injEq]
  split at year_eq <;> split <;> omega

/-! ## Instants -/

namespace DateTime

variable {moment : DateTime}

/-- What a valid date and time of day consists of. -/
theorem isValid_iff :
    moment.isValid = true ↔
      isYear moment.year = true ∧
        (1 ≤ moment.month ∧ moment.month ≤ 12) ∧
        (1 ≤ moment.day ∧
          moment.day ≤ daysInMonth moment.year moment.month) ∧
        moment.hour < 24 ∧ moment.minute < 60 ∧ moment.second ≤ 60 := by
  simp only [isValid, Bool.and_eq_true, decide_eq_true_eq, and_assoc]

/-- The second of a moment that is counted: a leap second is not. -/
def countedSecond (moment : DateTime) : Nat :=
  if moment.second = 60 then 59 else moment.second

def secondOfDay (moment : DateTime) : Nat :=
  moment.hour * 3600 + moment.minute * 60 + moment.countedSecond

def instant (moment : DateTime) : Instant where
  seconds :=
    daysOfDate moment.year moment.month moment.day * 86400 +
      moment.secondOfDay
  nanoseconds :=
    if moment.second = 60 then moment.nanoseconds + 1000000000
    else moment.nanoseconds

/-- A moment that is ahead of universal time is that much earlier. -/
theorem toInstant?_of_isValid
    (isValid : moment.isValid = true) (offset : Int) :
    moment.toInstant? offset = some (moment.instant.earlier offset) := by
  rw [toInstant?, if_pos isValid]
  simp only [Instant.earlier, instant, secondOfDay, countedSecond,
    beq_iff_eq]

/-- Date and time of day are found again from their instant. -/
theorem ofInstant_instant
    (isValid : moment.isValid = true)
    (fraction : moment.nanoseconds < 1000000000) :
    ofInstant moment.instant = moment := by
  obtain ⟨_, months, days, hours, minutes, seconds⟩ := isValid_iff.mp isValid
  have counted : moment.countedSecond < 60 := by
    rw [countedSecond]
    split <;> omega
  have inDay : moment.secondOfDay < 86400 := by
    rw [secondOfDay]
    omega
  have day_eq :
      moment.instant.seconds / 86400 =
        daysOfDate moment.year moment.month moment.day := by
    simp only [instant]
    omega
  have second_eq :
      (moment.instant.seconds % 86400).toNat = moment.secondOfDay := by
    simp only [instant]
    omega
  have hour_eq : moment.secondOfDay / 3600 = moment.hour := by
    rw [secondOfDay]
    omega
  have minute_eq : moment.secondOfDay / 60 % 60 = moment.minute := by
    rw [secondOfDay]
    omega
  have rest_eq : moment.secondOfDay % 60 = moment.countedSecond := by
    rw [secondOfDay]
    omega
  rw [ofInstant, day_eq, second_eq,
    dateOfDays_daysOfDate months.1 months.2 days.1 days.2]
  simp only [hour_eq, minute_eq, rest_eq]
  by_cases isLeapSecond : moment.second = 60
  · simp only [instant, countedSecond, if_pos isLeapSecond]
    have second : 59 + 1 = moment.second := isLeapSecond.symm
    rw [if_pos (by simp), Nat.add_mod_right, Nat.mod_eq_of_lt fraction,
      second]
  · simp only [instant, countedSecond, if_neg isLeapSecond]
    rw [if_neg (by simpa using fraction), Nat.mod_eq_of_lt fraction]

end DateTime

end Calendar

end WsTrust
