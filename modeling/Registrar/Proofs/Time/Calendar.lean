import Registrar.Time.Calendar
import Mathlib.Tactic.IntervalCases

/-!
Days and their numbers.

A day is found in two steps: the year in the cycle of 400 years, then the day in that year. Years
begin in March here, so that month and day depend on nothing but the number of the day in its year
(`Date.ofMarch`), and only the last day of such a year depends on whether there is a leap day.

* `Date.toDays_ofDays`: the day with a number has that number.
* `Date.isValid_ofDays`: it is a day of the calendar.
* `Date.le_year`, `Date.year_le`: days that lie between two years have a year between them.
-/

namespace Registrar.Calendar

/-- The year of the cycle to which a day of the cycle belongs. -/
def yearOfCycle (n : Int) : Int := (n - n / 1460 + n / 36524 - n / 146096) / 365

/-- The number of days of the cycle before a year. -/
def daysBefore (y : Int) : Int := 365 * y + y / 4 - y / 100

/-- A day by the year in March of which the count began, and by its number in that year. -/
def Date.ofMarch (year dayOfYear : Int) : Date :=
  let monthFromMarch := (5 * dayOfYear + 2) / 153
  let month := if monthFromMarch < 10 then monthFromMarch + 3 else monthFromMarch - 9
  ⟨year + if month ≤ 2 then 1 else 0, month.toNat,
    (dayOfYear - (153 * monthFromMarch + 2) / 5 + 1).toNat⟩

theorem Date.ofDays_eq (n : Int) :
    Date.ofDays n =
      Date.ofMarch ((n + 719468) / 146097 * 400 + yearOfCycle ((n + 719468) % 146097))
        ((n + 719468) % 146097 - daysBefore (yearOfCycle ((n + 719468) % 146097))) := rfl

/-! ### A day of the cycle -/

section Cycle

variable {n : Int}

theorem yearOfCycle_bounds (cycle : 0 ≤ n ∧ n < 146097) :
    0 ≤ yearOfCycle n ∧ yearOfCycle n < 400 := by
  unfold yearOfCycle
  omega

/-- The division by 365 in the year, without the division. -/
theorem yearOfCycle_rounded (n : Int) :
    365 * yearOfCycle n ≤ n - n / 1460 + n / 36524 - n / 146096 ∧
      n - n / 1460 + n / 36524 - n / 146096 ≤ 365 * yearOfCycle n + 364 := by
  unfold yearOfCycle
  omega

/-- The day lies in its year. -/
theorem dayOfYear_bounds (cycle : 0 ≤ n ∧ n < 146097) :
    0 ≤ n - daysBefore (yearOfCycle n) ∧ n - daysBefore (yearOfCycle n) ≤ 365 := by
  have year := yearOfCycle_bounds cycle
  have rounded := yearOfCycle_rounded n
  unfold daysBefore
  generalize yearOfCycle n = y at *
  have fours : y / 4 ≤ n / 1460 ∧ n / 1460 ≤ y / 4 + 1 := by omega
  have centuries : y / 100 * 25 ≤ y / 4 := by omega
  refine ⟨by omega, ?_⟩
  -- Only the last day of the cycle lies past four centuries of 36524 days.
  have last : n / 146096 = 0 ∨ n = 146096 := by omega
  rcases last with early | last
  · by_contra beyond
    have century : n / 36524 < y / 100 → n < 36524 * (y / 100) := by omega
    have reached : y / 100 ≤ n / 36524 := by omega
    omega
  · omega

/-- Only a year that ends in the February of a leap year has a day 365. -/
theorem leap_of_dayOfYear (cycle : 0 ≤ n ∧ n < 146097)
    (day : n - daysBefore (yearOfCycle n) = 365) :
    (yearOfCycle n + 1) % 4 = 0 ∧
      ((yearOfCycle n + 1) % 100 ≠ 0 ∨ (yearOfCycle n + 1) % 400 = 0) := by
  have year := yearOfCycle_bounds cycle
  have rounded := yearOfCycle_rounded n
  unfold daysBefore at day
  generalize yearOfCycle n = y at *
  have centuries : y / 100 * 25 ≤ y / 4 := by omega
  have last : n / 146096 = 0 ∨ n = 146096 := by omega
  constructor
  · by_contra common
    have early : y ≤ 4 * (y / 4) + 2 := by omega
    have fours : n / 1460 = y / 4 := by omega
    rcases last with first | last
    · have century : n / 36524 < y / 100 → n < 36524 * (y / 100) := by omega
      have reached : y / 100 ≤ n / 36524 := by omega
      omega
    · omega
  · by_contra common
    have ends : (y + 1) % 100 = 0 ∧ (y + 1) % 400 ≠ 0 := by omega
    have fours : y / 100 * 25 + 24 = y / 4 ∧ n / 1460 ≤ y / 4 + 1 := by omega
    have century : n / 36524 = y / 100 + 1 := by omega
    omega

end Cycle

/-! ### A day of the year -/

theorem Date.toDays_ofMarch {y d : Int} (cycle : Int) (year : 0 ≤ y ∧ y < 400)
    (day : 0 ≤ d ∧ d ≤ 365) :
    (Date.ofMarch (cycle * 400 + y) d).toDays = cycle * 146097 + daysBefore y + d - 719468 := by
  unfold Date.toDays Date.ofMarch daysBefore
  dsimp only
  generalize month : (5 * d + 2) / 153 = m
  obtain ⟨lo, hi⟩ : 0 ≤ m ∧ m < 12 := by omega
  interval_cases m <;> simp <;> omega

theorem Date.isValid_ofMarch {y d : Int} (day : 0 ≤ d ∧ d ≤ 365)
    (leap : d = 365 → isLeapYear (y + 1) = true) : (Date.ofMarch y d).isValid = true := by
  unfold Date.isValid Date.ofMarch
  dsimp only
  generalize month : (5 * d + 2) / 153 = m
  obtain ⟨lo, hi⟩ : 0 ≤ m ∧ m < 12 := by omega
  interval_cases m
  case «11» =>
    by_cases last : d = 365
    · simp [daysInMonth, leap last, last]
    · simp [daysInMonth]
      split <;> omega
  all_goals
    simp [daysInMonth]
    omega

/-! ### All days -/

/-- The day with a number has that number. -/
theorem Date.toDays_ofDays (n : Int) : (Date.ofDays n).toDays = n := by
  have cycle : 0 ≤ (n + 719468) % 146097 ∧ (n + 719468) % 146097 < 146097 := by omega
  rw [Date.ofDays_eq, Date.toDays_ofMarch _ (yearOfCycle_bounds cycle) (dayOfYear_bounds cycle)]
  omega

/-- It is a day of the calendar. -/
theorem Date.isValid_ofDays (n : Int) : (Date.ofDays n).isValid = true := by
  have cycle : 0 ≤ (n + 719468) % 146097 ∧ (n + 719468) % 146097 < 146097 := by omega
  rw [Date.ofDays_eq]
  refine Date.isValid_ofMarch (dayOfYear_bounds cycle) fun last => ?_
  obtain ⟨four, century⟩ := leap_of_dayOfYear cycle last
  simp only [isLeapYear, Bool.and_eq_true, Bool.or_eq_true, beq_iff_eq, bne_iff_ne]
  omega

/-! ### Months and years -/

section Valid

variable {d : Date}

/-- A day of the calendar has a month, and a place in it. -/
theorem Date.bounds_of_isValid (valid : d.isValid = true) :
    (1 ≤ d.month ∧ d.month ≤ 12) ∧ 1 ≤ d.day ∧ d.day ≤ 31 := by
  obtain ⟨year, month, day⟩ := d
  simp only [isValid, Bool.and_eq_true, decide_eq_true_eq] at valid ⊢
  unfold daysInMonth at valid
  split at valid <;> (try split at valid) <;> omega

/-- A year has no day before its first of January and none after its last of December. -/
theorem Date.toDays_bounds (valid : d.isValid = true) :
    (Date.mk d.year 1 1).toDays ≤ d.toDays ∧ d.toDays ≤ (Date.mk d.year 12 31).toDays := by
  obtain ⟨⟨lo, hi⟩, first, last⟩ := Date.bounds_of_isValid valid
  simp only [isValid, Bool.and_eq_true, decide_eq_true_eq] at valid
  obtain ⟨year, month, day⟩ := d
  unfold Date.toDays
  dsimp only at *
  interval_cases month <;> simp [daysInMonth] at * <;> omega

/-- Earlier years end before later ones begin. -/
theorem Date.toDays_lt_of_year_lt {y y' : Int} (earlier : y < y') :
    (Date.mk y 12 31).toDays < (Date.mk y' 1 1).toDays := by
  simp [Date.toDays]
  omega

theorem Date.le_year (valid : d.isValid = true) {y : Int}
    (after : (Date.mk y 1 1).toDays ≤ d.toDays) : y ≤ d.year := by
  by_contra earlier
  have last := (Date.toDays_bounds valid).2
  have next := Date.toDays_lt_of_year_lt (not_le.mp earlier)
  omega

theorem Date.year_le (valid : d.isValid = true) {y : Int}
    (before : d.toDays ≤ (Date.mk y 12 31).toDays) : d.year ≤ y := by
  by_contra later
  have first := (Date.toDays_bounds valid).1
  have previous := Date.toDays_lt_of_year_lt (not_le.mp later)
  omega

end Valid

end Registrar.Calendar
