import Criteria.Calendar.Date
import Mathlib.Data.Int.Init
import Mathlib.Data.Nat.Init

/-!
# Day numbers count days

The number of a real date is the count of days from the first of January 1970 to it, one
day at a time through the months of the proleptic Gregorian calendar, forward or back.
Later dates have greater numbers. A date whose month or day runs over has the number of
the real date that counting on from the first of its month leads to.
-/

namespace Criteria.CivilDate

/-! ## One day after the other -/

def next (date : CivilDate) : CivilDate :=
  if date.day < monthLength date.year date.month then ⟨date.year, date.month, date.day + 1⟩
  else if date.month < 12 then ⟨date.year, date.month + 1, 1⟩
  else ⟨date.year + 1, 1, 1⟩

/-- Dates with their distance in days from the first of January 1970, counted one day at
a time. -/
inductive DayAt : CivilDate → Int → Prop
  | epoch : DayAt ⟨1970, 1, 1⟩ 0
  | next {date : CivilDate} {n : Int} (day : DayAt date n) : DayAt date.next (n + 1)
  | previous {date : CivilDate} {n : Int} (real : date.isReal = true)
      (day : DayAt date.next (n + 1)) : DayAt date n

theorem isReal_mk_iff {year : Int} {month day : Nat} :
    isReal ⟨year, month, day⟩ = true ↔
      1 ≤ month ∧ month ≤ 12 ∧ 1 ≤ day ∧ day ≤ monthLength year month := by
  simp only [isReal, Bool.and_eq_true, decide_eq_true_eq, and_assoc]

theorem isReal_iff {date : CivilDate} :
    date.isReal = true ↔ 1 ≤ date.month ∧ date.month ≤ 12 ∧ 1 ≤ date.day ∧
      date.day ≤ monthLength date.year date.month :=
  isReal_mk_iff

theorem monthLength_bounds (year : Int) (month : Nat) :
    28 ≤ monthLength year month ∧ monthLength year month ≤ 31 := by
  unfold monthLength
  split
  · split <;> omega
  all_goals omega

/-! ## Days before years and months -/

def yearLength (year : Int) : Nat :=
  if isLeap year then 366 else 365

theorem isLeap_iff (year : Int) :
    isLeap year = true ↔ year % 4 = 0 ∧ (year % 100 ≠ 0 ∨ year % 400 = 0) := by
  simp [isLeap]

theorem daysBeforeYear_eq (year : Int) :
    daysBeforeYear year =
      365 * (year - 1) + (year - 1) / 4 - (year - 1) / 100 + (year - 1) / 400 := rfl

theorem daysBeforeYear_succ (year : Int) :
    daysBeforeYear (year + 1) = daysBeforeYear year + yearLength year := by
  have leap := isLeap_iff year
  rw [daysBeforeYear_eq, daysBeforeYear_eq, yearLength]
  by_cases isLeap : isLeap year = true
  · rw [if_pos isLeap]
    have divisible := leap.1 isLeap
    omega
  · rw [if_neg isLeap]
    have indivisible := mt leap.2 isLeap
    omega

theorem daysBeforeYear_mono {year later : Int} (before : year ≤ later) :
    daysBeforeYear year ≤ daysBeforeYear later := by
  rw [daysBeforeYear_eq, daysBeforeYear_eq]
  omega

theorem daysBeforeMonth_succ (year : Int) {month : Nat} (first : 1 ≤ month) :
    daysBeforeMonth year (month + 1) =
      daysBeforeMonth year month + monthLength year month := by
  obtain ⟨earlier, rfl⟩ := Nat.exists_eq_add_of_le' first
  simp [daysBeforeMonth, List.range_succ]

theorem daysBeforeMonth_mono (year : Int) {month later : Nat} (first : 1 ≤ month)
    (before : month ≤ later) : daysBeforeMonth year month ≤ daysBeforeMonth year later := by
  induction later, before using Nat.le_induction with
  | base => exact Nat.le_refl _
  | succ later before ih =>
      rw [daysBeforeMonth_succ year (Nat.le_trans first before)]
      exact Nat.le_add_right_of_le ih

/-- The twelve months make the year. -/
theorem daysBeforeMonth_thirteen (year : Int) : daysBeforeMonth year 13 = yearLength year := by
  unfold daysBeforeMonth yearLength
  cases leap : isLeap year <;> simp [List.range_succ, monthLength, leap]

/-! ## Counting on -/

theorem isReal_next {date : CivilDate} (real : date.isReal = true) :
    date.next.isReal = true := by
  obtain ⟨firstMonth, lastMonth, firstDay, lastDay⟩ := isReal_iff.1 real
  unfold next
  split
  · rename_i more
    exact isReal_mk_iff.2 ⟨firstMonth, lastMonth, Nat.le_add_left 1 _, more⟩
  · split
    · rename_i more
      have bounds := monthLength_bounds date.year (date.month + 1)
      exact isReal_mk_iff.2 ⟨by omega, by omega, Nat.le_refl 1, by omega⟩
    · have bounds := monthLength_bounds (date.year + 1) 1
      exact isReal_mk_iff.2 ⟨Nat.le_refl 1, by decide, Nat.le_refl 1, by omega⟩

/-- The day after a real date has the next number. -/
theorem dayNumber_next {date : CivilDate} (real : date.isReal = true) :
    date.next.dayNumber = date.dayNumber + 1 := by
  obtain ⟨year, month, day⟩ := date
  obtain ⟨firstMonth, lastMonth, firstDay, lastDay⟩ := isReal_mk_iff.1 real
  unfold next
  split
  · simp only [dayNumber]
    omega
  · rename_i noMore
    simp only at noMore
    have months := daysBeforeMonth_succ year firstMonth
    split
    · simp only [dayNumber, months]
      omega
    · rename_i noLater
      simp only at noLater
      obtain rfl : month = 12 := by omega
      have whole := daysBeforeMonth_thirteen year
      have years := daysBeforeYear_succ year
      have january : daysBeforeMonth (year + 1) 1 = 0 := rfl
      simp only [dayNumber, january]
      simp only [Nat.reduceAdd] at months
      omega

/-- The order of dates by year, month and day. -/
def Before (earlier later : CivilDate) : Prop :=
  earlier.year < later.year ∨ earlier.year = later.year ∧
    (earlier.month < later.month ∨ earlier.month = later.month ∧ earlier.day < later.day)

/-- Later dates have greater numbers. -/
theorem dayNumber_lt {earlier later : CivilDate} (earlierReal : earlier.isReal = true)
    (laterReal : later.isReal = true) (before : Before earlier later) :
    earlier.dayNumber < later.dayNumber := by
  obtain ⟨firstMonth, lastMonth, firstDay, lastDay⟩ := isReal_iff.1 earlierReal
  obtain ⟨firstMonth', lastMonth', firstDay', lastDay'⟩ := isReal_iff.1 laterReal
  have months := daysBeforeMonth_succ earlier.year firstMonth
  unfold dayNumber
  rcases before with year | ⟨year, month | ⟨month, day⟩⟩
  · have rest := daysBeforeMonth_mono earlier.year (by omega : 1 ≤ earlier.month + 1)
      (by omega : earlier.month + 1 ≤ 13)
    have whole := daysBeforeMonth_thirteen earlier.year
    have succ := daysBeforeYear_succ earlier.year
    have years := daysBeforeYear_mono (by omega : earlier.year + 1 ≤ later.year)
    omega
  · have rest := daysBeforeMonth_mono earlier.year (by omega : 1 ≤ earlier.month + 1) month
    rw [← year]
    omega
  · rw [← year, ← month]
    omega

theorem before_or_eq_or_before (first second : CivilDate) :
    Before first second ∨ first = second ∨ Before second first := by
  obtain ⟨year, month, day⟩ := first
  obtain ⟨year', month', day'⟩ := second
  simp only [Before, mk.injEq]
  omega

/-- No two real dates share a day number. -/
theorem eq_of_dayNumber_eq {first second : CivilDate} (firstReal : first.isReal = true)
    (secondReal : second.isReal = true) (same : first.dayNumber = second.dayNumber) :
    first = second := by
  rcases before_or_eq_or_before first second with before | equal | after
  · have less := dayNumber_lt firstReal secondReal before
    omega
  · exact equal
  · have less := dayNumber_lt secondReal firstReal after
    omega

/-- Every real date is the day after one. -/
theorem exists_previous {date : CivilDate} (real : date.isReal = true) :
    ∃ previous : CivilDate, previous.isReal = true ∧ previous.next = date := by
  obtain ⟨year, month, day⟩ := date
  obtain ⟨firstMonth, lastMonth, firstDay, lastDay⟩ := isReal_mk_iff.1 real
  by_cases inside : 1 < day
  · have more : day - 1 < monthLength year month := by omega
    refine ⟨⟨year, month, day - 1⟩,
      isReal_mk_iff.2 ⟨firstMonth, lastMonth, by omega, by omega⟩, ?_⟩
    rw [next, if_pos more, Nat.sub_add_cancel firstDay]
  · obtain rfl : day = 1 := by omega
    by_cases later : 1 < month
    · have bounds := monthLength_bounds year (month - 1)
      have more : month - 1 < 12 := by omega
      refine ⟨⟨year, month - 1, monthLength year (month - 1)⟩,
        isReal_mk_iff.2 ⟨by omega, by omega, by omega, Nat.le_refl _⟩, ?_⟩
      rw [next, if_neg (Nat.lt_irrefl _), if_pos more, Nat.sub_add_cancel firstMonth]
    · obtain rfl : month = 1 := by omega
      have december : ¬31 < monthLength (year - 1) 12 := Nat.lt_irrefl 31
      refine ⟨⟨year - 1, 12, 31⟩,
        isReal_mk_iff.2 ⟨by decide, by decide, by decide, Nat.le_refl 31⟩, ?_⟩
      rw [next, if_neg december, if_neg (Nat.lt_irrefl 12), Int.sub_add_cancel]

/-- The number of a real date is its distance from the first of January 1970. -/
theorem dayAt_dayNumber {date : CivilDate} (real : date.isReal = true) :
    DayAt date date.dayNumber := by
  -- the induction walks away from the epoch, a day at a time in both directions
  have walk : ∀ n : Int, ∀ date : CivilDate, date.isReal = true → date.dayNumber = n →
      DayAt date n := by
    intro n
    induction n using Int.induction_on with
    | zero =>
        intro date real zero
        have epoch : date = ⟨1970, 1, 1⟩ := eq_of_dayNumber_eq real (by decide) zero
        rw [epoch]
        exact .epoch
    | succ n ih =>
        intro date real number
        obtain ⟨previous, previousReal, rfl⟩ := exists_previous real
        have before := dayNumber_next previousReal
        exact .next (ih previous previousReal (by omega))
    | pred n ih =>
        intro date real number
        have after := dayNumber_next real
        refine .previous real ?_
        rw [Int.sub_add_cancel]
        exact ih date.next (isReal_next real) (by omega)
  exact walk _ date real rfl

/-- Counting day by day reaches real dates only, each at its day number. -/
theorem DayAt.eq_dayNumber {date : CivilDate} {n : Int} (day : DayAt date n) :
    date.isReal = true ∧ n = date.dayNumber := by
  induction day with
  | epoch => exact ⟨by decide, by decide⟩
  | next _ ih =>
      obtain ⟨real, rfl⟩ := ih
      exact ⟨isReal_next real, (dayNumber_next real).symm⟩
  | previous real _ ih =>
      have after := dayNumber_next real
      exact ⟨real, by omega⟩

/-- Exactly the real dates are days, each at its own number. -/
theorem dayAt_iff {date : CivilDate} {n : Int} :
    DayAt date n ↔ date.isReal = true ∧ n = date.dayNumber := by
  constructor
  · exact DayAt.eq_dayNumber
  · rintro ⟨real, rfl⟩
    exact dayAt_dayNumber real

/-- Real dates in years of four digits, and somewhat beyond, have day numbers of a few millions. -/
theorem dayNumber_bounds {date : CivilDate} (real : date.isReal = true) (first : -100 ≤ date.year)
    (last : date.year ≤ 10100) :
    -1000000 ≤ date.dayNumber ∧ date.dayNumber ≤ 4000000 := by
  obtain ⟨firstMonth, lastMonth, firstDay, lastDay⟩ := isReal_iff.1 real
  have bounds := monthLength_bounds date.year date.month
  have months := daysBeforeMonth_mono date.year firstMonth (by omega : date.month ≤ 13)
  rw [daysBeforeMonth_thirteen] at months
  have length : yearLength date.year ≤ 366 := by
    unfold yearLength
    split <;> omega
  have epoch : daysBeforeYear 1970 = 719162 := by decide
  rw [dayNumber, daysBeforeYear_eq, epoch]
  omega

/-! ## Overlong months and days -/

/-- The first day of the month that is so many months after January of a year. -/
def firstOfMonth (date : CivilDate) : CivilDate :=
  ⟨date.year + ((date.month : Int) - 1) / 12, (((date.month : Int) - 1) % 12).toNat + 1, 1⟩

/-- However far a month runs over, its first day is a real one. -/
theorem isReal_firstOfMonth (date : CivilDate) : date.firstOfMonth.isReal = true := by
  have bounds := monthLength_bounds date.firstOfMonth.year date.firstOfMonth.month
  exact isReal_mk_iff.2 ⟨by omega, by omega, Nat.le_refl 1,
    Nat.le_trans (by decide) bounds.1⟩

/-- A real date does not run over. -/
theorem dayNumber_firstOfMonth_of_real {date : CivilDate} (real : date.isReal = true) :
    date.firstOfMonth.dayNumber + (date.day - 1) = date.dayNumber := by
  obtain ⟨year, month, day⟩ := date
  obtain ⟨firstMonth, lastMonth, firstDay, lastDay⟩ := isReal_mk_iff.1 real
  have sameYear : year + ((month : Int) - 1) / 12 = year := by omega
  have sameMonth : (((month : Int) - 1) % 12).toNat + 1 = month := by omega
  simp only [firstOfMonth, sameYear, sameMonth, dayNumber]
  omega

/-- A date that runs over is counted on from the first of its month, within the years of
dates. -/
theorem rolledDayNumber?_eq_some_iff {date : CivilDate} {n : Int} :
    date.rolledDayNumber? = some n ↔
      date.firstOfMonth.hasYear = true ∧ (ofDayNumber n).hasYear = true ∧
        n = date.firstOfMonth.dayNumber + (date.day - 1) := by
  have year : (date.year * 12 + date.month - 1) / 12 =
      date.year + ((date.month : Int) - 1) / 12 := by omega
  have month : (date.year * 12 + date.month - 1) % 12 = ((date.month : Int) - 1) % 12 := by omega
  have first : (⟨(date.year * 12 + date.month - 1) / 12,
      ((date.year * 12 + date.month - 1) % 12).toNat + 1, 1⟩ : CivilDate) =
        date.firstOfMonth := by
    rw [year, month, firstOfMonth]
  rw [rolledDayNumber?, first, Int.add_sub_assoc, Option.ite_none_right_eq_some, Option.some_inj]
  constructor
  · rintro ⟨⟨firstYear, rolledYear⟩, rfl⟩
    exact ⟨firstYear, rolledYear, rfl⟩
  · rintro ⟨firstYear, rolledYear, rfl⟩
    exact ⟨⟨firstYear, rolledYear⟩, rfl⟩

/-- Days within some thousands of years of 1970 are in years of dates. -/
theorem hasYear_ofDayNumber {n : Int} (first : -2000000 ≤ n) (last : n ≤ 5000000) :
    (ofDayNumber n).hasYear = true := by
  have epoch : daysBeforeYear 1970 = 719162 := by decide
  have year : (ofDayNumber n).year = yearOf n := rfl
  rw [hasYear_iff, year, yearOf, epoch]
  split
  · omega
  split <;> omega

/-- In years of four digits, and somewhat beyond, a month and a day of two digits run over
into years of dates. -/
theorem rolledDayNumber?_eq_some {date : CivilDate} (first : -100 ≤ date.firstOfMonth.year)
    (last : date.firstOfMonth.year ≤ 10100) (lastDay : date.day < 100) :
    date.rolledDayNumber? = some (date.firstOfMonth.dayNumber + (date.day - 1)) := by
  have days := dayNumber_bounds date.isReal_firstOfMonth first last
  have firstYear : date.firstOfMonth.hasYear = true := hasYear_iff.2 (by omega)
  exact rolledDayNumber?_eq_some_iff.2
    ⟨firstYear, hasYear_ofDayNumber (by omega) (by omega), rfl⟩

end Criteria.CivilDate
