namespace Criteria

/-! ## Days of the proleptic Gregorian calendar -/

/-- A year, a month and a day, real or not. -/
structure CivilDate where
  year : Int
  month : Nat
  day : Nat
deriving DecidableEq, Repr

namespace CivilDate

def isLeap (year : Int) : Bool :=
  year % 4 = 0 && (year % 100 ≠ 0 || year % 400 = 0)

def monthLength (year : Int) (month : Nat) : Nat :=
  match month with
  | 2 => if isLeap year then 29 else 28
  | 4 | 6 | 9 | 11 => 30
  | _ => 31

/-- Whether the calendar has such a day. -/
def isReal (date : CivilDate) : Bool :=
  1 ≤ date.month && date.month ≤ 12 &&
    1 ≤ date.day && date.day ≤ monthLength date.year date.month

/-- Whether the year is one that dates may have. -/
def hasYear (date : CivilDate) : Bool :=
  -262143 ≤ date.year && date.year ≤ 262142

theorem hasYear_iff {date : CivilDate} :
    date.hasYear = true ↔ -262143 ≤ date.year ∧ date.year ≤ 262142 := by
  rw [hasYear, Bool.and_eq_true, decide_eq_true_eq, decide_eq_true_eq]

/-- The days from 0001-01-01 to the first of January of a year. -/
def daysBeforeYear (year : Int) : Int :=
  let past := year - 1
  365 * past + past / 4 - past / 100 + past / 400

def daysBeforeMonth (year : Int) (month : Nat) : Nat :=
  (List.range (month - 1)).foldl (fun days earlier => days + monthLength year (earlier + 1)) 0

/-- The days from 1970-01-01 to a date. -/
def dayNumber (date : CivilDate) : Int :=
  daysBeforeYear date.year + daysBeforeMonth date.year date.month + date.day - 1
    - daysBeforeYear 1970

/-! ### From a day number back to the date -/

/-- Finds the month in which a day of the year falls, counting both from
zero; the twelve months are tried in turn. -/
def monthOf (year : Int) (dayOfYear : Nat) : Nat :=
  ((List.range 12).filter fun month =>
    daysBeforeMonth year (month + 1) ≤ dayOfYear).length

/-- The year of a day number. A year has fewer than 366.2425 days on average,
so the quotient by the mean length misses by at most one. -/
def yearOf (dayNumber : Int) : Int :=
  let days := dayNumber + daysBeforeYear 1970
  let guess := (days * 400) / 146097 + 1
  if days < daysBeforeYear guess then guess - 1
  else if daysBeforeYear (guess + 1) ≤ days then guess + 1
  else guess

def ofDayNumber (dayNumber : Int) : CivilDate :=
  let year := yearOf dayNumber
  let dayOfYear := (dayNumber + daysBeforeYear 1970 - daysBeforeYear year).toNat
  let month := monthOf year dayOfYear
  ⟨year, month, dayOfYear - daysBeforeMonth year month + 1⟩

/-! ### Overlong months and days -/

/-- The day number of a date whose month and day may run over the end of the
year and the month, or stay below one. There is none if the first of the month
or the day itself is out of the years of dates. -/
def rolledDayNumber? (date : CivilDate) : Option Int :=
  let months := date.year * 12 + date.month - 1
  let first : CivilDate := ⟨months / 12, (months % 12).toNat + 1, 1⟩
  let rolled := first.dayNumber + date.day - 1
  if first.hasYear ∧ (ofDayNumber rolled).hasYear then some rolled else none

end CivilDate

end Criteria
