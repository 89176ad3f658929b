import Criteria.Calendar.Reading

namespace Criteria.Coercion

/-! ## Dates in two fixed shapes -/

/-- Whether a text has the shape of a model, in which `0` stands for any
digit. -/
def fitsShape : List Char → List Char → Bool
  | [], [] => true
  | model :: models, c :: rest =>
    (if model = '0' then c.isDigit else c == model) && fitsShape models rest
  | _, _ => false

def instantShape : List Char := "0000-00-00T00:00:00.000Z".toList

def dateShape : List Char := "0000-00-00".toList

def isInstant (text : String) : Bool :=
  fitsShape instantShape text.toList

/-- The numbers of a text in the shape of a date from the year 1000 on; the
month and the day may be any. -/
def calendarDate? (text : String) : Option CivilDate :=
  let characters := text.toList
  if fitsShape dateShape characters ∧ characters.head? ≠ some '0' then
    some
      { year := Digit.number (characters.take 4)
        month := Digit.number ((characters.drop 5).take 2)
        day := Digit.number (characters.drop 8) }
  else none

def instant? (text : String) : Option Int :=
  (Stamp.ofText? text).map Stamp.milliseconds

/-- The midnight of a date whose month and day may run over. -/
def rolledMidnight? (date : CivilDate) : Option Int :=
  date.rolledDayNumber?.map (· * 86400000)

end Criteria.Coercion
