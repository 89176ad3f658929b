import Criteria.Calendar.Date
import Criteria.Text.Digit

namespace Criteria

/-! ## Civil times and the instants they denote

An instant is counted in milliseconds from the start of 1970 in universal
time. -/

/-- A civil date and time of day, at an offset in minutes east of universal
time. -/
structure Stamp where
  date : CivilDate
  hour : Nat := 0
  minute : Nat := 0
  second : Nat := 0
  nanosecond : Nat := 0
  offset : Int := 0
deriving DecidableEq, Repr

namespace Stamp

/-- Whether the date is real and the clock shows a time of day. Second 60 is
allowed in every minute. -/
def isReal (stamp : Stamp) : Bool :=
  stamp.date.isReal && stamp.hour ≤ 23 && stamp.minute ≤ 59 && stamp.second ≤ 60

/-- The seconds from the start of 1970. Second 60 is the start of the next
minute. -/
def seconds (stamp : Stamp) : Int :=
  stamp.date.dayNumber * 86400 + stamp.hour * 3600 + stamp.minute * 60 + stamp.second
    - stamp.offset * 60

/-- The instant, rounded down to the millisecond. -/
def milliseconds (stamp : Stamp) : Int :=
  stamp.seconds * 1000 + stamp.nanosecond / 1000000

/-! ### RFC 3339 -/

/-- The nanoseconds of the digits behind a decimal point; digits past the ninth
are ignored. -/
def nanoseconds (digits : List Char) : Nat :=
  Digit.number (digits.take 9) * Nat.pow 10 (9 - digits.length)

/-- Reads a point and digits as a part of a second, or nothing as zero. -/
def scanFraction : Scan Nat := fun text =>
  match text with
  | '.' :: rest => (nanoseconds <$> Digit.many) rest
  | _ => some (0, text)

/-- Reads the offset `Z`, or hours and minutes after a sign; `minus` says which
characters stand for the minus sign. -/
def scanOffset (minus : Char → Bool) : Scan Int := fun text =>
  match text with
  | [] => none
  | sign :: rest =>
    if sign = 'Z' ∨ sign = 'z' then some (0, rest)
    else if sign = '+' ∨ minus sign then
      (do
        let hours ← Digit.exactly 2
        Scan.char ':'
        let minutes ← Digit.exactly 2
        if hours ≤ 23 ∧ minutes ≤ 59 then
          pure (Digit.signed (sign ≠ '+') (60 * hours + minutes))
        else failure : Scan Int) rest
    else none

/-- Reads a date and a time of fixed widths with an offset; `separator` says
what may stand between the two. -/
def scanRfc3339 (separator minus : Char → Bool) : Scan Stamp := do
  let year ← Digit.exactly 4
  Scan.char '-'
  let month ← Digit.exactly 2
  Scan.char '-'
  let day ← Digit.exactly 2
  let _ ← Scan.next separator
  let hour ← Digit.exactly 2
  Scan.char ':'
  let minute ← Digit.exactly 2
  Scan.char ':'
  let second ← Digit.exactly 2
  let nanosecond ← scanFraction
  let offset ← scanOffset minus
  pure ⟨⟨year, month, day⟩, hour, minute, second, nanosecond, offset⟩

def real? (scan : Scan Stamp) (text : String) : Option Stamp :=
  (scan.run? text).filter isReal

/-! ### Writing -/

def padded (width n : Nat) : List Char :=
  let digits := Nat.toDigits 10 n
  List.replicate (width - digits.length) '0' ++ digits

/-- The part of a second in milliseconds, without zeros at the end. -/
def fractionText (milliseconds : Nat) : List Char :=
  if milliseconds = 0 then []
  else '.' :: ((padded 3 milliseconds).reverse.dropWhile (· == '0')).reverse

def textOf (milliseconds : Int) : String :=
  let seconds := milliseconds / 1000
  let date := CivilDate.ofDayNumber (seconds / 86400)
  let clock := (seconds % 86400).toNat
  String.ofList <|
    padded 4 date.year.toNat ++ '-' :: padded 2 date.month ++ '-' :: padded 2 date.day ++
      'T' :: padded 2 (clock / 3600) ++ ':' :: padded 2 (clock / 60 % 60) ++
        ':' :: padded 2 (clock % 60) ++ fractionText (milliseconds % 1000).toNat ++ ['Z']

end Stamp

end Criteria
