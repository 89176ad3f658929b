import Criteria.Calendar.Stamp
import Criteria.Text.Blank

namespace Criteria.Stamp

/-! ## Free spellings of dates and times

Four readers are tried in turn. The first wants fixed widths and an offset; the
others take universal time, allow white space in front of every number and let
the numbers of months, days and times have one digit. -/

def skipBlank : Scan Unit := fun text =>
  some ((), Text.dropBlank text)

/-- Reads a number of one or two digits after white space. -/
def scanPart : Scan Nat := do
  skipBlank
  Digit.upTo 2

/-- Reads a year after white space: up to four digits, or any number of them
after a sign. -/
def scanYear : Scan Int := do
  skipBlank
  fun text =>
    match text with
    | '-' :: rest => ((fun digits => -(Digit.number digits : Int)) <$> Digit.many) rest
    | '+' :: rest => ((fun digits => (Digit.number digits : Int)) <$> Digit.many) rest
    | _ => ((fun (n : Nat) => (n : Int)) <$> Digit.upTo 4) text

def scanDate : Scan CivilDate := do
  let year ← scanYear
  Scan.char '-'
  let month ← scanPart
  Scan.char '-'
  let day ← scanPart
  pure ⟨year, month, day⟩

def scanClock (date : CivilDate) : Scan Stamp := do
  let hour ← scanPart
  Scan.char ':'
  let minute ← scanPart
  Scan.char ':'
  let second ← scanPart
  let nanosecond ← scanFraction
  pure ⟨date, hour, minute, second, nanosecond, 0⟩

def scanWithLetter : Scan Stamp := do
  let date ← scanDate
  Scan.char 'T'
  scanClock date

/-- Reads a date and a time parted by any white space, also by none. -/
def scanWithBlank : Scan Stamp := do
  let date ← scanDate
  skipBlank
  scanClock date

/-- Reads a date alone, as its midnight. -/
def scanMidnight : Scan Stamp := do
  let date ← scanDate
  pure ⟨date, 0, 0, 0, 0, 0⟩

/-- The stamp of an RFC 3339 text with `T` or a blank between date and time. The
minus sign of the offset may be the typographic one. -/
def ofRfc3339? (text : String) : Option Stamp :=
  real? (scanRfc3339 (fun c => c == 'T' || c == 't' || c == ' ')
    (fun c => c == '-' || c == '\u2212')) text

def ofFree? (scan : Scan Stamp) (text : String) : Option Stamp :=
  (real? scan text).filter (·.date.hasYear)

def ofText? (text : String) : Option Stamp :=
  ofRfc3339? text <|> ofFree? scanWithLetter text <|> ofFree? scanWithBlank text <|>
    ofFree? scanMidnight text

end Criteria.Stamp
