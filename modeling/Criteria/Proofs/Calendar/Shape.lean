import Criteria.Calendar.Reading
import Criteria.Proofs.Number.Numeral

/-!
# Dates and times of full widths

Texts in which every number has its full width: a date, a time of day with or without a
part of a second, and an offset. What the scanners read of them is known whatever stands
behind.
-/

namespace Criteria

theorem Stamp.isReal_iff {stamp : Stamp} :
    stamp.isReal = true ↔ stamp.date.isReal = true ∧ stamp.hour ≤ 23 ∧ stamp.minute ≤ 59 ∧
      stamp.second ≤ 60 := by
  rw [isReal, Bool.and_eq_true, Bool.and_eq_true, Bool.and_eq_true, decide_eq_true_eq,
    decide_eq_true_eq, decide_eq_true_eq, and_assoc, and_assoc]

/-- The numbers of a text `YYYY-MM-DD`. -/
structure DateText where
  year : Digit.Block 4
  month : Digit.Block 2
  day : Digit.Block 2

namespace DateText

def chars (date : DateText) : List Char :=
  date.year.chars ++ '-' :: (date.month.chars ++ '-' :: date.day.chars)

def text (date : DateText) : String :=
  String.ofList date.chars

def civil (date : DateText) : CivilDate :=
  ⟨date.year.number, date.month.number, date.day.number⟩

theorem toList_text (date : DateText) : date.text.toList = date.chars :=
  String.toList_ofList

/-- Whether the year has no zero in front. -/
def Unpadded (date : DateText) : Prop :=
  date.year.chars.head? ≠ some '0'

instance (date : DateText) : Decidable date.Unpadded :=
  inferInstanceAs (Decidable (_ ≠ _))

theorem head?_chars (date : DateText) : date.chars.head? = date.year.chars.head? := by
  obtain ⟨c, more, chars, -⟩ := date.year.exists_head (by decide)
  rw [DateText.chars, chars]
  rfl

theorem length_chars (date : DateText) : date.chars.length = 10 := by
  simp only [chars, List.length_append, List.length_cons, date.year.length_eq,
    date.month.length_eq, date.day.length_eq]

end DateText

/-- The numbers of a text `YYYY-MM-DDTHH:MM:SS.mmmZ`. -/
structure InstantText where
  calendar : DateText
  hour : Digit.Block 2
  minute : Digit.Block 2
  second : Digit.Block 2
  millisecond : Digit.Block 3

namespace InstantText

/-- The time of day behind the letter. -/
def clock (instant : InstantText) : List Char :=
  instant.hour.chars ++ ':' :: (instant.minute.chars ++ ':' :: (instant.second.chars ++
    '.' :: (instant.millisecond.chars ++ ['Z'])))

def chars (instant : InstantText) : List Char :=
  instant.calendar.chars ++ 'T' :: instant.clock

def text (instant : InstantText) : String :=
  String.ofList instant.chars

theorem toList_text (instant : InstantText) : instant.text.toList = instant.chars :=
  String.toList_ofList

/-- Whether the date is real and the clock shows a time of day, perhaps in second 60. -/
def IsReal (instant : InstantText) : Prop :=
  instant.calendar.civil.isReal = true ∧ instant.hour.number ≤ 23 ∧
    instant.minute.number ≤ 59 ∧ instant.second.number ≤ 60

instance (instant : InstantText) : Decidable instant.IsReal :=
  inferInstanceAs (Decidable (_ ∧ _ ∧ _ ∧ _))

/-- The milliseconds from the start of 1970 to the time of day, so many days after it. -/
def milliseconds (instant : InstantText) (days : Int) : Int :=
  (((days * 24 + instant.hour.number) * 60 + instant.minute.number) * 60 +
    instant.second.number) * 1000 + instant.millisecond.number

/-- The date and time of the text as its readers write them down. -/
def stamp (instant : InstantText) : Stamp :=
  ⟨instant.calendar.civil, instant.hour.number, instant.minute.number, instant.second.number,
    instant.millisecond.number * 1000000, 0⟩

theorem isReal_stamp_iff (instant : InstantText) :
    instant.stamp.isReal = true ↔ instant.IsReal :=
  Stamp.isReal_iff

/-- An instant is as many milliseconds away from 1970 as its days and its time of day say.
-/
theorem milliseconds_stamp (instant : InstantText) :
    instant.stamp.milliseconds = instant.milliseconds instant.calendar.civil.dayNumber := by
  simp only [Stamp.milliseconds, Stamp.seconds, stamp, milliseconds]
  omega

end InstantText

/-- The numbers of a text `HH:MM:SS`. -/
structure TimeText where
  hour : Digit.Block 2
  minute : Digit.Block 2
  second : Digit.Block 2

def TimeText.chars (time : TimeText) : List Char :=
  time.hour.chars ++ ':' :: (time.minute.chars ++ ':' :: time.second.chars)

/-- One to nine digits behind a point, as a part of a second. -/
structure FractionText where
  count : Nat
  nonempty : 1 ≤ count
  atMostNine : count ≤ 9
  digits : Digit.Block count

def FractionText.nanoseconds (fraction : FractionText) : Nat :=
  fraction.digits.number * 10 ^ (9 - fraction.count)

/-- A time of day, perhaps with a part of a second. -/
structure ClockText where
  time : TimeText
  fraction : Option FractionText

namespace ClockText

def fractionChars (clock : ClockText) : List Char :=
  match clock.fraction with
  | none => []
  | some fraction => '.' :: fraction.digits.chars

def chars (clock : ClockText) : List Char :=
  clock.time.chars ++ clock.fractionChars

def nanoseconds (clock : ClockText) : Nat :=
  match clock.fraction with
  | none => 0
  | some fraction => fraction.nanoseconds

def IsReal (clock : ClockText) : Prop :=
  clock.time.hour.number ≤ 23 ∧ clock.time.minute.number ≤ 59 ∧ clock.time.second.number ≤ 59

instance (clock : ClockText) : Decidable clock.IsReal :=
  inferInstanceAs (Decidable (_ ∧ _ ∧ _))

/-- The milliseconds, rounded down, from the start of 1970 to the time of day so many days
after it, on a clock that is so many minutes ahead of universal time. -/
def milliseconds (clock : ClockText) (days ahead : Int) : Int :=
  ((((days * 24 + clock.time.hour.number) * 60 + clock.time.minute.number - ahead) * 60 +
    clock.time.second.number) * 1000000000 + clock.nanoseconds) / 1000000

/-- What the readers write down of a date and the time of day. -/
def stamp (clock : ClockText) (date : CivilDate) (offset : Int) : Stamp :=
  ⟨date, clock.time.hour.number, clock.time.minute.number, clock.time.second.number,
    clock.nanoseconds, offset⟩

/-- The offset moves the instant back by the minutes that its clock is ahead. -/
theorem milliseconds_stamp (clock : ClockText) (date : CivilDate) (offset : Int) :
    (clock.stamp date offset).milliseconds = clock.milliseconds date.dayNumber offset := by
  simp only [Stamp.milliseconds, Stamp.seconds, stamp, milliseconds]
  omega

end ClockText

/-- The letter of universal time, or hours and minutes ahead of it or behind it. -/
inductive ZoneText
  | universal
  | offset (behind : Bool) (hours minutes : Digit.Block 2)

namespace ZoneText

def chars : ZoneText → List Char
  | universal => ['Z']
  | offset behind hours minutes =>
    (if behind then '-' else '+') :: (hours.chars ++ ':' :: minutes.chars)

def minutes : ZoneText → Int
  | universal => 0
  | offset behind hours minutes => Digit.signed behind (60 * hours.number + minutes.number)

def IsReal : ZoneText → Prop
  | universal => True
  | offset _ hours minutes => hours.number ≤ 23 ∧ minutes.number ≤ 59

end ZoneText

namespace DateText

def zonedText (date : DateText) (clock : ClockText) (zone : ZoneText) : String :=
  String.ofList (date.chars ++ 'T' :: (clock.chars ++ zone.chars))

/-- A date and a time without an offset, with a mark between them. -/
def localText (date : DateText) (mark : Char) (clock : ClockText) : String :=
  String.ofList (date.chars ++ mark :: clock.chars)

end DateText

namespace Stamp

/-! ## Numbers of full width -/

variable {count : Nat}

theorem dropBlank_append (block : Digit.Block count) (some : 1 ≤ count) (rest : List Char) :
    Text.dropBlank (block.chars ++ rest) = block.chars ++ rest := by
  obtain ⟨c, more, chars, digit⟩ := block.exists_head some
  have noBlank : Text.isBlank c = false := Numeral.isDigit_not_isBlank digit
  rw [Text.dropBlank, chars, List.cons_append, List.dropWhile_cons_of_neg]
  rw [noBlank]
  exact Bool.false_ne_true

theorem skipBlank_append (block : Digit.Block count) (some : 1 ≤ count) (rest : List Char) :
    skipBlank (block.chars ++ rest) = .some ((), block.chars ++ rest) := by
  rw [skipBlank, dropBlank_append block some]

theorem scanPart_append (block : Digit.Block 2) (rest : List Char) :
    scanPart (block.chars ++ rest) = some (block.number, rest) := by
  rw [scanPart, Scan.bind_of_some (skipBlank_append block (by decide) rest)]
  exact block.upTo_append (by decide) rest

/-- Four digits are a year of their own, however many digits follow. -/
theorem scanYear_append (block : Digit.Block 4) (rest : List Char) :
    scanYear (block.chars ++ rest) = some ((block.number : Int), rest) := by
  rw [scanYear, Scan.bind_of_some (skipBlank_append block (by decide) rest)]
  have digits : Digit.upTo 4 (block.chars ++ rest) = some (block.number, rest) :=
    block.upTo_append (by decide) rest
  obtain ⟨c, more, chars, digit⟩ := block.exists_head (by decide)
  rw [chars, List.cons_append] at digits ⊢
  split
  · rename_i minus
    rw [(List.cons.inj minus).1] at digit
    cases digit
  · rename_i plus
    rw [(List.cons.inj plus).1] at digit
    cases digit
  · exact Scan.map_of_some digits _

theorem scanDate_append (date : DateText) (rest : List Char) :
    scanDate (date.chars ++ rest) = some (date.civil, rest) := by
  simp only [DateText.chars, List.append_assoc, List.cons_append]
  rw [scanDate, Scan.bind_of_some (scanYear_append _ _), Scan.bind_of_some (Scan.char_cons _ _),
    Scan.bind_of_some (scanPart_append _ _), Scan.bind_of_some (Scan.char_cons _ _),
    Scan.bind_of_some (scanPart_append _ _)]
  rfl

/-! ## Parts of a second, times of day and offsets -/

theorem nanoseconds_digits (fraction : FractionText) :
    nanoseconds fraction.digits.chars = fraction.nanoseconds := by
  have short : fraction.digits.chars.length ≤ 9 := by
    rw [fraction.digits.length_eq]
    exact fraction.atMostNine
  rw [nanoseconds, List.take_of_length_le short, ← fraction.digits.number_eq,
    fraction.digits.length_eq, Nat.pow_eq, FractionText.nanoseconds]

/-- A part of a second ends where neither a digit nor a point follows. -/
theorem scanFraction_append (clock : ClockText) {rest : List Char}
    (ends : rest.head?.any (fun c => c.isDigit || c == '.') = false) :
    scanFraction (clock.fractionChars ++ rest) = some (clock.nanoseconds, rest) := by
  obtain ⟨time, _ | fraction⟩ := clock
  · cases rest with
    | nil => rfl
    | cons c more =>
        have noPoint : c ≠ '.' := by
          rintro rfl
          cases ends
        unfold scanFraction
        split
        · rename_i point
          exact absurd (List.cons.inj point).1 noPoint
        · rfl
  · have nonempty : fraction.digits.chars ≠ [] := by
      obtain ⟨c, more, chars, -⟩ := fraction.digits.exists_head fraction.nonempty
      rw [chars]
      exact List.cons_ne_nil c more
    have noDigit : rest.head?.any Char.isDigit = false := by
      cases rest with
      | nil => rfl
      | cons c more => exact (Bool.or_eq_false_iff.1 ends).1
    have read : Digit.many (fraction.digits.chars ++ rest) = some (fraction.digits.chars, rest) :=
      Scan.span₁_append nonempty fraction.digits.digits noDigit
    have counted := Scan.map_of_some read nanoseconds
    rw [nanoseconds_digits] at counted
    exact counted

/-- One blank in front of a time of day is dropped. -/
theorem dropBlank_blank (time : TimeText) (rest : List Char) :
    Text.dropBlank (' ' :: (time.chars ++ rest)) = time.chars ++ rest := by
  simp only [TimeText.chars, List.append_assoc]
  exact dropBlank_append time.hour (by decide) _

/-- Behind a date and in front of whatever follows, a time of day waits for its part of a
second. -/
theorem scanClock_time (date : CivilDate) (time : TimeText) (rest : List Char) :
    scanClock date (time.chars ++ rest) =
      (do
        let nanosecond ← scanFraction
        pure ⟨date, time.hour.number, time.minute.number, time.second.number, nanosecond, 0⟩ :
        Scan Stamp) rest := by
  simp only [TimeText.chars, List.append_assoc, List.cons_append]
  rw [scanClock, Scan.bind_of_some (scanPart_append _ _), Scan.bind_of_some (Scan.char_cons _ _),
    Scan.bind_of_some (scanPart_append _ _), Scan.bind_of_some (Scan.char_cons _ _),
    Scan.bind_of_some (scanPart_append _ _)]

/-- A time of day is read as it is written, unless its fraction could go on. -/
theorem scanClock_append (date : CivilDate) (clock : ClockText) {rest : List Char}
    (ends : rest.head?.any (fun c => c.isDigit || c == '.') = false) :
    scanClock date (clock.chars ++ rest) = some (clock.stamp date 0, rest) := by
  rw [ClockText.chars, List.append_assoc, scanClock_time,
    Scan.bind_of_some (scanFraction_append clock ends)]
  rfl

theorem scanOffset_append {minus : Char → Bool} (hyphen : minus '-' = true) {zone : ZoneText}
    (real : zone.IsReal) (rest : List Char) :
    scanOffset minus (zone.chars ++ rest) = some (zone.minutes, rest) := by
  cases zone with
  | universal => rfl
  | offset behind hours minutes =>
      have limits : hours.number ≤ 23 ∧ minutes.number ≤ 59 := real
      have read : (do
          let hours ← Digit.exactly 2
          Scan.char ':'
          let minutes ← Digit.exactly 2
          if hours ≤ 23 ∧ minutes ≤ 59 then
            pure (Digit.signed behind (60 * hours + minutes))
          else failure : Scan Int) (hours.chars ++ ':' :: (minutes.chars ++ rest)) =
            some (ZoneText.minutes (.offset behind hours minutes), rest) := by
        rw [Scan.bind_of_some (hours.exactly_append _), Scan.bind_of_some (Scan.char_cons _ _),
          Scan.bind_of_some (minutes.exactly_append _), if_pos limits]
        rfl
      simp only [ZoneText.chars, List.cons_append, List.append_assoc]
      cases behind with
      | true =>
          rw [if_pos rfl, scanOffset, if_neg (by decide), if_pos (Or.inr hyphen)]
          exact read
      | false => exact read

end Stamp

end Criteria
