import Criteria.Proofs.Calendar.DayNumber
import Criteria.Proofs.Calendar.Readers
import Criteria.Proofs.Coercion

/-!
# Strings under a date

Two shapes of text are dates. An instant of fixed widths is the point in time it names, or
is reported when there is none; a calendar date from the year 1000 on always is a midnight,
however far its month and day run over. Any other string stays what it is.
-/

namespace Criteria

/-! ## Days of four-digit years -/

namespace DateText

theorem dayNumber_bounds (date : DateText) (real : date.civil.isReal = true) :
    -1000000 ≤ date.civil.dayNumber ∧ date.civil.dayNumber ≤ 4000000 := by
  have lastYear := date.year.number_lt
  have year : date.civil.year = date.year.number := rfl
  exact CivilDate.dayNumber_bounds real (by omega) (by omega)

/-- A month of two digits leads at most eight years on, and one back. -/
theorem year_firstOfMonth_bounds (date : DateText) :
    -100 ≤ date.civil.firstOfMonth.year ∧ date.civil.firstOfMonth.year ≤ 10100 := by
  have lastYear := date.year.number_lt
  have lastMonth := date.month.number_lt
  have year : date.civil.firstOfMonth.year =
      date.year.number + ((date.month.number : Int) - 1) / 12 := rfl
  omega

theorem dayNumber_firstOfMonth_bounds (date : DateText) :
    -1000000 ≤ date.civil.firstOfMonth.dayNumber ∧
      date.civil.firstOfMonth.dayNumber ≤ 4000000 :=
  have years := date.year_firstOfMonth_bounds
  CivilDate.dayNumber_bounds date.civil.isReal_firstOfMonth years.1 years.2

end DateText

/-! ## Hyphens and identifiers -/

theorem Hexadecimal.value?_of_mem {chars : List Char} {bytes : List UInt8}
    (read : decodeChars? chars = some bytes) : ∀ c ∈ chars, (value? c).isSome = true := by
  fun_induction decodeChars? chars generalizing bytes with
  | case1 => exact fun c none => absurd none List.not_mem_nil
  | case2 => cases read
  | case3 high low rest upper lower second first ih =>
      obtain ⟨more, decoded, -⟩ := Option.map_eq_some_iff.1 read
      have isSome {c : Char} {n : Nat} (known : value? c = some n) : (value? c).isSome = true := by
        rw [known, Option.isSome_some]
      exact List.forall_mem_cons.2
        ⟨isSome first, List.forall_mem_cons.2 ⟨isSome second, ih decoded⟩⟩
  | case4 => cases read

/-- No identifier is written with a hyphen. -/
theorem ObjectId.ofText?_of_hyphen {text : String} (hyphen : '-' ∈ text.toList) :
    ObjectId.ofText? text = none := by
  cases read : Hexadecimal.decodeChars? text.toList with
  | none => rw [ObjectId.ofText?, Hexadecimal.decode?, read, Option.bind_none]
  | some bytes => exact absurd (Hexadecimal.value?_of_mem read '-' hyphen) (by decide)

namespace Coercion

open CivilDate (DayAt)

/-! ## Texts that fit a shape -/

theorem fitsShape_nil_iff {text : List Char} : fitsShape [] text = true ↔ text = [] := by
  cases text with
  | nil => exact iff_of_true rfl rfl
  | cons c rest => exact iff_of_false Bool.false_ne_true (List.cons_ne_nil c rest)

/-- A mark of the shape is the same mark of the text. -/
theorem fitsShape_mark_iff {mark : Char} (plain : mark ≠ '0') {shape text : List Char} :
    fitsShape (mark :: shape) text = true ↔
      ∃ rest, text = mark :: rest ∧ fitsShape shape rest = true := by
  cases text with
  | nil =>
      refine iff_of_false Bool.false_ne_true ?_
      rintro ⟨rest, none, -⟩
      cases none
  | cons c rest =>
      simp only [fitsShape, if_neg plain, Bool.and_eq_true, beq_iff_eq, List.cons.injEq]
      constructor
      · rintro ⟨rfl, fits⟩
        exact ⟨rest, ⟨rfl, rfl⟩, fits⟩
      · rintro ⟨_, ⟨rfl, rfl⟩, fits⟩
        exact ⟨rfl, fits⟩

/-- Zeros of the shape are a block of as many digits of the text. -/
theorem fitsShape_digits_iff {count : Nat} {shape text : List Char} :
    fitsShape (List.replicate count '0' ++ shape) text = true ↔
      ∃ (block : Digit.Block count) (rest : List Char),
        text = block.chars ++ rest ∧ fitsShape shape rest = true := by
  induction count generalizing text with
  | zero =>
      constructor
      · intro fits
        exact ⟨⟨[], rfl, rfl⟩, text, rfl, fits⟩
      · rintro ⟨block, rest, rfl, fits⟩
        rw [List.eq_nil_of_length_eq_zero block.length_eq]
        exact fits
  | succ count ih =>
      cases text with
      | nil =>
          refine iff_of_false Bool.false_ne_true ?_
          rintro ⟨block, rest, none, -⟩
          obtain ⟨c, more, chars, -⟩ := block.exists_head (Nat.le_add_left 1 count)
          rw [chars] at none
          cases none
      | cons c text =>
          simp only [List.replicate_succ, List.cons_append, fitsShape, if_pos, Bool.and_eq_true, ih]
          constructor
          · rintro ⟨digit, block, rest, rfl, fits⟩
            have digits : (c :: block.chars).all Char.isDigit = true := by
              rw [List.all_cons, digit, block.all_digits, Bool.and_self]
            exact ⟨⟨c :: block.chars, congrArg (· + 1) block.length_eq, digits⟩, rest, rfl, fits⟩
          · rintro ⟨⟨chars, length_eq, digits⟩, rest, split, fits⟩
            cases chars with
            | nil => cases length_eq
            | cons d chars =>
                obtain ⟨rfl, rfl⟩ := List.cons.inj split
                rw [List.all_cons, Bool.and_eq_true] at digits
                exact ⟨digits.1, ⟨chars, Nat.succ.inj length_eq, digits.2⟩, rest, rfl, fits⟩

theorem fitsShape_date_iff {shape text : List Char} :
    fitsShape (dateShape ++ shape) text = true ↔
      ∃ (date : DateText) (rest : List Char),
        text = date.chars ++ rest ∧ fitsShape shape rest = true := by
  have shapes : dateShape ++ shape =
      List.replicate 4 '0' ++ '-' :: (List.replicate 2 '0' ++ '-' ::
        (List.replicate 2 '0' ++ shape)) := rfl
  have hyphen : '-' ≠ '0' := by decide
  simp only [shapes, fitsShape_digits_iff, fitsShape_mark_iff hyphen]
  constructor
  · rintro ⟨year, _, rfl, _, rfl, month, _, rfl, _, rfl, day, rest, rfl, fits⟩
    refine ⟨⟨year, month, day⟩, rest, ?_, fits⟩
    simp only [DateText.chars, List.append_assoc, List.cons_append]
  · rintro ⟨date, rest, rfl, fits⟩
    refine ⟨date.year, _, ?_, _, rfl, date.month, _, rfl, _, rfl, date.day, rest, rfl, fits⟩
    simp only [DateText.chars, List.append_assoc, List.cons_append]

/-- The texts in the shape of an instant are those that instants are written as. -/
theorem isInstant_iff {text : String} :
    isInstant text = true ↔ ∃ instant : InstantText, text = instant.text := by
  have shapes : instantShape =
      dateShape ++ 'T' :: (List.replicate 2 '0' ++ ':' :: (List.replicate 2 '0' ++ ':' ::
        (List.replicate 2 '0' ++ '.' :: (List.replicate 3 '0' ++ 'Z' :: [])))) := rfl
  have letter : 'T' ≠ '0' := by decide
  have colon : ':' ≠ '0' := by decide
  have point : '.' ≠ '0' := by decide
  have zone : 'Z' ≠ '0' := by decide
  simp only [isInstant, shapes, fitsShape_date_iff, fitsShape_mark_iff letter,
    fitsShape_mark_iff colon, fitsShape_mark_iff point, fitsShape_mark_iff zone,
    fitsShape_digits_iff, fitsShape_nil_iff]
  constructor
  · rintro ⟨date, _, split, _, rfl, hour, _, rfl, _, rfl, minute, _, rfl, _, rfl, second, _, rfl,
      _, rfl, millisecond, _, rfl, _, rfl, rfl⟩
    refine ⟨⟨date, hour, minute, second, millisecond⟩, String.toList_inj.1 ?_⟩
    rw [InstantText.toList_text]
    exact split
  · rintro ⟨instant, rfl⟩
    exact ⟨instant.calendar, _, String.toList_ofList, _, rfl, instant.hour, _, rfl, _, rfl,
      instant.minute, _, rfl, _, rfl, instant.second, _, rfl, _, rfl, instant.millisecond, _, rfl,
      _, rfl, rfl⟩

/-- The shapes do not meet. -/
theorem isInstant_date (date : DateText) : isInstant date.text = false := by
  refine Bool.eq_false_iff.2 fun isInstant => ?_
  obtain ⟨instant, same⟩ := isInstant_iff.1 isInstant
  have lengths := congrArg (fun text => text.toList.length) same
  simp only [DateText.toList_text, InstantText.toList_text, InstantText.chars,
    List.length_append, DateText.length_chars, List.length_cons] at lengths
  omega

theorem calendarDate?_date {date : DateText} (unpadded : date.Unpadded) :
    calendarDate? date.text = some date.civil := by
  have fits : fitsShape dateShape date.chars = true := by
    rw [← List.append_nil dateShape]
    exact fitsShape_date_iff.2 ⟨date, [], (List.append_nil _).symm, rfl⟩
  have year : date.chars.take 4 = date.year.chars := List.take_left' date.year.length_eq
  have month : (date.chars.drop 5).take 2 = date.month.chars := by
    have behindYear : date.chars =
        (date.year.chars ++ ['-']) ++ (date.month.chars ++ '-' :: date.day.chars) := by
      rw [DateText.chars, List.append_assoc, List.singleton_append]
    rw [behindYear, List.drop_left' (by rw [List.length_append, date.year.length_eq]; rfl),
      List.take_left' date.month.length_eq]
  have day : date.chars.drop 8 = date.day.chars := by
    have behindMonth : date.chars =
        (date.year.chars ++ '-' :: (date.month.chars ++ ['-'])) ++ date.day.chars := by
      simp only [DateText.chars, List.append_assoc, List.cons_append, List.nil_append]
    have length : (date.year.chars ++ '-' :: (date.month.chars ++ ['-'])).length = 8 := by
      rw [List.length_append, List.length_cons, List.length_append, date.year.length_eq,
        date.month.length_eq]
      rfl
    rw [behindMonth, List.drop_left' length]
  rw [DateText.Unpadded, ← date.head?_chars] at unpadded
  simp only [calendarDate?, date.toList_text, if_pos (And.intro fits unpadded), year, month, day,
    ← Digit.Block.number_eq]
  rfl

/-- A date is read only from a text in the shape of one, from the year 1000 on. -/
theorem exists_of_calendarDate? {text : String} {date : CivilDate}
    (read : calendarDate? text = some date) :
    ∃ written : DateText, written.Unpadded ∧ text = written.text ∧ written.civil = date := by
  obtain ⟨⟨fits, unpadded⟩, -⟩ := Option.ite_none_right_eq_some.1 read
  rw [← List.append_nil dateShape] at fits
  obtain ⟨written, rest, split, nothing⟩ := fitsShape_date_iff.1 fits
  rw [fitsShape_nil_iff.1 nothing, List.append_nil] at split
  rw [split, written.head?_chars] at unpadded
  obtain rfl : text = written.text :=
    String.toList_inj.1 (split.trans written.toList_text.symm)
  rw [calendarDate?_date unpadded] at read
  exact ⟨written, unpadded, rfl, Option.some.inj read⟩

theorem calendarDate?_eq_none {text : String}
    (other : ∀ date : DateText, date.Unpadded → text ≠ date.text) : calendarDate? text = none := by
  refine Option.eq_none_iff_forall_ne_some.2 fun date read => ?_
  obtain ⟨written, unpadded, same, -⟩ := exists_of_calendarDate? read
  exact other written unpadded same

/-- The month and the day of a text may run far over, but stay within the years of dates. -/
theorem rolledMidnight?_civil (date : DateText) :
    rolledMidnight? date.civil =
      some ((date.civil.firstOfMonth.dayNumber + (date.civil.day - 1)) * 86400000) := by
  have years := date.year_firstOfMonth_bounds
  have lastDay : date.civil.day < 100 := date.day.number_lt
  rw [rolledMidnight?, CivilDate.rolledDayNumber?_eq_some years.1 years.2 lastDay, Option.map_some]

/-- Counting on from a date that was read never fails. -/
theorem exists_rolledMidnight? {text : String} {date : CivilDate}
    (read : calendarDate? text = some date) :
    ∃ milliseconds, rolledMidnight? date = some milliseconds := by
  obtain ⟨written, -, -, rfl⟩ := exists_of_calendarDate? read
  exact ⟨_, rolledMidnight?_civil written⟩

/-! ## The values of the two shapes -/

/-- The texts in one of the two shapes, calendar dates from the year 1000 on. -/
def IsDated (text : String) : Prop :=
  (∃ instant : InstantText, text = instant.text) ∨
    ∃ date : DateText, date.Unpadded ∧ text = date.text

/-- No identifier begins with a date. -/
theorem not_identifies_date (options : Options) (field : String) (date : DateText)
    (rest : List Char) : ¬options.Identifies field (String.ofList (date.chars ++ rest)) := by
  have hyphen : '-' ∈ (String.ofList (date.chars ++ rest)).toList := by
    rw [String.toList_ofList]
    exact List.mem_append_left _ (List.mem_append_right _ List.mem_cons_self)
  rintro ⟨-, -, isIdentifier⟩
  rw [ObjectId.ofText?_of_hyphen hyphen] at isIdentifier
  cases isIdentifier

theorem not_identifies_bareDate (options : Options) (field : String) (date : DateText) :
    ¬options.Identifies field date.text := by
  have alone := not_identifies_date options field date []
  rw [List.append_nil] at alone
  exact alone

theorem IsDated.not_identifies {text : String} (dated : IsDated text) (options : Options)
    (field : String) : ¬options.Identifies field text := by
  rcases dated with ⟨instant, rfl⟩ | ⟨date, -, rfl⟩
  · exact not_identifies_date options field instant.calendar _
  · exact not_identifies_bareDate options field date

/-- Within 64 bits the date has exactly the milliseconds that it is made of. -/
theorem exists_dateOf (milliseconds : Int) (least : -2 ^ 63 ≤ milliseconds)
    (most : milliseconds < 2 ^ 63) :
    ∃ m : Int64, m.toInt = milliseconds ∧ dateOf milliseconds = .dateTime m :=
  ⟨_, Int64.toInt_ofInt_of_le least most, rfl⟩

section

variable {context : Context} {field : String}

theorem typed_date (declared : context.schema.type? field = some .date) (text : String) :
    typed context field text = calendarValue field text := by
  rw [typed, declared]

/-- An instant is converted if it is a real one, and reported otherwise. -/
theorem typed_instant (declared : context.schema.type? field = some .date)
    (instant : InstantText) :
    typed context field instant.text =
      dateOr field .date instant.text
        (if instant.stamp.isReal then some instant.stamp.milliseconds else none) := by
  rw [typed_date declared, calendarValue, if_pos (isInstant_iff.2 ⟨instant, rfl⟩), instant?,
    Stamp.ofText?_instant]
  cases instant.stamp.isReal <;> rfl

/-- A real instant becomes the milliseconds that it is away from the start of 1970. -/
theorem typed_instant_of_real (declared : context.schema.type? field = some .date)
    {instant : InstantText} (real : instant.IsReal) :
    ∃ (days : Int) (m : Int64), DayAt instant.calendar.civil days ∧
      m.toInt = instant.milliseconds days ∧
      typed context field instant.text = pure (.dateTime m) := by
  obtain ⟨realDate, lastHour, lastMinute, lastSecond⟩ := real
  have days := instant.calendar.dayNumber_bounds realDate
  have lastMillisecond := instant.millisecond.number_lt
  have range : -2 ^ 63 ≤ instant.milliseconds instant.calendar.civil.dayNumber ∧
      instant.milliseconds instant.calendar.civil.dayNumber < 2 ^ 63 := by
    rw [InstantText.milliseconds]
    omega
  obtain ⟨m, same, converted⟩ := exists_dateOf _ range.1 range.2
  refine ⟨_, m, CivilDate.dayAt_dayNumber realDate, same, ?_⟩
  rw [typed_instant declared,
    if_pos (instant.isReal_stamp_iff.2 ⟨realDate, lastHour, lastMinute, lastSecond⟩),
    instant.milliseconds_stamp, ← converted]
  rfl

/-- Any other instant is reported. -/
theorem typed_instant_of_not_real (declared : context.schema.type? field = some .date)
    {instant : InstantText} (unreal : ¬instant.IsReal) :
    typed context field instant.text =
      .report (.unparsableDate field .date instant.text) (.string instant.text) := by
  rw [typed_instant declared, if_neg (mt instant.isReal_stamp_iff.1 unreal)]
  rfl

/-- A calendar date becomes the midnight that its days lead to, counted on from the first of
its month. -/
theorem typed_calendarDate (declared : context.schema.type? field = some .date)
    {date : DateText} (unpadded : date.Unpadded) :
    ∃ m : Int64,
      m.toInt = (date.civil.firstOfMonth.dayNumber + (date.civil.day - 1)) * 86400000 ∧
      typed context field date.text = pure (.dateTime m) := by
  have days := date.dayNumber_firstOfMonth_bounds
  have lastDay : date.civil.day < 100 := date.day.number_lt
  obtain ⟨m, same, converted⟩ :=
    exists_dateOf ((date.civil.firstOfMonth.dayNumber + (date.civil.day - 1)) * 86400000)
      (by omega) (by omega)
  refine ⟨m, same, ?_⟩
  rw [typed_date declared, calendarValue, isInstant_date, if_neg Bool.false_ne_true,
    calendarDate?_date unpadded, ← converted]
  exact congrArg (dateOr field .date date.text) (rolledMidnight?_civil date)

/-- Any other text stays. -/
theorem typed_of_not_dated (declared : context.schema.type? field = some .date) {text : String}
    (undated : ¬IsDated text) : typed context field text = pure (.string text) := by
  have noInstant : isInstant text = false :=
    Bool.eq_false_iff.2 fun isInstant => undated (Or.inl (isInstant_iff.1 isInstant))
  have noDate : calendarDate? text = none :=
    calendarDate?_eq_none fun date unpadded same => undated (Or.inr ⟨date, unpadded, same⟩)
  rw [typed_date declared, calendarValue, noInstant, if_neg Bool.false_ne_true, noDate]

end

/-- The alphabetic order of texts is the order of their dates. -/
theorem before_of_text_lt {earlier later : DateText} (less : earlier.text < later.text) :
    CivilDate.Before earlier.civil later.civil := by
  have behindHyphen {rest more : List Char} (less : '-' :: rest < '-' :: more) : rest < more := by
    rcases List.cons_lt_cons_iff.1 less with smaller | ⟨-, smaller⟩
    · exact absurd smaller (by decide)
    · exact smaller
  rw [String.lt_iff, earlier.toList_text, later.toList_text] at less
  -- where the years agree the months decide, and where these agree too the days
  rcases Digit.Block.append_lt_append less with year | ⟨year, months⟩
  · exact Or.inl (Int.ofNat_lt.2 year)
  · rcases Digit.Block.append_lt_append (behindHyphen months) with month | ⟨month, days⟩
    · exact Or.inr ⟨congrArg Nat.cast year, Or.inl month⟩
    · exact Or.inr ⟨congrArg Nat.cast year,
        Or.inr ⟨month, Digit.Block.number_lt_number (behindHyphen days)⟩⟩

/-- Under a field that holds dates, a text in the shape `YYYY-MM-DDTHH:MM:SS.mmmZ` is the
instant it names, counted from the start of 1970 through the days of the calendar, or is
reported once and stays; a text in the shape `YYYY-MM-DD` from the year 1000 on is the
midnight so many days after the first of its month, later for later dates; any other text
stays. Neither shape can be an identifier. -/
theorem date_fixed_shapes (context : Context) (field : String)
    (declared : context.schema.type? field = some .date) :
    (∀ instant : InstantText,
        (instant.IsReal →
          ∃ (days : Int) (m : Int64), DayAt instant.calendar.civil days ∧
            m.toInt = instant.milliseconds days ∧
            typed context field instant.text = pure (.dateTime m)) ∧
        (¬instant.IsReal →
          typed context field instant.text =
            .report (.unparsableDate field .date instant.text) (.string instant.text))) ∧
      (∀ date : DateText, date.Unpadded →
        ∃ (days : Int) (m : Int64), DayAt date.civil.firstOfMonth days ∧
          m.toInt = (days + (date.civil.day - 1)) * 86400000 ∧
          typed context field date.text = pure (.dateTime m)) ∧
      (∀ earlier later : DateText, earlier.Unpadded → later.Unpadded →
        earlier.civil.isReal = true → later.civil.isReal = true → earlier.text < later.text →
        ∃ m n : Int64, typed context field earlier.text = pure (.dateTime m) ∧
          typed context field later.text = pure (.dateTime n) ∧ m < n) ∧
      (∀ text, ¬IsDated text → typed context field text = pure (.string text)) ∧
      (∀ text, IsDated text → ¬context.options.Identifies field text) ∧
      ∀ text place, FollowsSchema context.options field text place →
        coerceAt context field place (.string text) = typed context field text := by
  refine ⟨?_, ?_, ?_, ?_, ?_, ?_⟩
  · exact fun instant => ⟨typed_instant_of_real declared, typed_instant_of_not_real declared⟩
  · intro date unpadded
    obtain ⟨m, same, converted⟩ := typed_calendarDate declared unpadded
    exact ⟨_, m, CivilDate.dayAt_dayNumber date.civil.isReal_firstOfMonth, same, converted⟩
  · intro earlier later unpadded laterUnpadded real laterReal less
    obtain ⟨m, same, converted⟩ := typed_calendarDate declared unpadded
    obtain ⟨n, laterSame, laterConverted⟩ := typed_calendarDate declared laterUnpadded
    refine ⟨m, n, converted, laterConverted, Int64.lt_iff_toInt_lt.2 ?_⟩
    have numbers := CivilDate.dayNumber_lt real laterReal (before_of_text_lt less)
    rw [← CivilDate.dayNumber_firstOfMonth_of_real real,
      ← CivilDate.dayNumber_firstOfMonth_of_real laterReal] at numbers
    rw [same, laterSame]
    omega
  · exact fun text undated => typed_of_not_dated declared undated
  · exact fun text dated => dated.not_identifies context.options field
  · exact fun text place follows => coerceAt_of_followsSchema follows

/-- The last second of a year with a leap second, a day that is missing, a month and a day
before the first, and a text whose year is too early. -/
theorem date_fixed_shapes_of_hostile_dates :
    let context : Context := ⟨Schema.ofList [("_id", .date)], { objectIdIdentity := true }⟩
    let shown (text : String) : Reported Value := typed context "_id" text
    let missing := "2023-02-29T00:00:00.000Z"
    context.schema.type? "_id" = some .date ∧
      (∃ m : Int64, m.toInt = 1483228800999 ∧
        shown "2016-12-31T23:59:60.999Z" = pure (.dateTime m)) ∧
      shown missing = .report (.unparsableDate "_id" .date missing) (.string missing) ∧
      (∃ m : Int64, m.toInt = 1606694400000 ∧ shown "2021-00-00" = pure (.dateTime m)) ∧
      (∃ m n : Int64, shown "1999-12-31" = pure (.dateTime m) ∧
        shown "2000-02-29" = pure (.dateTime n) ∧ m < n) ∧
      shown "0999-01-01" = pure (.string "0999-01-01") ∧
      coerceAt context "_id" (some .not) (.string missing) = shown missing := by
  intro context shown missing
  have declared : context.schema.type? "_id" = some .date := by decide
  obtain ⟨instants, dates, ordered, others, noIdentifier, placed⟩ :=
    date_fixed_shapes context "_id" declared
  let zeros : Digit.Block 2 := ⟨['0', '0'], rfl, rfl⟩
  let twelve : Digit.Block 2 := ⟨['1', '2'], rfl, rfl⟩
  let twentyNine : Digit.Block 2 := ⟨['2', '9'], rfl, rfl⟩
  let thirtyOne : Digit.Block 2 := ⟨['3', '1'], rfl, rfl⟩
  let two : Digit.Block 2 := ⟨['0', '2'], rfl, rfl⟩
  let leapSecond : InstantText :=
    ⟨⟨⟨['2', '0', '1', '6'], rfl, rfl⟩, twelve, thirtyOne⟩, ⟨['2', '3'], rfl, rfl⟩,
      ⟨['5', '9'], rfl, rfl⟩, ⟨['6', '0'], rfl, rfl⟩, ⟨['9', '9', '9'], rfl, rfl⟩⟩
  let noDay : InstantText :=
    ⟨⟨⟨['2', '0', '2', '3'], rfl, rfl⟩, two, twentyNine⟩, zeros, zeros, zeros,
      ⟨['0', '0', '0'], rfl, rfl⟩⟩
  let tooSmall : DateText := ⟨⟨['2', '0', '2', '1'], rfl, rfl⟩, zeros, zeros⟩
  let newYearsEve : DateText := ⟨⟨['1', '9', '9', '9'], rfl, rfl⟩, twelve, thirtyOne⟩
  let leapDay : DateText := ⟨⟨['2', '0', '0', '0'], rfl, rfl⟩, two, twentyNine⟩
  have noDayText : noDay.text = missing := by decide
  refine ⟨declared, ?_, ?_, ?_, ?_, ?_, ?_⟩
  · obtain ⟨days, m, day, same, converted⟩ := (instants leapSecond).1 (by decide)
    rw [(CivilDate.dayAt_iff.1 day).2] at same
    exact ⟨m, same.trans (by decide), converted⟩
  · rw [← noDayText]
    exact (instants noDay).2 (by decide)
  · obtain ⟨days, m, day, same, converted⟩ := dates tooSmall (by decide)
    rw [(CivilDate.dayAt_iff.1 day).2] at same
    exact ⟨m, same.trans (by decide), converted⟩
  · exact ordered newYearsEve leapDay (by decide) (by decide) (by decide) (by decide) (by decide)
  · refine others _ ?_
    rintro (⟨instant, same⟩ | ⟨date, unpadded, same⟩)
    · exact absurd (isInstant_iff.2 ⟨instant, same⟩) (by decide)
    · have read := calendarDate?_date unpadded
      rw [← same, (by decide : calendarDate? "0999-01-01" = none)] at read
      cases read
  · exact placed missing _
      ⟨by decide, noIdentifier missing (Or.inl ⟨noDay, noDayText.symm⟩)⟩

end Coercion

end Criteria
