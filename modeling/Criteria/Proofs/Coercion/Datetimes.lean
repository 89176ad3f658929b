import Criteria.Proofs.Coercion.Dates

/-!
# Strings under a date and time

A string is read by the one reader of dates and times that accepts it, if there is one, and
is reported otherwise. Written with an offset, in universal time or as a bare date, a civil
time is read as the instant that it is. On bare dates the readers agree with the calendar
that counts on over the ends of months, as far as the dates are real.
-/

namespace Criteria

/-! ## Instants of four-digit years -/

namespace ClockText

theorem nanoseconds_lt (clock : ClockText) : clock.nanoseconds < 1000000000 := by
  obtain ⟨time, _ | fraction⟩ := clock
  · exact Nat.zero_lt_succ _
  · have places : 10 ^ fraction.count * 10 ^ (9 - fraction.count) = 1000000000 := by
      rw [← Nat.pow_add, Nat.add_sub_cancel' fraction.atMostNine]
    have positive : 0 < 10 ^ (9 - fraction.count) := Nat.pow_pos (by decide)
    have bound := Nat.mul_lt_mul_of_pos_right fraction.digits.number_lt positive
    rw [places] at bound
    exact bound

theorem isReal_stamp (clock : ClockText) (real : clock.IsReal) {date : CivilDate}
    (realDate : date.isReal = true) (offset : Int) :
    (clock.stamp date offset).isReal = true := by
  obtain ⟨lastHour, lastMinute, lastSecond⟩ := real
  exact Stamp.isReal_iff.2 ⟨realDate, lastHour, lastMinute, Nat.le_succ_of_le lastSecond⟩

/-- Instants about the days of four-digit years are far within 64 bits. -/
theorem milliseconds_bounds (clock : ClockText) {days ahead : Int}
    (firstDay : -1000000 ≤ days) (lastDay : days ≤ 4000000) (west : -10000 ≤ ahead)
    (east : ahead ≤ 10000) :
    -2 ^ 63 ≤ clock.milliseconds days ahead ∧ clock.milliseconds days ahead < 2 ^ 63 := by
  have lastHour := clock.time.hour.number_lt
  have lastMinute := clock.time.minute.number_lt
  have lastSecond := clock.time.second.number_lt
  have lastNanosecond := clock.nanoseconds_lt
  unfold milliseconds
  omega

end ClockText

theorem ZoneText.minutes_bounds (zone : ZoneText) :
    -10000 ≤ zone.minutes ∧ zone.minutes ≤ 10000 := by
  cases zone with
  | universal => exact ⟨by decide, by decide⟩
  | offset behind hours rest =>
      have lastHour := hours.number_lt
      have lastMinute := rest.number_lt
      rw [minutes, Digit.signed]
      split <;> omega

namespace Coercion

open CivilDate (DayAt)

section

variable {context : Context} {field : String}

/-! ## Strings with a reader and strings without -/

theorem typed_datetime (declared : context.schema.type? field = some .datetime) (text : String) :
    typed context field text = dateOr field .datetime text (instant? text) := by
  rw [typed, declared]

theorem typed_of_stamp (declared : context.schema.type? field = some .datetime) {text : String}
    {stamp : Stamp} (read : Stamp.ofText? text = some stamp) :
    typed context field text = pure (dateOf stamp.milliseconds) := by
  rw [typed_datetime declared, instant?, read]
  rfl

/-- What no reader accepts is reported and stays. -/
theorem typed_of_no_stamp (declared : context.schema.type? field = some .datetime)
    {text : String} (refused : Stamp.ofText? text = none) :
    typed context field text =
      .report (.unparsableDate field .datetime text) (.string text) := by
  rw [typed_datetime declared, instant?, refused]
  rfl

/-- A civil time that is read at an offset is the instant that it is. -/
theorem typed_clock (declared : context.schema.type? field = some .datetime) {text : String}
    {date : DateText} {clock : ClockText} {ahead : Int} (realDate : date.civil.isReal = true)
    (realClock : clock.IsReal) (west : -10000 ≤ ahead) (east : ahead ≤ 10000)
    (read : Stamp.ofText? text =
      if (clock.stamp date.civil ahead).isReal then some (clock.stamp date.civil ahead)
      else none) :
    ∃ m : Int64, m.toInt = clock.milliseconds date.civil.dayNumber ahead ∧
      typed context field text = pure (.dateTime m) := by
  rw [if_pos (clock.isReal_stamp realClock realDate ahead)] at read
  obtain ⟨firstDay, lastDay⟩ := date.dayNumber_bounds realDate
  obtain ⟨least, most⟩ := clock.milliseconds_bounds firstDay lastDay west east
  obtain ⟨m, same, converted⟩ := exists_dateOf _ least most
  refine ⟨m, same, ?_⟩
  rw [typed_of_stamp declared read, clock.milliseconds_stamp, converted]

theorem typed_zoned (declared : context.schema.type? field = some .datetime) {date : DateText}
    {clock : ClockText} {zone : ZoneText} (realDate : date.civil.isReal = true)
    (realClock : clock.IsReal) (realZone : zone.IsReal) :
    ∃ m : Int64, m.toInt = clock.milliseconds date.civil.dayNumber zone.minutes ∧
      typed context field (date.zonedText clock zone) = pure (.dateTime m) :=
  typed_clock declared realDate realClock zone.minutes_bounds.1 zone.minutes_bounds.2
    (Stamp.ofText?_zoned date clock realZone)

theorem typed_local (declared : context.schema.type? field = some .datetime) {date : DateText}
    {mark : Char} {clock : ClockText} (marks : mark = 'T' ∨ mark = ' ')
    (realDate : date.civil.isReal = true) (realClock : clock.IsReal) :
    ∃ m : Int64, m.toInt = clock.milliseconds date.civil.dayNumber 0 ∧
      typed context field (date.localText mark clock) = pure (.dateTime m) :=
  typed_clock declared realDate realClock (by decide) (by decide)
    (Stamp.ofText?_local marks date clock)

/-! ## Bare dates -/

theorem typed_midnight (declared : context.schema.type? field = some .datetime)
    {date : DateText} (real : date.civil.isReal = true) :
    ∃ m : Int64, m.toInt = date.civil.dayNumber * 86400000 ∧
      typed context field date.text = pure (.dateTime m) := by
  have read := Stamp.ofText?_date date
  rw [if_pos real] at read
  have midnight : Stamp.milliseconds ⟨date.civil, 0, 0, 0, 0, 0⟩ =
      date.civil.dayNumber * 86400000 := by
    simp only [Stamp.milliseconds, Stamp.seconds]
    omega
  have days := date.dayNumber_bounds real
  obtain ⟨m, same, converted⟩ :=
    exists_dateOf (date.civil.dayNumber * 86400000) (by omega) (by omega)
  refine ⟨m, same, ?_⟩
  rw [typed_of_stamp declared read, midnight, converted]

theorem typed_unreal_date (declared : context.schema.type? field = some .datetime)
    {date : DateText} (unreal : ¬date.civil.isReal = true) :
    typed context field date.text =
      .report (.unparsableDate field .datetime date.text) (.string date.text) := by
  have read := Stamp.ofText?_date date
  rw [if_neg unreal] at read
  exact typed_of_no_stamp declared read

end

/-- A text `YYYY-MM-DD` follows the schema in every place that asks it. -/
theorem coerceAt_date (context : Context) (field : String) {place : Option Modifier}
    (other : place ≠ some (.verbatim "$ne")) (date : DateText) :
    coerceAt context field place (.string date.text) = typed context field date.text :=
  coerceAt_of_followsSchema ⟨other, not_identifies_bareDate context.options field date⟩

/-- A text `YYYY-MM-DD` from the year 1000 on becomes a date under a datetime field exactly
if it is a real one, and then the same as under a date field, the midnight of its day. If it
is not, it is reported once and stays under the datetime field, and is counted on from the
first of its month, without a report, under the date field. -/
theorem calendars_agree {context rolling : Context} {field rollingField : String}
    (declared : context.schema.type? field = some .datetime)
    (rollingDeclared : rolling.schema.type? rollingField = some .date)
    {place rollingPlace : Option Modifier} (other : place ≠ some (.verbatim "$ne"))
    (rollingOther : rollingPlace ≠ some (.verbatim "$ne")) (date : DateText)
    (millennium : 1000 ≤ date.year.number) :
    let read := coerceAt context field place (.string date.text)
    let rolled := coerceAt rolling rollingField rollingPlace (.string date.text)
    ((∃ m, read.value = .dateTime m) ↔ date.civil.isReal = true) ∧
      (date.civil.isReal = true →
        ∃ (days : Int) (m : Int64), DayAt date.civil days ∧ m.toInt = days * 86400000 ∧
          read = pure (.dateTime m) ∧ rolled = pure (.dateTime m)) ∧
      (¬date.civil.isReal = true →
        read = .report (.unparsableDate field .datetime date.text) (.string date.text) ∧
          ∃ (days : Int) (m : Int64), DayAt date.civil.firstOfMonth days ∧
            m.toInt = (days + (date.civil.day - 1)) * 86400000 ∧
            rolled = pure (.dateTime m)) := by
  intro read rolled
  have readTyped : read = typed context field date.text := coerceAt_date context field other date
  have rolledTyped : rolled = typed rolling rollingField date.text :=
    coerceAt_date rolling rollingField rollingOther date
  rw [readTyped, rolledTyped]
  obtain ⟨n, sameRolled, convertedRolled⟩ :=
    typed_calendarDate rollingDeclared (Digit.Block.head?_ne_zero millennium)
  by_cases real : date.civil.isReal = true
  · obtain ⟨m, same, converted⟩ := typed_midnight declared real
    have unmoved := CivilDate.dayNumber_firstOfMonth_of_real real
    obtain rfl : n = m := Int64.toInt_inj.1 (by rw [sameRolled, unmoved, same])
    refine ⟨iff_of_true ⟨n, ?_⟩ real, fun _ => ?_, absurd real⟩
    · rw [converted, Reported.value_pure]
    · exact ⟨_, n, CivilDate.dayAt_dayNumber real, same, converted, convertedRolled⟩
  · have reported := typed_unreal_date declared real
    refine ⟨iff_of_false ?_ real, fun isReal => absurd isReal real, fun _ => ?_⟩
    · rintro ⟨m, isDate⟩
      rw [reported] at isDate
      cases isDate
    · exact ⟨reported, _, n, CivilDate.dayAt_dayNumber date.civil.isReal_firstOfMonth, sameRolled,
        convertedRolled⟩

/-- The leap day of 2000 and the one that 1900 did not have. -/
theorem calendars_agree_of_leap_days :
    let context : Context :=
      ⟨Schema.ofList [("_id", .datetime), ("born", .date)], { objectIdIdentity := true }⟩
    let read (text : String) : Reported Value := coerceAt context "_id" none (.string text)
    let rolled (text : String) : Reported Value :=
      coerceAt context "born" (some .not) (.string text)
    let missing := "1900-02-29"
    context.schema.type? "_id" = some .datetime ∧ context.schema.type? "born" = some .date ∧
      (∃ m : Int64, m.toInt = 951782400000 ∧ read "2000-02-29" = pure (.dateTime m) ∧
        rolled "2000-02-29" = pure (.dateTime m)) ∧
      read missing = .report (.unparsableDate "_id" .datetime missing) (.string missing) ∧
      ∃ m : Int64, m.toInt = -2203891200000 ∧ rolled missing = pure (.dateTime m) := by
  intro context read rolled missing
  have declared : context.schema.type? "_id" = some .datetime := by decide
  have rollingDeclared : context.schema.type? "born" = some .date := by decide
  let february : Digit.Block 2 := ⟨['0', '2'], rfl, rfl⟩
  let twentyNine : Digit.Block 2 := ⟨['2', '9'], rfl, rfl⟩
  let leapDay : DateText := ⟨⟨['2', '0', '0', '0'], rfl, rfl⟩, february, twentyNine⟩
  let noDay : DateText := ⟨⟨['1', '9', '0', '0'], rfl, rfl⟩, february, twentyNine⟩
  have noDayText : noDay.text = missing := by decide
  have byItself : (none : Option Modifier) ≠ some (.verbatim "$ne") := by decide
  have negated : some Modifier.not ≠ some (.verbatim "$ne") := by decide
  obtain ⟨-, real, -⟩ :=
    calendars_agree declared rollingDeclared byItself negated leapDay (by decide)
  obtain ⟨-, -, unreal⟩ :=
    calendars_agree declared rollingDeclared byItself negated noDay (by decide)
  refine ⟨declared, rollingDeclared, ?_, ?_, ?_⟩
  · obtain ⟨days, m, day, same, converted⟩ := real (by decide)
    rw [(CivilDate.dayAt_iff.1 day).2] at same
    exact ⟨m, same.trans (by decide), converted⟩
  · rw [← noDayText]
    exact (unreal (by decide)).1
  · obtain ⟨-, days, m, day, same, converted⟩ := unreal (by decide)
    rw [(CivilDate.dayAt_iff.1 day).2] at same
    exact ⟨m, same.trans (by decide), converted⟩

/-! ## Written civil times and all other texts -/

/-- Under a field that holds dates and times, the text of a real civil time becomes the
instant that it is at its offset, or in universal time where it has none, rounded down to
the millisecond, and a bare date its midnight. No two readers accept the same text, so every
order of them gives the same value, and what none accepts is reported once and stays. None
of the written texts can be an identifier. -/
theorem datetime_civil_times (context : Context) (field : String)
    (declared : context.schema.type? field = some .datetime) :
    (∀ (date : DateText) (clock : ClockText), date.civil.isReal = true → clock.IsReal →
        ∃ days : Int, DayAt date.civil days ∧
          (∀ zone : ZoneText, zone.IsReal →
            ∃ m : Int64, m.toInt = clock.milliseconds days zone.minutes ∧
              typed context field (date.zonedText clock zone) = pure (.dateTime m)) ∧
          ∀ mark, mark = 'T' ∨ mark = ' ' →
            ∃ m : Int64, m.toInt = clock.milliseconds days 0 ∧
              typed context field (date.localText mark clock) = pure (.dateTime m)) ∧
      (∀ date : DateText, date.civil.isReal = true →
        ∃ (days : Int) (m : Int64), DayAt date.civil days ∧ m.toInt = days * 86400000 ∧
          typed context field date.text = pure (.dateTime m)) ∧
      (∀ text, Stamp.readers.Pairwise fun first second =>
        first text = none ∨ second text = none) ∧
      (∀ order : List (String → Option Stamp), order.Perm Stamp.readers → ∀ text,
        typed context field text =
          dateOr field .datetime text
            ((order.findSome? fun reader => reader text).map Stamp.milliseconds)) ∧
      (∀ text, (∀ reader ∈ Stamp.readers, reader text = none) →
        typed context field text =
          .report (.unparsableDate field .datetime text) (.string text)) ∧
      (∀ (date : DateText) (rest : List Char),
        ¬context.options.Identifies field (String.ofList (date.chars ++ rest))) ∧
      ∀ text place, FollowsSchema context.options field text place →
        coerceAt context field place (.string text) = typed context field text := by
  refine ⟨?_, ?_, Stamp.readers_apart, ?_, ?_, ?_, ?_⟩
  · intro date clock realDate realClock
    refine ⟨_, CivilDate.dayAt_dayNumber realDate, fun zone realZone => ?_, fun mark marks => ?_⟩
    · exact typed_zoned declared realDate realClock realZone
    · exact typed_local declared marks realDate realClock
  · intro date real
    obtain ⟨m, same, converted⟩ := typed_midnight declared real
    exact ⟨_, m, CivilDate.dayAt_dayNumber real, same, converted⟩
  · intro order same text
    rw [typed_datetime declared, instant?, Stamp.ofText?_eq_of_perm same]
  · intro text refused
    refine typed_of_no_stamp declared ?_
    rw [Stamp.ofText?_eq_findSome?]
    exact List.findSome?_eq_none_iff.2 refused
  · exact fun date rest => not_identifies_date context.options field date rest
  · exact fun text place follows => coerceAt_of_followsSchema follows

/-- The first morning of the year 0 and the last second of the year 9999 at the offsets that
lead out of these years, half a millisecond before 1970, a leap day, and a day that is
missing. -/
theorem datetime_civil_times_of_edges :
    let context : Context := ⟨Schema.ofList [("_id", .datetime)], { objectIdIdentity := true }⟩
    let shown (text : String) : Reported Value := typed context "_id" text
    let missing := "2023-02-29"
    context.schema.type? "_id" = some .datetime ∧
      (∃ m : Int64, m.toInt = -62167303740000 ∧
        shown "0000-01-01T00:30:00+23:59" = pure (.dateTime m)) ∧
      (∃ m : Int64, m.toInt = 253402387139999 ∧
        shown "9999-12-31T23:59:59.999999999-23:59" = pure (.dateTime m)) ∧
      (∃ m : Int64, m.toInt = -1 ∧ shown "1969-12-31 23:59:59.9995" = pure (.dateTime m)) ∧
      (∃ m : Int64, m.toInt = 951782400000 ∧ shown "2000-02-29" = pure (.dateTime m)) ∧
      shown missing = .report (.unparsableDate "_id" .datetime missing) (.string missing) ∧
      coerceAt context "_id" (some .not) (.string missing) = shown missing := by
  intro context shown missing
  have declared : context.schema.type? "_id" = some .datetime := by decide
  obtain ⟨civil, dates, -, -, others, noIdentifier, placed⟩ :=
    datetime_civil_times context "_id" declared
  let zeros : Digit.Block 2 := ⟨['0', '0'], rfl, rfl⟩
  let one : Digit.Block 2 := ⟨['0', '1'], rfl, rfl⟩
  let two : Digit.Block 2 := ⟨['0', '2'], rfl, rfl⟩
  let twelve : Digit.Block 2 := ⟨['1', '2'], rfl, rfl⟩
  let twentyThree : Digit.Block 2 := ⟨['2', '3'], rfl, rfl⟩
  let twentyNine : Digit.Block 2 := ⟨['2', '9'], rfl, rfl⟩
  let thirty : Digit.Block 2 := ⟨['3', '0'], rfl, rfl⟩
  let thirtyOne : Digit.Block 2 := ⟨['3', '1'], rfl, rfl⟩
  let fiftyNine : Digit.Block 2 := ⟨['5', '9'], rfl, rfl⟩
  let firstMorning : ClockText := ⟨⟨zeros, thirty, zeros⟩, none⟩
  let lastSecond : TimeText := ⟨twentyThree, fiftyNine, fiftyNine⟩
  let almostMidnight : ClockText :=
    ⟨lastSecond, some ⟨9, by decide, by decide, ⟨List.replicate 9 '9', rfl, rfl⟩⟩⟩
  let halfAMillisecond : ClockText :=
    ⟨lastSecond, some ⟨4, by decide, by decide, ⟨['9', '9', '9', '5'], rfl, rfl⟩⟩⟩
  let leapDay : DateText := ⟨⟨['2', '0', '0', '0'], rfl, rfl⟩, two, twentyNine⟩
  let noDay : DateText := ⟨⟨['2', '0', '2', '3'], rfl, rfl⟩, two, twentyNine⟩
  have missingText : String.ofList (noDay.chars ++ []) = missing := by decide
  refine ⟨declared, ?_, ?_, ?_, ?_, ?_, ?_⟩
  · obtain ⟨days, day, zoned, -⟩ :=
      civil ⟨⟨['0', '0', '0', '0'], rfl, rfl⟩, one, one⟩ firstMorning (by decide) (by decide)
    obtain ⟨m, same, converted⟩ :=
      zoned (.offset false twentyThree fiftyNine) ⟨by decide, by decide⟩
    rw [(CivilDate.dayAt_iff.1 day).2] at same
    exact ⟨m, same.trans (by decide), converted⟩
  · obtain ⟨days, day, zoned, -⟩ :=
      civil ⟨⟨['9', '9', '9', '9'], rfl, rfl⟩, twelve, thirtyOne⟩ almostMidnight (by decide)
        (by decide)
    obtain ⟨m, same, converted⟩ :=
      zoned (.offset true twentyThree fiftyNine) ⟨by decide, by decide⟩
    rw [(CivilDate.dayAt_iff.1 day).2] at same
    exact ⟨m, same.trans (by decide), converted⟩
  · obtain ⟨days, day, -, unzoned⟩ :=
      civil ⟨⟨['1', '9', '6', '9'], rfl, rfl⟩, twelve, thirtyOne⟩ halfAMillisecond (by decide)
        (by decide)
    obtain ⟨m, same, converted⟩ := unzoned ' ' (Or.inr rfl)
    rw [(CivilDate.dayAt_iff.1 day).2] at same
    exact ⟨m, same.trans (by decide), converted⟩
  · obtain ⟨days, m, day, same, converted⟩ := dates leapDay (by decide)
    rw [(CivilDate.dayAt_iff.1 day).2] at same
    exact ⟨m, same.trans (by decide), converted⟩
  · exact others missing (by decide)
  · refine placed missing _ ⟨by decide, ?_⟩
    rw [← missingText]
    exact noIdentifier noDay []

end Coercion

end Criteria
