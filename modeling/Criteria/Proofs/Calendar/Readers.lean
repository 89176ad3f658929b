import Criteria.Proofs.Calendar.Shape
import Mathlib.Data.List.Perm.Basic

/-!
# Four readers, no text for two

The reader of RFC 3339 wants an offset, which the free readers leave unread. The free
readers read the same date and part at what they want behind it: a letter, white space or
nothing in front of an hour, or the end. So at most one of the four accepts a text, and
the order in which they are tried does not matter.
-/

namespace Criteria

namespace Stamp

/-! ## What the readers have read -/

/-- The scanner of RFC 3339 with a letter or a blank between date and time. -/
def scanStrict : Scan Stamp :=
  scanRfc3339 (fun c => c == 'T' || c == 't' || c == ' ') (fun c => c == '-' || c == '\u2212')

def scanners : List (Scan Stamp) :=
  [scanStrict, scanWithLetter, scanWithBlank, scanMidnight]

theorem scanOffset_nil (minus : Char → Bool) : scanOffset minus [] = none := rfl

/-- The reader of RFC 3339 has read numbers of full widths and an offset. -/
theorem exists_of_scanRfc3339 {separator minus : Char → Bool} {text rest : List Char}
    {stamp : Stamp} (read : scanRfc3339 separator minus text = some (stamp, rest)) :
    ∃ (date : DateText) (mark : Char) (time : TimeText) (tail behind : List Char)
      (nanosecond : Nat) (offset : Int),
      text = date.chars ++ mark :: (time.chars ++ tail) ∧ separator mark = true ∧
        scanFraction tail = some (nanosecond, behind) ∧
        scanOffset minus behind = some (offset, rest) ∧
        stamp = ⟨date.civil, time.hour.number, time.minute.number, time.second.number,
          nanosecond, offset⟩ := by
  obtain ⟨_, _, yearRead, read⟩ := Scan.exists_of_bind read
  obtain ⟨_, _, hyphen, read⟩ := Scan.exists_of_bind read
  obtain ⟨_, _, monthRead, read⟩ := Scan.exists_of_bind read
  obtain ⟨_, _, secondHyphen, read⟩ := Scan.exists_of_bind read
  obtain ⟨_, _, dayRead, read⟩ := Scan.exists_of_bind read
  obtain ⟨mark, _, markRead, read⟩ := Scan.exists_of_bind read
  obtain ⟨_, _, hourRead, read⟩ := Scan.exists_of_bind read
  obtain ⟨_, _, colon, read⟩ := Scan.exists_of_bind read
  obtain ⟨_, _, minuteRead, read⟩ := Scan.exists_of_bind read
  obtain ⟨_, _, secondColon, read⟩ := Scan.exists_of_bind read
  obtain ⟨_, tail, secondRead, read⟩ := Scan.exists_of_bind read
  obtain ⟨nanosecond, behind, fractionRead, read⟩ := Scan.exists_of_bind read
  obtain ⟨offset, _, offsetRead, read⟩ := Scan.exists_of_bind read
  obtain ⟨year, rfl, rfl⟩ := Digit.Block.exists_of_exactly yearRead
  obtain rfl := Scan.eq_cons_of_char hyphen
  obtain ⟨month, rfl, rfl⟩ := Digit.Block.exists_of_exactly monthRead
  obtain rfl := Scan.eq_cons_of_char secondHyphen
  obtain ⟨day, rfl, rfl⟩ := Digit.Block.exists_of_exactly dayRead
  obtain ⟨rfl, separates⟩ := Scan.eq_cons_of_next markRead
  obtain ⟨hour, rfl, rfl⟩ := Digit.Block.exists_of_exactly hourRead
  obtain rfl := Scan.eq_cons_of_char colon
  obtain ⟨minute, rfl, rfl⟩ := Digit.Block.exists_of_exactly minuteRead
  obtain rfl := Scan.eq_cons_of_char secondColon
  obtain ⟨second, rfl, rfl⟩ := Digit.Block.exists_of_exactly secondRead
  obtain ⟨rfl, rfl⟩ := Prod.mk.inj (Option.some.inj read)
  refine ⟨⟨year, month, day⟩, mark, ⟨hour, minute, second⟩, tail, behind, nanosecond, offset,
    ?_, separates, fractionRead, offsetRead, rfl⟩
  simp only [DateText.chars, TimeText.chars, List.append_assoc, List.cons_append]

/-- A text that the reader of RFC 3339 takes has a date, a letter or a blank, and a time that
the free readers do not read to the end. -/
theorem exists_of_scanStrict {text : List Char} {stamp : Stamp}
    (read : scanStrict text = some (stamp, [])) :
    ∃ (date : DateText) (mark : Char) (time : TimeText) (tail : List Char),
      text = date.chars ++ mark :: (time.chars ++ tail) ∧
        (mark = 'T' ∨ mark = 't' ∨ mark = ' ') ∧ stamp.date = date.civil ∧
        ∀ date stamp, scanClock date (time.chars ++ tail) ≠ some (stamp, []) := by
  obtain ⟨date, mark, time, tail, behind, nanosecond, offset, rfl, separates, fraction, zone,
    rfl⟩ := exists_of_scanRfc3339 read
  simp only [Bool.or_eq_true, beq_iff_eq, or_assoc] at separates
  refine ⟨date, mark, time, tail, rfl, separates, rfl, fun other stamp whole => ?_⟩
  rw [scanClock_time, Scan.bind_of_some fraction] at whole
  obtain ⟨-, rfl⟩ := Prod.mk.inj (Option.some.inj whole)
  rw [scanOffset_nil] at zone
  cases zone

theorem exists_of_scanWithLetter {text rest : List Char} {stamp : Stamp}
    (read : scanWithLetter text = some (stamp, rest)) :
    ∃ date time, scanDate text = some (date, 'T' :: time) ∧
      scanClock date time = some (stamp, rest) := by
  obtain ⟨date, _, dateRead, read⟩ := Scan.exists_of_bind read
  obtain ⟨_, time, letter, clock⟩ := Scan.exists_of_bind read
  obtain rfl := Scan.eq_cons_of_char letter
  exact ⟨date, time, dateRead, clock⟩

theorem exists_of_scanWithBlank {text rest : List Char} {stamp : Stamp}
    (read : scanWithBlank text = some (stamp, rest)) :
    ∃ date time, scanDate text = some (date, time) ∧
      scanClock date (Text.dropBlank time) = some (stamp, rest) := by
  obtain ⟨date, time, dateRead, read⟩ := Scan.exists_of_bind read
  obtain ⟨_, _, blank, clock⟩ := Scan.exists_of_bind read
  obtain ⟨-, rfl⟩ := Prod.mk.inj (Option.some.inj blank)
  exact ⟨date, time, dateRead, clock⟩

theorem scanDate_of_scanMidnight {text rest : List Char} {stamp : Stamp}
    (read : scanMidnight text = some (stamp, rest)) :
    scanDate text = some (stamp.date, rest) := by
  obtain ⟨date, _, dateRead, read⟩ := Scan.exists_of_bind read
  obtain ⟨rfl, rfl⟩ := Prod.mk.inj (Option.some.inj read)
  exact dateRead

/-! ## No text for two readers -/

/-- No text is read to its end by both scanners. -/
def Apart (first second : Scan Stamp) : Prop :=
  ∀ text, first.run? text = none ∨ second.run? text = none

/-- It is enough that no text which the first scanner reads to its end is so read by the
second. -/
theorem apart_of {first second : Scan Stamp}
    (never : ∀ text one other, first text = some (one, []) → second text ≠ some (other, [])) :
    Apart first second := by
  intro text
  cases read : first.run? text with
  | none => exact Or.inl rfl
  | some one =>
      refine Or.inr (Option.eq_none_iff_forall_ne_some.2 fun other same => ?_)
      exact never _ one other (Scan.run?_eq_some_iff.1 read) (Scan.run?_eq_some_iff.1 same)

/-- A time of day begins with an hour, so neither at the end nor at a letter. -/
theorem scanClock_nil (date : CivilDate) : scanClock date [] = none :=
  Scan.bind_of_none rfl _

/-- A time of day does not begin with a letter. -/
theorem scanClock_letter (date : CivilDate) {letter : Char} (isLetter : letter = 'T' ∨ letter = 't')
    (rest : List Char) : scanClock date (Text.dropBlank (letter :: rest)) = none := by
  rcases isLetter with rfl | rfl <;> exact Scan.bind_of_none rfl _

theorem apart_strict_letter : Apart scanStrict scanWithLetter := by
  refine apart_of fun text one other strict letter => ?_
  obtain ⟨date, mark, time, tail, rfl, -, -, unfinished⟩ := exists_of_scanStrict strict
  obtain ⟨_, _, dateRead, clock⟩ := exists_of_scanWithLetter letter
  rw [scanDate_append, Option.some.injEq, Prod.mk.injEq, List.cons.injEq] at dateRead
  obtain ⟨-, -, rfl⟩ := dateRead
  exact unfinished _ _ clock

theorem apart_strict_blank : Apart scanStrict scanWithBlank := by
  refine apart_of fun text one other strict blank => ?_
  obtain ⟨date, mark, time, tail, rfl, marks, -, unfinished⟩ := exists_of_scanStrict strict
  obtain ⟨_, _, dateRead, clock⟩ := exists_of_scanWithBlank blank
  rw [scanDate_append, Option.some.injEq, Prod.mk.injEq] at dateRead
  obtain ⟨-, rfl⟩ := dateRead
  rw [← or_assoc] at marks
  rcases marks with letter | rfl
  · rw [scanClock_letter _ letter] at clock
    cases clock
  · -- behind the blank both stand in front of the same time of day
    rw [dropBlank_blank] at clock
    exact unfinished _ _ clock

theorem apart_strict_midnight : Apart scanStrict scanMidnight := by
  refine apart_of fun text one other strict midnight => ?_
  obtain ⟨date, mark, time, tail, rfl, -, -, -⟩ := exists_of_scanStrict strict
  have dateRead := scanDate_of_scanMidnight midnight
  rw [scanDate_append, Option.some.injEq, Prod.mk.injEq] at dateRead
  exact List.cons_ne_nil _ _ dateRead.2

theorem apart_letter_blank : Apart scanWithLetter scanWithBlank := by
  refine apart_of fun text one other letter blank => ?_
  obtain ⟨_, _, dateRead, -⟩ := exists_of_scanWithLetter letter
  obtain ⟨_, _, sameRead, clock⟩ := exists_of_scanWithBlank blank
  rw [dateRead, Option.some.injEq, Prod.mk.injEq] at sameRead
  obtain ⟨-, rfl⟩ := sameRead
  rw [scanClock_letter _ (Or.inl rfl)] at clock
  cases clock

theorem apart_letter_midnight : Apart scanWithLetter scanMidnight := by
  refine apart_of fun text one other letter midnight => ?_
  obtain ⟨_, _, dateRead, -⟩ := exists_of_scanWithLetter letter
  rw [scanDate_of_scanMidnight midnight, Option.some.injEq, Prod.mk.injEq] at dateRead
  exact List.cons_ne_nil _ _ dateRead.2.symm

theorem apart_blank_midnight : Apart scanWithBlank scanMidnight := by
  refine apart_of fun text one other blank midnight => ?_
  obtain ⟨_, _, dateRead, clock⟩ := exists_of_scanWithBlank blank
  rw [scanDate_of_scanMidnight midnight, Option.some.injEq, Prod.mk.injEq] at dateRead
  obtain ⟨-, rfl⟩ := dateRead
  have nothing : scanClock _ [] = some (one, []) := clock
  rw [scanClock_nil] at nothing
  cases nothing

theorem scanners_apart : scanners.Pairwise Apart := by
  simp only [scanners, List.pairwise_cons, List.mem_cons, List.not_mem_nil, or_false,
    forall_eq_or_imp, forall_eq, List.Pairwise.nil, IsEmpty.forall_iff, implies_true, and_true]
  exact ⟨⟨apart_strict_letter, apart_strict_blank, apart_strict_midnight⟩,
    ⟨apart_letter_blank, apart_letter_midnight⟩, apart_blank_midnight⟩

/-! ## The first of several readers -/

section

variable {α β : Type} {readers : List α} {read : α → Option β}

/-- Where no two readers accept, the one that does decides, wherever it stands. -/
theorem findSome?_of_apart (apart : readers.Pairwise fun first second =>
      read first = none ∨ read second = none) {reader : α} (member : reader ∈ readers) {found : β}
    (accepted : read reader = some found) : readers.findSome? read = some found := by
  induction readers with
  | nil => cases member
  | cons first rest ih =>
      obtain ⟨fromFirst, fromRest⟩ := List.pairwise_cons.1 apart
      rcases List.mem_cons.1 member with rfl | later
      · rw [List.findSome?_cons, accepted]
      · rcases fromFirst reader later with refused | refused
        · rw [List.findSome?_cons, refused]
          exact ih fromRest later
        · rw [accepted] at refused
          cases refused

/-- Of readers no two of which accept, any order finds the same. -/
theorem findSome?_perm (apart : readers.Pairwise fun first second =>
      read first = none ∨ read second = none) {order : List α} (same : order.Perm readers) :
    order.findSome? read = readers.findSome? read := by
  have orderApart := same.symm.pairwise apart fun either => either.symm
  cases found : readers.findSome? read with
  | none =>
      rw [List.findSome?_eq_none_iff] at found ⊢
      exact fun reader member => found reader (same.mem_iff.1 member)
  | some value =>
      obtain ⟨reader, member, accepted⟩ := List.exists_of_findSome?_eq_some found
      exact findSome?_of_apart orderApart (same.mem_iff.2 member) accepted

theorem apart_filter (apart : readers.Pairwise fun first second =>
      read first = none ∨ read second = none) (proper : β → Bool) :
    readers.Pairwise fun first second =>
      (read first).filter proper = none ∨ (read second).filter proper = none := by
  refine apart.imp fun either => ?_
  rcases either with refused | refused
  · exact Or.inl (by rw [refused, Option.filter_none])
  · exact Or.inr (by rw [refused, Option.filter_none])

/-- What the only reader finds may be checked afterwards. -/
theorem findSome?_filter (apart : readers.Pairwise fun first second =>
      read first = none ∨ read second = none) (proper : β → Bool) :
    readers.findSome? (fun reader => (read reader).filter proper) =
      (readers.findSome? read).filter proper := by
  cases found : readers.findSome? read with
  | none =>
      rw [List.findSome?_eq_none_iff] at found
      refine List.findSome?_eq_none_iff.2 fun reader member => ?_
      rw [found reader member, Option.filter_none]
  | some value =>
      obtain ⟨reader, member, accepted⟩ := List.exists_of_findSome?_eq_some found
      cases checked : proper value with
      | true =>
          rw [Option.filter_some_pos checked]
          refine findSome?_of_apart (apart_filter apart proper) member ?_
          rw [accepted, Option.filter_some_pos checked]
      | false =>
          rw [Option.filter_some_neg checked]
          refine List.findSome?_eq_none_iff.2 fun other otherMember => ?_
          cases otherFound : read other with
          | none => rfl
          | some wrong =>
              rw [findSome?_of_apart apart otherMember otherFound] at found
              rw [Option.some.inj found, Option.filter_some_neg checked]

end

/-! ## The readers of dates and times -/

/-- The readers in the order in which they are tried: RFC 3339, and three free ones. -/
def readers : List (String → Option Stamp) :=
  [ofRfc3339?, ofFree? scanWithLetter, ofFree? scanWithBlank, ofFree? scanMidnight]

/-- Years of four digits are none too many. -/
theorem hasYear_civil (date : DateText) : date.civil.hasYear = true := by
  have lastYear := date.year.number_lt
  have year : date.civil.year = date.year.number := rfl
  exact CivilDate.hasYear_iff.2 (by omega)

/-- Whether a stamp is a real one of a year that the free readers allow. -/
def isProper (stamp : Stamp) : Bool :=
  stamp.isReal && stamp.date.hasYear

/-- A free reader is its scanner, run over the whole text and kept to proper stamps. -/
theorem ofFree?_eq (scan : Scan Stamp) (text : String) :
    ofFree? scan text = (scan.run? text).filter isProper := by
  rw [ofFree?, real?, Option.filter_filter]
  rfl

/-- The reader of RFC 3339 may be asked for the years of the free readers. -/
theorem ofRfc3339?_eq (text : String) : ofRfc3339? text = ofFree? scanStrict text := by
  have whole : ofRfc3339? text = (scanStrict.run? text).filter isReal := rfl
  rw [ofFree?_eq, whole]
  cases read : scanStrict.run? text with
  | none => rfl
  | some stamp =>
      obtain ⟨date, -, -, -, -, -, same, -⟩ := exists_of_scanStrict (Scan.run?_eq_some_iff.1 read)
      rw [Option.filter_some, Option.filter_some, isProper, same, hasYear_civil, Bool.and_true]

theorem readers_eq_map : readers = scanners.map ofFree? := by
  rw [readers, funext ofRfc3339?_eq]
  rfl

theorem run?_apart (text : String) :
    scanners.Pairwise fun first second => first.run? text = none ∨ second.run? text = none :=
  scanners_apart.imp fun either => either text

/-- No text is accepted by two readers. -/
theorem readers_apart (text : String) :
    readers.Pairwise fun first second => first text = none ∨ second text = none := by
  rw [readers_eq_map, List.pairwise_map]
  simp only [ofFree?_eq]
  exact apart_filter (run?_apart text) isProper

theorem ofText?_eq_findSome? (text : String) :
    ofText? text = readers.findSome? fun reader => reader text := by
  simp only [ofText?, readers, List.findSome?_cons, List.findSome?_nil]
  cases ofRfc3339? text <;> cases ofFree? scanWithLetter text <;>
    cases ofFree? scanWithBlank text <;> cases ofFree? scanMidnight text <;> rfl

/-- Whatever the order of the readers, the same one accepts. -/
theorem ofText?_eq_of_perm {order : List (String → Option Stamp)} (same : order.Perm readers)
    (text : String) : (order.findSome? fun reader => reader text) = ofText? text := by
  rw [ofText?_eq_findSome?, findSome?_perm (readers_apart text) same]

/-- A text that one of the scanners reads to its end has a stamp if it is a proper one. -/
theorem ofText?_of_run? {scan : Scan Stamp} (member : scan ∈ scanners) {text : String}
    {stamp : Stamp} (read : scan.run? text = some stamp) :
    ofText? text = if stamp.isProper then some stamp else none := by
  have found : scanners.findSome? (fun scan => scan.run? text) = some stamp :=
    findSome?_of_apart (run?_apart text) member read
  rw [ofText?_eq_findSome?, readers_eq_map, List.findSome?_map]
  simp only [Function.comp_def, ofFree?_eq]
  rw [findSome?_filter (run?_apart text), found, Option.filter_some]

/-! ## Texts of full widths -/

/-- A year of four digits is proper, so that being real is all that is left to ask. -/
theorem isProper_stamp (clock : ClockText) (date : DateText) (offset : Int) :
    (clock.stamp date.civil offset).isProper = (clock.stamp date.civil offset).isReal := by
  have year : (clock.stamp date.civil offset).date.hasYear = true := hasYear_civil date
  rw [isProper, year, Bool.and_true]

theorem run?_ofList {scan : Scan Stamp} {chars : List Char} {stamp : Stamp}
    (read : scan chars = some (stamp, [])) : scan.run? (String.ofList chars) = some stamp :=
  Scan.run?_eq_some_iff.2 (String.toList_ofList.symm ▸ read)

theorem scanRfc3339_append {separator minus : Char → Bool} {mark : Char}
    (parts : separator mark = true) (hyphen : minus '-' = true) (date : DateText)
    (clock : ClockText) {zone : ZoneText} (real : zone.IsReal) :
    scanRfc3339 separator minus (date.chars ++ mark :: (clock.chars ++ zone.chars)) =
      some (clock.stamp date.civil zone.minutes, []) := by
  have ends : zone.chars.head?.any (fun c => c.isDigit || c == '.') = false := by
    rcases zone with _ | ⟨_ | _, hours, minutes⟩ <;> rfl
  have parted (rest : List Char) : Scan.next separator (mark :: rest) = some (mark, rest) :=
    if_pos parts
  have offset := scanOffset_append hyphen real []
  rw [List.append_nil] at offset
  simp only [DateText.chars, ClockText.chars, TimeText.chars, List.append_assoc, List.cons_append]
  rw [scanRfc3339, Scan.bind_of_some (Digit.Block.exactly_append _ _),
    Scan.bind_of_some (Scan.char_cons _ _), Scan.bind_of_some (Digit.Block.exactly_append _ _),
    Scan.bind_of_some (Scan.char_cons _ _), Scan.bind_of_some (Digit.Block.exactly_append _ _),
    Scan.bind_of_some (parted _), Scan.bind_of_some (Digit.Block.exactly_append _ _),
    Scan.bind_of_some (Scan.char_cons _ _), Scan.bind_of_some (Digit.Block.exactly_append _ _),
    Scan.bind_of_some (Scan.char_cons _ _), Scan.bind_of_some (Digit.Block.exactly_append _ _),
    Scan.bind_of_some (scanFraction_append clock ends), Scan.bind_of_some offset]
  rfl

/-- With an offset, a date and time is read as one of RFC 3339. -/
theorem ofText?_zoned (date : DateText) (clock : ClockText) {zone : ZoneText}
    (real : zone.IsReal) :
    ofText? (date.zonedText clock zone) =
      if (clock.stamp date.civil zone.minutes).isReal then
        some (clock.stamp date.civil zone.minutes)
      else none := by
  have read : scanStrict (date.chars ++ 'T' :: (clock.chars ++ zone.chars)) =
      some (clock.stamp date.civil zone.minutes, []) :=
    scanRfc3339_append rfl rfl date clock real
  rw [DateText.zonedText, ofText?_of_run? List.mem_cons_self (run?_ofList read), isProper_stamp]

theorem scanClock_whole (date : CivilDate) (clock : ClockText) :
    scanClock date clock.chars = some (clock.stamp date 0, []) := by
  have ends : ([] : List Char).head?.any (fun c => c.isDigit || c == '.') = false := rfl
  have read := scanClock_append date clock ends
  rw [List.append_nil] at read
  exact read

theorem scanWithLetter_append (date : DateText) (clock : ClockText) :
    scanWithLetter (date.chars ++ 'T' :: clock.chars) = some (clock.stamp date.civil 0, []) := by
  have read := scanClock_whole date.civil clock
  rw [scanWithLetter, Scan.bind_of_some (scanDate_append _ _),
    Scan.bind_of_some (Scan.char_cons _ _), read]

theorem scanWithBlank_append (date : DateText) (clock : ClockText) :
    scanWithBlank (date.chars ++ ' ' :: clock.chars) = some (clock.stamp date.civil 0, []) := by
  have read := scanClock_whole date.civil clock
  have dropped : skipBlank (' ' :: clock.chars) = some ((), clock.chars) :=
    congrArg (fun rest => some ((), rest)) (dropBlank_blank clock.time clock.fractionChars)
  rw [scanWithBlank, Scan.bind_of_some (scanDate_append _ _), Scan.bind_of_some dropped, read]

/-- Without an offset, a date and time is read with the mark between them. -/
theorem ofText?_local {mark : Char} (marks : mark = 'T' ∨ mark = ' ') (date : DateText)
    (clock : ClockText) :
    ofText? (date.localText mark clock) =
      if (clock.stamp date.civil 0).isReal then some (clock.stamp date.civil 0) else none := by
  rw [← isProper_stamp]
  rcases marks with rfl | rfl
  · refine ofText?_of_run? ?_ (run?_ofList (scanWithLetter_append date clock))
    exact List.mem_cons_of_mem _ List.mem_cons_self
  · refine ofText?_of_run? ?_ (run?_ofList (scanWithBlank_append date clock))
    exact List.mem_cons_of_mem _ (List.mem_cons_of_mem _ List.mem_cons_self)

/-- A bare date is read as its midnight. -/
theorem ofText?_date (date : DateText) :
    ofText? date.text = if date.civil.isReal then some ⟨date.civil, 0, 0, 0, 0, 0⟩ else none := by
  have read : scanMidnight date.chars = some (⟨date.civil, 0, 0, 0, 0, 0⟩, []) := by
    have scanned := scanDate_append date []
    rw [List.append_nil] at scanned
    rw [scanMidnight, Scan.bind_of_some scanned]
    rfl
  have proper : isProper ⟨date.civil, 0, 0, 0, 0, 0⟩ = date.civil.isReal := by
    simp [isProper, isReal, hasYear_civil]
  have member : scanMidnight ∈ scanners := by simp [scanners]
  rw [DateText.text, ofText?_of_run? member (run?_ofList read), proper]

/-- An instant of fixed widths has a stamp if it is a real one. -/
theorem ofText?_instant (instant : InstantText) :
    ofText? instant.text = if instant.stamp.isReal then some instant.stamp else none := by
  let clock : ClockText :=
    ⟨⟨instant.hour, instant.minute, instant.second⟩,
      some ⟨3, by decide, by decide, instant.millisecond⟩⟩
  have chars : instant.chars =
      instant.calendar.chars ++ 'T' :: (clock.chars ++ ZoneText.universal.chars) := by
    simp only [InstantText.chars, InstantText.clock, ClockText.chars, TimeText.chars, clock,
      ClockText.fractionChars, ZoneText.chars, List.append_assoc, List.cons_append]
  rw [InstantText.text, chars]
  exact ofText?_zoned instant.calendar clock trivial

end Stamp

end Criteria
