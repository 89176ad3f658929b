import Criteria.Proofs.Coercion.Front
import Criteria.Proofs.Text.Digit
import Criteria.Proofs.Text.Regular

/-!
# Numerals

Whole and real numerals as regular expressions. Both take the longest numeral at the
front of a text, although a search takes first alternatives and not longest ones: of a
mantissa cut short the next character is a digit or the point, with which no power
begins. The scanner of real numbers reads exactly the longest numeral, and what it reads
it makes of the numeral alone.
-/

namespace Criteria

namespace Numeral

open Text (Regular)

/-! ## The expressions -/

def isSign (c : Char) : Bool := c == '+' || c == '-'

def isMark (c : Char) : Bool := c == 'e' || c == 'E'

def sign : Regular := (Regular.one isSign).optional

def digits : Regular := .oneOrMore Char.isDigit

def integer : Regular := .sequence sign digits

def point : Regular := .one (· == '.')

/-- Digits with a point behind or between them, or without one. -/
def wholeMantissa : Regular :=
  .sequence digits (.sequence point.optional (.many Char.isDigit))

def pointMantissa : Regular := .sequence point digits

def mantissa : Regular := .either wholeMantissa pointMantissa

def power : Regular := .sequence (.one isMark) (.sequence sign digits)

/-- A real numeral without its sign: the word for infinity, or a mantissa with or
without a power. -/
def magnitude : Regular :=
  .either (.word "Infinity".toList) (.sequence mantissa power.optional)

def real : Regular := .sequence sign magnitude

/-! ## What they describe -/

theorem accepts_sign {text : List Char} :
    sign.Accepts text ↔ text = [] ∨ text = ['+'] ∨ text = ['-'] := by
  rw [sign, Regular.accepts_optional, Regular.Accepts, or_comm]
  refine or_congr_right ⟨?_, ?_⟩
  · rintro ⟨c, rfl, isSign⟩
    rcases Bool.or_eq_true_iff.1 isSign with plus | minus
    · exact Or.inl (congrArg (· :: []) (beq_iff_eq.1 plus))
    · exact Or.inr (congrArg (· :: []) (beq_iff_eq.1 minus))
  · rintro (rfl | rfl)
    · exact ⟨'+', rfl, rfl⟩
    · exact ⟨'-', rfl, rfl⟩

theorem accepts_digits {text : List Char} :
    digits.Accepts text ↔ text ≠ [] ∧ ∀ c ∈ text, c.isDigit = true :=
  Regular.accepts_oneOrMore

theorem accepts_digit {c : Char} (digit : c.isDigit = true) : digits.Accepts [c] :=
  accepts_digits.2 ⟨List.cons_ne_nil c [], by simpa using digit⟩

theorem accepts_digits_append {text more : List Char} (run : digits.Accepts text)
    (also : ∀ c ∈ more, c.isDigit = true) : digits.Accepts (text ++ more) := by
  obtain ⟨nonempty, all⟩ := accepts_digits.1 run
  refine accepts_digits.2 ⟨List.append_ne_nil_of_left_ne_nil nonempty more, ?_⟩
  intro c member
  exact (List.mem_append.1 member).elim (all c) (also c)

/-- The mantissas with the digits before and behind the point. -/
inductive Mantissa : List Char → List Char → List Char → Prop
  | whole {whole : List Char} (run : digits.Accepts whole) : Mantissa whole whole []
  | pointed {whole fraction : List Char} (run : digits.Accepts whole)
      (more : ∀ c ∈ fraction, c.isDigit = true) :
    Mantissa (whole ++ '.' :: fraction) whole fraction
  | fraction {fraction : List Char} (run : digits.Accepts fraction) :
    Mantissa ('.' :: fraction) [] fraction

theorem accepts_point {text : List Char} : point.Accepts text ↔ text = ['.'] := by
  constructor
  · rintro ⟨c, rfl, isPoint⟩
    exact congrArg (· :: []) (beq_iff_eq.1 isPoint)
  · rintro rfl
    exact ⟨'.', rfl, rfl⟩

/-- The expression describes exactly the mantissas. -/
theorem accepts_mantissa {text : List Char} :
    mantissa.Accepts text ↔ ∃ whole fraction, Mantissa text whole fraction := by
  constructor
  · rintro (⟨whole, tail, rfl, run, front, fraction, rfl, dot, more⟩ |
      ⟨front, fraction, rfl, dot, run⟩)
    · rcases dot with dot | rfl
      · obtain rfl := accepts_point.1 dot
        exact ⟨whole, fraction, .pointed run more⟩
      · exact ⟨_, _, .whole (accepts_digits_append run more)⟩
    · obtain rfl := accepts_point.1 dot
      exact ⟨[], fraction, .fraction run⟩
  · rintro ⟨whole, fraction, parts⟩
    cases parts with
    | whole run =>
        exact Or.inl ⟨text, [], (List.append_nil text).symm, run, [], [], rfl, Or.inr rfl,
          fun c member => absurd member List.not_mem_nil⟩
    | pointed run more =>
        exact Or.inl ⟨whole, _, rfl, run, ['.'], fraction, rfl,
          Or.inl (accepts_point.2 rfl), more⟩
    | fraction run => exact Or.inr ⟨['.'], fraction, rfl, accepts_point.2 rfl, run⟩

/-- The powers with the exponents that they stand for; nothing stands for none. -/
inductive Exponent : List Char → Int → Prop
  | none : Exponent [] 0
  | power {mark : Char} {signed run : List Char} (isMark : isMark mark = true)
      (atMostOne : sign.Accepts signed) (all : digits.Accepts run) :
    Exponent (mark :: (signed ++ run)) (Digit.signed (signed = ['-']) (Digit.number run))

theorem Mantissa.append_digit {text whole fraction : List Char}
    (parts : Mantissa text whole fraction) {c : Char} (digit : c.isDigit = true) :
    ∃ longer more, Mantissa (text ++ [c]) longer more := by
  have also : ∀ d ∈ [c], d.isDigit = true := by simpa using digit
  cases parts with
  | whole run => exact ⟨_, _, .whole (accepts_digits_append run also)⟩
  | @pointed whole fraction run more =>
      have all : ∀ d ∈ fraction ++ [c], d.isDigit = true := fun d member =>
        (List.mem_append.1 member).elim (more d) (also d)
      rw [List.append_assoc, List.cons_append]
      exact ⟨_, _, .pointed run all⟩
  | fraction run =>
      rw [List.cons_append]
      exact ⟨_, _, .fraction (accepts_digits_append run also)⟩

theorem Exponent.append_digit {mark : Char} {signed run : List Char}
    (marked : Numeral.isMark mark = true) (atMostOne : sign.Accepts signed)
    (all : digits.Accepts run) {c : Char} (digit : c.isDigit = true) :
    ∃ power, Exponent (mark :: (signed ++ run) ++ [c]) power := by
  have longer : digits.Accepts (run ++ [c]) :=
    accepts_digits_append all (by simpa using digit)
  rw [List.cons_append, List.append_assoc]
  exact ⟨_, .power marked atMostOne longer⟩

/-- The expression describes exactly the powers, the missing one among them. -/
theorem accepts_power {text : List Char} :
    power.optional.Accepts text ↔ ∃ exponent, Exponent text exponent := by
  constructor
  · rintro (⟨front, back, rfl, ⟨mark, rfl, isMark⟩, signed, run, rfl, atMostOne, all⟩ | rfl)
    · rw [List.singleton_append]
      exact ⟨_, .power isMark atMostOne all⟩
    · exact ⟨0, .none⟩
  · rintro ⟨exponent, parts⟩
    cases parts with
    | none => exact Or.inr rfl
    | power isMark atMostOne all =>
        exact Or.inl ⟨_, _, rfl, ⟨_, rfl, isMark⟩, _, _, rfl, atMostOne, all⟩

/-! ## What they begin with -/

theorem begins_digits : digits.Begins (·.isDigit = true) :=
  (Regular.begins_one fun _ digit => digit).sequence _

theorem begins_point : point.Begins (· = '.') :=
  Regular.begins_one fun _ isPoint => beq_iff_eq.1 isPoint

theorem begins_power : power.Begins (isMark · = true) :=
  (Regular.begins_one fun _ mark => mark).sequence _

def InMantissa (c : Char) : Prop := c.isDigit = true ∨ c = '.'

instance (c : Char) : Decidable (InMantissa c) :=
  inferInstanceAs (Decidable (_ ∨ _))

theorem InMantissa.ne {c other : Char} (kind : InMantissa c) (apart : ¬InMantissa other) :
    c ≠ other :=
  fun same => apart (same ▸ kind)

theorem InMantissa.not_isSign {c : Char} (kind : InMantissa c) : isSign c = false := by
  simp [isSign, kind.ne (by decide : ¬InMantissa '+'), kind.ne (by decide : ¬InMantissa '-')]

theorem InMantissa.not_isMark {c : Char} (kind : InMantissa c) : isMark c = false := by
  simp [isMark, kind.ne (by decide : ¬InMantissa 'e'), kind.ne (by decide : ¬InMantissa 'E')]

theorem begins_mantissa : mantissa.Begins InMantissa := by
  have whole : wholeMantissa.Begins InMantissa := by
    refine Regular.Begins.sequence (fun text run => ?_) _
    obtain ⟨c, rest, rfl, digit⟩ := begins_digits text run
    exact ⟨c, rest, rfl, Or.inl digit⟩
  have pointed : pointMantissa.Begins InMantissa := by
    refine Regular.Begins.sequence (fun text run => ?_) _
    obtain ⟨c, rest, rfl, dot⟩ := begins_point text run
    exact ⟨c, rest, rfl, Or.inr dot⟩
  exact whole.either pointed

/-- A mantissa has no other characters than digits and the point. -/
theorem inMantissa_of_mem {text : List Char} (accepted : mantissa.Accepts text) :
    ∀ c ∈ text, InMantissa c := by
  obtain ⟨whole, fraction, parts⟩ := accepts_mantissa.1 accepted
  intro c member
  cases parts with
  | whole run => exact Or.inl ((accepts_digits.1 run).2 c member)
  | pointed run more =>
      rcases List.mem_append.1 member with before | behind
      · exact Or.inl ((accepts_digits.1 run).2 c before)
      · rcases List.mem_cons.1 behind with dot | after
        · exact Or.inr dot
        · exact Or.inl (more c after)
  | fraction run =>
      rcases List.mem_cons.1 member with dot | after
      · exact Or.inr dot
      · exact Or.inl ((accepts_digits.1 run).2 c after)

/-! ## The longest numeral comes first -/

theorem prefersLongest_sign : sign.PrefersLongest :=
  (Regular.prefersLongest_one isSign).optional

theorem prefersLongest_digits : digits.PrefersLongest :=
  Regular.prefersLongest_oneOrMore Char.isDigit

theorem isSign_of_mem {text : List Char} (accepted : sign.Accepts text) :
    ∀ c ∈ text, isSign c = true := by
  rcases accepts_sign.1 accepted with rfl | rfl | rfl <;> exact List.all_eq_true.1 rfl

/-- Behind at most one sign an expression that no sign begins prefers the longest
way. -/
theorem prefersLongest_signed {body : Regular} (prefers : body.PrefersLongest)
    (begins : body.Begins (isSign · = false)) : (Regular.sequence sign body).PrefersLongest := by
  have unsigned (c : Char) (rest : List Char) (accepted : body.Accepts (c :: rest)) :
      isSign c = false := by
    obtain ⟨d, more, same, unsigned⟩ := begins _ accepted
    exact (List.cons.inj same).1 ▸ unsigned
  refine prefersLongest_sign.sequence_of_apart prefers unsigned ?_
  intro text accepted c member unsigned
  rw [isSign_of_mem accepted c member] at unsigned
  cases unsigned

theorem begins_digits_unsigned : digits.Begins (isSign · = false) := by
  intro text run
  obtain ⟨c, rest, rfl, digit⟩ := begins_digits text run
  exact ⟨c, rest, rfl, InMantissa.not_isSign (Or.inl digit)⟩

theorem prefersLongest_integer : integer.PrefersLongest :=
  prefersLongest_signed prefersLongest_digits begins_digits_unsigned

theorem prefersLongest_power : power.PrefersLongest :=
  prefersLongest_integer.behindOne isMark

theorem prefersLongest_wholeMantissa : wholeMantissa.PrefersLongest := by
  have dots : point.optional.PrefersLongest := (Regular.prefersLongest_one _).optional
  have begins (c : Char) (rest : List Char)
      (all : (Regular.many Char.isDigit).Accepts (c :: rest)) : c.isDigit = true :=
    all c List.mem_cons_self
  have tail : (Regular.sequence point.optional (.many Char.isDigit)).PrefersLongest := by
    refine dots.sequence_of_apart (Regular.prefersLongest_many _) begins ?_
    rintro text (dot | rfl) c member digit
    · obtain rfl := accepts_point.1 dot
      rw [List.mem_singleton.1 member] at digit
      exact absurd digit (by decide)
    · exact absurd member List.not_mem_nil
  -- fewer digits in front leave a digit, which no point precedes: the rest is digits too
  refine prefersLongest_digits.sequence tail ?_
  intro text way first other member less next nextMember
  have wayMember := Regular.mem_ways_of_first? first
  obtain ⟨c, more, taken, left⟩ := Regular.exists_of_shorter member wayMember less
  obtain ⟨split, otherRun⟩ := Regular.mem_ways_iff.1 member
  obtain ⟨-, wayRun⟩ := Regular.mem_ways_iff.1 wayMember
  obtain ⟨nextSplit, front, run, nextTaken, dot, all⟩ := Regular.mem_ways_iff.1 nextMember
  have digit : c.isDigit = true := (accepts_digits.1 wayRun).2 c (by simp [taken])
  refine ⟨([], way.2), Regular.mem_ways_iff.2 ⟨rfl, [], [], rfl, Or.inr rfl, ?_⟩, ?_⟩
  · exact fun d none => absurd none List.not_mem_nil
  · rcases dot with dot | rfl
    · obtain rfl := accepts_point.1 dot
      rw [left, nextTaken] at nextSplit
      rw [(List.cons.inj nextSplit).1] at digit
      exact absurd digit (by decide)
    · have run : digits.Accepts (other.1 ++ next.1) := by
        rw [nextTaken]
        exact accepts_digits_append otherRun all
      have longer : (other.1 ++ next.1, next.2) ∈ digits.ways text := by
        refine Regular.mem_ways_iff.2 ⟨?_, run⟩
        rw [split, nextSplit, List.append_assoc]
      have atMost := prefersLongest_digits text way first _ longer
      rw [List.length_append] at atMost
      exact atMost

theorem prefersLongest_mantissa : mantissa.PrefersLongest := by
  have pointed : pointMantissa.PrefersLongest := prefersLongest_digits.behindOne _
  refine prefersLongest_wholeMantissa.either_of_begins pointed
    (begins_digits.sequence _) (begins_point.sequence _) ?_
  rintro c digit rfl
  exact absurd digit (by decide)

theorem prefersLongest_literal : (Regular.sequence mantissa power.optional).PrefersLongest := by
  have begins (c : Char) (rest : List Char) (accepted : power.optional.Accepts (c :: rest)) :
      isMark c = true := by
    rcases accepted with accepted | none
    · obtain ⟨d, more, same, mark⟩ := begins_power _ accepted
      exact (List.cons.inj same).1 ▸ mark
    · cases none
  refine prefersLongest_mantissa.sequence_of_apart prefersLongest_power.optional begins ?_
  intro text accepted c member mark
  rw [(inMantissa_of_mem accepted c member).not_isMark] at mark
  cases mark

theorem begins_infinity : (Regular.word "Infinity".toList).Begins (· = 'I') := by
  intro text accepted
  obtain rfl := Regular.accepts_word.1 accepted
  exact ⟨'I', "nfinity".toList, by decide, rfl⟩

theorem begins_magnitude : magnitude.Begins fun c => c = 'I' ∨ InMantissa c := by
  have word : (Regular.word "Infinity".toList).Begins fun c => c = 'I' ∨ InMantissa c := by
    intro text accepted
    obtain ⟨c, rest, taken, first⟩ := begins_infinity text accepted
    exact ⟨c, rest, taken, Or.inl first⟩
  refine word.either (Regular.Begins.sequence (fun text accepted => ?_) _)
  obtain ⟨c, rest, taken, kind⟩ := begins_mantissa text accepted
  exact ⟨c, rest, taken, Or.inr kind⟩

theorem begins_magnitude_unsigned : magnitude.Begins (isSign · = false) := by
  intro text accepted
  obtain ⟨c, rest, taken, rfl | kind⟩ := begins_magnitude text accepted
  · exact ⟨'I', rest, taken, rfl⟩
  · exact ⟨c, rest, taken, kind.not_isSign⟩

theorem prefersLongest_real : real.PrefersLongest := by
  refine prefersLongest_signed ?_ begins_magnitude_unsigned
  refine (Regular.prefersLongest_word _).either_of_begins prefersLongest_literal
    begins_infinity (begins_mantissa.sequence _) ?_
  rintro c rfl kind
  exact absurd kind (by decide)

/-! ## Numerals behind white space -/

theorem isDigit_not_isBlank {c : Char} (digit : c.isDigit = true) : Text.isBlank c = false := by
  have code := (Digit.isDigit_iff c).1 digit
  simp only [Text.isBlank, Bool.or_eq_false_iff, Bool.and_eq_false_iff, decide_eq_false_iff_not,
    beq_eq_false_iff_ne]
  omega

theorem begins_signed {body : Regular} {kind : Char → Prop} (begins : body.Begins kind)
    (signs : ∀ c, isSign c = true → kind c) : (Regular.sequence sign body).Begins kind := by
  rintro text ⟨front, back, rfl, signed, accepted⟩
  cases front with
  | nil => exact begins back accepted
  | cons c rest => exact ⟨c, rest ++ back, rfl, signs c (isSign_of_mem signed c List.mem_cons_self)⟩

/-- A sign is no white space, so that the search stops in front of it. -/
theorem isSign_not_isBlank (c : Char) (signed : isSign c = true) : Text.isBlank c = false := by
  rcases Bool.or_eq_true_iff.1 signed with plus | minus
  · rw [beq_iff_eq.1 plus]
    decide
  · rw [beq_iff_eq.1 minus]
    decide

theorem begins_integer : integer.Begins (Text.isBlank · = false) := by
  refine begins_signed (fun text run => ?_) isSign_not_isBlank
  obtain ⟨c, rest, taken, digit⟩ := begins_digits text run
  exact ⟨c, rest, taken, isDigit_not_isBlank digit⟩

theorem begins_real : real.Begins (Text.isBlank · = false) := by
  refine begins_signed (fun text accepted => ?_) isSign_not_isBlank
  obtain ⟨c, rest, taken, rfl | digit | rfl⟩ := begins_magnitude text accepted
  · exact ⟨'I', rest, taken, by decide⟩
  · exact ⟨c, rest, taken, isDigit_not_isBlank digit⟩
  · exact ⟨'.', rest, taken, by decide⟩

/-- A whole numeral is a real one. -/
theorem accepts_real_of_integer {text : List Char} (accepted : integer.Accepts text) :
    real.Accepts text := by
  obtain ⟨front, back, rfl, signed, run⟩ := accepted
  refine ⟨front, back, rfl, signed, Or.inr ⟨back, [], (List.append_nil back).symm, ?_, Or.inr rfl⟩⟩
  exact accepts_mantissa.2 ⟨back, [], .whole run⟩

end Numeral

end Criteria
