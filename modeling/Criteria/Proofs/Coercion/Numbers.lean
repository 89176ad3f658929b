import Criteria.Proofs.Coercion
import Criteria.Proofs.Number.Scanning

/-!
# Strings under numeric types

A string under an integer field becomes the number that its digits denote, in the
smallest kind that holds it, and one under a float field the double that its longest
numeral spells. Nothing behind the numeral counts, and nothing can go wrong once there
is one; where there is none, the string is reported.
-/

namespace Criteria

namespace Numeral

/-- A text cut behind at most one sign, and behind all of the digits that follow it. -/
structure WholeFront (text signed run after : List Char) : Prop where
  split : text = signed ++ run ++ after
  atMostOne : signed = [] ∨ signed = ['+'] ∨ signed = ['-']
  nonempty : run ≠ []
  digits : ∀ c ∈ run, c.isDigit = true
  ends : ∀ c, after.head? = some c → c.isDigit = false

theorem ends_of_noDigit {after : List Char} (noDigit : startsWithDigit after = false) :
    ∀ c, after.head? = some c → c.isDigit = false := by
  intro c head
  rw [startsWithDigit, head, Option.any_some] at noDigit
  exact noDigit

/-- The integer that a sign and digits denote. -/
def denoted (signed run : List Char) : Int :=
  (if signed = ['-'] then -1 else 1) * (Nat.ofDigits 10 (run.reverse.map Digit.value) : Nat)

/-- The sign and the digits denote what the reader of integers makes of them. -/
theorem denoted_eq (signed run : List Char) :
    denoted signed run = Digit.signed (signed = ['-']) (Digit.number run) := by
  rw [denoted, ← Digit.number_eq_ofDigits, Digit.signed]
  by_cases minus : signed = ['-'] <;> simp [minus]

namespace WholeFront

variable {text signed run after : List Char}

theorem sign (front : WholeFront text signed run after) : Numeral.sign.Accepts signed :=
  accepts_sign.2 front.atMostOne

theorem run_accepted (front : WholeFront text signed run after) :
    Numeral.digits.Accepts run :=
  accepts_digits.2 ⟨front.nonempty, front.digits⟩

theorem noDigit (front : WholeFront text signed run after) :
    startsWithDigit after = false := by
  cases head : after.head? with
  | none => rw [startsWithDigit, head, Option.any_none]
  | some c => rw [startsWithDigit, head, Option.any_some, front.ends c head]

theorem sign_eq (front : WholeFront text signed run after) :
    Digit.sign text = some (decide (signed = ['-']), run ++ after) := by
  rw [front.split, List.append_assoc]
  exact Digit.sign_append front.sign (Digit.unsigned_of_digits front.run_accepted after)

theorem many_eq (front : WholeFront text signed run after) :
    Digit.many (run ++ after) = some (run, after) :=
  Digit.many_append front.run_accepted front.noDigit

/-- A text is cut in one way only. -/
theorem after_eq {signed₁ run₁ after₁ : List Char} (front : WholeFront text signed run after)
    (other : WholeFront text signed₁ run₁ after₁) : after₁ = after := by
  have behind : run₁ ++ after₁ = run ++ after :=
    (Prod.mk.inj (Option.some.inj (other.sign_eq.symm.trans front.sign_eq))).2
  have read := other.many_eq
  rw [behind, front.many_eq] at read
  exact (Prod.mk.inj (Option.some.inj read)).2.symm

/-- The longest whole numeral ends where the digits do. -/
theorem of_longest {taken rest : List Char} (longest : integer.Longest (taken ++ rest) taken) :
    ∃ signed run, taken = signed ++ run ∧ WholeFront (taken ++ rest) signed run rest := by
  obtain ⟨signed, run, rfl, atMostOne, all⟩ := longest.accepted
  obtain ⟨nonempty, digits⟩ := accepts_digits.1 all
  refine ⟨signed, run, rfl, rfl, accepts_sign.1 atMostOne, nonempty, digits, ?_⟩
  intro c head
  refine Bool.eq_false_iff.2 fun digit => ?_
  have follows : [c] <+: rest := by
    obtain ⟨tail, rfl⟩ := List.head?_eq_some_iff.1 head
    exact ⟨tail, rfl⟩
  have longer : Numeral.digits.Accepts (run ++ [c]) :=
    accepts_digits_append all (by simpa using digit)
  exact longest.not_accepts_append (List.cons_ne_nil c []) follows
    ⟨signed, run ++ [c], List.append_assoc _ _ _, atMostOne, longer⟩

/-- The search for a whole numeral takes the sign and all of the digits. -/
theorem first?_eq (front : WholeFront text signed run after) :
    integer.first? text = some (signed ++ run, after) := by
  have accepted : integer.Accepts (signed ++ run) :=
    ⟨signed, run, rfl, front.sign, front.run_accepted⟩
  obtain ⟨taken, rest, found⟩ := Text.Regular.exists_first? ⟨after, front.split.symm⟩ accepted
  obtain ⟨split, -⟩ := Text.Regular.mem_ways_iff.1 (Text.Regular.mem_ways_of_first? found)
  have longest := prefersLongest_integer.longest found
  rw [split] at longest
  obtain ⟨signed₁, run₁, rfl, other⟩ := of_longest longest
  rw [← split] at other
  have same := front.after_eq other
  rw [same] at split found
  rw [found, List.append_cancel_right (split.symm.trans front.split)]

/-- The numeral alone is cut behind its last digit. -/
theorem alone (front : WholeFront text signed run after) :
    WholeFront (signed ++ run) signed run [] where
  split := (List.append_nil _).symm
  atMostOne := front.atMostOne
  nonempty := front.nonempty
  digits := front.digits
  ends := fun _ none => absurd none (Option.some_ne_none _).symm

/-- The signed digits alone are read as the whole number that they denote. -/
theorem integer?_eq (front : WholeFront text signed run after) :
    Digit.integer? (String.ofList (signed ++ run)) = some (denoted signed run) := by
  have read : Digit.integer (signed ++ run) = some (denoted signed run, []) := by
    rw [Digit.integer, Scan.bind_of_some front.alone.sign_eq,
      Scan.bind_of_some front.alone.many_eq, denoted_eq]
    rfl
  rw [Digit.integer?, Scan.run?, String.toList_ofList, read]

end WholeFront

/-- A whole numeral begins every text with one at its front. -/
theorem exists_wholeFront {text more : List Char} (follows : more <+: text)
    (accepted : integer.Accepts more) : ∃ signed run after, WholeFront text signed run after := by
  obtain ⟨taken, rest, found⟩ := Text.Regular.exists_first? follows accepted
  obtain ⟨split, -⟩ := Text.Regular.mem_ways_iff.1 (Text.Regular.mem_ways_of_first? found)
  have longest := prefersLongest_integer.longest found
  rw [split] at longest
  obtain ⟨signed, run, -, front⟩ := WholeFront.of_longest longest
  exact ⟨signed, run, rest, split ▸ front⟩

end Numeral

namespace Coercion

open Numeral

/-! ## The value of a whole numeral -/

def InInt32 (n : Int) : Prop := -2 ^ 31 ≤ n ∧ n < 2 ^ 31

def InInt64 (n : Int) : Prop := -2 ^ 63 ≤ n ∧ n < 2 ^ 63

theorem fitsInt32_iff (n : Int) : Value.fitsInt32 n = true ↔ InInt32 n := by
  rw [Value.fitsInt32, InInt32, Bool.and_eq_true, decide_eq_true_eq, decide_eq_true_eq]
  omega

theorem fitsInt64_iff (n : Int) : Value.fitsInt64 n = true ↔ InInt64 n := by
  rw [Value.fitsInt64, InInt64, Bool.and_eq_true, decide_eq_true_eq, decide_eq_true_eq]
  omega

section

variable {signed run : List Char}

theorem wholeValue_int32 (fits : InInt32 (denoted signed run)) :
    wholeValue (signed = ['-']) run = .int32 (Int32.ofInt (denoted signed run)) := by
  rw [wholeValue, ← denoted_eq, Value.ofInt?, if_pos ((fitsInt32_iff _).2 fits), Option.getD_some]

theorem wholeValue_int64 (fits : InInt64 (denoted signed run))
    (wide : ¬InInt32 (denoted signed run)) :
    wholeValue (signed = ['-']) run = .int64 (Int64.ofInt (denoted signed run)) := by
  rw [wholeValue, ← denoted_eq, Value.ofInt?, if_neg (mt (fitsInt32_iff _).1 wide),
    if_pos ((fitsInt64_iff _).2 fits), Option.getD_some]

theorem wholeValue_double (wide : ¬InInt64 (denoted signed run)) :
    wholeValue (signed = ['-']) run =
      .double (Double.ofDecimal (signed = ['-']) (Digit.number run) 0) := by
  have wide32 : ¬InInt32 (denoted signed run) := by
    unfold InInt32 InInt64 at *
    omega
  rw [wholeValue, ← denoted_eq, Value.ofInt?, if_neg (mt (fitsInt32_iff _).1 wide32),
    if_neg (mt (fitsInt64_iff _).1 wide), Option.getD_none]

theorem wholeValue_int32_iff :
    (∃ m : Int32, m.toInt = denoted signed run ∧ wholeValue (signed = ['-']) run = .int32 m) ↔
      InInt32 (denoted signed run) := by
  constructor
  · rintro ⟨m, same, -⟩
    rw [← same]
    exact ⟨m.le_toInt, m.toInt_lt⟩
  · intro fits
    exact ⟨_, Int32.toInt_ofInt_of_le fits.1 fits.2, wholeValue_int32 fits⟩

theorem wholeValue_int64_iff :
    (∃ m : Int64, m.toInt = denoted signed run ∧ wholeValue (signed = ['-']) run = .int64 m) ↔
      InInt64 (denoted signed run) ∧ ¬InInt32 (denoted signed run) := by
  constructor
  · rintro ⟨m, same, isInt64⟩
    refine ⟨same ▸ ⟨m.le_toInt, m.toInt_lt⟩, fun fits => ?_⟩
    rw [wholeValue_int32 fits] at isInt64
    cases isInt64
  · rintro ⟨fits, wide⟩
    exact ⟨_, Int64.toInt_ofInt_of_le fits.1 fits.2, wholeValue_int64 fits wide⟩

theorem wholeValue_double_iff :
    wholeValue (signed = ['-']) run =
        .double (Double.ofDecimal (signed = ['-']) (Digit.number run) 0) ↔
      ¬InInt64 (denoted signed run) := by
  constructor
  · intro isDouble fits
    by_cases narrow : InInt32 (denoted signed run)
    · rw [wholeValue_int32 narrow] at isDouble
      cases isDouble
    · rw [wholeValue_int64 fits narrow] at isDouble
      cases isDouble
  · exact wholeValue_double

end

/-- The digits of a whole numeral are a real numeral too. -/
theorem ofText?_wholeFront {text signed run after : List Char}
    (front : WholeFront text signed run after) :
    Double.ofText? (String.ofList (signed ++ run)) =
      some (Double.ofDecimal (signed = ['-']) (Digit.number run) 0) := by
  have read := Double.ofText?_literal front.sign (.whole front.run_accepted) .none
  rw [List.append_nil] at read
  rw [read, Literal.toDouble, List.append_nil]
  rfl

/-! ## Strings under an integer field -/

/-- What stands for a string without a number. -/
def unreadNumber (options : Options) (text : String) : Value :=
  match options.numericFallback with
  | .nan => .double .nan
  | .keepText => .string text

/-- Behind white space, the signed digits are read and nothing after them counts. -/
theorem integer?_of_wholeFront {text : String} {signed run after : List Char}
    (front : WholeFront (Text.dropBlank text.toList) signed run after) :
    integer? text = some (wholeValue (signed = ['-']) run) := by
  rw [integer?, integerFront?, Scan.bind_of_some front.sign_eq, Scan.bind_of_some front.many_eq]
  rfl

/-- Without digits behind a sign, nothing is read. -/
theorem integer?_eq_none {text : String}
    (noFront : ¬∃ signed run after,
      WholeFront (Text.dropBlank text.toList) signed run after) : integer? text = none := by
  refine Option.not_isSome_iff_eq_none.1 fun some => noFront ?_
  rw [isSome_integer?] at some
  obtain ⟨more, follows, accepted⟩ := Digit.exists_integer some
  exact exists_wholeFront follows accepted

/-- A string under an integer field is read up to the last of the digits that stand
behind leading white space and at most one sign: it becomes the smallest kind that holds
the integer they denote, and the nearest double if none does, whatever follows. None of
the readings of that numeral fails. A string without such digits is reported once, and
the options say what stands for it. -/
theorem integer_maximal_digits (context : Context) (field text : String)
    (place : Option Modifier) (declared : context.schema.type? field = some .integer)
    (follows : FollowsSchema context.options field text place) :
    let result := coerceAt context field place (.string text)
    let rest := text.toList.dropWhile Text.isBlank
    (∀ signed run after, WholeFront rest signed run after →
      let numeral := signed ++ run
      let n := denoted signed run
      integer.captured? text.toList = some numeral ∧
        Digit.integer? (String.ofList numeral) = some n ∧
        (Double.ofText? (String.ofList numeral)).isSome = true ∧
        ((∃ m : Int32, m.toInt = n ∧ result = pure (.int32 m)) ↔ InInt32 n) ∧
        ((∃ m : Int64, m.toInt = n ∧ result = pure (.int64 m)) ↔ InInt64 n ∧ ¬InInt32 n) ∧
        ((∃ d, Double.ofText? (String.ofList numeral) = some d ∧ result = pure (.double d)) ↔
          ¬InInt64 n)) ∧
      ((¬∃ signed run after, WholeFront rest signed run after) →
        integer.captured? text.toList = none ∧
          result = .report (.unparsableNumber field .integer text)
            (unreadNumber context.options text)) := by
  intro result rest
  have typedEq : result = numberOr context field .integer text (integer? text) := by
    show coerceAt context field place (.string text) = _
    rw [coerceAt_of_followsSchema follows, typed, declared]
  constructor
  · intro signed run after front numeral n
    have read : result = pure (wholeValue (signed = ['-']) run) := by
      rw [typedEq, integer?_of_wholeFront front]
      rfl
    have resultIff (value : Value) :
        result = pure value ↔ wholeValue (signed = ['-']) run = value := by
      rw [read]
      exact ⟨congrArg Reported.value, congrArg pure⟩
    have double := ofText?_wholeFront front
    refine ⟨?_, front.integer?_eq, ?_, ?_, ?_, ?_⟩
    · rw [Text.Regular.captured?_eq begins_integer]
      exact congrArg (Option.map Prod.fst) front.first?_eq
    · rw [double, Option.isSome_some]
    · simp only [resultIff]
      exact wholeValue_int32_iff
    · simp only [resultIff]
      exact wholeValue_int64_iff
    · simp only [resultIff, double, numeral, Option.some.injEq, exists_eq_left']
      exact wholeValue_double_iff
  · intro noFront
    constructor
    · refine Option.not_isSome_iff_eq_none.1 fun some => noFront ?_
      obtain ⟨front, follows, accepted⟩ :=
        (Text.Regular.captured?_isSome_iff begins_integer text.toList).1 some
      exact exists_wholeFront follows accepted
    · rw [typedEq, integer?_eq_none noFront]
      rfl

/-- The least number of 32 bits, behind a blank of another script and with zeros in
front; the first one beyond 64 bits; and a sign before a digit of another script. -/
theorem integer_maximal_digits_of_range_ends :
    let context : Context := ⟨Schema.ofList [("age", .integer)], { numericFallback := .keepText }⟩
    let least := "\u3000-002147483648.5"
    let beyond := "9223372036854775808 years"
    let foreign := "+\u0661"
    (context.schema.type? "age" = some .integer ∧
        FollowsSchema context.options "age" least none ∧
        WholeFront (least.toList.dropWhile Text.isBlank) ['-'] "002147483648".toList
          ".5".toList) ∧
      coerceAt context "age" none (.string least) =
        pure (.int32 (Int32.ofInt (-2147483648))) ∧
      (∃ d, Double.ofText? "9223372036854775808" = some d ∧
        coerceAt context "age" (some .not) (.string beyond) = pure (.double d)) ∧
      coerceAt context "age" (some (.verbatim "$eq")) (.string foreign) =
        .report (.unparsableNumber "age" .integer foreign) (.string foreign) := by
  intro context least beyond foreign
  have declared : context.schema.type? "age" = some .integer := by decide
  have follows (text : String) (place : Option Modifier)
      (other : place ≠ some (.verbatim "$ne")) :
      FollowsSchema context.options "age" text place :=
    ⟨other, fun identified => absurd identified.1 Bool.noConfusion⟩
  have leastFront : WholeFront (least.toList.dropWhile Text.isBlank) ['-']
      "002147483648".toList ".5".toList :=
    ⟨by decide, by decide, by decide, List.all_eq_true.1 (by decide), ends_of_noDigit (by decide)⟩
  have beyondFront : WholeFront (beyond.toList.dropWhile Text.isBlank) []
      "9223372036854775808".toList " years".toList :=
    ⟨by decide, by decide, by decide, List.all_eq_true.1 (by decide), ends_of_noDigit (by decide)⟩
  have leastDenoted : denoted ['-'] "002147483648".toList = -2147483648 := by
    rw [denoted_eq]
    decide
  have beyondDenoted : denoted [] "9223372036854775808".toList = 9223372036854775808 := by
    rw [denoted_eq]
    decide
  obtain ⟨leastNumber, -⟩ :=
    integer_maximal_digits context "age" least none declared (follows _ _ (by decide))
  obtain ⟨beyondNumber, -⟩ :=
    integer_maximal_digits context "age" beyond (some .not) declared (follows _ _ (by decide))
  obtain ⟨-, noNumber⟩ :=
    integer_maximal_digits context "age" foreign (some (.verbatim "$eq")) declared
      (follows _ _ (by decide))
  obtain ⟨-, -, -, int32, -, -⟩ := leastNumber _ _ _ leastFront
  obtain ⟨-, -, -, -, -, double⟩ := beyondNumber _ _ _ beyondFront
  refine ⟨⟨declared, follows _ _ (by decide), leastFront⟩, ?_, ?_, (noNumber ?_).2⟩
  · obtain ⟨m, same, converted⟩ := int32.2 (by rw [leastDenoted]; unfold InInt32; omega)
    have isLeast : m = Int32.ofInt (-2147483648) := by
      rw [← Int32.toInt_inj, same, leastDenoted]
      rfl
    rw [converted, isLeast]
  · exact double.2 (by rw [beyondDenoted]; unfold InInt64; omega)
  · rintro ⟨signed, run, after, front⟩
    have read := integer?_of_wholeFront front
    have unread : integer? foreign = none := by decide
    rw [unread] at read
    cases read

/-! ## Strings under a float field -/

theorem typed_float {context : Context} {field : String}
    (declared : context.schema.type? field = some .float) (text : String) :
    typed context field text =
      numberOr context field .float text ((float? text).map .double) := by
  rw [typed, declared]

/-- The longest numeral at the front is what is read. -/
theorem float?_of_longest {text : String} {numeral : List Char}
    (longest : real.Longest (Text.dropBlank text.toList) numeral) :
    ∃ d, Double.ofText? (String.ofList numeral) = some d ∧ float? text = some d := by
  obtain ⟨rest, split⟩ := longest.isPrefix
  rw [← split] at longest
  obtain ⟨d, read, alone⟩ := Double.scanReal_of_longest longest
  refine ⟨d, alone, ?_⟩
  rw [float?, ← split, read, Option.map_some]

theorem float?_eq_none {text : String}
    (noFront : ¬∃ front, front <+: Text.dropBlank text.toList ∧ real.Accepts front) :
    float? text = none := by
  refine Option.not_isSome_iff_eq_none.1 fun some => noFront ?_
  rw [isSome_float?] at some
  exact Double.exists_real some

/-- A string under a float field is read up to the end of the longest real numeral that
stands behind leading white space, which is the one that the search for first choices
takes. It becomes the double that this numeral spells, and nothing is reported; what
follows the numeral does not count. A string without one is reported once, and the
options say what stands for it. Where a whole numeral is found, so is a real one. This
is what becomes of a string in every place where it follows the schema. -/
theorem float_longest_numeral (context : Context) (field text : String)
    (declared : context.schema.type? field = some .float) :
    let result := typed context field text
    let rest := text.toList.dropWhile Text.isBlank
    ((∃ front, front <+: rest ∧ real.Accepts front) →
      ∃ numeral d, real.Longest rest numeral ∧ real.captured? text.toList = some numeral ∧
        Double.ofText? (String.ofList numeral) = some d ∧ result = pure (.double d)) ∧
      ((¬∃ front, front <+: rest ∧ real.Accepts front) →
        real.captured? text.toList = none ∧
          result = .report (.unparsableNumber field .float text)
            (unreadNumber context.options text)) ∧
      (∀ numeral other, real.Longest rest numeral →
        real.Longest (other.toList.dropWhile Text.isBlank) numeral →
          typed context field other = result) ∧
      (∀ other : List Char, (integer.captured? other).isSome = true →
        (real.captured? other).isSome = true) ∧
      ∀ place, FollowsSchema context.options field text place →
        coerceAt context field place (.string text) = result := by
  intro result rest
  have ofNumeral (other : String) {numeral : List Char}
      (longest : real.Longest (Text.dropBlank other.toList) numeral) :
      ∃ d, Double.ofText? (String.ofList numeral) = some d ∧
        typed context field other = pure (.double d) := by
    obtain ⟨d, spelled, read⟩ := float?_of_longest longest
    refine ⟨d, spelled, ?_⟩
    rw [typed_float declared, read]
    rfl
  refine ⟨?_, ?_, ?_, ?_, ?_⟩
  · rintro ⟨front, follows, accepted⟩
    obtain ⟨numeral, left, found⟩ := Text.Regular.exists_first? follows accepted
    have longest := prefersLongest_real.longest found
    obtain ⟨d, spelled, converted⟩ := ofNumeral text longest
    refine ⟨numeral, d, longest, ?_, spelled, converted⟩
    rw [Text.Regular.captured?_eq begins_real]
    exact congrArg (Option.map Prod.fst) found
  · intro noFront
    constructor
    · exact Option.not_isSome_iff_eq_none.1
        (mt (Text.Regular.captured?_isSome_iff begins_real text.toList).1 noFront)
    · show typed context field text = _
      rw [typed_float declared, float?_eq_none noFront]
      rfl
  · intro numeral other longest otherLongest
    obtain ⟨d, spelled, converted⟩ := ofNumeral text longest
    obtain ⟨d₁, spelled₁, converted₁⟩ := ofNumeral other otherLongest
    rw [spelled] at spelled₁
    rw [converted₁, ← Option.some.inj spelled₁]
    exact converted.symm
  · intro other found
    obtain ⟨front, follows, accepted⟩ :=
      (Text.Regular.captured?_isSome_iff begins_integer other).1 found
    exact (Text.Regular.captured?_isSome_iff begins_real other).2
      ⟨front, follows, accepts_real_of_integer accepted⟩
  · exact fun place follows => coerceAt_of_followsSchema follows

/-- A point and a power cut short, the word for infinity, and a point alone. -/
theorem float_longest_numeral_of_cut_literals :
    let context : Context := ⟨Schema.ofList [("price", .float)], {}⟩
    let cut := "\t-1.e5e+7"
    let word := "+Infinityx"
    let point := ".e5"
    (context.schema.type? "price" = some .float ∧
        "-1.e5".toList <+: cut.toList.dropWhile Text.isBlank ∧ real.Accepts "-1.e5".toList) ∧
      (∃ d, Double.ofText? "-1.e5" = some d ∧ typed context "price" cut = pure (.double d)) ∧
      typed context "price" word = pure (.double (Double.infinity false)) ∧
      typed context "price" point =
        .report (.unparsableNumber "price" .float point) (.double .nan) := by
  intro context cut word point
  have declared : context.schema.type? "price" = some .float := by decide
  have cutTaken : real.captured? cut.toList = some "-1.e5".toList := by decide
  have wordTaken : real.captured? word.toList = some "+Infinity".toList := by decide
  have pointTaken : real.captured? point.toList = none := by decide
  have cutAccepted : real.Accepts "-1.e5".toList :=
    ⟨['-'], _, rfl, accepts_sign.2 (by decide), Or.inr ⟨"1.".toList, "e5".toList, by decide,
      accepts_mantissa.2 ⟨_, _, .pointed (accepts_digit (by decide)) (List.all_eq_true.1 rfl)⟩,
      accepts_power.2 ⟨_, .power (by decide) (accepts_sign.2 (Or.inl rfl))
        (accepts_digit (by decide))⟩⟩⟩
  have cutFollows : "-1.e5".toList <+: cut.toList.dropWhile Text.isBlank := by decide
  obtain ⟨cutNumber, -⟩ := float_longest_numeral context "price" cut declared
  obtain ⟨wordNumber, -⟩ := float_longest_numeral context "price" word declared
  obtain ⟨-, noNumber, -⟩ := float_longest_numeral context "price" point declared
  refine ⟨⟨declared, cutFollows, cutAccepted⟩, ?_, ?_, (noNumber ?_).2⟩
  · obtain ⟨numeral, d, -, taken, spelled, converted⟩ := cutNumber ⟨_, cutFollows, cutAccepted⟩
    rw [cutTaken] at taken
    rw [← Option.some.inj taken] at spelled
    exact ⟨d, spelled, converted⟩
  · have front := (Text.Regular.captured?_isSome_iff begins_real word.toList).1
      (by rw [wordTaken, Option.isSome_some])
    obtain ⟨numeral, d, -, taken, spelled, converted⟩ := wordNumber front
    have infinite : Double.ofText? "+Infinity" = some (Double.infinity false) := by
      decide +kernel
    rw [wordTaken] at taken
    rw [← Option.some.inj taken] at spelled
    rw [converted, ← Option.some.inj (infinite.symm.trans spelled)]
  · intro front
    have some := (Text.Regular.captured?_isSome_iff begins_real point.toList).2 front
    rw [pointTaken] at some
    cases some

end Coercion

end Criteria
