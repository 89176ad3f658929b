import Criteria.Proofs.Number.Numeral

/-!
# The scanners of numerals

The scanner of real numbers reads the longest numeral at the front of a text: what
follows such a numeral cannot be put behind it, so that every part of the scanner stops
where the part of the numeral does. It makes the same number of the numeral alone, and
so does the reader of whole texts.
-/

namespace Criteria

open Numeral
open Text (Regular)

namespace Digit

/-- Digits are read up to the first character that is none. -/
theorem many_append {run rest : List Char} (all : digits.Accepts run)
    (ends : startsWithDigit rest = false) : many (run ++ rest) = some (run, rest) := by
  obtain ⟨nonempty, inside⟩ := accepts_digits.1 all
  exact Scan.span₁_append nonempty inside ends

theorem sign_append {signed rest : List Char} (atMostOne : Numeral.sign.Accepts signed)
    (unsigned : rest.head?.any isSign = false) :
    Digit.sign (signed ++ rest) = some (decide (signed = ['-']), rest) := by
  rcases accepts_sign.1 atMostOne with rfl | rfl | rfl
  · cases rest with
    | nil => rfl
    | cons c more =>
        have plain : isSign c = false := unsigned
        have notPlus : c ≠ '+' := by
          rintro rfl
          cases plain
        have notMinus : c ≠ '-' := by
          rintro rfl
          cases plain
        simp [Digit.sign, notPlus, notMinus]
  · rfl
  · rfl

theorem unsigned_of_digits {run : List Char} (all : digits.Accepts run) (rest : List Char) :
    (run ++ rest).head?.any isSign = false := by
  obtain ⟨c, more, rfl, plain⟩ := begins_digits_unsigned run all
  exact plain

theorem integer_append {signed run rest : List Char} (atMostOne : Numeral.sign.Accepts signed)
    (all : digits.Accepts run) (ends : startsWithDigit rest = false) :
    Digit.integer (signed ++ run ++ rest) =
      some (Digit.signed (signed = ['-']) (number run), rest) := by
  rw [Digit.integer, List.append_assoc,
    Scan.bind_of_some (sign_append atMostOne (unsigned_of_digits all rest)),
    Scan.bind_of_some (many_append all ends)]
  rfl

/-- A text is cut behind the sign that it may begin with. -/
theorem exists_sign (text : List Char) :
    ∃ signed, Numeral.sign.Accepts signed ∧ text = signed ++ dropSign text := by
  unfold dropSign
  split
  · exact ⟨['-'], accepts_sign.2 (Or.inr (Or.inr rfl)), rfl⟩
  · exact ⟨['+'], accepts_sign.2 (Or.inr (Or.inl rfl)), rfl⟩
  · exact ⟨[], accepts_sign.2 (Or.inl rfl), rfl⟩

/-- A sign and the first character behind it are a numeral if that is a digit. -/
theorem exists_integer {text : List Char} (goes : startsWithDigit (dropSign text) = true) :
    ∃ more, more <+: text ∧ Numeral.integer.Accepts more := by
  obtain ⟨signed, atMostOne, split⟩ := exists_sign text
  cases behind : dropSign text with
  | nil =>
      rw [behind] at goes
      cases goes
  | cons c rest =>
      rw [behind] at goes split
      have run : digits.Accepts [c] := accepts_digit goes
      exact ⟨signed ++ [c], ⟨rest, by rw [split]; simp⟩, signed, [c], rfl, atMostOne, run⟩

/-- No integer is read where the text begins with none. -/
theorem integer_none {text : List Char}
    (noNumeral : ∀ more, more <+: text → ¬Numeral.integer.Accepts more) :
    Digit.integer text = none := by
  have read (negative : Bool) (rest : List Char) :
      ((many >>= fun digits => pure (signed negative (number digits)) : Scan Int) rest).isSome =
        startsWithDigit rest := by
    rw [Scan.isSome_bind_of_total _ fun _ => Scan.total_pure _]
    exact isSome_many rest
  have isSome : (Digit.integer text).isSome = startsWithDigit (dropSign text) :=
    isSome_sign_bind _ read text
  refine Option.not_isSome_iff_eq_none.1 fun some => ?_
  obtain ⟨more, follows, accepted⟩ := exists_integer (isSome.symm.trans some)
  exact noNumeral more follows accepted

end Digit

namespace Literal

theorem point_none {rest : List Char} (noPoint : rest.head? ≠ some '.') :
    Scan.char '.' rest = none := by
  cases rest with
  | nil => rfl
  | cons c more =>
      have other : c ≠ '.' := fun same => noPoint (same ▸ rfl)
      rw [Scan.char, if_neg other]

/-- A mantissa is read up to a character that is no digit, nor the point where it has
none itself. -/
theorem mantissa_append {text whole fraction rest : List Char}
    (parts : Mantissa text whole fraction) (ends : startsWithDigit rest = false)
    (noPoint : rest.head? = some '.' → '.' ∈ text) :
    Scan.orElse wholeFirst pointFirst (text ++ rest) = some ((whole, fraction), rest) := by
  cases parts with
  | whole run =>
      have absent : '.' ∉ text := fun member =>
        absurd ((accepts_digits.1 run).2 '.' member) (by decide)
      have noDot := Scan.bind_of_none
        (point_none fun dot => absent (noPoint dot)) fun _ => Scan.span Char.isDigit
      refine Scan.orElse_of_some ?_ _
      rw [wholeFirst, Scan.bind_of_some (Digit.many_append run ends),
        Scan.bind_of_some (Scan.optional_of_none noDot)]
      rfl
  | pointed run more =>
      have dot : (do
          Scan.char '.'
          Scan.span Char.isDigit : Scan (List Char)) ('.' :: fraction ++ rest) =
            some (fraction, rest) := by
        rw [List.cons_append, Scan.bind_of_some (Scan.char_cons '.' _)]
        exact Scan.span_append more ends
      refine Scan.orElse_of_some ?_ _
      rw [wholeFirst, List.append_assoc, Scan.bind_of_some (Digit.many_append run rfl),
        Scan.bind_of_some (Scan.optional_of_some dot)]
      rfl
  | fraction run =>
      have refused : wholeFirst ('.' :: fraction ++ rest) = none := rfl
      rw [Scan.orElse_of_none refused, pointFirst, List.cons_append,
        Scan.bind_of_some (Scan.char_cons '.' _), Scan.bind_of_some (Digit.many_append run ends)]
      rfl

theorem power_append {mark : Char} {signed run rest : List Char}
    (isMark : isMark mark = true) (atMostOne : Numeral.sign.Accepts signed)
    (all : digits.Accepts run) (ends : startsWithDigit rest = false) :
    Literal.power (mark :: (signed ++ run) ++ rest) =
      some (Digit.signed (signed = ['-']) (Digit.number run), rest) := by
  have marked : Scan.next (fun c => c == 'e' || c == 'E') (mark :: (signed ++ run ++ rest)) =
      some (mark, signed ++ run ++ rest) := if_pos isMark
  rw [Literal.power, List.cons_append, Scan.bind_of_some marked]
  exact Digit.integer_append atMostOne all ends

/-- No power is read where the text goes on with none. -/
theorem power_none {rest : List Char}
    (noPower : ∀ more, more <+: rest → ¬Numeral.power.Accepts more) :
    Literal.power rest = none := by
  cases rest with
  | nil => rfl
  | cons mark tail =>
      cases marked : isMark mark with
      | false =>
          have refused : Scan.next (fun c => c == 'e' || c == 'E') (mark :: tail) = none :=
            if_neg (Bool.eq_false_iff.1 marked)
          exact Scan.bind_of_none refused _
      | true =>
          have read : Scan.next (fun c => c == 'e' || c == 'E') (mark :: tail) =
              some (mark, tail) := if_pos marked
          rw [Literal.power, Scan.bind_of_some read]
          refine Digit.integer_none fun more follows accepted => ?_
          refine noPower (mark :: more) ((List.prefix_cons_inj mark).2 follows) ?_
          exact ⟨[mark], more, rfl, ⟨mark, rfl, marked⟩, accepted⟩

/-- What may follow a literal that is read to its end. -/
structure Ends (mantissa exponent rest : List Char) : Prop where
  noDigit : startsWithDigit rest = false
  noPoint : exponent = [] → rest.head? = some '.' → '.' ∈ mantissa
  noPower : exponent = [] → ∀ more, more <+: rest → ¬Numeral.power.Accepts more

theorem ends_nil (mantissa exponent : List Char) : Ends mantissa exponent [] where
  noDigit := rfl
  noPoint := fun _ dot => absurd dot (Option.some_ne_none '.').symm
  noPower := by
    intro _ more follows accepted
    rw [List.prefix_nil.1 follows] at accepted
    obtain ⟨c, tail, impossible, -⟩ := begins_power [] accepted
    cases impossible

/-- A literal is read to its end, as its digits and its exponent. -/
theorem scan_append {mantissa whole fraction exponent rest : List Char} {power : Int}
    (parts : Mantissa mantissa whole fraction) (written : Exponent exponent power)
    (ends : Ends mantissa exponent rest) :
    scan (mantissa ++ exponent ++ rest) = some (⟨whole, fraction, power⟩, rest) := by
  cases written with
  | none =>
      have mantissaRead := mantissa_append parts ends.noDigit (ends.noPoint rfl)
      have noneRead := Scan.optional_of_none (power_none (ends.noPower rfl))
      rw [scan, List.append_nil, Scan.bind_of_some mantissaRead]
      exact Scan.bind_of_some noneRead fun power =>
        pure (Literal.mk whole fraction (power.getD 0))
  | @power mark signed run marked atMostOne all =>
      have notMantissa : ¬InMantissa mark := by
        intro kind
        rw [kind.not_isMark] at marked
        cases marked
      have noDigit : startsWithDigit (mark :: (signed ++ run) ++ rest) = false :=
        Bool.eq_false_iff.2 fun digit => notMantissa (Or.inl digit)
      have noPoint : (mark :: (signed ++ run) ++ rest).head? = some '.' → '.' ∈ mantissa :=
        fun dot => absurd (Or.inr (Option.some.inj dot)) notMantissa
      have mantissaRead := mantissa_append parts noDigit noPoint
      have powerRead := Scan.optional_of_some (power_append marked atMostOne all ends.noDigit)
      rw [scan, List.append_assoc, Scan.bind_of_some mantissaRead]
      exact Scan.bind_of_some powerRead fun power =>
        pure (Literal.mk whole fraction (power.getD 0))

/-- What follows a mantissa and a power that make the longest real numeral. -/
theorem ends_of_longest {signed mantissa exponent rest whole fraction : List Char} {power : Int}
    (parts : Mantissa mantissa whole fraction) (written : Exponent exponent power)
    (atMostOne : Numeral.sign.Accepts signed)
    (longest : real.Longest (signed ++ (mantissa ++ exponent) ++ rest)
      (signed ++ (mantissa ++ exponent))) : Ends mantissa exponent rest := by
  have refuses {more longer exponent₁ whole₁ fraction₁ : List Char} {power₁ : Int}
      (nonempty : more ≠ []) (follows : more <+: rest)
      (partsMore : Mantissa longer whole₁ fraction₁) (writtenMore : Exponent exponent₁ power₁)
      (same : longer ++ exponent₁ = mantissa ++ exponent ++ more) : False := by
    refine longest.not_accepts_append nonempty follows ⟨signed, longer ++ exponent₁, ?_,
      atMostOne, Or.inr ⟨longer, exponent₁, rfl, accepts_mantissa.2 ⟨_, _, partsMore⟩,
        accepts_power.2 ⟨_, writtenMore⟩⟩⟩
    rw [same, List.append_assoc]
  constructor
  · cases rest with
    | nil => rfl
    | cons c tail =>
        refine Bool.eq_false_iff.2 fun digit => ?_
        have follows : [c] <+: c :: tail := ⟨tail, rfl⟩
        cases written with
        | none =>
            obtain ⟨longer, more, partsMore⟩ := parts.append_digit digit
            exact refuses (List.cons_ne_nil c []) follows partsMore .none (by simp)
        | power marked single all =>
            obtain ⟨_, writtenMore⟩ := Exponent.append_digit marked single all digit
            exact refuses (List.cons_ne_nil c []) follows parts writtenMore (by simp)
  · rintro rfl dot
    cases rest with
    | nil => cases dot
    | cons c tail =>
        obtain rfl := Option.some.inj dot
        cases parts with
        | whole run =>
            have pointed : Mantissa (mantissa ++ '.' :: []) mantissa [] :=
              .pointed run fun c member => absurd member List.not_mem_nil
            have follows : ['.'] <+: '.' :: tail := ⟨tail, rfl⟩
            exact (refuses (List.cons_ne_nil _ _) follows pointed .none (by simp)).elim
        | pointed run more => simp
        | fraction run => simp
  · rintro rfl more follows accepted
    obtain ⟨c, tail, rfl, -⟩ := begins_power more accepted
    obtain ⟨_, writtenMore⟩ := accepts_power.1 (Or.inl accepted)
    exact refuses (List.cons_ne_nil c tail) follows parts writtenMore (by simp)

end Literal

namespace Double

theorem infinity_none {text : List Char} {c : Char} (first : text.head? = some c)
    (kind : InMantissa c) : Scan.literal "Infinity".toList text = none := by
  have other : c ≠ 'I' := kind.ne (by decide)
  cases text with
  | nil => rfl
  | cons head rest =>
      obtain rfl := Option.some.inj first
      exact if_neg other

theorem toLower_of_inMantissa {c : Char} (kind : InMantissa c) : c.toLower = c := by
  have notUpper : ¬(c.val ≥ 'A'.val ∧ c.val ≤ 'Z'.val) := by
    rintro ⟨letter, -⟩
    have code : 65 ≤ c.val.toNat := letter
    rcases kind with digit | rfl
    · have atMost : c.val.toNat ≤ 57 := ((Digit.isDigit_iff c).1 digit).2
      omega
    · exact absurd code (by decide)
  exact dif_neg notUpper

/-- What the reader of whole texts takes for a word begins with none of the characters of
a mantissa. -/
theorem word_ne (word : String) {text : List Char} {c : Char} (first : text.head? = some c)
    (kind : InMantissa c)
    (apart : (word.toList.head?.any fun d => decide (InMantissa d)) = false) :
    String.ofList (text.map Char.toLower) ≠ word := by
  intro same
  cases text with
  | nil => cases first
  | cons head rest =>
      obtain rfl := Option.some.inj first
      rw [← same, String.toList_ofList, List.map_cons, List.head?_cons, Option.any_some,
        toLower_of_inMantissa kind] at apart
      exact of_decide_eq_false apart kind

/-- The word for infinity is read with its sign, whatever follows. -/
theorem scanReal_infinity {signed : List Char} (atMostOne : Numeral.sign.Accepts signed)
    (rest : List Char) :
    scanReal (signed ++ "Infinity".toList ++ rest) =
      some (infinity (signed = ['-']), rest) := by
  have unsigned : ("Infinity".toList ++ rest).head?.any isSign = false := rfl
  have word := Scan.bind_of_some (Scan.literal_append "Infinity".toList rest)
    fun _ => (pure (infinity (signed = ['-'])) : Scan Double)
  rw [scanReal, List.append_assoc, Scan.bind_of_some (Digit.sign_append atMostOne unsigned)]
  exact Scan.orElse_of_some word _

theorem ofText?_infinity {signed : List Char} (atMostOne : Numeral.sign.Accepts signed) :
    ofText? (String.ofList (signed ++ "Infinity".toList)) =
      some (infinity (signed = ['-'])) := by
  rcases accepts_sign.1 atMostOne with rfl | rfl | rfl <;> decide +kernel

section

variable {signed mantissa exponent whole fraction : List Char} {power : Int}

theorem scanReal_literal {rest : List Char} (atMostOne : Numeral.sign.Accepts signed)
    (parts : Mantissa mantissa whole fraction) (written : Exponent exponent power)
    (ends : Literal.Ends mantissa exponent rest) :
    scanReal (signed ++ (mantissa ++ exponent) ++ rest) =
      some (Literal.toDouble (signed = ['-']) ⟨whole, fraction, power⟩, rest) := by
  obtain ⟨c, tail, rfl, kind⟩ := begins_mantissa mantissa (accepts_mantissa.2 ⟨_, _, parts⟩)
  have unsigned : (c :: tail ++ exponent ++ rest).head?.any isSign = false := kind.not_isSign
  have first : (c :: tail ++ exponent ++ rest).head? = some c := rfl
  have noWord := Scan.bind_of_none (infinity_none first kind)
    fun _ => (pure (infinity (signed = ['-'])) : Scan Double)
  have literal := Scan.bind_of_some (Literal.scan_append parts written ends)
    fun literal => (pure (literal.toDouble (signed = ['-'])) : Scan Double)
  rw [scanReal, List.append_assoc, Scan.bind_of_some (Digit.sign_append atMostOne unsigned)]
  exact (Scan.orElse_of_none noWord _).trans literal

/-- A literal alone is read as the double nearest to it. -/
theorem ofText?_literal (atMostOne : Numeral.sign.Accepts signed)
    (parts : Mantissa mantissa whole fraction) (written : Exponent exponent power) :
    ofText? (String.ofList (signed ++ (mantissa ++ exponent))) =
      some (Literal.toDouble (signed = ['-']) ⟨whole, fraction, power⟩) := by
  obtain ⟨c, tail, rfl, kind⟩ := begins_mantissa mantissa (accepts_mantissa.2 ⟨_, _, parts⟩)
  have unsigned : (c :: tail ++ exponent).head?.any isSign = false := kind.not_isSign
  have first : (c :: tail ++ exponent).head? = some c := rfl
  have notInf := word_ne "inf" first kind (by decide)
  have notInfinity := word_ne "infinity" first kind (by decide)
  have notNan := word_ne "nan" first kind (by decide)
  have literal := Scan.map_of_some
    (Literal.scan_append parts written (Literal.ends_nil (c :: tail) exponent))
    (Literal.toDouble (signed = ['-']))
  rw [List.append_nil] at literal
  have read : scanAny (signed ++ (c :: tail ++ exponent)) =
      some (Literal.toDouble (signed = ['-']) ⟨whole, fraction, power⟩, []) := by
    rw [scanAny, Scan.bind_of_some (Digit.sign_append atMostOne unsigned)]
    simp only [notInf, notInfinity, notNan, or_self, if_false, literal]
  rw [ofText?, Scan.run?, String.toList_ofList, read]

end

/-- The longest real numeral at the front of a text is what is read of it, and it is read
as the number that it spells alone. -/
theorem scanReal_of_longest {taken rest : List Char}
    (longest : real.Longest (taken ++ rest) taken) :
    ∃ d, scanReal (taken ++ rest) = some (d, rest) ∧
      ofText? (String.ofList taken) = some d := by
  obtain ⟨signed, body, rfl, atMostOne, infinite | ⟨mantissa, exponent, rfl, accepted, power⟩⟩ :=
    longest.accepted
  · obtain rfl := Regular.accepts_word.1 infinite
    exact ⟨_, scanReal_infinity atMostOne rest, ofText?_infinity atMostOne⟩
  · obtain ⟨whole, fraction, parts⟩ := accepts_mantissa.1 accepted
    obtain ⟨power, written⟩ := accepts_power.1 power
    have ends := Literal.ends_of_longest parts written atMostOne longest
    exact ⟨_, scanReal_literal atMostOne parts written ends,
      ofText?_literal atMostOne parts written⟩

/-- What a real numeral can begin with is the front of one. -/
theorem exists_real {text : List Char}
    (goes : ("Infinity".toList.isPrefixOf (dropSign text) || startsWithDigit (dropSign text) ||
      Literal.startsWithPoint (dropSign text)) = true) :
    ∃ more, more <+: text ∧ real.Accepts more := by
  obtain ⟨signed, atMostOne, split⟩ := Digit.exists_sign text
  rcases Bool.or_eq_true_iff.1 goes with wordOrDigit | dot
  · rcases Bool.or_eq_true_iff.1 wordOrDigit with word | digit
    · obtain ⟨rest, behind⟩ := List.isPrefixOf_iff_prefix.1 word
      refine ⟨signed ++ "Infinity".toList, ⟨rest, ?_⟩, signed, _, rfl, atMostOne,
        Or.inl (Regular.accepts_word.2 rfl)⟩
      rw [List.append_assoc, behind, ← split]
    · obtain ⟨more, follows, accepted⟩ := Digit.exists_integer digit
      exact ⟨more, follows, accepts_real_of_integer accepted⟩
  · unfold Literal.startsWithPoint at dot
    split at dot
    · rename_i rest behind
      cases rest with
      | nil => cases dot
      | cons c tail =>
          have run : digits.Accepts [c] := accepts_digit dot
          refine ⟨signed ++ ['.', c], ⟨tail, ?_⟩, signed, _, rfl, atMostOne,
            Or.inr ⟨['.', c], [], rfl, accepts_mantissa.2 ⟨_, _, .fraction run⟩, Or.inr rfl⟩⟩
          rw [split, behind]
          simp
    · cases dot

end Double

end Criteria
