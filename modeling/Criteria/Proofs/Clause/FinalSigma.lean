import Criteria.Proofs.Clause.WellFormed

/-!
# Final sigmas in keys

At the end of a word a capital sigma has a lower-case form of its own, which
`Text.lowercase` leaves out. No key is read differently for that: a sigma of any form is
out of ASCII, and no spelling is. So it does not matter which of the two forms each
capital sigma of a key takes, and the rule for the end of a word is one way to choose.
-/

namespace Criteria

namespace Text

/-! ## Both forms of a sigma -/

/-- What a text may be in lower case, with either form for each capital sigma. -/
inductive LowercaseForm : List Char → List Char → Prop
  | nil : LowercaseForm [] []
  | regular (c : Char) {rest lower : List Char} (later : LowercaseForm rest lower) :
      LowercaseForm (c :: rest) (lowercaseChar c ++ lower)
  | finalSigma {rest lower : List Char} (later : LowercaseForm rest lower) :
      LowercaseForm ('\u03A3' :: rest) ('\u03C2' :: lower)

/-- Whether a text goes beyond ASCII. -/
def IsWide (text : List Char) : Prop :=
  ∃ c ∈ text, 0x80 ≤ c.toNat

theorem IsWide.append_left {text : List Char} (wide : IsWide text) (front : List Char) :
    IsWide (front ++ text) := by
  obtain ⟨c, member, beyond⟩ := wide
  exact ⟨c, List.mem_append_right front member, beyond⟩

/-- A form is the regular one, or a sigma takes both of them beyond ASCII. -/
theorem LowercaseForm.eq_or_wide {text lower : List Char} (form : LowercaseForm text lower) :
    lower = text.flatMap lowercaseChar ∨ IsWide lower ∧ IsWide (text.flatMap lowercaseChar) := by
  induction form with
  | nil => exact Or.inl rfl
  | regular c _ ih =>
      rw [List.flatMap_cons]
      rcases ih with same | ⟨wide, wideRegular⟩
      · exact Or.inl (congrArg (lowercaseChar c ++ ·) same)
      · exact Or.inr ⟨wide.append_left _, wideRegular.append_left _⟩
  | finalSigma _ _ =>
      have regular : lowercaseChar '\u03A3' = ['\u03C3'] := by decide
      rw [List.flatMap_cons, regular]
      exact Or.inr ⟨⟨'\u03C2', List.mem_cons_self, by decide⟩,
        ⟨'\u03C3', List.mem_cons_self, by decide⟩⟩

/-- Nothing beyond ASCII is a spelling within it. -/
theorem not_mem_of_isWide {text : String} (wide : IsWide text.toList) {spellings : List String}
    (narrow : spellings.all (fun spelling => spelling.toList.all (·.toNat < 0x80)) = true) :
    text ∉ spellings := by
  intro spelling
  obtain ⟨c, member, beyond⟩ := wide
  have within := List.all_eq_true.1 (List.all_eq_true.1 narrow text spelling) c member
  rw [decide_eq_true_eq] at within
  omega

end Text

/-! ## Spellings -/

/-- A key announces and spells the same, whatever forms its capital sigmas take. -/
theorem ofLowercase_of_lowercaseForm {key lower : String}
    (form : Text.LowercaseForm key.toList lower.toList) :
    ClauseKey.ofLowercase lower = ClauseKey.ofKey key ∧
      Modifier.ofLowercase? lower = Modifier.ofLowercase? (Text.lowercase key) := by
  have regular : (Text.lowercase key).toList = key.toList.flatMap Text.lowercaseChar :=
    String.toList_ofList
  have eq_or_wide := form.eq_or_wide
  rw [← regular] at eq_or_wide
  rcases eq_or_wide with same | ⟨wide, wideRegular⟩
  · rw [String.toList_inj.1 same, ClauseKey.ofKey]
    exact ⟨rfl, rfl⟩
  · have unreserved {text : String} (wide : Text.IsWide text.toList) :
        ClauseKey.ofLowercase text = .field :=
      ClauseKey.ofLowercase_of_not_reserved (Text.not_mem_of_isWide wide (by decide))
    have unspelled {text : String} (wide : Text.IsWide text.toList) :
        Modifier.ofLowercase? text = none :=
      (Modifier.ofLowercase?_eq_none_iff text).2 (Text.not_mem_of_isWide wide (by decide))
    constructor
    · rw [unreserved wide, ClauseKey.ofKey, unreserved wideRegular]
    · rw [unspelled wide, unspelled wideRegular]

end Criteria
