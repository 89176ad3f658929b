import Criteria.Proofs.Clause.Emission
import Criteria.Proofs.Clause.Spelling
import Criteria.Query

/-!
# Which clause documents say the same

`Respelled` relates two clause documents that differ in the spelling of their keys
only. They are read as one clause, so that they give one query. Conversely, two
clause documents that are read as one clause without remark are respelled: reading
forgets nothing but the spelling.
-/

namespace Criteria

/-- Whether a modifier is a key that no spelling claims. -/
def Modifier.isVerbatim : Modifier → Bool
  | verbatim _ => true
  | _ => false

mutual

/-- Modifier maps with the same modifiers in order. -/
inductive RespelledModifiers : Document → Document → Prop
  | nil : RespelledModifiers [] []
  | cons {firstKey secondKey : String} {firstValue secondValue : Value}
      {firstRest secondRest : Document}
      (here : RespelledModifier (firstKey, firstValue) (secondKey, secondValue))
      (later : RespelledModifiers firstRest secondRest) :
      RespelledModifiers ((firstKey, firstValue) :: firstRest)
        ((secondKey, secondValue) :: secondRest)

/-- Two entries that are one entry, or two spellings of one modifier before one
operand, or before negated documents that are respelled themselves. -/
inductive RespelledModifier : String × Value → String × Value → Prop
  | kept (key : String) (value : Value) : RespelledModifier (key, value) (key, value)
  | spelled {firstKey secondKey : String} {value : Value}
      (same : Modifier.resolve firstKey value = Modifier.resolve secondKey value)
      (claimed : (Modifier.resolve firstKey value).isVerbatim = false) :
      RespelledModifier (firstKey, value) (secondKey, value)
  | negated {firstKey secondKey : String} {firstFields secondFields : Document}
      (first : Modifier.resolve firstKey (.document firstFields) = .not)
      (second : Modifier.resolve secondKey (.document secondFields) = .not)
      (operands : RespelledModifiers firstFields secondFields) :
      RespelledModifier (firstKey, .document firstFields) (secondKey, .document secondFields)

end

/-- Equal values, or modifier maps that are respelled. -/
inductive RespelledExpression : Value → Value → Prop
  | kept (value : Value) : RespelledExpression value value
  | modifiers {first second : Document} (same : RespelledModifiers first second) :
      RespelledExpression (.document first) (.document second)

/-- The clause document that an element of a logical operator stands for: null is
an empty one. -/
def elementFields? : Value → Option Document
  | .document fields => some fields
  | .null => some []
  | _ => none

mutual

/-- Clause documents with the same conditions in order. -/
inductive Respelled : Document → Document → Prop
  | nil : Respelled [] []
  | cons {firstKey secondKey : String} {firstValue secondValue : Value}
      {firstRest secondRest : Document}
      (here : RespelledEntry (firstKey, firstValue) (secondKey, secondValue))
      (later : Respelled firstRest secondRest) :
      Respelled ((firstKey, firstValue) :: firstRest) ((secondKey, secondValue) :: secondRest)

/-- Two spellings of one logical operator over respelled elements, of a like group
over one group, or one field that is asked for the same. -/
inductive RespelledEntry : String × Value → String × Value → Prop
  | logical {firstKey secondKey : String} {operator : LogicalOperator}
      {firstItems secondItems : List Value}
      (first : ClauseKey.ofKey firstKey = .logical operator)
      (second : ClauseKey.ofKey secondKey = .logical operator)
      (elements : RespelledElements firstItems secondItems) :
      RespelledEntry (firstKey, .array firstItems) (secondKey, .array secondItems)
  | likeGroup {firstKey secondKey : String} (first : ClauseKey.ofKey firstKey = .likeGroup)
      (second : ClauseKey.ofKey secondKey = .likeGroup) (group : Value) :
      RespelledEntry (firstKey, group) (secondKey, group)
  | field {name : String} (isField : ClauseKey.ofKey name = .field)
      {firstValue secondValue : Value} (same : RespelledExpression firstValue secondValue) :
      RespelledEntry (name, firstValue) (name, secondValue)

inductive RespelledElements : List Value → List Value → Prop
  | nil : RespelledElements [] []
  | cons {firstItem secondItem : Value} {firstFields secondFields : Document}
      {firstRest secondRest : List Value}
      (first : elementFields? firstItem = some firstFields)
      (second : elementFields? secondItem = some secondFields)
      (here : Respelled firstFields secondFields)
      (later : RespelledElements firstRest secondRest) :
      RespelledElements (firstItem :: firstRest) (secondItem :: secondRest)

end

/-! ## Respelled modifiers -/

def Operand.ofField (key : String) (value : Value) : Modifier × Operand :=
  (Modifier.resolve key value, Operand.ofValue (Modifier.resolve key value) value)

theorem Operand.ofFields_cons (key : String) (value : Value) (rest : Document) :
    Operand.ofFields ((key, value) :: rest) =
      Operand.ofField key value :: Operand.ofFields rest := rfl

mutual

theorem RespelledModifiers.ofFields_eq : ∀ {first second : Document},
    RespelledModifiers first second → Operand.ofFields first = Operand.ofFields second
  | _, _, .nil => rfl
  | _, _, .cons here later => by
      have same := here.ofField_eq
      have sameRest := later.ofFields_eq
      rw [Operand.ofFields_cons, Operand.ofFields_cons, same, sameRest]

theorem RespelledModifier.ofField_eq : ∀ {first second : String × Value},
    RespelledModifier first second →
      Operand.ofField first.1 first.2 = Operand.ofField second.1 second.2
  | _, _, .kept _ _ => rfl
  | _, _, .spelled same _ => by rw [Operand.ofField, Operand.ofField, same]
  | _, _, .negated first second operands => by
      have sameFields := operands.ofFields_eq
      rw [Operand.ofField, Operand.ofField, first, second, Operand.ofValue, Operand.ofValue,
        if_pos rfl, if_pos rfl, sameFields]

end

theorem RespelledExpression.ofValue_eq {first second : Value}
    (same : RespelledExpression first second) :
    Expression.ofValue first = Expression.ofValue second := by
  cases same with
  | kept value => rfl
  | modifiers same => exact congrArg Expression.modifiers same.ofFields_eq

/-- Keys that are resolved alike before a value are one key or two spellings. -/
theorem respelledModifier_of_resolve_eq {firstKey secondKey : String} {value : Value}
    (same : Modifier.resolve firstKey value = Modifier.resolve secondKey value) :
    RespelledModifier (firstKey, value) (secondKey, value) := by
  cases modifier : Modifier.resolve firstKey value with
  | verbatim key =>
      -- a verbatim modifier carries its key, so that the two keys are one
      obtain ⟨isFirst, -⟩ := Modifier.resolve_verbatim_congr modifier id
      obtain ⟨isSecond, -⟩ := Modifier.resolve_verbatim_congr (same ▸ modifier) id
      rw [← isFirst, ← isSecond]
      exact .kept key value
  | _ => exact .spelled same (by rw [modifier]; rfl)

theorem respelledModifier_of_ofField_eq {firstKey secondKey : String}
    {firstValue secondValue : Value}
    (same : Operand.ofField firstKey firstValue = Operand.ofField secondKey secondValue)
    (documents : ∀ firstFields, firstValue = .document firstFields → ∀ secondFields,
      Operand.ofFields firstFields = Operand.ofFields secondFields →
      RespelledModifiers firstFields secondFields) :
    RespelledModifier (firstKey, firstValue) (secondKey, secondValue) := by
  obtain ⟨modifiers, operands⟩ := Prod.mk.inj same
  rcases Operand.ofValue_eq_or (Modifier.resolve firstKey firstValue) firstValue with
    ⟨firstFields, rfl, firstNegated, firstNested⟩ | firstKept
  · rcases Operand.ofValue_eq_or (Modifier.resolve secondKey secondValue) secondValue with
      ⟨secondFields, rfl, secondNegated, secondNested⟩ | secondKept
    · rw [firstNested, secondNested] at operands
      injection operands with operands
      injection operands with operands
      exact .negated firstNegated secondNegated (documents firstFields rfl secondFields operands)
    · rw [firstNested, secondKept] at operands
      cases operands
  · rcases Operand.ofValue_eq_or (Modifier.resolve secondKey secondValue) secondValue with
      ⟨secondFields, rfl, secondNegated, secondNested⟩ | secondKept
    · rw [firstKept, secondNested] at operands
      cases operands
    · rw [firstKept, secondKept] at operands
      cases operands
      exact respelledModifier_of_resolve_eq modifiers

mutual

/-- Modifier maps that are read as the same modifiers are respelled. -/
theorem respelledModifiers_of_ofFields_eq : ∀ first second : List (String × Value),
    Operand.ofFields first = Operand.ofFields second → RespelledModifiers first second
  | [], [], _ => .nil
  | [], (_, _) :: _, same => by cases same
  | (_, _) :: _, [], same => by cases same
  | (_, firstValue) :: firstRest, (_, _) :: secondRest, same => by
      obtain ⟨here, later⟩ := List.cons.inj same
      exact .cons
        (respelledModifier_of_ofField_eq here (respelledModifiers_of_document firstValue))
        (respelledModifiers_of_ofFields_eq firstRest secondRest later)

theorem respelledModifiers_of_document : ∀ (value : Value) (firstFields : Document),
    value = .document firstFields → ∀ secondFields : Document,
      Operand.ofFields firstFields = Operand.ofFields secondFields →
      RespelledModifiers firstFields secondFields
  | .document fields, _, rfl => respelledModifiers_of_ofFields_eq fields

end

theorem Expression.ofValue_cases (value : Value) :
    (∃ fields, value = .document fields) ∨ (∃ items, value = .array items) ∨
      ofValue value = .scalar value := by
  cases value with
  | document fields => exact Or.inl ⟨fields, rfl⟩
  | array items => exact Or.inr (Or.inl ⟨items, rfl⟩)
  | _ => exact Or.inr (Or.inr rfl)

/-- Values that ask the same of a field are respelled. -/
theorem respelledExpression_of_ofValue_eq {first second : Value}
    (same : Expression.ofValue first = Expression.ofValue second) :
    RespelledExpression first second := by
  rcases Expression.ofValue_cases first with ⟨fields, rfl⟩ | ⟨items, rfl⟩ | firstScalar
  · rcases Expression.ofValue_cases second with ⟨others, rfl⟩ | ⟨others, rfl⟩ | secondScalar
    · injection same with same
      exact .modifiers (respelledModifiers_of_ofFields_eq fields others same)
    · cases same
    · rw [secondScalar] at same
      cases same
  · rcases Expression.ofValue_cases second with ⟨others, rfl⟩ | ⟨others, rfl⟩ | secondScalar
    · cases same
    · cases same
      exact .kept _
    · rw [secondScalar] at same
      cases same
  · rcases Expression.ofValue_cases second with ⟨others, rfl⟩ | ⟨others, rfl⟩ | secondScalar
    · rw [firstScalar] at same
      cases same
    · rw [firstScalar] at same
      cases same
    · rw [firstScalar, secondScalar] at same
      cases same
      exact .kept _

/-! ## Respelled clauses are read alike -/

namespace Clause

theorem readElement_of_elementFields? {item : Value} {fields : Document}
    (document : elementFields? item = some fields) : readElement item = read fields := by
  cases item with
  | document inner =>
      cases document
      rfl
  | null =>
      cases document
      rfl
  | _ => cases document

end Clause

open Clause

mutual

/-- Respelled clause documents are read as the same conditions, with the same remarks. -/
theorem Respelled.read_eq : ∀ {first second : Document},
    Respelled first second → read first = read second
  | _, _, .nil => rfl
  | _, _, .cons here later => by
      have same := here.readEntry_eq
      have sameRest := later.read_eq
      rw [read_cons, read_cons, same, sameRest]

theorem RespelledEntry.readEntry_eq : ∀ {first second : String × Value},
    RespelledEntry first second → readEntry first.1 first.2 = readEntry second.1 second.2
  | _, _, .logical first second elements => by
      have same := elements.readElements_eq
      simp only [readEntry, first, second, readLogical, same]
  | _, _, .likeGroup first second _ => by
      simp only [readEntry, first, second]
  | _, _, .field isField same => by
      simp only [readEntry, isField, same.ofValue_eq]

theorem RespelledElements.readElements_eq : ∀ {first second : List Value},
    RespelledElements first second → readElements first = readElements second
  | _, _, .nil => rfl
  | _, _, .cons first second here later => by
      have same := here.read_eq
      have sameRest := later.readElements_eq
      rw [readElements, readElements, readElement_of_elementFields? first,
        readElement_of_elementFields? second, same, sameRest]

end

/-! ## Clauses that are read alike are respelled -/

/-- What an entry of a clause document is read as without remark. -/
inductive ReadsAs : String → Value → Entry → Prop
  | logical {key : String} {operator : LogicalOperator} {items : List Value}
      (spelled : ClauseKey.ofKey key = .logical operator)
      (clean : (readElements items).diagnostics = []) :
      ReadsAs key (.array items) (.logical operator (readElements items).value)
  | likeGroup {key : String} {group : Document} (spelled : ClauseKey.ofKey key = .likeGroup) :
      ReadsAs key (.document group) (.likeGroup (group.map likePattern))
  | field {key : String} {value : Value} (isField : ClauseKey.ofKey key = .field) :
      ReadsAs key value (.field key (Expression.ofValue value))

/-- An entry that is read without remark states a condition. -/
theorem readsAs_of_clean {key : String} {value : Value}
    (clean : (readEntry key value).diagnostics = []) :
    ∃ entry, (readEntry key value).value = some entry ∧ ReadsAs key value entry := by
  unfold readEntry at clean ⊢
  cases kind : ClauseKey.ofKey key with
  | logical operator =>
      rw [kind] at clean
      cases value with
      | array items =>
          have cleanItems : (readElements items).diagnostics = [] := by
            simpa [readLogical] using clean
          exact ⟨_, rfl, .logical kind cleanItems⟩
      | _ => cases clean
  | likeGroup =>
      rw [kind] at clean
      cases value with
      | document group => exact ⟨_, rfl, .likeGroup kind⟩
      | _ => cases clean
  | field => exact ⟨_, rfl, .field kind⟩

theorem read_cons_of_clean {key : String} {value : Value} {rest : Document}
    (clean : (read ((key, value) :: rest)).diagnostics = []) :
    ∃ entry, ReadsAs key value entry ∧ (read rest).diagnostics = [] ∧
      (read ((key, value) :: rest)).value = entry :: (read rest).value := by
  rw [read_cons] at clean ⊢
  simp only [Reported.diagnostics_bind, Reported.diagnostics_pure, List.append_nil,
    List.append_eq_nil_iff] at clean
  obtain ⟨entry, value, readsAs⟩ := readsAs_of_clean clean.1
  refine ⟨entry, readsAs, clean.2, ?_⟩
  simp only [Reported.value_bind, Reported.value_pure, value, Option.toList_some,
    List.singleton_append]

theorem readElements_cons_of_clean {item : Value} {rest : List Value}
    (clean : (readElements (item :: rest)).diagnostics = []) :
    ∃ fields, elementFields? item = some fields ∧ (read fields).diagnostics = [] ∧
      (readElements rest).diagnostics = [] ∧
      (readElements (item :: rest)).value = (read fields).value :: (readElements rest).value := by
  rw [readElements] at clean ⊢
  simp only [Reported.diagnostics_bind, Reported.diagnostics_pure, List.append_nil,
    List.append_eq_nil_iff] at clean
  obtain ⟨here, later⟩ := clean
  cases item with
  | document fields => exact ⟨fields, rfl, here, later, rfl⟩
  | null => exact ⟨[], rfl, rfl, later, rfl⟩
  | _ => cases here

/-- A pattern of a like group shows the member that it comes from. -/
theorem likePattern_injective {first second : String × Value}
    (same : likePattern first = likePattern second) : first = second := by
  obtain ⟨name, value⟩ := first
  obtain ⟨other, otherValue⟩ := second
  cases same
  rfl

theorem respelled_nil_of_read_eq {second : Document}
    (clean : (read second).diagnostics = []) (same : (read []).value = (read second).value) :
    Respelled [] second := by
  cases second with
  | nil => exact .nil
  | cons entry rest =>
      obtain ⟨_, -, -, value⟩ := read_cons_of_clean clean
      rw [value] at same
      cases same

/-- Entries that are read as one condition are respelled, if their elements and modifiers
are. -/
theorem respelledEntry_of_readsAs {firstKey secondKey : String} {firstValue secondValue : Value}
    {first second : Entry} (firstReads : ReadsAs firstKey firstValue first)
    (secondReads : ReadsAs secondKey secondValue second) (same : first = second)
    (elements : ∀ firstItems, firstValue = .array firstItems → ∀ secondItems,
      (readElements firstItems).diagnostics = [] → (readElements secondItems).diagnostics = [] →
      (readElements firstItems).value = (readElements secondItems).value →
      RespelledElements firstItems secondItems) :
    RespelledEntry (firstKey, firstValue) (secondKey, secondValue) := by
  cases firstReads with
  | logical firstSpelled firstClean =>
      cases secondReads with
      | logical secondSpelled secondClean =>
          injection same with operators clauses
          subst operators
          exact .logical firstSpelled secondSpelled
            (elements _ rfl _ firstClean secondClean clauses)
      | likeGroup _ => cases same
      | field _ => cases same
  | likeGroup firstSpelled =>
      cases secondReads with
      | logical _ _ => cases same
      | likeGroup secondSpelled =>
          injection same with patterns
          rw [(List.map_inj_right fun _ _ => likePattern_injective).1 patterns]
          exact .likeGroup firstSpelled secondSpelled _
      | field _ => cases same
  | field isField =>
      cases secondReads with
      | logical _ _ => cases same
      | likeGroup _ => cases same
      | field _ =>
          injection same with names expressions
          subst names
          exact .field isField (respelledExpression_of_ofValue_eq expressions)

mutual

/-- Documents that are read as the same conditions, without remark, are respelled. -/
theorem respelled_of_read_eq : ∀ first second : List (String × Value),
    (read first).diagnostics = [] → (read second).diagnostics = [] →
      (read first).value = (read second).value → Respelled first second
  | [], second => fun _ => respelled_nil_of_read_eq
  | (_, _) :: _, [] => by
      intro clean _ same
      obtain ⟨_, -, -, value⟩ := read_cons_of_clean clean
      rw [value] at same
      cases same
  | (_, firstValue) :: firstRest, (_, _) :: secondRest => by
      intro firstClean secondClean same
      obtain ⟨_, firstReads, firstRestClean, first⟩ := read_cons_of_clean firstClean
      obtain ⟨_, secondReads, secondRestClean, second⟩ := read_cons_of_clean secondClean
      rw [first, second] at same
      obtain ⟨here, later⟩ := List.cons.inj same
      exact .cons
        (respelledEntry_of_readsAs firstReads secondReads here
          (respelledElements_of_array firstValue))
        (respelled_of_read_eq firstRest secondRest firstRestClean secondRestClean later)

theorem respelledElements_of_array : ∀ (value : Value) (firstItems : List Value),
    value = .array firstItems → ∀ secondItems : List Value,
      (readElements firstItems).diagnostics = [] → (readElements secondItems).diagnostics = [] →
      (readElements firstItems).value = (readElements secondItems).value →
      RespelledElements firstItems secondItems
  | .array items, _, rfl => respelledElements_of_readElements_eq items

theorem respelledElements_of_readElements_eq : ∀ first second : List Value,
    (readElements first).diagnostics = [] → (readElements second).diagnostics = [] →
      (readElements first).value = (readElements second).value → RespelledElements first second
  | [], [] => fun _ _ _ => .nil
  | [], _ :: _ => by
      intro _ _ same
      cases same
  | _ :: _, [] => by
      intro _ _ same
      cases same
  | firstItem :: firstRest, _ :: secondRest => by
      intro firstClean secondClean same
      obtain ⟨_, firstFields, firstHere, firstLater, first⟩ :=
        readElements_cons_of_clean firstClean
      obtain ⟨_, secondFields, secondHere, secondLater, second⟩ :=
        readElements_cons_of_clean secondClean
      rw [first, second] at same
      obtain ⟨here, later⟩ := List.cons.inj same
      exact .cons firstFields secondFields
        (respelled_of_element firstItem _ firstFields _ firstHere secondHere here)
        (respelledElements_of_readElements_eq firstRest secondRest firstLater secondLater later)

theorem respelled_of_element : ∀ (item : Value) (fields : Document),
    elementFields? item = some fields → ∀ second : Document,
      (read fields).diagnostics = [] → (read second).diagnostics = [] →
      (read fields).value = (read second).value → Respelled fields second
  | .document inner, _, rfl => respelled_of_read_eq inner
  | .null, _, rfl => fun _ _ => respelled_nil_of_read_eq

end

/-! ## Queries -/

/-- An entry of some criteria may be replaced by one with the same part in the query. -/
theorem query_congr (context : Context) {key : String} {first second : Value}
    (same : entryQuery context key first = entryQuery context key second)
    (before after : Document) :
    query context (before ++ (key, first) :: after) =
      query context (before ++ (key, second) :: after) := by
  induction before with
  | nil => rw [List.nil_append, List.nil_append, query, query, same]
  | cons entry rest ih => rw [List.cons_append, List.cons_append, query, query, ih]

/-- Clause documents that are read without remark are read as one clause exactly
if they are respelled, and criteria with respelled conditions give one query with
the same diagnostics. -/
theorem read_eq_iff_respelled :
    (∀ first second : Document,
      (read first).diagnostics = [] → (read second).diagnostics = [] →
        ((read first).value = (read second).value ↔ Respelled first second)) ∧
      ∀ (context : Context) (before after first second : Document), Respelled first second →
        query context (before ++ (whereKey, .document first) :: after) =
          query context (before ++ (whereKey, .document second) :: after) := by
  constructor
  · intro first second firstClean secondClean
    constructor
    · exact respelled_of_read_eq first second firstClean secondClean
    · exact fun respelled => congrArg Reported.value respelled.read_eq
  · intro context before after first second respelled
    have same : whereQuery context (.document first) = whereQuery context (.document second) := by
      rw [whereQuery, whereQuery, respelled.read_eq]
    refine query_congr context ?_ before after
    rw [entryQuery, entryQuery, if_pos rfl, if_pos rfl, same]

/-- Spellings of a disjunction, of a negated pattern and of a comparison. -/
theorem read_eq_iff_respelled_of_spellings :
    let first : Document :=
      [("or", .array
        [.null, .document
          [("age", .document
            [("<", .int32 1), ("!", .document [("contains", .string "a")])])]])]
    let second : Document :=
      [("$OR", .array
        [.document [], .document
          [("age", .document
            [("lessThan", .int32 1), ("NOT", .document [("Contains", .string "a")])])]])]
    (read first).diagnostics = [] ∧ (read second).diagnostics = [] ∧ Respelled first second ∧
      query ⟨Schema.empty, {}⟩ [(whereKey, .document first)] =
        query ⟨Schema.empty, {}⟩ [(whereKey, .document second)] := by
  intro first second
  have respelled : Respelled first second :=
    (read_eq_iff_respelled.1 first second rfl rfl).1 rfl
  exact ⟨rfl, rfl, respelled, read_eq_iff_respelled.2 _ [] [] first second respelled⟩

end Criteria
