import Criteria.Proofs.Clause.Sources
import Criteria.Proofs.Settled.Query

/-!
# The grammar of queries

A level of a query names logical operators in the store's spelling only, over arrays
of levels, and an operator document holds no spelling that reading would claim, but
for text matches that are kept before operands without a text. What a like group or a
verbatim operator brings in is not looked into.
-/

namespace Criteria

/-! ## Operator documents -/

def negationSpellings : List String := ["!", "not"]

def comparisonSpellings : List String :=
  ["<", "lessthan", "lt", "<=", "lessthanorequal", "lte", ">", "greaterthan", "gt", ">=",
    "greaterthanorequal", "gte"]

/-- The kinds of values that have a text to match. -/
def textKinds : List Kind := [.string, .int32, .int64, .double, .boolean]

/-- An entry of an operator document that no spelling of another operator claims. A
text match stands in it only in its canonical spelling, before a value without a
text. -/
structure OperatorEntry (key : String) (operand : Value) : Prop where
  unclaimed : Text.lowercase key ∉ negationSpellings ++ comparisonSpellings
  contains : Text.lowercase key = "contains" → operand.isString = false
  textMatch : Text.lowercase key ∈ ["like", "startswith", "endswith"] →
    key ∈ ["like", "startsWith", "endsWith"] ∧ operand.kind ∉ textKinds

/-- An operator document of such entries that is no regular expression alone. -/
structure OperatorDocument (operators : Document) : Prop where
  entries : ∀ entry ∈ operators, OperatorEntry entry.1 entry.2
  notLone : ∀ r, operators ≠ [("$regex", .regex r)]

namespace Modifier

def isRelation : Modifier → Bool
  | not => true
  | comparison _ => true
  | _ => false

theorem isRelation_of_spelling : ∀ spelling ∈ negationSpellings ++ comparisonSpellings,
    (ofLowercase? spelling).any isRelation = true := by
  decide

theorem isText_of_spelling : ∀ spelling ∈ ["like", "startswith", "endswith"],
    ofLowercase? spelling ≠ none ∧ ofLowercase? spelling ≠ some (.text .contains) := by
  decide

end Modifier

/-- A key that no spelling claims, or a spelling of `contains` before anything but a
string, stands for itself. -/
theorem operatorEntry_of_free {key : String} {operand : Value}
    (free : Modifier.ofLowercase? (Text.lowercase key) = none ∨
      Modifier.ofLowercase? (Text.lowercase key) = some (.text .contains) ∧
        operand.isString = false) :
    OperatorEntry key operand where
  unclaimed spelling := by
    have relation := Modifier.isRelation_of_spelling _ spelling
    rcases free with none | ⟨contains, -⟩
    · rw [none] at relation
      cases relation
    · rw [contains] at relation
      cases relation
  contains spelling := by
    rcases free with none | ⟨-, notString⟩
    · rw [spelling] at none
      cases none
    · exact notString
  textMatch spelling := by
    obtain ⟨claimed, notContains⟩ := Modifier.isText_of_spelling _ spelling
    rcases free with none | ⟨contains, -⟩
    · exact absurd none claimed
    · exact absurd contains notContains

/-- A key that no spelling claims may stand before any operand. -/
theorem operatorEntry_of_unspelled (key : String) (operand : Value)
    (unspelled : Modifier.ofLowercase? (Text.lowercase key) = none) :
    OperatorEntry key operand :=
  operatorEntry_of_free (.inl unspelled)

/-- A value without a text is of another kind than those that have one. -/
theorem kind_not_mem_textKinds {operand : Value} (noText : Pattern.operandText? operand = none) :
    operand.kind ∉ textKinds := by
  cases operand with
  | string _ | int32 _ | int64 _ | double _ | boolean _ => cases noText
  | _ => simp [Value.kind, textKinds]

/-- A text match other than `contains` is kept before a value without a text. -/
theorem operatorEntry_of_noText {kind : TextMatch} (notContains : kind ≠ .contains)
    {operand : Value} (noText : Pattern.operandText? operand = none) :
    OperatorEntry kind.key operand where
  unclaimed := by cases kind <;> decide
  contains spelling := by
    have other : Text.lowercase kind.key ≠ "contains" := by
      cases kind with
      | contains => exact absurd rfl notContains
      | like | startsWith | endsWith => decide
    exact absurd spelling other
  textMatch _ := by
    refine ⟨?_, kind_not_mem_textKinds noText⟩
    cases kind with
    | contains => exact absurd rfl notContains
    | like | startsWith | endsWith => decide

namespace Expression

/-- One entry of a modifier map is written as an entry of an operator document. -/
theorem operatorEntry_lowerField (context : Context) (field : String) (entry : String × Value) :
    OperatorEntry (lowerField context field entry).value.1
      (lowerField context field entry).value.2 := by
  obtain ⟨key, value⟩ := entry
  have resolved := Modifier.resolve_cases key value
  unfold lowerField
  generalize Modifier.resolve key value = spelled at resolved
  cases spelled with
  | not =>
      rcases Operand.ofValue_eq_or .not value with ⟨fields, -, -, nested⟩ | kept
      · rw [nested]
        exact operatorEntry_of_unspelled "$not" _ (by decide)
      · rw [kept, lowerOperand, value_lowerValue_not]
        rcases exclusionKey_eq_or value with exclusion | inequality
        · rw [exclusion]
          exact operatorEntry_of_unspelled "$nin" _ (by decide)
        · rw [inequality]
          exact operatorEntry_of_unspelled "$ne" _ (by decide)
  | comparison comparison =>
      rw [Operand.ofValue_of_ne Modifier.noConfusion]
      exact operatorEntry_of_unspelled comparison.key _ (by cases comparison <;> decide)
  | text kind =>
      rw [Operand.ofValue_of_ne Modifier.noConfusion]
      cases text : Pattern.operandText? value with
      | some shown =>
          simp only [lowerOperand, lowerValue, text, Reported.value_pure]
          exact operatorEntry_of_unspelled regexKey _ (by decide)
      | none =>
          -- the operand is kept under the key of the match, and a string is never kept
          have notContains : kind ≠ .contains := by
            rintro rfl
            rcases resolved with ⟨verbatim, -⟩ | ⟨-, isString⟩
            · cases verbatim
            · cases value with
              | string shown => cases text
              | _ => exact absurd (isString rfl) Bool.noConfusion
          have notVerbatim : Modifier.text kind ≠ .verbatim "$ne" := Modifier.noConfusion
          have stillNone := Coercion.operandText?_coerce text context field
          simp only [lowerOperand, lowerValue, text, Reported.value_bind, Reported.value_pure,
            Modifier.key, Coercion.coerceOperand_of_ne notVerbatim]
          exact operatorEntry_of_noText notContains stillNone
  | verbatim other =>
      rw [Operand.ofValue_of_ne Modifier.noConfusion]
      rcases resolved with ⟨verbatim, free⟩ | ⟨spelled, -⟩
      · cases verbatim
        refine operatorEntry_of_free (free.imp id fun contains => ⟨contains.1, ?_⟩)
        exact Coercion.isString_coerceOperand contains.2 context field _
      · exact absurd spelled (Modifier.ofLowercase?_ne_verbatim _ other)

/-- What a value asks of a field, where it is a document, is an operator
document. -/
theorem operatorDocument_lower {context : Context} {field : String} {value : Value}
    {operators : Document}
    (lowered : (lower context field (ofValue value)).value = .document operators) :
    OperatorDocument operators := by
  cases value with
  | document fields =>
      rw [ofValue, value_lower_modifiers] at lowered
      rcases unwrapRegex_eq_or
          (Keyed.ofList (emitted context field (Operand.ofFields fields)).value) with
        ⟨r, -, regex⟩ | document
      · rw [regex] at lowered
        cases lowered
      · have same := Value.document.inj (document.symm.trans lowered)
        constructor
        · intro entry member
          rw [← same] at member
          have written := Keyed.mem_of_mem_ofList member
          rw [value_emitted_ofFields] at written
          obtain ⟨original, -, rfl⟩ := List.mem_map.1 written
          exact operatorEntry_lowerField context field original
        · rintro r rfl
          rw [same] at document
          cases document
  | array items =>
      rw [ofValue, lower, Reported.value_bind, Coercion.coerce_array] at lowered
      cases lowered
      constructor
      · intro entry member
        rw [List.mem_singleton.1 member]
        exact operatorEntry_of_unspelled membershipKey _ (by decide)
      · intro r lone
        have names : membershipKey = "$regex" := congrArg Prod.fst (List.cons.inj lone).1
        exact absurd names (by decide)
  | _ =>
      exact absurd lowered
        (Coercion.coerce_ne_document (fun _ => Value.noConfusion) context field operators)

/-- The entry of a modifier map that each key of its operator document is written
from last. -/
def lastModifiers (fields : Document) : Keyed (String × Value) :=
  Keyed.ofList <| fields.map fun entry =>
    (Meaning.modifierKey (Modifier.resolve entry.1 entry.2) entry.2, entry)

/-- An operator document is written from the last entry for each of its keys. -/
theorem ofList_emitted_ofFields (context : Context) (field : String) (fields : Document) :
    Keyed.ofList (emitted context field (Operand.ofFields fields)).value =
      Keyed.mapEntries (fun _ entry => (lowerField context field entry).value.2)
        (lastModifiers fields) := by
  rw [lastModifiers, Keyed.mapEntries_ofList, value_emitted_ofFields, Keyed.mapEntries,
    List.map_map]
  congr 1
  refine List.map_congr_left fun entry _ => ?_
  exact Prod.ext (key_lowerField context field entry) rfl

end Expression

namespace Clause

/-! ## Names of a level -/

/-- What a source asks of the field that it is written under. -/
def Source.asked? : Source → Option Value
  | .elements _ => none
  | .pattern value => some (.document [("like", value)])
  | .field value => some value

/-- A source that asks something of a field is written as a value that asks it. -/
theorem Source.lower_of_asked {source : Source} {asked : Value}
    (asks : source.asked? = some asked) (context : Context) (name : String) :
    source.lower context name = Expression.lower context name (Expression.ofValue asked) := by
  cases source with
  | elements items => cases asks
  | pattern value =>
      cases asks
      rfl
  | field value =>
      cases asks
      rfl

/-- The names that a source can stand under. -/
inductive Source.Names : String → Source → Prop
  | elements (operator : LogicalOperator) (items : List Value) :
    Names operator.key (.elements items)
  | pattern (name : String) (value : Value) : Names name (.pattern value)
  | field {name : String} (isField : ClauseKey.ofKey name = .field) (value : Value) :
    Names name (.field value)

theorem names_of_mem_entrySources {before : List String} {key name : String} {value : Value}
    {source : Source} (member : (name, source) ∈ entrySources before key value) :
    Source.Names name source := by
  rcases mem_entrySources member with
    ⟨operator, items, -, -, rfl, rfl⟩ | ⟨pattern, -, -, rfl⟩ | ⟨isField, rfl, rfl⟩
  · exact .elements operator items
  · exact .pattern name pattern
  · exact .field (ofKey_nameAfter isField before) value

theorem names_of_mem_sources {before : List String} {fields : Document} {name : String}
    {source : Source} (member : (name, source) ∈ sources before fields) :
    Source.Names name source := by
  obtain ⟨earlier, key, value, later, -, here⟩ := mem_sources_iff.1 member
  exact names_of_mem_entrySources here

end Clause

theorem ClauseKey.not_reserved_of_field {key : String} (isField : ofKey key = .field) :
    Text.lowercase key ∉ reservedKeys := by
  have claimed : ∀ spelling ∈ reservedKeys, ofLowercase spelling ≠ .field := by decide
  exact fun reserved => claimed _ reserved isField

/-! ## Queries -/

/-- The operator documents of a query, each with the value that it is written for:
the documents of fields and of like groups, and those below the negation that a
modifier map wrote last for a document. -/
inductive Operators (context : Context) (criteria : Value) : Value → Document → Prop
  | asked {fields written operators : Document} {name : String} {source : Clause.Source}
      {value : Value} (level : Clause.Level context criteria fields written)
      (last : (name, source) ∈ Clause.lastSources fields) (asks : source.asked? = some value)
      (document : (name, .document operators) ∈ written) :
      Operators context criteria value operators
  | negated {fields operators inner below : Document} {key : String}
      (outer : Operators context criteria (.document fields) operators)
      (last : ("$not", (key, .document inner)) ∈ Expression.lastModifiers fields)
      (negation : Modifier.resolve key (.document inner) = .not)
      (document : ("$not", .document below) ∈ operators) :
      Operators context criteria (.document inner) below

/-- Every operator document is what its value asks of some field. -/
theorem Operators.lowered {context : Context} {criteria value : Value} {operators : Document}
    (within : Operators context criteria value operators) :
    ∃ name, (Expression.lower context name (Expression.ofValue value)).value =
      .document operators := by
  induction within with
  | @asked fields written operators name source value level last asks document =>
      obtain ⟨written, writtenMember, lowered⟩ := (level.mem_iff name _).1 document
      have nodup := Clause.nodup_keys_lastSources fields
      rw [Keyed.eq_of_mem_of_mem nodup writtenMember last,
        Clause.Source.lower_of_asked asks] at lowered
      exact ⟨name, lowered⟩
  | @negated fields operators inner below key _ last negation document outerLowered =>
      obtain ⟨name, lowered⟩ := outerLowered
      refine ⟨name, ?_⟩
      rw [Expression.ofValue, Expression.value_lower_modifiers,
        Expression.ofList_emitted_ofFields] at lowered
      rcases Expression.unwrapRegex_eq_or (Keyed.mapEntries
          (fun _ entry => (Expression.lowerField context name entry).value.2)
          (Expression.lastModifiers fields)) with ⟨r, -, regex⟩ | whole
      · rw [regex] at lowered
        cases lowered
      · rw [whole] at lowered
        rw [← Value.document.inj lowered] at document
        obtain ⟨entry, entryMember, written⟩ := Keyed.mem_mapEntries.1 document
        have nodup : (Keyed.keys (Expression.lastModifiers fields)).Nodup :=
          Keyed.nodup_keys_ofList _
        rw [Keyed.eq_of_mem_of_mem nodup entryMember last,
          Expression.lowerField_negated context name negation] at written
        exact written

/-- At every level of a query, but for what a like group wrote last, a logical operator
holds the queries of the elements that it was asked for, and no other name is read as
anything but a field. Every operator document is in the grammar. -/
theorem query_grammar (context : Context) (criteria : Value) :
    (∀ fields written, Clause.Level context criteria fields written →
      ∀ name value, (name, value) ∈ written →
        (∀ pattern, (name, .pattern pattern) ∉ Clause.lastSources fields) →
        (name ∈ ["$or", "$and", "$nor"] → ∃ items,
          (name, .elements items) ∈ Clause.lastSources fields ∧
            value = .array (items.map fun item => .document (whereQuery context item).value)) ∧
        (name ∉ ["$or", "$and", "$nor"] → Text.lowercase name ∉ reservedKeys)) ∧
      ∀ asked operators, Operators context criteria asked operators →
        OperatorDocument operators := by
  constructor
  · intro fields written level name value member notPattern
    obtain ⟨source, sourceMember, lowered⟩ := (level.mem_iff name value).1 member
    have named := Clause.names_of_mem_sources (Keyed.mem_of_mem_ofList sourceMember)
    cases named with
    | elements operator items =>
        rw [Clause.value_lower_elements] at lowered
        refine ⟨fun _ => ⟨items, sourceMember, lowered.symm⟩, fun other => ?_⟩
        exact absurd (by cases operator <;> decide) other
    | pattern _ pattern => exact absurd sourceMember (notPattern pattern)
    | field isField asked =>
        have free := ClauseKey.not_reserved_of_field isField
        have keys : ∀ key ∈ ["$or", "$and", "$nor"], Text.lowercase key ∈ reservedKeys := by
          decide
        exact ⟨fun logical => absurd (keys name logical) free, fun _ => free⟩
  · intro asked operators within
    obtain ⟨name, lowered⟩ := within.lowered
    exact Expression.operatorDocument_lower lowered

/-- A disjunction, and an operator document below a negation in one of its elements,
beside a like group that names `$nor`. -/
theorem query_grammar_of_nested_negation :
    let context : Context := ⟨Schema.empty, {}⟩
    let negated : Document := [("Contains", .string "a"), ("gt", .int32 1)]
    let element : Value := .document [("name", .document [("NOT", .document negated)])]
    let criteria : Value := .document
      [("OR", .array [element]), ("LIKE", .document [("$nor", .string "b")])]
    let operators : Document := [("$regex", .regex ⟨"^.*a.*$", "i"⟩), ("$gt", .int32 1)]
    let disjunction : Value :=
      .array [.document [("name", .document [("$not", .document operators)])]]
    (Clause.Level context criteria criteria.fields (whereQuery context criteria).value ∧
        ("$or", disjunction) ∈ (whereQuery context criteria).value ∧
        ∃ items, ("$or", .elements items) ∈ Clause.lastSources criteria.fields ∧
          disjunction = .array (items.map fun item =>
            .document (whereQuery context item).value)) ∧
      Operators context criteria (.document negated) operators ∧ OperatorDocument operators := by
  intro context negated element criteria operators disjunction
  have level : Clause.Level context criteria criteria.fields
      (whereQuery context criteria).value := .whole
  have written : ("$or", disjunction) ∈ (whereQuery context criteria).value := List.mem_cons_self
  have asked : ∀ pattern, ("$or", .pattern pattern) ∉ Clause.lastSources criteria.fields := by
    intro pattern member
    rcases List.mem_cons.1 member with here | later
    · cases here
    · have names : "$or" = "$nor" := congrArg Prod.fst (List.mem_singleton.1 later)
      exact absurd names (by decide)
  have grammar := query_grammar context criteria
  obtain ⟨holds, -⟩ := grammar.1 _ _ level "$or" disjunction written asked
  have inner : Clause.Level context criteria element.fields
      [("name", .document [("$not", .document operators)])] :=
    .element level List.mem_cons_self written List.mem_cons_self
  have outer : Operators context criteria (.document [("NOT", .document negated)])
      [("$not", .document operators)] :=
    .asked inner List.mem_cons_self rfl List.mem_cons_self
  have negation : Modifier.resolve "NOT" (.document negated) = .not := rfl
  have modifiers : Expression.lastModifiers [("NOT", .document negated)] =
      [("$not", ("NOT", .document negated))] := by
    rw [Expression.lastModifiers, List.map_singleton, negation]
    rfl
  have within : Operators context criteria (.document negated) operators :=
    .negated outer (modifiers ▸ List.mem_cons_self) negation List.mem_cons_self
  exact ⟨⟨level, written, holds (by decide)⟩, within, grammar.2 _ _ within⟩

end Criteria
