import Criteria.Query

/-!
# Which step records what

Reading a clause records only that a part of it has the wrong shape. Lowering
records only that a text cannot be read as its field's type.
-/

namespace Criteria

/-- Whether a diagnostic is about the shape of the criteria; the others are
about texts that no type could read. -/
def Diagnostic.isStructural : Diagnostic → Bool
  | unparsableNumber _ _ _ => false
  | unparsableDate _ _ _ => false
  | _ => true

namespace Reported

variable {α β : Type}

/-- Whether all that was reported is structural, or none of it is. -/
def Only (structural : Bool) (reported : Reported α) : Prop :=
  ∀ diagnostic ∈ reported.diagnostics, diagnostic.isStructural = structural

theorem only_pure (structural : Bool) (value : α) :
    (pure value : Reported α).Only structural :=
  fun _ member => absurd member List.not_mem_nil

theorem only_report (diagnostic : Diagnostic) (value : α) :
    (report diagnostic value).Only diagnostic.isStructural :=
  fun _ member => List.mem_singleton.1 member ▸ rfl

/-- Two steps that record one kind of remarks record that kind together. -/
theorem Only.bind {structural : Bool} {first : Reported α} {next : α → Reported β}
    (firstOnly : first.Only structural) (nextOnly : ∀ value, (next value).Only structural) :
    (first >>= next).Only structural := by
  intro diagnostic member
  rcases List.mem_append.1 member with before | after
  · exact firstOnly diagnostic before
  · exact nextOnly first.value diagnostic after

end Reported

open Reported

/-! ## Lowering -/

namespace Coercion

theorem numberOr_only (context : Context) (field : String) (type : FieldType)
    (text : String) (read : Option Value) :
    (numberOr context field type text read).Only false := by
  cases read with
  | some value => exact only_pure _ value
  | none => exact only_report _ _

theorem dateOr_only (field : String) (type : FieldType) (text : String)
    (read : Option Int) : (dateOr field type text read).Only false := by
  cases read with
  | some milliseconds => exact only_pure _ _
  | none => exact only_report _ _

theorem typed_only (context : Context) (field text : String) :
    (typed context field text).Only false := by
  unfold typed
  split
  · exact numberOr_only context field .integer text _
  · exact numberOr_only context field .float text _
  · unfold calendarValue
    split
    · exact dateOr_only field .date text _
    · split
      · exact dateOr_only field .date text _
      · exact only_pure _ _
  · exact dateOr_only field .datetime text _
  · exact only_pure _ _
  · exact only_pure _ _

/-- Coercion has nothing to say about the shape of the criteria. -/
theorem coerce_only (context : Context) (field : String) (value : Value) :
    (coerce context field value).Only false := by
  rw [coerce]
  split
  · exact typed_only context field _
  · exact only_pure _ _

theorem coerceOperand_only (context : Context) (field : String) (modifier : Modifier)
    (value : Value) : (coerceOperand context field modifier value).Only false := by
  unfold coerceOperand
  split
  · exact only_pure _ value
  · exact coerce_only context field value

end Coercion

namespace Expression

theorem lowerValue_only (context : Context) (field : String) (modifier : Modifier)
    (value : Value) : (lowerValue context field modifier value).Only false := by
  have coerced := Coercion.coerceOperand_only context field modifier value
  cases modifier with
  | not =>
      refine coerced.bind fun operand => ?_
      cases operand <;> exact only_pure _ _
  | text kind =>
      simp only [lowerValue]
      split
      · exact only_pure _ _
      · exact coerced.bind fun _ => only_pure _ _
  | comparison _ => exact coerced.bind fun _ => only_pure _ _
  | verbatim _ => exact coerced.bind fun _ => only_pure _ _

mutual

/-- Lowering has nothing to say about the shape of the criteria. -/
theorem lower_only (context : Context) (field : String) : ∀ expression : Expression,
    (lower context field expression).Only false
  | .scalar value => Coercion.coerce_only context field value
  | .membership values =>
      (Coercion.coerce_only context field (.array values)).bind fun _ => only_pure _ _
  | .modifiers entries =>
      (lowerModifiers_only context field entries []).bind fun _ => only_pure _ _

theorem lowerOperand_only (context : Context) (field : String) (modifier : Modifier) :
    ∀ operand : Operand, (lowerOperand context field modifier operand).Only false
  | .value value => lowerValue_only context field modifier value
  | .nested expression => (lower_only context field expression).bind fun _ => only_pure _ _

theorem lowerModifiers_only (context : Context) (field : String) :
    ∀ (entries : List (Modifier × Operand)) (written : Document),
      (lowerModifiers context field entries written).Only false
  | [], written => only_pure _ written
  | (modifier, operand) :: rest, _ =>
      (lowerOperand_only context field modifier operand).bind fun _ =>
        lowerModifiers_only context field rest _

end

end Expression

namespace Clause

theorem lowerPatterns_only (context : Context) (patterns : List (String × Expression))
    (written : Document) :
    (lowerPatterns context patterns written).Only false := by
  induction patterns generalizing written with
  | nil => exact only_pure _ written
  | cons pattern rest ih =>
      exact (Expression.lower_only context pattern.1 pattern.2).bind fun _ => ih _

mutual

theorem lowerEntries_only (context : Context) : ∀ (clause : List Entry) (written : Document),
    (lowerEntries context clause written).Only false
  | [], written => only_pure _ written
  | entry :: rest, written =>
      (lowerEntry_only context entry written).bind fun _ => lowerEntries_only context rest _

theorem lowerEntry_only (context : Context) : ∀ (entry : Entry) (written : Document),
    (lowerEntry context entry written).Only false
  | .field _ expression, _ =>
      (Expression.lower_only context _ expression).bind fun _ => only_pure _ _
  | .logical _ clauses, _ =>
      (lowerClauses_only context clauses).bind fun _ => only_pure _ _
  | .likeGroup patterns, written => lowerPatterns_only context patterns written

theorem lowerClauses_only (context : Context) : ∀ clauses : List (List Entry),
    (lowerClauses context clauses).Only false
  | [] => only_pure _ []
  | clause :: rest =>
      (lowerEntries_only context clause []).bind fun _ =>
        (lowerClauses_only context rest).bind fun _ => only_pure _ _

end

/-! ## Reading -/

theorem readLikeGroup_only (value : Value) : (readLikeGroup value).Only true := by
  cases value with
  | document fields => exact only_pure _ _
  | _ => exact only_report _ _

mutual

/-- Reading has nothing to say about texts. -/
theorem read_only : ∀ fields : List (String × Value), (read fields).Only true
  | [] => only_pure _ []
  | (key, value) :: rest => by
      have restOnly := read_only rest
      rw [read]
      split
      · exact (readLogical_only key _ value).bind fun _ => restOnly.bind fun _ => only_pure _ _
      · exact (readLikeGroup_only value).bind fun _ => restOnly.bind fun _ => only_pure _ _
      · exact (only_pure _ _).bind fun _ => restOnly.bind fun _ => only_pure _ _

theorem readLogical_only (key : String) (operator : LogicalOperator) :
    ∀ value : Value, (readLogical key operator value).Only true
  | .array items => (readElements_only items).bind fun _ => only_pure _ _
  | .double _ | .string _ | .document _ | .binary _ _ | .undefined | .objectId _
  | .boolean _ | .dateTime _ | .null | .regex _ | .dbPointer _ _ | .code _ | .symbol _
  | .codeWithScope _ _ | .int32 _ | .timestamp _ _ | .int64 _ | .decimal128 _
  | .maxKey | .minKey => only_report _ _

theorem readElements_only : ∀ items : List Value, (readElements items).Only true
  | [] => only_pure _ []
  | item :: rest =>
      (readElement_only item).bind fun _ =>
        (readElements_only rest).bind fun _ => only_pure _ _

theorem readElement_only : ∀ item : Value, (readElement item).Only true
  | .document fields => read_only fields
  | .null => only_pure _ []
  | .double _ | .string _ | .array _ | .binary _ _ | .undefined | .objectId _
  | .boolean _ | .dateTime _ | .regex _ | .dbPointer _ _ | .code _ | .symbol _
  | .codeWithScope _ _ | .int32 _ | .timestamp _ _ | .int64 _ | .decimal128 _
  | .maxKey | .minKey => only_report _ _

end

end Clause

/-! ## Both steps together -/

theorem value_whereQuery (context : Context) (value : Value) :
    (whereQuery context value).value =
      (Clause.lower context (Clause.readElement value).value).value := by
  cases value <;> rfl

def structural (diagnostics : List Diagnostic) : List Diagnostic :=
  diagnostics.filter Diagnostic.isStructural

theorem structural_append (first second : List Diagnostic) :
    structural (first ++ second) = structural first ++ structural second :=
  List.filter_append first second

/-- The structural diagnostics of a clause document are those of reading it. -/
theorem structural_whereQuery (context : Context) (fields : Document) :
    structural (whereQuery context (.document fields)).diagnostics =
      (Clause.read fields).diagnostics := by
  have lowered : structural (Clause.lower context (Clause.read fields).value).diagnostics = [] := by
    refine List.filter_eq_nil_iff.2 fun diagnostic member => ?_
    rw [Clause.lowerEntries_only context _ [] diagnostic member]
    exact Bool.noConfusion
  have read : structural (Clause.read fields).diagnostics = (Clause.read fields).diagnostics :=
    List.filter_eq_self.2 (Clause.read_only fields)
  rw [whereQuery, Reported.diagnostics_bind, structural_append, read, lowered, List.append_nil]

end Criteria
