import Criteria.Schema
import Criteria.Text.Quoted
import Criteria.Value

namespace Criteria

/-! ## What a query could not take as it stood -/

/-- A part of the criteria that was dropped, replaced or kept unread. -/
inductive Diagnostic
  | nonDocumentWhere (found : Kind)
  | nonDocumentSort (found : Kind)
  | droppedLogicalKey (key : String) (found : Kind)
  | nonDocumentClause (found : Kind)
  | nonDocumentLikeGroup (found : Kind)
  | unparsableNumber (field : String) (type : FieldType) (text : String)
  | unparsableDate (field : String) (type : FieldType) (text : String)
deriving DecidableEq, Repr

namespace Diagnostic

/-- The sentence about a text that its field's type cannot read. -/
def unparsable (field : String) (type : FieldType) (text : String) : String :=
  s!"{type.text} field `{field}` has unparsable value {Text.quoted text}"

def message : Diagnostic → String
  | nonDocumentWhere found =>
    s!"`where` is a {found.name}, not a document; translated as an empty clause"
  | nonDocumentSort found =>
    s!"`sort` is a {found.name}, not a document; translated as an empty sort"
  | droppedLogicalKey key found =>
    s!"logical operator `{key}` requires an array, found {found.name}; key dropped"
  | nonDocumentClause found =>
    s!"logical operator element is a {found.name}, not a document; translated as an empty clause"
  | nonDocumentLikeGroup found =>
    s!"`like` group is a {found.name}, not a document; key dropped"
  | unparsableNumber field type text => unparsable field type text
  | unparsableDate field type text => unparsable field type text ++ "; kept as a string"

end Diagnostic

/-! ## Results with diagnostics -/

/-- A result and what was reported on the way to it, in order. -/
structure Reported (α : Type) where
  value : α
  diagnostics : List Diagnostic

namespace Reported

variable {α β : Type}

def report (diagnostic : Diagnostic) (value : α) : Reported α :=
  ⟨value, [diagnostic]⟩

instance : Monad Reported where
  pure value := ⟨value, []⟩
  bind first next :=
    let second := next first.value
    ⟨second.value, first.diagnostics ++ second.diagnostics⟩

@[simp] theorem value_pure (value : α) : (pure value : Reported α).value = value := rfl

@[simp] theorem diagnostics_pure (value : α) :
    (pure value : Reported α).diagnostics = [] := rfl

@[simp] theorem value_bind (first : Reported α) (next : α → Reported β) :
    (first >>= next).value = (next first.value).value := rfl

@[simp] theorem diagnostics_bind (first : Reported α) (next : α → Reported β) :
    (first >>= next).diagnostics =
      first.diagnostics ++ (next first.value).diagnostics := rfl

end Reported

end Criteria
