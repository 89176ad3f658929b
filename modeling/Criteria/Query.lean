import Criteria.Clause.Lowering
import Criteria.Clause.Reading
import Criteria.ExtendedJson.Reader
import Criteria.Sort

namespace Criteria

/-! ## From criteria to a query

Criteria are a document. Its `where` and its `sort` take the form that the store
reads, and every other entry stands in the query as it is. -/

inductive CriteriaError
  | malformedWrapper
  | notDocument (found : Kind)
deriving DecidableEq, Repr

def CriteriaError.message : CriteriaError → String
  | malformedWrapper => "extended json conversion error"
  | notDocument found => s!"criteria must be a document, found {found.name}"

def criteriaOfJson (json : Json) : Except CriteriaError Document :=
  match Value.ofJson? json with
  | none => .error .malformedWrapper
  | some (.document fields) => .ok fields
  | some other => .error (.notDocument other.kind)

def whereKey : String := "where"

def sortKey : String := "sort"

/-- The conditions that a value states; whatever is no document states none. -/
def whereQuery (context : Context) : Value → Reported Document
  | .document fields => do
    let clause ← Clause.read fields
    Clause.lower context clause
  | .null => pure []
  | other => .report (.nonDocumentWhere other.kind) []

def entryQuery (context : Context) (key : String) (value : Value) :
    Reported Value :=
  if key = whereKey then Value.document <$> whereQuery context value
  else if key = sortKey then Value.document <$> Sort.ofValue value
  else pure value

def query (context : Context) : Document → Reported Document
  | [] => pure []
  | (key, value) :: rest => do
    let lowered ← entryQuery context key value
    let more ← query context rest
    pure ((key, lowered) :: more)

end Criteria
