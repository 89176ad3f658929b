import Criteria.Value

namespace Criteria

/-! ## Clauses of a query

A clause is what a `where` document says once the spellings of its keys are
settled. -/

inductive LogicalOperator
  | or
  | and
  | nor
deriving DecidableEq, Repr

def LogicalOperator.key : LogicalOperator → String
  | or => "$or"
  | and => "$and"
  | nor => "$nor"

inductive Comparison
  | lessThan
  | lessThanOrEqual
  | greaterThan
  | greaterThanOrEqual
deriving DecidableEq, Repr

def Comparison.key : Comparison → String
  | lessThan => "$lt"
  | lessThanOrEqual => "$lte"
  | greaterThan => "$gt"
  | greaterThanOrEqual => "$gte"

inductive TextMatch
  | contains
  | like
  | startsWith
  | endsWith
deriving DecidableEq, Repr

/-- The canonical spelling of a text match, under which operands that are no
text are kept. -/
def TextMatch.key : TextMatch → String
  | contains => "contains"
  | like => "like"
  | startsWith => "startsWith"
  | endsWith => "endsWith"

/-- What a key of a modifier map asks for. -/
inductive Modifier
  | comparison (comparison : Comparison)
  | not
  | text (kind : TextMatch)
  | verbatim (key : String)
deriving DecidableEq, Repr

/-- The key under which a modifier writes an operand that it does not
change. -/
def Modifier.key : Modifier → String
  | comparison c => c.key
  | not => "$not"
  | text kind => kind.key
  | verbatim key => key

mutual

/-- What is asked of a field. -/
inductive Expression
  | scalar (value : Value)
  | membership (values : List Value)
  | modifiers (entries : List (Modifier × Operand))

inductive Operand
  | value (value : Value)
  | nested (expression : Expression)

end

inductive Entry
  | field (name : String) (expression : Expression)
  | logical (operator : LogicalOperator) (clauses : List (List Entry))
  | likeGroup (patterns : List (String × Expression))

/-- A conjunction of conditions. -/
abbrev Clause := List Entry

end Criteria
