namespace Criteria

/-! ## Choices for a query -/

/-- What becomes of a text under a numeric field that starts with no number. -/
inductive NumericFallback
  | nan
  | keepText
deriving DecidableEq, Repr

/-- The choices that steer a query beside the schema. -/
structure Options where
  numericFallback : NumericFallback := .nan
  objectIdIdentity : Bool := false
deriving DecidableEq, Repr

end Criteria
