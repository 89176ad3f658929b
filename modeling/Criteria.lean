import Criteria.Main
import Criteria.Proofs.Clause.Collision
import Criteria.Proofs.Clause.FinalSigma
import Criteria.Proofs.Clause.Shorthand
import Criteria.Proofs.Coercion.Datetimes
import Criteria.Proofs.Coercion.Numbers
import Criteria.Proofs.CommandLine.Warnings
import Criteria.Proofs.Contexts.Fallback
import Criteria.Proofs.Contexts.Schema
import Criteria.Proofs.ExtendedJson.Translation
import Criteria.Proofs.Grammar
import Criteria.Proofs.Identifiers.Query
import Criteria.Proofs.Identity
import Criteria.Proofs.Meaning.Preservation
import Criteria.Proofs.Modifiers
import Criteria.Proofs.Outline.Query
import Criteria.Proofs.Pattern.Escaping
import Criteria.Proofs.Priority
import Criteria.Proofs.Remarks
import Criteria.Proofs.Reordering.Expression
import Criteria.Proofs.Reordering.Query
import Criteria.Proofs.Schema.RoundTrip
import Criteria.Proofs.Settled.Query
