import Sift.Filter.Basic
import Sift.Settings.Catalog
import Sift.Settings.Source
import Sift.Subject.Workspace
import Sift.Proofs.Filter.Criterion
import Sift.Proofs.Filter.Reading
import Sift.Proofs.Filter.Rereading
import Sift.Proofs.Path
import Sift.Proofs.Subject.Catalog
import Sift.Proofs.Settings.Scope
import Sift.Proofs.Text.Blank
import Sift.Proofs.Text.Digits
import Sift.Proofs.Text.Integer
import Sift.Proofs.Instant.Text
import Sift.Proofs.Instant.Moment
import Sift.Proofs.Filter.Standard
import Sift.Proofs.Fault
import Sift.Proofs.Operator.Table
import Sift.Proofs.Settings.Validity
import Sift.Proofs.Comparison.Shape
import Sift.Proofs.Settings.Operands
import Sift.Proofs.Comparison.Laws
import Sift.Proofs.Filter.Verdict
import Sift.Proofs.Filter.Composite
import Sift.Proofs.Binary64.Whole
import Sift.Proofs.Comparison.Numbers
import Sift.Proofs.Json.Numeric
import Sift.Proofs.Filter.Relevance
import Sift.Proofs.Filter.WholeOperands
import Sift.Proofs.Subject.Registry
import Sift.Proofs.Json.Nesting
import Sift.Proofs.Json.Tokens
import Sift.Proofs.Filter.StoredText
import Sift.Proofs.Filter.Checks
import Sift.Proofs.Operand.Refusal
import Sift.Proofs.Operand.Inhabitants
import Sift.Proofs.Comparison.Containment
import Sift.Proofs.Comparison.Times
import Sift.Proofs.Comparison.Compatible
import Sift.Proofs.Filter.Interchange
import Sift.Proofs.Path.Chain
import Sift.Proofs.Comparison.OwnJson
import Sift.Proofs.Operator.History
import Sift.Proofs.Settings.KeyOrder
import Sift.Proofs.Settings.Override
import Sift.Proofs.Operand.Declaration
import Sift.Proofs.Filter.Diagnostics
import Sift.Proofs.Filter.Construction
import Sift.Proofs.Settings.Loading
import Sift.Proofs.Event
import Sift.Proofs.Subject.Log
import Sift.Proofs.Settings.Log
import Sift.Proofs.Comparison.Texts
import Sift.Proofs.Operand.WholeNumbers
import Sift.Proofs.Filter.Patterns
import Sift.Proofs.Filter.Forms
