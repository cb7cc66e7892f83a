/-
  Sift.Operator.Basic
  ───────────────────
  **Operators: identified tests with a way to read their operands.**

  A program may supply operators of its own: an identifier, a codec for the operands where it
  takes any, and the test itself.  A standard operator is made from a comparison, and its
  codec from a form.
-/
import Sift.Comparison.Evaluation
import Sift.Error

namespace Sift

/-! ## §1. Codecs -/

/-- How the operands of an operator are read and written. -/
structure Codec where
  read : Json → Except Error Operand
  write : Operand → Json

def Form.codec (form : Form) : Codec where
  read raw := (form.read raw).mapError .rejected
  write := form.write

/-! ## §2. Operators -/

/-- An operator.  One without a codec takes no operand. -/
structure Operator where
  id : String
  codec : Option Codec
  holds : Option Json → Option Operand → Bool

def Operator.describe (operator : Operator) : String :=
  Text.record "ConditionOperator" [("operator_id", Text.quoted operator.id),
    ("has_value_field", toString operator.codec.isSome)]

/-! ## §3. Standard operators -/

/-- An operator made from a comparison. -/
structure StandardOperator where
  id : String
  comparison : Comparison
  codec : Option Codec

namespace StandardOperator

/-- **The operator of a comparison**, with its name and its form. -/
def of (comparison : Comparison) : StandardOperator where
  id := comparison.name
  comparison := comparison
  codec := comparison.defaultForm?.map Form.codec

def withId (operator : StandardOperator) (id : String) : StandardOperator :=
  { operator with id }

/-- The same operator with another codec, or with none. -/
def withCodec (operator : StandardOperator) (codec : Option Codec) : StandardOperator :=
  { operator with codec }

/-- The operator itself. -/
def toOperator (operator : StandardOperator) : Operator where
  id := operator.id
  codec := operator.codec
  holds := operator.comparison.holds

def describe (operator : StandardOperator) : String :=
  Text.record "StandardOperator" [("operator_id", Text.quoted operator.id),
    ("kind", operator.comparison.title), ("has_value_field", toString operator.codec.isSome)]

end StandardOperator

end Sift
