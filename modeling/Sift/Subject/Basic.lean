/-
  Sift.Subject.Basic
  ──────────────────
  **Subjects: the parts of the data that criteria speak about.**

  A subject knows its operators and takes its value from the data.  A program may supply its
  own; a field subject takes the value at a path and has a table of operators.  A `Resolver`
  finds subjects by identifier.
-/
import Sift.Operator.Table
import Sift.Path

namespace Sift

/-- A subject of criteria. -/
structure Subject where
  id : String
  /-- The operator of an identifier. -/
  operator : String → Except Error Operator
  /-- The value that the subject has in some data. -/
  value : Json → Option Json

def Subject.describe (subject : Subject) : String :=
  "ConditionChoice \x7b choice_id: " ++ Text.quoted subject.id ++ ", .. \x7d"

/-- How subjects are found by identifier. -/
abbrev Resolver := String → Except Error Subject

/-- The resolver that fails on one identifier. -/
def Resolver.failing (resolver : Resolver) (id : String) (error : Error) : Resolver :=
  fun asked => if asked = id then .error error else resolver asked

/-! ## §1. Field subjects -/

/-- The value at a path, with operators. -/
structure FieldSubject where
  id : String
  path : String
  table : OperatorTable

namespace FieldSubject

/-- A subject whose path is its identifier, without operators. -/
def of (id : String) : FieldSubject := ⟨id, id, .empty⟩

def withPath (subject : FieldSubject) (path : String) : FieldSubject := { subject with path }

def withTable (subject : FieldSubject) (table : OperatorTable) : FieldSubject :=
  { subject with table }

/-- The same subject with one operator more, or another one of that identifier. -/
def withOperator (subject : FieldSubject) (operator : Operator) : FieldSubject :=
  { subject with table := subject.table.put operator }

/-- The subject itself. -/
def toSubject (subject : FieldSubject) : Subject where
  id := subject.id
  operator := subject.table.find
  value data := data.at? subject.path

def describe (subject : FieldSubject) : String :=
  Text.record "FieldChoice" [("choice_id", Text.quoted subject.id),
    ("path", Text.quoted subject.path), ("operators", subject.table.describe)]

end FieldSubject

end Sift
