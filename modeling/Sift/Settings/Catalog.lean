/-
  Sift.Settings.Catalog
  ─────────────────────
  **The catalog that settings declare.**

  Subjects are built and added in the order of the settings, and the operators of a subject in
  the order of its declaration; the first fault stops.  An operator's form is checked before
  its identifier, and a subject's identifier after its operators.
-/
import Sift.Settings.Declaration
import Sift.Subject.Catalog

namespace Sift.Settings

namespace OperatorDeclaration

/-- The subject and the comparison that a fault is about, as its message names them. -/
def site (subject : String) (comparison : Comparison) : String :=
  "条件字段 " ++ subject ++ " 的操作符 " ++ comparison.name

/-- The error of a form where no operand is taken. -/
def formNotTaken (subject : String) (comparison : Comparison) : Error :=
  .invalidSettings (site subject comparison ++ " 不接受值")

/-- The error of a form whose operands cannot be tested. -/
def formNotAccepted (subject : String) (comparison : Comparison) (form : Form) : Error :=
  .invalidSettings (site subject comparison ++ " 不支持值类型 " ++ form.describe)

/-- The identifier of the operator: the declared one, or the name of its comparison. -/
def effectiveId (d : OperatorDeclaration) : String := d.id.getD d.comparison.name

/-- The operator as declared, its form unchecked. -/
def declared (d : OperatorDeclaration) : StandardOperator where
  id := d.effectiveId
  comparison := d.comparison
  codec := (d.form.or d.comparison.defaultForm?).map Form.codec

/-- **The declared operator** of a subject. -/
def build (subject : String) (d : OperatorDeclaration) : Except Error StandardOperator :=
  match d.form with
  | none => .ok d.declared
  | some form =>
    if !d.comparison.needsOperand then .error (formNotTaken subject d.comparison)
    else if !d.comparison.accepts form then
      .error (formNotAccepted subject d.comparison form)
    else .ok d.declared

end OperatorDeclaration

namespace SubjectDeclaration

/-- Builds and adds operators in order. -/
def buildTable (subject : String) (table : OperatorTable) :
    List OperatorDeclaration → Logged OperatorTable
  | [] => .pure table
  | d :: rest =>
    (Logged.quietly (d.build subject)).bind fun operator =>
    (table.add operator.toOperator).bind fun table =>
    buildTable subject table rest

/-- The path of the subject's value: below the root, unless that is empty. -/
def effectivePath (root : Option String) (d : SubjectDeclaration) : String :=
  let path := d.path.getD d.id
  match root.filter (· ≠ "") with
  | some root => Path.below root path
  | none => path

/-- **The declared subject**, its path below the root. -/
def build (root : Option String) (d : SubjectDeclaration) : Logged FieldSubject :=
  (buildTable d.id .empty d.operators).bind fun table =>
  .pure ⟨d.id, d.effectivePath root, table⟩

end SubjectDeclaration

/-- Builds and adds subjects in order. -/
def addSubjects (root : Option String) (catalog : Catalog) :
    List SubjectDeclaration → Logged Catalog
  | [] => .pure catalog
  | d :: rest =>
    (d.build root).bind fun subject =>
    (catalog.add subject.toSubject).bind fun catalog =>
    addSubjects root catalog rest

/-- **The declared catalog.** -/
def toCatalog (settings : Settings) : Logged Catalog :=
  addSubjects settings.root .empty settings.subjects

end Sift.Settings
