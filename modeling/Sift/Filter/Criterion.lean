/-
  Sift.Filter.Criterion
  ─────────────────────
  **Criteria: a subject, an operator and an operand.**

  An operator that takes no operand leaves the criterion without operand and raw value,
  whatever is offered.  Reading a criterion from a payload goes through fixed stages and stops
  at the first that fails, with one event: the keys, the subject, the operator, the operand.
-/
import Sift.Subject.Catalog

namespace Sift

/-- One criterion. -/
structure Criterion where
  subject : Subject
  operator : Operator
  operand : Option Operand
  /-- The raw form of the operand. -/
  raw : Option Json
  bare : operator.codec = none → operand = none ∧ raw = none

namespace Criterion

/-! ## §1. Building -/

/-- A criterion with a given raw value. -/
def withRaw (subject : Subject) (operator : Operator) (operand : Option Operand)
    (raw : Option Json) : Criterion :=
  match h : operator.codec with
  | some _ => ⟨subject, operator, operand, raw, by simp [h]⟩
  | none => ⟨subject, operator, none, none, fun _ => ⟨rfl, rfl⟩⟩

section
variable (subject : Subject) (operator : Operator) (operand : Option Operand)
  (raw : Option Json)

@[simp] theorem subject_withRaw : (withRaw subject operator operand raw).subject = subject := by
  unfold withRaw
  split <;> rfl

@[simp] theorem operator_withRaw :
    (withRaw subject operator operand raw).operator = operator := by
  unfold withRaw
  split <;> rfl

/-- The operand is kept where the operator takes one. -/
@[simp] theorem operand_withRaw :
    (withRaw subject operator operand raw).operand = operator.codec.bind fun _ => operand := by
  unfold withRaw
  split <;> simp_all

@[simp] theorem raw_withRaw :
    (withRaw subject operator operand raw).raw = operator.codec.bind fun _ => raw := by
  unfold withRaw
  split <;> simp_all

end

/-- **A criterion with an operand**; its raw value is what the operator's codec writes. -/
def of (subject : Subject) (operator : Operator) (operand : Option Operand) : Criterion :=
  withRaw subject operator operand
    (operator.codec.bind fun codec => operand.map codec.write)

/-! ## §2. Matching and writing -/

/-- **Whether some data meets the criterion.** -/
def admits (criterion : Criterion) (data : Json) : Bool :=
  criterion.operator.holds (criterion.subject.value data) criterion.operand

/-- The operand as the payload holds it; null where there is none. -/
def written (codec : Codec) (operand : Option Operand) : Json :=
  match operand with
  | some operand => codec.write operand
  | none => .null

/-- **The payload of a criterion.** -/
def toJson (criterion : Criterion) : Json :=
  .object ([("choice", .str criterion.subject.id), ("op", .str criterion.operator.id)] ++
    match criterion.operator.codec with
    | some codec => [("value", written codec criterion.operand)]
    | none => [])

/-! ### The members of a payload -/

@[simp] theorem get?_choice_toJson (criterion : Criterion) :
    criterion.toJson.get? "choice" = some (.str criterion.subject.id) := by
  unfold toJson
  split <;> simp [Json.object, Json.get?, Json.lookup_insertMember]

@[simp] theorem get?_op_toJson (criterion : Criterion) :
    criterion.toJson.get? "op" = some (.str criterion.operator.id) := by
  unfold toJson
  split <;> simp [Json.object, Json.get?, Json.lookup_insertMember]

/-- An operand is written exactly where the operator takes one. -/
@[simp] theorem get?_value_toJson (criterion : Criterion) :
    criterion.toJson.get? "value" =
      criterion.operator.codec.map fun codec => written codec criterion.operand := by
  unfold toJson
  split <;> rename_i h <;>
    simp [h, Json.object, Json.get?, Json.lookup_insertMember, Json.lookup]

/-- Whether two criteria are equal: the same identifiers and equal operands. -/
def sameAs (a b : Criterion) : Bool :=
  a.subject.id == b.subject.id && a.operator.id == b.operator.id
    && Operand.sameOptional a.operand b.operand

/-! ## §3. Reading -/

/-- The error of a subject that was not found: it names the asked identifier, while an error
of another kind stays what it is.  Both get the position. -/
def subjectError (asked : String) (position : Option Nat) : Error → Error
  | .unknownSubject message _ _ => .unknownSubject message (some asked) position
  | other => other.withPosition position

/-- The error of an operator that was not found, likewise. -/
def operatorError (asked : String) (position : Option Nat) : Error → Error
  | .unknownOperator message _ _ => .unknownOperator message (some asked) position
  | other => other.withPosition position

/-- Where the reading stops for a subject. -/
def subjectStage (subject : String) : Error → Stage
  | .unknownSubject _ _ _ => .subjectUnknown subject
  | other => .subjectFailed subject other

/-- Where the reading stops for an operator. -/
def operatorStage (subject operator : String) : Error → Stage
  | .unknownOperator _ _ _ => .operatorUnknown subject operator
  | other => .operatorFailed subject operator other

/-- Finds a subject; `refuse` makes the event. -/
def findSubject (resolver : Resolver) (refuse : Stage → Event) (position : Option Nat)
    (asked : String) : Logged Subject :=
  match resolver asked with
  | .ok subject => .pure subject
  | .error error =>
    .refuse (refuse (subjectStage asked error)) (subjectError asked position error)

/-- Finds an operator of a subject. -/
def findOperator (subject : Subject) (refuse : Stage → Event) (position : Option Nat)
    (subjectId asked : String) : Logged Operator :=
  match subject.operator asked with
  | .ok operator => .pure operator
  | .error error =>
    .refuse (refuse (operatorStage subjectId asked error)) (operatorError asked position error)

/-- Reads the operand of an operator that takes one. -/
def readOperand (codec : Codec) (refuse : Stage → Event) (position : Option Nat)
    (subjectId operatorId : String) (raw : Option Json) : Logged (Operand × Json) :=
  match raw with
  | none =>
    .refuse (refuse (.operandMissing subjectId operatorId))
      ((Error.rejected .missing).withPosition position)
  | some raw =>
    match codec.read raw with
    | .ok operand => .pure (operand, raw)
    | .error error =>
      .refuse (refuse (.operandInvalid subjectId operatorId raw error))
        (error.withPosition position)

/-- Reads a criterion whose subject and operator are found. -/
def readValue (subject : Subject) (operator : Operator) (refuse : Stage → Event)
    (position : Option Nat) (subjectId operatorId : String) (raw : Option Json) :
    Logged Criterion :=
  match operator.codec with
  | none => .pure (withRaw subject operator none none)
  | some codec =>
    (readOperand codec refuse position subjectId operatorId raw).bind fun (operand, raw) =>
      .pure (withRaw subject operator (some operand) (some raw))

/-- **Reads a criterion** from a fragment of a payload, at a position where it has one. -/
def read (resolver : Resolver) (fragment : Json) (position : Option Nat) : Logged Criterion :=
  let refuse stage := Event.criterionRefused stage fragment position
  match fragment.get? "choice", fragment.get? "op" with
  -- The key of the subject is looked for first, whatever the other is.
  | none, _ =>
    .refuse (refuse .subjectMissing) (Error.subjectRequired.withPosition position)
  | some _, none =>
    .refuse (refuse .operatorMissing) (Error.operatorRequired.withPosition position)
  | some subjectKey, some operatorKey =>
    (findSubject resolver refuse position subjectKey.shown).bind fun subject =>
    (findOperator subject refuse position subjectKey.shown operatorKey.shown).bind
      fun operator =>
    readValue subject operator refuse position subjectKey.shown operatorKey.shown
      (fragment.get? "value")

end Criterion

end Sift
