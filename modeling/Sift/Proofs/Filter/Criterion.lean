/-
  Sift.Proofs.Filter.Criterion
  ────────────────────────────
  **What the reading of one criterion gives.**

  A criterion is read in stages, each of which may refuse it with an event.  Two facts carry
  everything that is said about lists of criteria:

      position — it changes no outcome except that it is stamped on the error
      success  — a criterion that was read has the subject, the operator and the operand that
                 its keys resolve to

  Main results:
    * `Criterion.outcome_read_position` — reading at a position is reading at none, and then
      stamping the error.
    * `Criterion.outcome_read_eq_ok_iff` — reading succeeds exactly with what the keys of the
      fragment stand for.
    * `Criterion.outcome_read_toJson_some` — a written criterion is read back by its codec.
-/
import Sift.Filter.Criterion
import Sift.Proofs.Outcome

namespace Sift

open Outcome

/-! ## §1. Errors that have a position -/

namespace Error

/-- The kinds of error that concern one criterion, and so have a position. -/
def isPlaced : Error → Bool
  | unknownSubject _ _ _ | unknownOperator _ _ _ | invalidOperand _ _ _ => true
  | _ => false

/-- **The stamp.**  A position is taken exactly by the errors that have one. -/
theorem position?_withPosition (e : Error) (position : Option Nat) :
    (e.withPosition position).position? = if e.isPlaced then position else none := by
  cases e <;> rfl

@[simp] theorem isPlaced_withPosition (e : Error) (position : Option Nat) :
    (e.withPosition position).isPlaced = e.isPlaced := by
  cases e <;> rfl

end Error

namespace Criterion

theorem subjectError_withPosition (asked : String) (position : Option Nat) (e : Error) :
    (subjectError asked none e).withPosition position = subjectError asked position e := by
  cases e <;> rfl

theorem operatorError_withPosition (asked : String) (position : Option Nat) (e : Error) :
    (operatorError asked none e).withPosition position = operatorError asked position e := by
  cases e <;> rfl

/-! ## §2. Outcomes of the stages -/

section
variable {refuse : Stage → Event} {position : Option Nat}

theorem outcome_findSubject (resolver : Resolver) (asked : String) :
    (findSubject resolver refuse position asked).outcome =
      (resolver asked).mapError (subjectError asked position) := by
  unfold findSubject
  cases resolver asked <;> rfl

theorem outcome_findOperator (subject : Subject) (subjectId asked : String) :
    (findOperator subject refuse position subjectId asked).outcome =
      (subject.operator asked).mapError (operatorError asked position) := by
  unfold findOperator
  cases subject.operator asked <;> rfl

variable {subject : Subject} {operator : Operator} {subjectId operatorId : String}

/-- An operator without a codec takes no operand, whatever is offered. -/
theorem outcome_readValue_bare (bare : operator.codec = none) (raw : Option Json) :
    (readValue subject operator refuse position subjectId operatorId raw).outcome =
      .ok (withRaw subject operator none none) := by
  unfold readValue
  split
  · rfl
  · rename_i codec h
    rw [bare] at h
    cases h

/-- An operator with a codec needs an operand. -/
theorem outcome_readValue_missing {codec : Codec} (taken : operator.codec = some codec) :
    (readValue subject operator refuse position subjectId operatorId none).outcome =
      .error ((Error.rejected .missing).withPosition position) := by
  unfold readValue
  rw [taken]
  rfl

/-- The codec reads the operand, and its error is stamped. -/
theorem outcome_readValue_some {codec : Codec} (taken : operator.codec = some codec)
    (raw : Json) :
    (readValue subject operator refuse position subjectId operatorId (some raw)).outcome =
      ((codec.read raw).mapError (·.withPosition position)).map fun operand =>
        withRaw subject operator (some operand) (some raw) := by
  unfold readValue
  rw [taken]
  show ((readOperand codec refuse position subjectId operatorId (some raw)).bind _).outcome = _
  unfold readOperand
  cases h : codec.read raw <;> simp only [h] <;> rfl

end

/-! ## §3. Position -/

/-- The operand at a position is the operand at none, the error stamped. -/
theorem outcome_readValue_position (subject : Subject) (operator : Operator)
    (refuse refuse' : Stage → Event) (position : Option Nat) (subjectId operatorId : String)
    (raw : Option Json) :
    (readValue subject operator refuse position subjectId operatorId raw).outcome =
      (readValue subject operator refuse' none subjectId operatorId raw).outcome.mapError
        (·.withPosition position) := by
  cases hcodec : operator.codec with
  | none =>
    rw [outcome_readValue_bare hcodec, outcome_readValue_bare hcodec]
    rfl
  | some codec =>
    cases raw with
    | none =>
      rw [outcome_readValue_missing hcodec, outcome_readValue_missing hcodec]
      rfl
    | some raw =>
      rw [outcome_readValue_some hcodec, outcome_readValue_some hcodec]
      cases codec.read raw with
      | ok operand => rfl
      | error e =>
        -- A stamp of no position is overwritten by the one that follows.
        show Except.error (e.withPosition position)
          = Except.error ((e.withPosition none).withPosition position)
        rw [Error.withPosition_withPosition]

/-- **Reading does not depend on the position**, which is only stamped on the error. -/
theorem outcome_read_position (resolver : Resolver) (fragment : Json)
    (position : Option Nat) :
    (read resolver fragment position).outcome =
      (read resolver fragment none).outcome.mapError (·.withPosition position) := by
  unfold read
  split
  · rfl
  · rfl
  · rename_i subjectKey operatorKey _ _
    -- The stamp passes through the stages, and each of them takes it.
    simp only [Logged.outcome_bind, mapError_bind, outcome_findSubject,
      outcome_findOperator, mapError_mapError, subjectError_withPosition,
      operatorError_withPosition]
    congr 1
    funext subject
    congr 1
    funext operator
    exact outcome_readValue_position ..

/-- **Attribution.**  An error that has a position has that of the criterion, whatever position
a resolver, a subject or a codec had put there. -/
theorem position?_of_read {resolver : Resolver} {fragment : Json} {position : Option Nat}
    {error : Error} (h : (read resolver fragment position).outcome = .error error)
    (placed : error.isPlaced) : error.position? = position := by
  rw [outcome_read_position, mapError_eq_error_iff] at h
  obtain ⟨cause, -, rfl⟩ := h
  rw [Error.position?_withPosition, if_pos (by simpa using placed)]

/-! ## §4. Success -/

/-- **A criterion is resolved** where its two identifiers stand for its subject and for its
operator. -/
structure ResolvedBy (resolver : Resolver) (criterion : Criterion) : Prop where
  subject : resolver criterion.subject.id = .ok criterion.subject
  operator : criterion.subject.operator criterion.operator.id = .ok criterion.operator

/-- What the reading of a fragment as a criterion has found. -/
structure ReadFrom (resolver : Resolver) (fragment : Json) (criterion : Criterion) : Prop where
  subject : ∃ key, fragment.get? "choice" = some key
    ∧ resolver key.shown = .ok criterion.subject
  operator : ∃ key, fragment.get? "op" = some key
    ∧ criterion.subject.operator key.shown = .ok criterion.operator
  operand : ∀ codec, criterion.operator.codec = some codec → ∃ raw operand,
    fragment.get? "value" = some raw ∧ codec.read raw = .ok operand
      ∧ criterion.operand = some operand ∧ criterion.raw = some raw

/-- A criterion whose subject and operator are found holds these, and the operand that the
codec reads. -/
theorem readValue_eq_ok {subject : Subject} {operator : Operator} {refuse : Stage → Event}
    {position : Option Nat} {subjectId operatorId : String} {raw : Option Json}
    {criterion : Criterion}
    (h : (readValue subject operator refuse position subjectId operatorId raw).outcome =
      .ok criterion) :
    criterion.subject = subject ∧ criterion.operator = operator
      ∧ ∀ codec, operator.codec = some codec → ∃ raw' operand, raw = some raw'
        ∧ codec.read raw' = .ok operand ∧ criterion.operand = some operand
        ∧ criterion.raw = some raw' := by
  cases hcodec : operator.codec with
  | none =>
    rw [outcome_readValue_bare hcodec, Except.ok.injEq] at h
    subst h
    exact ⟨subject_withRaw .., operator_withRaw .., by simp⟩
  | some codec =>
    cases raw with
    | none =>
      rw [outcome_readValue_missing hcodec] at h
      cases h
    | some raw =>
      rw [outcome_readValue_some hcodec, map_eq_ok_iff] at h
      obtain ⟨operand, hread, rfl⟩ := h
      rw [mapError_eq_ok_iff] at hread
      refine ⟨subject_withRaw .., operator_withRaw .., ?_⟩
      intro other same
      cases same
      exact ⟨raw, operand, rfl, hread, by simp [hcodec], by simp [hcodec]⟩

/-- **A success has found everything** that the keys of the fragment stand for. -/
theorem readFrom_of_read {resolver : Resolver} {fragment : Json} {position : Option Nat}
    {criterion : Criterion} (h : (read resolver fragment position).outcome = .ok criterion) :
    ReadFrom resolver fragment criterion := by
  unfold read at h
  split at h
  · cases h
  · cases h
  · -- Both keys are there; the three steps that follow must all have succeeded.
    rename_i subjectKey operatorKey hsubjectKey hoperatorKey
    simp only [Logged.outcome_bind, outcome_findSubject, outcome_findOperator, bind_eq_ok_iff,
      mapError_eq_ok_iff] at h
    obtain ⟨subject, hsubject, operator, hoperator, hvalue⟩ := h
    obtain ⟨rfl, rfl, hoperand⟩ := readValue_eq_ok hvalue
    exact ⟨⟨subjectKey, hsubjectKey, hsubject⟩, ⟨operatorKey, hoperatorKey, hoperator⟩,
      hoperand⟩

/-- A fragment whose keys lead to a subject and to an operator of it goes on to the operand. -/
theorem outcome_read_found {resolver : Resolver} {fragment subjectKey operatorKey : Json}
    {subject : Subject} {operator : Operator}
    (hsubjectKey : fragment.get? "choice" = some subjectKey)
    (hsubject : resolver subjectKey.shown = .ok subject)
    (hoperatorKey : fragment.get? "op" = some operatorKey)
    (hoperator : subject.operator operatorKey.shown = .ok operator) (position : Option Nat) :
    (read resolver fragment position).outcome =
      (readValue subject operator (Event.criterionRefused · fragment position) position
        subjectKey.shown operatorKey.shown (fragment.get? "value")).outcome := by
  unfold read
  simp only [hsubjectKey, hoperatorKey, Logged.outcome_bind, outcome_findSubject,
    outcome_findOperator, hsubject]
  show (Except.bind ((subject.operator operatorKey.shown).mapError _) _) = _
  rw [hoperator]
  rfl

/-- A criterion is made of its parts. -/
theorem withRaw_self (criterion : Criterion) :
    withRaw criterion.subject criterion.operator criterion.operand criterion.raw =
      criterion := by
  obtain ⟨subject, operator, operand, raw, bare⟩ := criterion
  unfold withRaw
  split
  · rfl
  · rename_i none
    obtain ⟨rfl, rfl⟩ := bare none
    rfl

/-- **The reading of a fragment succeeds exactly with what its keys stand for**, at every
position alike. -/
theorem outcome_read_eq_ok_iff {resolver : Resolver} {fragment : Json} {criterion : Criterion}
    (position : Option Nat) :
    (read resolver fragment position).outcome = .ok criterion ↔
      ReadFrom resolver fragment criterion := by
  constructor
  · exact readFrom_of_read
  · intro h
    obtain ⟨subjectKey, hsubjectKey, hsubject⟩ := h.subject
    obtain ⟨operatorKey, hoperatorKey, hoperator⟩ := h.operator
    rw [outcome_read_found hsubjectKey hsubject hoperatorKey hoperator]
    have parts := withRaw_self criterion
    cases taken : criterion.operator.codec with
    | none =>
      -- Without a codec the criterion keeps neither an operand nor a raw value.
      obtain ⟨noOperand, noRaw⟩ := criterion.bare taken
      rw [noOperand, noRaw] at parts
      rw [outcome_readValue_bare taken, parts]
    | some codec =>
      obtain ⟨raw, operand, hraw, hread, hoperand, hkept⟩ := h.operand codec taken
      rw [hoperand, hkept] at parts
      rw [hraw, outcome_readValue_some taken, hread]
      exact congrArg Except.ok parts

/-! ## §5. Reading what was written -/

/-- The criterion that the payload of `criterion` is read as, where the codec gives
`operand`. -/
def reread (criterion : Criterion) (codec : Codec) (operand : Operand) : Criterion :=
  withRaw criterion.subject criterion.operator (some operand)
    (some (written codec criterion.operand))

/-- The keys of a written criterion lead back to its subject and its operator. -/
theorem outcome_read_toJson {resolver : Resolver} {criterion : Criterion}
    (resolved : criterion.ResolvedBy resolver) (position : Option Nat) :
    (read resolver criterion.toJson position).outcome =
      (readValue criterion.subject criterion.operator
        (Event.criterionRefused · criterion.toJson position) position criterion.subject.id
        criterion.operator.id (criterion.toJson.get? "value")).outcome := by
  exact outcome_read_found (get?_choice_toJson criterion) resolved.subject
    (get?_op_toJson criterion) resolved.operator position

/-- Without a codec, a written criterion is read back without operand. -/
theorem outcome_read_toJson_bare {resolver : Resolver} {criterion : Criterion}
    (resolved : criterion.ResolvedBy resolver) (position : Option Nat)
    (bare : criterion.operator.codec = none) :
    (read resolver criterion.toJson position).outcome =
      .ok (withRaw criterion.subject criterion.operator none none) := by
  rw [outcome_read_toJson resolved, outcome_readValue_bare bare]

/-- **With a codec, a written criterion is read back as the codec reads what it wrote**, null
where there was no operand. -/
theorem outcome_read_toJson_some {resolver : Resolver} {criterion : Criterion}
    (resolved : criterion.ResolvedBy resolver) (position : Option Nat) {codec : Codec}
    (taken : criterion.operator.codec = some codec) :
    (read resolver criterion.toJson position).outcome =
      ((codec.read (written codec criterion.operand)).mapError (·.withPosition position)).map
        (criterion.reread codec) := by
  rw [outcome_read_toJson resolved, get?_value_toJson, taken, Option.map_some,
    outcome_readValue_some taken]
  rfl

end Criterion

end Sift
