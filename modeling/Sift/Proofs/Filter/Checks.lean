/-
  Sift.Proofs.Filter.Checks
  ─────────────────────────
  **The checks of one criterion, and the first that fails.**

  A fragment goes through six checks in a fixed order:

      subjectKey   — it has a key for the subject
      operatorKey  — it has a key for the operator
      subject      — the resolver knows the subject asked for
      operator     — that subject knows the operator asked for
      operandKey   — it has a key for the operand, where the operator takes one
      operand      — the operator's codec reads what is there

  `FailsAt` says of each check by itself when it fails and with what error, `SameInput` what it is
  given.  Reading reports the first check that fails, and what later checks are given has no part
  in that.

  Main results:
    * `Criterion.outcome_of_firstFailing` — the first check that fails gives the error.
    * `Criterion.FirstFailing.transfer` — it fails first wherever the checks up to it are given
      the same.
    * `Criterion.read_reports_first_failing_check` — both, as an exact account of the reading.
-/
import Sift.Proofs.Filter.Criterion

namespace Sift

open Outcome

/-! ## §1. Errors that are passed on -/

/-- **An error is passed on** from a position: its kind, its message, its identifier and its code
stay, and where its kind has a position, that is replaced. -/
inductive Error.PassedOn (position : Option Nat) : Error → Error → Prop
  | unknownSubject {message : String} {id : Option String} {before : Option Nat} :
      PassedOn position (.unknownSubject message id before) (.unknownSubject message id position)
  | unknownOperator {message : String} {id : Option String} {before : Option Nat} :
      PassedOn position (.unknownOperator message id before)
        (.unknownOperator message id position)
  | invalidOperand {message : String} {code : Option String} {before : Option Nat} :
      PassedOn position (.invalidOperand message code before)
        (.invalidOperand message code position)
  | unplaced {cause : Error} (unplaced : cause.isPlaced = false) : PassedOn position cause cause

theorem Error.passedOn_iff {position : Option Nat} {cause error : Error} :
    cause.PassedOn position error ↔ error = cause.withPosition position := by
  constructor
  · intro h
    cases h with
    | unknownSubject | unknownOperator | invalidOperand => rfl
    -- The other errors have no place for a position.
    | unplaced unplaced => cases cause <;> first | rfl | cases unplaced
  · rintro rfl
    cases cause with
    | unknownSubject => exact .unknownSubject
    | unknownOperator => exact .unknownOperator
    | invalidOperand => exact .invalidOperand
    | _ => exact .unplaced rfl

namespace Criterion

/-! ## §2. The checks -/

/-- A check of the reading of a criterion. -/
inductive Check where
  | subjectKey
  | operatorKey
  | subject
  | operator
  | operandKey
  | operand
deriving DecidableEq

/-- The place of a check in their order. -/
def Check.rank : Check → Nat
  | subjectKey => 0
  | operatorKey => 1
  | subject => 2
  | operator => 3
  | operandKey => 4
  | operand => 5

/-- **A fragment asks for an identifier** under a key: a text for itself, and any other value for
its JSON text. -/
def Asks (fragment : Json) (key asked : String) : Prop :=
  fragment.get? key = some (.str asked)
    ∨ ∃ value, fragment.get? key = some value ∧ value.str? = none ∧ asked = value.text

/-- The subject that the fragment asks for is found. -/
def FindsSubject (resolver : Resolver) (fragment : Json) (subject : Subject) : Prop :=
  ∃ asked, Asks fragment "choice" asked ∧ resolver asked = .ok subject

/-- So is the operator, with the subject that it is asked of. -/
def FindsOperator (resolver : Resolver) (fragment : Json) (operator : Operator) : Prop :=
  ∃ subject asked, FindsSubject resolver fragment subject ∧ Asks fragment "op" asked
    ∧ subject.operator asked = .ok operator

/-- **A check fails**, with an error.  A subject or an operator that is unknown is reported under
the identifier asked for; every other error is passed on. -/
inductive FailsAt (resolver : Resolver) (fragment : Json) (position : Option Nat) :
    Check → Error → Prop
  | subjectKey (missing : fragment.get? "choice" = none) :
      FailsAt resolver fragment position .subjectKey
        (.unknownSubject "必须指定条件字段" none position)
  | operatorKey (missing : fragment.get? "op" = none) :
      FailsAt resolver fragment position .operatorKey
        (.unknownOperator "必须指定操作符" none position)
  | subjectUnknown {asked message : String} {id : Option String} {before : Option Nat}
      (asks : Asks fragment "choice" asked)
      (answer : resolver asked = .error (.unknownSubject message id before)) :
      FailsAt resolver fragment position .subject (.unknownSubject message (some asked) position)
  | subjectFailed {asked : String} {cause error : Error} (asks : Asks fragment "choice" asked)
      (answer : resolver asked = .error cause)
      (other : ∀ message id before, cause ≠ .unknownSubject message id before)
      (passedOn : cause.PassedOn position error) :
      FailsAt resolver fragment position .subject error
  | operatorUnknown {subject : Subject} {asked message : String} {id : Option String}
      {before : Option Nat} (found : FindsSubject resolver fragment subject)
      (asks : Asks fragment "op" asked)
      (answer : subject.operator asked = .error (.unknownOperator message id before)) :
      FailsAt resolver fragment position .operator
        (.unknownOperator message (some asked) position)
  | operatorFailed {subject : Subject} {asked : String} {cause error : Error}
      (found : FindsSubject resolver fragment subject) (asks : Asks fragment "op" asked)
      (answer : subject.operator asked = .error cause)
      (other : ∀ message id before, cause ≠ .unknownOperator message id before)
      (passedOn : cause.PassedOn position error) :
      FailsAt resolver fragment position .operator error
  | operandKey {operator : Operator} {codec : Codec}
      (found : FindsOperator resolver fragment operator) (takes : operator.codec = some codec)
      (missing : fragment.get? "value" = none) :
      FailsAt resolver fragment position .operandKey
        (.invalidOperand "必须提供值" (some "required") position)
  | operand {operator : Operator} {codec : Codec} {raw : Json} {cause error : Error}
      (found : FindsOperator resolver fragment operator) (takes : operator.codec = some codec)
      (given : fragment.get? "value" = some raw) (answer : codec.read raw = .error cause)
      (passedOn : cause.PassedOn position error) :
      FailsAt resolver fragment position .operand error

/-- **The check fails and no earlier one does.** -/
def FirstFailing (resolver : Resolver) (fragment : Json) (position : Option Nat) (check : Check)
    (error : Error) : Prop :=
  FailsAt resolver fragment position check error
    ∧ ∀ earlier other, earlier.rank < check.rank →
        ¬ FailsAt resolver fragment position earlier other

/-! ## §3. What is asked and found -/

section
variable {resolver : Resolver} {fragment : Json}

theorem asks_iff {key asked : String} :
    Asks fragment key asked ↔ ∃ value, fragment.get? key = some value ∧ value.shown = asked := by
  constructor
  · intro h
    rcases h with text | ⟨value, given, noText, rfl⟩
    · exact ⟨_, text, rfl⟩
    · refine ⟨value, given, ?_⟩
      cases value <;> first | rfl | cases noText
  · rintro ⟨value, given, rfl⟩
    cases value with
    | str s => exact Or.inl given
    | _ => exact Or.inr ⟨_, given, rfl, rfl⟩

/-- A key that is there asks for something. -/
theorem exists_asks_iff {key : String} :
    (∃ asked, Asks fragment key asked) ↔ fragment.get? key ≠ none := by
  simp only [asks_iff, Option.ne_none_iff_exists']
  constructor
  · intro h
    obtain ⟨asked, value, given, -⟩ := h
    exact ⟨value, given⟩
  · intro h
    obtain ⟨value, given⟩ := h
    exact ⟨_, value, given, rfl⟩

theorem Asks.unique {key asked other : String} (h : Asks fragment key asked)
    (h' : Asks fragment key other) : asked = other := by
  obtain ⟨value, given, rfl⟩ := asks_iff.1 h
  obtain ⟨value', given', rfl⟩ := asks_iff.1 h'
  rw [given, Option.some.injEq] at given'
  rw [given']

theorem FindsSubject.unique {subject other : Subject} (h : FindsSubject resolver fragment subject)
    (h' : FindsSubject resolver fragment other) : subject = other := by
  obtain ⟨asked, asks, found⟩ := h
  obtain ⟨asked', asks', found'⟩ := h'
  rw [asks.unique asks', found', Except.ok.injEq] at found
  exact found.symm

/-! ## §4. The errors of the checks -/

variable {position : Option Nat} {error : Error}

/-- The check of the subject reports as the reading does. -/
theorem failsAt_subject_iff :
    FailsAt resolver fragment position .subject error ↔ ∃ asked cause,
      Asks fragment "choice" asked ∧ resolver asked = .error cause
        ∧ error = subjectError asked position cause := by
  constructor
  · intro h
    cases h with
    | subjectUnknown asks answer => exact ⟨_, _, asks, answer, rfl⟩
    | @subjectFailed asked cause _ asks answer other passedOn =>
      -- The error of a subject that is unknown is replaced; any other is passed on.
      refine ⟨asked, cause, asks, answer, (Error.passedOn_iff.1 passedOn).trans ?_⟩
      unfold subjectError
      split
      · exact absurd rfl (other _ _ _)
      · rfl
  · rintro ⟨asked, cause, asks, answer, rfl⟩
    unfold subjectError
    split
    · exact .subjectUnknown asks answer
    · rename_i other
      exact .subjectFailed asks answer other (Error.passedOn_iff.2 rfl)

/-- So does that of the operator. -/
theorem failsAt_operator_iff :
    FailsAt resolver fragment position .operator error ↔ ∃ subject asked cause,
      FindsSubject resolver fragment subject ∧ Asks fragment "op" asked
        ∧ subject.operator asked = .error cause ∧ error = operatorError asked position cause := by
  constructor
  · intro h
    cases h with
    | operatorUnknown found asks answer => exact ⟨_, _, _, found, asks, answer, rfl⟩
    | @operatorFailed subject asked cause _ found asks answer other passedOn =>
      -- As for the subject: only the answer that it is unknown is replaced.
      refine ⟨subject, asked, cause, found, asks, answer,
        (Error.passedOn_iff.1 passedOn).trans ?_⟩
      unfold operatorError
      split
      · exact absurd rfl (other _ _ _)
      · rfl
  · rintro ⟨subject, asked, cause, found, asks, answer, rfl⟩
    unfold operatorError
    split
    · exact .operatorUnknown found asks answer
    · rename_i other
      exact .operatorFailed found asks answer other (Error.passedOn_iff.2 rfl)

/-! ## §5. The first check that fails -/

/-- Where some check fails, some check fails first. -/
theorem exists_firstFailing {check : Check}
    (fails : FailsAt resolver fragment position check error) :
    ∃ first other, FirstFailing resolver fragment position first other := by
  -- Strong induction on the place of the check.
  induction n : check.rank using Nat.strongRecOn generalizing check error with
  | ind n ih =>
    by_cases earlier : ∃ other cause, other.rank < check.rank
        ∧ FailsAt resolver fragment position other cause
    · obtain ⟨other, cause, before, fails'⟩ := earlier
      exact ih other.rank (n ▸ before) fails' rfl
    · refine ⟨check, error, fails, ?_⟩
      intro other cause before fails'
      exact earlier ⟨other, cause, before, fails'⟩

/-- Two keys that are there lead to what the resolver and the subject answer. -/
theorem outcome_read_asks {subjectId operatorId : String}
    (asksSubject : Asks fragment "choice" subjectId) (asksOperator : Asks fragment "op" operatorId) :
    (read resolver fragment position).outcome =
      ((resolver subjectId).mapError (subjectError subjectId position)).bind fun subject =>
      ((subject.operator operatorId).mapError (operatorError operatorId position)).bind
        fun operator =>
      (readValue subject operator (Event.criterionRefused · fragment position) position subjectId
        operatorId (fragment.get? "value")).outcome := by
  obtain ⟨subjectKey, hsubjectKey, rfl⟩ := asks_iff.1 asksSubject
  obtain ⟨operatorKey, hoperatorKey, rfl⟩ := asks_iff.1 asksOperator
  unfold read
  simp only [hsubjectKey, hoperatorKey, Logged.outcome_bind, outcome_findSubject,
    outcome_findOperator]

/-- Once subject and operator are found, only the operand is left to read. -/
theorem exists_outcome_of_finds {subject : Subject} {operator : Operator}
    (found : FindsSubject resolver fragment subject)
    (finds : FindsOperator resolver fragment operator) (position : Option Nat) :
    ∃ subjectId operatorId, (read resolver fragment position).outcome =
      (readValue subject operator (Event.criterionRefused · fragment position) position subjectId
        operatorId (fragment.get? "value")).outcome := by
  obtain ⟨subject', operatorId, ⟨subjectId, asksSubject, hsubject⟩, asksOperator,
    hoperator⟩ := finds
  -- The operator is asked of the subject that was found.
  obtain rfl := found.unique ⟨subjectId, asksSubject, hsubject⟩
  refine ⟨subjectId, operatorId, ?_⟩
  rw [outcome_read_asks asksSubject asksOperator, hsubject]
  show ((subject.operator operatorId).mapError _).bind _ = _
  rw [hoperator]
  rfl

/-- The operator alone tells of which subject it was asked. -/
theorem exists_outcome_readValue {operator : Operator}
    (found : FindsOperator resolver fragment operator) (position : Option Nat) :
    ∃ subject subjectId operatorId, (read resolver fragment position).outcome =
      (readValue subject operator (Event.criterionRefused · fragment position) position subjectId
        operatorId (fragment.get? "value")).outcome := by
  obtain ⟨subject, asked, findsSubject, asks, hoperator⟩ := found
  exact ⟨subject, exists_outcome_of_finds findsSubject
    ⟨subject, asked, findsSubject, asks, hoperator⟩ position⟩

/-- **The first check that fails gives the error.** -/
theorem outcome_of_firstFailing {check : Check}
    (first : FirstFailing resolver fragment position check error) :
    (read resolver fragment position).outcome = .error error := by
  obtain ⟨fails, passes⟩ := first
  -- An earlier check that does not fail for want of a key has the key.
  have asksSubject (later : 0 < check.rank) : ∃ asked, Asks fragment "choice" asked :=
    exists_asks_iff.2 fun missing => passes .subjectKey _ later (.subjectKey missing)
  have asksOperator (later : 1 < check.rank) : ∃ asked, Asks fragment "op" asked :=
    exists_asks_iff.2 fun missing => passes .operatorKey _ later (.operatorKey missing)
  cases check with
  | subjectKey =>
    cases fails with
    | subjectKey missing =>
      unfold read
      simp only [missing]
      rfl
  | operatorKey =>
    cases fails with
    | operatorKey missing =>
      obtain ⟨asked, asks⟩ := asksSubject (by decide)
      obtain ⟨key, given, -⟩ := asks_iff.1 asks
      unfold read
      simp only [given, missing]
      rfl
  | subject =>
    obtain ⟨asked, cause, asks, answer, rfl⟩ := failsAt_subject_iff.1 fails
    obtain ⟨operatorId, asksOperator⟩ := asksOperator (by decide)
    rw [outcome_read_asks asks asksOperator, answer]
    rfl
  | operator =>
    obtain ⟨subject, asked, cause, found, asks, answer, rfl⟩ := failsAt_operator_iff.1 fails
    obtain ⟨subjectId, asksSubject, hsubject⟩ := found
    rw [outcome_read_asks asksSubject asks, hsubject]
    show ((subject.operator asked).mapError _).bind _ = _
    rw [answer]
    rfl
  | operandKey =>
    cases fails with
    | operandKey found takes missing =>
      obtain ⟨_, _, _, reads⟩ := exists_outcome_readValue found position
      rw [reads, missing, outcome_readValue_missing takes]
      rfl
  | operand =>
    cases fails with
    | operand found takes given answer passedOn =>
      obtain ⟨_, _, _, reads⟩ := exists_outcome_readValue found position
      rw [reads, given, outcome_readValue_some takes, answer, Error.passedOn_iff.1 passedOn]
      rfl

/-- **Where no check fails, the criterion is read.** -/
theorem exists_outcome_of_passes
    (passes : ∀ check error, ¬ FailsAt resolver fragment position check error) :
    ∃ criterion, (read resolver fragment position).outcome = .ok criterion := by
  -- The checks in their order; what one has found is where the next one looks.
  obtain ⟨subjectId, asksSubject⟩ := exists_asks_iff.2 fun missing =>
    passes _ _ (.subjectKey missing)
  obtain ⟨operatorId, asksOperator⟩ := exists_asks_iff.2 fun missing =>
    passes _ _ (.operatorKey missing)
  cases hsubject : resolver subjectId with
  | error cause =>
    exact absurd (failsAt_subject_iff.2 ⟨_, _, asksSubject, hsubject, rfl⟩) (passes _ _)
  | ok subject =>
    have findsSubject : FindsSubject resolver fragment subject := ⟨_, asksSubject, hsubject⟩
    cases hoperator : subject.operator operatorId with
    | error cause =>
      exact absurd (failsAt_operator_iff.2 ⟨_, _, _, findsSubject, asksOperator, hoperator, rfl⟩)
        (passes _ _)
    | ok operator =>
      have found : FindsOperator resolver fragment operator :=
        ⟨_, _, findsSubject, asksOperator, hoperator⟩
      -- From here on the reading is the reading of the operand.
      obtain ⟨_, _, _, reads⟩ := exists_outcome_readValue found position
      cases takes : operator.codec with
      | none => exact ⟨_, reads.trans (outcome_readValue_bare takes _)⟩
      | some codec =>
        cases given : fragment.get? "value" with
        | none => exact absurd (.operandKey found takes given) (passes _ _)
        | some raw =>
          cases answer : codec.read raw with
          | error cause =>
            exact absurd (.operand found takes given answer (Error.passedOn_iff.2 rfl))
              (passes _ _)
          | ok operand =>
            rw [given, outcome_readValue_some takes, answer] at reads
            exact ⟨_, reads⟩

/-- Reading fails with an error exactly when some check fails first with it. -/
theorem outcome_read_eq_error_iff_firstFailing :
    (read resolver fragment position).outcome = .error error ↔
      ∃ check, FirstFailing resolver fragment position check error := by
  constructor
  · intro h
    by_cases fails : ∃ check cause, FailsAt resolver fragment position check cause
    · obtain ⟨check, cause, fails⟩ := fails
      -- Of the checks that fail the first one reports, and reading has one outcome.
      obtain ⟨first, other, h'⟩ := exists_firstFailing fails
      rw [outcome_of_firstFailing h', Except.error.injEq] at h
      exact ⟨first, h ▸ h'⟩
    · obtain ⟨criterion, success⟩ := exists_outcome_of_passes fun check cause h =>
        fails ⟨check, cause, h⟩
      rw [h] at success
      cases success
  · intro h
    obtain ⟨check, first⟩ := h
    exact outcome_of_firstFailing first

/-- Reading succeeds exactly when no check fails. -/
theorem exists_outcome_eq_ok_iff :
    (∃ criterion, (read resolver fragment position).outcome = .ok criterion) ↔
      ∀ check error, ¬ FailsAt resolver fragment position check error := by
  constructor
  · intro h check cause fails
    obtain ⟨criterion, success⟩ := h
    obtain ⟨first, other, h'⟩ := exists_firstFailing fails
    rw [outcome_of_firstFailing h'] at success
    cases success
  · exact exists_outcome_of_passes

/-- **What is there goes to the codec**, null included, and the operand is what the codec reads. -/
theorem exists_operand_iff {operator : Operator} {codec : Codec} {raw : Json}
    (found : FindsOperator resolver fragment operator) (takes : operator.codec = some codec)
    (given : fragment.get? "value" = some raw) (operand : Operand) :
    (∃ criterion, (read resolver fragment position).outcome = .ok criterion
        ∧ criterion.operand = some operand) ↔
      codec.read raw = .ok operand := by
  obtain ⟨subject, _, _, reads⟩ := exists_outcome_readValue found position
  rw [reads, given, outcome_readValue_some takes]
  -- With a codec the operand of the criterion is the one that was read.
  have kept (other : Operand) :
      (withRaw subject operator (some other) (some raw)).operand = some other := by
    simp [takes]
  constructor
  · intro h
    obtain ⟨criterion, success, same⟩ := h
    obtain ⟨other, answer, rfl⟩ := map_eq_ok_iff.1 success
    rw [kept, Option.some.injEq] at same
    exact same ▸ mapError_eq_ok_iff.1 answer
  · intro answer
    exact ⟨_, map_eq_ok_iff.2 ⟨operand, mapError_eq_ok_iff.2 answer, rfl⟩, kept operand⟩

end

/-! ## §6. What the checks are given -/

/-- Two answers fail alike: with the same error, or neither does. -/
def FailAlike {α β : Type} (answer : Except Error α) (other : Except Error β) : Prop :=
  ∀ cause, answer = .error cause ↔ other = .error cause

/-- **Two readings give a check the same input.**  A check of a key is given whether the key is
there; one of a subject or of an operator the identifier and the answer to it, and no more of
what is found than that; one of an operand the answer of the codec. -/
def SameInput (resolver resolver' : Resolver) (fragment fragment' : Json) : Check → Prop
  | .subjectKey => fragment.get? "choice" = none ↔ fragment'.get? "choice" = none
  | .operatorKey => fragment.get? "op" = none ↔ fragment'.get? "op" = none
  -- What was asked is the same, not only that something was.
  | .subject => ∀ asked asked', Asks fragment "choice" asked → Asks fragment' "choice" asked' →
      asked = asked' ∧ FailAlike (resolver asked) (resolver' asked')
  | .operator => ∀ subject subject' asked asked', FindsSubject resolver fragment subject →
      FindsSubject resolver' fragment' subject' → Asks fragment "op" asked →
      Asks fragment' "op" asked' →
      asked = asked' ∧ FailAlike (subject.operator asked) (subject'.operator asked')
  -- Only the keys count here, and only where an operand is needed.
  | .operandKey => ∀ operator operator', FindsOperator resolver fragment operator →
      FindsOperator resolver' fragment' operator' →
      operator.codec.isSome = operator'.codec.isSome
        ∧ (operator.codec.isSome = true →
          (fragment.get? "value" = none ↔ fragment'.get? "value" = none))
  | .operand => ∀ operator operator' codec codec' raw raw',
      FindsOperator resolver fragment operator → FindsOperator resolver' fragment' operator' →
      operator.codec = some codec → operator'.codec = some codec' →
      fragment.get? "value" = some raw → fragment'.get? "value" = some raw' →
      FailAlike (codec.read raw) (codec'.read raw')

/-- The checks up to one are given the same. -/
def SameUpTo (resolver resolver' : Resolver) (fragment fragment' : Json) (check : Check) : Prop :=
  ∀ earlier, earlier.rank ≤ check.rank → SameInput resolver resolver' fragment fragment' earlier

section
variable {resolver resolver' : Resolver} {fragment fragment' : Json}

theorem FailAlike.symm {α β : Type} {answer : Except Error α} {other : Except Error β}
    (h : FailAlike answer other) : FailAlike other answer :=
  fun cause => (h cause).symm

/-- Where one answer is a success, so is one that fails alike. -/
theorem FailAlike.exists_ok {α β : Type} {answer : Except Error α} {other : Except Error β}
    (h : FailAlike answer other) {a : α} (success : answer = .ok a) : ∃ b, other = .ok b := by
  cases other with
  | ok b => exact ⟨b, rfl⟩
  | error cause =>
    rw [(h cause).2 rfl] at success
    cases success

theorem SameInput.symm {check : Check} (h : SameInput resolver resolver' fragment fragment' check) :
    SameInput resolver' resolver fragment' fragment check := by
  cases check with
  | subjectKey => exact Iff.symm h
  | operatorKey => exact Iff.symm h
  -- What is asked for must agree first, then the answers.
  | subject =>
    intro asked asked' asks asks'
    obtain ⟨same, alike⟩ := h asked' asked asks' asks
    exact ⟨same.symm, alike.symm⟩
  | operator =>
    intro subject subject' asked asked' found found' asks asks'
    obtain ⟨same, alike⟩ := h subject' subject asked' asked found' found asks' asks
    exact ⟨same.symm, alike.symm⟩
  | operandKey =>
    intro operator operator' found found'
    obtain ⟨same, keys⟩ := h operator' operator found' found
    exact ⟨same.symm, fun takes => (keys (same.trans takes)).symm⟩
  | operand =>
    intro operator operator' codec codec' raw raw' found found' takes takes' given given'
    exact (h operator' operator codec' codec raw' raw found' found takes' takes given' given).symm

theorem SameUpTo.symm {check : Check} (h : SameUpTo resolver resolver' fragment fragment' check) :
    SameUpTo resolver' resolver fragment' fragment check :=
  fun earlier before => (h earlier before).symm

/-- What is the same up to a check is the same up to an earlier one. -/
theorem SameUpTo.of_le {check earlier : Check}
    (h : SameUpTo resolver resolver' fragment fragment' check)
    (before : earlier.rank ≤ check.rank) :
    SameUpTo resolver resolver' fragment fragment' earlier :=
  fun first le => h first (Nat.le_trans le before)

/-- A key that both fragments have, or neither, asks in the one where it does in the other. -/
theorem exists_asks_of_same {key asked : String}
    (same : fragment.get? key = none ↔ fragment'.get? key = none)
    (asks : Asks fragment key asked) : ∃ asked', Asks fragment' key asked' :=
  exists_asks_iff.2 fun missing => exists_asks_iff.1 ⟨asked, asks⟩ (same.2 missing)

/-- The other reading finds a subject too. -/
theorem FindsSubject.transfer {subject : Subject} (h : FindsSubject resolver fragment subject)
    (same : SameUpTo resolver resolver' fragment fragment' .subject) :
    ∃ subject', FindsSubject resolver' fragment' subject' := by
  obtain ⟨asked, asks, found⟩ := h
  obtain ⟨asked', asks'⟩ := exists_asks_of_same (same .subjectKey (by decide)) asks
  obtain ⟨-, alike⟩ := same .subject (by decide) asked asked' asks asks'
  obtain ⟨subject', found'⟩ := alike.exists_ok found
  exact ⟨subject', asked', asks', found'⟩

/-- So does it an operator. -/
theorem FindsOperator.transfer {operator : Operator}
    (h : FindsOperator resolver fragment operator)
    (same : SameUpTo resolver resolver' fragment fragment' .operator) :
    ∃ operator', FindsOperator resolver' fragment' operator' := by
  obtain ⟨subject, asked, findsSubject, asks, found⟩ := h
  obtain ⟨subject', findsSubject'⟩ := findsSubject.transfer (same.of_le (by decide))
  obtain ⟨asked', asks'⟩ := exists_asks_of_same (same .operatorKey (by decide)) asks
  obtain ⟨-, alike⟩ := same .operator (by decide) subject subject' asked asked' findsSubject
    findsSubject' asks asks'
  obtain ⟨operator', found'⟩ := alike.exists_ok found
  exact ⟨operator', subject', asked', findsSubject', asks', found'⟩

/-- **A check fails alike** wherever the checks up to it are given the same. -/
theorem FailsAt.transfer {position : Option Nat} {check : Check} {error : Error}
    (h : FailsAt resolver fragment position check error)
    (same : SameUpTo resolver resolver' fragment fragment' check) :
    FailsAt resolver' fragment' position check error := by
  cases check with
  | subjectKey =>
    cases h with
    | subjectKey missing => exact .subjectKey ((same .subjectKey (by decide)).1 missing)
  | operatorKey =>
    cases h with
    | operatorKey missing => exact .operatorKey ((same .operatorKey (by decide)).1 missing)
  | subject =>
    -- That the other fragment names a subject is the same input of an earlier check.
    obtain ⟨asked, cause, asks, answer, rfl⟩ := failsAt_subject_iff.1 h
    obtain ⟨asked', asks'⟩ := exists_asks_of_same (same .subjectKey (by decide)) asks
    obtain ⟨rfl, alike⟩ := same .subject (by decide) asked asked' asks asks'
    exact failsAt_subject_iff.2 ⟨_, _, asks', (alike cause).1 answer, rfl⟩
  | operator =>
    obtain ⟨subject, asked, cause, found, asks, answer, rfl⟩ := failsAt_operator_iff.1 h
    obtain ⟨subject', found'⟩ := found.transfer (same.of_le (by decide))
    obtain ⟨asked', asks'⟩ := exists_asks_of_same (same .operatorKey (by decide)) asks
    obtain ⟨rfl, alike⟩ := same .operator (by decide) subject subject' asked asked' found found'
      asks asks'
    exact failsAt_operator_iff.2 ⟨_, _, _, found', asks', (alike cause).1 answer, rfl⟩
  | operandKey =>
    cases h with
    | @operandKey operator codec found takes missing =>
      obtain ⟨operator', found'⟩ := found.transfer (same.of_le (by decide))
      obtain ⟨sameTaking, keys⟩ := same .operandKey (by decide) operator operator' found found'
      have isSome : operator.codec.isSome = true := by rw [takes]; rfl
      obtain ⟨codec', takes'⟩ := Option.isSome_iff_exists.1 (sameTaking ▸ isSome)
      exact .operandKey found' takes' ((keys isSome).1 missing)
  | operand =>
    cases h with
    | @operand operator codec raw cause _ found takes given answer passedOn =>
      obtain ⟨operator', found'⟩ := found.transfer (same.of_le (by decide))
      obtain ⟨sameTaking, keys⟩ := same .operandKey (by decide) operator operator' found found'
      have isSome : operator.codec.isSome = true := by rw [takes]; rfl
      obtain ⟨codec', takes'⟩ := Option.isSome_iff_exists.1 (sameTaking ▸ isSome)
      -- The other fragment has a value too, since the key was checked before.
      have there : fragment'.get? "value" ≠ none := by
        intro missing
        rw [(keys isSome).2 missing] at given
        cases given
      obtain ⟨raw', given'⟩ := Option.ne_none_iff_exists'.1 there
      have alike := same .operand (by decide) operator operator' codec codec' raw raw' found found'
        takes takes' given given'
      exact .operand found' takes' given' ((alike cause).1 answer) passedOn

/-- **What later checks are given does not matter**: the check that fails first in one reading
fails first, with the same error, wherever the checks up to it are given the same. -/
theorem FirstFailing.transfer {position : Option Nat} {check : Check} {error : Error}
    (h : FirstFailing resolver fragment position check error)
    (same : SameUpTo resolver resolver' fragment fragment' check) :
    FirstFailing resolver' fragment' position check error := by
  obtain ⟨fails, passes⟩ := h
  refine ⟨fails.transfer same, ?_⟩
  -- An earlier failure of the other reading would be one of this reading.
  intro earlier other before fails'
  exact passes earlier other before (fails'.transfer (same.of_le (Nat.le_of_lt before)).symm)

end

/-! ## §7. The account of a reading -/

/-- **THE FIRST CHECK THAT FAILS, AND NOTHING AFTER IT.**  For every resolver, whatever its
subjects, operators and codecs answer, every fragment and every position: a criterion is read
exactly when none of the six checks fails, and an error is that of the first check that fails, in
their order.  Whatever differs only in what later checks are given is refused with the same error.
A value that is there, null included, goes to the codec of the operator that is found, and the
operand is what the codec reads. -/
theorem read_reports_first_failing_check (resolver : Resolver) (fragment : Json)
    (position : Option Nat) :
    ((∃ criterion, (read resolver fragment position).outcome = .ok criterion) ↔
      ∀ check error, ¬ FailsAt resolver fragment position check error)
    ∧ (∀ error, (read resolver fragment position).outcome = .error error ↔
        ∃ check, FirstFailing resolver fragment position check error)
    ∧ (∀ check error resolver' fragment', FirstFailing resolver fragment position check error →
        SameUpTo resolver resolver' fragment fragment' check →
        (read resolver' fragment' position).outcome = .error error)
    ∧ ∀ operator codec raw, FindsOperator resolver fragment operator →
        operator.codec = some codec → fragment.get? "value" = some raw →
        ∀ operand, (∃ criterion, (read resolver fragment position).outcome = .ok criterion
            ∧ criterion.operand = some operand) ↔
          codec.read raw = .ok operand := by
  refine ⟨exists_outcome_eq_ok_iff, fun error => outcome_read_eq_error_iff_firstFailing, ?_, ?_⟩
  · intro check error resolver' fragment' first same
    exact outcome_of_firstFailing (first.transfer same)
  · intro operator codec raw found takes given operand
    exact exists_operand_iff found takes given operand

end Criterion

end Sift
