/-
  Sift.Proofs.Filter.Relevance
  ────────────────────────────
  **Which keys of a payload matter.**

  Reading asks a payload for its mode and its criteria, a fragment for its subject and its
  operator, and for a value only where these lead to an operator that takes an operand.  Two
  payloads that agree on what is asked are read alike, whatever else they hold:

      fragments that agree  →  the same outcome at every position
                               (`Criterion.outcome_read_of_agree`)
      payloads that agree   →  the same filter or the same error
                               (`Filter.outcome_read_of_agree`)

  Events are not part of this: they show the whole of what was refused.

  Main result: `Filter.read_asks_named_keys_only`.
-/
import Sift.Proofs.Correspondence
import Sift.Proofs.Filter.Reading

namespace Sift

open Outcome

namespace Criterion

/-! ## §1. Fragments -/

/-- **The fragment names a subject and an operator of it**, by what its two keys stand for. -/
def Names (resolver : Resolver) (fragment : Json) (subject : Subject) (operator : Operator) :
    Prop :=
  ∃ subjectKey operatorKey, fragment.get? "choice" = some subjectKey
    ∧ resolver subjectKey.shown = .ok subject ∧ fragment.get? "op" = some operatorKey
    ∧ subject.operator operatorKey.shown = .ok operator

/-- **Two fragments agree**: on the keys of the subject and of the operator, and on the value
where the operator that they name takes an operand. -/
structure Agree (resolver : Resolver) (fragment other : Json) : Prop where
  subject : fragment.get? "choice" = other.get? "choice"
  operator : fragment.get? "op" = other.get? "op"
  value : ∀ subject operator, Names resolver fragment subject operator →
    operator.codec.isSome = true → fragment.get? "value" = other.get? "value"

/-- The operand depends on the raw value only where there is a codec, and never on how a refusal
is reported. -/
theorem outcome_readValue_congr {subject : Subject} {operator : Operator} {raw raw' : Option Json}
    (same : operator.codec.isSome = true → raw = raw') (refuse refuse' : Stage → Event)
    (position : Option Nat) (subjectId operatorId : String) :
    (readValue subject operator refuse position subjectId operatorId raw).outcome =
      (readValue subject operator refuse' position subjectId operatorId raw').outcome := by
  cases taken : operator.codec with
  | none => rw [outcome_readValue_bare taken, outcome_readValue_bare taken]
  | some codec =>
    -- Only now is the raw value asked for; without a codec the two may differ.
    obtain rfl := same (by rw [taken]; rfl)
    cases raw with
    | none => rw [outcome_readValue_missing taken, outcome_readValue_missing taken]
    | some raw => rw [outcome_readValue_some taken, outcome_readValue_some taken]

/-- **Fragments that agree are read alike**, at every position. -/
theorem outcome_read_of_agree {resolver : Resolver} {fragment other : Json}
    (agree : Agree resolver fragment other) (position : Option Nat) :
    (read resolver fragment position).outcome = (read resolver other position).outcome := by
  have subjectKeys := agree.subject
  have operatorKeys := agree.operator
  unfold read
  cases hsubject : fragment.get? "choice" with
  | none =>
    rw [hsubject] at subjectKeys
    simp only [← subjectKeys]
    rfl
  | some subjectKey =>
    rw [hsubject] at subjectKeys
    cases hoperator : fragment.get? "op" with
    | none =>
      rw [hoperator] at operatorKeys
      simp only [← subjectKeys, ← operatorKeys]
      rfl
    | some operatorKey =>
      rw [hoperator] at operatorKeys
      simp only [← subjectKeys, ← operatorKeys, Logged.outcome_bind, outcome_findSubject,
        outcome_findOperator]
      -- Stage by stage, the one goes on with what the other has found.
      refine bind_congr fun subject found => bind_congr fun operator found' => ?_
      have names : Names resolver fragment subject operator :=
        ⟨subjectKey, operatorKey, hsubject, mapError_eq_ok_iff.1 found, hoperator,
          mapError_eq_ok_iff.1 found'⟩
      exact outcome_readValue_congr (agree.value subject operator names) ..

/-- A member that is never asked for changes nothing. -/
theorem agree_insertMember (resolver : Resolver) {key : String} (value : Json)
    (members : List (String × Json)) (notSubject : key ≠ "choice") (notOperator : key ≠ "op")
    (notValue : key ≠ "value") :
    Agree resolver (.obj (Json.insertMember key value members)) (.obj members) where
  subject := by
    show Json.lookup _ _ = _
    rw [Json.lookup_insertMember, if_neg notSubject]
    rfl
  operator := by
    show Json.lookup _ _ = _
    rw [Json.lookup_insertMember, if_neg notOperator]
    rfl
  value _ _ _ _ := by
    show Json.lookup _ _ = _
    rw [Json.lookup_insertMember, if_neg notValue]
    rfl

/-- A value offered to an operator that takes none changes nothing. -/
theorem agree_insertValue {resolver : Resolver} {members : List (String × Json)}
    {subject : Subject} {operator : Operator}
    (names : Names resolver (.obj members) subject operator) (bare : operator.codec = none)
    (value : Json) :
    Agree resolver (.obj members) (.obj (Json.insertMember "value" value members)) where
  subject := by
    show _ = Json.lookup _ _
    rw [Json.lookup_insertMember, if_neg (by decide)]
    rfl
  operator := by
    show _ = Json.lookup _ _
    rw [Json.lookup_insertMember, if_neg (by decide)]
    rfl
  value := by
    -- The keys lead to one operator, and it takes no operand.
    intro other operator' names' takes
    obtain ⟨key, key', hkey, found, hkey', found'⟩ := names
    obtain ⟨again, again', hagain, foundAgain, hagain', foundAgain'⟩ := names'
    rw [hkey, Option.some.injEq] at hagain
    subst hagain
    rw [found, Except.ok.injEq] at foundAgain
    subst foundAgain
    rw [hkey', Option.some.injEq] at hagain'
    subst hagain'
    rw [found', Except.ok.injEq] at foundAgain'
    subst foundAgain'
    rw [bare] at takes
    cases takes

end Criterion

namespace Filter

/-! ## §2. Payloads -/

/-- **Two payloads agree on their criteria**: both have none, or arrays of one length whose
fragments agree one by one, or neither has an array. -/
inductive AgreeOnCriteria (resolver : Resolver) : Option Json → Option Json → Prop
  | absent : AgreeOnCriteria resolver none none
  | items {fragments others : List Json}
      (each : List.Forall₂ (Criterion.Agree resolver) fragments others) :
      AgreeOnCriteria resolver (some (.arr fragments)) (some (.arr others))
  | noArrays {given other : Json} (noArray : given.items? = none)
      (noArray' : other.items? = none) : AgreeOnCriteria resolver (some given) (some other)

/-- **Two payloads agree**: on the mode and on the criteria. -/
structure Agree (resolver : Resolver) (payload other : Json) : Prop where
  mode : payload.get? "mode" = other.get? "mode"
  criteria : AgreeOnCriteria resolver (payload.get? "conditions") (other.get? "conditions")

/-- **Payloads that agree are read alike.** -/
theorem outcome_read_of_agree {resolver : Resolver} {payload other : Json}
    (agree : Agree resolver payload other) :
    (read resolver payload).outcome = (read resolver other).outcome := by
  -- In the order of the checks: the mode, the presence of the criteria, then each criterion.
  have modes := agree.mode
  cases named : Mode.ofJson? (payload.get? "mode") with
  | none =>
    have unnamed : ∀ mode : Mode, payload.get? "mode" ≠ some (.str mode.name) := by
      intro mode h
      rw [Mode.ofJson?_eq_some.2 h] at named
      cases named
    rw [outcome_read_no_mode resolver unnamed, outcome_read_no_mode resolver (modes ▸ unnamed),
      modes]
  | some mode =>
    have named := Mode.ofJson?_eq_some.1 named
    have named' : other.get? "mode" = some (.str mode.name) := modes ▸ named
    have criteria := agree.criteria
    -- The two parts become variables, so that the way they agree can be taken apart.
    generalize given : payload.get? "conditions" = part at criteria
    generalize given' : other.get? "conditions" = part' at criteria
    cases criteria with
    | absent =>
      rw [outcome_read_absent resolver named given, outcome_read_absent resolver named' given']
    | items each =>
      have alike := each.imp fun _ _ agree =>
        fun i => Criterion.outcome_read_of_agree agree (some i)
      rw [outcome_read_array resolver named given, outcome_read_array resolver named' given']
      exact congrArg _ (inOrder_congr alike 0)
    | noArrays noArray noArray' =>
      rw [outcome_read_no_array resolver named given noArray,
        outcome_read_no_array resolver named' given' noArray']

/-- Criteria agree with themselves. -/
theorem agreeOnCriteria_self (resolver : Resolver) (part : Option Json) :
    AgreeOnCriteria resolver part part := by
  cases part with
  | none => exact .absent
  | some given =>
    cases given with
    | arr fragments =>
      exact .items (List.forall₂_same.2 fun _ _ => ⟨rfl, rfl, fun _ _ _ _ => rfl⟩)
    | _ => exact .noArrays rfl rfl

/-- A member of a payload that is never asked for changes nothing. -/
theorem agree_insertMember (resolver : Resolver) {key : String} (value : Json)
    (members : List (String × Json)) (notMode : key ≠ "mode") (notCriteria : key ≠ "conditions") :
    Agree resolver (.obj (Json.insertMember key value members)) (.obj members) where
  mode := by
    show Json.lookup _ _ = _
    rw [Json.lookup_insertMember, if_neg notMode]
    rfl
  criteria := by
    have same : (Json.obj (Json.insertMember key value members)).get? "conditions" =
        (Json.obj members).get? "conditions" := by
      show Json.lookup _ _ = _
      rw [Json.lookup_insertMember, if_neg notCriteria]
      rfl
    rw [same]
    exact agreeOnCriteria_self resolver _

/-- **ONLY THE NAMED KEYS MATTER.**  For every resolver, whatever its subjects, operators and codecs
answer: payloads that agree on what is asked of them are read as the same filter, or refused with
the same error, so that what is read from them is written alike and admits the same data.  In
particular a further member changes nothing, neither in a payload nor in a fragment, and no more
does a value offered to an operator that takes none. -/
theorem read_asks_named_keys_only (resolver : Resolver) :
    (∀ payload other, Agree resolver payload other →
      (read resolver payload).outcome = (read resolver other).outcome
      ∧ ∀ filter again, (read resolver payload).outcome = .ok filter →
          (read resolver other).outcome = .ok again →
          filter.toJson = again.toJson ∧ ∀ data, filter.admits data = again.admits data)
    ∧ (∀ members key value, key ≠ "mode" → key ≠ "conditions" →
        (read resolver (.obj (Json.insertMember key value members))).outcome =
          (read resolver (.obj members)).outcome)
    ∧ (∀ members key value position, key ≠ "choice" → key ≠ "op" → key ≠ "value" →
        (Criterion.read resolver (.obj (Json.insertMember key value members)) position).outcome =
          (Criterion.read resolver (.obj members) position).outcome)
    ∧ ∀ members value position subject operator,
        Criterion.Names resolver (.obj members) subject operator → operator.codec = none →
        (Criterion.read resolver (.obj (Json.insertMember "value" value members))
            position).outcome =
          (Criterion.read resolver (.obj members) position).outcome := by
  refine ⟨?_, ?_, ?_, ?_⟩
  · intro payload other agree
    have alike := outcome_read_of_agree agree
    refine ⟨alike, ?_⟩
    intro filter again hread hagain
    -- Both outcomes are one, so the two filters are the same one.
    rw [alike, hagain, Except.ok.injEq] at hread
    rw [hread]
    exact ⟨rfl, fun _ => rfl⟩
  · intro members key value notMode notCriteria
    exact outcome_read_of_agree (agree_insertMember resolver value members notMode notCriteria)
  · intro members key value position notSubject notOperator notValue
    exact Criterion.outcome_read_of_agree
      (Criterion.agree_insertMember resolver value members notSubject notOperator notValue)
      position
  · intro members value position subject operator names bare
    exact (Criterion.outcome_read_of_agree
      (Criterion.agree_insertValue names bare value) position).symm

end Filter

end Sift
