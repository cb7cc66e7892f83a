/-
  Sift.Proofs.Filter.WholeOperands
  ────────────────────────────────
  **What a stored whole number is equal to.**

  A whole number offered to `is` is kept as it is under the form of whole numbers, and as its
  text under the usual form.  A value that is a whole number is then compared with the number
  itself, or with the number that the text denotes:

      form of whole numbers   →  equal as whole numbers
      usual form              →  equal once rounded to 53 significant binary digits

  The two agree where a side is below `2^53`, and not beyond.

  Main result: `Filter.whole_operand_meaning`.
-/
import Sift.Proofs.Comparison.Numbers
import Sift.Proofs.Filter.Composite
import Sift.Proofs.Json.Numeric

namespace Sift

open Outcome

/-! ## §1. Whole numbers kept as texts -/

/-- The text that the usual form keeps of a whole number. -/
def Operand.wholeText (w : Int64) : Operand := .text (String.ofList (Text.intDigits w.toInt))

/-- **Kept as a text**, it equals whatever has the same nearest number. -/
theorem Operand.equals_wholeText_iff (n m : Int64) :
    (Operand.wholeText n).equals (.ofSignedWord m) = true ↔
      Binary64.ofInt n.toInt = Binary64.ofInt m.toInt := by
  have byNumber : (Operand.wholeText n).equals (.ofSignedWord m) =
      nearNumber (Text.number? (String.ofList (Text.intDigits n.toInt))) (.ofSignedWord m) := by
    unfold wholeText Json.ofSignedWord
    simp only [equals, equalsText]
  rw [byNumber, Text.number?_intDigits,
    nearNumber_of_numeric? (Json.numeric?_ofSignedWord m),
    Binary64.near_ofInt_iff (natAbs_toInt_lt m) (natAbs_toInt_lt n), eq_comm]

/-! ## §2. Operands of whole numbers -/

/-- The form of whole numbers keeps one as it is. -/
theorem Form.read_integer_ofSignedWord (w : Int64) :
    (Form.integer none none).read (.ofSignedWord w) = .ok (.integer w) := by
  have word : integerOf? (.ofSignedWord w) = some w := signedWord?_toInt w
  show readInteger none none (.ofSignedWord w) = _
  unfold readInteger
  rw [word]
  rfl

/-- **The subject has `is` for whole numbers**, under the name of the comparison. -/
def Subject.CarriesWhole (subject : Subject) : Prop :=
  subject.operator Comparison.is.name =
    .ok ((StandardOperator.of .is).withCodec (some (Form.integer none none).codec)).toOperator

namespace Criterion

section
variable {resolver : Resolver} {id : String} {subject : Subject}
  (found : resolver id = .ok subject) (position : Option Nat) (n : Int64)

include found

/-- Under the usual form the criterion holds the text of the number. -/
theorem exists_read_wholeText {k : Comparison} (carries : subject.Carries k)
    (usualForm : k.defaultForm? = some .text) :
    ∃ criterion, (read resolver (fragment id k (.ofSignedWord n)) position).outcome =
        .ok criterion
      ∧ ∀ data, criterion.admits data =
          k.holds (subject.value data) (some (Operand.wholeText n)) := by
  refine ⟨usual subject k (Operand.wholeText n) (.ofSignedWord n), ?_, ?_⟩
  · exact (outcome_read_fragment_eq_ok_iff found carries usualForm).2 ⟨_, rfl, rfl⟩
  · exact admits_usual usualForm _ _

/-- Under the form of whole numbers it holds the number. -/
theorem exists_read_whole (carries : subject.CarriesWhole) :
    ∃ criterion, (read resolver (fragment id .is (.ofSignedWord n)) position).outcome =
        .ok criterion
      ∧ ∀ data, criterion.admits data =
          Comparison.is.holds (subject.value data) (some (.integer n)) := by
  -- The operator with its operand declared to be an integer.
  let operator := ((StandardOperator.of .is).withCodec
    (some (Form.integer none none).codec)).toOperator
  refine ⟨withRaw subject operator (some (.integer n)) (some (.ofSignedWord n)), ?_, ?_⟩
  · rw [outcome_read_found (get?_choice_fragment id .is _) found (get?_op_fragment id .is _)
      carries, get?_value_fragment, outcome_readValue_some rfl]
    simp only [Form.codec, Form.read_integer_ofSignedWord]
    rfl
  · intro data
    unfold admits
    rw [operator_withRaw, subject_withRaw, operand_withRaw]
    rfl

end

end Criterion

namespace Filter

/-! ## §3. The meaning of a stored whole number -/

/-- **WHAT A STORED WHOLE NUMBER MEANS.**  Let one subject have `is` and `is_not` with their usual
form, and another `is` for whole numbers.  Every whole number `n` is read under each of them.  On
data where the value of the subject is the whole number `m`, the criterion for whole numbers holds
exactly when `n` is `m`; those under the usual form hold exactly when the binary64 numbers nearest
to `n` and `m` are the same, or differ.  That is as much as `n` being `m` where one of the two is
below `2^53` in size, and no more than that in general. -/
theorem whole_operand_meaning {resolver resolver' : Resolver} {id id' : String}
    {subject subject' : Subject} (found : resolver id = .ok subject)
    (is : subject.Carries .is) (isNot : subject.Carries .isNot)
    (found' : resolver' id' = .ok subject') (whole : subject'.CarriesWhole)
    (position : Option Nat) (n m : Int64) :
    ∃ usual negated exact : Criterion,
      (Criterion.read resolver (Criterion.fragment id .is (.ofSignedWord n)) position).outcome =
        .ok usual
      ∧ (Criterion.read resolver (Criterion.fragment id .isNot (.ofSignedWord n))
          position).outcome = .ok negated
      ∧ (Criterion.read resolver' (Criterion.fragment id' .is (.ofSignedWord n))
          position).outcome = .ok exact
      ∧ (∀ data, subject'.value data = some (.ofSignedWord m) →
          (exact.admits data = true ↔ n = m))
      ∧ ∀ data, subject.value data = some (.ofSignedWord m) →
          (usual.admits data = true ↔ Binary64.ofInt n.toInt = Binary64.ofInt m.toInt)
          ∧ (negated.admits data = true ↔ Binary64.ofInt n.toInt ≠ Binary64.ofInt m.toInt)
          ∧ (n.toInt.natAbs < 2 ^ 53 ∨ m.toInt.natAbs < 2 ^ 53 →
              (usual.admits data = true ↔ n = m) ∧ (negated.admits data = true ↔ n ≠ m)) := by
  obtain ⟨usual, hread, verdict⟩ := Criterion.exists_read_wholeText found position n is rfl
  obtain ⟨negated, hreadNot, verdictNot⟩ :=
    Criterion.exists_read_wholeText found position n isNot rfl
  obtain ⟨exact, hreadExact, verdictExact⟩ :=
    Criterion.exists_read_whole found' position n whole
  refine ⟨usual, negated, exact, hread, hreadNot, hreadExact, ?_, ?_⟩
  · intro data value
    rw [verdictExact, value]
    exact Operand.equals_integer_iff n m
  · intro data value
    have same : usual.admits data = true ↔
        Binary64.ofInt n.toInt = Binary64.ofInt m.toInt := by
      rw [verdict, value]
      exact Operand.equals_wholeText_iff n m
    have differ : negated.admits data = true ↔
        Binary64.ofInt n.toInt ≠ Binary64.ofInt m.toInt := by
      -- `isNot` reads the operand as `is` does and answers the opposite.
      have opposite : negated.admits data = !usual.admits data := by
        rw [verdict, verdictNot]
        exact Comparison.holds_of_positive? rfl _ _
      rw [opposite, Bool.not_eq_true', ← Bool.not_eq_true, same]
    refine ⟨same, differ, ?_⟩
    -- Below 2^53 in size distinct words become distinct numbers.
    intro small
    rw [same, differ, Ne, ofInt_toInt_eq_iff small]
    exact ⟨Iff.rfl, Iff.rfl⟩

/-- A field with `is` and `is_not` in their usual form. -/
def buildField : FieldSubject :=
  ((FieldSubject.of "build").withOperator (StandardOperator.of .is).toOperator).withOperator
    (StandardOperator.of .isNot).toOperator

/-- A field with `is` for whole numbers. -/
def wholeBuildField : FieldSubject :=
  (FieldSubject.of "build").withOperator
    ((StandardOperator.of .is).withCodec (some (Form.integer none none).codec)).toOperator

/-- Data with a build number. -/
def buildData (m : Int64) : Json := .obj [("build", .ofSignedWord m)]

/-- The largest number that is always told apart, beside the next one. -/
theorem whole_operand_meaning_small :
    ∃ usual exact : Criterion,
      (Criterion.read (fun _ => .ok buildField.toSubject)
        (Criterion.fragment "build" .is (.ofSignedWord 9007199254740991)) none).outcome = .ok usual
      ∧ (Criterion.read (fun _ => .ok wholeBuildField.toSubject)
          (Criterion.fragment "build" .is (.ofSignedWord 9007199254740991)) none).outcome =
        .ok exact
      ∧ exact.admits (buildData 9007199254740992) = false
      ∧ usual.admits (buildData 9007199254740992) = false := by
  obtain ⟨usual, negated, exact, hread, -, hreadExact, verdictExact, verdict⟩ :=
    @whole_operand_meaning (fun _ => .ok buildField.toSubject)
      (fun _ => .ok wholeBuildField.toSubject) "build" "build" _ _ rfl rfl rfl rfl rfl none
      9007199254740991 9007199254740992
  have value : buildField.toSubject.value (buildData 9007199254740992) =
      some (.ofSignedWord 9007199254740992) := rfl
  have value' : wholeBuildField.toSubject.value (buildData 9007199254740992) =
      some (.ofSignedWord 9007199254740992) := rfl
  refine ⟨usual, exact, hread, hreadExact, ?_, ?_⟩
  · rw [← Bool.not_eq_true, verdictExact _ value']
    decide
  · rw [← Bool.not_eq_true, ((verdict _ value).2.2 (Or.inl (by decide))).1]
    decide

/-- **Two whole numbers that are not told apart**: `2^53 + 1`, stored under the usual form, equals
`2^53`, from which it differs under the form of whole numbers. -/
theorem whole_operand_collapse :
    (9007199254740993 : Int64) ≠ 9007199254740992
    ∧ ∃ usual negated exact : Criterion,
      (Criterion.read (fun _ => .ok buildField.toSubject)
        (Criterion.fragment "build" .is (.ofSignedWord 9007199254740993)) none).outcome = .ok usual
      ∧ (Criterion.read (fun _ => .ok buildField.toSubject)
          (Criterion.fragment "build" .isNot (.ofSignedWord 9007199254740993)) none).outcome =
        .ok negated
      ∧ (Criterion.read (fun _ => .ok wholeBuildField.toSubject)
          (Criterion.fragment "build" .is (.ofSignedWord 9007199254740993)) none).outcome =
        .ok exact
      ∧ usual.admits (buildData 9007199254740992) = true
      ∧ negated.admits (buildData 9007199254740992) = false
      ∧ exact.admits (buildData 9007199254740992) = false := by
  have nearest : Binary64.ofInt (9007199254740993 : Int64).toInt =
      Binary64.ofInt (9007199254740992 : Int64).toInt := by
    decide +kernel
  have equal := (Operand.equals_wholeText_iff 9007199254740993 9007199254740992).2 nearest
  have differ : (Operand.integer 9007199254740993).equals (.ofSignedWord 9007199254740992) =
      false := by
    rw [← Bool.not_eq_true, Operand.equals_integer_iff]
    decide
  obtain ⟨usual, hread, verdict⟩ :=
    @Criterion.exists_read_wholeText (fun _ => .ok buildField.toSubject) "build" _ rfl none
      9007199254740993 .is rfl rfl
  obtain ⟨negated, hreadNot, verdictNot⟩ :=
    @Criterion.exists_read_wholeText (fun _ => .ok buildField.toSubject) "build" _ rfl none
      9007199254740993 .isNot rfl rfl
  obtain ⟨exact, hreadExact, verdictExact⟩ :=
    @Criterion.exists_read_whole (fun _ => .ok wholeBuildField.toSubject) "build" _ rfl none
      9007199254740993 rfl
  have admitted : usual.admits (buildData 9007199254740992) = true := by
    rw [verdict]
    exact equal
  refine ⟨by decide, usual, negated, exact, hread, hreadNot, hreadExact, admitted, ?_, ?_⟩
  · rw [verdictNot, @Comparison.holds_of_positive? .isNot .is rfl, ← verdict, admitted]
    rfl
  · rw [verdictExact]
    exact differ

end Filter

end Sift
