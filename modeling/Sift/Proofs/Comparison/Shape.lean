/-
  Sift.Proofs.Comparison.Shape
  ────────────────────────────
  **The shapes of operands that comparisons can test.**

  A test looks at the type of its operand before anything else, and fails on any other type: an
  operand of a wrong type makes the comparison constant, whatever the value.  `Suits` is the
  shape that each comparison needs:

      a form the comparison accepts   →  every operand of the form suits  (`suits_of_fits`)
      an operand that suits           →  some operand of its type tells two values apart
                                         (`exists_alike_tellsApart`)

  The type of a list is that of its items as far as they go, so an empty list, which equals
  nothing, has the type of every list.
-/
import Mathlib.Data.List.Basic
import Sift.Comparison.Evaluation
import Sift.Proofs.Operand.Rereading

namespace Sift

/-! ## §1. Shapes -/

/-- A finite number, whole or not. -/
def Operand.IsNumeric : Operand → Prop
  | integer _ => True
  | number x => x.isFinite = true
  | _ => False

/-- **The shape** of the operands of a comparison. -/
def Comparison.Suits : Comparison → Operand → Prop
  | greaterThan, o | greaterThanOrEqual, o | lessThan, o | lessThanOrEqual, o => o.IsNumeric
  | between, o => ∃ least greatest, o = .list [least, greatest]
      ∧ least.IsNumeric ∧ greatest.IsNumeric
  | oneOf, o | notOneOf, o | containsAny, o | containsAll, o => ∃ items, o = .list items
  | startsWith, o | endsWith, o => ∃ s, o = .text s
  | matchesPattern, o | doesNotMatchPattern, o => (∃ p, o = .pattern p) ∨ ∃ s, o = .text s
  | before, o | after, o => ∃ t, o = .instant t
  | is, _ | isNot, _ | contains, _ | doesNotContain, _ => True
  | isEmpty, _ | isNotEmpty, _ => False

namespace Comparison

/-! ## §2. Forms whose operands suit -/

/-- A comparison that needs an operand has a form of operands, and no other does. -/
theorem isSome_defaultForm? (k : Comparison) : k.defaultForm?.isSome = k.needsOperand := by
  cases k <;> rfl

/-- **The usual form is accepted.** -/
theorem accepts_defaultForm {k : Comparison} {form : Form} (h : k.defaultForm? = some form) :
    k.accepts form = true := by
  cases k <;> cases h <;> rfl

/-- The operands of a numeric form are numeric. -/
theorem isNumeric_of_fits {form : Form} {o : Operand} (numeric : form.isNumeric = true)
    (fits : form.Fits o) : o.IsNumeric := by
  cases fits with
  | number inside => exact rfl
  | integer inside => trivial
  | _ => cases numeric

/-- **Accepted forms have operands that suit.** -/
theorem suits_of_fits {k : Comparison} {form : Form} {o : Operand}
    (accepted : k.accepts form = true) (fits : form.Fits o) : k.Suits o := by
  cases k with
  | is | isNot | contains | doesNotContain => trivial
  | isEmpty | isNotEmpty => cases accepted
  | greaterThan | greaterThanOrEqual | lessThan | lessThanOrEqual =>
    exact isNumeric_of_fits accepted fits
  | between =>
    cases fits with
    | @list item length items counted each =>
      cases length with
      | none => cases accepted
      | some length =>
        simp only [accepts, Bool.and_eq_true, beq_iff_eq] at accepted
        obtain ⟨rfl, numeric⟩ := accepted
        -- Of the length two, so there are a least and a greatest item.
        obtain ⟨least, greatest, rfl⟩ :=
          List.length_eq_two.1 (Form.checkLength_eq_ok_iff.1 counted 2 rfl).symm
        exact ⟨least, greatest, rfl, isNumeric_of_fits numeric (each least (by simp)),
          isNumeric_of_fits numeric (each greatest (by simp))⟩
    | _ => cases accepted
  | oneOf | notOneOf | containsAny | containsAll =>
    cases fits with
    | @list item length items counted each => exact ⟨items, rfl⟩
    | _ => cases accepted
  | startsWith | endsWith =>
    cases fits with
    | @text s => exact ⟨s, rfl⟩
    | @options allowed s member => exact ⟨s, rfl⟩
    | _ => cases accepted
  | matchesPattern | doesNotMatchPattern =>
    cases fits with
    | @pattern p => exact Or.inl ⟨p, rfl⟩
    | @text s => exact Or.inr ⟨s, rfl⟩
    | _ => cases accepted
  | before | after =>
    obtain rfl := of_decide_eq_true accepted
    cases fits with
    | @instant t regular => exact ⟨t, rfl⟩

end Comparison

/-! ## §3. Types of operands -/

namespace Operand

mutual
/-- **The second operand has the type of the first.**  A list has it when its items have the
types of those of the first, as far as these go. -/
def Alike : Operand → Operand → Prop
  | truth _, truth _ | integer _, integer _ | number _, number _ | text _, text _
  | instant _, instant _ | pattern _, pattern _ => True
  | list as, list bs => AlikeItems as bs
  | _, _ => False
termination_by structural o => o

/-- The second items start with the types of the first ones. -/
def AlikeItems : List Operand → List Operand → Prop
  | [], _ => True
  | a :: as, b :: bs => Alike a b ∧ AlikeItems as bs
  | _ :: _, [] => False
termination_by structural os => os
end

/-- Some text has a pattern that is found in it. -/
theorem exists_foundIn : ∃ p : Pattern, Pattern.ofText? "" = some p ∧ p.foundIn "" = true := by
  have found : (Pattern.ofText? "").any (·.foundIn "") = true := by decide +kernel
  cases compiled : Pattern.ofText? "" with
  | none =>
    rw [compiled] at found
    cases found
  | some p =>
    rw [compiled] at found
    exact ⟨p, rfl, found⟩

mutual
/-- **Every type of operand equals something.** -/
theorem exists_alike_equals :
    ∀ o : Operand, ∃ other, o.Alike other ∧ ∃ value, other.equals value = true
  | truth b => ⟨truth b, trivial, .bool b, by simp [equals, Json.bool?]⟩
  | integer _ => ⟨integer 0, trivial, .ofSignedWord 0, by decide +kernel⟩
  | number _ => ⟨number (.zero false), trivial, .ofSignedWord 0, by decide +kernel⟩
  | text _ => ⟨text "", trivial, .str "", rfl⟩
  | instant _ =>
    ⟨instant (.midnight ⟨1970, 1, 1, by decide⟩), trivial, .str "1970-01-01", by decide +kernel⟩
  | pattern _ => by
    obtain ⟨p, -, found⟩ := exists_foundIn
    exact ⟨pattern p, trivial, .str "", found⟩
  -- Item by item; the witness is the array of the witnesses.
  | list items => by
    obtain ⟨others, alike, values, equal⟩ := exists_alikeItems_allEqual items
    exact ⟨list others, alike, .arr values, equal⟩
termination_by structural o => o

theorem exists_alikeItems_allEqual :
    ∀ items : List Operand, ∃ others, AlikeItems items others
      ∧ ∃ values, allEqual others values = true
  | [] => ⟨[], trivial, [], rfl⟩
  | o :: rest => by
    obtain ⟨other, alike, value, equal⟩ := exists_alike_equals o
    obtain ⟨others, alikes, values, equals⟩ := exists_alikeItems_allEqual rest
    exact ⟨other :: others, ⟨alike, alikes⟩, value :: values, by simp [allEqual, equal, equals]⟩
termination_by structural os => os
end

theorem equals_null (o : Operand) : o.equals .null = false := by
  cases o <;> rfl

end Operand

namespace Comparison

/-! ## §4. Values told apart -/

/-- The comparison that is tested: the one that a negative comparison negates, or itself. -/
def core (k : Comparison) : Comparison := k.positive?.getD k

/-- A comparison with an operand is the test of its core, negated where it is negative. -/
theorem holds_eq_core {k : Comparison} (needed : k.needsOperand = true) (value : Option Json)
    (o : Option Operand) :
    k.holds value o = (k.positive?.isSome ^^ k.core.testOptional value o) := by
  cases k with
  | isEmpty | isNotEmpty => cases needed
  | isNot | notOneOf | doesNotContain | doesNotMatchPattern => exact (Bool.true_xor _).symm
  | _ => exact (Bool.false_xor _).symm

theorem test_null (k : Comparison) (o : Operand) : k.test o .null = false := by
  cases k with
  | is => exact o.equals_null
  -- Both ends must be numbers for the test to look at the value at all.
  | between =>
    show liesBetween o .null = false
    unfold liesBetween
    split <;> rfl
  | oneOf =>
    cases o with
    | list items => exact List.any_eq_false.2 fun o _ => by simp [o.equals_null]
    | _ => rfl
  | _ => cases o <;> rfl

/-- Some operand of the type of a numeric one is zero. -/
theorem exists_alike_zero {o : Operand} (numeric : o.IsNumeric) :
    ∃ other, o.Alike other ∧ other.number? = some (.ofInt 0) := by
  cases o with
  | integer w => exact ⟨.integer 0, trivial, rfl⟩
  | number x => exact ⟨.number (.ofInt 0), trivial, rfl⟩
  | _ => cases numeric

/-- A test of numbers that some value passes against zero is passed by every numeric type. -/
theorem exists_alike_ordered {test : Binary64 → Binary64 → Bool} {o : Operand}
    (numeric : o.IsNumeric) (value : Json)
    (passed : value.numeric?.any (test · (.ofInt 0)) = true) :
    ∃ other, o.Alike other ∧ ∃ value, ordered test other value = true := by
  -- Zero stands in for the bound, so one value serves all the orderings that take it.
  obtain ⟨other, alike, zero⟩ := exists_alike_zero numeric
  refine ⟨other, alike, value, ?_⟩
  unfold ordered
  rw [zero]
  cases number : value.numeric? with
  | none =>
    rw [number] at passed
    cases passed
  | some x =>
    rw [number] at passed
    exact passed

/-- Some list of the type of a given one has an item that equals something. -/
theorem exists_alike_item (items : List Operand) :
    ∃ first rest, Operand.AlikeItems items (first :: rest)
      ∧ ∃ value, first.equals value = true := by
  cases items with
  | nil => exact ⟨.text "", [], trivial, .str "", rfl⟩
  | cons o rest =>
    obtain ⟨first, alike, equal⟩ := Operand.exists_alike_equals o
    obtain ⟨others, alikes, -⟩ := Operand.exists_alikeItems_allEqual rest
    exact ⟨first, others, ⟨alike, alikes⟩, equal⟩

/-- Operands that equal values one by one equal each some value. -/
theorem exists_equals_of_allEqual :
    ∀ {os : List Operand} {values : List Json}, Operand.allEqual os values = true →
      ∀ o ∈ os, values.any o.equals = true
  | [], _, _, o, member => by cases member
  | a :: os, [], equal, _, _ => by cases equal
  | a :: os, value :: values, equal, o, member => by
      simp only [Operand.allEqual, Bool.and_eq_true] at equal
      rw [List.any_cons, Bool.or_eq_true]
      rcases List.mem_cons.1 member with rfl | member
      · exact Or.inl equal.1
      · exact Or.inr (exists_equals_of_allEqual equal.2 o member)

/-- **A test can be passed by every type of operand that suits it.** -/
theorem exists_alike_test {k : Comparison} {o : Operand} (positive : k.positive? = none)
    (suits : k.Suits o) : ∃ other, o.Alike other ∧ ∃ value, k.test other value = true := by
  cases k with
  | isNot | notOneOf | doesNotContain | doesNotMatchPattern => cases positive
  | isEmpty | isNotEmpty => cases suits
  | is => exact o.exists_alike_equals
  | greaterThan =>
    exact exists_alike_ordered suits (.ofSignedWord 1) (by decide +kernel)
  | greaterThanOrEqual =>
    exact exists_alike_ordered suits (.ofSignedWord 0) (by decide +kernel)
  | lessThan =>
    exact exists_alike_ordered suits (.ofSignedWord (-1)) (by decide +kernel)
  | lessThanOrEqual =>
    exact exists_alike_ordered suits (.ofSignedWord 0) (by decide +kernel)
  | between =>
    obtain ⟨least, greatest, rfl, hleast, hgreatest⟩ := suits
    obtain ⟨a, alikeLeast, zeroLeast⟩ := exists_alike_zero hleast
    obtain ⟨b, alikeGreatest, zeroGreatest⟩ := exists_alike_zero hgreatest
    refine ⟨.list [a, b], ⟨alikeLeast, alikeGreatest, trivial⟩, .ofSignedWord 0, ?_⟩
    show liesBetween (.list [a, b]) (.ofSignedWord 0) = true
    simp only [liesBetween, zeroLeast, zeroGreatest]
    decide +kernel
  | oneOf =>
    obtain ⟨items, rfl⟩ := suits
    obtain ⟨first, rest, alike, value, equal⟩ := exists_alike_item items
    exact ⟨.list (first :: rest), alike, value, List.any_eq_true.2 ⟨first, by simp, equal⟩⟩
  | contains =>
    obtain ⟨other, alike, value, equal⟩ := o.exists_alike_equals
    exact ⟨other, alike, .arr [value], List.any_eq_true.2 ⟨value, by simp, equal⟩⟩
  | containsAny =>
    obtain ⟨items, rfl⟩ := suits
    obtain ⟨first, rest, alike, value, equal⟩ := exists_alike_item items
    refine ⟨.list (first :: rest), alike, .arr [value], List.any_eq_true.2 ⟨first, by simp, ?_⟩⟩
    exact List.any_eq_true.2 ⟨value, by simp, equal⟩
  | containsAll =>
    obtain ⟨items, rfl⟩ := suits
    obtain ⟨others, alike, values, equal⟩ := Operand.exists_alikeItems_allEqual items
    exact ⟨.list others, alike, .arr values,
      List.all_eq_true.2 (exists_equals_of_allEqual equal)⟩
  | startsWith | endsWith =>
    obtain ⟨s, rfl⟩ := suits
    exact ⟨.text "", trivial, .str "", by decide⟩
  | matchesPattern =>
    rcases suits with ⟨p, rfl⟩ | ⟨s, rfl⟩
    · obtain ⟨q, -, found⟩ := Operand.exists_foundIn
      exact ⟨.pattern q, trivial, .str "", found⟩
    · exact ⟨.text "", trivial, .str "", by decide +kernel⟩
  | before =>
    obtain ⟨t, rfl⟩ := suits
    exact ⟨.instant (.midnight ⟨1970, 1, 2, by decide⟩), trivial, .str "1970-01-01",
      by decide +kernel⟩
  | after =>
    obtain ⟨t, rfl⟩ := suits
    exact ⟨.instant (.midnight ⟨1970, 1, 1, by decide⟩), trivial, .str "1970-01-02",
      by decide +kernel⟩

/-- **Some value meets the comparison, and another does not.** -/
def TellsApart (k : Comparison) (o : Operand) : Prop :=
  ∃ value other, k.holds (some value) (some o) = true ∧ k.holds (some other) (some o) = false

/-- A test that is passed tells a value from null. -/
theorem tellsApart_of_test {k : Comparison} {o : Operand} {value : Json}
    (needed : k.needsOperand = true) (passed : k.core.test o value = true) : k.TellsApart o := by
  have null : k.holds (some .null) (some o) = k.positive?.isSome := by
    rw [holds_eq_core needed]
    show (_ ^^ k.core.test o .null) = _
    rw [test_null, Bool.xor_false]
  have value : k.holds (some value) (some o) = !k.positive?.isSome := by
    rw [holds_eq_core needed]
    show (_ ^^ k.core.test o value) = _
    rw [passed, Bool.xor_true]
  -- A negated comparison holds of null and fails on the value, a plain one the other way round.
  cases negative : k.positive?.isSome with
  | false => exact ⟨_, .null, by rw [value, negative]; rfl, by rw [null, negative]⟩
  | true => exact ⟨.null, _, by rw [null, negative], by rw [value, negative]; rfl⟩

/-- **An operand that suits is not of a wrong type**: with some operand of its type the
comparison tells two values apart. -/
theorem exists_alike_tellsApart {k : Comparison} {o : Operand} (needed : k.needsOperand = true)
    (suits : k.Suits o) : ∃ other, o.Alike other ∧ k.TellsApart other := by
  have core : k.core.positive? = none ∧ k.core.Suits o := by
    cases k <;> exact ⟨rfl, suits⟩
  obtain ⟨other, alike, value, passed⟩ := exists_alike_test core.1 core.2
  exact ⟨other, alike, tellsApart_of_test needed passed⟩

end Comparison

end Sift
