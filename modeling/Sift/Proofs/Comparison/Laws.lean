/-
  Sift.Proofs.Comparison.Laws
  ───────────────────────────
  **Laws of the verdicts.**

  Some comparisons are defined by loops of their own over a list operand, others by a negation;
  the laws say what they are in terms of the rest, for every value and every operand, missing
  ones included:

      one of a list        — the value is some item              (`holds_oneOf_list`)
      not one of a list    — the value is no item                (`holds_notOneOf_list`)
      between two bounds   — at least the one, at most the other (`holds_between_pair`)
      partners             — exact negations of each other       (`holds_partner`)
-/
import Sift.Comparison.Evaluation

namespace Sift.Comparison

/-! ## §1. Comparisons with a list -/

section
variable (value : Option Json)

/-- **A value is one of a list** exactly when it is some item. -/
theorem holds_oneOf_list (items : List Operand) :
    holds oneOf value (some (.list items)) = items.any fun o => holds is value (some o) := by
  cases value with
  | none => exact (List.any_eq_false.2 fun _ _ => Bool.false_ne_true).symm
  | some value => rfl

/-- **A value is not one of a list** exactly when it differs from every item. -/
theorem holds_notOneOf_list (items : List Operand) :
    holds notOneOf value (some (.list items)) =
      items.all fun o => holds isNot value (some o) := by
  have negation : holds notOneOf value (some (.list items)) =
      !holds oneOf value (some (.list items)) := rfl
  rw [negation, holds_oneOf_list, List.not_any_eq_all_not]
  rfl

/-- **A value is between two bounds** exactly when it is at least the one and at most the
other, whatever the operands in the place of the bounds. -/
theorem holds_between_pair (least greatest : Operand) :
    holds between value (some (.list [least, greatest])) =
      (holds greaterThanOrEqual value (some least)
        && holds lessThanOrEqual value (some greatest)) := by
  cases value with
  | none => rfl
  | some value =>
    show liesBetween (.list [least, greatest]) value =
      (ordered (fun a b => b.le a) least value && ordered (fun a b => a.le b) greatest value)
    -- Where a side has no number, both sides are false.
    cases hvalue : value.numeric? <;> cases hleast : least.number? <;>
      cases hgreatest : greatest.number? <;>
      simp [liesBetween, ordered, hvalue, hleast, hgreatest]

end

/-! ## §2. Partners -/

/-- **The comparison that says the opposite**, where there is one. -/
def partner? : Comparison → Option Comparison
  | is => some isNot
  | isNot => some is
  | oneOf => some notOneOf
  | notOneOf => some oneOf
  | contains => some doesNotContain
  | doesNotContain => some contains
  | matchesPattern => some doesNotMatchPattern
  | doesNotMatchPattern => some matchesPattern
  | isEmpty => some isNotEmpty
  | isNotEmpty => some isEmpty
  | _ => none

/-- Of two partners one negates the other, save for the two that need no operand. -/
theorem partner?_cases {k k' : Comparison} (h : k.partner? = some k') :
    k.positive? = some k' ∨ k'.positive? = some k ∨ (k = isEmpty ∧ k' = isNotEmpty)
      ∨ (k = isNotEmpty ∧ k' = isEmpty) := by
  cases k <;> cases h <;> simp [positive?]

/-- A comparison that negates a positive one is its negation also where a side is missing. -/
theorem holds_of_positive? {k positive : Comparison} (h : k.positive? = some positive)
    (value : Option Json) (o : Option Operand) :
    k.holds value o = !positive.holds value o := by
  cases k <;> cases h <;> rfl

/-- **Partners are exact negations of each other**, with or without a value and an operand. -/
theorem holds_partner {k k' : Comparison} (h : k.partner? = some k') (value : Option Json)
    (o : Option Operand) : k'.holds value o = !k.holds value o := by
  obtain negative | negated | ⟨rfl, rfl⟩ | ⟨rfl, rfl⟩ := partner?_cases h
  · rw [holds_of_positive? negative, Bool.not_not]
  · exact holds_of_positive? negated value o
  · rfl
  · exact (Bool.not_not _).symm

end Sift.Comparison
