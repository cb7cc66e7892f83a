/-
  Sift.Proofs.Comparison.Compatible
  ─────────────────────────────────
  **Nothing holds by default: what is compared is there, and of types that go together.**

  Where a positive comparison holds, there are a value and an operand, and their types are the
  ones that its test looks for.  `Compatible` states which types go together, one line for each
  test; equality looks into lists at every depth, and so does `CanEqual`:

      an operand that equals a value  →  it can, by the types          (`canEqual_of_equals`)
      a test that is passed           →  the two sides are compatible  (`compatible_of_test`)

  So a missing or an incompatible side makes every positive comparison false, and every negative
  one true.

  Main result: `holds_of_compatible_only`.
-/
import Sift.Proofs.Comparison.Laws
import Sift.Proofs.Correspondence
import Sift.Proofs.Operand.Items

namespace Sift

/-! ## §1. Types that go together -/

/-- A number or a text, which may denote one. -/
def Json.IsNumberOrText : Json → Prop
  | num _ | str _ => True
  | _ => False

/-- A number, whole or not, finite or not. -/
def Operand.IsNumber : Operand → Prop
  | integer _ | number _ => True
  | _ => False

/-- **An operand can equal a value**, as far as their types go. -/
inductive Operand.CanEqual : Operand → Json → Prop
  | truth {b c : Bool} : CanEqual (truth b) (.bool c)
  | integer {w : Int64} {v : Json} (numeric : v.IsNumberOrText) : CanEqual (integer w) v
  | number {x : Binary64} {v : Json} (numeric : v.IsNumberOrText) : CanEqual (number x) v
  | text {s : String} {v : Json} (numeric : v.IsNumberOrText) : CanEqual (text s) v
  | instant {t : Instant} {s : String} : CanEqual (instant t) (.str s)
  | pattern {p : Pattern} {s : String} : CanEqual (pattern p) (.str s)
  | list {items : List Operand} {values : List Json}
      (each : List.Forall₂ CanEqual items values) : CanEqual (list items) (.arr values)

/-- **The types that a comparison can hold of.** -/
def Comparison.Compatible : Comparison → Operand → Json → Prop
  | is, o, v => o.CanEqual v
  | greaterThan, o, v | greaterThanOrEqual, o, v | lessThan, o, v | lessThanOrEqual, o, v =>
    v.IsNumberOrText ∧ o.IsNumber
  | between, o, v => v.IsNumberOrText
    ∧ ∃ least greatest, o = .list [least, greatest] ∧ least.IsNumber ∧ greatest.IsNumber
  | oneOf, o, v => ∃ items, o = .list items ∧ ∃ item ∈ items, item.CanEqual v
  | contains, o, v => (∃ s part, v = .str s ∧ o = .text part)
    ∨ ∃ values, v = .arr values ∧ ∃ x ∈ values, o.CanEqual x
  | containsAny, o, v => ∃ items values, o = .list items ∧ v = .arr values
    ∧ ∃ item ∈ items, ∃ x ∈ values, item.CanEqual x
  | containsAll, o, v => ∃ items values, o = .list items ∧ v = .arr values
    ∧ ∀ item ∈ items, ∃ x ∈ values, item.CanEqual x
  | startsWith, o, v | endsWith, o, v => ∃ s part, v = .str s ∧ o = .text part
  | matchesPattern, o, v => (∃ s, v = .str s) ∧ ((∃ p, o = .pattern p) ∨ ∃ source, o = .text source)
  | before, o, v | after, o, v => (∃ s, v = .str s) ∧ ∃ t, o = .instant t
  | isNot, _, _ | notOneOf, _, _ | doesNotContain, _, _ | doesNotMatchPattern, _, _
  | isEmpty, _, _ | isNotEmpty, _, _ => False

/-! ## §2. Equality -/

/-- What stands for a number is a number or a text. -/
theorem Json.isNumberOrText_of_numeric? {v : Json} {x : Binary64} (h : v.numeric? = some x) :
    v.IsNumberOrText := by
  cases v with
  | num | str => trivial
  | _ => cases h

namespace Operand

theorem isNumberOrText_of_nearNumber {expected : Option Binary64} {v : Json}
    (h : nearNumber expected v = true) : v.IsNumberOrText := by
  unfold nearNumber at h
  split at h
  · rename_i number
    exact Json.isNumberOrText_of_numeric? number
  · cases h

theorem isNumberOrText_of_equalsInteger {w : Int64} {v : Json}
    (h : equalsInteger w v = true) : v.IsNumberOrText := by
  unfold equalsInteger at h
  split at h
  · rename_i word
    cases v with
    | num => trivial
    | _ => cases word
  · exact isNumberOrText_of_nearNumber h

theorem isNumberOrText_of_equalsText {s : String} {v : Json} (h : equalsText s v = true) :
    v.IsNumberOrText := by
  cases v with
  | num | str => trivial
  | _ => cases h

/-- **What equals an operand is of a type that can.** -/
theorem canEqual_of_equals {o : Operand} : ∀ {v : Json}, o.equals v = true → o.CanEqual v := by
  induction o using inductionItems with
  | truth b =>
    intro v equal
    cases v with
    | bool => exact .truth
    | _ => cases equal
  | integer w => exact fun equal => .integer (isNumberOrText_of_equalsInteger equal)
  | number x => exact fun equal => .number (isNumberOrText_of_nearNumber equal)
  | text s => exact fun equal => .text (isNumberOrText_of_equalsText equal)
  | instant t =>
    intro v equal
    cases v with
    | str => exact .instant
    | _ => cases equal
  | pattern p =>
    intro v equal
    cases v with
    | str => exact .pattern
    | _ => cases equal
  | list items ih =>
    intro v equal
    cases v with
    | arr values =>
      -- The items equal the elements one by one, and each pair is covered by induction.
      exact .list (forall₂_imp_of_mem (allEqual_iff.1 equal) fun o member x => @ih o member x)
    | _ => cases equal

theorem isNumber_of_number? {o : Operand} {x : Binary64} (h : o.number? = some x) :
    o.IsNumber := by
  cases o with
  | integer | number => trivial
  | _ => cases h

end Operand

namespace Comparison

/-! ## §3. Tests -/

theorem compatible_of_ordered {test : Binary64 → Binary64 → Bool} {o : Operand} {v : Json}
    (h : ordered test o v = true) : v.IsNumberOrText ∧ o.IsNumber := by
  unfold ordered at h
  split at h
  · rename_i value operand
    exact ⟨Json.isNumberOrText_of_numeric? value, Operand.isNumber_of_number? operand⟩
  · cases h

theorem compatible_of_textual {test : List Char → List Char → Bool} {o : Operand} {v : Json}
    (h : textual test o v = true) : ∃ s part, v = .str s ∧ o = .text part := by
  unfold textual at h
  split at h
  · exact ⟨_, _, rfl, rfl⟩
  · cases h

theorem compatible_of_timed {test : Instant → Instant → Bool} {o : Operand} {v : Json}
    (h : timed test o v = true) : (∃ s, v = .str s) ∧ ∃ t, o = .instant t := by
  unfold timed at h
  split at h
  · cases v with
    | str s => exact ⟨⟨s, rfl⟩, _, rfl⟩
    | _ => cases h
  · cases h

theorem compatible_of_liesBetween {o : Operand} {v : Json} (h : liesBetween o v = true) :
    v.IsNumberOrText
      ∧ ∃ least greatest, o = .list [least, greatest] ∧ least.IsNumber ∧ greatest.IsNumber := by
  unfold liesBetween at h
  split at h
  · split at h
    · rename_i value least greatest
      exact ⟨Json.isNumberOrText_of_numeric? value, _, _, rfl,
        Operand.isNumber_of_number? least, Operand.isNumber_of_number? greatest⟩
    · cases h
  · cases h

theorem compatible_of_equalsSome {o : Operand} {v : Json} (h : equalsSome o v = true) :
    ∃ items, o = .list items ∧ ∃ item ∈ items, item.CanEqual v := by
  unfold equalsSome at h
  split at h
  · obtain ⟨item, member, equal⟩ := List.any_eq_true.1 h
    exact ⟨_, rfl, item, member, Operand.canEqual_of_equals equal⟩
  · cases h

theorem compatible_of_holdsWithin {o : Operand} {v : Json} (h : holdsWithin o v = true) :
    (∃ s part, v = .str s ∧ o = .text part)
      ∨ ∃ values, v = .arr values ∧ ∃ x ∈ values, o.CanEqual x := by
  unfold holdsWithin at h
  split at h
  · split at h
    · exact Or.inl ⟨_, _, rfl, rfl⟩
    · cases h
  · obtain ⟨x, member, equal⟩ := List.any_eq_true.1 h
    exact Or.inr ⟨_, rfl, x, member, Operand.canEqual_of_equals equal⟩
  · cases h

/-- An item that is found among some values can equal one of them. -/
theorem exists_canEqual_of_any {values : List Json} {item : Operand}
    (h : values.any item.equals = true) : ∃ x ∈ values, item.CanEqual x := by
  obtain ⟨x, element, equal⟩ := List.any_eq_true.1 h
  exact ⟨x, element, Operand.canEqual_of_equals equal⟩

theorem compatible_of_holdsAny {o : Operand} {v : Json} (h : holdsItems List.any o v = true) :
    ∃ items values, o = .list items ∧ v = .arr values
      ∧ ∃ item ∈ items, ∃ x ∈ values, item.CanEqual x := by
  unfold holdsItems at h
  split at h
  · obtain ⟨item, member, found⟩ := List.any_eq_true.1 h
    exact ⟨_, _, rfl, rfl, item, member, exists_canEqual_of_any found⟩
  · cases h

theorem compatible_of_holdsAll {o : Operand} {v : Json} (h : holdsItems List.all o v = true) :
    ∃ items values, o = .list items ∧ v = .arr values
      ∧ ∀ item ∈ items, ∃ x ∈ values, item.CanEqual x := by
  unfold holdsItems at h
  split at h
  · refine ⟨_, _, rfl, rfl, fun item member => ?_⟩
    exact exists_canEqual_of_any (List.all_eq_true.1 h item member)
  · cases h

theorem compatible_of_foundBy {o : Operand} {v : Json} (h : foundBy o v = true) :
    (∃ s, v = .str s) ∧ ((∃ p, o = .pattern p) ∨ ∃ source, o = .text source) := by
  unfold foundBy at h
  split at h
  · exact ⟨⟨_, rfl⟩, Or.inl ⟨_, rfl⟩⟩
  · exact ⟨⟨_, rfl⟩, Or.inr ⟨_, rfl⟩⟩
  · cases h

/-- **A test that is passed has compatible sides.** -/
theorem compatible_of_test {k : Comparison} {o : Operand} {v : Json} (h : k.test o v = true) :
    k.Compatible o v := by
  cases k with
  | is => exact Operand.canEqual_of_equals h
  | greaterThan => exact @compatible_of_ordered (fun a b => b.lt a) o v h
  | greaterThanOrEqual => exact @compatible_of_ordered (fun a b => b.le a) o v h
  | lessThan => exact @compatible_of_ordered (fun a b => a.lt b) o v h
  | lessThanOrEqual => exact @compatible_of_ordered (fun a b => a.le b) o v h
  | between => exact compatible_of_liesBetween h
  | oneOf => exact compatible_of_equalsSome h
  | contains => exact compatible_of_holdsWithin h
  | containsAny => exact compatible_of_holdsAny h
  | containsAll => exact compatible_of_holdsAll h
  | startsWith => exact @compatible_of_textual (fun s part => part.isPrefixOf s) o v h
  | endsWith => exact @compatible_of_textual (fun s part => part.isSuffixOf s) o v h
  | matchesPattern => exact compatible_of_foundBy h
  | before => exact @compatible_of_timed (fun a b => a.lt b) o v h
  | after => exact @compatible_of_timed (fun a b => b.lt a) o v h
  | isNot | notOneOf | doesNotContain | doesNotMatchPattern | isEmpty | isNotEmpty => cases h

/-! ## §4. Comparisons -/

/-- **A value and an operand are there, and go together.** -/
def Meets (k : Comparison) (value : Option Json) (o : Option Operand) : Prop :=
  ∃ v e, value = some v ∧ o = some e ∧ k.Compatible e v

/-- A positive comparison that holds has compatible sides. -/
theorem meets_of_holds {k : Comparison} {value : Option Json} {o : Option Operand}
    (needed : k.needsOperand = true) (positive : k.positive? = none)
    (h : k.holds value o = true) : k.Meets value o := by
  -- A plain comparison holds exactly if its test does; the others are excluded by hypothesis.
  have tested : k.testOptional value o = true := by
    cases k with
    | isEmpty | isNotEmpty => cases needed
    | isNot | notOneOf | doesNotContain | doesNotMatchPattern => cases positive
    | _ => exact h
  unfold testOptional at tested
  split at tested
  · exact ⟨_, _, rfl, rfl, compatible_of_test tested⟩
  · cases tested

/-- **NOTHING POSITIVE HOLDS BY DEFAULT.**  For every comparison, every value and every operand,
either of them missing or of any type:

* a comparison that needs an operand and negates no other holds only where both sides are there
  and their types go together;
* a comparison that negates such a one holds wherever a side is missing or the types do not go
  together. -/
theorem holds_of_compatible_only (k : Comparison) (value : Option Json) (o : Option Operand) :
    (k.needsOperand = true → k.positive? = none → k.holds value o = true →
      ∃ v e, value = some v ∧ o = some e ∧ k.Compatible e v)
    ∧ ∀ positive, k.positive? = some positive →
      (¬ ∃ v e, value = some v ∧ o = some e ∧ positive.Compatible e v) →
        k.holds value o = true := by
  refine ⟨meets_of_holds, ?_⟩
  intro positive negates apart
  -- What a negated comparison negates is never negated itself.
  have core : positive.needsOperand = true ∧ positive.positive? = none := by
    cases k <;> cases negates <;> exact ⟨rfl, rfl⟩
  have fails : positive.holds value o = false := by
    rw [Bool.eq_false_iff]
    exact fun holds => apart (meets_of_holds core.1 core.2 holds)
  rw [holds_of_positive? negates, fails]
  rfl

end Comparison

end Sift
