/-
  Sift.Proofs.Comparison.Containment
  ──────────────────────────────────
  **Containment in an array, by its elements.**

  Four comparisons search: for an operand among the elements of an array, for the items of a list
  operand among them, and for a value among the items.  Each says something about members only:

      contains      — some element equals the operand        (`holds_contains_iff`)
      contains any  — some item is contained                 (`holds_containsAny_iff`)
      contains all  — every item is contained                (`holds_containsAll_iff`)
      one of        — the value equals some item             (`holds_oneOf_iff`)

  So order and repetition never matter, further elements only help, and further items only hinder
  where all are asked for.

  Main result: `containment_coherent`.
-/
import Sift.Proofs.Comparison.Laws
import Sift.Proofs.Comparison.Shape

namespace Sift.Comparison

/-! ## §1. Members -/

section
variable {values : List Json} {items : List Operand}

/-- An array contains an operand exactly when some element equals it. -/
theorem holds_contains_iff {o : Operand} :
    holds contains (some (.arr values)) (some o) = true ↔
      ∃ v ∈ values, holds is (some v) (some o) = true :=
  List.any_eq_true

/-- **It contains any of a list** exactly when it contains some item. -/
theorem holds_containsAny_iff :
    holds containsAny (some (.arr values)) (some (.list items)) = true ↔
      ∃ o ∈ items, holds contains (some (.arr values)) (some o) = true :=
  List.any_eq_true

/-- **It contains all of a list** exactly when it contains every item. -/
theorem holds_containsAll_iff :
    holds containsAll (some (.arr values)) (some (.list items)) = true ↔
      ∀ o ∈ items, holds contains (some (.arr values)) (some o) = true :=
  List.all_eq_true

/-- A value is one of a list exactly when it equals some item. -/
theorem holds_oneOf_iff {value : Option Json} :
    holds oneOf value (some (.list items)) = true ↔
      ∃ o ∈ items, holds is value (some o) = true := by
  rw [holds_oneOf_list, List.any_eq_true]

/-- **An array that equals a list contains all of it.** -/
theorem holds_containsAll_of_is (equal : holds is (some (.arr values)) (some (.list items)) = true) :
    holds containsAll (some (.arr values)) (some (.list items)) = true := by
  have each : Operand.allEqual items values = true := equal
  exact holds_containsAll_iff.2 (exists_equals_of_allEqual each)

/-- An array that contains all of a list that has an item contains some item. -/
theorem holds_containsAny_of_containsAll (nonempty : items ≠ [])
    (all : holds containsAll (some (.arr values)) (some (.list items)) = true) :
    holds containsAny (some (.arr values)) (some (.list items)) = true := by
  obtain ⟨o, member⟩ := List.exists_mem_of_ne_nil items nonempty
  exact holds_containsAny_iff.2 ⟨o, member, holds_containsAll_iff.1 all o member⟩

/-! ## §2. More elements, more items -/

variable {values' : List Json} {items' : List Operand}

theorem holds_contains_mono (more : values ⊆ values') {o : Operand}
    (h : holds contains (some (.arr values)) (some o) = true) :
    holds contains (some (.arr values')) (some o) = true := by
  obtain ⟨v, member, equal⟩ := holds_contains_iff.1 h
  exact holds_contains_iff.2 ⟨v, more member, equal⟩

/-- More elements and more items help to contain any. -/
theorem holds_containsAny_mono (more : values ⊆ values') (moreItems : items ⊆ items')
    (h : holds containsAny (some (.arr values)) (some (.list items)) = true) :
    holds containsAny (some (.arr values')) (some (.list items')) = true := by
  obtain ⟨o, member, contained⟩ := holds_containsAny_iff.1 h
  exact holds_containsAny_iff.2 ⟨o, moreItems member, holds_contains_mono more contained⟩

/-- More elements help to contain all, and more items hinder. -/
theorem holds_containsAll_mono (more : values ⊆ values') (fewerItems : items' ⊆ items)
    (h : holds containsAll (some (.arr values)) (some (.list items)) = true) :
    holds containsAll (some (.arr values')) (some (.list items')) = true := by
  refine holds_containsAll_iff.2 fun o member => ?_
  exact holds_contains_mono more (holds_containsAll_iff.1 h o (fewerItems member))

/-- More items help to be one of them. -/
theorem holds_oneOf_mono (moreItems : items ⊆ items') {value : Option Json}
    (h : holds oneOf value (some (.list items)) = true) :
    holds oneOf value (some (.list items')) = true := by
  obtain ⟨o, member, equal⟩ := holds_oneOf_iff.1 h
  exact holds_oneOf_iff.2 ⟨o, moreItems member, equal⟩

end

/-! ## §3. Coherence -/

/-- **CONTAINMENT IS COHERENT.**  For every array and every list operand:

* the array contains all of the list exactly when it contains every item, and any of it exactly
  when it contains some item;
* an array that equals the list contains all of it, and with an item in it any of it;
* arrays with the same elements and lists with the same items, in whatever order and number, give
  the same verdicts, also on what an array contains and on what is one of the list;
* with further elements, what was contained stays so, and what contains all of the list with
  further items contained all of it without them. -/
theorem containment_coherent (values : List Json) (items : List Operand) :
    ((holds containsAll (some (.arr values)) (some (.list items)) = true ↔
        ∀ o ∈ items, holds contains (some (.arr values)) (some o) = true)
      ∧ (holds containsAny (some (.arr values)) (some (.list items)) = true ↔
        ∃ o ∈ items, holds contains (some (.arr values)) (some o) = true))
    ∧ ((holds is (some (.arr values)) (some (.list items)) = true →
        holds containsAll (some (.arr values)) (some (.list items)) = true)
      ∧ (items ≠ [] → holds containsAll (some (.arr values)) (some (.list items)) = true →
        holds containsAny (some (.arr values)) (some (.list items)) = true))
    ∧ (∀ values' items', (∀ v, v ∈ values ↔ v ∈ values') → (∀ o, o ∈ items ↔ o ∈ items') →
        holds containsAll (some (.arr values)) (some (.list items)) =
          holds containsAll (some (.arr values')) (some (.list items'))
        ∧ holds containsAny (some (.arr values)) (some (.list items)) =
          holds containsAny (some (.arr values')) (some (.list items'))
        ∧ (∀ o, holds contains (some (.arr values)) (some o) =
          holds contains (some (.arr values')) (some o))
        ∧ ∀ value, holds oneOf value (some (.list items)) =
          holds oneOf value (some (.list items')))
    ∧ (∀ values', values ⊆ values' →
        (∀ o, holds contains (some (.arr values)) (some o) = true →
          holds contains (some (.arr values')) (some o) = true)
        ∧ (holds containsAny (some (.arr values)) (some (.list items)) = true →
          holds containsAny (some (.arr values')) (some (.list items)) = true)
        ∧ (holds containsAll (some (.arr values)) (some (.list items)) = true →
          holds containsAll (some (.arr values')) (some (.list items)) = true))
    ∧ ∀ items', items ⊆ items' →
        holds containsAll (some (.arr values)) (some (.list items')) = true →
        holds containsAll (some (.arr values)) (some (.list items)) = true := by
  refine ⟨⟨holds_containsAll_iff, holds_containsAny_iff⟩,
    ⟨holds_containsAll_of_is, holds_containsAny_of_containsAll⟩, ?_, ?_, ?_⟩
  · intro values' items' elements members
    -- The same members: each side has no more than the other.
    have more : values ⊆ values' := fun v => (elements v).1
    have fewer : values' ⊆ values := fun v => (elements v).2
    have moreItems : items ⊆ items' := fun o => (members o).1
    have fewerItems : items' ⊆ items := fun o => (members o).2
    refine ⟨?_, ?_, fun o => ?_, fun value => ?_⟩
    · exact Bool.eq_iff_iff.2
        ⟨holds_containsAll_mono more fewerItems, holds_containsAll_mono fewer moreItems⟩
    · exact Bool.eq_iff_iff.2
        ⟨holds_containsAny_mono more moreItems, holds_containsAny_mono fewer fewerItems⟩
    · exact Bool.eq_iff_iff.2 ⟨holds_contains_mono more, holds_contains_mono fewer⟩
    · exact Bool.eq_iff_iff.2 ⟨holds_oneOf_mono moreItems, holds_oneOf_mono fewerItems⟩
  · intro values' more
    exact ⟨fun o => holds_contains_mono more,
      holds_containsAny_mono more (List.Subset.refl items),
      holds_containsAll_mono more (List.Subset.refl items)⟩
  · intro items' moreItems
    exact holds_containsAll_mono (List.Subset.refl values) moreItems

end Sift.Comparison
