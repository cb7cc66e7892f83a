/-
  Sift.Proofs.Operand.Items
  ─────────────────────────
  **Operands, item by item.**

  A list operand is compared with other operands and with values one item after another.  Both
  loops are stated here as correspondences of lists, and what holds of every operand is proved
  by induction over its items:

      equal items of two operands        (`sameItems_iff`)
      items that equal values            (`allEqual_iff`)
      one operand within another         (`OccursIn`, at any depth)
-/
import Mathlib.Data.List.Forall2
import Sift.Comparison.Evaluation

namespace Sift.Operand

/-- **Induction over operands**: a list has the property when all its items have it. -/
@[elab_as_elim]
theorem inductionItems {motive : Operand → Prop} (truth : ∀ b, motive (.truth b))
    (integer : ∀ w, motive (.integer w)) (number : ∀ x, motive (.number x))
    (text : ∀ s, motive (.text s)) (instant : ∀ t, motive (.instant t))
    (pattern : ∀ p, motive (.pattern p))
    (list : ∀ items, (∀ o ∈ items, motive o) → motive (.list items)) : ∀ o, motive o
  | .truth b => truth b
  | .integer w => integer w
  | .number x => number x
  | .text s => text s
  | .instant t => instant t
  | .pattern p => pattern p
  | .list items => list items fun o _ =>
      inductionItems truth integer number text instant pattern list o

/-- Two lists have equal items throughout. -/
theorem sameItems_iff {as bs : List Operand} :
    sameItems as bs = true ↔ List.Forall₂ (fun a b => a.sameAs b = true) as bs := by
  induction as generalizing bs with
  | nil => cases bs <;> simp [sameItems]
  | cons a as ih => cases bs <;> simp [sameItems, ih]

/-- Values equal operands one by one. -/
theorem allEqual_iff {items : List Operand} {values : List Json} :
    allEqual items values = true ↔ List.Forall₂ (fun o v => o.equals v = true) items values := by
  induction items generalizing values with
  | nil => cases values <;> simp [allEqual]
  | cons o items ih => cases values <;> simp [allEqual, ih]

/-- **One operand occurs in another**: it is that operand, or it occurs in an item of it. -/
inductive OccursIn (o : Operand) : Operand → Prop
  | self : OccursIn o o
  | item {items : List Operand} {x : Operand} (member : x ∈ items) (inside : OccursIn o x) :
      OccursIn o (.list items)

/-- In what is no list only that operand itself occurs. -/
theorem occursIn_iff_of_leaf {o x : Operand} (leaf : x.items? = none) : o.OccursIn x ↔ o = x := by
  constructor
  · intro occurs
    cases occurs with
    | self => rfl
    | item => cases leaf
  · intro same
    rw [same]
    exact .self

/-- What is no list occurs in a list exactly when it occurs in an item. -/
theorem occursIn_list_iff {o : Operand} (leaf : o.items? = none) {items : List Operand} :
    o.OccursIn (.list items) ↔ ∃ x ∈ items, o.OccursIn x := by
  constructor
  · intro occurs
    cases occurs with
    | self => cases leaf
    | item member inside => exact ⟨_, member, inside⟩
  · rintro ⟨x, member, inside⟩
    exact .item member inside

end Sift.Operand
