/-
  Sift.Proofs.Filter.Verdict
  ──────────────────────────
  **Verdicts of filters: opposites, order and repetition.**

  A mode combines the verdicts of the criteria, and nothing else about them matters.  Negation
  is met in two places, in the negative comparisons and in the two modes, and they fit
  together: the *dual* of a filter, with the other mode and the partner of every comparison,
  admits exactly what the filter does not.

      a criterion and its dual  →  opposite verdicts     (`Criterion.admits_of_isDual`)
      the two modes             →  De Morgan's law       (`Mode.combine_flip`)

  Main result: `Filter.dual_negates`.
-/
import Sift.Filter.Basic
import Sift.Proofs.Comparison.Laws
import Sift.Proofs.Correspondence

namespace Sift

/-! ## §1. Modes -/

namespace Mode

/-- The verdicts on some items, combined. -/
def combine {α : Type} (mode : Mode) (verdict : α → Bool) (as : List α) : Bool :=
  match mode with
  | all => as.all verdict
  | any => as.any verdict

/-- The other mode. -/
def flip : Mode → Mode
  | all => any
  | any => all

section
variable {α β : Type} (mode : Mode)

/-- **De Morgan's law**: the other mode combines the opposite verdicts to the opposite one. -/
theorem combine_flip (verdict : α → Bool) (as : List α) :
    mode.flip.combine (fun a => !verdict a) as = !mode.combine verdict as := by
  cases mode with
  | all => exact List.not_all_eq_any_not.symm
  | any => exact List.not_any_eq_all_not.symm

/-- Items with the same verdicts one by one are combined alike. -/
theorem combine_congr {f : α → Bool} {g : β → Bool} {as : List α} {bs : List β}
    (same : List.Forall₂ (fun a b => f a = g b) as bs) :
    mode.combine f as = mode.combine g bs := by
  induction same with
  | nil => cases mode <;> rfl
  | cons first _ ih => cases mode <;> simp_all [combine]

/-- **Only the members matter**, in any order and any number. -/
theorem combine_of_same_members (verdict : α → Bool) {as bs : List α}
    (members : ∀ a, a ∈ as ↔ a ∈ bs) : mode.combine verdict as = mode.combine verdict bs := by
  rw [Bool.eq_iff_iff]
  cases mode with
  | all => simp only [combine, List.all_eq_true, members]
  | any => simp only [combine, List.any_eq_true, members]

end

end Mode

/-- A filter combines the verdicts of its criteria. -/
theorem Filter.admits_eq_combine (filter : Filter) (data : Json) :
    filter.admits data = filter.mode.combine (·.admits data) filter.criteria := rfl

/-! ## §2. Opposite criteria -/

namespace Criterion

/-- A criterion with a standard operator whose comparison has a partner. -/
def HasPartner (criterion : Criterion) : Prop :=
  ∃ standard : StandardOperator, criterion.operator = standard.toOperator
    ∧ standard.comparison.partner?.isSome

/-- **The second criterion is a dual of the first**: the same subject and operand under a
standard operator of the partner, whatever the identifiers and codecs of the two operators. -/
structure IsDual (criterion dual : Criterion) : Prop where
  subject : dual.subject = criterion.subject
  operand : dual.operand = criterion.operand
  operators : ∃ standard partner : StandardOperator, criterion.operator = standard.toOperator
    ∧ dual.operator = partner.toOperator
    ∧ standard.comparison.partner? = some partner.comparison

/-- **A criterion with a partner has a dual**, which keeps the codec and so the operand. -/
theorem exists_isDual {criterion : Criterion} (h : criterion.HasPartner) :
    ∃ dual, criterion.IsDual dual := by
  obtain ⟨standard, same, some⟩ := h
  obtain ⟨k, partners⟩ := Option.isSome_iff_exists.1 some
  let partner : StandardOperator := { standard with comparison := k }
  -- Without a codec the criterion has no operand, and neither may its dual have one.
  have bare : partner.codec = none → criterion.operand = none ∧ criterion.raw = none := by
    intro none
    exact criterion.bare (by rw [same]; exact none)
  exact ⟨⟨criterion.subject, partner.toOperator, criterion.operand, criterion.raw, bare⟩,
    rfl, rfl, standard, partner, same, rfl, partners⟩

/-- **A dual has the opposite verdict.** -/
theorem admits_of_isDual {criterion dual : Criterion} (h : criterion.IsDual dual)
    (data : Json) : dual.admits data = !criterion.admits data := by
  obtain ⟨standard, partner, first, second, partners⟩ := h.operators
  unfold admits
  rw [first, second, h.subject, h.operand]
  exact Comparison.holds_partner partners _ _

end Criterion

/-! ## §3. Opposite filters -/

namespace Filter

/-- Every criterion has a standard operator whose comparison has a partner. -/
def HasPartners (filter : Filter) : Prop := ∀ criterion ∈ filter.criteria, criterion.HasPartner

/-- **The second filter is a dual of the first**: the other mode, and duals of the criteria in
their order. -/
structure IsDual (filter dual : Filter) : Prop where
  mode : dual.mode = filter.mode.flip
  criteria : List.Forall₂ Criterion.IsDual filter.criteria dual.criteria

/-- A filter with partners has a dual. -/
theorem exists_isDual {filter : Filter} (h : filter.HasPartners) :
    ∃ dual, filter.IsDual dual := by
  obtain ⟨duals, hduals⟩ := exists_forall₂_iff.2 fun criterion member =>
    Criterion.exists_isDual (h criterion member)
  exact ⟨⟨filter.mode.flip, duals⟩, rfl, hduals⟩

/-- **A dual admits exactly what the filter does not.** -/
theorem admits_dual {filter dual : Filter} (h : filter.IsDual dual) (data : Json) :
    dual.admits data = !filter.admits data := by
  have opposite : List.Forall₂ (fun d c => Criterion.admits d data = !c.admits data)
      dual.criteria filter.criteria :=
    (h.criteria.imp fun _ _ dual => Criterion.admits_of_isDual dual data).flip
  calc dual.admits data
      = filter.mode.flip.combine (·.admits data) dual.criteria := by
        rw [admits_eq_combine, h.mode]
    _ = filter.mode.flip.combine (fun c => !c.admits data) filter.criteria :=
        Mode.combine_congr _ opposite
    _ = !filter.admits data := Mode.combine_flip ..

/-- **DUALITY OF FILTERS.**  Every filter whose comparisons all have partners, over any subjects
and any operands, has a dual, and whatever dual is taken, it admits exactly the data that the
filter does not.  And for every filter, whatever its operators, neither the order nor the
repetition of the criteria matters. -/
theorem dual_negates :
    (∀ filter : Filter, filter.HasPartners → ∃ dual, filter.IsDual dual)
    ∧ (∀ filter dual : Filter, filter.IsDual dual →
        ∀ data, dual.admits data = !filter.admits data)
    ∧ ∀ filter other : Filter, filter.mode = other.mode →
        (∀ criterion, criterion ∈ filter.criteria ↔ criterion ∈ other.criteria) →
        ∀ data, filter.admits data = other.admits data := by
  refine ⟨fun _ => exists_isDual, fun _ _ => admits_dual, ?_⟩
  intro filter other mode members data
  rw [admits_eq_combine, admits_eq_combine, mode]
  exact Mode.combine_of_same_members _ _ members

end Filter

end Sift
