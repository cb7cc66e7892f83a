/-
  Sift.Proofs.Event
  ─────────────────
  **Runs with events.**

  A run is an outcome with the events that led to it.  Two ways of saying what runs leave are
  kept by sequencing, since nothing comes after a failure:

      `Reports`  — a success leaves no event, and a failure one that says where it stopped
      `Alike`    — two runs leave the same events, and fail alike or give related values

  Main results: `Logged.Reports.bind`, `Logged.Alike.bind`.
-/
import Sift.Event

namespace Sift.Logged

variable {α β γ δ : Type}

/-! ## §1. Events of a sequence -/

section
variable {x : Logged α} {f : α → Logged β}

/-- After a success come the events of what follows. -/
theorem events_bind_of_ok {a : α} (h : x.outcome = .ok a) :
    (x.bind f).events = x.events ++ (f a).events := by
  unfold bind
  rw [h]

/-- After a failure comes nothing. -/
theorem events_bind_of_error {error : Error} (h : x.outcome = .error error) :
    (x.bind f).events = x.events := by
  unfold bind
  rw [h]

end

/-- **Exactly one event** is left, of which `P` holds. -/
def LeavesOne (x : Logged α) (P : Event → Prop) : Prop := ∃ event, x.events = [event] ∧ P event

/-! ## §2. Readings that report -/

/-- **A reading reports**: a success leaves no event, and a failure one that says at which stage
it stopped. -/
inductive Reports (refusal : Stage → Event) : Logged α → Prop
  | success (a : α) : Reports refusal (pure a)
  | failure (stage : Stage) (error : Error) : Reports refusal (refuse (refusal stage) error)

namespace Reports

variable {refusal : Stage → Event} {x : Logged α}

/-- **Step**: sequencing keeps the report. -/
theorem bind {f : α → Logged β} (first : Reports refusal x)
    (second : ∀ a, Reports refusal (f a)) : Reports refusal (x.bind f) := by
  cases first with
  | success a =>
    rw [pure_bind]
    exact second a
  | failure stage error => exact .failure stage error

theorem events_of_ok (reports : Reports refusal x) {a : α} (h : x.outcome = .ok a) :
    x.events = [] := by
  cases reports with
  | success _ => rfl
  | failure _ _ => cases h

theorem exists_events_of_error (reports : Reports refusal x) {error : Error}
    (h : x.outcome = .error error) : ∃ stage, x.events = [refusal stage] := by
  cases reports with
  | success _ => cases h
  | failure stage _ => exact ⟨stage, rfl⟩

end Reports

/-! ## §3. Runs that are alike -/

/-- **Two runs are alike**: they leave the same events, and both fail with one error or both
succeed with values that `R` relates. -/
inductive Alike (R : α → β → Prop) : Logged α → Logged β → Prop
  | success {a : α} {b : β} (events : List Event) (related : R a b) :
      Alike R ⟨.ok a, events⟩ ⟨.ok b, events⟩
  | failure (error : Error) (events : List Event) :
      Alike R ⟨.error error, events⟩ ⟨.error error, events⟩

namespace Alike

variable {R : α → β → Prop} {S : γ → δ → Prop} {x : Logged α} {y : Logged β}

/-- A run is like itself. -/
theorem refl (x : Logged α) : Alike Eq x x := by
  obtain ⟨outcome, events⟩ := x
  cases outcome with
  | error error => exact .failure error events
  | ok a => exact .success events rfl

/-- **Step**: runs that are alike go on alike, where related values do. -/
theorem bind {f : α → Logged γ} {g : β → Logged δ} (first : Alike R x y)
    (second : ∀ a b, R a b → Alike S (f a) (g b)) : Alike S (x.bind f) (y.bind g) := by
  cases first with
  | failure error events => exact .failure error events
  | @success a b events related =>
    -- Both go on, and what they have left so far comes first in both.
    have next := second a b related
    show Alike S ⟨(f a).outcome, events ++ (f a).events⟩ ⟨(g b).outcome, events ++ (g b).events⟩
    generalize f a = z at next ⊢
    generalize g b = w at next ⊢
    cases next with
    | success later related => exact .success (events ++ later) related
    | failure error later => exact .failure error (events ++ later)

/-- What one of them gives has a counterpart. -/
theorem exists_ok (alike : Alike R x y) {a : α} (h : x.outcome = .ok a) :
    ∃ b, y.outcome = .ok b ∧ R a b := by
  cases alike with
  | success _ related =>
    cases h
    exact ⟨_, rfl, related⟩
  | failure _ _ => cases h

end Alike

end Sift.Logged
