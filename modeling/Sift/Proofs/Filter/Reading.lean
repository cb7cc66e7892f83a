/-
  Sift.Proofs.Filter.Reading
  ──────────────────────────
  **Filters are read all or nothing.**

  The mode comes first, and nothing else matters where it is not one of the two.  The criteria
  are then read in order, each on its own at its position, and the first one that is refused
  refuses the filter with its own error:

      every fragment reads  →  the filter of exactly what they read as, in order
      some fragment fails   →  the error of the least position that fails

  Main result: `Filter.read_all_or_nothing`, for every resolver and every payload.
-/
import Sift.Filter.Basic
import Sift.Proofs.Filter.Criterion

namespace Sift

open Outcome

/-- **A fragment on its own**: what it reads as at a position, whatever stands around it. -/
def Criterion.readAt (resolver : Resolver) (i : Nat) (fragment : Json) :
    Except Error Criterion :=
  (Criterion.read resolver fragment (some i)).outcome

namespace Filter

/-! ## §1. The criteria -/

/-- The criteria are read in order, each on its own. -/
theorem outcome_readCriteria (resolver : Resolver) :
    ∀ (k : Nat) (fragments : List Json),
      (readCriteria resolver k fragments).outcome =
        inOrder (Criterion.readAt resolver) k fragments
  | k, [] => rfl
  | k, fragment :: rest => by
      simp only [readCriteria, inOrder, Logged.outcome_bind, Logged.outcome_pure]
      rw [outcome_readCriteria resolver (k + 1) rest]
      rfl

/-! ## §2. The parts of a payload -/

section
variable (resolver : Resolver) {payload : Json}

/-- A payload that names neither mode is refused at once. -/
theorem read_no_mode
    (unnamed : ∀ mode : Mode, payload.get? "mode" ≠ some (.str mode.name)) :
    read resolver payload =
      .refuse (.modeRefused (Mode.shown (payload.get? "mode")) payload)
        (.unknownMode (Mode.shown (payload.get? "mode"))) := by
  have unread : Mode.ofJson? (payload.get? "mode") = none := by
    rw [Option.eq_none_iff_forall_ne_some]
    intro mode h
    exact unnamed mode (Mode.ofJson?_eq_some.1 h)
  unfold read
  simp only [unread]

/-- With a mode come the criteria, and the event of the filter. -/
theorem read_mode {mode : Mode} (named : payload.get? "mode" = some (.str mode.name)) :
    read resolver payload =
      (readPart resolver payload (payload.get? "conditions")).bind fun criteria =>
        (Logged.note (.filterRead mode.name criteria.length)).bind fun _ =>
          .pure ⟨mode, criteria⟩ := by
  unfold read
  simp only [Mode.ofJson?_eq_some.2 named]

/-- **The mode comes first.**  A payload that names neither mode is refused for that, whatever
else it holds and whatever the resolver does. -/
theorem outcome_read_no_mode
    (unnamed : ∀ mode : Mode, payload.get? "mode" ≠ some (.str mode.name)) :
    (read resolver payload).outcome =
      .error (.unknownMode (Mode.shown (payload.get? "mode"))) := by
  rw [read_no_mode resolver unnamed]
  rfl

/-- With a mode, the outcome is that of the criteria. -/
theorem outcome_read_mode {mode : Mode}
    (named : payload.get? "mode" = some (.str mode.name)) :
    (read resolver payload).outcome =
      (readPart resolver payload (payload.get? "conditions")).outcome.map (Filter.mk mode) := by
  rw [read_mode resolver named]
  simp only [Logged.outcome_bind]
  cases (readPart resolver payload (payload.get? "conditions")).outcome <;> rfl

/-- No criteria are the empty filter. -/
theorem outcome_read_absent {mode : Mode}
    (named : payload.get? "mode" = some (.str mode.name))
    (absent : payload.get? "conditions" = none) :
    (read resolver payload).outcome = .ok ⟨mode, []⟩ := by
  rw [outcome_read_mode resolver named, absent]
  rfl

/-- Criteria that are no array are refused. -/
theorem outcome_read_no_array {mode : Mode} {other : Json}
    (named : payload.get? "mode" = some (.str mode.name))
    (given : payload.get? "conditions" = some other) (noArray : other.items? = none) :
    (read resolver payload).outcome = .error .criteriaNotArray := by
  rw [outcome_read_mode resolver named, given]
  cases other with
  | arr fragments => simp [Json.items?] at noArray
  | _ => rfl

/-- An array of criteria is read in order. -/
theorem outcome_read_array {mode : Mode} {fragments : List Json}
    (named : payload.get? "mode" = some (.str mode.name))
    (given : payload.get? "conditions" = some (.arr fragments)) :
    (read resolver payload).outcome =
      (inOrder (Criterion.readAt resolver) 0 fragments).map (Filter.mk mode) := by
  rw [outcome_read_mode resolver named, given]
  show (readCriteria resolver 0 fragments).outcome.map _ = _
  rw [outcome_readCriteria]

end

/-! ## §3. All or nothing -/

section
variable {resolver : Resolver} {payload : Json} {mode : Mode} {fragments : List Json}
  (named : payload.get? "mode" = some (.str mode.name))
  (given : payload.get? "conditions" = some (.arr fragments))

include named given

/-- A filter that is read holds what its fragments are read as, in order. -/
theorem outcome_read_eq_ok_iff {filter : Filter} :
    (read resolver payload).outcome = .ok filter ↔
      filter.mode = mode ∧ fragments.length = filter.criteria.length
        ∧ ∀ i fragment criterion, fragments[i]? = some fragment →
          filter.criteria[i]? = some criterion →
          Criterion.readAt resolver i fragment = .ok criterion := by
  rw [outcome_read_array resolver named given, map_eq_ok_iff]
  have each := inOrder_eq_ok_iff (Criterion.readAt resolver) 0 fragments
  simp only [Nat.zero_add] at each
  constructor
  · intro found
    obtain ⟨criteria, hread, rfl⟩ := found
    exact ⟨rfl, (each criteria).1 hread⟩
  · intro found
    obtain ⟨rfl, hread⟩ := found
    exact ⟨filter.criteria, (each _).2 hread, rfl⟩

/-- A filter is read exactly when each of its fragments is. -/
theorem exists_outcome_read_eq_ok_iff :
    (∃ filter, (read resolver payload).outcome = .ok filter) ↔
      ∀ i fragment, fragments[i]? = some fragment →
        ∃ criterion, Criterion.readAt resolver i fragment = .ok criterion := by
  have each := exists_inOrder_eq_ok_iff (Criterion.readAt resolver) 0 fragments
  simp only [Nat.zero_add] at each
  rw [outcome_read_array resolver named given, ← each]
  constructor
  · intro found
    obtain ⟨filter, h⟩ := found
    obtain ⟨criteria, hread, -⟩ := map_eq_ok_iff.1 h
    exact ⟨criteria, hread⟩
  · intro found
    obtain ⟨criteria, hread⟩ := found
    exact ⟨⟨mode, criteria⟩, map_eq_ok_iff.2 ⟨criteria, hread, rfl⟩⟩

/-- The error of a filter is that of the first fragment that fails. -/
theorem outcome_read_eq_error_iff {error : Error} :
    (read resolver payload).outcome = .error error ↔
      ∃ i, FirstFailure (Criterion.readAt resolver) 0 fragments i error := by
  rw [outcome_read_array resolver named given, map_eq_error_iff, inOrder_eq_error_iff]

end

/-- **Every criterion of a filter was read** from one of the fragments that the payload holds. -/
theorem exists_fragment_of_mem {resolver : Resolver} {payload : Json} {filter : Filter}
    (h : (read resolver payload).outcome = .ok filter) {criterion : Criterion}
    (hmem : criterion ∈ filter.criteria) :
    ∃ fragments fragment, payload.get? "conditions" = some (.arr fragments)
      ∧ fragment ∈ fragments ∧ Criterion.ReadFrom resolver fragment criterion := by
  cases hmode : Mode.ofJson? (payload.get? "mode") with
  | none =>
    unfold read at h
    simp only [hmode] at h
    cases h
  | some mode =>
    have named := Mode.ofJson?_eq_some.1 hmode
    cases given : payload.get? "conditions" with
    | none =>
      rw [outcome_read_absent resolver named given] at h
      cases h
      cases hmem
    | some other =>
      cases hitems : other.items? with
      | none =>
        rw [outcome_read_no_array resolver named given hitems] at h
        cases h
      | some fragments =>
        have array : other = .arr fragments := by
          cases other <;> simp_all [Json.items?]
        rw [array] at given
        -- The fragment at the position of the criterion.
        obtain ⟨-, same, each⟩ := (outcome_read_eq_ok_iff named given).1 h
        obtain ⟨i, hi⟩ := List.getElem?_of_mem hmem
        obtain ⟨fragment, hfragment⟩ := exists_getElem?_of_length_eq same hi
        exact ⟨fragments, fragment, by rw [array], List.mem_of_getElem? hfragment,
          Criterion.readFrom_of_read (each i fragment criterion hfragment hi)⟩

/-- Wherever a criterion was read from, it was read from some fragment. -/
theorem exists_readFrom_of_mem {resolver : Resolver} {payload : Json} {filter : Filter}
    (h : (read resolver payload).outcome = .ok filter) :
    ∀ criterion ∈ filter.criteria, ∃ fragment, Criterion.ReadFrom resolver fragment criterion := by
  intro criterion hmem
  obtain ⟨-, fragment, -, -, found⟩ := exists_fragment_of_mem h hmem
  exact ⟨fragment, found⟩

/-- The first failure has its own position, where its kind of error has one. -/
theorem position?_of_firstFailure {resolver : Resolver} {fragments : List Json} {i : Nat}
    {error : Error} (h : FirstFailure (Criterion.readAt resolver) 0 fragments i error)
    (placed : error.isPlaced) : error.position? = some i := by
  obtain ⟨⟨fragment, -, hfail⟩, -⟩ := h
  rw [Nat.zero_add] at hfail
  exact Criterion.position?_of_read hfail placed

/-- **ALL OR NOTHING, WITH EXACT ATTRIBUTION.**  For every resolver, whatever its subjects,
operators and codecs answer, and every payload: a mode that is neither of the two is refused
for that; missing criteria are the empty filter and criteria that are no array are refused;
otherwise the filter is read exactly when every fragment is read on its own, and holds what they
read as in order; else the error is that of the least position that fails, the same whatever
comes after it, and it carries that position where its kind has one. -/
theorem read_all_or_nothing (resolver : Resolver) (payload : Json) :
    ((∀ mode : Mode, payload.get? "mode" ≠ some (.str mode.name)) →
      (read resolver payload).outcome =
        .error (.unknownMode (Mode.shown (payload.get? "mode"))))
    ∧ ∀ mode : Mode, payload.get? "mode" = some (.str mode.name) →
      (payload.get? "conditions" = none → (read resolver payload).outcome = .ok ⟨mode, []⟩)
      ∧ (∀ other, payload.get? "conditions" = some other → other.items? = none →
          (read resolver payload).outcome = .error .criteriaNotArray)
      ∧ ∀ fragments, payload.get? "conditions" = some (.arr fragments) →
          ((∃ filter, (read resolver payload).outcome = .ok filter) ↔
            ∀ i fragment, fragments[i]? = some fragment →
              ∃ criterion, Criterion.readAt resolver i fragment = .ok criterion)
          ∧ (∀ filter, (read resolver payload).outcome = .ok filter ↔
              filter.mode = mode ∧ fragments.length = filter.criteria.length
                ∧ ∀ i fragment criterion, fragments[i]? = some fragment →
                  filter.criteria[i]? = some criterion →
                  Criterion.readAt resolver i fragment = .ok criterion)
          ∧ (∀ error, (read resolver payload).outcome = .error error ↔
              ∃ i, FirstFailure (Criterion.readAt resolver) 0 fragments i error)
          ∧ ∀ i error, FirstFailure (Criterion.readAt resolver) 0 fragments i error →
              (error.isPlaced → error.position? = some i)
              ∧ ∀ later, FirstFailure (Criterion.readAt resolver) 0
                  (fragments.take (i + 1) ++ later) i error := by
  refine ⟨outcome_read_no_mode resolver, fun mode named =>
    ⟨outcome_read_absent resolver named, fun other => outcome_read_no_array resolver named,
      fun fragments given => ?_⟩⟩
  -- What comes after the first failure is never read, so any other end gives the same.
  refine ⟨exists_outcome_read_eq_ok_iff named given,
    fun filter => outcome_read_eq_ok_iff named given,
    fun error => outcome_read_eq_error_iff named given, fun i error first => ?_⟩
  exact ⟨position?_of_firstFailure first, first.take_append⟩

end Filter

end Sift
