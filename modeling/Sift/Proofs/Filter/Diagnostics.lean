/-
  Sift.Proofs.Filter.Diagnostics
  ──────────────────────────────
  **What the reading of a payload leaves in the log.**

  Every stage of reading a fragment reports, and so does their sequence (`Logged.Reports`): it
  leaves no event where it succeeds, and one where it stops.  The criteria of a filter are read
  in order, so their events are those of the first fragment that fails, and a filter leaves one
  event in all cases:

      it is read               →  that it is, with the number of its criteria
      its mode or its criteria →  one event that shows the whole payload
      a fragment of it         →  the event of that fragment, which shows it and its position

  Main results:
    * `Criterion.reports_read` — one fragment.
    * `Filter.events_readCriteria_of_firstFailure` — fragments in order.
    * `Filter.one_event_per_reading` — both, for every resolver and every payload.
-/
import Sift.Proofs.Event
import Sift.Proofs.Filter.Reading

namespace Sift

open Outcome

/-! ## §1. What events show -/

namespace Event

/-- **A debug event shows a text under a name**: of its fields exactly one has that name, and
it has that text. -/
def Shows (event : Event) (name text : String) : Prop :=
  event.level = .debug ∧ event.fields.filter (·.1 == name) = [(name, text)]

/-- A debug event shows a fragment of a payload and its position. -/
def ShowsFragment (event : Event) (fragment : Json) (position : Option Nat) : Prop :=
  event.Shows "condition" fragment.text
    ∧ event.Shows "condition_index" (Text.optional countText position)

/-- Whatever the stage, the event of a refused criterion shows its fragment. -/
theorem showsFragment (stage : Stage) (fragment : Json) (position : Option Nat) :
    (criterionRefused stage fragment position).ShowsFragment fragment position := by
  cases stage <;> exact ⟨⟨rfl, rfl⟩, rfl, rfl⟩

end Event

/-! ## §2. One fragment -/

namespace Criterion

section
variable (refuse : Stage → Event) (position : Option Nat)

theorem reports_findSubject (resolver : Resolver) (asked : String) :
    (findSubject resolver refuse position asked).Reports refuse := by
  unfold findSubject
  split
  · exact .success _
  · exact .failure _ _

theorem reports_findOperator (subject : Subject) (subjectId asked : String) :
    (findOperator subject refuse position subjectId asked).Reports refuse := by
  unfold findOperator
  split
  · exact .success _
  · exact .failure _ _

theorem reports_readOperand (codec : Codec) (subjectId operatorId : String) (raw : Option Json) :
    (readOperand codec refuse position subjectId operatorId raw).Reports refuse := by
  unfold readOperand
  split
  · exact .failure _ _
  · split
    · exact .success _
    · exact .failure _ _

theorem reports_readValue (subject : Subject) (operator : Operator)
    (subjectId operatorId : String) (raw : Option Json) :
    (readValue subject operator refuse position subjectId operatorId raw).Reports refuse := by
  unfold readValue
  split
  · exact .success _
  · exact (reports_readOperand refuse position _ _ _ raw).bind fun _ => .success _

end

/-- **The reading of a fragment reports**, whatever the resolver, the subject and the codec
answer. -/
theorem reports_read (resolver : Resolver) (fragment : Json) (position : Option Nat) :
    (read resolver fragment position).Reports (Event.criterionRefused · fragment position) := by
  unfold read
  split
  · exact .failure .subjectMissing _
  · exact .failure .operatorMissing _
  · refine (reports_findSubject _ position resolver _).bind fun subject => ?_
    refine (reports_findOperator _ position subject _ _).bind fun operator => ?_
    exact reports_readValue _ position subject operator _ _ _

/-- A fragment that is refused leaves one event, which shows the fragment and its position. -/
theorem leavesOne_of_error {resolver : Resolver} {fragment : Json} {position : Option Nat}
    {error : Error} (h : (read resolver fragment position).outcome = .error error) :
    (read resolver fragment position).LeavesOne (·.ShowsFragment fragment position) := by
  obtain ⟨stage, left⟩ := (reports_read resolver fragment position).exists_events_of_error h
  exact ⟨_, left, Event.showsFragment stage fragment position⟩

end Criterion

namespace Filter

/-! ## §3. Fragments in order -/

/-- Fragments that are all read leave no event. -/
theorem events_readCriteria_of_ok {resolver : Resolver} {k : Nat} {fragments : List Json}
    {criteria : List Criterion} (h : (readCriteria resolver k fragments).outcome = .ok criteria) :
    (readCriteria resolver k fragments).events = [] := by
  induction fragments generalizing k criteria with
  | nil => rfl
  | cons fragment rest ih =>
    simp only [readCriteria, Logged.outcome_bind, bind_eq_ok_iff] at h
    obtain ⟨criterion, first, others, remaining, -⟩ := h
    rw [readCriteria, Logged.events_bind_of_ok first, Logged.events_bind_of_ok remaining,
      (Criterion.reports_read resolver fragment (some k)).events_of_ok first, ih remaining]
    rfl

/-- **The events are those of the first fragment that fails**: those before it leave none, and
those after it are not read. -/
theorem events_readCriteria_of_firstFailure {resolver : Resolver} {k i : Nat}
    {fragments : List Json} {error : Error}
    (first : FirstFailure (Criterion.readAt resolver) k fragments i error) :
    ∃ fragment, fragments[i]? = some fragment
      ∧ (Criterion.read resolver fragment (some (k + i))).outcome = .error error
      ∧ (readCriteria resolver k fragments).events =
          (Criterion.read resolver fragment (some (k + i))).events := by
  -- The induction is on the fragments, and the first position moves along with them.
  induction fragments generalizing k i with
  | nil =>
    obtain ⟨⟨fragment, absent, -⟩, -⟩ := first
    cases absent
  | cons fragment rest ih =>
    cases i with
    | zero =>
      have failed : (Criterion.read resolver fragment (some k)).outcome = .error error :=
        firstFailure_zero.1 first
      refine ⟨fragment, rfl, failed, ?_⟩
      rw [readCriteria, Logged.events_bind_of_error failed, Nat.add_zero]
    | succ i =>
      obtain ⟨⟨criterion, read⟩, later⟩ := firstFailure_succ.1 first
      have read : (Criterion.read resolver fragment (some k)).outcome = .ok criterion := read
      have failed : (readCriteria resolver (k + 1) rest).outcome = .error error := by
        rw [outcome_readCriteria]
        exact (inOrder_eq_error_iff _ _ _ _).2 ⟨i, later⟩
      obtain ⟨refused, nth, stopped, events⟩ := ih later
      -- Position `i` of the rest, counted from `k + 1`, is position `i + 1` counted from `k`.
      rw [Nat.add_right_comm k 1 i] at stopped events
      refine ⟨refused, nth, stopped, ?_⟩
      rw [readCriteria, Logged.events_bind_of_ok read, Logged.events_bind_of_error failed,
        (Criterion.reports_read resolver fragment (some k)).events_of_ok read, events]
      rfl

/-! ## §4. A filter -/

section
variable {resolver : Resolver} {payload : Json}

/-- Criteria that are read leave no event. -/
theorem events_readPart_of_ok {given : Option Json} {criteria : List Criterion}
    (h : (readPart resolver payload given).outcome = .ok criteria) :
    (readPart resolver payload given).events = [] := by
  cases given with
  | none => rfl
  | some other =>
    cases other with
    | arr fragments => exact events_readCriteria_of_ok h
    | _ => cases h

/-- **A filter that is read** leaves the event that says so. -/
theorem events_read_of_ok {filter : Filter} (h : (read resolver payload).outcome = .ok filter) :
    (read resolver payload).events =
      [.filterRead filter.mode.name filter.criteria.length] := by
  by_cases unnamed : ∀ mode : Mode, payload.get? "mode" ≠ some (.str mode.name)
  · rw [outcome_read_no_mode resolver unnamed] at h
    cases h
  · obtain ⟨mode, named⟩ := Classical.not_forall_not.1 unnamed
    rw [outcome_read_mode resolver named, map_eq_ok_iff] at h
    obtain ⟨criteria, part, rfl⟩ := h
    rw [read_mode resolver named, Logged.events_bind_of_ok part, events_readPart_of_ok part]
    rfl

/-- **A filter that is refused** leaves one event.  It shows the payload where this names no
mode, or where its criteria are no array; else it is that of the first fragment that fails. -/
theorem leavesOne_of_error {error : Error} (h : (read resolver payload).outcome = .error error) :
    ((∀ mode : Mode, payload.get? "mode" ≠ some (.str mode.name))
        ∧ error = .unknownMode (Mode.shown (payload.get? "mode"))
        ∧ (read resolver payload).LeavesOne (·.Shows "condition_set" payload.text))
      ∨ ((∃ other, payload.get? "conditions" = some other ∧ other.items? = none)
        ∧ error = .criteriaNotArray
        ∧ (read resolver payload).LeavesOne (·.Shows "condition_set" payload.text))
      ∨ ∃ fragments i fragment, payload.get? "conditions" = some (.arr fragments)
        ∧ FirstFailure (Criterion.readAt resolver) 0 fragments i error
        ∧ fragments[i]? = some fragment
        ∧ (read resolver payload).events = (Criterion.read resolver fragment (some i)).events
        ∧ (read resolver payload).LeavesOne (·.ShowsFragment fragment (some i)) := by
  by_cases unnamed : ∀ mode : Mode, payload.get? "mode" ≠ some (.str mode.name)
  · rw [outcome_read_no_mode resolver unnamed] at h
    cases h
    rw [read_no_mode resolver unnamed]
    exact .inl ⟨unnamed, rfl, _, rfl, rfl, rfl⟩
  obtain ⟨mode, named⟩ := Classical.not_forall_not.1 unnamed
  have part := h
  rw [outcome_read_mode resolver named, map_eq_error_iff] at part
  -- Nothing comes after the criteria, as these have failed.
  have events : (read resolver payload).events =
      (readPart resolver payload (payload.get? "conditions")).events := by
    rw [read_mode resolver named, Logged.events_bind_of_error part]
  cases given : payload.get? "conditions" with
  | none =>
    rw [given] at part
    cases part
  | some other =>
    rw [given] at part events
    cases other with
    | arr fragments =>
      obtain ⟨i, first⟩ := (outcome_read_eq_error_iff named given).1 h
      obtain ⟨fragment, nth, refused, left⟩ := events_readCriteria_of_firstFailure first
      rw [Nat.zero_add] at refused left
      have left := events.trans left
      obtain ⟨event, only, shows⟩ := Criterion.leavesOne_of_error refused
      exact .inr (.inr ⟨fragments, i, fragment, rfl, first, nth, left, event, left.trans only,
        shows⟩)
    | _ =>
      cases part
      exact .inr (.inl ⟨⟨_, rfl, rfl⟩, rfl, _, events, rfl, rfl⟩)

/-- In all cases there is exactly one event, a debug event. -/
theorem leavesOne_debug (resolver : Resolver) (payload : Json) :
    (read resolver payload).LeavesOne (·.level = .debug) := by
  cases h : (read resolver payload).outcome with
  | ok filter => exact ⟨_, events_read_of_ok h, rfl⟩
  | error error =>
    obtain ⟨-, -, event, only, shows⟩ | ⟨-, -, event, only, shows⟩ |
      ⟨_, _, _, -, -, -, -, event, only, shows⟩ := leavesOne_of_error h
    · exact ⟨event, only, shows.1⟩
    · exact ⟨event, only, shows.1⟩
    · exact ⟨event, only, shows.1.1⟩

end

end Filter

end Sift
