/-
  Sift.Proofs.Settings.Log
  ────────────────────────
  **The log tells what is registered.**

  A registry that is changed request by request is the replay of its log (`Registry.Stands.record`).
  A catalog that settings declare is built by the same additions, so its log is a list of info
  events, one for each subject that was added, in the order of the declarations:

      the settings are valid     →  all subjects, and nothing else
      a subject is at fault      →  the subjects before it; then one warning where the fault is an
                                    identifier that was there, of an operator or of the subject

  Building a subject adds nothing, so it leaves no event but that warning (`Logged.Warns`).

  Main result: `Settings.log_replays_to_identifiers`.
-/
import Sift.Proofs.Settings.Validity
import Sift.Proofs.Subject.Log

namespace Sift

open Outcome

/-! ## §1. Runs that warn -/

/-- The warning that an identifier was there. -/
def Event.ofRepeated : Registered → String → Event
  | .subject, id => .subjectRepeated id
  | .operator, id => .operatorRepeated id

/-- **The warnings of an error**: one for an identifier that was there, none for other causes. -/
def Error.warnings : Error → List Event
  | .alreadyRegistered what id => [.ofRepeated what id]
  | _ => []

theorem Error.warnings_of_other {error : Error}
    (other : ∀ what id, error ≠ .alreadyRegistered what id) : error.warnings = [] := by
  cases error with
  | alreadyRegistered what id => exact absurd rfl (other what id)
  | _ => rfl

theorem Event.level_ofRepeated (what : Registered) (id : String) :
    (ofRepeated what id).level = .warn := by
  cases what <;> rfl

/-- Warnings do not change what a log is replayed to. -/
theorem replayFrom_warnings (ids : Finset String) (error : Error) :
    replayFrom ids error.warnings = ids := by
  cases error with
  | alreadyRegistered what id => cases what <;> rfl
  | _ => rfl

namespace Logged

/-- **A run warns**: a success leaves no event, and a failure the warnings of its error. -/
inductive Warns : Logged α → Prop
  | success (a : α) : Warns (pure a)
  | failure (error : Error) : Warns ⟨.error error, error.warnings⟩

namespace Warns

variable {x : Logged α}

/-- **Step**: sequencing keeps that. -/
theorem bind {f : α → Logged β} (first : Warns x) (second : ∀ a, Warns (f a)) :
    Warns (x.bind f) := by
  cases first with
  | success a =>
    rw [pure_bind]
    exact second a
  | failure error => exact .failure error

theorem events_of_ok (warns : Warns x) {a : α} (h : x.outcome = .ok a) : x.events = [] := by
  cases warns with
  | success _ => rfl
  | failure _ => cases h

theorem events_of_error (warns : Warns x) {error : Error} (h : x.outcome = .error error) :
    x.events = error.warnings := by
  cases warns with
  | success _ => cases h
  | failure _ =>
    cases h
    rfl

end Warns

end Logged

/-- Adding an operator warns. -/
theorem OperatorTable.warns_add (table : OperatorTable) (operator : Operator) :
    (table.add operator).Warns := by
  unfold add
  split
  · exact .failure (.alreadyRegistered .operator operator.id)
  · exact .success _

namespace Settings

/-! ## §2. One subject -/

/-- A form that is refused is not warned of. -/
theorem OperatorDeclaration.warns_build (subject : String) (o : OperatorDeclaration) :
    (Logged.quietly (o.build subject)).Warns := by
  cases built : o.build subject with
  | ok operator => exact .success operator
  | error error =>
    obtain ⟨form, -, ⟨-, rfl⟩ | ⟨-, -, rfl⟩⟩ := build_eq_error_iff.1 built
    · exact .failure (formNotTaken subject o.comparison)
    · exact .failure (formNotAccepted subject o.comparison form)

namespace SubjectDeclaration

theorem warns_buildTable (subject : String) (os : List OperatorDeclaration)
    (table : OperatorTable) : (buildTable subject table os).Warns := by
  induction os generalizing table with
  | nil => exact .success table
  | cons o rest ih =>
    exact (o.warns_build subject).bind fun operator =>
      (table.warns_add operator.toOperator).bind ih

/-- **Building a subject warns.** -/
theorem warns_build (root : Option String) (d : SubjectDeclaration) : (d.build root).Warns :=
  (warns_buildTable d.id d.operators .empty).bind fun _ => .success _

/-- A subject is built, and then added; the outcome is that of `step`. -/
def enter (root : Option String) (catalog : Catalog) (d : SubjectDeclaration) : Logged Catalog :=
  (d.build root).bind fun subject => catalog.add subject.toSubject

theorem outcome_enter (root : Option String) (catalog : Catalog) (d : SubjectDeclaration) :
    (enter root catalog d).outcome = step root catalog d :=
  Logged.outcome_bind ..

variable {root : Option String} {catalog : Catalog} {d : SubjectDeclaration}

/-- A subject that enters a catalog leaves the event that it was added. -/
theorem events_enter_of_ok {next : Catalog} (h : (enter root catalog d).outcome = .ok next) :
    (enter root catalog d).events = [.subjectAdded d.id] := by
  rw [outcome_enter] at h
  obtain ⟨subject, built, added⟩ := bind_eq_ok_iff.1 h
  have fresh : subject.toSubject.id ∉ catalog.ids :=
    Catalog.get?_eq_none_iff.1 (Catalog.eq_place_of_add added).1
  have same : subject.toSubject.id = d.id := (of_build_eq_ok built).1
  rw [enter, Logged.events_bind_of_ok built, (warns_build root d).events_of_ok built,
    Catalog.events_add, if_neg fresh, same]
  rfl

/-- One that is refused leaves the warnings of its fault. -/
theorem events_enter_of_error {error : Error}
    (h : (enter root catalog d).outcome = .error error) :
    (enter root catalog d).events = error.warnings := by
  rw [outcome_enter] at h
  rcases bind_eq_error_iff.1 h with failed | ⟨subject, built, refused⟩
  · rw [enter, Logged.events_bind_of_error failed, (warns_build root d).events_of_error failed]
  · obtain ⟨known, rfl⟩ := Catalog.add_eq_error_iff.1 refused
    rw [enter, Logged.events_bind_of_ok built, (warns_build root d).events_of_ok built,
      Catalog.events_add, if_pos known]
    rfl

end SubjectDeclaration

/-! ## §3. All subjects -/

open SubjectDeclaration

/-- The events that subjects were added, in order. -/
def additions (ds : List SubjectDeclaration) : List Event := ds.map fun d => .subjectAdded d.id

section
variable {root : Option String}

/-- The first subject enters, and then the others. -/
theorem addSubjects_eq_enter (catalog : Catalog) (d : SubjectDeclaration)
    (rest : List SubjectDeclaration) :
    addSubjects root catalog (d :: rest) =
      (enter root catalog d).bind (addSubjects root · rest) :=
  (Logged.bind_assoc ..).symm

/-- **Subjects that are all added** leave one event each. -/
theorem events_addSubjects_of_ok {ds : List SubjectDeclaration} {catalog built : Catalog}
    (h : (addSubjects root catalog ds).outcome = .ok built) :
    (addSubjects root catalog ds).events = additions ds := by
  induction ds generalizing catalog with
  | nil => rfl
  | cons d rest ih =>
    rw [addSubjects_eq_enter] at h ⊢
    rw [Logged.outcome_bind, bind_eq_ok_iff] at h
    obtain ⟨next, first, others⟩ := h
    rw [Logged.events_bind_of_ok first, events_enter_of_ok first, ih others]
    rfl

/-- **Subjects one of which is refused**: those before it were added, and leave one event each;
then come the warnings of the fault, and nothing after them. -/
theorem exists_events_addSubjects_of_error {ds : List SubjectDeclaration} {catalog : Catalog}
    {error : Error} (h : (addSubjects root catalog ds).outcome = .error error) :
    ∃ before d after built, ds = before ++ d :: after
      ∧ (addSubjects root catalog before).outcome = .ok built
      ∧ step root built d = .error error
      ∧ (addSubjects root catalog ds).events = additions before ++ error.warnings := by
  induction ds generalizing catalog with
  | nil => cases h
  | cons d rest ih =>
    rw [addSubjects_eq_enter] at h ⊢
    rw [Logged.outcome_bind, bind_eq_error_iff] at h
    rcases h with failed | ⟨next, first, others⟩
    · have fault := (outcome_enter root catalog d).symm.trans failed
      refine ⟨[], d, rest, catalog, rfl, rfl, fault, ?_⟩
      rw [Logged.events_bind_of_error failed, events_enter_of_error failed]
      rfl
    · obtain ⟨before, refused, after, built, rfl, added, fault, events⟩ := ih others
      refine ⟨d :: before, refused, after, built, rfl, ?_, fault, ?_⟩
      · rw [addSubjects_eq_enter, Logged.outcome_bind, first]
        exact added
      · rw [Logged.events_bind_of_ok first, events_enter_of_ok first, events]
        rfl

end

/-- Additions are replayed to the identifiers of the subjects. -/
theorem replay_additions (ds : List SubjectDeclaration) :
    replay (additions ds) = (ds.map (·.id)).toFinset := by
  have same : additions ds = (ds.map (·.id)).map .subjectAdded := by
    rw [additions, List.map_map]
    rfl
  rw [replay, same, replayFrom_added, Finset.empty_union]

/-- **The log of settings up to a fault.**  It is that of the settings up to the subject at fault,
which declare a catalog, with the warnings of the fault at its end. -/
theorem exists_events_toCatalog_of_error {settings : Settings} {error : Error}
    (refused : settings.toCatalog.outcome = .error error) :
    ∃ before d after built, settings.subjects = before ++ d :: after
      ∧ ({ settings with subjects := before } : Settings).toCatalog.outcome = .ok built
      ∧ Fault before d error
      ∧ settings.toCatalog.events = additions before ++ error.warnings := by
  obtain ⟨before, d, after, built, split, added, fault, events⟩ :=
    exists_events_addSubjects_of_error refused
  have declared : ({ settings with subjects := before } : Settings).toCatalog.outcome =
      .ok built := added
  have stands : Built before built := perm_ids_of_toCatalog declared
  exact ⟨before, d, after, built, split, declared,
    ((builds_step settings.root).refuses stands).1 fault, events⟩

/-- The second subject is at fault for an operator, so the third, which has the identifier of the
first, is not looked at. -/
example : (toCatalog ⟨none, [⟨"due", none, []⟩,
      ⟨"status", none, [⟨none, .is, none⟩, ⟨none, .is, none⟩]⟩, ⟨"due", none, []⟩]⟩).events =
    [.subjectAdded "due", .operatorRepeated "is"] := rfl

/-- A catalog has the identifiers that the additions of its subjects tell of. -/
theorem ids_of_toCatalog {settings : Settings} {catalog : Catalog}
    (declared : settings.toCatalog.outcome = .ok catalog) :
    catalog.ids.toFinset = replay (additions settings.subjects) := by
  rw [replay_additions]
  exact List.toFinset_eq_of_perm _ _ (perm_ids_of_toCatalog declared)

/-! ## §4. Logs and identifiers -/

open Registry

/-- **THE LOG TELLS WHAT IS REGISTERED.**

* Every history of requests through a new registry's first handle and copies of it leaves, request
  by request, one info event where a change was granted and one warning where it was refused, both
  with the identifier, and nothing where it only asked.  After any part of the history the info
  events so far, replayed from no identifier on, give exactly those that the registry lists.
* Settings that declare a catalog leave the event of its addition for each of their subjects, in
  order, and nothing else.  Settings that do not leave it for the subjects before the first one at
  fault, which were added, and for none after them.  Where the fault is an identifier that was
  there, of an operator or of the subject, a warning comes last; for any other fault there is none. -/
theorem log_replays_to_identifiers :
    (∀ (w : Workspace) (root : String) (steps : List Step), Through [root] steps →
      ∃ last entries, record? (w.create root .empty) steps = some (last, entries)
        ∧ run? (w.create root .empty) steps = some (last, entries.map Entry.exchange)
        ∧ entries.map (·.request) = steps.filterMap Step.request?
        ∧ (∀ entry ∈ entries, entry.Reported)
        ∧ ∀ past later, steps = past ++ later →
          ∃ now before after, record? (w.create root .empty) past = some (now, before)
            ∧ entries = before ++ after
            ∧ ∀ handle ∈ copiesAfter [root] past, ∃ ids,
              ask? now handle .ids = some (now, .names ids) ∧ ids.Nodup
                ∧ ids.toFinset = replay (logOf before))
    ∧ ∀ settings : Settings,
      (∀ catalog, settings.toCatalog.outcome = .ok catalog →
        settings.toCatalog.events = additions settings.subjects
          ∧ catalog.ids.toFinset = replay settings.toCatalog.events)
      ∧ ∀ error, settings.toCatalog.outcome = .error error →
        ∃ before d after built, settings.subjects = before ++ d :: after
          ∧ Fault before d error
          ∧ ({ settings with subjects := before } : Settings).toCatalog.outcome = .ok built
          ∧ built.ids.toFinset = replay settings.toCatalog.events
          ∧ (∀ what id, error = .alreadyRegistered what id →
            settings.toCatalog.events = additions before ++ [.ofRepeated what id]
              ∧ (Event.ofRepeated what id).level = .warn)
          ∧ ((∀ what id, error ≠ .alreadyRegistered what id) →
            settings.toCatalog.events = additions before) := by
  refine ⟨?_, fun settings => ⟨?_, ?_⟩⟩
  · intro w root steps through
    have start := stands_create w root
    obtain ⟨last, entries, -, recorded, -, requests, reported, -⟩ := start.record through
    refine ⟨last, entries, recorded, ?_, requests, reported, ?_⟩
    · rw [run?_eq_map_record?, recorded]
      rfl
    · rintro past later rfl
      -- The history is cut in two, and the second part starts where the first has stopped.
      obtain ⟨first, second⟩ := through_append.1 through
      obtain ⟨now, before, keys, recordedBefore, stands, -, -, replayed⟩ := start.record first
      obtain ⟨stop, after, -, recordedAfter, -⟩ := stands.record second
      have whole := record?_append recordedBefore recordedAfter
      rw [recorded] at whole
      cases whole
      refine ⟨now, before, after, recordedBefore, rfl, fun handle known => ?_⟩
      obtain ⟨ids, listed, distinct, same⟩ := stands.ask_ids known
      exact ⟨ids, listed, distinct, same.trans replayed.symm⟩
  · intro catalog declared
    have events : settings.toCatalog.events = additions settings.subjects :=
      events_addSubjects_of_ok declared
    exact ⟨events, by rw [events, ids_of_toCatalog declared]⟩
  · intro error refused
    obtain ⟨before, d, after, built, split, declared, fault, events⟩ :=
      exists_events_toCatalog_of_error refused
    refine ⟨before, d, after, built, split, fault, declared, ?_, ?_, ?_⟩
    · rw [events, replay, replayFrom_append, replayFrom_warnings]
      exact ids_of_toCatalog declared
    · rintro what id rfl
      exact ⟨events, Event.level_ofRepeated what id⟩
    · intro other
      rw [events, Error.warnings_of_other other, List.append_nil]

/-- The log of the short history, in which one addition and one removal are refused. -/
theorem log_replays_to_identifiers_short :
    Through ["first"] shortHistory
    ∧ ∃ last entries, record? (Workspace.empty.create "first" .empty) shortHistory =
        some (last, entries)
      ∧ logOf entries = [.subjectAdded "status", .subjectAdded "branch", .subjectRepeated "status",
          .subjectRemoved "status", .subjectAbsent "status"]
      ∧ ∃ ids, ask? last "copy" .ids = some (last, .names ids) ∧ ids.Nodup
        ∧ ids.toFinset = {"branch"} := by
  have through : Through ["first"] shortHistory := by simp [Through, shortHistory]
  have log : (record? (Workspace.empty.create "first" .empty) shortHistory).map
      (fun recorded => logOf recorded.2) =
        some [.subjectAdded "status", .subjectAdded "branch", .subjectRepeated "status",
          .subjectRemoved "status", .subjectAbsent "status"] := rfl
  obtain ⟨last, entries, recorded, -, -, -, atAnyTime⟩ :=
    log_replays_to_identifiers.1 .empty "first" shortHistory through
  rw [recorded] at log
  have log := Option.some.inj log
  -- The whole history is taken as the past, with nothing after it.
  obtain ⟨now, before, after, recordedBefore, -, listed⟩ := atAnyTime shortHistory [] rfl
  rw [recorded] at recordedBefore
  cases recordedBefore
  obtain ⟨ids, asked, distinct, same⟩ := listed "copy" (by decide)
  refine ⟨through, last, entries, recorded, log, ids, asked, distinct, ?_⟩
  rw [same]
  change logOf entries = _ at log
  rw [log]
  decide

end Settings

end Sift
