/-
  Sift.Proofs.Subject.Log
  ───────────────────────
  **The log of a registry replays to its identifiers.**

  Every request that changes a registry, through whichever handle, leaves one event, and the event
  names the identifier:

      granted  →  an info event: the identifier was added, or it was removed
      refused  →  a warning

  So a reader who keeps a set of identifiers, and looks at the info events alone, has those of the
  registry at any time.  What an event does to that set (`Event.track`) is said without the
  registry; what a request leaves is told from the table before it (`Table.events`).

    • `replayFrom_events` — one request: the set goes from the keys before it to those after it;
    • `Stands.record` — every history, by induction on its steps.

  Main results: `Stands.record`, `record?_append`.
-/
import Sift.Proofs.Subject.Registry

namespace Sift

/-! ## §1. Events that are replayed -/

namespace Event

/-- **An event of a level names an identifier**, and nothing else. -/
def Names (event : Event) (level : Level) (id : String) : Prop :=
  event.level = level ∧ event.fields = [("choice_id", id)]

/-- What an event tells of a set of identifiers. -/
def track (ids : Finset String) : Event → Finset String
  | subjectAdded id => insert id ids
  | subjectRemoved id => ids.erase id
  | _ => ids

end Event

/-- **Replay**: the identifiers that the info events of a log tell of, from the given ones on. -/
def replayFrom (ids : Finset String) (log : List Event) : Finset String :=
  (log.filter fun event => event.level = .info).foldl Event.track ids

/-- The replay of a log from its start. -/
def replay (log : List Event) : Finset String := replayFrom ∅ log

/-- A longer log goes on from what the shorter one tells. -/
theorem replayFrom_append (ids : Finset String) (log later : List Event) :
    replayFrom ids (log ++ later) = replayFrom (replayFrom ids log) later := by
  unfold replayFrom
  rw [List.filter_append, List.foldl_append]

/-- Additions alone are replayed to what was added. -/
theorem replayFrom_added (ids : Finset String) (added : List String) :
    replayFrom ids (added.map .subjectAdded) = ids ∪ added.toFinset := by
  induction added generalizing ids with
  | nil => exact (Finset.union_empty ids).symm
  | cons id rest ih =>
    show replayFrom (insert id ids) (rest.map .subjectAdded) = _
    rw [ih, List.toFinset_cons, Finset.insert_union, Finset.union_insert]

namespace Registry

/-! ## §2. Histories with their log -/

/-- The identifier that a request changes the entry of. -/
def Request.changed? : Request → Option String
  | .add subject => some subject.id
  | .remove id => some id
  | _ => none

/-- A request that was made, its answer, and the events that it left. -/
structure Entry where
  request : Request
  answer : Answer
  events : List Event

/-- The request and its answer. -/
def Entry.exchange (entry : Entry) : Request × Answer := (entry.request, entry.answer)

/-- The log of some entries. -/
def logOf (entries : List Entry) : List Event := entries.flatMap (·.events)

/-- **The events of a request** through a handle; one that only asks leaves none. -/
def eventsOf (w : Workspace) (handle : String) : Request → List Event
  | .add subject => (w.update handle (·.add subject)).2.events
  | .remove id => (w.update handle (·.remove id)).2.events
  | _ => []

/-- **A history with its log**: the workspace after it, and its entries. -/
def record? (w : Workspace) : List Step → Option (Workspace × List Entry)
  | [] => some (w, [])
  | .share handle second :: rest => (w.share? handle second).bind fun after => record? after rest
  | .ask handle request :: rest =>
    (ask? w handle request).bind fun (after, answer) =>
      (record? after rest).map fun (last, entries) =>
        (last, ⟨request, answer, eventsOf w handle request⟩ :: entries)

/-- **The log disturbs nothing**: the requests and their answers are those of the history. -/
theorem run?_eq_map_record? (w : Workspace) (steps : List Step) :
    run? w steps =
      (record? w steps).map fun (last, entries) => (last, entries.map Entry.exchange) := by
  -- On the steps, over every workspace: the next step starts from what this one leaves.
  induction steps generalizing w with
  | nil => rfl
  | cons step rest ih =>
    cases step with
    | share handle second =>
      rw [run?, record?]
      cases w.share? handle second with
      | none => rfl
      | some after => exact ih after
    | ask handle request =>
      rw [run?, record?]
      cases ask? w handle request with
      | none => rfl
      | some next =>
        simp only [Option.bind_some, ih next.1]
        cases record? next.1 rest <;> rfl

/-- A request is recorded before what comes after it. -/
theorem record?_ask {w after last : Workspace} {handle : String} {request : Request}
    {answer : Answer} {rest : List Step} {entries : List Entry}
    (asked : ask? w handle request = some (after, answer))
    (recorded : record? after rest = some (last, entries)) :
    record? w (.ask handle request :: rest) =
      some (last, ⟨request, answer, eventsOf w handle request⟩ :: entries) := by
  rw [record?, asked, Option.bind_some]
  simp only [recorded, Option.map_some]

/-- **A longer history** goes on where the shorter one has stopped, and so does its log. -/
theorem record?_append {w now last : Workspace} {past later : List Step}
    {before after : List Entry} (first : record? w past = some (now, before))
    (second : record? now later = some (last, after)) :
    record? w (past ++ later) = some (last, before ++ after) := by
  -- On the past, whose first step is the first of both sides.
  induction past generalizing w before with
  | nil =>
    cases first
    exact second
  | cons step rest ih =>
    cases step with
    | share handle name =>
      rw [List.cons_append, record?]
      rw [record?, Option.bind_eq_some_iff] at first
      obtain ⟨shared, there, first⟩ := first
      rw [there, Option.bind_some, ih first]
    | ask handle request =>
      rw [record?, Option.bind_eq_some_iff] at first
      obtain ⟨⟨next, answer⟩, asked, first⟩ := first
      obtain ⟨⟨stop, entries⟩, recorded, same⟩ := Option.map_eq_some_iff.1 first
      cases same
      exact record?_ask asked (ih recorded)

/-- The handles that stand for the registry after some steps. -/
def copiesAfter (copies : List String) : List Step → List String
  | [] => copies
  | .share _ second :: rest => copiesAfter (second :: copies) rest
  | .ask .. :: rest => copiesAfter copies rest

/-- The steps of a history go through the handles that the steps before them have left. -/
theorem through_append {copies : List String} {past later : List Step} :
    Through copies (past ++ later) ↔
      Through copies past ∧ Through (copiesAfter copies past) later := by
  induction past generalizing copies with
  | nil => exact (and_iff_right trivial).symm
  | cons step rest ih =>
    cases step <;> simp only [List.cons_append, Through, copiesAfter, ih, and_assoc]

/-! ## §3. One request -/

/-- **An entry is reported**: a granted change by one info event, a refused one by one warning,
which name the identifier; and what only asks leaves no event. -/
inductive Entry.Reported : Entry → Prop
  | granted {request : Request} {id : String} {event : Event}
      (changes : request.changed? = some id) (names : event.Names .info id) :
      Reported ⟨request, .changed (.ok ()), [event]⟩
  | refused {request : Request} {id : String} {error : Error} {event : Event}
      (changes : request.changed? = some id) (names : event.Names .warn id) :
      Reported ⟨request, .changed (.error error), [event]⟩
  | asked {request : Request} {answer : Answer} (asks : request.changed? = none) :
      Reported ⟨request, answer, []⟩

/-- **What a request leaves in the log**, told from the table before it. -/
def Table.events (table : Table) : Request → List Event
  | .add subject =>
    if subject.id ∈ table then [.subjectRepeated subject.id] else [.subjectAdded subject.id]
  | .remove id => if id ∈ table then [.subjectRemoved id] else [.subjectAbsent id]
  | _ => []

/-- A request that is answered from the table is reported. -/
theorem reported_of_answered {table : Table} {request : Request} {answer : Answer}
    (answered : Answered table request answer) :
    Entry.Reported ⟨request, answer, table.events request⟩ := by
  cases request with
  | add subject =>
    cases answer with
    | changed outcome =>
      change outcome = _ at answered
      rw [answered]
      -- Whether the subject is known settles the answer and the event together.
      by_cases there : subject.id ∈ table
      · simp only [Table.events, if_pos there]
        exact .refused rfl ⟨rfl, rfl⟩
      · simp only [Table.events, if_neg there]
        exact .granted rfl ⟨rfl, rfl⟩
    | _ => cases answered
  | remove id =>
    cases answer with
    | changed outcome =>
      change outcome = _ at answered
      rw [answered]
      by_cases there : id ∈ table
      · simp only [Table.events, if_pos there]
        exact .granted rfl ⟨rfl, rfl⟩
      · simp only [Table.events, if_neg there]
        exact .refused rfl ⟨rfl, rfl⟩
    | _ => cases answered
  | _ => exact .asked rfl

/-- **Step**: the events of a request take the keys before it to those after it. -/
theorem replayFrom_events (table : Table) (request : Request) :
    replayFrom table.keys (table.events request) = (table.after request).keys := by
  cases request with
  | add subject =>
    by_cases there : subject.id ∈ table
    · simp only [Table.events, Table.after, if_pos there]
      rfl
    · simp only [Table.events, Table.after, if_neg there]
      -- A known subject leaves no event; this one is new, and its event inserts it.
      show insert subject.id table.keys = _
      ext id
      rw [Finset.mem_insert, Finmap.mem_keys, Finmap.mem_keys, Finmap.mem_insert]
  | remove removed =>
    by_cases there : removed ∈ table
    · simp only [Table.events, Table.after, if_pos there, Finmap.keys_erase]
      rfl
    · simp only [Table.events, Table.after, if_neg there]
      rfl
  | _ => rfl

section
variable {n : Nat} {copies : List String} {table : Table} {w : Workspace}
  (h : Stands n copies table w) {handle : String} (known : handle ∈ copies)

include h known

/-- A change through a handle leaves the events that it leaves of the catalog. -/
theorem Stands.events_update (change : Catalog → Logged Catalog) :
    ∃ catalog, Represents catalog table ∧
      (w.update handle change).2.events = (change catalog).events := by
  obtain ⟨catalog, found, represents⟩ := h.get? known
  refine ⟨catalog, represents, ?_⟩
  unfold Workspace.update
  rw [h.number handle known, found]
  cases outcome : (change catalog).outcome <;> simp only [outcome]

/-- **The events of a request** through any of the handles are told from the table. -/
theorem Stands.eventsOf (request : Request) :
    eventsOf w handle request = table.events request := by
  cases request with
  | add subject =>
    obtain ⟨catalog, represents, events⟩ := h.events_update known (·.add subject)
    rw [Registry.eventsOf, events, Catalog.events_add, Table.events]
    simp only [represents.mem_iff]
  | remove id =>
    obtain ⟨catalog, represents, events⟩ := h.events_update known (·.remove id)
    rw [Registry.eventsOf, events, Catalog.events_remove, Table.events]
    simp only [represents.mem_iff]
  | _ => rfl

/-- A registry lists its keys, each once, through any of its handles. -/
theorem Stands.ask_ids :
    ∃ ids, ask? w handle .ids = some (w, .names ids) ∧ ids.Nodup ∧ ids.toFinset = table.keys := by
  obtain ⟨catalog, found, represents⟩ := h.get? known
  refine ⟨catalog.ids, by rw [ask?, found]; rfl, ?_, represents.keys_eq.symm⟩
  exact catalog.sorted.imp fun below => String.ne_of_lt below

end

/-! ## §4. Histories -/

/-- **Run**: every history through copies of a registry runs, each of its entries is reported, and
its log takes the keys before it to those after it. -/
theorem Stands.record {n : Nat} :
    ∀ {steps : List Step} {copies : List String} {table : Table} {w : Workspace},
      Stands n copies table w → Through copies steps →
      ∃ last entries changed, record? w steps = some (last, entries) ∧
        Stands n (copiesAfter copies steps) changed last ∧
        entries.map (·.request) = steps.filterMap Step.request? ∧
        (∀ entry ∈ entries, entry.Reported) ∧
        replayFrom table.keys (logOf entries) = changed.keys
  | [], _, table, w, h, _ => ⟨w, [], table, rfl, h, rfl, by simp, rfl⟩
  | .share handle second :: rest, _, _, w, h, through => by
      obtain ⟨after, shared, stands⟩ := h.share through.1 second
      obtain ⟨last, entries, changed, recorded, others⟩ := stands.record through.2
      exact ⟨last, entries, changed, by rw [record?, shared, Option.bind_some, recorded], others⟩
  -- A sharing step logs nothing; a request adds its own entry, and the replay goes through that
  -- first.
  | .ask handle request :: rest, _, table, w, h, through => by
      obtain ⟨after, answer, asked, stands, answered⟩ := h.ask through.1 request
      obtain ⟨last, entries, changed, recorded, stop, requests, reported, replayed⟩ :=
        stands.record through.2
      have events := h.eventsOf through.1 request
      refine ⟨last, ⟨request, answer, table.events request⟩ :: entries, changed, ?_, stop, ?_, ?_,
        ?_⟩
      · rw [record?_ask asked recorded, events]
      · rw [List.map_cons, requests]
        rfl
      · exact List.forall_mem_cons.2 ⟨reported_of_answered answered, reported⟩
      · rw [logOf, List.flatMap_cons, replayFrom_append, replayFrom_events]
        exact replayed

end Registry

end Sift
