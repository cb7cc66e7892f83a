/-
  Sift.Proofs.Subject.Registry
  ────────────────────────────
  **A catalog behind its handles is one finite map.**

  A registry is a catalog that starts empty and is reached through handles, the copies of its first
  one.  Requests go through any of them, in any order, and further copies are made in between.  The
  map that explains the answers knows nothing of handles: it is what the requests made so far leave
  (`Table.after`), and every request is answered from it (`Answered`).

    • `Stands` — the handles of a registry stand for one catalog, whose entries are the table's;
    • `Stands.ask` — one request through any of the handles keeps that and is answered from the
      table;
    • `lookup_tableOf` — an entry of the table is the subject that was added last under its
      identifier and not removed since.

  Main result: `shared_registry_is_one_map`.
-/
import Mathlib.Data.Finmap
import Sift.Subject.Workspace
import Sift.Proofs.Subject.Catalog
import Sift.Proofs.Text.ByteOrder

namespace Sift.Registry

/-! ## §1. Requests through handles -/

/-- A request to a registry. -/
inductive Request where
  | add (subject : Subject)
  | remove (id : String)
  | contains (id : String)
  | size
  | isEmpty
  | ids
  | find (id : String)

/-- What a request is answered. -/
inductive Answer where
  | changed (outcome : Except Error Unit)
  | truth (holds : Bool)
  | count (n : Nat)
  | names (ids : List String)
  | found (outcome : Except Error Subject)

/-- A part of a history: a handle is copied, or a request goes through one. -/
inductive Step where
  | share (handle second : String)
  | ask (handle : String) (request : Request)

/-- The request of a step that makes one. -/
def Step.request? : Step → Option Request
  | .share .. => none
  | .ask _ request => some request

/-- The requests that were made, each with its answer. -/
abbrev Transcript := List (Request × Answer)

/-- **A request through a handle**: the workspace after it, and the answer. -/
def ask? (w : Workspace) (handle : String) : Request → Option (Workspace × Answer)
  | .add subject =>
    let result := w.update handle (·.add subject)
    some (result.1, .changed result.2.outcome)
  | .remove id =>
    let result := w.update handle (·.remove id)
    some (result.1, .changed result.2.outcome)
  | .contains id => (w.get? handle).map fun catalog => (w, .truth (catalog.contains id))
  | .size => (w.get? handle).map fun catalog => (w, .count catalog.size)
  | .isEmpty => (w.get? handle).map fun catalog => (w, .truth catalog.isEmpty)
  | .ids => (w.get? handle).map fun catalog => (w, .names catalog.ids)
  | .find id => (w.get? handle).map fun catalog => (w, .found (catalog.find id))

/-- **A history**, step by step: the workspace after it, and what was answered. -/
def run? (w : Workspace) : List Step → Option (Workspace × Transcript)
  | [] => some (w, [])
  | .share handle second :: rest => (w.share? handle second).bind fun after => run? after rest
  | .ask handle request :: rest =>
    (ask? w handle request).bind fun (after, answer) =>
      (run? after rest).map fun (last, transcript) => (last, (request, answer) :: transcript)

/-- A history goes through the handles `copies` and those it copies from them. -/
def Through : List String → List Step → Prop
  | _, [] => True
  | copies, .share handle second :: rest => handle ∈ copies ∧ Through (second :: copies) rest
  | copies, .ask handle _ :: rest => handle ∈ copies ∧ Through copies rest

/-! ## §2. The map -/

/-- Subjects by identifier. -/
abbrev Table := Finmap fun _ : String => Subject

/-- **What a request leaves.**  Adding under an identifier that is there changes nothing, nor does
removing one that is not. -/
def Table.after (table : Table) : Request → Table
  | .add subject => if subject.id ∈ table then table else table.insert subject.id subject
  | .remove id => if id ∈ table then table.erase id else table
  | _ => table

/-- **The answer from a table.**  Identifiers are listed by their UTF-8 bytes. -/
def Answered (table : Table) : Request → Answer → Prop
  | .add subject, .changed outcome =>
    outcome = if subject.id ∈ table then .error (.alreadyRegistered .subject subject.id) else .ok ()
  | .remove id, .changed outcome =>
    outcome = if id ∈ table then .ok () else .error (.noSubject id)
  | .contains id, .truth holds => holds = decide (id ∈ table)
  | .size, .count n => n = table.keys.card
  | .isEmpty, .truth holds => holds = decide (table.keys.card = 0)
  | .ids, .names ids =>
    ids.Pairwise (fun id id' => Text.bytes id < Text.bytes id') ∧ ∀ id, id ∈ ids ↔ id ∈ table
  | .find id, .found outcome =>
    outcome = match table.lookup id with
      | some subject => .ok subject
      | none => .error (.noSubject id)
  | _, _ => False

/-- The table that the requests of a transcript leave. -/
def tableOf (transcript : Transcript) : Table := (transcript.map (·.1)).foldl Table.after ∅

/-- A request that was granted and changed the entry of an identifier. -/
def Changes (id : String) : Request × Answer → Prop
  | (.add subject, .changed (.ok ())) => subject.id = id
  | (.remove removed, .changed (.ok ())) => removed = id
  | _ => False

/-- The subject was added under its identifier, and the entry was not changed since. -/
def AddedLast (transcript : Transcript) (id : String) (subject : Subject) : Prop :=
  ∃ earlier later, transcript = earlier ++ (.add subject, .changed (.ok ())) :: later ∧
    subject.id = id ∧ ∀ entry ∈ later, ¬ Changes id entry

/-! ## §3. A catalog as a table -/

/-- The catalog has the entries of the table. -/
def Represents (catalog : Catalog) (table : Table) : Prop :=
  ∀ id, table.lookup id = catalog.get? id

section
variable {catalog : Catalog} {table : Table} (h : Represents catalog table)

include h

theorem Represents.mem_iff (id : String) : id ∈ table ↔ id ∈ catalog.ids := by
  rw [← not_iff_not, ← Finmap.lookup_eq_none, h id, Catalog.get?_eq_none_iff]

/-- The identifiers of a catalog are the keys, each once. -/
theorem Represents.keys_eq : table.keys = catalog.ids.toFinset := by
  ext id
  rw [Finmap.mem_keys, h.mem_iff, List.mem_toFinset]

theorem Represents.card_keys : table.keys.card = catalog.size := by
  have distinct : catalog.ids.Nodup := catalog.sorted.imp fun below => String.ne_of_lt below
  rw [h.keys_eq, List.toFinset_card_of_nodup distinct, Catalog.ids, List.length_map, Catalog.size]

/-- **Adding to the catalog** is adding to the table. -/
theorem Represents.add (subject : Subject) :
    (subject.id ∈ table ∧
        (catalog.add subject).outcome = .error (.alreadyRegistered .subject subject.id)) ∨
      subject.id ∉ table ∧ ∃ changed, (catalog.add subject).outcome = .ok changed ∧
        Represents changed (table.insert subject.id subject) := by
  -- The catalog decides, and the table is asked what it knew.
  cases outcome : (catalog.add subject).outcome with
  | error error =>
    obtain ⟨known, rfl⟩ := Catalog.add_eq_error_iff.1 outcome
    exact .inl ⟨(h.mem_iff _).2 known, rfl⟩
  | ok changed =>
    obtain ⟨fresh, -⟩ := Catalog.eq_place_of_add outcome
    refine .inr ⟨fun known => ?_, changed, rfl, fun id => ?_⟩
    · exact Catalog.get?_eq_none_iff.1 fresh ((h.mem_iff _).1 known)
    · rw [Catalog.get?_of_add outcome]
      by_cases same : subject.id = id
      · rw [if_pos same, ← same, Finmap.lookup_insert]
      · rw [if_neg same, Finmap.lookup_insert_of_ne _ (Ne.symm same), h id]

/-- **Removing from the catalog** is removing from the table. -/
theorem Represents.remove (id : String) :
    (id ∈ table ∧ ∃ changed, (catalog.remove id).outcome = .ok changed ∧
        Represents changed (table.erase id)) ∨
      id ∉ table ∧ (catalog.remove id).outcome = .error (.noSubject id) := by
  rw [Catalog.outcome_remove]
  by_cases known : id ∈ table
  · have there := Catalog.contains_eq_true_iff.2 ((h.mem_iff id).1 known)
    refine .inl ⟨known, catalog.without id, if_pos there, fun other => ?_⟩
    -- Removal is one look-up in both, at that name and at any other.
    rw [Catalog.get?_without]
    by_cases same : id = other
    · rw [if_pos same, ← same, Finmap.lookup_erase]
    · rw [if_neg same, Finmap.lookup_erase_ne (Ne.symm same), h other]
  · refine .inr ⟨known, if_neg fun there => known ?_⟩
    exact (h.mem_iff id).2 (Catalog.contains_eq_true_iff.1 there)

/-- The identifiers of a catalog are listed by their bytes. -/
theorem Represents.ids : Answered table .ids (.names catalog.ids) :=
  ⟨catalog.sorted.imp fun below => (Text.bytes_lt_iff _ _).2 below, fun id => (h.mem_iff id).symm⟩

theorem Represents.find (id : String) : Answered table (.find id) (.found (catalog.find id)) := by
  show catalog.find id = _
  rw [h id]
  unfold Catalog.find
  cases catalog.get? id <;> rfl

end

/-! ## §4. One step -/

/-- The handles `copies` stand for the catalog of number `n`, which has the entries of the table. -/
structure Stands (n : Nat) (copies : List String) (table : Table) (w : Workspace) : Prop where
  number : ∀ handle ∈ copies, w.number? handle = some n
  catalog : ∃ catalog, w.catalogs[n]? = some catalog ∧ Represents catalog table

/-- A new registry stands behind its first handle, without entries. -/
theorem stands_create (w : Workspace) (root : String) :
    Stands w.catalogs.length [root] ∅ (w.create root .empty) where
  number handle hh := by
    rw [List.mem_singleton.1 hh]
    simp [Workspace.number?, Workspace.create]
  catalog := ⟨.empty, by simp [Workspace.create], fun id => by
    rw [Finmap.lookup_empty]
    rfl⟩

section
variable {n : Nat} {copies : List String} {table : Table} {w : Workspace}
  (h : Stands n copies table w) {handle : String} (known : handle ∈ copies)

include h known

/-- **A copied handle** stands for the catalog of the handle that it was copied from. -/
theorem Stands.share (second : String) :
    ∃ after, w.share? handle second = some after ∧ Stands n (second :: copies) table after := by
  unfold Workspace.share?
  rw [h.number handle known]
  refine ⟨_, rfl, ?_, h.catalog⟩
  intro other hother
  -- The new handle may have the name of an old one, and stands before it then.
  by_cases same : second = other
  · simp [Workspace.number?, same]
  · have old : other ∈ copies := (List.mem_cons.1 hother).resolve_left (Ne.symm same)
    simpa [Workspace.number?, same] using h.number other old

/-- A handle gives the catalog. -/
theorem Stands.get? : ∃ catalog, w.get? handle = some catalog ∧ Represents catalog table := by
  obtain ⟨catalog, there, represents⟩ := h.catalog
  refine ⟨catalog, ?_, represents⟩
  rw [Workspace.get?, h.number handle known, Option.bind_some, there]

/-- **A granted change** through a handle is seen through all of them. -/
theorem Stands.update_of_ok {change : Catalog → Logged Catalog} {changed : Table}
    (granted : ∀ catalog, Represents catalog table →
      ∃ next, (change catalog).outcome = .ok next ∧ Represents next changed) :
    Stands n copies changed (w.update handle change).1 ∧
      (w.update handle change).2.outcome = .ok () := by
  -- Every handle leads to the one catalog, so the change is seen through all of them.
  obtain ⟨catalog, there, represents⟩ := h.catalog
  have found : w.get? handle = some catalog := by
    rw [Workspace.get?, h.number handle known, Option.bind_some, there]
  obtain ⟨next, outcome, nextRepresents⟩ := granted catalog represents
  have inside : n < w.catalogs.length := (List.getElem?_eq_some_iff.1 there).1
  unfold Workspace.update
  rw [h.number handle known, found]
  simp only [outcome]
  refine ⟨⟨h.number, next, ?_, nextRepresents⟩, trivial⟩
  simp [inside]

/-- **A refused change** leaves everything as it is. -/
theorem Stands.update_of_error {change : Catalog → Logged Catalog} {error : Error}
    (refused : ∀ catalog, Represents catalog table → (change catalog).outcome = .error error) :
    (w.update handle change).1 = w ∧ (w.update handle change).2.outcome = .error error := by
  obtain ⟨catalog, found, represents⟩ := h.get? known
  unfold Workspace.update
  rw [h.number handle known, found]
  simp only [refused catalog represents]
  exact ⟨trivial, trivial⟩

/-- **Adding through a handle.** -/
theorem Stands.ask_add (subject : Subject) :
    ∃ after answer, ask? w handle (.add subject) = some (after, answer) ∧
      Stands n copies (table.after (.add subject)) after ∧
        Answered table (.add subject) answer := by
  refine ⟨(w.update handle (·.add subject)).1,
    .changed (w.update handle (·.add subject)).2.outcome, rfl, ?_⟩
  unfold Table.after Answered
  -- The two cases of the table are the two cases of the answer.
  by_cases there : subject.id ∈ table
  · obtain ⟨same, outcome⟩ := h.update_of_error known fun catalog represents =>
      ((represents.add subject).resolve_right fun fresh => fresh.1 there).2
    simp only [if_pos there, same, outcome]
    exact ⟨h, trivial⟩
  · obtain ⟨stands, outcome⟩ := h.update_of_ok known fun catalog represents =>
      ((represents.add subject).resolve_left fun old => there old.1).2
    simp only [if_neg there, outcome]
    exact ⟨stands, trivial⟩

/-- **Removing through a handle.** -/
theorem Stands.ask_remove (id : String) :
    ∃ after answer, ask? w handle (.remove id) = some (after, answer) ∧
      Stands n copies (table.after (.remove id)) after ∧ Answered table (.remove id) answer := by
  refine ⟨(w.update handle (·.remove id)).1,
    .changed (w.update handle (·.remove id)).2.outcome, rfl, ?_⟩
  unfold Table.after Answered
  -- A known subject goes and the table with it; otherwise the workspace is as it was.
  by_cases there : id ∈ table
  · obtain ⟨stands, outcome⟩ := h.update_of_ok known fun catalog represents =>
      ((represents.remove id).resolve_right fun absent => absent.1 there).2
    simp only [if_pos there, outcome]
    exact ⟨stands, trivial⟩
  · obtain ⟨same, outcome⟩ := h.update_of_error known fun catalog represents =>
      ((represents.remove id).resolve_left fun old => there old.1).2
    simp only [if_neg there, same, outcome]
    exact ⟨h, trivial⟩

/-- **One request** through any of the handles is answered from the table, and leaves what the
table has after it. -/
theorem Stands.ask (request : Request) :
    ∃ after answer, ask? w handle request = some (after, answer) ∧
      Stands n copies (table.after request) after ∧ Answered table request answer := by
  -- All but the two changes only look at the catalog and leave the workspace as it is.
  obtain ⟨catalog, found, represents⟩ := h.get? known
  cases request with
  | add subject => exact h.ask_add known subject
  | remove id => exact h.ask_remove known id
  | contains id =>
    refine ⟨w, _, by rw [ask?, found]; rfl, h, ?_⟩
    exact Bool.eq_iff_iff.2 <| by
      rw [Catalog.contains_eq_true_iff, ← represents.mem_iff, decide_eq_true_iff]
  | size =>
    refine ⟨w, _, by rw [ask?, found]; rfl, h, ?_⟩
    exact represents.card_keys.symm
  | isEmpty =>
    refine ⟨w, _, by rw [ask?, found]; rfl, h, ?_⟩
    exact Bool.eq_iff_iff.2 <| by
      rw [decide_eq_true_iff, represents.card_keys, Catalog.size, List.length_eq_zero_iff,
        Catalog.isEmpty, List.isEmpty_iff]
  | ids =>
    refine ⟨w, _, by rw [ask?, found]; rfl, h, ?_⟩
    exact represents.ids
  | find id =>
    refine ⟨w, _, by rw [ask?, found]; rfl, h, ?_⟩
    exact represents.find id

end

/-! ## §5. Histories -/

/-- The transcript is explained by the table that it starts from: every request is answered from
what the requests before it have left. -/
def ExplainedFrom (table : Table) (transcript : Transcript) : Prop :=
  ∀ past request answer rest, transcript = past ++ (request, answer) :: rest →
    Answered ((past.map (·.1)).foldl Table.after table) request answer

theorem ExplainedFrom.cons {table : Table} {request : Request} {answer : Answer}
    {transcript : Transcript} (first : Answered table request answer)
    (others : ExplainedFrom (table.after request) transcript) :
    ExplainedFrom table ((request, answer) :: transcript) := by
  intro past request' answer' rest split
  -- The answer is the first one, or one of the others, asked later.
  cases past with
  | nil =>
    rw [List.nil_append, List.cons.injEq, Prod.mk.injEq] at split
    obtain ⟨⟨rfl, rfl⟩, -⟩ := split
    exact first
  | cons entry past =>
    rw [List.cons_append, List.cons.injEq] at split
    obtain ⟨rfl, split⟩ := split
    exact others past request' answer' rest split

/-- **Every history** through copies of a registry runs, and its answers are those of the table. -/
theorem Stands.run {n : Nat} :
    ∀ {steps : List Step} {copies : List String} {table : Table} {w : Workspace},
      Stands n copies table w → Through copies steps →
      ∃ after transcript, run? w steps = some (after, transcript) ∧
        transcript.map (·.1) = steps.filterMap Step.request? ∧ ExplainedFrom table transcript
  | [], _, _, w, _, _ => ⟨w, [], rfl, rfl, fun past _ _ _ split => by
      cases past <;> cases split⟩
  -- Sharing adds a name for the catalog and asks nothing.
  | .share handle second :: rest, copies, table, w, h, through => by
      obtain ⟨after, shared, stands⟩ := h.share through.1 second
      obtain ⟨last, transcript, ran, requests, explained⟩ := stands.run through.2
      exact ⟨last, transcript, by rw [run?, shared, Option.bind_some, ran], requests, explained⟩
  -- A request moves the table on, whatever handle it came through.
  | .ask handle request :: rest, copies, table, w, h, through => by
      obtain ⟨after, answer, asked, stands, answered⟩ := h.ask through.1 request
      obtain ⟨last, transcript, ran, requests, explained⟩ := stands.run through.2
      refine ⟨last, (request, answer) :: transcript, ?_, ?_, explained.cons answered⟩
      · rw [run?, asked, Option.bind_some]
        simp only [ran, Option.map_some]
      · rw [List.map_cons, requests]
        rfl

/-! ## §6. What the table holds -/

section
variable {table : Table} {request : Request} {answer : Answer}
  (answered : Answered table request answer) {id : String}

include answered

/-- An entry stays where its identifier was not added or removed. -/
theorem lookup_after_of_not_changes (kept : ¬ Changes id (request, answer)) :
    (table.after request).lookup id = table.lookup id := by
  cases request with
  | add subject =>
    cases answer with
    | changed outcome =>
      change outcome = _ at answered
      rw [Table.after]
      -- An addition that is refused leaves the table; one that is granted is of another name.
      by_cases there : subject.id ∈ table
      · rw [if_pos there]
      · rw [if_neg there] at answered ⊢
        subst answered
        exact Finmap.lookup_insert_of_ne _ fun same => kept same.symm
    | _ => cases answered
  | remove removed =>
    cases answer with
    | changed outcome =>
      change outcome = _ at answered
      rw [Table.after]
      by_cases there : removed ∈ table
      · rw [if_pos there] at answered ⊢
        subst answered
        exact Finmap.lookup_erase_ne fun same => kept same.symm
      · rw [if_neg there]
    | _ => cases answered
  | _ => rfl

/-- A granted change sets the entry of its identifier to the subject added, or clears it. -/
theorem lookup_after_of_changes (changes : Changes id (request, answer)) :
    answer = .changed (.ok ()) ∧
      ((∃ subject, request = .add subject ∧ subject.id = id ∧
          (table.after request).lookup id = some subject) ∨
        request = .remove id ∧ (table.after request).lookup id = none) := by
  unfold Changes at changes
  split at changes
  · rename_i subject same
    cases same
    -- The answer was a success, so the name was new.
    change Except.ok () = _ at answered
    by_cases there : subject.id ∈ table
    · rw [if_pos there] at answered
      cases answered
    · refine ⟨rfl, .inl ⟨subject, rfl, changes, ?_⟩⟩
      rw [Table.after, if_neg there, ← changes, Finmap.lookup_insert]
  · rename_i removed same
    cases same
    -- Here it was a success too, so the name was known.
    change Except.ok () = _ at answered
    by_cases there : removed ∈ table
    · subst changes
      exact ⟨rfl, .inr ⟨rfl, by rw [Table.after, if_pos there, Finmap.lookup_erase]⟩⟩
    · rw [if_neg there] at answered
      cases answered
  · cases changes

end

/-- A subject was added last, or before the last request and that one left its entry alone. -/
theorem addedLast_concat_iff {transcript : Transcript} {entry : Request × Answer} {id : String}
    {subject : Subject} :
    AddedLast (transcript ++ [entry]) id subject ↔
      (entry = (.add subject, .changed (.ok ())) ∧ subject.id = id) ∨
        AddedLast transcript id subject ∧ ¬ Changes id entry := by
  constructor
  · rintro ⟨earlier, later, split, same, kept⟩
    -- The last addition is the new entry itself, or lies before it.
    rcases List.eq_nil_or_concat' later with rfl | ⟨between, last, rfl⟩
    · obtain ⟨-, isLast⟩ := List.append_inj' split rfl
      exact .inl ⟨List.singleton_inj.1 isLast, same⟩
    · rw [← List.cons_append, ← List.append_assoc] at split
      obtain ⟨front, isLast⟩ := List.append_inj' split rfl
      refine .inr ⟨⟨earlier, between, front, same, fun e he => kept e ?_⟩, ?_⟩
      · exact List.mem_append_left _ he
      · rw [List.singleton_inj.1 isLast]
        exact kept last (by simp)
  · rintro (⟨rfl, same⟩ | ⟨⟨earlier, later, rfl, same, kept⟩, untouched⟩)
    · exact ⟨transcript, [], rfl, same, by simp⟩
    · refine ⟨earlier, later ++ [entry], by simp, same, fun e he => ?_⟩
      rcases List.mem_append.1 he with he | he
      · exact kept e he
      · rw [List.mem_singleton.1 he]
        exact untouched

/-- What is explained is so from the start on. -/
theorem ExplainedFrom.of_append {table : Table} {past rest : Transcript}
    (explained : ExplainedFrom table (past ++ rest)) : ExplainedFrom table past := by
  rintro before request answer after rfl
  exact explained before request answer (after ++ rest) (by simp)

/-- **An entry of the table** is the subject that was added last under its identifier and not
removed since. -/
theorem lookup_tableOf {transcript : Transcript} (explained : ExplainedFrom ∅ transcript)
    (id : String) (subject : Subject) :
    (tableOf transcript).lookup id = some subject ↔ AddedLast transcript id subject := by
  induction transcript using List.reverseRecOn with
  | nil =>
    constructor
    · intro found
      rw [tableOf, List.map_nil, List.foldl_nil, Finmap.lookup_empty] at found
      cases found
    · rintro ⟨earlier, later, split, -⟩
      cases earlier <;> cases split
  -- Induction on the last entry: the latest change of a name is what counts.
  | append_singleton past entry ih =>
    obtain ⟨request, answer⟩ := entry
    have answered : Answered (tableOf past) request answer := explained past request answer [] rfl
    have step : tableOf (past ++ [(request, answer)]) = (tableOf past).after request := by
      simp [tableOf]
    rw [addedLast_concat_iff, step]
    -- Either the entry changes that name, and its own answer says to what, or it does not.
    by_cases changes : Changes id (request, answer)
    · obtain ⟨rfl, ⟨added, rfl, same, now⟩ | ⟨rfl, now⟩⟩ := lookup_after_of_changes answered changes
      · rw [now]
        constructor
        · intro found
          cases found
          exact .inl ⟨rfl, same⟩
        · rintro (⟨isAdd, -⟩ | ⟨-, untouched⟩)
          · cases isAdd
            rfl
          · exact absurd changes untouched
      · rw [now]
        constructor
        · intro found
          cases found
        · rintro (⟨isAdd, -⟩ | ⟨-, untouched⟩)
          · cases isAdd
          · exact absurd changes untouched
    · have notAdded :
          ¬ ((request, answer) = (.add subject, .changed (.ok ())) ∧ subject.id = id) := by
        rintro ⟨isAdd, same⟩
        rw [isAdd] at changes
        exact changes same
      rw [lookup_after_of_not_changes answered changes, ih explained.of_append,
        or_iff_right notAdded, and_iff_left changes]

/-- **A registry is one finite map behind all its handles.**  In every history of requests through
a new registry's first handle and copies of it, every request is answered from the table that the
requests before it have left, whose entries are the subjects added last and not removed since. -/
theorem shared_registry_is_one_map (w : Workspace) (root : String) (steps : List Step)
    (through : Through [root] steps) :
    ∃ last transcript, run? (w.create root .empty) steps = some (last, transcript) ∧
      transcript.map (·.1) = steps.filterMap Step.request? ∧
      ∀ past request answer rest, transcript = past ++ (request, answer) :: rest →
        Answered (tableOf past) request answer ∧
          ∀ id subject, (tableOf past).lookup id = some subject ↔ AddedLast past id subject := by
  obtain ⟨last, transcript, ran, requests, explained⟩ := (stands_create w root).run through
  refine ⟨last, transcript, ran, requests, ?_⟩
  rintro past request answer rest rfl
  exact ⟨explained past request answer rest rfl, lookup_tableOf explained.of_append⟩

/-- Two subjects come and go through a registry's first handle and a copy of it. -/
def shortHistory : List Step :=
  let status := (FieldSubject.of "status").toSubject
  let branch := (FieldSubject.of "branch").toSubject
  [.ask "first" (.add status), .share "first" "copy", .ask "copy" (.add branch),
    .ask "copy" (.add status), .ask "first" .ids, .ask "first" (.remove "status"),
    .ask "copy" (.remove "status"), .ask "copy" (.find "status"), .ask "first" (.find "branch")]

/-- The registry of the short history is one map. -/
theorem shared_registry_is_one_map_short :
    Through ["first"] shortHistory ∧
      ∃ last transcript, run? (Workspace.empty.create "first" .empty) shortHistory =
          some (last, transcript) ∧
        transcript.map (·.1) = shortHistory.filterMap Step.request? ∧
        ∀ past request answer rest, transcript = past ++ (request, answer) :: rest →
          Answered (tableOf past) request answer ∧
            ∀ id subject, (tableOf past).lookup id = some subject ↔ AddedLast past id subject :=
  have through : Through ["first"] shortHistory := by simp [Through, shortHistory]
  ⟨through, shared_registry_is_one_map .empty "first" shortHistory through⟩

end Sift.Registry
