/-
  Sift.Proofs.Settings.Validity
  ─────────────────────────────
  **Which settings declare a catalog, and which one.**

  Settings are valid when every declared form is one that its comparison takes and can test, the
  operators of a subject have different identifiers, and so have the subjects.  Nothing else is
  asked of them:

      valid settings   →  the catalog of exactly the declared subjects, each with its operators
      a fault in them  →  the error of the first one, in the order of the declarations

  Faults are stated on the declarations alone.  An operator is at fault for its form before it is
  for its identifier, and a subject for its operators before it is for its own identifier.

  Main result: `Settings.toCatalog_declares`, for all settings.
-/
import Sift.Proofs.Fault
import Sift.Proofs.Operator.Table
import Sift.Proofs.Settings.Scope

namespace Sift.Settings

open Outcome

/-! ## §1. Operators -/

namespace OperatorDeclaration

/-- **A suitable form**: where one is declared, the comparison takes an operand and can test
those of the form. -/
def FormSuits (o : OperatorDeclaration) : Prop :=
  ∀ form, o.form = some form →
    o.comparison.needsOperand = true ∧ o.comparison.accepts form = true

/-- **The fault of an operator** that is declared after others of its subject. -/
inductive Fault (subject : String) (before : List OperatorDeclaration)
    (o : OperatorDeclaration) : Error → Prop
  | notTaken {form : Form} (given : o.form = some form)
      (bare : o.comparison.needsOperand = false) :
      Fault subject before o (formNotTaken subject o.comparison)
  | notAccepted {form : Form} (given : o.form = some form)
      (needed : o.comparison.needsOperand = true) (refused : o.comparison.accepts form = false) :
      Fault subject before o (formNotAccepted subject o.comparison form)
  | repeated (suits : o.FormSuits) (known : o.effectiveId ∈ before.map (·.effectiveId)) :
      Fault subject before o (.alreadyRegistered .operator o.effectiveId)

/-- The fault of a form, whatever came before. -/
theorem build_eq_error_iff {subject : String} {o : OperatorDeclaration} {error : Error} :
    o.build subject = .error error ↔ ∃ form, o.form = some form
      ∧ (o.comparison.needsOperand = false ∧ formNotTaken subject o.comparison = error
        ∨ o.comparison.needsOperand = true ∧ o.comparison.accepts form = false
          ∧ formNotAccepted subject o.comparison form = error) := by
  unfold build
  cases given : o.form with
  | none => simp
  | some form =>
    cases needed : o.comparison.needsOperand with
    | false => simp
    | true => cases accepted : o.comparison.accepts form <;> simp [accepted]

/-- An operator that is built is the declared one, of a suitable form. -/
theorem build_eq_ok_iff {subject : String} {o : OperatorDeclaration}
    {operator : StandardOperator} :
    o.build subject = .ok operator ↔ o.FormSuits ∧ o.declared = operator := by
  unfold build FormSuits
  cases given : o.form with
  | none => simp
  | some form =>
    cases needed : o.comparison.needsOperand with
    | false => simp
    | true => cases accepted : o.comparison.accepts form <;> simp [accepted]

/-- An operator is built, and then added. -/
def step (subject : String) (table : OperatorTable) (o : OperatorDeclaration) :
    Except Error OperatorTable :=
  (o.build subject).bind fun operator => (table.add operator.toOperator).outcome

/-- A table stands for the operators that were declared. -/
def Built (done : List OperatorDeclaration) (table : OperatorTable) : Prop :=
  table.operators = done.map (·.declared.toOperator)

theorem built_empty : Built [] .empty := rfl

/-- The identifiers of such a table. -/
theorem ids_of_built {done : List OperatorDeclaration} {table : OperatorTable}
    (built : Built done table) : table.ids = done.map (·.effectiveId) := by
  unfold OperatorTable.ids
  rw [built, List.map_map]
  rfl

/-- **One step** refuses exactly the faults of the operator, and otherwise adds it. -/
theorem builds_step (subject : String) : Builds (step subject) Built (Fault subject) where
  refuses := by
    intro done table o error built
    simp only [step, bind_eq_error_iff, build_eq_ok_iff, OperatorTable.add_eq_error_iff,
      ids_of_built built]
    -- The form is refused by `build`, and then the identifier by `add`.
    constructor
    · intro failed
      rcases failed with failed | ⟨operator, ⟨suits, rfl⟩, known, rfl⟩
      · obtain ⟨form, given, ⟨bare, rfl⟩ | ⟨needed, refused, rfl⟩⟩ := build_eq_error_iff.1 failed
        · exact .notTaken given bare
        · exact .notAccepted given needed refused
      · exact .repeated suits known
    · intro fault
      cases fault with
      | notTaken given bare =>
        exact Or.inl (build_eq_error_iff.2 ⟨_, given, Or.inl ⟨bare, rfl⟩⟩)
      | notAccepted given needed refused =>
        exact Or.inl (build_eq_error_iff.2 ⟨_, given, Or.inr ⟨needed, refused, rfl⟩⟩)
      | repeated suits known => exact Or.inr ⟨o.declared, ⟨suits, rfl⟩, known, rfl⟩
  proceeds := by
    intro done table o table' built h
    simp only [step, bind_eq_ok_iff, build_eq_ok_iff] at h
    obtain ⟨operator, ⟨-, rfl⟩, added⟩ := h
    unfold Built
    rw [OperatorTable.operators_of_add added, built, List.map_append, List.map_singleton]

end OperatorDeclaration

/-! ## §2. Subjects -/

namespace SubjectDeclaration

/-- **A valid subject**: its forms suit, and its operators have different identifiers. -/
structure Valid (d : SubjectDeclaration) : Prop where
  forms : ∀ o ∈ d.operators, o.FormSuits
  distinct : (d.operators.map (·.effectiveId)).Nodup

/-- **The fault of a subject** that is declared after others: the first one of its operators, or
else that of its identifier. -/
inductive Fault (before : List SubjectDeclaration) (d : SubjectDeclaration) : Error → Prop
  | operators {error : Error}
      (first : FirstFault (OperatorDeclaration.Fault d.id) d.operators error) :
      Fault before d error
  | repeated (valid : d.Valid) (known : d.id ∈ before.map (·.id)) :
      Fault before d (.alreadyRegistered .subject d.id)

/-- Valid subjects are those without a fault of an operator. -/
theorem valid_iff_sound {d : SubjectDeclaration} :
    d.Valid ↔ Sound (OperatorDeclaration.Fault d.id) d.operators := by
  constructor
  · intro valid before o after split error fault
    have member : o ∈ d.operators := by simp [split]
    cases fault with
    | notTaken given bare =>
      have needed := (valid.forms o member _ given).1
      rw [bare] at needed
      cases needed
    | notAccepted given needed refused =>
      have accepted := (valid.forms o member _ given).2
      rw [refused] at accepted
      cases accepted
    | repeated suits known =>
      exact (nodup_map_iff_fresh _).1 valid.distinct before o after split known
  · intro sound
    -- The forms come first: an identifier is at fault only where the form suits.
    have forms : ∀ o ∈ d.operators, o.FormSuits := by
      intro o member form given
      obtain ⟨before, after, split⟩ := List.append_of_mem member
      have clean := sound before o after split
      cases needed : o.comparison.needsOperand with
      | false => exact absurd (.notTaken given needed) (clean _)
      | true =>
        cases accepted : o.comparison.accepts form with
        | false => exact absurd (.notAccepted given needed accepted) (clean _)
        | true => exact ⟨rfl, rfl⟩
    refine ⟨forms, (nodup_map_iff_fresh _).2 ?_⟩
    intro before o after split known
    have member : o ∈ d.operators := by simp [split]
    exact sound before o after split _ (.repeated (forms o member) known)

/-- The operators of a subject are built one by one. -/
theorem outcome_buildTable (subject : String) :
    ∀ (os : List OperatorDeclaration) (table : OperatorTable),
      (buildTable subject table os).outcome = os.foldlM (OperatorDeclaration.step subject) table
  | [], _ => rfl
  | o :: rest, table => by
      rw [List.foldlM_cons]
      simp only [buildTable, Logged.outcome_bind, Logged.outcome_quietly, OperatorDeclaration.step,
        outcome_buildTable subject rest]
      cases o.build subject with
      | error error => rfl
      | ok operator => rfl

variable {root : Option String} {d : SubjectDeclaration}

/-- **A subject is built** exactly when it is valid. -/
theorem exists_build_iff : (∃ subject, (d.build root).outcome = .ok subject) ↔ d.Valid := by
  rw [valid_iff_sound,
    ← (OperatorDeclaration.builds_step d.id).exists_foldlM_eq_ok_iff
      OperatorDeclaration.built_empty,
    ← outcome_buildTable, outcome_build]
  simp only [map_eq_ok_iff]
  constructor
  · intro found
    -- What is built from the table cannot fail, so the table decides.
    obtain ⟨subject, table, h, -⟩ := found
    exact ⟨table, h⟩
  · intro found
    obtain ⟨table, h⟩ := found
    exact ⟨_, table, h, rfl⟩

/-- The error of a subject is the first fault of its operators. -/
theorem build_eq_error_iff {error : Error} :
    (d.build root).outcome = .error error ↔
      FirstFault (OperatorDeclaration.Fault d.id) d.operators error := by
  rw [outcome_build, map_eq_error_iff, outcome_buildTable]
  exact (OperatorDeclaration.builds_step d.id).foldlM_eq_error_iff OperatorDeclaration.built_empty

/-- A subject that was built has the declared operators. -/
theorem operators_of_build {subject : FieldSubject} (h : (d.build root).outcome = .ok subject) :
    subject.table.operators = d.operators.map (·.declared.toOperator) := by
  rw [outcome_build, outcome_buildTable, map_eq_ok_iff] at h
  obtain ⟨table, built, rfl⟩ := h
  exact (OperatorDeclaration.builds_step d.id).built_of_foldlM OperatorDeclaration.built_empty built

/-- A subject is built, and then added. -/
def step (root : Option String) (catalog : Catalog) (d : SubjectDeclaration) :
    Except Error Catalog :=
  (d.build root).outcome.bind fun subject => (catalog.add subject.toSubject).outcome

/-- A catalog stands for the subjects that were declared. -/
def Built (done : List SubjectDeclaration) (catalog : Catalog) : Prop :=
  catalog.ids.Perm (done.map (·.id))

theorem built_empty : Built [] .empty := List.Perm.nil

/-- **One step** refuses exactly the faults of the subject, and otherwise adds it. -/
theorem builds_step (root : Option String) : Builds (step root) Built Fault where
  refuses := by
    intro done catalog d error built
    simp only [step, bind_eq_error_iff, build_eq_error_iff, Catalog.add_eq_error_iff,
      built.mem_iff]
    -- The catalog is asked for the identifier only once the subject is built, so it is valid.
    constructor
    · intro failed
      rcases failed with first | ⟨subject, h, known, rfl⟩
      · exact .operators first
      · have same : subject.toSubject.id = d.id := (of_build_eq_ok h).1
        rw [same] at known ⊢
        exact .repeated (exists_build_iff.1 ⟨subject, h⟩) known
    · intro fault
      cases fault with
      | operators first => exact Or.inl first
      | repeated valid known =>
        obtain ⟨subject, h⟩ := exists_build_iff.2 valid
        have same : subject.toSubject.id = d.id := (of_build_eq_ok h).1
        exact Or.inr ⟨subject, h, same ▸ known, same ▸ rfl⟩
  proceeds := by
    intro done catalog d catalog' built h
    simp only [step, bind_eq_ok_iff] at h
    obtain ⟨subject, hbuild, added⟩ := h
    have same : subject.toSubject.id = d.id := (of_build_eq_ok hbuild).1
    unfold Built
    rw [List.map_append, List.map_singleton, ← same]
    exact (Catalog.perm_ids_of_add added).trans (built.append_right _)

end SubjectDeclaration

/-! ## §3. Settings -/

/-- **Valid settings**: the subjects are valid, and have different identifiers. -/
structure Valid (settings : Settings) : Prop where
  subjects : ∀ d ∈ settings.subjects, d.Valid
  distinct : (settings.subjects.map (·.id)).Nodup

/-- Valid settings are those without a fault. -/
theorem valid_iff_sound {settings : Settings} :
    settings.Valid ↔ Sound SubjectDeclaration.Fault settings.subjects := by
  constructor
  · intro valid before d after split error fault
    have member : d ∈ settings.subjects := by simp [split]
    cases fault with
    | operators first =>
      exact (SubjectDeclaration.valid_iff_sound.1 (valid.subjects d member)).not_firstFault _ first
    | repeated _ known =>
      exact (nodup_map_iff_fresh _).1 valid.distinct before d after split known
  · intro sound
    -- A subject that is not valid has a first fault of an operator, which is a fault of its own.
    have subjects : ∀ d ∈ settings.subjects, d.Valid := by
      intro d member
      obtain ⟨before, after, split⟩ := List.append_of_mem member
      rcases sound_or_firstFault (OperatorDeclaration.Fault d.id) d.operators with
        clean | ⟨error, first⟩
      · exact SubjectDeclaration.valid_iff_sound.2 clean
      · exact absurd (.operators first) (sound before d after split error)
    refine ⟨subjects, (nodup_map_iff_fresh _).2 ?_⟩
    intro before d after split known
    have member : d ∈ settings.subjects := by simp [split]
    exact sound before d after split _ (.repeated (subjects d member) known)

/-- The subjects of settings are built and added one by one. -/
theorem outcome_addSubjects (root : Option String) :
    ∀ (ds : List SubjectDeclaration) (catalog : Catalog),
      (addSubjects root catalog ds).outcome = ds.foldlM (SubjectDeclaration.step root) catalog
  | [], _ => rfl
  | d :: rest, catalog => by
      rw [List.foldlM_cons]
      simp only [addSubjects, Logged.outcome_bind, SubjectDeclaration.step,
        outcome_addSubjects root rest]
      cases (d.build root).outcome with
      | error error => rfl
      | ok subject => rfl

/-- **The declared subject**: its identifier, its path, below the root where there is one, and
its operators, each with its identifier, its comparison and its form or else the usual one. -/
structure SubjectDeclaration.Declares (root : Option String) (d : SubjectDeclaration)
    (subject : FieldSubject) : Prop where
  id : subject.id = d.id
  plain : root.getD "" = "" → subject.path = d.path.getD d.id
  below : ∀ r, root = some r → r ≠ "" → subject.path = r ++ "." ++ d.path.getD d.id
  operators : subject.table.operators = d.operators.map fun o => StandardOperator.toOperator
    { id := o.id.getD o.comparison.name
      comparison := o.comparison
      codec := (o.form.or o.comparison.defaultForm?).map Form.codec }

/-- A subject that was built is the declared one. -/
theorem SubjectDeclaration.declares_of_build {root : Option String} {d : SubjectDeclaration}
    {subject : FieldSubject} (h : (d.build root).outcome = .ok subject) :
    d.Declares root subject where
  id := (of_build_eq_ok h).1
  plain := by
    rw [(of_build_eq_ok h).2]
    exact (below_effectivePath root d).plain
  below := by
    rw [(of_build_eq_ok h).2]
    exact (below_effectivePath root d).below
  operators := operators_of_build h

section
variable {settings : Settings}

/-- Settings are built subject by subject. -/
theorem outcome_toCatalog : settings.toCatalog.outcome =
    settings.subjects.foldlM (SubjectDeclaration.step settings.root) .empty :=
  outcome_addSubjects settings.root settings.subjects .empty

/-- **Settings declare a catalog** exactly when they are valid. -/
theorem exists_toCatalog_iff :
    (∃ catalog, settings.toCatalog.outcome = .ok catalog) ↔ settings.Valid := by
  rw [outcome_toCatalog, valid_iff_sound]
  exact (SubjectDeclaration.builds_step settings.root).exists_foldlM_eq_ok_iff
    SubjectDeclaration.built_empty

/-- The error of settings is their first fault. -/
theorem toCatalog_eq_error_iff {error : Error} :
    settings.toCatalog.outcome = .error error ↔
      FirstFault SubjectDeclaration.Fault settings.subjects error := by
  rw [outcome_toCatalog]
  exact (SubjectDeclaration.builds_step settings.root).foldlM_eq_error_iff
    SubjectDeclaration.built_empty

variable {catalog : Catalog} (declared : settings.toCatalog.outcome = .ok catalog)

include declared

/-- The identifiers of a declared catalog are the declared ones. -/
theorem perm_ids_of_toCatalog : catalog.ids.Perm (settings.subjects.map (·.id)) := by
  rw [outcome_toCatalog] at declared
  exact (SubjectDeclaration.builds_step settings.root).built_of_foldlM
    SubjectDeclaration.built_empty declared

/-- Every declaration is found as the subject that is built from it. -/
theorem find_of_mem_toCatalog {d : SubjectDeclaration} (member : d ∈ settings.subjects) :
    ∃ subject, (d.build settings.root).outcome = .ok subject
      ∧ catalog.find d.id = .ok subject.toSubject := by
  obtain ⟨subject, built, found⟩ := get?_of_mem_addSubjects declared member
  exact ⟨subject, built, Catalog.find_of_get? found⟩

/-- **What is found was declared.** -/
theorem exists_declaration_of_find {id : String} {subject : Subject}
    (found : catalog.find id = .ok subject) :
    ∃ d ∈ settings.subjects, d.id = id
      ∧ ∃ field, (d.build settings.root).outcome = .ok field ∧ subject = field.toSubject := by
  obtain ⟨same, member⟩ := Catalog.of_find_eq_ok found
  -- The identifiers of the catalog are those of the declarations, so one of them is meant.
  have known : id ∈ settings.subjects.map (·.id) :=
    (perm_ids_of_toCatalog declared).mem_iff.1 (List.mem_map.2 ⟨subject, member, same⟩)
  obtain ⟨d, hd, rfl⟩ := List.mem_map.1 known
  obtain ⟨field, built, again⟩ := find_of_mem_toCatalog declared hd
  rw [found] at again
  cases again
  exact ⟨d, hd, rfl, field, built, rfl⟩

end

/-- The second operator is at fault for its form, although its identifier is there as well, and
although the subject that follows has the identifier of the first. -/
example : (toCatalog ⟨none, [⟨"due", none, [⟨none, .before, none⟩, ⟨none, .before, some .text⟩]⟩,
      ⟨"due", none, []⟩]⟩).outcome =
    .error (.invalidSettings "条件字段 due 的操作符 before 不支持值类型 String") := rfl

end Sift.Settings
