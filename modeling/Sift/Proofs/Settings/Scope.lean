/-
  Sift.Proofs.Settings.Scope
  ──────────────────────────
  **A root is a scope.**

  A root has a part in paths alone.  The same declarations below two roots are refused with one
  error, or declare catalogs that differ in what stands before the paths (`Catalog.Moved`); so
  settings with a root declare the catalog of the same settings without one, and every subject
  takes its value from what the data holds at the root:

      value below the root  =  (value at the root).bind (value without root)

  The paths are joined as texts, so this needs the law of joined paths (`Json.at?_below`), and
  it has one exception, which is exact: below a root that is not empty, the empty path is the
  empty key of what is there, and no longer the whole of it.

  Main results:
    * `Settings.toCatalog_alike` — settings below two roots.
    * `Settings.root_is_scope_iff` — the scope law and its exception, for all settings.
    * `Settings.empty_path_below_root` — an instance of the exception.
-/
import Sift.Proofs.Outcome
import Sift.Proofs.Path
import Sift.Proofs.Subject.Catalog
import Sift.Settings.Catalog

namespace Sift

open Outcome

/-! ## §1. Subjects below two roots -/

/-- **A path that is below a root**; the empty root is none. -/
structure Path.IsBelow (root : Option String) (path whole : String) : Prop where
  plain : root.getD "" = "" → whole = path
  below : ∀ r, root = some r → r ≠ "" → whole = r ++ "." ++ path

/-- **Two field subjects are one below two roots**: they have the same identifier and the same
operators, and their paths differ in what stands before them. -/
structure FieldSubject.Moved (root root' : Option String) (a b : FieldSubject) : Prop where
  id : a.id = b.id
  table : a.table = b.table
  path : ∃ path, Path.IsBelow root path a.path ∧ Path.IsBelow root' path b.path

/-- Two subjects are such field subjects. -/
def Subject.Moved (root root' : Option String) (s s' : Subject) : Prop :=
  ∃ a b : FieldSubject, a.Moved root root' b ∧ s = a.toSubject ∧ s' = b.toSubject

theorem Subject.Moved.id_eq {root root' : Option String} {s s' : Subject}
    (moved : s.Moved root root' s') : s.id = s'.id := by
  obtain ⟨a, b, same, rfl, rfl⟩ := moved
  exact same.id

/-- **Two catalogs are one below two roots**: subject by subject. -/
def Catalog.Moved (root root' : Option String) (catalog catalog' : Catalog) : Prop :=
  List.Forall₂ (Subject.Moved root root') catalog.subjects catalog'.subjects

theorem Catalog.moved_empty (root root' : Option String) : empty.Moved root root' empty := .nil

namespace Settings

/-! ## §2. Building subjects -/

namespace SubjectDeclaration

/-- The root has a part in the path only. -/
theorem outcome_build (root : Option String) (d : SubjectDeclaration) :
    (d.build root).outcome =
      (buildTable d.id .empty d.operators).outcome.map fun table =>
        ⟨d.id, d.effectivePath root, table⟩ := by
  unfold build
  rw [Logged.outcome_bind]
  cases (buildTable d.id .empty d.operators).outcome <;> rfl

/-- A subject that was built has the declared identifier and the effective path. -/
theorem of_build_eq_ok {root : Option String} {d : SubjectDeclaration} {subject : FieldSubject}
    (h : (d.build root).outcome = .ok subject) :
    subject.id = d.id ∧ subject.path = d.effectivePath root := by
  rw [outcome_build, map_eq_ok_iff] at h
  obtain ⟨table, -, rfl⟩ := h
  exact ⟨rfl, rfl⟩

theorem effectivePath_none (d : SubjectDeclaration) :
    d.effectivePath none = d.path.getD d.id := rfl

/-- The empty root is none. -/
theorem effectivePath_empty (d : SubjectDeclaration) :
    d.effectivePath (some "") = d.path.getD d.id := rfl

theorem effectivePath_some {root : String} (h : root ≠ "") (d : SubjectDeclaration) :
    d.effectivePath (some root) = Path.below root (d.path.getD d.id) := by
  unfold effectivePath
  simp [Option.filter, h]

/-- The path of a declared subject is below the root. -/
theorem below_effectivePath (root : Option String) (d : SubjectDeclaration) :
    Path.IsBelow root (d.path.getD d.id) (d.effectivePath root) where
  plain := by
    intro empty
    cases root with
    | none => rfl
    | some r =>
      -- The empty root stands for no root.
      obtain rfl : r = "" := empty
      exact effectivePath_empty d
  below := by
    intro r given nonempty
    rw [given]
    exact effectivePath_some nonempty d

/-- **A declaration is built alike below two roots.** -/
theorem build_alike (root root' : Option String) (d : SubjectDeclaration) :
    (d.build root).Alike (FieldSubject.Moved root root') (d.build root') := by
  unfold build
  refine (Logged.Alike.refl _).bind ?_
  rintro table _ rfl
  exact .success [] ⟨rfl, rfl, _, below_effectivePath root d, below_effectivePath root' d⟩

end SubjectDeclaration

/-! ## §3. Building the catalog -/

/-- One declaration more: it is built, then added, and then come the others. -/
theorem addSubjects_cons {root : Option String} {catalog built : Catalog}
    {d : SubjectDeclaration} {rest : List SubjectDeclaration} :
    (addSubjects root catalog (d :: rest)).outcome = .ok built ↔
      ∃ subject, (d.build root).outcome = .ok subject
        ∧ ∃ next, (catalog.add subject.toSubject).outcome = .ok next
          ∧ (addSubjects root next rest).outcome = .ok built := by
  simp only [addSubjects, Logged.outcome_bind, bind_eq_ok_iff]

/-- An entry that is there stays. -/
theorem get?_of_addSubjects {root : Option String} {id : String} {s : Subject} :
    ∀ {ds : List SubjectDeclaration} {catalog built : Catalog},
      (addSubjects root catalog ds).outcome = .ok built → catalog.get? id = some s →
      built.get? id = some s
  | [], _, _, h, hs => by
      cases h
      exact hs
  | d :: rest, _, _, h, hs => by
      obtain ⟨subject, -, next, hadd, hrest⟩ := addSubjects_cons.1 h
      exact get?_of_addSubjects hrest (Catalog.get?_of_add_of_some hadd hs)

/-- **Every declaration is looked up** as the subject that is built from it. -/
theorem get?_of_mem_addSubjects {root : Option String} {d : SubjectDeclaration} :
    ∀ {ds : List SubjectDeclaration} {catalog built : Catalog},
      (addSubjects root catalog ds).outcome = .ok built → d ∈ ds →
      ∃ subject, (d.build root).outcome = .ok subject
        ∧ built.get? d.id = some subject.toSubject
  | d' :: rest, _, _, h, hd => by
      obtain ⟨subject, hbuild, next, hadd, hrest⟩ := addSubjects_cons.1 h
      rcases List.mem_cons.1 hd with rfl | hd
      · -- It is there once it has been added, and what is there stays.
        refine ⟨subject, hbuild, get?_of_addSubjects hrest ?_⟩
        have hid : subject.toSubject.id = d.id := (SubjectDeclaration.of_build_eq_ok hbuild).1
        rw [Catalog.get?_of_add hadd, if_pos hid]
      · exact get?_of_mem_addSubjects hrest hd

/-- **Run**: declarations below two roots are added alike. -/
theorem addSubjects_alike {root root' : Option String} (ds : List SubjectDeclaration)
    {catalog catalog' : Catalog} (moved : catalog.Moved root root' catalog') :
    (addSubjects root catalog ds).Alike (Catalog.Moved root root')
      (addSubjects root' catalog' ds) := by
  -- On the declarations, over both catalogs: each adds one subject to either.
  induction ds generalizing catalog catalog' with
  | nil => exact .success [] moved
  | cons d rest ih =>
    refine (d.build_alike root root').bind fun subject subject' same => ?_
    have added := Catalog.add_alike (fun _ _ => Subject.Moved.id_eq) moved
      ⟨subject, subject', same, rfl, rfl⟩
    exact added.bind fun _ _ next => ih next

/-- **Settings with another root** declare the same catalog below it, or have the same fault. -/
theorem toCatalog_alike (settings : Settings) (root : Option String) :
    settings.toCatalog.Alike (Catalog.Moved settings.root root)
      ({ settings with root := root } : Settings).toCatalog := by
  show (addSubjects settings.root .empty settings.subjects).Alike _
    (addSubjects root .empty settings.subjects)
  exact addSubjects_alike settings.subjects (Catalog.moved_empty settings.root root)

/-- Whether a catalog can be built does not depend on the root. -/
theorem addSubjects_of_root {root : Option String} (other : Option String)
    {ds : List SubjectDeclaration} {built : Catalog}
    (h : (addSubjects root .empty ds).outcome = .ok built) :
    ∃ built', (addSubjects other .empty ds).outcome = .ok built' := by
  obtain ⟨built', h', -⟩ := (addSubjects_alike ds (Catalog.moved_empty root other)).exists_ok h
  exact ⟨built', h'⟩

/-! ## §4. The scope law -/

/-- The same settings without a root. -/
def unrooted (settings : Settings) : Settings := { settings with root := none }

/-- **The scope law of paths**: at the effective path below a root lies what the path leads to
from the value at the root, unless the path is empty and the root is not. -/
theorem at?_effectivePath_iff (root : String) (d : SubjectDeclaration) (data : Json) :
    data.at? (d.effectivePath (some root)) =
        ((data.at? root).bind fun inner => inner.at? (d.effectivePath none)) ↔
      root = "" ∨ d.path.getD d.id ≠ "" ∨ data.at? root = none := by
  by_cases hroot : root = ""
  · subst hroot
    simp [SubjectDeclaration.effectivePath_empty, SubjectDeclaration.effectivePath_none]
  · rw [SubjectDeclaration.effectivePath_some hroot, SubjectDeclaration.effectivePath_none]
    by_cases hpath : d.path.getD d.id = ""
    · rw [hpath, Json.at?_below_empty hroot]
      -- The two sides are the empty key of the value at the root, and that value itself.
      cases hvalue : data.at? root with
      | none => simp
      | some inner =>
        have differ := Path.enter?_nil_ne_self inner
        rw [Path.enter?_nil] at differ
        simp [hroot, differ]
    · simp [Json.at?_below hroot hpath, hpath]

/-- **A ROOT IS A SCOPE, WITH ONE EXCEPTION.**  Settings with a root that declare a catalog
declare one without it too, and for every declared subject and all data, the value below the
root is the value that the subject has without root in what the data holds at the root, and
none where it holds nothing there, exactly if the root is empty, the path is not, or the data
holds nothing at the root.  In the exception the value is the empty key of what is there. -/
theorem root_is_scope_iff {settings : Settings} {root : String} {catalog : Catalog}
    (rooted : settings.root = some root) (declared : settings.toCatalog.outcome = .ok catalog) :
    ∃ bare, settings.unrooted.toCatalog.outcome = .ok bare
      ∧ ∀ d ∈ settings.subjects, ∃ subject plain, catalog.find d.id = .ok subject
        ∧ bare.find d.id = .ok plain
        ∧ ∀ data : Json,
          (subject.value data = ((data.at? root).bind fun inner => plain.value inner) ↔
            root = "" ∨ d.path.getD d.id ≠ "" ∨ data.at? root = none)
          ∧ (root ≠ "" → d.path.getD d.id = "" →
              subject.value data = (data.at? root).bind (·.get? "")) := by
  unfold toCatalog at declared
  rw [rooted] at declared
  obtain ⟨bare, hbare⟩ := addSubjects_of_root none declared
  refine ⟨bare, hbare, ?_⟩
  intro d hd
  obtain ⟨subject, hbuild, hsubject⟩ := get?_of_mem_addSubjects declared hd
  obtain ⟨plain, hbuild', hplain⟩ := get?_of_mem_addSubjects hbare hd
  refine ⟨_, _, Catalog.find_of_get? hsubject, Catalog.find_of_get? hplain, ?_⟩
  intro data
  show (data.at? subject.path = ((data.at? root).bind fun inner => inner.at? plain.path) ↔ _)
    ∧ (_ → _ → data.at? subject.path = _)
  rw [(SubjectDeclaration.of_build_eq_ok hbuild).2, (SubjectDeclaration.of_build_eq_ok hbuild').2]
  refine ⟨at?_effectivePath_iff root d data, ?_⟩
  intro hroot hpath
  rw [SubjectDeclaration.effectivePath_some hroot, hpath, Json.at?_below_empty hroot]

/-- A root, and one subject for the whole of the data below it. -/
def wholeBelow (root : Option String) : Settings := ⟨root, [⟨"whole", some "", []⟩]⟩

/-- A root and a subject at a path of two steps. -/
def linesBelow (root : String) : Settings := ⟨some root, [⟨"lines", some "diff.lines", []⟩]⟩

/-- Two steps below a root: the value there is that of the same path from the value at the
root, whatever the data. -/
theorem root_is_scope_two_steps :
    (linesBelow "event").root = some "event"
    ∧ ∃ catalog bare subject plain, (linesBelow "event").toCatalog.outcome = .ok catalog
      ∧ (linesBelow "event").unrooted.toCatalog.outcome = .ok bare
      ∧ catalog.find "lines" = .ok subject ∧ bare.find "lines" = .ok plain
      ∧ ∀ data : Json,
          subject.value data = (data.at? "event").bind fun inner => plain.value inner := by
  have built : ∃ catalog, (linesBelow "event").toCatalog.outcome = .ok catalog := ⟨_, rfl⟩
  obtain ⟨catalog, hcatalog⟩ := built
  obtain ⟨bare, hbare, each⟩ := root_is_scope_iff rfl hcatalog
  obtain ⟨subject, plain, hsubject, hplain, law⟩ := each _ List.mem_cons_self
  refine ⟨rfl, catalog, bare, subject, plain, hcatalog, hbare, hsubject, hplain, ?_⟩
  intro data
  -- The path of the subject is not empty, so the root is a scope.
  exact (law data).1.2 (Or.inr (Or.inl (by decide)))

/-- **The exception is real**: without a root the subject is the whole of the data, but below
the root it has no value where there is one. -/
theorem empty_path_below_root :
    ∃ catalog bare subject plain,
      (wholeBelow (some "event")).toCatalog.outcome = .ok catalog
      ∧ (wholeBelow (some "event")).unrooted.toCatalog.outcome = .ok bare
      ∧ catalog.find "whole" = .ok subject ∧ bare.find "whole" = .ok plain
      ∧ subject.value (.obj [("event", .str "push")]) = none
      ∧ ((Json.at? (.obj [("event", .str "push")]) "event").bind fun inner =>
          plain.value inner) = some (.str "push") :=
  ⟨_, _, _, _, rfl, rfl, rfl, rfl, rfl, rfl⟩

end Settings

end Sift
