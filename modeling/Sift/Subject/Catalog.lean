/-
  Sift.Subject.Catalog
  ────────────────────
  **Catalogs of subjects.**

  A catalog holds subjects of different identifiers, in the order of those; texts are ordered
  by their code points.  Every change, refused ones included, is one event.
-/
import Sift.Subject.Basic

namespace Sift

/-- Subjects in the strict order of their identifiers. -/
structure Catalog where
  subjects : List Subject
  sorted : (subjects.map (·.id)).Pairwise (· < ·)

namespace Catalog

def empty : Catalog := ⟨[], List.Pairwise.nil⟩

def ids (catalog : Catalog) : List String := catalog.subjects.map (·.id)

def size (catalog : Catalog) : Nat := catalog.subjects.length

def isEmpty (catalog : Catalog) : Bool := catalog.subjects.isEmpty

/-- The subject of an identifier. -/
def get? (catalog : Catalog) (id : String) : Option Subject :=
  catalog.subjects.find? (·.id == id)

def contains (catalog : Catalog) (id : String) : Bool := (catalog.get? id).isSome

/-- **The subject of an identifier**, or the error that there is none. -/
def find (catalog : Catalog) : Resolver := fun id =>
  match catalog.get? id with
  | some subject => .ok subject
  | none => .error (.noSubject id)

/-! ## §1. Order -/

/-- Puts a subject before the first one of a greater identifier. -/
def place (subject : Subject) : List Subject → List Subject
  | [] => [subject]
  | s :: rest => if subject.id < s.id then subject :: s :: rest else s :: place subject rest

theorem mem_place {subject s : Subject} {subjects : List Subject} :
    s ∈ place subject subjects ↔ s = subject ∨ s ∈ subjects := by
  induction subjects with
  | nil => simp [place]
  | cons t rest ih =>
    unfold place
    split
    · simp
    · simp only [List.mem_cons, ih]
      exact or_left_comm

theorem sorted_place {subject : Subject} {subjects : List Subject}
    (sorted : (subjects.map (·.id)).Pairwise (· < ·))
    (fresh : ∀ s ∈ subjects, s.id ≠ subject.id) :
    ((place subject subjects).map (·.id)).Pairwise (· < ·) := by
  induction subjects with
  | nil => simp [place]
  | cons t rest ih =>
    rw [List.map_cons, List.pairwise_cons] at sorted
    unfold place
    split
    · -- It comes first: all others are above the one it is put before.
      rename_i below
      rw [List.map_cons, List.pairwise_cons, List.map_cons]
      refine ⟨?_, List.pairwise_cons.2 sorted⟩
      intro id hid
      rcases List.mem_cons.1 hid with rfl | hid
      · exact below
      · exact String.lt_trans below (sorted.1 id hid)
    · -- It comes later, and is above `t` since its identifier is another.
      rename_i notBelow
      rw [List.map_cons, List.pairwise_cons]
      refine ⟨?_, ih sorted.2 fun s hs => fresh s (List.mem_cons_of_mem _ hs)⟩
      intro id hid
      obtain ⟨s, hs, rfl⟩ := List.mem_map.1 hid
      rcases mem_place.1 hs with rfl | hs
      · exact Std.lt_of_le_of_ne (Std.not_lt.1 notBelow) (fresh t List.mem_cons_self)
      · exact sorted.1 _ (List.mem_map_of_mem hs)

/-! ## §2. Changes -/

/-- No subject of an absent identifier has that identifier. -/
theorem ne_of_get?_eq_none {catalog : Catalog} {id : String} (h : catalog.get? id = none) :
    ∀ s ∈ catalog.subjects, s.id ≠ id := by
  intro s hs hid
  have := List.find?_eq_none.1 h s hs
  simp [hid] at this

/-- **Adds a subject**, unless its identifier is there. -/
def add (catalog : Catalog) (subject : Subject) : Logged Catalog :=
  match h : catalog.get? subject.id with
  | some _ => .refuse (.subjectRepeated subject.id) (.alreadyRegistered .subject subject.id)
  | none =>
    ⟨.ok ⟨place subject catalog.subjects,
      sorted_place catalog.sorted (ne_of_get?_eq_none h)⟩, [.subjectAdded subject.id]⟩

/-- The catalog without an identifier. -/
def without (catalog : Catalog) (id : String) : Catalog where
  subjects := catalog.subjects.filter (·.id != id)
  sorted := by
    have sub := (List.filter_sublist (p := (·.id != id)) (l := catalog.subjects)).map
      Subject.id
    exact catalog.sorted.sublist sub

/-- **Removes the subject** of an identifier, where there is one. -/
def remove (catalog : Catalog) (id : String) : Logged Catalog :=
  if catalog.contains id then ⟨.ok (catalog.without id), [.subjectRemoved id]⟩
  else .refuse (.subjectAbsent id) (.noSubject id)

def describe (catalog : Catalog) : String :=
  Text.record "ConditionChoices" [("choices", Text.bracketed (catalog.ids.map Text.quoted))]

end Catalog

end Sift
