/-
  Sift.Proofs.Subject.Catalog
  ───────────────────────────
  **What a catalog holds after a change.**

  A catalog is looked into by identifier only.  Adding a subject sets the entry of its
  identifier and keeps the others (`Catalog.get?_of_add`), and whether it is possible depends
  on the identifiers alone (`Catalog.add_alike`).  Removing clears one entry
  (`Catalog.get?_without`).
-/
import Mathlib.Data.List.Forall2
import Sift.Proofs.Event
import Sift.Subject.Catalog

namespace Sift.Catalog

/-! ## §1. Placing -/

/-- Placing a new identifier sets its entry. -/
theorem find?_place {subject : Subject} (id : String) :
    ∀ {subjects : List Subject}, (∀ s ∈ subjects, s.id ≠ subject.id) →
      (place subject subjects).find? (·.id == id) =
        if subject.id = id then some subject else subjects.find? (·.id == id)
  | [], _ => by
      by_cases h : subject.id = id <;> simp [place, h]
  | t :: rest, fresh => by
      have ih := find?_place id fun s hs => fresh s (List.mem_cons_of_mem t hs)
      have ht : t.id ≠ subject.id := fresh t List.mem_cons_self
      unfold place
      -- The subject stands before `t` or after it; after it, `t` may be the one asked for.
      split
      · by_cases h : subject.id = id <;> simp [h]
      · by_cases h : t.id = id
        · have hs : subject.id ≠ id := fun hs => ht (h.trans hs.symm)
          rw [List.find?_cons_of_pos (by simpa using h), if_neg hs,
            List.find?_cons_of_pos (by simpa using h)]
        · rw [List.find?_cons_of_neg (by simpa using h), ih,
            List.find?_cons_of_neg (by simpa using h)]

/-- **Subjects that correspond**, and have the same identifiers, are placed alike. -/
theorem forall₂_place {R : Subject → Subject → Prop} (sameId : ∀ s s', R s s' → s.id = s'.id)
    {s s' : Subject} (related : R s s') {subjects subjects' : List Subject}
    (each : List.Forall₂ R subjects subjects') :
    List.Forall₂ R (place s subjects) (place s' subjects') := by
  induction each with
  | nil => exact .cons related .nil
  | cons first others ih =>
    unfold place
    -- Both insertions look at identifiers only, so they stop at the same place.
    rw [sameId _ _ related, sameId _ _ first]
    split
    · exact .cons related (.cons first others)
    · exact .cons first ih

/-- Placing puts the subject among the others. -/
theorem perm_place (subject : Subject) :
    ∀ subjects : List Subject, (place subject subjects).Perm (subject :: subjects)
  | [] => List.Perm.refl _
  | t :: rest => by
      unfold place
      split
      · exact List.Perm.refl _
      · exact ((perm_place subject rest).cons t).trans (List.Perm.swap ..)

/-! ## §2. Adding -/

section
variable {catalog changed : Catalog} {subject : Subject}
  (h : (catalog.add subject).outcome = .ok changed)

include h

/-- A subject that was added is new, and was placed. -/
theorem eq_place_of_add :
    catalog.get? subject.id = none ∧ changed.subjects = place subject catalog.subjects := by
  unfold add at h
  split at h
  · cases h
  · rename_i fresh
    cases h
    exact ⟨fresh, rfl⟩

/-- **Adding** sets the entry of the subject's identifier and keeps the others. -/
theorem get?_of_add (id : String) :
    changed.get? id = if subject.id = id then some subject else catalog.get? id := by
  obtain ⟨fresh, placed⟩ := eq_place_of_add h
  unfold get?
  rw [placed]
  exact find?_place id (ne_of_get?_eq_none fresh)

/-- An entry that is there stays. -/
theorem get?_of_add_of_some {id : String} {s : Subject} (hs : catalog.get? id = some s) :
    changed.get? id = some s := by
  obtain ⟨fresh, -⟩ := eq_place_of_add h
  rw [get?_of_add h, if_neg]
  · exact hs
  · -- The identifier that is there is not the new one.
    intro same
    rw [same] at fresh
    rw [fresh] at hs
    cases hs

end

theorem get?_eq_none_iff {catalog : Catalog} {id : String} :
    catalog.get? id = none ↔ id ∉ catalog.ids := by
  simp [get?, ids]

/-- **Adding** is refused exactly where the identifier is there. -/
theorem add_eq_error_iff {catalog : Catalog} {subject : Subject} {error : Error} :
    (catalog.add subject).outcome = .error error ↔
      subject.id ∈ catalog.ids ∧ error = .alreadyRegistered .subject subject.id := by
  unfold add
  split
  · rename_i s known
    have there : subject.id ∈ catalog.ids :=
      List.mem_map.2 ⟨s, List.mem_of_find?_eq_some known, by simpa using List.find?_some known⟩
    simp [there, eq_comm]
  · rename_i fresh
    have absent : subject.id ∉ catalog.ids := get?_eq_none_iff.1 fresh
    simp [absent]

/-- An addition leaves one event: that the identifier was added, or that it was there. -/
theorem events_add (catalog : Catalog) (subject : Subject) :
    (catalog.add subject).events =
      if subject.id ∈ catalog.ids then [.subjectRepeated subject.id]
      else [.subjectAdded subject.id] := by
  unfold add
  split
  · rename_i s known
    have there : subject.id ∈ catalog.ids :=
      List.mem_map.2 ⟨s, List.mem_of_find?_eq_some known, by simpa using List.find?_some known⟩
    rw [if_pos there]
    rfl
  · rename_i fresh
    rw [if_neg (get?_eq_none_iff.1 fresh)]

/-- The identifiers after an addition are those before it and the new one. -/
theorem perm_ids_of_add {catalog changed : Catalog} {subject : Subject}
    (h : (catalog.add subject).outcome = .ok changed) :
    changed.ids.Perm (catalog.ids ++ [subject.id]) := by
  unfold ids
  rw [(eq_place_of_add h).2]
  exact ((perm_place subject catalog.subjects).map _).trans
    (List.perm_append_singleton _ _).symm

/-- Catalogs of corresponding subjects have the same identifiers. -/
theorem ids_eq_of_forall₂ {R : Subject → Subject → Prop} (sameId : ∀ s s', R s s' → s.id = s'.id)
    {catalog catalog' : Catalog} (each : List.Forall₂ R catalog.subjects catalog'.subjects) :
    catalog.ids = catalog'.ids := by
  unfold ids
  generalize catalog.subjects = subjects at each ⊢
  generalize catalog'.subjects = subjects' at each ⊢
  induction each with
  | nil => rfl
  | cons first _ ih => rw [List.map_cons, List.map_cons, sameId _ _ first, ih]

/-- **Whether a subject can be added depends on identifiers alone**: adding two that correspond
to catalogs that do is refused in both, or keeps the correspondence. -/
theorem add_alike {R : Subject → Subject → Prop} (sameId : ∀ s s', R s s' → s.id = s'.id)
    {catalog catalog' : Catalog} (each : List.Forall₂ R catalog.subjects catalog'.subjects)
    {s s' : Subject} (related : R s s') :
    (catalog.add s).Alike (fun changed changed' => List.Forall₂ R changed.subjects changed'.subjects)
      (catalog'.add s') := by
  have same : s.id = s'.id := sameId s s' related
  have asked : catalog.get? s.id = none ↔ catalog'.get? s'.id = none := by
    rw [get?_eq_none_iff, get?_eq_none_iff, ids_eq_of_forall₂ sameId each, same]
  unfold add
  split
  · rename_i known
    split
    · rw [same]
      exact .failure _ _
    · rename_i fresh
      rw [asked.2 fresh] at known
      cases known
  · rename_i fresh
    split
    · rename_i known
      rw [asked.1 fresh] at known
      cases known
    · -- The proof that the order is kept speaks of `s`, so only the event is rewritten.
      have event : Event.subjectAdded s.id = .subjectAdded s'.id := by rw [same]
      rw [event]
      exact .success _ (forall₂_place sameId related each)

/-! ## §3. Removing -/

/-- **Removing** clears the entry of the identifier and keeps the others. -/
theorem get?_without (catalog : Catalog) (removed id : String) :
    (catalog.without removed).get? id = if removed = id then none else catalog.get? id := by
  unfold get? without
  rw [List.find?_filter]
  by_cases same : removed = id
  · subst same
    rw [if_pos rfl, List.find?_eq_none]
    intro s _
    by_cases h : s.id = removed <;> simp [h]
  · rw [if_neg same]
    congr 1
    funext s
    by_cases h : s.id = id
    · -- What is asked for is not what was removed, so the filter lets it through.
      have kept : s.id ≠ removed := fun known => same (known.symm.trans h)
      simp [h, h ▸ kept]
    · simp [h]

/-- An identifier is there where a subject has it. -/
theorem contains_eq_true_iff {catalog : Catalog} {id : String} :
    catalog.contains id = true ↔ id ∈ catalog.ids := by
  unfold contains
  rw [Option.isSome_iff_ne_none, Ne, get?_eq_none_iff, Classical.not_not]

/-- **Removing** is refused exactly where the identifier is absent. -/
theorem outcome_remove (catalog : Catalog) (id : String) :
    (catalog.remove id).outcome =
      if catalog.contains id then .ok (catalog.without id) else .error (.noSubject id) := by
  unfold remove
  split <;> rfl

/-- A removal leaves one event: that the identifier was removed, or that it was absent. -/
theorem events_remove (catalog : Catalog) (id : String) :
    (catalog.remove id).events =
      if id ∈ catalog.ids then [.subjectRemoved id] else [.subjectAbsent id] := by
  unfold remove
  simp only [contains_eq_true_iff]
  split <;> rfl

/-! ## §4. Finding -/

/-- Finding is looking into the catalog, with an error for what is not there. -/
theorem find_eq_elim (catalog : Catalog) (id : String) :
    catalog.find id = (catalog.get? id).elim (.error (.noSubject id)) .ok := by
  unfold find
  cases catalog.get? id <;> rfl

/-- Finding is looking into the catalog. -/
theorem find_of_get? {catalog : Catalog} {id : String} {s : Subject}
    (h : catalog.get? id = some s) : catalog.find id = .ok s := by
  unfold find
  rw [h]

/-- A subject that is found has the identifier that was asked for, and is in the catalog. -/
theorem of_find_eq_ok {catalog : Catalog} {id : String} {s : Subject}
    (h : catalog.find id = .ok s) : s.id = id ∧ s ∈ catalog.subjects := by
  unfold find at h
  split at h
  · rename_i s' hs
    cases h
    exact ⟨by simpa using List.find?_some hs, List.mem_of_find?_eq_some hs⟩
  · cases h

end Sift.Catalog
