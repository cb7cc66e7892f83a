/-
  Sift.Proofs.Fault
  ─────────────────
  **Building item by item, up to the first fault.**

  A builder takes the items of a list into a state, one after the other, and may refuse an item
  for what came before it.  `Fault before a error` says when it has to, without the builder: `a`
  is at fault with `error` after the items `before`.  A step that refuses exactly the faults
  makes a builder that

      succeeds on the sound lists  —  no item is at fault
      fails with the first fault   —  that of an item after which nothing was looked at

  Main results:
    * `Builds.exists_foldlM_eq_ok_iff` — success.
    * `Builds.foldlM_eq_error_iff` — failure, and its error.
-/
import Mathlib.Data.List.Induction
import Sift.Proofs.Outcome

namespace Sift

variable {α σ ε : Type}

/-! ## §1. Faults of a list -/

/-- **A sound list**: no item is at fault after those before it. -/
def Sound (Fault : List α → α → ε → Prop) (as : List α) : Prop :=
  ∀ before a after, as = before ++ a :: after → ∀ error, ¬ Fault before a error

/-- **The first fault** of a list: an item is at fault after those before it, which are sound. -/
def FirstFault (Fault : List α → α → ε → Prop) (as : List α) (error : ε) : Prop :=
  ∃ before a after, as = before ++ a :: after ∧ Fault before a error ∧ Sound Fault before

section
variable {Fault : List α → α → ε → Prop}

theorem sound_nil : Sound Fault [] := by
  intro before a after split
  simp at split

/-- One item more is sound when it is not at fault. -/
theorem sound_concat_iff {as : List α} {a : α} :
    Sound Fault (as ++ [a]) ↔ Sound Fault as ∧ ∀ error, ¬ Fault as a error := by
  constructor
  · intro sound
    refine ⟨?_, sound as a [] rfl⟩
    intro before b after split
    exact sound before b (after ++ [a]) (by rw [split, List.append_assoc, List.cons_append])
  · intro found before b after split
    obtain ⟨sound, last⟩ := found
    -- The item `b` is the last one, or it was there before.
    rcases List.eq_nil_or_concat after with rfl | ⟨init, c, rfl⟩
    · obtain ⟨rfl, same⟩ := List.append_inj' split rfl
      cases same
      exact last
    · rw [List.concat_eq_append, ← List.cons_append, ← List.append_assoc] at split
      exact sound before b init (List.append_inj' split rfl).1

/-- A first fault stays the first, whatever comes after it. -/
theorem FirstFault.append {as : List α} {error : ε} (h : FirstFault Fault as error)
    (later : List α) : FirstFault Fault (as ++ later) error := by
  obtain ⟨before, a, after, rfl, fault, sound⟩ := h
  exact ⟨before, a, after ++ later, by rw [List.append_assoc, List.cons_append], fault, sound⟩

/-- **A list is sound, or it has a first fault.** -/
theorem sound_or_firstFault (Fault : List α → α → ε → Prop) (as : List α) :
    Sound Fault as ∨ ∃ error, FirstFault Fault as error := by
  -- From the end: an element is only asked about when all before it are sound.
  induction as using List.reverseRecOn with
  | nil => exact Or.inl sound_nil
  | append_singleton as a ih =>
    rcases ih with sound | ⟨error, first⟩
    · by_cases fault : ∃ error, Fault as a error
      · obtain ⟨error, fault⟩ := fault
        exact Or.inr ⟨error, as, a, [], rfl, fault, sound⟩
      · exact Or.inl (sound_concat_iff.2 ⟨sound, not_exists.1 fault⟩)
    · exact Or.inr ⟨error, first.append [a]⟩

/-- A sound list has no first fault. -/
theorem Sound.not_firstFault {as : List α} (sound : Sound Fault as) (error : ε) :
    ¬ FirstFault Fault as error := by
  intro first
  obtain ⟨before, a, after, split, fault, -⟩ := first
  exact sound before a after split error fault

end

/-! ## §2. Builders -/

/-- **A step builds**: in a state that stands for the items `done`, it refuses exactly what is at
fault after them, and otherwise leads to a state that stands for one item more. -/
structure Builds (step : σ → α → Except ε σ) (Built : List α → σ → Prop)
    (Fault : List α → α → ε → Prop) : Prop where
  refuses : ∀ {done s a error}, Built done s → (step s a = .error error ↔ Fault done a error)
  proceeds : ∀ {done s a s'}, Built done s → step s a = .ok s' → Built (done ++ [a]) s'

namespace Builds

variable {step : σ → α → Except ε σ} {Built : List α → σ → Prop}
  {Fault : List α → α → ε → Prop} (builds : Builds step Built Fault)
  {s : σ} (start : Built [] s)

include builds start

/-- A sound list is built. -/
theorem exists_foldlM_of_sound {as : List α} (sound : Sound Fault as) :
    ∃ s', as.foldlM step s = .ok s' ∧ Built as s' := by
  -- From the end of the list: the last step starts in a state that stands for all before it.
  induction as using List.reverseRecOn with
  | nil => exact ⟨s, rfl, start⟩
  | append_singleton as a ih =>
    obtain ⟨before, last⟩ := sound_concat_iff.1 sound
    obtain ⟨t, built, stands⟩ := ih before
    have whole : (as ++ [a]).foldlM step s = step t a := by
      rw [List.foldlM_append, built]
      show ([a].foldlM step t) = step t a
      rw [List.foldlM_cons]
      cases step t a <;> rfl
    cases h : step t a with
    | error error => exact absurd ((builds.refuses stands).1 h) (last error)
    | ok t' => exact ⟨t', whole.trans h, builds.proceeds stands h⟩

/-- The first fault is the error. -/
theorem foldlM_eq_error_of_firstFault {as : List α} {error : ε}
    (first : FirstFault Fault as error) : as.foldlM step s = .error error := by
  obtain ⟨before, a, after, rfl, fault, sound⟩ := first
  obtain ⟨t, built, stands⟩ := builds.exists_foldlM_of_sound start sound
  rw [List.foldlM_append, built]
  show ((a :: after).foldlM step t) = .error error
  rw [List.foldlM_cons, (builds.refuses stands).2 fault]
  rfl

/-- **Success.**  A list is built exactly when it is sound. -/
theorem exists_foldlM_eq_ok_iff {as : List α} :
    (∃ s', as.foldlM step s = .ok s') ↔ Sound Fault as := by
  constructor
  · intro found
    obtain ⟨s', h⟩ := found
    rcases sound_or_firstFault Fault as with sound | ⟨error, first⟩
    · exact sound
    · rw [builds.foldlM_eq_error_of_firstFault start first] at h
      cases h
  · intro sound
    obtain ⟨s', h, -⟩ := builds.exists_foldlM_of_sound start sound
    exact ⟨s', h⟩

/-- What is built stands for the whole list. -/
theorem built_of_foldlM {as : List α} {s' : σ} (h : as.foldlM step s = .ok s') : Built as s' := by
  obtain ⟨t, built, stands⟩ := builds.exists_foldlM_of_sound start
    ((builds.exists_foldlM_eq_ok_iff start).1 ⟨s', h⟩)
  rw [built] at h
  cases h
  exact stands

/-- **Failure.**  The error is the first fault. -/
theorem foldlM_eq_error_iff {as : List α} {error : ε} :
    as.foldlM step s = .error error ↔ FirstFault Fault as error := by
  constructor
  · intro h
    rcases sound_or_firstFault Fault as with sound | ⟨other, first⟩
    · obtain ⟨s', built, -⟩ := builds.exists_foldlM_of_sound start sound
      rw [h] at built
      cases built
    · have failed := builds.foldlM_eq_error_of_firstFault start first
      rw [h] at failed
      cases failed
      exact first
  · exact builds.foldlM_eq_error_of_firstFault start

end Builds

/-! ## §3. Repeated keys -/

/-- **Keys are distinct** exactly when none was there before. -/
theorem nodup_map_iff_fresh {κ : Type} (key : α → κ) {as : List α} :
    (as.map key).Nodup ↔
      ∀ before a after, as = before ++ a :: after → key a ∉ before.map key := by
  constructor
  · intro distinct before a after split known
    rw [split, List.map_append, List.map_cons, List.nodup_append] at distinct
    exact distinct.2.2 (key a) known (key a) List.mem_cons_self rfl
  · intro fresh
    induction as using List.reverseRecOn with
    | nil => exact List.nodup_nil
    | append_singleton as a ih =>
      -- A place in the shorter list is a place in the longer one.
      have earlier := ih fun before b after split =>
        fresh before b (after ++ [a]) (by rw [split, List.append_assoc, List.cons_append])
      rw [List.map_append, List.nodup_append]
      refine ⟨earlier, List.pairwise_singleton _ _, ?_⟩
      rintro k known k' last rfl
      rw [List.map_singleton, List.mem_singleton] at last
      exact fresh as a [] rfl (last ▸ known)

end Sift
