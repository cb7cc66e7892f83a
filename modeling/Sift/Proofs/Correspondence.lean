/-
  Sift.Proofs.Correspondence
  ──────────────────────────
  **Lists that correspond item by item.**

  What is read from a list corresponds to it item by item, in the sense of `List.Forall₂`,
  where the readings of the items do not depend on their positions.  What is looked up in lists
  that correspond does so too.

  Main results:
    * `inOrder_eq_ok_iff_forall₂` — items read in order correspond to what they are read as.
    * `inOrder_congr` — items that are read alike are read in order alike.
    * `exists_forall₂_iff` — some list corresponds to a given one exactly when every item has
      a counterpart.
    * `rel_find?` — one key finds corresponding items, or none in either list.
-/
import Mathlib.Data.List.Forall2
import Sift.Proofs.Outcome

namespace Sift

variable {α β ε : Type} {R : α → β → Prop}

/-! ## §1. Lists -/

/-- Lists correspond when they are of one length and do at every position. -/
theorem forall₂_iff_getElem? {as : List α} {bs : List β} :
    List.Forall₂ R as bs ↔ as.length = bs.length
      ∧ ∀ (i : Nat) a b, as[i]? = some a → bs[i]? = some b → R a b := by
  rw [List.forall₂_iff_get]
  refine and_congr_right fun _ => ⟨?_, ?_⟩
  · intro each i a b ha hb
    obtain ⟨hi, rfl⟩ := List.getElem?_eq_some_iff.1 ha
    obtain ⟨hi', rfl⟩ := List.getElem?_eq_some_iff.1 hb
    exact each i hi hi'
  · intro each i hi hi'
    exact each i _ _ (List.getElem?_eq_getElem hi) (List.getElem?_eq_getElem hi')

/-- What corresponds to the members of a list corresponds to them in any way that follows. -/
theorem forall₂_imp_of_mem {S : α → β → Prop} {as : List α} {bs : List β}
    (h : List.Forall₂ R as bs) (step : ∀ a ∈ as, ∀ b, R a b → S a b) : List.Forall₂ S as bs := by
  rw [List.forall₂_iff_zip] at h ⊢
  exact ⟨h.1, fun pair => step _ (List.of_mem_zip pair).1 _ (h.2 pair)⟩

/-- **Some list corresponds** to a given one exactly when every item has a counterpart. -/
theorem exists_forall₂_iff {as : List α} :
    (∃ bs, List.Forall₂ R as bs) ↔ ∀ a ∈ as, ∃ b, R a b := by
  induction as with
  | nil => simp
  | cons a rest ih =>
    rw [List.forall_mem_cons, ← ih]
    constructor
    · intro found
      obtain ⟨bs, h⟩ := found
      cases h with
      | cons first others => exact ⟨⟨_, first⟩, _, others⟩
    · intro found
      obtain ⟨⟨b, first⟩, bs, others⟩ := found
      exact ⟨b :: bs, .cons first others⟩

/-! ## §2. Items in order -/

/-- **Items with the same readings** are read in order alike. -/
theorem inOrder_congr {f : Nat → α → Except ε β} {as bs : List α}
    (same : List.Forall₂ (fun a b => ∀ i, f i a = f i b) as bs) (k : Nat) :
    inOrder f k as = inOrder f k bs := by
  induction same generalizing k with
  | nil => rfl
  | cons first _ ih => simp only [inOrder, first k, ih (k + 1)]

/-- **Items read in order**, where no reading depends on the position, correspond to what they
are read as. -/
theorem inOrder_eq_ok_iff_forall₂ {f : Nat → α → Except ε β}
    (reads : ∀ k a b, f k a = .ok b ↔ R a b) {k : Nat} {as : List α} {bs : List β} :
    inOrder f k as = .ok bs ↔ List.Forall₂ R as bs := by
  rw [inOrder_eq_ok_iff, forall₂_iff_getElem?]
  simp only [reads]

/-! ## §3. Looking up -/

/-- **One key finds corresponding items**, or none in either list, where items that correspond
have the same keys. -/
theorem rel_find? {key : α → String} {key' : β → String} (sameKey : ∀ a b, R a b → key a = key' b)
    {as : List α} {bs : List β} (each : List.Forall₂ R as bs) (asked : String) :
    Option.Rel R (as.find? (key · == asked)) (bs.find? (key' · == asked)) := by
  induction each with
  | nil => exact .none
  | cons first _ ih =>
    rw [List.find?_cons, List.find?_cons, sameKey _ _ first]
    split
    · exact .some first
    · exact ih

/-! ## §4. Outcomes -/

namespace Outcome

/-- **Two outcomes are alike**: they are one error, or values that `R` relates. -/
inductive Alike (R : α → β → Prop) : Except ε α → Except ε β → Prop
  | ok {a : α} {b : β} (related : R a b) : Alike R (.ok a) (.ok b)
  | error (error : ε) : Alike R (.error error) (.error error)

namespace Alike

variable {x : Except ε α} {y : Except ε β}

/-- What is found in both, or in neither, is alike where nothing found is one error. -/
theorem of_rel {found : Option α} {found' : Option β} (rel : Option.Rel R found found')
    (error : ε) : Alike R (found.elim (.error error) .ok) (found'.elim (.error error) .ok) := by
  cases rel with
  | some related => exact .ok related
  | none => exact .error error

/-- What one outcome gives has a counterpart in the other. -/
theorem exists_ok (alike : Alike R x y) {a : α} (h : x = .ok a) : ∃ b, y = .ok b ∧ R a b := by
  cases alike with
  | ok related =>
    cases h
    exact ⟨_, rfl, related⟩
  | error => cases h

/-- What the two outcomes give is related. -/
theorem related (alike : Alike R x y) {a : α} {b : β} (h : x = .ok a) (h' : y = .ok b) : R a b := by
  obtain ⟨c, again, related⟩ := alike.exists_ok h
  rw [again] at h'
  cases h'
  exact related

end Alike

end Outcome

end Sift
