/-
  Sift.Proofs.Text.Blank
  ──────────────────────
  **What trimming removes.**

  A text is blanks, its trimmed text and blanks again (`exists_blank_trim`).  A text without
  blanks stays as it is between any blanks (`trim_between`), so such a text is what is left of
  exactly the texts that have it between blanks.
-/
import Sift.Text.Blank

namespace Sift.Text

/-! ## §1. The left end -/

/-- The blanks in front of a text, and the text. -/
theorem exists_blank_append_trimLeft (cs : List Char) :
    ∃ b, (∀ c ∈ b, isBlank c = true) ∧ cs = b ++ trimLeft cs :=
  ⟨cs.takeWhile isBlank, List.all_eq_true.1 List.all_takeWhile,
    List.takeWhile_append_dropWhile.symm⟩

/-- Blanks in front of another character are dropped. -/
theorem trimLeft_blank_append {b : List Char} (blank : ∀ c ∈ b, isBlank c = true) {c : Char}
    (other : isBlank c = false) (rest : List Char) :
    trimLeft (b ++ c :: rest) = c :: rest := by
  unfold trimLeft
  rw [List.dropWhile_append_of_pos blank]
  exact trimLeft_of_head rest other

/-! ## §2. Both ends -/

/-- The blanks around a text, and the text. -/
theorem exists_blank_trim (cs : List Char) :
    ∃ b a, (∀ c ∈ b, isBlank c = true) ∧ (∀ c ∈ a, isBlank c = true) ∧ cs = b ++ trim cs ++ a := by
  obtain ⟨b, before, left⟩ := exists_blank_append_trimLeft cs
  obtain ⟨a, after, right⟩ := exists_blank_append_trimLeft (trimLeft cs).reverse
  refine ⟨b, a.reverse, before, fun c hc => after c (List.mem_reverse.1 hc), ?_⟩
  have kept : trimLeft cs = trim cs ++ a.reverse := by
    have reversed := congrArg List.reverse right
    rwa [List.reverse_reverse, List.reverse_append] at reversed
  rw [List.append_assoc, ← kept]
  exact left

/-- **A text without blanks, between blanks**, is what trimming leaves. -/
theorem trim_between {b cs a : List Char} (before : ∀ c ∈ b, isBlank c = true)
    (solid : ∀ c ∈ cs, isBlank c = false) (after : ∀ c ∈ a, isBlank c = true) :
    trim (b ++ cs ++ a) = cs := by
  unfold trim
  cases cs with
  | nil =>
    have none : trimLeft (b ++ [] ++ a) = [] := by
      unfold trimLeft
      rw [List.append_nil, List.dropWhile_append_of_pos before, ← List.append_nil a,
        List.dropWhile_append_of_pos after, List.dropWhile_nil]
    rw [none]
    rfl
  | cons c rest =>
    -- The other end is trimmed up to the last character, which is no blank either.
    obtain ⟨d, ds, reversed⟩ := List.exists_cons_of_ne_nil
      (List.reverse_ne_nil_iff.2 (List.cons_ne_nil c rest))
    have last : isBlank d = false :=
      solid d (List.mem_reverse.1 (reversed ▸ List.mem_cons_self))
    rw [List.append_assoc, List.cons_append,
      trimLeft_blank_append before (solid c List.mem_cons_self), ← List.cons_append,
      List.reverse_append, reversed,
      trimLeft_blank_append (fun e he => after e (List.mem_reverse.1 he)) last, ← reversed,
      List.reverse_reverse]

theorem trim_of_no_blank {cs : List Char} (solid : ∀ c ∈ cs, isBlank c = false) :
    trim cs = cs := by
  have none : ∀ c ∈ ([] : List Char), isBlank c = true := fun c hc => absurd hc List.not_mem_nil
  have kept := trim_between none solid none
  rwa [List.nil_append, List.append_nil] at kept

end Sift.Text
