/-
  Sift.Proofs.Comparison.Texts
  ────────────────────────────
  **Texts that start with, end with and contain a text.**

  A text operand and a text as value are compared in three ways besides equality.  Two of them
  go through one test of the characters, the third through a search that also serves arrays.
  Each says how the value is put together from the operand and further texts:

      starts with   — the operand and a rest                  (`holds_startsWith_iff`)
      ends with     — something and the operand               (`holds_endsWith_iff`)
      contains      — the operand with a text on either side  (`holds_containsText_iff`)

  The search tries every place, so the last of them is an induction along the value
  (`occursIn_iff_infix`); the laws between the comparisons are laws of these decompositions.

  Main result: `texts_coherent`.
-/
import Sift.Proofs.Comparison.Laws

namespace Sift

/-! ## §1. Decompositions of a text -/

section
variable {part s : String}

/-- A start of the characters is a start of the text. -/
theorem Text.prefix_toList_iff : part.toList <+: s.toList ↔ ∃ rest, s = part ++ rest := by
  constructor
  · rintro ⟨rest, whole⟩
    refine ⟨String.ofList rest, String.toList_inj.1 ?_⟩
    rw [String.toList_append, String.toList_ofList, whole]
  · rintro ⟨rest, rfl⟩
    exact ⟨rest.toList, String.toList_append.symm⟩

/-- An end of the characters is an end of the text. -/
theorem Text.suffix_toList_iff : part.toList <:+ s.toList ↔ ∃ start, s = start ++ part := by
  constructor
  · rintro ⟨start, whole⟩
    refine ⟨String.ofList start, String.toList_inj.1 ?_⟩
    rw [String.toList_append, String.toList_ofList, whole]
  · rintro ⟨start, rfl⟩
    exact ⟨start.toList, String.toList_append.symm⟩

/-- A piece of the characters is a piece of the text. -/
theorem Text.infix_toList_iff :
    part.toList <:+: s.toList ↔ ∃ start rest, s = start ++ part ++ rest := by
  constructor
  · rintro ⟨start, rest, whole⟩
    refine ⟨String.ofList start, String.ofList rest, String.toList_inj.1 ?_⟩
    rw [String.toList_append, String.toList_append, String.toList_ofList, String.toList_ofList,
      whole]
  · rintro ⟨start, rest, rfl⟩
    exact ⟨start.toList, rest.toList, by rw [String.toList_append, String.toList_append]⟩

/-- **The search finds a part wherever it stands**: at the start of the text, or somewhere in
what follows the first character. -/
theorem Text.occursIn_iff_infix {part : List Char} (cs : List Char) :
    Text.occursIn part cs = true ↔ part <:+: cs := by
  induction cs with
  | nil =>
    rw [List.infix_nil]
    exact List.isEmpty_iff
  | cons c cs ih =>
    unfold Text.occursIn
    rw [Bool.or_eq_true, List.isPrefixOf_iff_prefix, ih]
    exact List.infix_cons_iff.symm

end

namespace Comparison

/-! ## §2. What each comparison says -/

section
variable {s part : String}

/-- Two texts are the same exactly when the one is the other. -/
theorem holds_isText_iff : holds is (some (.str s)) (some (.text part)) = true ↔ s = part := by
  show (some s == some part) = true ↔ s = part
  rw [beq_iff_eq, Option.some.injEq]

/-- **A text starts with an operand** exactly when it is the operand and a rest. -/
theorem holds_startsWith_iff :
    holds startsWith (some (.str s)) (some (.text part)) = true ↔ ∃ rest, s = part ++ rest :=
  List.isPrefixOf_iff_prefix.trans Text.prefix_toList_iff

/-- **A text ends with an operand** exactly when it is something and the operand. -/
theorem holds_endsWith_iff :
    holds endsWith (some (.str s)) (some (.text part)) = true ↔ ∃ start, s = start ++ part :=
  List.isSuffixOf_iff_suffix.trans Text.suffix_toList_iff

/-- **A text contains an operand** exactly when it is the operand with texts around it. -/
theorem holds_containsText_iff :
    holds contains (some (.str s)) (some (.text part)) = true ↔
      ∃ start rest, s = start ++ part ++ rest :=
  (Text.occursIn_iff_infix s.toList).trans Text.infix_toList_iff

/-- It does not contain the operand exactly when there are no such texts. -/
theorem holds_doesNotContainText_iff :
    holds doesNotContain (some (.str s)) (some (.text part)) = true ↔
      ¬∃ start rest, s = start ++ part ++ rest := by
  rw [holds_of_positive? rfl, Bool.not_eq_true', ← Bool.not_eq_true, holds_containsText_iff]

/-! ## §3. From one comparison to another -/

/-- A text that is the operand starts with it, the rest being empty. -/
theorem holds_startsWith_of_is (same : holds is (some (.str s)) (some (.text part)) = true) :
    holds startsWith (some (.str s)) (some (.text part)) = true :=
  holds_startsWith_iff.2 ⟨"", by rw [holds_isText_iff.1 same, String.append_empty]⟩

theorem holds_endsWith_of_is (same : holds is (some (.str s)) (some (.text part)) = true) :
    holds endsWith (some (.str s)) (some (.text part)) = true :=
  holds_endsWith_iff.2 ⟨"", by rw [holds_isText_iff.1 same, String.empty_append]⟩

theorem holds_contains_of_startsWith
    (starts : holds startsWith (some (.str s)) (some (.text part)) = true) :
    holds contains (some (.str s)) (some (.text part)) = true := by
  obtain ⟨rest, whole⟩ := holds_startsWith_iff.1 starts
  exact holds_containsText_iff.2 ⟨"", rest, by rw [String.empty_append, whole]⟩

theorem holds_contains_of_endsWith
    (ends : holds endsWith (some (.str s)) (some (.text part)) = true) :
    holds contains (some (.str s)) (some (.text part)) = true := by
  obtain ⟨start, whole⟩ := holds_endsWith_iff.1 ends
  exact holds_containsText_iff.2 ⟨start, "", by rw [String.append_empty, whole]⟩

/-! ## §4. Parts of parts -/

variable {piece : String}

/-- **What a start of a text starts with, the text starts with.** -/
theorem holds_startsWith_trans
    (outer : holds startsWith (some (.str s)) (some (.text part)) = true)
    (inner : holds startsWith (some (.str part)) (some (.text piece)) = true) :
    holds startsWith (some (.str s)) (some (.text piece)) = true := by
  obtain ⟨rest, rfl⟩ := holds_startsWith_iff.1 outer
  obtain ⟨rest', rfl⟩ := holds_startsWith_iff.1 inner
  exact holds_startsWith_iff.2 ⟨rest' ++ rest, String.append_assoc ..⟩

/-- **What an end of a text ends with, the text ends with.** -/
theorem holds_endsWith_trans
    (outer : holds endsWith (some (.str s)) (some (.text part)) = true)
    (inner : holds endsWith (some (.str part)) (some (.text piece)) = true) :
    holds endsWith (some (.str s)) (some (.text piece)) = true := by
  obtain ⟨start, rfl⟩ := holds_endsWith_iff.1 outer
  obtain ⟨start', rfl⟩ := holds_endsWith_iff.1 inner
  exact holds_endsWith_iff.2 ⟨start ++ start', (String.append_assoc ..).symm⟩

/-- **What a part of a text contains, the text contains.** -/
theorem holds_containsText_trans
    (outer : holds contains (some (.str s)) (some (.text part)) = true)
    (inner : holds contains (some (.str part)) (some (.text piece)) = true) :
    holds contains (some (.str s)) (some (.text piece)) = true := by
  obtain ⟨start, rest, rfl⟩ := holds_containsText_iff.1 outer
  obtain ⟨start', rest', rfl⟩ := holds_containsText_iff.1 inner
  refine holds_containsText_iff.2 ⟨start ++ start', rest' ++ rest, ?_⟩
  simp only [String.append_assoc]

end

/-! ## §5. Coherence -/

/-- **THE COMPARISONS OF TEXTS ARE COHERENT.**  For every text as value and every text operand:

* the value starts with the operand exactly when it is the operand and a rest, ends with it
  exactly when it is something and the operand, and contains it exactly when it is the operand
  with texts on either side;
* a value that is the operand starts and ends with it, and a value that does either contains it;
* every value starts with, ends with and contains the empty operand;
* it does not contain the operand exactly when it is not the operand with texts on either side;
* what a start of the value starts with, the value starts with, and so for ends and for what it
  contains. -/
theorem texts_coherent (s part : String) :
    ((holds startsWith (some (.str s)) (some (.text part)) = true ↔ ∃ rest, s = part ++ rest)
      ∧ (holds endsWith (some (.str s)) (some (.text part)) = true ↔ ∃ start, s = start ++ part)
      ∧ (holds contains (some (.str s)) (some (.text part)) = true ↔
        ∃ start rest, s = start ++ part ++ rest))
    ∧ ((holds is (some (.str s)) (some (.text part)) = true →
        holds startsWith (some (.str s)) (some (.text part)) = true
          ∧ holds endsWith (some (.str s)) (some (.text part)) = true)
      ∧ (holds startsWith (some (.str s)) (some (.text part)) = true
          ∨ holds endsWith (some (.str s)) (some (.text part)) = true →
        holds contains (some (.str s)) (some (.text part)) = true))
    ∧ (holds startsWith (some (.str s)) (some (.text "")) = true
      ∧ holds endsWith (some (.str s)) (some (.text "")) = true
      ∧ holds contains (some (.str s)) (some (.text "")) = true)
    ∧ (holds doesNotContain (some (.str s)) (some (.text part)) = true ↔
        ¬∃ start rest, s = start ++ part ++ rest)
    ∧ ∀ piece : String, ∀ k ∈ [startsWith, endsWith, contains],
        holds k (some (.str s)) (some (.text part)) = true →
        holds k (some (.str part)) (some (.text piece)) = true →
        holds k (some (.str s)) (some (.text piece)) = true := by
  have starts : holds startsWith (some (.str s)) (some (.text "")) = true :=
    holds_startsWith_iff.2 ⟨s, String.empty_append.symm⟩
  have ends : holds endsWith (some (.str s)) (some (.text "")) = true :=
    holds_endsWith_iff.2 ⟨s, String.append_empty.symm⟩
  refine ⟨⟨holds_startsWith_iff, holds_endsWith_iff, holds_containsText_iff⟩,
    ⟨fun same => ⟨holds_startsWith_of_is same, holds_endsWith_of_is same⟩, fun either =>
      either.elim holds_contains_of_startsWith holds_contains_of_endsWith⟩,
    ⟨starts, ends, holds_contains_of_startsWith starts⟩, holds_doesNotContainText_iff, ?_⟩
  intro piece k member
  -- One law for each of the three comparisons.
  simp only [List.mem_cons, List.not_mem_nil, or_false] at member
  obtain rfl | rfl | rfl := member
  · exact holds_startsWith_trans
  · exact holds_endsWith_trans
  · exact holds_containsText_trans

end Comparison

end Sift
