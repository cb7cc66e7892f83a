/-
  Sift.Pattern.Basic
  ──────────────────
  **Patterns: a text that compiles, with what it compiles to.**

  The compiled form is determined by the text, so two patterns are equal when their texts are.
-/
import Sift.Pattern.Compile

namespace Sift

/-- A pattern. -/
structure Pattern where
  source : String
  node : Pattern.Node
  compiled : Pattern.compile? source = some node
deriving DecidableEq

namespace Pattern

/-- The pattern of a text, where the text compiles. -/
def ofText? (source : String) : Option Pattern :=
  match h : compile? source with
  | some node => some ⟨source, node, h⟩
  | none => none

/-- **Search.**  Whether the pattern matches somewhere in a text. -/
def foundIn (p : Pattern) (s : String) : Bool := p.node.foundIn (.of wordSets s.toList)

/-- A pattern is determined by its text. -/
theorem eq_of_source {p q : Pattern} (h : p.source = q.source) : p = q := by
  obtain ⟨s, n, hn⟩ := p
  obtain ⟨t, m, hm⟩ := q
  simp only at h
  subst h
  rw [hn] at hm
  cases hm
  rfl

end Pattern

end Sift
