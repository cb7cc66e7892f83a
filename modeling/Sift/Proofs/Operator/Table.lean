/-
  Sift.Proofs.Operator.Table
  ──────────────────────────
  **What a table of operators holds.**

  An operator is added at the end, unless its identifier is there; and an identifier finds an
  operator of the table that has it.
-/
import Sift.Operator.Table

namespace Sift.OperatorTable

/-- **Adding** is refused exactly where the identifier is there. -/
theorem add_eq_error_iff {table : OperatorTable} {operator : Operator} {error : Error} :
    (table.add operator).outcome = .error error ↔
      operator.id ∈ table.ids ∧ error = .alreadyRegistered .operator operator.id := by
  unfold add contains
  split
  · rename_i known
    simp [List.contains_iff_mem.1 known, eq_comm]
  · rename_i fresh
    have absent : operator.id ∉ table.ids := by simpa using fresh
    simp [absent]

/-- An operator that was added is the last one. -/
theorem operators_of_add {table changed : OperatorTable} {operator : Operator}
    (h : (table.add operator).outcome = .ok changed) :
    changed.operators = table.operators ++ [operator] := by
  unfold add at h
  split at h
  · cases h
  · cases h
    rfl

/-- Finding is looking through the table, with an error for what is not there. -/
theorem find_eq_elim (table : OperatorTable) (id : String) :
    table.find id =
      (table.operators.find? (·.id == id)).elim (.error (.noOperator id)) .ok := by
  unfold find
  cases table.operators.find? (·.id == id) <;> rfl

/-- An operator that is found has the identifier that was asked for, and is in the table. -/
theorem of_find_eq_ok {table : OperatorTable} {id : String} {operator : Operator}
    (h : table.find id = .ok operator) : operator.id = id ∧ operator ∈ table.operators := by
  unfold find at h
  split at h
  · rename_i found hfound
    cases h
    exact ⟨by simpa using List.find?_some hfound, List.mem_of_find?_eq_some hfound⟩
  · cases h

end Sift.OperatorTable
