/-
  Sift.Operator.Table
  ───────────────────
  **Tables of operators, in the order in which their identifiers came.**

  Each identifier stands for one operator.  Adding refuses an identifier that is there;
  putting replaces the operator of that identifier where it stands.
-/
import Sift.Operator.Basic
import Sift.Event

namespace Sift

/-- Operators of different identifiers, in order. -/
structure OperatorTable where
  operators : List Operator
  distinct : (operators.map (·.id)).Nodup

namespace OperatorTable

def empty : OperatorTable := ⟨[], List.nodup_nil⟩

def ids (table : OperatorTable) : List String := table.operators.map (·.id)

def contains (table : OperatorTable) (id : String) : Bool := table.ids.contains id

def size (table : OperatorTable) : Nat := table.operators.length

def isEmpty (table : OperatorTable) : Bool := table.operators.isEmpty

/-- The operator of an identifier. -/
def find (table : OperatorTable) (id : String) : Except Error Operator :=
  match table.operators.find? (·.id == id) with
  | some operator => .ok operator
  | none => .error (.noOperator id)

/-! ## §1. Adding -/

theorem distinct_append {operators : List Operator} {operator : Operator}
    (distinct : (operators.map (·.id)).Nodup)
    (fresh : operator.id ∉ operators.map (·.id)) :
    ((operators ++ [operator]).map (·.id)).Nodup := by
  rw [List.map_append, List.nodup_append]
  refine ⟨distinct, by simp, ?_⟩
  intro a ha b hb
  simp only [List.map_cons, List.map_nil, List.mem_singleton] at hb
  rintro rfl
  exact fresh (hb ▸ ha)

/-- **Adds an operator** at the end, unless its identifier is there. -/
def add (table : OperatorTable) (operator : Operator) : Logged OperatorTable :=
  if h : table.contains operator.id then
    .refuse (.operatorRepeated operator.id) (.alreadyRegistered .operator operator.id)
  else
    .pure ⟨table.operators ++ [operator],
      distinct_append table.distinct (by simpa [contains, ids] using h)⟩

/-! ## §2. Putting -/

/-- The operators with one of them replaced. -/
def replaceIn (operator : Operator) (operators : List Operator) : List Operator :=
  operators.map fun o => if o.id = operator.id then operator else o

theorem map_id_replaceIn (operator : Operator) (operators : List Operator) :
    (replaceIn operator operators).map (·.id) = operators.map (·.id) := by
  simp only [replaceIn, List.map_map]
  apply List.map_congr_left
  intro o _
  simp only [Function.comp_apply]
  split <;> simp_all

/-- **Puts an operator** in the place of the one with its identifier, or at the end. -/
def put (table : OperatorTable) (operator : Operator) : OperatorTable :=
  if h : table.contains operator.id then
    ⟨replaceIn operator table.operators, by
      rw [map_id_replaceIn]; exact table.distinct⟩
  else
    ⟨table.operators ++ [operator],
      distinct_append table.distinct (by simpa [contains, ids] using h)⟩

def describe (table : OperatorTable) : String :=
  Text.bracketed (table.ids.map Text.quoted)

end OperatorTable

end Sift
