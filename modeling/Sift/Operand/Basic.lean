/-
  Sift.Operand.Basic
  ──────────────────
  **Operands: the typed values that comparisons test against.**

  An operand is what a form reads from raw JSON (`Sift.Operand.Form`); a number may also be
  infinite or a NaN when a program builds the operand itself.  `toJson` is the raw value an
  operand is written as, `sameAs` the equality of operands: numbers are compared as numbers,
  so a NaN differs from itself and the zeros are equal, and patterns by their texts.
-/
import Sift.Json.Numeric
import Sift.Pattern.Basic

namespace Sift

/-- A typed operand. -/
inductive Operand where
  | truth (value : Bool)
  | integer (value : Int64)
  | number (value : Binary64)
  | text (value : String)
  | instant (value : Instant)
  | pattern (value : Pattern)
  | list (items : List Operand)

namespace Operand

/-! ## §1. Raw form -/

mutual
/-- **The raw JSON of an operand.**  A number that is not finite becomes null. -/
def toJson : Operand → Json
  | truth b => .bool b
  | integer w => .ofSignedWord w
  | number x => .ofBinary64 x
  | text s => .str s
  | instant t => .str t.text
  | pattern p => .str p.source
  | list items => .arr (itemsToJson items)
termination_by structural o => o

def itemsToJson : List Operand → List Json
  | [] => []
  | o :: rest => toJson o :: itemsToJson rest
termination_by structural os => os
end

theorem itemsToJson_eq_map (items : List Operand) : itemsToJson items = items.map toJson := by
  induction items with
  | nil => rfl
  | cons o rest ih => simp [itemsToJson, ih]

/-! ## §2. Views -/

/-- The number of a numeric operand. -/
def number? : Operand → Option Binary64
  | integer w => some (.ofInt w.toInt)
  | number x => some x
  | _ => none

def text? : Operand → Option String
  | text s => some s
  | _ => none

def items? : Operand → Option (List Operand)
  | list items => some items
  | _ => none

/-! ## §3. Equality -/

mutual
/-- **Whether two operands are equal.** -/
def sameAs : Operand → Operand → Bool
  | truth a, truth b => a == b
  | integer a, integer b => a == b
  | number a, number b => a.eq b
  | text a, text b => a == b
  | instant a, instant b => a == b
  | pattern a, pattern b => a.source == b.source
  | list as, list bs => sameItems as bs
  | _, _ => false
termination_by structural o => o

/-- Whether two lists have equal items throughout. -/
def sameItems : List Operand → List Operand → Bool
  | [], [] => true
  | a :: as, b :: bs => sameAs a b && sameItems as bs
  | _, _ => false
termination_by structural os => os
end

/-- `sameAs` for operands that may be missing. -/
def sameOptional : Option Operand → Option Operand → Bool
  | none, none => true
  | some a, some b => a.sameAs b
  | _, _ => false

end Operand

end Sift
