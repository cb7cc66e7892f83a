/-
  Sift.Json.Basic
  ───────────────
  **JSON values.**

  A number is either a whole number that fits 64 bits, signed or unsigned, or a finite binary64
  number; the two never meet, so `5` and `5.0` are different values.  The members of an object
  are kept in the order of their keys, each key once; `Json.object` builds such an object from
  members in any order, where a later member replaces an earlier one of the same key.
-/
import Sift.Binary64.Decimal

namespace Sift

/-- A JSON number. -/
inductive Json.Number where
  /-- A whole number in the signed or the unsigned 64-bit range. -/
  | int (value : Int) (lower : -9223372036854775808 ≤ value)
      (upper : value < 18446744073709551616)
  /-- Any other number. -/
  | float (value : Binary64.Finite)
deriving DecidableEq

/-- A JSON value. -/
inductive Json where
  | null
  | bool (value : Bool)
  | num (value : Json.Number)
  | str (value : String)
  | arr (items : List Json)
  | obj (members : List (String × Json))

namespace Json

instance : Inhabited Json := ⟨null⟩

/-! ## §1. Equality -/

mutual
/-- Whether two values are the same value. -/
def same : Json → Json → Bool
  | null, null => true
  | bool a, bool b => a == b
  | num a, num b => decide (a = b)
  | str a, str b => a == b
  | arr a, arr b => sameItems a b
  | obj a, obj b => sameMembers a b
  | _, _ => false
termination_by structural a => a

/-- `same`, item by item. -/
def sameItems : List Json → List Json → Bool
  | [], [] => true
  | a :: as, b :: bs => same a b && sameItems as bs
  | _, _ => false
termination_by structural as => as

/-- `same`, member by member, with the same keys. -/
def sameMembers : List (String × Json) → List (String × Json) → Bool
  | [], [] => true
  | (k, a) :: as, (l, b) :: bs => k == l && same a b && sameMembers as bs
  | _, _ => false
termination_by structural as => as
end

mutual
/-- `same` answers equality. -/
theorem same_iff : ∀ a b : Json, same a b = true ↔ a = b
  | null, b => by cases b <;> simp [same]
  | bool a, b => by cases b <;> simp [same]
  | num a, b => by cases b <;> simp [same]
  | str a, b => by cases b <;> simp [same]
  | arr a, b => by cases b <;> simp [same, sameItems_iff a]
  | obj a, b => by cases b <;> simp [same, sameMembers_iff a]

theorem sameItems_iff : ∀ as bs : List Json, sameItems as bs = true ↔ as = bs
  | [], bs => by cases bs <;> simp [sameItems]
  | a :: as, bs => by cases bs <;> simp [sameItems, same_iff a, sameItems_iff as]

theorem sameMembers_iff : ∀ as bs : List (String × Json), sameMembers as bs = true ↔ as = bs
  | [], bs => by cases bs <;> simp [sameMembers]
  | (k, a) :: as, bs => by
    cases bs with
    | nil => simp [sameMembers]
    | cons m bs =>
      obtain ⟨l, b⟩ := m
      simp [sameMembers, same_iff a, sameMembers_iff as]
end

instance : DecidableEq Json := fun a b =>
  decidable_of_iff (same a b = true) (same_iff a b)

/-! ## §2. Numbers -/

/-- A whole number; outside the 64-bit ranges it becomes the nearest binary64 number. -/
def ofInt (i : Int) : Json :=
  if h : -9223372036854775808 ≤ i ∧ i < 18446744073709551616 then num (.int i h.1 h.2)
  else match Binary64.ofInt i with
    | .finite x => num (.float x)
    | _ => null

/-- A binary64 number; JSON has no spelling for the infinities and the NaN. -/
def ofBinary64 : Binary64 → Json
  | .finite x => num (.float x)
  | _ => null

/-- The binary64 number nearest to a JSON number. -/
def Number.toBinary64 : Number → Binary64
  | .int i _ _ => .ofInt i
  | .float x => .finite x

/-- The value of a whole number. -/
def Number.int? : Number → Option Int
  | .int i _ _ => some i
  | .float _ => none

/-! ## §3. Objects -/

/-- Adds a member to members in the order of their keys, replacing one of the same key. -/
def insertMember (key : String) (value : Json) :
    List (String × Json) → List (String × Json)
  | [] => [(key, value)]
  | (k, v) :: rest =>
    if key < k then (key, value) :: (k, v) :: rest
    else if key = k then (key, value) :: rest
    else (k, v) :: insertMember key value rest

/-- **The object with the given members**, the last of several with one key. -/
def object (members : List (String × Json)) : Json :=
  obj (members.foldl (fun acc m => insertMember m.1 m.2 acc) [])

def lookup (key : String) : List (String × Json) → Option Json
  | [] => none
  | (k, v) :: rest => if k = key then some v else lookup key rest

/-- **Inserting** sets the member of that key and keeps the others. -/
theorem lookup_insertMember (key asked : String) (value : Json)
    (members : List (String × Json)) :
    lookup asked (insertMember key value members) =
      if key = asked then some value else lookup asked members := by
  induction members with
  | nil => simp [insertMember, lookup]
  | cons m rest ih =>
    obtain ⟨k, v⟩ := m
    unfold insertMember
    split
    · simp [lookup]
    · split
      · rename_i h
        subst h
        by_cases hk : key = asked <;> simp [lookup, hk]
      · rename_i h
        by_cases hk : k = asked
        · subst hk
          simp [lookup, h]
        · simp [lookup, hk, ih]

/-- The member of an object; no other value has members. -/
def get? (key : String) : Json → Option Json
  | obj members => lookup key members
  | _ => none

/-! ## §4. Views -/

def str? : Json → Option String
  | str s => some s
  | _ => none

def bool? : Json → Option Bool
  | bool b => some b
  | _ => none

def items? : Json → Option (List Json)
  | arr items => some items
  | _ => none

/-- The type's name, as messages give it. -/
def typeName : Json → String
  | null => "null"
  | bool _ => "boolean"
  | num _ => "number"
  | str _ => "string"
  | arr _ => "array"
  | obj _ => "object"

mutual
/-- How deeply arrays and objects are nested: `0` for a scalar. -/
def depth : Json → Nat
  | arr items => depthItems items + 1
  | obj members => depthMembers members + 1
  | _ => 0
termination_by structural j => j

def depthItems : List Json → Nat
  | [] => 0
  | j :: rest => max (depth j) (depthItems rest)
termination_by structural js => js

def depthMembers : List (String × Json) → Nat
  | [] => 0
  | (_, j) :: rest => max (depth j) (depthMembers rest)
termination_by structural ms => ms
end

end Json

end Sift
