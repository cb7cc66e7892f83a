/-
  Sift.Settings.Tree
  ──────────────────
  **Trees of settings, whatever format they were written in.**

  A tree is what declarations are read from.  Unlike JSON it tells whole numbers of any size
  from binary64 numbers, and the latter may be infinite or a NaN.  A table has at most one
  member of each name.
-/
import Sift.Json.Basic

namespace Sift.Settings

/-- A tree of settings. -/
inductive Tree where
  /-- No value. -/
  | nil
  | truth (value : Bool)
  | integer (value : Int)
  | number (value : Binary64)
  | text (value : String)
  | array (items : List Tree)
  | table (members : List (String × Tree))

namespace Tree

instance : Inhabited Tree := ⟨nil⟩

/-! ## §1. Trees of JSON values -/

/-- The tree of a JSON number; a whole number stays one, also past the signed words. -/
def ofNumber : Json.Number → Tree
  | .int i _ _ => integer i
  | .float x => number (.finite x)

mutual
/-- The tree of a JSON value. -/
def ofJson : Json → Tree
  | .null => nil
  | .bool b => truth b
  | .num n => ofNumber n
  | .str s => text s
  | .arr items => array (ofItems items)
  | .obj members => table (ofMembers members)
termination_by structural j => j

def ofItems : List Json → List Tree
  | [] => []
  | j :: rest => ofJson j :: ofItems rest
termination_by structural js => js

def ofMembers : List (String × Json) → List (String × Tree)
  | [] => []
  | (k, j) :: rest => (k, ofJson j) :: ofMembers rest
termination_by structural ms => ms
end

/-! ## §2. Members -/

def lookup (name : String) : List (String × Tree) → Option Tree
  | [] => none
  | (k, t) :: rest => if k = name then some t else lookup name rest

/-- Sets a member, at its place by the names: in a table that is made so, the order of the members
says nothing about the order in which they were set. -/
def assign (name : String) (t : Tree) : List (String × Tree) → List (String × Tree)
  | [] => [(name, t)]
  | (k, u) :: rest =>
    if k = name then (name, t) :: rest
    else if k < name then (k, u) :: assign name t rest
    else (name, t) :: (k, u) :: rest

/-- **Assigning** sets the member of that name and keeps the others. -/
theorem lookup_assign (name asked : String) (t : Tree) (members : List (String × Tree)) :
    lookup asked (assign name t members) =
      if name = asked then some t else lookup asked members := by
  induction members with
  | nil => simp [assign, lookup]
  | cons m rest ih =>
    obtain ⟨k, u⟩ := m
    unfold assign
    split
    · rename_i same
      subst same
      by_cases hk : k = asked <;> simp [lookup, hk]
    · rename_i other
      split
      · by_cases hk : k = asked
        · subst hk
          simp [lookup, Ne.symm other]
        · simp [lookup, hk, ih]
      · simp [lookup]

def members? : Tree → Option (List (String × Tree))
  | table members => some members
  | _ => none

def items? : Tree → Option (List Tree)
  | array items => some items
  | _ => none

def text? : Tree → Option String
  | text s => some s
  | _ => none

def isNil : Tree → Bool
  | nil => true
  | _ => false

end Tree

end Sift.Settings
