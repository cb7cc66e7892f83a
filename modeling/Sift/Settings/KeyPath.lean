/-
  Sift.Settings.KeyPath
  ─────────────────────
  **Keys that lead into a tree, and merging by them.**

  A top-level key of a settings source is a path: a name, then names after points and positions
  in brackets.  A key that is no such path is one name as it stands.  What is set replaces what
  was there, except that the members of a table are merged into the table at its place.  So two
  keys of one source may set one place, and then the later one counts.
-/
import Sift.Settings.Tree
import Sift.Text.Digits

namespace Sift.Settings

/-- One step below the first name. -/
inductive KeyStep where
  | name (name : String)
  /-- A position; a negative one counts from the end. -/
  | position (position : Int)
deriving DecidableEq

namespace KeyPath

/-! ## §1. Reading -/

def isNameChar (c : Char) : Bool := c.isAlphanum || c = '_' || c = '-'

/-- A name and the rest of a key. -/
def name? (cs : List Char) : Option (String × List Char) :=
  let name := cs.takeWhile isNameChar
  if name.isEmpty then none else some (String.ofList name, cs.drop name.length)

/-- The text after the spaces and tabs at its start. -/
def skipBlanks (cs : List Char) : List Char := cs.dropWhile fun c => c = ' ' || c = '\t'

/-- A position, spaces and tabs around it, and the rest of a key after the closing bracket. -/
def position? (cs : List Char) : Option (Int × List Char) :=
  let (negative, cs) := match skipBlanks cs with
    | '-' :: cs => (true, cs)
    | cs => (false, cs)
  let (ds, rest) := Text.spanDigits cs
  match ds, skipBlanks rest with
  | _ :: _, ']' :: rest =>
    let size : Int := Text.digitsValue ds
    if size < 9223372036854775808 then some (if negative then -size else size, rest) else none
  | _, _ => none

/-- The steps of a key after its first name; `fuel` bounds their number. -/
def steps? : Nat → List Char → Option (List KeyStep)
  | _, [] => some []
  | 0, _ => none
  | fuel + 1, '.' :: cs => do
    let (name, cs) ← name? cs
    return .name name :: (← steps? fuel cs)
  | fuel + 1, '[' :: cs => do
    let (position, cs) ← position? cs
    return .position position :: (← steps? fuel cs)
  | _ + 1, _ => none

/-- **The path of a key**: its first name and the steps below. -/
def ofKey (key : String) : String × List KeyStep :=
  let path := do
    let (name, cs) ← name? key.toList
    return (name, ← steps? cs.length cs)
  path.getD (key, [])

/-! ## §2. Setting -/

/-- The members of a table; any other tree is replaced by an empty one. -/
def membersOf (t : Tree) : List (String × Tree) := t.members?.getD []

/-- The items of an array; any other tree is replaced by an empty one. -/
def itemsOf (t : Tree) : List Tree := t.items?.getD []

/-- Items with missing values at the end, up to a size. -/
def fill (size : Nat) (items : List Tree) : List Tree :=
  items ++ List.replicate (size - items.length) .nil

/-- Items with missing values before them, up to a size. -/
def fillBefore (size : Nat) (items : List Tree) : List Tree :=
  List.replicate (size - items.length) .nil ++ items

/-- Changes the item at a position, filling up with missing values on either side. -/
def alterItem (position : Int) (f : Tree → Tree) (items : List Tree) : List Tree :=
  if 0 ≤ position then (fill (position.toNat + 1) items).modify position.toNat f
  else
    let filled := fillBefore position.natAbs items
    filled.modify (filled.length - position.natAbs) f

/-- Changes the tree that the steps lead to, making what is missing on the way. -/
def alter (f : Tree → Tree) : List KeyStep → Tree → Tree
  | [], t => f t
  | .name name :: rest, t =>
    let members := membersOf t
    .table (Tree.assign name (alter f rest ((Tree.lookup name members).getD .nil)) members)
  | .position position :: rest, t => .array (alterItem position (alter f rest) (itemsOf t))

mutual
/-- **Merges a tree into another**: tables member by member, anything else replaces. -/
def merge : Tree → Tree → Tree
  | .table incoming, t => .table (mergeMembers incoming (membersOf t))
  | incoming, _ => incoming
termination_by structural incoming => incoming

/-- Merges each member of a table. -/
def mergeMembers : List (String × Tree) → List (String × Tree) → List (String × Tree)
  | [], members => members
  | (name, incoming) :: rest, members =>
    mergeMembers rest
      (Tree.assign name (merge incoming ((Tree.lookup name members).getD .nil)) members)
termination_by structural ms => ms
end

/-- Sets one top-level key. -/
def set (members : List (String × Tree)) (key : String) (value : Tree) : List (String × Tree) :=
  let (name, steps) := ofKey key
  let inner := (Tree.lookup name members).getD .nil
  Tree.assign name (alter (merge value) steps inner) members

/-- Sets the keys of a source, the first of them first. -/
def setAll (members source : List (String × Tree)) : List (String × Tree) :=
  source.foldl (fun acc m => set acc m.1 m.2) members

end KeyPath

end Sift.Settings
