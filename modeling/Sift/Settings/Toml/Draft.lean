/-
  Sift.Settings.Toml.Draft
  ────────────────────────
  **Documents while they are read.**

  A table can be opened by a header once, and dotted keys extend only tables that no header
  opened.  A draft remembers how each table came about, so that every other repetition is
  refused; `toTree` forgets it.
-/
import Sift.Settings.Tree

namespace Sift.Settings.Toml

/-- How a table came about. -/
inductive Origin where
  /-- A header names it. -/
  | header
  /-- It lies on the way to a table that a header names. -/
  | implied
  /-- A dotted key leads through it. -/
  | dotted
deriving DecidableEq

/-- Part of a document. -/
inductive Draft where
  | value (tree : Tree)
  | table (origin : Origin) (members : List (String × Draft))
  /-- An array of tables: the last one, which is open, and those before it in reverse. -/
  | tables (before : List Draft) (last : List (String × Draft))

/-- The members of a table. -/
abbrev Members := List (String × Draft)

namespace Draft

mutual
/-- The finished tree. -/
def toTree : Draft → Tree
  | value tree => tree
  | table _ members => .table (membersToTree members)
  | tables before last =>
    .array ((toTrees before).reverse ++ [.table (membersToTree last)])
termination_by structural d => d

/-- The finished trees of several parts. -/
def toTrees : List Draft → List Tree
  | [] => []
  | d :: rest => toTree d :: toTrees rest
termination_by structural ds => ds

/-- The finished members. -/
def membersToTree : List (String × Draft) → List (String × Tree)
  | [] => []
  | (k, d) :: rest => (k, toTree d) :: membersToTree rest
termination_by structural ms => ms
end

/-- Changes the member of a name, or adds one at the end. -/
def alter (name : String) (f : Option Draft → Option Draft) : Members → Option Members
  | [] => (f none).map fun d => [(name, d)]
  | (k, d) :: rest =>
    if k = name then (f (some d)).map fun d => (k, d) :: rest
    else (alter name f rest).map ((k, d) :: ·)

/-- Changes the table at a path of header names; an array of tables stands for its last. -/
def within (f : Members → Option Members) : List String → Members → Option Members
  | [], members => f members
  | name :: rest, members =>
    alter name (fun
      | none => (within f rest []).map (.table .implied)
      | some (.table origin inner) => (within f rest inner).map (.table origin)
      | some (.tables before last) => (within f rest last).map (.tables before)
      | some (.value _) => none) members

/-- Sets a value under a dotted key. -/
def assign (tree : Tree) : List String → Members → Option Members
  | [], _ => none
  | [name], members =>
    alter name (fun | none => some (.value tree) | some _ => none) members
  | name :: rest, members =>
    alter name (fun
      | none => (assign tree rest []).map (.table .dotted)
      | some (.table .header _) => none
      | some (.table origin inner) => (assign tree rest inner).map (.table origin)
      | some _ => none) members

/-- Opens the table that a header names. -/
def openTable (name : String) : Members → Option Members :=
  alter name fun
    | none => some (.table .header [])
    | some (.table .implied inner) => some (.table .header inner)
    | some _ => none

/-- Opens one more table of the array that a header names. -/
def openItem (name : String) : Members → Option Members :=
  alter name fun
    | none => some (.tables [] [])
    | some (.tables before last) => some (.tables (.table .header last :: before) [])
    | some _ => none

end Draft

end Sift.Settings.Toml
