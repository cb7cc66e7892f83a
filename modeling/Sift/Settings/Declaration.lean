/-
  Sift.Settings.Declaration
  ─────────────────────────
  **Declarations of subjects and their operators.**

  Identifiers and paths take any scalar by its text.  An optional member may be missing or
  have no value; any other member needs one.  A declaration is a table, or an array of its
  members in their order; what a table or an array holds besides is ignored.
-/
import Sift.Comparison.Basic
import Sift.Operand.Declaration

namespace Sift

namespace Settings

/-- A declared operator. -/
structure OperatorDeclaration where
  id : Option String
  comparison : Comparison
  form : Option Form

/-- A declared subject. -/
structure SubjectDeclaration where
  id : String
  path : Option String
  operators : List OperatorDeclaration

end Settings

/-- Declared subjects, their paths below a common root where there is one. -/
structure Settings where
  root : Option String
  subjects : List Settings.SubjectDeclaration

namespace Settings

namespace Declaration

/-! ## §1. Members -/

/-- The text of a scalar. -/
def scalarText? : Tree → Option String
  | .text s => some s
  | .truth b => some (toString b)
  | .integer i => some (String.ofList (Text.intDigits i))
  | .number x => some (Rejection.numberText x)
  | _ => none

/-- The comparison that a tree names: a name, or a table whose only member has that name.  Names in
another case name nothing. -/
def comparison? : Tree → Option Comparison
  | .text name => Comparison.ofName? name
  | .table [(name, _)] => Comparison.ofName? name
  | _ => none

/-- The members of a declaration by their names, in the order of an array. -/
def parts? (names : List String) : Tree → Option (List (Option Tree))
  | .table members => some (names.map fun name => Tree.lookup name members)
  | .array items => some ((List.range names.length).map fun n => items[n]?)
  | _ => none

/-- An optional member. -/
def optional? (read : Tree → Option α) : Option Tree → Option (Option α)
  | none => some none
  | some t => Form.optionalTree? read t

/-- A member that is a list; none where it is missing. -/
def list? (read : Tree → Option α) : Option Tree → Option (List α)
  | none => some []
  | some (.array items) => items.mapM read
  | some _ => none

/-! ## §2. Declarations -/

/-- The operator that a tree declares. -/
def operator? (t : Tree) : Option OperatorDeclaration :=
  match parts? ["id", "kind", "value"] t with
  | some [id, kind, form] => do
    let id ← optional? scalarText? id
    let comparison ← kind.bind comparison?
    let form ← optional? (Form.ofTree? false false) form
    return { id, comparison, form }
  | _ => none

/-- The subject that a tree declares. -/
def subject? (t : Tree) : Option SubjectDeclaration :=
  match parts? ["id", "path", "operators"] t with
  | some [id, path, operators] => do
    let id ← id.bind scalarText?
    let path ← optional? scalarText? path
    let operators ← list? operator? operators
    return { id, path, operators }
  | _ => none

end Declaration

open Declaration in
/-- **The settings that top-level members declare.** -/
def ofMembers? (members : List (String × Tree)) : Option Settings := do
  let root ← optional? scalarText? (Tree.lookup "root" members)
  let subjects ← list? subject? (Tree.lookup "choices" members)
  return { root, subjects }

end Settings

end Sift
