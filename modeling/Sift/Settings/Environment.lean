/-
  Sift.Settings.Environment
  ─────────────────────────
  **Settings given by environment variables.**

  A variable whose name starts with the reserved word sets the key that the rest of its name
  spells, in lower case and with a point for every two underscores.  Its text is read as a
  truth value, a whole number or a number where it is one.
-/
import Sift.Settings.KeyPath
import Sift.Json.Numeric

namespace Sift.Settings.Environment

/-- What the names of the variables start with, in lower case. -/
def reserved : List Char := "condition_engine__".toList

/-- A name with a point for every two underscores. -/
def pointed : List Char → List Char
  | '_' :: '_' :: cs => '.' :: pointed cs
  | c :: cs => c :: pointed cs
  | [] => []

/-- The key that a variable of that name sets, where it sets one. -/
def key? (name : String) : Option String :=
  let lower := name.toList.map Char.toLower
  if reserved.isPrefixOf lower then
    some (String.ofList (pointed (lower.drop reserved.length)))
  else none

/-- **The value of a variable's text.** -/
def value (text : String) : Tree :=
  let lower := text.toList.map Char.toLower
  if lower = "true".toList then .truth true
  else if lower = "false".toList then .truth false
  else match (Text.integer? text.toList).bind signedWord? with
    | some w => .integer w.toInt
    | none => match Binary64.ofText? text.toList with
      | some x => .number x
      | none => .text text

/-- **The settings that some variables give**; of two that set one key the later wins. -/
def settings (env : List (String × String)) : List (String × Tree) :=
  env.foldl (fun acc v =>
    match key? v.1 with
    | some key => Tree.assign key (value v.2) acc
    | none => acc) []

end Sift.Settings.Environment
