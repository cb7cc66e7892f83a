/-
  Sift.Path
  ─────────
  **Dotted paths into JSON values.**

  The points of a path separate its steps.  A step into an object is a key, a step into an
  array a position, counted from zero and written in decimal.  The empty path is the whole
  value; every other text has at least one step, the empty key included.
-/
import Sift.Json.Basic
import Sift.Word

namespace Sift

namespace Path

/-! ## §1. Steps -/

/-- The steps of a nonempty path: the texts between its points. -/
def steps : List Char → List (List Char)
  | [] => [[]]
  | c :: cs =>
    if c = '.' then [] :: steps cs
    else match steps cs with
      | [] => [[c]]
      | first :: rest => (c :: first) :: rest

theorem steps_ne_nil (cs : List Char) : steps cs ≠ [] := by
  cases cs with
  | nil => simp [steps]
  | cons c cs =>
    unfold steps
    split
    · simp
    · split <;> simp

/-- **A point joins the steps** of the paths on its two sides. -/
theorem steps_append_point (p q : List Char) : steps (p ++ '.' :: q) = steps p ++ steps q := by
  induction p with
  | nil => simp [steps]
  | cons c p ih =>
    simp only [List.cons_append, steps]
    split
    · simp [ih]
    · rw [ih]
      -- A character goes to the first step, which is never missing.
      have nonempty := steps_ne_nil p
      split
      · rename_i h
        simp_all
      · rename_i first rest h
        cases hp : steps p with
        | nil => exact absurd hp nonempty
        | cons a as => simp_all

/-- The position that a step denotes: digits after an optional plus sign, in the unsigned
64-bit range. -/
def position? (step : List Char) : Option Nat :=
  (Text.natural? step).bind fun n => (unsignedWord? n).map (·.toNat)

/-- One step into a value. -/
def enter? (value : Json) (step : List Char) : Option Json :=
  match value with
  | .obj members => Json.lookup (String.ofList step) members
  | .arr items => (position? step).bind fun n => items[n]?
  | _ => none

/-- Several steps, one after the other. -/
def follow? (value : Json) : List (List Char) → Option Json
  | [] => some value
  | step :: rest => (enter? value step).bind fun inner => follow? inner rest

/-- Following two lots of steps is following one and then the other. -/
theorem follow?_append (value : Json) (p q : List (List Char)) :
    follow? value (p ++ q) = (follow? value p).bind fun inner => follow? inner q := by
  induction p generalizing value with
  | nil => rfl
  | cons step rest ih =>
    simp only [List.cons_append, follow?]
    cases enter? value step with
    | none => rfl
    | some inner => exact ih inner

end Path

/-- **The value at a path**, where there is one. -/
def Json.at? (value : Json) (path : String) : Option Json :=
  if path.isEmpty then some value else Path.follow? value (Path.steps path.toList)

/-- The path of `path` below `root`. -/
def Path.below (root path : String) : String := root ++ "." ++ path

end Sift
