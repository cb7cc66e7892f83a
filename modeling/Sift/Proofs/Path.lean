/-
  Sift.Proofs.Path
  ────────────────
  **Dotted paths compose.**

  A point joins two nonempty paths into the path that follows one and then the other
  (`Json.at?_below`).  The empty path is not one of them: as a whole path it stands for the
  value itself, but after a point it is a step, the empty key, and that step never stands still
  (`Path.enter?_nil_ne_self`).
-/
import Sift.Path

namespace Sift

namespace Json

/-! ## §1. Members lie deeper -/

/-- A member is no deeper than its object's members. -/
theorem depth_le_of_lookup {key : String} {value : Json} :
    ∀ {members : List (String × Json)}, lookup key members = some value →
      value.depth ≤ depthMembers members
  | (k, v) :: rest, h => by
      rw [lookup] at h
      rw [depthMembers]
      split at h
      · cases h
        exact Nat.le_max_left ..
      · exact Nat.le_trans (depth_le_of_lookup h) (Nat.le_max_right ..)

end Json

namespace Path

/-! ## §2. The empty step -/

/-- The empty step is the empty key: arrays have no position of that name. -/
theorem enter?_nil (value : Json) : enter? value [] = value.get? "" := by
  cases value <;> rfl

/-- **The empty step never stands still.** -/
theorem enter?_nil_ne_self (value : Json) : enter? value [] ≠ some value := by
  rw [enter?_nil]
  intro h
  -- What the empty key leads to would have to be deeper than itself.
  cases value with
  | obj members =>
    have deeper := Json.depth_le_of_lookup h
    rw [Json.depth] at deeper
    omega
  | _ => cases h

end Path

namespace Json

/-! ## §3. Joined paths -/

@[simp] theorem at?_empty (value : Json) : value.at? "" = some value := rfl

/-- A nonempty path is followed step by step. -/
theorem at?_of_ne_empty {path : String} (h : path ≠ "") (value : Json) :
    value.at? path = Path.follow? value (Path.steps path.toList) := by
  unfold at?
  rw [if_neg (by simpa using h)]

/-- A joined path follows the steps of both its sides, be they empty or not. -/
theorem at?_below_eq (root path : String) (value : Json) :
    value.at? (Path.below root path) =
      (Path.follow? value (Path.steps root.toList)).bind fun inner =>
        Path.follow? inner (Path.steps path.toList) := by
  have joined : (Path.below root path).toList = root.toList ++ '.' :: path.toList := by
    simp [Path.below, String.toList_append]
  have nonempty : Path.below root path ≠ "" := by
    intro h
    rw [h] at joined
    simp at joined
  rw [at?_of_ne_empty nonempty, joined, Path.steps_append_point, Path.follow?_append]

/-- **A point joins two nonempty paths.** -/
theorem at?_below {root path : String} (hroot : root ≠ "") (hpath : path ≠ "")
    (value : Json) :
    value.at? (Path.below root path) =
      (value.at? root).bind fun inner => inner.at? path := by
  rw [at?_below_eq, at?_of_ne_empty hroot]
  congr 1
  funext inner
  rw [at?_of_ne_empty hpath]

/-- After a point the empty path is the empty key. -/
theorem at?_below_empty {root : String} (hroot : root ≠ "") (value : Json) :
    value.at? (Path.below root "") = (value.at? root).bind (·.get? "") := by
  rw [at?_below_eq, at?_of_ne_empty hroot]
  congr 1
  funext inner
  show (Path.enter? inner []).bind some = _
  rw [Option.bind_fun_some, Path.enter?_nil]

end Json

end Sift
