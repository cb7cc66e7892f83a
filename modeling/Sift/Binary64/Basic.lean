/-
  Sift.Binary64.Basic
  ───────────────────
  **Binary64 numbers as exact whole multiples of the smallest positive one.**

  A finite number is a sign and a count of *units*, one unit being `2^-1074`.  Every
  operation is computed exactly on whole numbers and rounded once, to the nearest
  representable count, a half going to the even neighbour.

  Main definitions: `Binary64`, `Binary64.roundUnits` (the one rounding step),
  `Binary64.ofInt`, `Binary64.sub`, the comparisons `eq`, `lt`, `le`, and `Binary64.near`
  (equality up to `2^-52`, itself computed with the rounded difference).
-/

namespace Sift

namespace Binary64

/-! ## §1. Representable counts of units -/

/-- One is `2^1074` units. -/
def unitsPerOne : Nat := Nat.pow 2 1074

/-- Every finite number is below this many units. -/
def unitLimit : Nat := Nat.pow 2 2098

/-- **The spacing rule.**  A significand holds 53 binary digits, so a count of `u` units is a
multiple of `2 ^ spacing u`. -/
def spacing (u : Nat) : Nat := u.log2 - 52

/-- A count of units that some finite number has. -/
def Fits (u : Nat) : Prop := u < unitLimit ∧ u % Nat.pow 2 (spacing u) = 0

instance (u : Nat) : Decidable (Fits u) := by unfold Fits; infer_instance

theorem fits_zero : Fits 0 := by
  unfold Fits unitLimit
  -- Any power would do; this one is too large to be evaluated.
  generalize 2098 = n
  exact ⟨Nat.two_pow_pos n, Nat.zero_mod _⟩

/-- A finite number: its sign and its size in units.  Zero has both signs. -/
structure Finite where
  negative : Bool
  units : Nat
  fits : Fits units
deriving DecidableEq

/-- The exact value in units, signed. -/
def Finite.toInt (x : Finite) : Int := if x.negative then -(x.units : Int) else x.units

end Binary64

/-- A binary64 number. -/
inductive Binary64 where
  | nan
  | infinite (negative : Bool)
  | finite (x : Binary64.Finite)
deriving DecidableEq

namespace Binary64

/-- The number itself, where it is finite. -/
def finite? : Binary64 → Option Finite
  | .finite x => some x
  | _ => none

/-! ## §2. Rounding -/

/-- The whole number nearest to `num / den`; a half goes to the even neighbour. -/
def divNearest (num den : Nat) : Nat :=
  let q := num / den
  let r := num % den
  if 2 * r < den then q else if den < 2 * r then q + 1 else q + q % 2

/-- **The rounding step.**  The representable count of units nearest to `num / den`; only
`unitLimit` is not observed here. -/
def roundUnits (num den : Nat) : Nat :=
  let gap := Nat.pow 2 (spacing (num / den))
  divNearest num (den * gap) * gap

/-- The number with the given sign nearest to `num / den` units.  A count past the largest
finite one becomes infinite. -/
def ofUnits (negative : Bool) (num den : Nat) : Binary64 :=
  if h : Fits (roundUnits num den) then .finite ⟨negative, roundUnits num den, h⟩
  else .infinite negative

def zero (negative : Bool) : Binary64 := .finite ⟨negative, 0, fits_zero⟩

def ofInt (i : Int) : Binary64 := ofUnits (decide (i < 0)) (i.natAbs * unitsPerOne) 1

/-! ## §3. Comparison -/

/-- Numerical equality: the zeros are equal, and nothing equals a NaN. -/
def eq : Binary64 → Binary64 → Bool
  | .finite x, .finite y => x.toInt == y.toInt
  | .infinite a, .infinite b => a == b
  | _, _ => false

/-- Numerical order.  A NaN is neither below nor above anything. -/
def lt : Binary64 → Binary64 → Bool
  | .finite x, .finite y => decide (x.toInt < y.toInt)
  | .finite _, .infinite b => !b
  | .infinite a, .finite _ => a
  | .infinite a, .infinite b => a && !b
  | _, _ => false

def le (a b : Binary64) : Bool := a.lt b || a.eq b

/-! ## §4. Difference and nearness -/

/-- The rounded difference. -/
def sub : Binary64 → Binary64 → Binary64
  | .finite x, .finite y =>
    let d := x.toInt - y.toInt
    ofUnits (decide (d < 0)) d.natAbs 1
  | .finite _, .infinite b => .infinite (!b)
  | .infinite a, .finite _ => .infinite a
  | .infinite a, .infinite b => if a == b then .nan else .infinite a
  | _, _ => .nan

/-- The same number without its sign. -/
def abs : Binary64 → Binary64
  | .finite x => .finite { x with negative := false }
  | .infinite _ => .infinite false
  | .nan => .nan

/-- The distance from one to the next larger number, `2^-52`. -/
def epsilon : Binary64 := ofUnits false (Nat.pow 2 1022) 1

/-- **Nearness.**  Two numbers are near when their rounded difference is below `epsilon`. -/
def near (a b : Binary64) : Bool := (a.sub b).abs.lt epsilon

end Binary64

end Sift
