/-
  Sift.Proofs.Binary64.Nearness
  ─────────────────────────────
  **How near two numbers have to be.**

  Nearness compares a rounded difference with `2^-52`, and a difference is rounded up to that from
  half a last place before it on.  So two finite numbers are near each other exactly when they are
  less than

      2^-52 - 2^-106   =   `tolerance`, in units

  apart, wherever they lie.  From one on, different numbers are never as near as that.

  Main results: `near_finite_iff`, `tolerance_le_of_one_le`.
-/
import Sift.Proofs.Binary64.Rounding

namespace Sift.Binary64

/-! ## §1. The tolerance -/

/-- **The distance** from which on two numbers are no longer near, in units. -/
def tolerance : Nat := Nat.pow 2 1022 - Nat.pow 2 968

/-- The exponents of one, of the limit, of `epsilon` and of the half of its last place. -/
theorem exists_exponents : ∃ one limit small half, unitsPerOne = Nat.pow 2 one
    ∧ unitLimit = Nat.pow 2 limit ∧ epsilon = ofUnits false (Nat.pow 2 small) 1
    ∧ tolerance = Nat.pow 2 small - Nat.pow 2 half
    ∧ one + 64 < limit ∧ one = small + 52 ∧ small = half + 54 := by
  refine ⟨1074, 2098, 1022, 968, ?_, ?_, ?_, ?_, by decide, by decide, by decide⟩
  · unfold unitsPerOne
    rfl
  · unfold unitLimit
    rfl
  · unfold epsilon
    rfl
  · unfold tolerance
    rfl

/-- The tolerance is positive, and less than one. -/
theorem tolerance_bounds : 0 < tolerance ∧ tolerance < unitsPerOne := by
  obtain ⟨one, -, small, half, whole, -, -, band, -, below, last⟩ := exists_exponents
  rw [whole, band]
  constructor
  · exact Nat.sub_pos_of_lt (Nat.pow_lt_pow_right (by decide) (by omega))
  · exact Nat.lt_of_le_of_lt (Nat.sub_le _ _) (Nat.pow_lt_pow_right (by decide) (by omega))

/-- **A count is rounded below `epsilon`** exactly when it is below the tolerance. -/
theorem lt_epsilon_iff (u : Nat) (negative : Bool) :
    (ofUnits negative u 1).abs.lt epsilon = true ↔ u < tolerance := by
  obtain ⟨one, limit, small, half, -, bound, distance, band, room, below, last⟩ :=
    exists_exponents
  have kept : roundUnits (Nat.pow 2 small) 1 = 2 ^ small := roundUnits_two_pow small
  have far : 2 ^ small < unitLimit := by
    rw [bound]
    exact Nat.pow_lt_pow_right (by decide) (by omega)
  have near : roundUnits u 1 < 2 ^ small ↔ u < tolerance := by
    have reached := two_pow_le_roundUnits_iff u half
    rw [← last] at reached
    have : tolerance = 2 ^ small - 2 ^ half := band
    omega
  rw [distance, ofUnits_one (by rw [kept]; exact far) false, ← near]
  unfold ofUnits
  split
  · show decide (((roundUnits u 1 : Nat) : Int) < ((roundUnits (Nat.pow 2 small) 1 : Nat) : Int))
      = true ↔ _
    rw [decide_eq_true_eq, kept]
    omega
  · -- An infinite difference is not small.
    rename_i overflow
    have beyond : ¬ roundUnits u 1 < 2 ^ small := by
      intro h
      exact overflow (fits_roundUnits (Nat.lt_trans h far))
    simp [abs, lt, beyond]

/-! ## §2. Near finite numbers -/

/-- **Finite numbers are near each other** exactly when they are less than the tolerance apart. -/
theorem near_finite_iff (x y : Finite) :
    (finite x).near (finite y) = true ↔ (x.toInt - y.toInt).natAbs < tolerance :=
  lt_epsilon_iff _ _

/-- The units of a number of at least `k + 53` digits are a multiple of `2^k`. -/
theorem Finite.two_pow_dvd_units {x : Finite} {k : Nat} (h : 2 ^ (k + 52) ≤ x.units) :
    2 ^ k ∣ x.units := by
  have some : x.units ≠ 0 := by have := Nat.two_pow_pos (k + 52); omega
  have step : k ≤ spacing x.units := by
    have := (Nat.le_log2 some).2 h
    unfold spacing
    omega
  exact Nat.dvd_trans (Nat.pow_dvd_pow 2 step) (Nat.dvd_of_mod_eq_zero x.fits.2)

/-- **From one on the tolerance is void**: there, different numbers are that far apart. -/
theorem tolerance_le_of_one_le {x y : Finite} (hx : unitsPerOne ≤ x.units)
    (hy : unitsPerOne ≤ y.units) (apart : x.toInt ≠ y.toInt) :
    tolerance ≤ (x.toInt - y.toInt).natAbs := by
  obtain ⟨one, -, small, half, whole, -, -, band, -, step, -⟩ := exists_exponents
  rw [whole, step] at hx hy
  -- From one on, every number is a multiple of 2^small units.
  have multiple {z : Finite} (hz : 2 ^ (small + 52) ≤ z.units) :
      ((2 ^ small : Nat) : Int) ∣ z.toInt := by
    have := Int.natCast_dvd_natCast.2 (Finite.two_pow_dvd_units hz)
    unfold Finite.toInt
    split
    · exact Int.dvd_neg.2 this
    · exact this
  have difference : 2 ^ small ∣ (x.toInt - y.toInt).natAbs :=
    Int.ofNat_dvd_left.1 (Int.dvd_sub (multiple hx) (multiple hy))
  calc tolerance = 2 ^ small - 2 ^ half := band
    _ ≤ 2 ^ small := Nat.sub_le _ _
    _ ≤ (x.toInt - y.toInt).natAbs := Nat.le_of_dvd (by omega) difference

end Sift.Binary64
