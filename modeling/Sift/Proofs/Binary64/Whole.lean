/-
  Sift.Proofs.Binary64.Whole
  ──────────────────────────
  **Whole numbers among the binary64 numbers.**

  Rounding a whole number to a binary64 number keeps 53 significant binary digits, and for that
  it does not matter that numbers are counted in tiny units:

      units of `k`, rounded  =  `k` rounded, in units        (`roundUnits_whole`)

  So the number nearest to a 64-bit whole number is whole itself, and two such numbers, being at
  least one apart where they differ at all, are near each other exactly when they are the same.
  Rounding merges neighbours and never swaps them.

  Main results:
    * `ofInt_eq_ofInt_iff`, `nearestWhole_eq_iff` — which whole numbers are rounded to one number.
    * `near_ofInt_iff` — near whole numbers are rounded to one number.
    * `lt_ofInt_iff` — any others are in their own order.
-/
import Sift.Proofs.Binary64.Nearness

namespace Sift.Binary64

/-! ## §1. The number nearest to a whole number -/

theorem unitsPerOne_pos : 0 < unitsPerOne := by
  obtain ⟨one, -, -, -, power, -⟩ := exists_exponents
  rw [power]
  exact Nat.two_pow_pos one

/-- A whole number is rounded as a count of ones, whatever the unit. -/
theorem roundUnits_whole (k : Nat) :
    roundUnits (k * unitsPerOne) 1 = roundUnits k 1 * unitsPerOne := by
  obtain ⟨one, -, -, -, power, -⟩ := exists_exponents
  rw [power]
  exact roundUnits_mul_two_pow k one

/-- **What a whole number is rounded to**: the nearest whole number of 53 significant binary
digits, with the same sign. -/
def nearestWhole (i : Int) : Int :=
  if i < 0 then -(roundUnits i.natAbs 1 : Int) else roundUnits i.natAbs 1

/-- A whole number with at most 53 digits is kept. -/
theorem nearestWhole_of_lt {i : Int} (h : i.natAbs < 2 ^ 53) : nearestWhole i = i := by
  unfold nearestWhole
  rw [roundUnits_of_lt h]
  split <;> omega

/-- A whole number with more digits is not rounded to one with fewer. -/
theorem le_natAbs_nearestWhole {i : Int} (h : 2 ^ 53 ≤ i.natAbs) :
    2 ^ 53 ≤ (nearestWhole i).natAbs := by
  have := le_roundUnits h
  unfold nearestWhole
  split <;> omega

/-- **Below `2^53` nothing is lost**: a whole number of that size is rounded to what no other one
is rounded to. -/
theorem nearestWhole_eq_iff {i j : Int} (h : i.natAbs < 2 ^ 53 ∨ j.natAbs < 2 ^ 53) :
    nearestWhole i = nearestWhole j ↔ i = j := by
  constructor
  · intro same
    rcases Nat.lt_or_ge i.natAbs (2 ^ 53) with hi | hi <;>
      rcases Nat.lt_or_ge j.natAbs (2 ^ 53) with hj | hj
    · rwa [nearestWhole_of_lt hi, nearestWhole_of_lt hj] at same
    · -- The one keeps its size, the other stays at or above the bound.
      have := le_natAbs_nearestWhole hj
      rw [nearestWhole_of_lt hi] at same
      omega
    · have := le_natAbs_nearestWhole hi
      rw [nearestWhole_of_lt hj] at same
      omega
    · omega
  · intro same
    rw [same]

/-- **The number nearest to a 64-bit whole number** is finite, and whole. -/
theorem exists_ofInt_eq_finite {i : Int} (h : i.natAbs < 2 ^ 64) :
    ∃ x : Finite, ofInt i = .finite x ∧ x.negative = decide (i < 0)
      ∧ x.toInt = nearestWhole i * unitsPerOne := by
  -- Rounding keeps a 64-bit number at most 2^64, far below the largest binary64 number.
  have bounded : roundUnits (i.natAbs * unitsPerOne) 1 < unitLimit := by
    obtain ⟨one, limit, -, -, power, bound, -, -, room, -⟩ := exists_exponents
    rw [roundUnits_whole, power, bound]
    calc roundUnits i.natAbs 1 * 2 ^ one
        ≤ 2 ^ 64 * 2 ^ one := Nat.mul_le_mul_right _ (roundUnits_le h)
      _ = 2 ^ (64 + one) := (Nat.pow_add 2 64 one).symm
      _ < 2 ^ limit := Nat.pow_lt_pow_right (by decide) (by omega)
  refine ⟨_, ofUnits_one bounded _, rfl, ?_⟩
  unfold Finite.toInt nearestWhole
  simp only [roundUnits_whole, decide_eq_true_eq, Int.natCast_mul]
  split
  · rw [Int.neg_mul]
  · rfl

theorem mul_unitsPerOne_inj {a b : Int} : a * unitsPerOne = b * unitsPerOne ↔ a = b :=
  Int.mul_eq_mul_right_iff (by have := unitsPerOne_pos; omega)

/-- Rounding keeps the sign. -/
theorem nearestWhole_neg_iff {i : Int} : nearestWhole i < 0 ↔ i < 0 := by
  unfold nearestWhole
  split
  · rename_i negative
    have lead : 2 ^ 0 ≤ roundUnits i.natAbs 1 := le_roundUnits (by omega)
    omega
  · omega

/-- A finite number is its sign and its value. -/
theorem Finite.eq_of_toInt_eq {x y : Finite} (sign : x.negative = y.negative)
    (value : x.toInt = y.toInt) : x = y := by
  obtain ⟨negative, units, fits⟩ := x
  obtain ⟨negative', units', fits'⟩ := y
  cases sign
  obtain rfl : units = units' := by
    unfold toInt at value
    dsimp only at value
    split at value <;> omega
  rfl

/-- **Two whole numbers have one nearest number** exactly when they are rounded to one whole
number. -/
theorem ofInt_eq_ofInt_iff {i j : Int} (hi : i.natAbs < 2 ^ 64) (hj : j.natAbs < 2 ^ 64) :
    ofInt i = ofInt j ↔ nearestWhole i = nearestWhole j := by
  obtain ⟨x, hx, signX, valueX⟩ := exists_ofInt_eq_finite hi
  obtain ⟨y, hy, signY, valueY⟩ := exists_ofInt_eq_finite hj
  rw [hx, hy, ← mul_unitsPerOne_inj, ← valueX, ← valueY]
  constructor
  · intro same
    cases same
    rfl
  · intro value
    have whole : nearestWhole i = nearestWhole j := by
      rw [← mul_unitsPerOne_inj, ← valueX, ← valueY, value]
    -- Zero has two signs, but an integer rounds to a negative number only if it is negative.
    have sign : x.negative = y.negative := by
      rw [signX, signY, decide_eq_decide, ← nearestWhole_neg_iff, whole, nearestWhole_neg_iff]
    rw [Finite.eq_of_toInt_eq sign value]

/-! ## §2. Nearness and order -/

/-- **Whole numbers are near each other** exactly when they are rounded to one number. -/
theorem near_ofInt_iff {i j : Int} (hi : i.natAbs < 2 ^ 64) (hj : j.natAbs < 2 ^ 64) :
    (ofInt i).near (ofInt j) = true ↔ ofInt i = ofInt j := by
  rw [ofInt_eq_ofInt_iff hi hj]
  obtain ⟨x, hx, -, valueX⟩ := exists_ofInt_eq_finite hi
  obtain ⟨y, hy, -, valueY⟩ := exists_ofInt_eq_finite hj
  obtain ⟨positive, below⟩ := tolerance_bounds
  -- The difference is a whole number of ones.
  have difference : x.toInt - y.toInt = (nearestWhole i - nearestWhole j) * unitsPerOne := by
    rw [valueX, valueY, Int.sub_mul]
  rw [hx, hy, near_finite_iff, difference, Int.natAbs_mul, Int.natAbs_natCast]
  constructor
  · intro near
    rcases Nat.eq_zero_or_pos (nearestWhole i - nearestWhole j).natAbs with none | some
    · omega
    · have := Nat.le_mul_of_pos_left unitsPerOne some
      omega
  · intro same
    rw [same, Int.sub_self, Int.natAbs_zero, Nat.zero_mul]
    exact positive

/-- **Rounding keeps the order** of whole numbers. -/
theorem nearestWhole_mono {i j : Int} (h : i ≤ j) : nearestWhole i ≤ nearestWhole j := by
  unfold nearestWhole
  by_cases negative : i < 0
  · rw [if_pos negative]
    split
    · have := roundUnits_mono (show j.natAbs ≤ i.natAbs by omega)
      omega
    · omega
  · have := roundUnits_mono (show i.natAbs ≤ j.natAbs by omega)
    rw [if_neg negative, if_neg (by omega)]
    omega

/-- **Whole numbers are in their own order**, unless they are rounded to one number. -/
theorem lt_ofInt_iff {i j : Int} (hi : i.natAbs < 2 ^ 64) (hj : j.natAbs < 2 ^ 64) :
    (ofInt i).lt (ofInt j) = true ↔ i < j ∧ ofInt i ≠ ofInt j := by
  rw [Ne, ofInt_eq_ofInt_iff hi hj]
  obtain ⟨x, hx, -, valueX⟩ := exists_ofInt_eq_finite hi
  obtain ⟨y, hy, -, valueY⟩ := exists_ofInt_eq_finite hj
  have unit : (0 : Int) < unitsPerOne := by have := unitsPerOne_pos; omega
  rw [hx, hy]
  show decide (x.toInt < y.toInt) = true ↔ _
  rw [decide_eq_true_eq, valueX, valueY, Int.mul_lt_mul_right unit]
  constructor
  · intro below
    refine ⟨?_, by omega⟩
    -- Rounding is monotone: were j at most i, its rounding would not be above.
    by_cases less : i < j
    · exact less
    · have := nearestWhole_mono (Int.not_lt.1 less)
      omega
  · intro h
    have := nearestWhole_mono (Int.le_of_lt h.1)
    omega

/-! ## §3. Whole numbers that are merged -/

/-- **At the end of the signed words** numbers are merged with those behind it, from half a last
place before the end to half a last place behind it. -/
theorem nearestWhole_eq_limit_iff {i j : Int} (hi : i < 9223372036854775808)
    (hj : 9223372036854775808 ≤ j) :
    nearestWhole i = nearestWhole j ↔
      9223372036854775296 ≤ i ∧ j ≤ 9223372036854776832 := by
  by_cases negative : i < 0
  · have := nearestWhole_neg_iff.2 negative
    have := (not_congr (nearestWhole_neg_iff (i := j))).2 (by omega)
    omega
  -- The gap between neighbours is 2^10 below 2^63 and 2^11 above it.
  have merged := roundUnits_eq_across_iff (u := i.natAbs) (v := j.natAbs) (k := 9)
  simp only [Nat.reduceAdd, Nat.reducePow] at merged
  have merged := merged (by omega) (by omega)
  unfold nearestWhole
  rw [if_neg negative, if_neg (by omega)]
  omega

/-- **Merged numbers are close together**: at most one last place apart. -/
theorem natAbs_sub_le_of_nearestWhole_eq {i j : Int} {k : Nat} (hi : i.natAbs ≤ 2 ^ (k + 53))
    (hj : j.natAbs ≤ 2 ^ (k + 53)) (same : nearestWhole i = nearestWhole j) :
    (i - j).natAbs ≤ 2 ^ k := by
  have sign : i < 0 ↔ j < 0 := by
    rw [← nearestWhole_neg_iff, same, nearestWhole_neg_iff]
  -- Each is off by half a gap at most, so together by one.
  have errorI := roundUnits_error hi
  have errorJ := roundUnits_error hj
  unfold nearestWhole at same
  by_cases negative : i < 0
  · rw [if_pos negative, if_pos (sign.1 negative)] at same
    omega
  · rw [if_neg negative, if_neg (mt sign.2 negative)] at same
    omega

end Sift.Binary64
