/-
  Sift.Proofs.Binary64.Rounding
  ─────────────────────────────
  **The rounding step.**

  A count of units is rounded to the nearest multiple of a distance that grows with its binary
  digits, a half going to the even side.  Rounding keeps the order of counts, so a power of two,
  which is representable, is a bound for whatever lies on one side of it; and it is met from

      half a last place before it   up to   half a last place behind it,

  both ends included, where the last places before it are half as wide as those behind it.

  Main results:
    * `fits_roundUnits` — what a count is rounded to is representable.
    * `roundUnits_mono` — rounding keeps order.
    * `two_pow_le_roundUnits_iff`, `roundUnits_le_two_pow_iff` — the counts rounded to a power of two.
-/
import Mathlib.Algebra.Group.Nat.Defs
import Sift.Binary64.Basic

namespace Sift.Binary64

/-! ## §1. The nearest multiple -/

/-- A common factor does not matter. -/
theorem divNearest_mul_right (num den : Nat) {c : Nat} (hc : 0 < c) :
    divNearest (num * c) (den * c) = divNearest num den := by
  have scaled : ∀ a b : Nat, 2 * (a * c) < b * c ↔ 2 * a < b := by
    intro a b
    rw [← Nat.mul_assoc, Nat.mul_lt_mul_right hc]
  have scaled' : ∀ a b : Nat, b * c < 2 * (a * c) ↔ b < 2 * a := by
    intro a b
    rw [← Nat.mul_assoc, Nat.mul_lt_mul_right hc]
  unfold divNearest
  simp only [Nat.mul_div_mul_right _ _ hc, Nat.mul_mod_mul_right, scaled, scaled']

theorem divNearest_mul_self (q : Nat) {den : Nat} (hden : 0 < den) :
    divNearest (q * den) den = q := by
  unfold divNearest
  simp only [Nat.mul_div_cancel _ hden, Nat.mul_mod_left]
  rw [if_pos (by omega)]

/-- **The three ways to round**: down, up, and to the even side of a half. -/
theorem divNearest_cases (num den : Nat) :
    (2 * (num % den) < den ∧ divNearest num den = num / den)
    ∨ (den < 2 * (num % den) ∧ divNearest num den = num / den + 1)
    ∨ (2 * (num % den) = den ∧ divNearest num den = num / den + num / den % 2) := by
  unfold divNearest
  dsimp only
  split
  · exact Or.inl ⟨‹_›, rfl⟩
  · split
    · exact Or.inr (Or.inl ⟨‹_›, rfl⟩)
    · exact Or.inr (Or.inr ⟨by omega, rfl⟩)

/-- The nearest whole number is the quotient or the next one. -/
theorem divNearest_bounds (num den : Nat) :
    num / den ≤ divNearest num den ∧ divNearest num den ≤ num / den + 1 := by
  have := divNearest_cases num den
  omega

/-- **The nearest multiple is at most half a step away.** -/
theorem divNearest_error (num : Nat) {den : Nat} (hden : 0 < den) :
    2 * num ≤ 2 * (divNearest num den * den) + den
      ∧ 2 * (divNearest num den * den) ≤ 2 * num + den := by
  -- In halves of the divisor, so that the bounds stay whole.
  have parts := Nat.div_add_mod num den
  have rest := Nat.mod_lt num hden
  have rounded : divNearest num den = num / den ∨ divNearest num den = num / den + 1 := by
    have := divNearest_bounds num den
    omega
  have cases := divNearest_cases num den
  rw [Nat.mul_comm _ den]
  rcases rounded with down | up
  · rw [down] at cases ⊢
    omega
  · rw [up] at cases ⊢
    rw [Nat.mul_add]
    omega

/-- **Nearest multiples keep order.** -/
theorem divNearest_mono (den : Nat) {num num' : Nat} (h : num ≤ num') :
    divNearest num den ≤ divNearest num' den := by
  rcases Nat.eq_or_lt_of_le (Nat.div_le_div_right (c := den) h) with same | more
  · -- One quotient: the larger number leaves the larger rest.
    have rest : num % den ≤ num' % den := by
      have := Nat.div_add_mod num den
      have := Nat.div_add_mod num' den
      rw [same] at *
      omega
    have rounded := divNearest_cases num den
    have rounded' := divNearest_cases num' den
    rw [same] at rounded
    omega
  · have := divNearest_bounds num den
    have := divNearest_bounds num' den
    omega

section
variable (num : Nat) {den : Nat} (hden : 0 < den) (m : Nat)

include hden

/-- **An even multiple is reached from below** from half a step before it, the half included. -/
theorem two_mul_le_divNearest_iff :
    2 * m ≤ divNearest num den ↔ 2 * (2 * m * den) ≤ 2 * num + den := by
  have parts := Nat.div_add_mod num den
  have rest := Nat.mod_lt num hden
  have rounded := divNearest_cases num den
  rw [Nat.mul_comm _ den]
  rcases Nat.lt_or_ge (num / den + 1) (2 * m) with far | close
  · have := Nat.mul_le_mul_left den (show num / den + 2 ≤ 2 * m by omega)
    rw [Nat.mul_add] at this
    omega
  rcases Nat.eq_or_lt_of_le close with next | reached
  · -- The quotient is odd, so a half goes up.
    rw [next, Nat.mul_add]
    omega
  · have := Nat.mul_le_mul_left den (show 2 * m ≤ num / den by omega)
    omega

/-- **An even multiple is not passed** up to half a step behind it, the half included. -/
theorem divNearest_le_two_mul_iff :
    divNearest num den ≤ 2 * m ↔ 2 * num ≤ 2 * (2 * m * den) + den := by
  have parts := Nat.div_add_mod num den
  have rest := Nat.mod_lt num hden
  have rounded := divNearest_cases num den
  rw [Nat.mul_comm _ den]
  rcases Nat.lt_trichotomy (num / den) (2 * m) with below | equal | above
  · have := Nat.mul_le_mul_left den (show num / den + 1 ≤ 2 * m by omega)
    rw [Nat.mul_add] at this
    omega
  · -- The quotient is even, so a half stays.
    rw [← equal]
    omega
  · have := Nat.mul_le_mul_left den (show 2 * m + 1 ≤ num / den by omega)
    rw [Nat.mul_add] at this
    omega

end

/-! ## §2. Rounding a count -/

/-- A count is rounded to a multiple of the distance between its neighbours. -/
theorem roundUnits_one (u : Nat) :
    roundUnits u 1 = divNearest u (2 ^ spacing u) * 2 ^ spacing u := by
  unfold roundUnits
  simp only [Nat.div_one, Nat.one_mul]
  rfl

/-- **Small counts are exact.** -/
theorem roundUnits_of_lt {u : Nat} (h : u < 2 ^ 53) : roundUnits u 1 = u := by
  have digits : u.log2 < 53 := by
    rcases Nat.eq_zero_or_pos u with rfl | hu
    · decide
    · exact (Nat.log2_lt (by omega)).2 h
  have exact : spacing u = 0 := by unfold spacing; omega
  have whole := divNearest_mul_self u Nat.one_pos
  rw [Nat.mul_one] at whole
  rw [roundUnits_one, exact, Nat.pow_zero, whole, Nat.mul_one]

/-- A power of two is not passed from above. -/
theorem le_roundUnits {u e : Nat} (h : 2 ^ e ≤ u) : 2 ^ e ≤ roundUnits u 1 := by
  have hu : u ≠ 0 := by have := Nat.two_pow_pos e; omega
  have gap := Nat.two_pow_pos (spacing u)
  have quotient := (divNearest_bounds u (2 ^ spacing u)).1
  rw [roundUnits_one]
  rcases Nat.le_total (spacing u) e with coarse | fine
  · -- The power is a multiple of the distance, so it lies below the quotient.
    have split : 2 ^ e = 2 ^ (e - spacing u) * 2 ^ spacing u := by
      rw [← Nat.pow_add, Nat.sub_add_cancel coarse]
    rw [split] at h ⊢
    have below : 2 ^ (e - spacing u) ≤ u / 2 ^ spacing u := (Nat.le_div_iff_mul_le gap).2 h
    exact Nat.mul_le_mul_right _ (Nat.le_trans below quotient)
  · -- The power is below the distance, of which there is at least one in `u`.
    have lead : 2 ^ spacing u ≤ u :=
      Nat.le_trans (Nat.pow_le_pow_right Nat.two_pos (Nat.sub_le _ _)) (Nat.log2_self_le hu)
    have one : 1 ≤ divNearest u (2 ^ spacing u) := Nat.le_trans (Nat.div_pos lead gap) quotient
    calc 2 ^ e ≤ 2 ^ spacing u := Nat.pow_le_pow_right Nat.two_pos fine
      _ = 1 * 2 ^ spacing u := (Nat.one_mul _).symm
      _ ≤ divNearest u (2 ^ spacing u) * 2 ^ spacing u := Nat.mul_le_mul_right _ one

/-- A power of two is not passed from below. -/
theorem roundUnits_le {u e : Nat} (h : u < 2 ^ e) : roundUnits u 1 ≤ 2 ^ e := by
  have gap := Nat.two_pow_pos (spacing u)
  -- The power is itself a multiple of the spacing, so rounding cannot pass it.
  have coarse : spacing u ≤ e := by
    rcases Nat.eq_zero_or_pos u with rfl | hu
    · exact Nat.zero_le e
    · have digits := (Nat.log2_lt (by omega)).2 h
      unfold spacing
      omega
  have split : 2 ^ e = 2 ^ (e - spacing u) * 2 ^ spacing u := by
    rw [← Nat.pow_add, Nat.sub_add_cancel coarse]
  have quotient := (divNearest_bounds u (2 ^ spacing u)).2
  rw [roundUnits_one, split]
  rw [split] at h
  have below : u / 2 ^ spacing u < 2 ^ (e - spacing u) := (Nat.div_lt_iff_lt_mul gap).2 h
  exact Nat.mul_le_mul_right _ (by omega)

/-- **What a count is rounded to is representable**, while it is below the limit. -/
theorem fits_roundUnits {u : Nat} (h : roundUnits u 1 < unitLimit) : Fits (roundUnits u 1) := by
  refine ⟨h, ?_⟩
  show roundUnits u 1 % 2 ^ spacing (roundUnits u 1) = 0
  apply Nat.mod_eq_zero_of_dvd
  have upper : roundUnits u 1 ≤ 2 ^ (u.log2 + 1) := roundUnits_le Nat.lt_log2_self
  rcases Nat.eq_or_lt_of_le upper with top | below
  · -- Rounded up to a power of two, which every smaller power divides.
    rw [top]
    apply Nat.pow_dvd_pow
    unfold spacing
    rw [Nat.log2_two_pow]
    omega
  · -- With no more digits than before, it is a multiple of the same distance.
    have finer : spacing (roundUnits u 1) ≤ spacing u := by
      rcases Nat.eq_zero_or_pos (roundUnits u 1) with zero | pos
      · rw [zero]
        exact Nat.zero_le _
      · have digits := (Nat.log2_lt (by omega)).2 below
        unfold spacing
        omega
    have multiple : 2 ^ spacing u ∣ roundUnits u 1 := by
      rw [roundUnits_one]
      exact Nat.dvd_mul_left _ _
    exact Nat.dvd_trans (Nat.pow_dvd_pow 2 finer) multiple

/-! ## §3. Scaling by a power of two -/

/-- A factor `2 ^ p` adds `p` digits. -/
theorem log2_mul_two_pow {k : Nat} (hk : k ≠ 0) (p : Nat) : (k * 2 ^ p).log2 = k.log2 + p := by
  have pos := Nat.two_pow_pos p
  rw [Nat.log2_eq_iff (Nat.mul_ne_zero hk (by omega))]
  constructor
  · rw [Nat.pow_add]
    exact Nat.mul_le_mul_right _ (Nat.log2_self_le hk)
  · rw [Nat.add_right_comm, Nat.pow_add]
    exact Nat.mul_lt_mul_of_pos_right Nat.lt_log2_self pos

/-- **Rounding commutes with scaling** by a power of two. -/
theorem roundUnits_mul_two_pow (k p : Nat) :
    roundUnits (k * 2 ^ p) 1 = roundUnits k 1 * 2 ^ p := by
  rcases Nat.eq_zero_or_pos k with rfl | hk
  · rw [Nat.zero_mul, roundUnits_of_lt (by decide), Nat.zero_mul]
  have gaps : spacing (k * 2 ^ p) = k.log2 + p - 52 := by
    unfold spacing
    rw [log2_mul_two_pow (by omega)]
  rcases Nat.le_total 52 k.log2 with long | short
  · -- More than 52 digits: both are rounded at the same digit.
    have shift : 2 ^ (k.log2 + p - 52) = 2 ^ spacing k * 2 ^ p := by
      rw [← Nat.pow_add]
      congr 1
      unfold spacing
      omega
    rw [roundUnits_one, roundUnits_one, gaps, shift,
      divNearest_mul_right _ _ (Nat.two_pow_pos p), Nat.mul_assoc]
  · -- At most 53 digits: both are exact.
    have exact : roundUnits k 1 = k :=
      roundUnits_of_lt ((Nat.log2_lt (by omega)).1 (by omega))
    obtain ⟨q, whole⟩ : 2 ^ (k.log2 + p - 52) ∣ k * 2 ^ p :=
      Nat.dvd_trans (Nat.pow_dvd_pow 2 (by omega)) (Nat.dvd_mul_left _ _)
    rw [Nat.mul_comm _ q] at whole
    rw [roundUnits_one, gaps, exact, whole, divNearest_mul_self _ (Nat.two_pow_pos _)]

theorem roundUnits_two_pow (e : Nat) : roundUnits (2 ^ e) 1 = 2 ^ e := by
  have one : roundUnits 1 1 = 1 := roundUnits_of_lt (by decide)
  have scaled := roundUnits_mul_two_pow 1 e
  rwa [one, Nat.one_mul] at scaled

/-! ## §4. Order -/

/-- The step of a count with a given number of digits. -/
theorem spacing_of_log2 {u e : Nat} (lower : 2 ^ e ≤ u) (upper : u < 2 ^ (e + 1)) :
    spacing u = e - 52 := by
  have some : u ≠ 0 := by have := Nat.two_pow_pos e; omega
  unfold spacing
  rw [(Nat.log2_eq_iff some).2 ⟨lower, upper⟩]

/-- **Rounding keeps order.** -/
theorem roundUnits_mono {u v : Nat} (h : u ≤ v) : roundUnits u 1 ≤ roundUnits v 1 := by
  rcases Nat.eq_zero_or_pos u with rfl | positive
  · rw [roundUnits_of_lt (by decide)]
    exact Nat.zero_le _
  rcases Nat.lt_or_ge v (2 ^ (u.log2 + 1)) with together | apart
  · -- With one number of digits both are rounded to multiples of one distance.
    have lower := Nat.log2_self_le (show u ≠ 0 by omega)
    have stepU := spacing_of_log2 lower Nat.lt_log2_self
    have stepV := spacing_of_log2 (Nat.le_trans lower h) together
    rw [roundUnits_one, roundUnits_one, stepU, stepV]
    exact Nat.mul_le_mul_right _ (divNearest_mono _ h)
  · -- Otherwise a power of two lies between them, and neither passes it.
    exact Nat.le_trans (roundUnits_le Nat.lt_log2_self) (le_roundUnits apart)

/-- **A power of two is reached from below** from half a step before it, the half included. -/
theorem two_pow_le_roundUnits_iff (u k : Nat) :
    2 ^ (k + 54) ≤ roundUnits u 1 ↔ 2 ^ (k + 54) ≤ u + 2 ^ k := by
  have unit := Nat.two_pow_pos k
  rcases Nat.lt_or_ge u (2 ^ (k + 53)) with short | long
  · -- With fewer digits it is not rounded that far.
    have upper := roundUnits_le short
    simp only [Nat.pow_add] at short upper ⊢
    omega
  rcases Nat.lt_or_ge u (2 ^ (k + 54)) with below | above
  · have step : spacing u = k + 1 := spacing_of_log2 long below
    have gap := Nat.two_pow_pos (k + 1)
    have whole : 2 ^ (k + 54) = 2 * 2 ^ 52 * 2 ^ (k + 1) := by
      simp only [Nat.pow_add]
      omega
    have reached := two_mul_le_divNearest_iff u gap (2 ^ 52)
    rw [roundUnits_one, step, whole, Nat.mul_le_mul_right_iff gap, reached]
    simp only [Nat.pow_succ]
    omega
  · have lower := le_roundUnits above
    simp only [Nat.pow_add] at above lower ⊢
    omega

/-- **A power of two is not passed** up to half a step behind it, the half included. -/
theorem roundUnits_le_two_pow_iff (u k : Nat) :
    roundUnits u 1 ≤ 2 ^ (k + 53) ↔ u ≤ 2 ^ (k + 53) + 2 ^ k := by
  have unit := Nat.two_pow_pos k
  rcases Nat.lt_or_ge u (2 ^ (k + 53)) with below | above
  · have upper := roundUnits_le below
    omega
  rcases Nat.lt_or_ge u (2 ^ (k + 54)) with short | long
  · have step : spacing u = k + 1 := spacing_of_log2 above short
    have gap := Nat.two_pow_pos (k + 1)
    have whole : 2 ^ (k + 53) = 2 * 2 ^ 51 * 2 ^ (k + 1) := by
      simp only [Nat.pow_add]
      omega
    have kept := divNearest_le_two_mul_iff u gap (2 ^ 51)
    rw [roundUnits_one, step, whole, Nat.mul_le_mul_right_iff gap, kept]
    simp only [Nat.pow_succ]
    omega
  · -- With more digits it stays beyond the next power.
    have lower := le_roundUnits long
    simp only [Nat.pow_add] at long lower ⊢
    omega

/-- **Counts on either side of a power of two** are rounded to one count exactly where both are
rounded to that power. -/
theorem roundUnits_eq_across_iff {u v k : Nat} (hu : u < 2 ^ (k + 54)) (hv : 2 ^ (k + 54) ≤ v) :
    roundUnits u 1 = roundUnits v 1 ↔
      2 ^ (k + 54) ≤ u + 2 ^ k ∧ v ≤ 2 ^ (k + 54) + 2 ^ (k + 1) := by
  have upper := roundUnits_le hu
  have lower := le_roundUnits hv
  have passed := roundUnits_le_two_pow_iff v (k + 1)
  rw [show k + 1 + 53 = k + 54 by omega] at passed
  rw [← two_pow_le_roundUnits_iff, ← passed]
  omega

/-- **The error is at most half a step**, for a count up to the next power of two. -/
theorem roundUnits_error {u k : Nat} (h : u ≤ 2 ^ (k + 53)) :
    2 * u ≤ 2 * roundUnits u 1 + 2 ^ k ∧ 2 * roundUnits u 1 ≤ 2 * u + 2 ^ k := by
  -- At the power itself nothing is rounded; below it the spacing is at most the gap.
  rcases Nat.eq_or_lt_of_le h with same | below
  · rw [same, roundUnits_two_pow]
    exact ⟨Nat.le_add_right _ _, Nat.le_add_right _ _⟩
  have digits : spacing u ≤ k := by
    rcases Nat.eq_zero_or_pos u with rfl | positive
    · exact Nat.zero_le k
    · have := (Nat.log2_lt (by omega)).2 below
      unfold spacing
      omega
  have step : 2 ^ spacing u ≤ 2 ^ k := Nat.pow_le_pow_right (by decide) digits
  have error := divNearest_error u (Nat.two_pow_pos (spacing u))
  rw [roundUnits_one]
  omega

/-! ## §5. Finite results -/

/-- A count that is rounded below the limit is a finite number. -/
theorem ofUnits_one {u : Nat} (h : roundUnits u 1 < unitLimit) (negative : Bool) :
    ofUnits negative u 1 = .finite ⟨negative, roundUnits u 1, fits_roundUnits h⟩ :=
  dif_pos (fits_roundUnits h)

theorem ofUnits_zero (negative : Bool) : ofUnits negative 0 1 = zero negative := by
  have same : ∀ {u : Nat} (none : u = 0) (h : Fits u),
      Binary64.finite ⟨negative, u, h⟩ = zero negative := by
    intro u none h
    subst none
    rfl
  have none : roundUnits 0 1 = 0 := roundUnits_of_lt (by decide)
  have bounded : roundUnits 0 1 < unitLimit := by
    rw [none]
    exact fits_zero.1
  rw [ofUnits_one bounded, same none]

end Sift.Binary64
