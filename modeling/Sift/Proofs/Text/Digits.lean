/-
  Sift.Proofs.Text.Digits
  ───────────────────────
  **Runs of digits and the numbers they denote.**

  A number is written in digits alone, as many as its size needs, and a run of `k` digits
  denotes a number below `10 ^ k`.  Padding with zeros changes the width and not the number.
-/
import Mathlib.Algebra.Group.Nat.Defs
import Sift.Instant.Text

namespace Sift.Text

/-! ## §1. Digits -/

theorem isDigit_of_mem_natDigits {n : Nat} {c : Char} (h : c ∈ natDigits n) :
    isDigit c = true := by
  have hd : c.isDigit = true := Nat.isDigit_of_mem_toDigits (by decide) (by decide) h
  unfold Char.isDigit at hd
  rw [Bool.and_eq_true, decide_eq_true_eq, decide_eq_true_eq] at hd
  unfold isDigit
  rw [Bool.and_eq_true, decide_eq_true_eq, decide_eq_true_eq, Char.le_def, Char.le_def]
  exact hd

theorem natDigits_ne_nil (n : Nat) : natDigits n ≠ [] := Nat.toDigits_ne_nil

/-- A number is written with a digit in front. -/
theorem exists_natDigits_eq_cons (n : Nat) : ∃ d ds, natDigits n = d :: ds ∧ isDigit d = true := by
  cases written : natDigits n with
  | nil => exact absurd written (natDigits_ne_nil n)
  | cons d ds => exact ⟨d, ds, rfl, isDigit_of_mem_natDigits (written ▸ List.mem_cons_self)⟩

theorem length_natDigits_le {n k : Nat} (hk : 0 < k) (h : n < 10 ^ k) :
    (natDigits n).length ≤ k :=
  (Nat.length_toDigits_le_iff (by decide) hk).2 h

/-- The code points of the digits. -/
theorem toNat_of_isDigit {c : Char} (h : isDigit c = true) : 48 ≤ c.toNat ∧ c.toNat ≤ 57 := by
  unfold isDigit at h
  rw [Bool.and_eq_true, decide_eq_true_eq, decide_eq_true_eq, Char.le_def, Char.le_def,
    UInt32.le_iff_toNat_le, UInt32.le_iff_toNat_le] at h
  exact h

theorem isBlank_of_isDigit {c : Char} (h : isDigit c = true) : isBlank c = false := by
  obtain ⟨lower, upper⟩ := toNat_of_isDigit h
  unfold isBlank
  simp only [Bool.or_eq_false_iff, Bool.and_eq_false_iff, decide_eq_false_iff_not,
    beq_eq_false_iff_ne]
  omega

theorem toLower_of_isDigit {c : Char} (h : isDigit c = true) : c.toLower = c := by
  obtain ⟨-, upper⟩ := toNat_of_isDigit h
  unfold Char.toLower
  rw [dif_neg]
  intro upperCase
  have letter : 65 ≤ c.toNat := upperCase.1
  omega

theorem digit_lt_ten {c : Char} (h : isDigit c = true) : c.toNat - '0'.toNat < 10 := by
  have upper := (toNat_of_isDigit h).2
  show c.toNat - 48 < 10
  omega

/-- A run of `k` digits denotes a number below `10 ^ k`. -/
theorem digitsValue_lt :
    ∀ {ds : List Char}, (∀ c ∈ ds, isDigit c = true) → digitsValue ds < 10 ^ ds.length
  | [], _ => by decide
  | c :: ds, h => by
      -- The first digit stands for so many times the bound of the rest.
      have hc := digit_lt_ten (h c List.mem_cons_self)
      have hds := digitsValue_lt fun d hd => h d (List.mem_cons_of_mem c hd)
      unfold digitsValue at hds ⊢
      rw [Nat.ofDigitChars_cons, Nat.ofDigitChars_eq_ofDigitChars_zero, List.length_cons,
        Nat.pow_succ, Nat.mul_zero, Nat.zero_add]
      calc 10 ^ ds.length * (c.toNat - '0'.toNat) + Nat.ofDigitChars 10 ds 0
          < 10 ^ ds.length * (c.toNat - '0'.toNat) + 10 ^ ds.length :=
            Nat.add_lt_add_left hds _
        _ = 10 ^ ds.length * (c.toNat - '0'.toNat + 1) := by rw [Nat.mul_succ]
        _ ≤ 10 ^ ds.length * 10 := Nat.mul_le_mul_left _ hc

/-! ## §2. Runs -/

theorem isDigit_of_mem_spanDigits {cs : List Char} {c : Char} (h : c ∈ (spanDigits cs).1) :
    isDigit c = true :=
  List.all_eq_true.1 List.all_takeWhile c h

/-- **A run of digits ends** where the first other character stands. -/
theorem spanDigits_append {ds : List Char} (hds : ∀ c ∈ ds, isDigit c = true) {c : Char}
    (hc : isDigit c = false) (rest : List Char) :
    spanDigits (ds ++ c :: rest) = (ds, c :: rest) := by
  unfold spanDigits
  rw [List.takeWhile_append_of_pos hds, List.dropWhile_append_of_pos hds,
    List.takeWhile_cons_of_neg (by simp [hc]), List.dropWhile_cons_of_neg (by simp [hc]),
    List.append_nil]

/-- Digits alone are one run. -/
theorem spanDigits_natDigits (n : Nat) : spanDigits (natDigits n) = (natDigits n, []) := by
  have digits : ∀ c ∈ natDigits n, isDigit c = true := fun c => isDigit_of_mem_natDigits
  have run := @List.takeWhile_append_of_pos _ isDigit _ [] digits
  have left := @List.dropWhile_append_of_pos _ isDigit _ [] digits
  rw [List.append_nil] at run left
  unfold spanDigits
  rw [run, left, List.takeWhile_nil, List.dropWhile_nil, List.append_nil]

/-- **A written number is read back** as a number without a sign. -/
theorem natural?_natDigits (n : Nat) : natural? (natDigits n) = some n := by
  have digits : allDigits (natDigits n) = true := by
    unfold allDigits
    rw [Bool.and_eq_true, List.all_eq_true]
    exact ⟨by simp [natDigits_ne_nil], fun c => isDigit_of_mem_natDigits⟩
  unfold natural?
  split
  · rename_i ds signed
    have plus := @isDigit_of_mem_natDigits n '+' (signed ▸ List.mem_cons_self)
    cases plus
  · rw [if_pos digits, digitsValue_natDigits]

/-- **No leading zero**: only zero is written with a zero in front. -/
theorem natDigits_ne_zero_cons {n : Nat} (positive : 0 < n) (ds : List Char) :
    natDigits n ≠ '0' :: ds := by
  intro written
  have digits : ∀ c ∈ ds, isDigit c = true := fun c hc =>
    isDigit_of_mem_natDigits (written ▸ List.mem_cons_of_mem _ hc)
  have value : digitsValue ds = n := by
    rw [← digitsValue_natDigits n, written]
    unfold digitsValue
    rw [Nat.ofDigitChars_cons]
    rfl
  have small := digitsValue_lt digits
  rw [value] at small
  -- So many digits are enough for the number, but one more was written.
  cases ds with
  | nil => exact absurd small (Nat.not_lt.2 positive)
  | cons d ds =>
    have fits := length_natDigits_le (Nat.succ_pos ds.length) small
    rw [written] at fits
    exact absurd fits (Nat.not_succ_le_self _)

end Sift.Text

namespace Sift.Instant

open Text

/-! ## §3. Padding -/

section
variable {width n : Nat}

theorem isDigit_of_mem_padded {c : Char} (h : c ∈ padded width n) : isDigit c = true := by
  rcases List.mem_append.1 h with hzero | hdigit
  · rw [(List.mem_replicate.1 hzero).2]
    decide
  · exact isDigit_of_mem_natDigits hdigit

/-- **Padding keeps the number.** -/
theorem digitsValue_padded : digitsValue (padded width n) = n := by
  show Nat.ofDigitChars 10 (List.replicate _ '0' ++ natDigits n) 0 = n
  rw [Nat.ofDigitChars_append, Nat.ofDigitChars_replicate_zero, Nat.mul_zero]
  exact digitsValue_natDigits n

/-- A padded number has the width, where it fits. -/
theorem length_padded (hwidth : 0 < width) (h : n < 10 ^ width) :
    (padded width n).length = width := by
  have fits := length_natDigits_le hwidth h
  show (List.replicate _ '0' ++ natDigits n).length = width
  rw [List.length_append, List.length_replicate]
  omega

theorem padded_ne_nil : padded width n ≠ [] := by
  intro h
  exact natDigits_ne_nil n (List.append_eq_nil_iff.1 h).2

end

end Sift.Instant
