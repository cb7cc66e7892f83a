/-
  Sift.Proofs.Json.Numeric
  ────────────────────────
  **The number that the text of a whole number denotes.**

  A whole number is written in digits after an optional minus sign; nothing of that is a blank or
  belongs to a name.  Read as a number, the text denotes the binary64 number nearest to the whole
  number: digits without point and exponent are rounded once.  A JSON number, whole or not,
  stands for a finite one.

  Main result: `Text.number?_intDigits`.
-/
import Sift.Json.Numeric
import Sift.Proofs.Binary64.Whole
import Sift.Proofs.Text.Integer

namespace Sift

/-! ## §1. Decimals without exponent -/

/-- A whole decimal is rounded as it is. -/
theorem Decimal.toBinary64_whole (negative : Bool) (n : Nat) :
    Decimal.toBinary64 negative ⟨n, 0⟩ =
      Binary64.ofUnits negative (n * Binary64.unitsPerOne) 1 := by
  unfold Decimal.toBinary64
  by_cases zero : n = 0
  · subst zero
    rw [if_pos rfl, Nat.zero_mul, Binary64.ofUnits_zero]
  · -- Neither shortcut for exponents out of range is taken.
    have notHuge : ¬ exponentBound < (0 : Int) := by decide
    have notTiny : ¬ (0 : Int) + (n.log2 : Int) + 1 < -exponentBound := by
      unfold exponentBound
      omega
    have unscaled : n * Nat.pow 10 (0 : Int).toNat * Binary64.unitsPerOne =
        n * Binary64.unitsPerOne := by
      rw [show Nat.pow 10 (0 : Int).toNat = 1 from rfl, Nat.mul_one]
    rw [if_neg zero, if_neg notHuge, if_neg notTiny, if_pos (Int.le_refl 0), unscaled]

namespace Binary64

open Text

/-- **Digits alone** denote the nearest number. -/
theorem unsigned?_natDigits (negative : Bool) (n : Nat) :
    unsigned? negative (natDigits n) = some (ofUnits negative (n * unitsPerOne) 1) := by
  obtain ⟨d, ds, written, digit⟩ := exists_natDigits_eq_cons n
  obtain ⟨lower, upper⟩ := toNat_of_isDigit digit
  have numeral : numeral? negative (natDigits n) =
      some (ofUnits negative (n * unitsPerOne) 1) := by
    unfold numeral?
    rw [spanDigits_natDigits]
    simp only [List.append_nil, digitsValue_natDigits, List.isEmpty_nil, Bool.and_true]
    rw [if_neg (by simp [natDigits_ne_nil])]
    simp [exponentPart?, Decimal.toBinary64_whole]
  -- No name starts with a digit, which has no lower case.
  have kept : d.toLower = d := toLower_of_isDigit digit
  have noName : ∀ c rest, 57 < c.toNat → (natDigits n).map Char.toLower ≠ c :: rest := by
    intro c rest letter same
    rw [written, List.map_cons, List.cons.injEq, kept] at same
    rw [← same.1] at letter
    omega
  unfold unsigned?
  simp only [numeral, noName 'i' _ (by decide), noName 'n' _ (by decide), decide_false,
    Bool.or_self, Bool.false_eq_true, if_false]

end Binary64

/-- **The text of a whole number** denotes the number nearest to it. -/
theorem Text.number?_intDigits (i : Int) :
    Text.number? (String.ofList (Text.intDigits i)) = some (Binary64.ofInt i) := by
  unfold Text.number?
  rw [String.toList_ofList, Text.trim_intDigits]
  unfold Text.intDigits Binary64.ofInt
  split
  · rename_i negative
    show Binary64.unsigned? true _ = _
    rw [Binary64.unsigned?_natDigits, decide_eq_true negative]
  · rename_i notNegative
    obtain ⟨d, ds, written, digit⟩ := Text.exists_natDigits_eq_cons i.natAbs
    -- A text that begins with a digit has no sign to be taken off.
    have plain : Binary64.ofText? (Text.natDigits i.natAbs) =
        Binary64.unsigned? false (Text.natDigits i.natAbs) := by
      rw [written]
      unfold Binary64.ofText?
      split
      · rename_i h
        cases h
        cases digit
      · rename_i h
        cases h
        cases digit
      · rfl
    rw [plain, Binary64.unsigned?_natDigits, decide_eq_false notNegative]

/-! ## §2. JSON numbers -/

/-- A JSON number is finite. -/
theorem Json.Number.exists_toBinary64 (n : Json.Number) : ∃ x, n.toBinary64 = .finite x := by
  cases n with
  | int m lower upper =>
    obtain ⟨x, hx, -⟩ := Binary64.exists_ofInt_eq_finite (show m.natAbs < 2 ^ 64 by omega)
    exact ⟨x, hx⟩
  | float x => exact ⟨x, rfl⟩

end Sift
