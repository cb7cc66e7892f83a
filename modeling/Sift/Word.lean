/-
  Sift.Word
  ─────────
  **64-bit words as whole numbers.**

  A whole number has a signed or an unsigned word exactly when it lies in that word's range,
  and the word then stands for that number: nothing wraps.
-/

namespace Sift

/-- The signed word of a whole number, where it fits. -/
def signedWord? (i : Int) : Option Int64 :=
  if -9223372036854775808 ≤ i ∧ i < 9223372036854775808 then some (.ofInt i) else none

/-- The unsigned word of a whole number, where it fits. -/
def unsignedWord? (n : Nat) : Option UInt64 :=
  if n < 18446744073709551616 then some (.ofNat n) else none

/-- **Nothing wraps.**  The signed word of a number stands for that number. -/
theorem toInt_of_signedWord? {i : Int} {w : Int64} (h : signedWord? i = some w) :
    w.toInt = i := by
  unfold signedWord? at h
  split at h
  · rename_i hi
    cases h
    exact Int64.toInt_ofInt_of_le hi.1 hi.2
  · cases h

/-- Every signed word is the word of the number it stands for. -/
theorem signedWord?_toInt (w : Int64) : signedWord? w.toInt = some w := by
  have lower := w.le_toInt
  have upper := w.toInt_lt
  unfold signedWord?
  rw [if_pos ⟨lower, upper⟩, Int64.ofInt_toInt]

/-- The word of a number, where it fits, is the one that stands for the number. -/
theorem signedWord?_eq_some_iff {i : Int} {w : Int64} : signedWord? i = some w ↔ w.toInt = i := by
  constructor
  · exact toInt_of_signedWord?
  · rintro rfl
    exact signedWord?_toInt w

/-- The unsigned word of a number stands for that number. -/
theorem toNat_of_unsignedWord? {n : Nat} {w : UInt64} (h : unsignedWord? n = some w) :
    w.toNat = n := by
  unfold unsignedWord? at h
  split at h
  · rename_i hn
    cases h
    exact UInt64.toNat_ofNat_of_lt hn
  · cases h

/-- Every unsigned word is the word of the number it stands for. -/
theorem unsignedWord?_toNat (w : UInt64) : unsignedWord? w.toNat = some w := by
  have upper := w.toNat_lt
  unfold unsignedWord?
  rw [if_pos upper, UInt64.ofNat_toNat]

end Sift
