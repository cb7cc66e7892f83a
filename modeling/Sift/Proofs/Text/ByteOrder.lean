/-
  Sift.Proofs.Text.ByteOrder
  ──────────────────────────
  **Texts are ordered as their UTF-8 bytes are.**

  The order of texts compares code points.  Of two characters, the form of the smaller one has the
  smaller byte at the first place where the forms differ, and neither form begins the other one
  (`utf8EncodeChar_append_lt`): so texts compare as the strings of their bytes do.

  Main result: `bytes_lt_iff`.
-/
import Mathlib.Data.String.Basic
import Mathlib.Tactic.SplitIfs

namespace Sift.Text

/-- The UTF-8 bytes of a text. -/
def bytes (s : String) : List UInt8 := s.toUTF8.data.toList

/-- The bytes of a text are those of its characters. -/
theorem bytes_eq_flatMap (s : String) : bytes s = s.toList.flatMap String.utf8EncodeChar := by
  unfold bytes
  rw [String.toUTF8_eq_toByteArray, ← String.utf8Encode_toList, List.utf8Encode,
    List.data_toByteArray, List.toList_toArray]

/-! ## §1. One character -/

/-- Numbers below 256 are compared as the bytes they are. -/
theorem cons_ofNat_lt_iff {a b : Nat} (ha : a < 256) (hb : b < 256) (l l' : List UInt8) :
    UInt8.ofNat a :: l < UInt8.ofNat b :: l' ↔ a < b ∨ a = b ∧ l < l' := by
  have value : ∀ {n : Nat}, n < 256 → (UInt8.ofNat n).toNat = n := fun h => by
    rw [UInt8.toNat_ofNat', Nat.mod_eq_of_lt h]
  rw [List.cons_lt_cons_iff, UInt8.lt_iff_toNat_lt, ← UInt8.toNat_inj, value ha, value hb]

/-- **The form of a smaller character** is smaller, whatever follows either. -/
theorem utf8EncodeChar_append_lt {c d : Char} (h : c < d) (rest rest' : List UInt8) :
    String.utf8EncodeChar c ++ rest < String.utf8EncodeChar d ++ rest' := by
  have below : c.val.toNat < d.val.toNat := UInt32.lt_iff_toNat_lt.1 h
  have bound : d.val.toNat < 0x110000 := by
    have valid := d.valid
    unfold UInt32.isValidChar Nat.isValidChar at valid
    omega
  -- A byte takes six binary digits, and the one before it the next six.
  have twice : ∀ n : Nat, n / 4096 = n / 64 / 64 := fun n => (Nat.div_div_eq_div_mul n 64 64).symm
  have thrice : ∀ n : Nat, n / 262144 = n / 64 / 64 / 64 := fun n => by
    rw [Nat.div_div_eq_div_mul, Nat.div_div_eq_div_mul]
  unfold String.utf8EncodeChar
  simp only [twice, thrice]
  generalize c.val.toNat = m at *
  generalize d.val.toNat = n at *
  -- By the lengths of the forms: a shorter form has the smaller first byte.
  split_ifs
  all_goals first
    | omega
    | simp (disch := omega) only [List.cons_append, List.nil_append, cons_ofNat_lt_iff]
      omega

/-! ## §2. Texts -/

/-- A text before another one has the smaller bytes. -/
theorem flatMap_utf8EncodeChar_lt {cs ds : List Char} (h : List.Lex (· < ·) cs ds) :
    cs.flatMap String.utf8EncodeChar < ds.flatMap String.utf8EncodeChar := by
  induction h with
  | @nil d ds =>
    rw [List.flatMap_nil, List.flatMap_cons]
    cases form : String.utf8EncodeChar d with
    | nil => exact absurd form String.utf8EncodeChar_ne_nil
    | cons byte bytes => exact List.nil_lt_cons ..
  -- The first character that differs decides, and so do the bytes that encode it.
  | rel below =>
    rw [List.flatMap_cons, List.flatMap_cons]
    exact utf8EncodeChar_append_lt below ..
  | cons _ ih =>
    rw [List.flatMap_cons, List.flatMap_cons]
    exact List.append_left_lt ih

/-- **Texts compare as their UTF-8 bytes**, byte by byte. -/
theorem bytes_lt_iff (s t : String) : bytes s < bytes t ↔ s < t := by
  have forward : ∀ {s t : String}, s < t → bytes s < bytes t := by
    intro s t below
    rw [bytes_eq_flatMap, bytes_eq_flatMap]
    exact flatMap_utf8EncodeChar_lt (List.lex_lt.2 (String.lt_iff_toList_lt.1 below))
  refine ⟨fun below => ?_, forward⟩
  rcases lt_trichotomy s t with h | rfl | h
  · exact h
  · exact absurd below (List.lt_irrefl _)
  · exact absurd below (List.lt_asymm (forward h))

end Sift.Text
