/-
  Sift.Proofs.Text.Integer
  ────────────────────────
  **The texts of whole numbers, as a grammar with values.**

  `SpellsInteger` is the format: an optional sign and one or more digits, whose value is the sum
  of the digits by their places.  The reader runs through the digits and takes ten times what it
  has at each; so the first digit ends up with a factor of ten for each of the others, which is
  its place (`digitsValue_eq_placeValue`).  Nothing limits the size, and nothing wraps.

  Main result: `integer?_eq_some_iff`.
-/
import Mathlib.Data.Nat.Digits.Defs
import Sift.Proofs.Text.Blank
import Sift.Proofs.Text.Digits
import Sift.Word

namespace Sift.Text

/-! ## §1. Values by places -/

/-- **The value of digits by their places**: the last digit counts ones, the one before it tens,
and so on. -/
def placeValue (ds : List Char) : Nat :=
  Nat.ofDigits 10 (ds.reverse.map fun c => c.toNat - '0'.toNat)

/-- A further digit in front counts by the place that it stands at. -/
theorem placeValue_cons (c : Char) (ds : List Char) :
    placeValue (c :: ds) = placeValue ds + 10 ^ ds.length * (c.toNat - '0'.toNat) := by
  unfold placeValue
  rw [List.reverse_cons, List.map_append, Nat.ofDigits_append, List.length_map,
    List.length_reverse, List.map_singleton, Nat.ofDigits_singleton]

/-- **The number that is read off digits** is their value by places. -/
theorem digitsValue_eq_placeValue (ds : List Char) : digitsValue ds = placeValue ds := by
  induction ds with
  | nil => rfl
  | cons c ds ih =>
    -- The first digit has gained a factor of ten with each of the others.
    have first :
        digitsValue (c :: ds) = 10 ^ ds.length * (c.toNat - '0'.toNat) + digitsValue ds := by
      unfold digitsValue
      rw [Nat.ofDigitChars_cons, Nat.mul_zero, Nat.zero_add, Nat.ofDigitChars_eq_ofDigitChars_zero]
    rw [first, ih, placeValue_cons, Nat.add_comm]

/-! ## §2. The format -/

/-- **A text of a whole number**: one or more digits after an optional sign. -/
inductive SpellsInteger : List Char → Int → Prop
  | plain {ds : List Char} (nonempty : ds ≠ []) (digits : ∀ c ∈ ds, isDigit c = true) :
      SpellsInteger ds (placeValue ds)
  | plus {ds : List Char} (nonempty : ds ≠ []) (digits : ∀ c ∈ ds, isDigit c = true) :
      SpellsInteger ('+' :: ds) (placeValue ds)
  | minus {ds : List Char} (nonempty : ds ≠ []) (digits : ∀ c ∈ ds, isDigit c = true) :
      SpellsInteger ('-' :: ds) (-(placeValue ds))

theorem allDigits_iff {ds : List Char} :
    allDigits ds = true ↔ ds ≠ [] ∧ ∀ c ∈ ds, isDigit c = true := by
  unfold allDigits
  rw [Bool.and_eq_true, List.all_eq_true, Bool.not_eq_true', List.isEmpty_eq_false_iff]

/-- Digits without a sign are read as they are. -/
theorem natural?_eq_some_iff {cs : List Char} {n : Nat} :
    natural? cs = some n ↔ ∃ ds, (cs = ds ∨ cs = '+' :: ds)
      ∧ (ds ≠ [] ∧ ∀ c ∈ ds, isDigit c = true) ∧ placeValue ds = n := by
  simp only [← allDigits_iff, ← digitsValue_eq_placeValue]
  unfold natural?
  split
  · rename_i ds
    constructor
    · intro read
      obtain ⟨digits, value⟩ := Option.ite_none_right_eq_some.1 read
      exact ⟨ds, Or.inr rfl, digits, Option.some.inj value⟩
    · rintro ⟨ds', rfl | same, digits, rfl⟩
      · -- The sign itself is no digit.
        cases (allDigits_iff.1 digits).2 '+' List.mem_cons_self
      · cases same
        rw [if_pos digits]
  · rename_i unsigned
    constructor
    · intro read
      obtain ⟨digits, value⟩ := Option.ite_none_right_eq_some.1 read
      exact ⟨cs, Or.inl rfl, digits, Option.some.inj value⟩
    · rintro ⟨ds, rfl | signed, digits, rfl⟩
      · rw [if_pos digits]
      · exact absurd signed (unsigned ds)

/-- **A text is read as a whole number** exactly when it spells that number. -/
theorem integer?_eq_some_iff {cs : List Char} {i : Int} :
    integer? cs = some i ↔ SpellsInteger cs i := by
  constructor
  · intro read
    unfold integer? at read
    split at read
    · obtain ⟨digits, value⟩ := Option.ite_none_right_eq_some.1 read
      obtain ⟨nonempty, digits⟩ := allDigits_iff.1 digits
      rw [Option.some.injEq, digitsValue_eq_placeValue] at value
      exact value ▸ .minus nonempty digits
    · obtain ⟨n, unsigned, rfl⟩ := Option.map_eq_some_iff.1 read
      obtain ⟨ds, rfl | rfl, ⟨nonempty, digits⟩, rfl⟩ := natural?_eq_some_iff.1 unsigned
      · exact .plain nonempty digits
      · exact .plus nonempty digits
  · intro spelled
    cases spelled with
    | plain nonempty digits =>
      have read := natural?_eq_some_iff.2 ⟨cs, Or.inl rfl, ⟨nonempty, digits⟩, rfl⟩
      unfold integer?
      split
      · -- A plain numeral has no sign.
        cases digits '-' List.mem_cons_self
      · rw [read]
        rfl
    | @plus ds nonempty digits =>
      have read := natural?_eq_some_iff.2 ⟨ds, Or.inr rfl, ⟨nonempty, digits⟩, rfl⟩
      show (natural? ('+' :: ds)).map Int.ofNat = _
      rw [read]
      rfl
    | @minus ds nonempty digits =>
      show (if allDigits ds then _ else _) = _
      rw [if_pos (allDigits_iff.2 ⟨nonempty, digits⟩), digitsValue_eq_placeValue]

/-- A sign is not blank, and neither is a digit. -/
theorem SpellsInteger.solid {cs : List Char} {i : Int} (h : SpellsInteger cs i) :
    ∀ c ∈ cs, isBlank c = false := by
  cases h with
  | plain _ digits => exact fun c hc => isBlank_of_isDigit (digits c hc)
  | plus _ digits | minus _ digits =>
    intro c hc
    obtain rfl | hc := List.mem_cons.1 hc
    · decide
    · exact isBlank_of_isDigit (digits c hc)

/-- **A written whole number spells itself**: the digits of its size, after a minus sign where it
is negative. -/
theorem spellsInteger_intDigits (i : Int) : SpellsInteger (intDigits i) i := by
  have digits : ∀ c ∈ natDigits i.natAbs, isDigit c = true := fun c => isDigit_of_mem_natDigits
  have nonempty := natDigits_ne_nil i.natAbs
  have value : placeValue (natDigits i.natAbs) = i.natAbs := by
    rw [← digitsValue_eq_placeValue, digitsValue_natDigits]
  unfold intDigits
  split
  · rename_i negative
    have same : -(placeValue (natDigits i.natAbs) : Int) = i := by
      rw [value]
      omega
    have spelled := SpellsInteger.minus nonempty digits
    rwa [same] at spelled
  · rename_i notNegative
    have same : (placeValue (natDigits i.natAbs) : Int) = i := by
      rw [value]
      omega
    have spelled := SpellsInteger.plain nonempty digits
    rwa [same] at spelled

theorem trim_intDigits (i : Int) : trim (intDigits i) = intDigits i :=
  trim_of_no_blank (spellsInteger_intDigits i).solid

/-! ## §3. Words -/

/-- The signed word of a text is the one of the whole number that it spells. -/
theorem word_eq_some_iff {cs : List Char} {w : Int64} :
    (integer? cs).bind Sift.signedWord? = some w ↔ integer? cs = some w.toInt := by
  rw [Option.bind_eq_some_iff]
  constructor
  · rintro ⟨i, read, fits⟩
    rw [read, signedWord?_eq_some_iff.1 fits]
  · intro read
    exact ⟨w.toInt, read, signedWord?_toInt w⟩

end Sift.Text
