/-
  Sift.Proofs.Operand.WholeNumbers
  ────────────────────────────────
  **Whole numbers are read exactly.**

  A raw value denotes a whole number when it is that number, or a text that spells it between
  blanks.  The form of whole numbers reads the values that denote one in the signed 64-bit range
  and within the bounds, and reads exactly that number.  The range is asked for before a number
  becomes a word, so nothing wraps:

      raw value  →  the number that it denotes  →  the word, where it fits  →  the bounds

  A value that denotes no number of the range is of the wrong type, whatever the bounds; so are
  the number one past either end, in either notation, and every binary64 number, whole or not.

  Main result: `Form.whole_numbers_exact`.
-/
import Mathlib.Algebra.Group.Nat.Defs
import Sift.Proofs.Operand.Inhabitants
import Sift.Proofs.Text.Integer

namespace Sift

open Outcome

/-! ## §1. What a raw value denotes -/

/-- **A raw value denotes a whole number**: it is that number, or a text that spells it, blanks at
its ends aside. -/
inductive Json.DenotesInteger : Json → Int → Prop
  | number {i : Int} {lower : -9223372036854775808 ≤ i} {upper : i < 18446744073709551616} :
      DenotesInteger (.num (.int i lower upper)) i
  | text {s : String} {before numeral after : List Char} {i : Int}
      (whole : s.toList = before ++ numeral ++ after)
      (blankBefore : ∀ c ∈ before, Text.isBlank c = true)
      (spelled : Text.SpellsInteger numeral i)
      (blankAfter : ∀ c ∈ after, Text.isBlank c = true) :
      DenotesInteger (.str s) i

/-- A text denotes what it spells once it is trimmed. -/
theorem Json.denotesInteger_str_iff {s : String} {i : Int} :
    (Json.str s).DenotesInteger i ↔ Text.integer? (Text.trim s.toList) = some i := by
  rw [Text.integer?_eq_some_iff]
  constructor
  · intro denoted
    cases denoted with
    | text whole blankBefore spelled blankAfter =>
      rw [whole, Text.trim_between blankBefore spelled.solid blankAfter]
      exact spelled
  · intro spelled
    -- Every text is its own trimming with blanks on both sides.
    obtain ⟨before, after, blankBefore, blankAfter, whole⟩ := Text.exists_blank_trim s.toList
    exact .text whole blankBefore spelled blankAfter

/-- The text of a whole number denotes it. -/
theorem Json.denotesInteger_intDigits (i : Int) :
    (Json.str (String.ofList (Text.intDigits i))).DenotesInteger i := by
  rw [denotesInteger_str_iff, String.toList_ofList, Text.trim_intDigits,
    Text.integer?_eq_some_iff]
  exact Text.spellsInteger_intDigits i

/-- **A raw value denotes one whole number** at most. -/
theorem Json.DenotesInteger.unique {raw : Json} {i j : Int} (h : raw.DenotesInteger i)
    (h' : raw.DenotesInteger j) : i = j := by
  cases h with
  | number =>
    cases h'
    rfl
  | text whole blankBefore spelled blankAfter =>
    have first := Json.denotesInteger_str_iff.1 (.text whole blankBefore spelled blankAfter)
    have second := Json.denotesInteger_str_iff.1 h'
    exact Option.some.inj (first.symm.trans second)

/-! ## §2. The signed 64-bit range -/

/-- The numbers of the range are those that a signed word stands for. -/
theorem exists_toInt_eq_iff {i : Int} :
    (∃ w : Int64, w.toInt = i) ↔ -2 ^ 63 ≤ i ∧ i ≤ 2 ^ 63 - 1 := by
  constructor
  · rintro ⟨w, rfl⟩
    have lower := w.le_toInt
    have upper := w.toInt_lt
    omega
  · rintro ⟨lower, upper⟩
    exact ⟨.ofInt i, Int64.toInt_ofInt_of_le (by omega) (by omega)⟩

namespace Form

/-- **The word of a raw value** is the one that stands for the number it denotes. -/
theorem integerOf?_eq_some_iff {raw : Json} {w : Int64} :
    integerOf? raw = some w ↔ raw.DenotesInteger w.toInt := by
  cases raw with
  | num n =>
    cases n with
    | int i lower upper =>
      show signedWord? i = some w ↔ _
      rw [signedWord?_eq_some_iff]
      constructor
      · rintro rfl
        exact .number
      · intro denoted
        cases denoted
        rfl
    -- A number that is no whole number denotes none, whatever its value.
    | float x =>
      constructor
      · intro word
        cases word
      · intro denoted
        cases denoted
  | str s =>
    rw [Json.denotesInteger_str_iff]
    exact Text.word_eq_some_iff
  | _ =>
    constructor
    · intro word
      cases word
    · intro denoted
      cases denoted

/-! ## §3. Bounds -/

/-- A whole number within the bounds, as far as there are any. -/
def Between (least greatest : Option Int64) (i : Int) : Prop :=
  (∀ limit, least = some limit → limit.toInt ≤ i) ∧ ∀ limit, greatest = some limit → i ≤ limit.toInt

section
variable {least greatest : Option Int64} {raw : Json} {w : Int64}

/-- A word is kept exactly when it is within the bounds. -/
theorem checkInteger_eq_ok_iff {o : Operand} :
    checkInteger least greatest w = .ok o ↔ Between least greatest w.toInt ∧ o = .integer w := by
  constructor
  · intro kept
    exact ⟨within_of_checkInteger kept, eq_of_checkInteger kept⟩
  · rintro ⟨⟨notBelow, notAbove⟩, rfl⟩
    -- A number within the bounds is past neither, so that it cannot be refused.
    have within : ∀ bound limit, ¬ Past (w < ·) (· < w) least greatest bound limit := by
      apply not_past_iff.2
      refine ⟨fun limit declared => ?_, fun limit declared => ?_⟩
      · have := notBelow limit declared
        rw [Int64.lt_iff_toInt_lt]
        omega
      · have := notAbove limit declared
        rw [Int64.lt_iff_toInt_lt]
        omega
    cases checked : checkInteger least greatest w with
    | error cause =>
      obtain ⟨bound, limit, past, -⟩ := checkInteger_eq_error_iff.1 checked
      exact absurd past (within bound limit)
    | ok o =>
      rw [eq_of_checkInteger checked]

/-! ## §4. Reading -/

/-- A value that denotes the number of a word is held against the bounds. -/
theorem read_integer_of_denotes (denoted : raw.DenotesInteger w.toInt) :
    (integer least greatest).read raw = checkInteger least greatest w := by
  have given : raw ≠ .null := by
    rintro rfl
    cases denoted
  show required (readInteger least greatest) raw = _
  rw [required_of_ne_null _ given]
  unfold readInteger
  rw [integerOf?_eq_some_iff.2 denoted]

/-- **What is read is the number that the value denotes**, and it is within the bounds. -/
theorem read_integer_eq_ok_iff {o : Operand} :
    (integer least greatest).codec.read raw = .ok o ↔ ∃ w : Int64,
      raw.DenotesInteger w.toInt ∧ Between least greatest w.toInt ∧ o = .integer w := by
  rw [codec_read_eq_ok_iff]
  constructor
  · intro accepted
    -- What is accepted is neither null nor refused for its type.
    have read : readInteger least greatest raw = .ok o := read_of_required accepted
    unfold readInteger at read
    split at read
    · rename_i w word
      exact ⟨w, integerOf?_eq_some_iff.1 word, checkInteger_eq_ok_iff.1 read⟩
    · cases read
  · rintro ⟨w, denoted, kept⟩
    rw [read_integer_of_denotes denoted]
    exact checkInteger_eq_ok_iff.2 kept

/-- **A rejection with a code**: the error of an invalid operand, without a position. -/
def RejectsWith (form : Form) (raw : Json) (code : String) : Prop :=
  ∃ message, form.codec.read raw = .error (.invalidOperand message (some code) none)

/-- **A value that denotes no word** is missing or of the wrong type, whatever the bounds. -/
theorem rejectsWith_of_no_word (noWord : ∀ w : Int64, ¬ raw.DenotesInteger w.toInt) :
    (integer least greatest).RejectsWith raw
      (if raw = .null then "required" else "invalid_type") := by
  -- Null is told from a value of another type by its code alone.
  by_cases missing : raw = .null
  · subst missing
    exact ⟨_, rfl⟩
  · have none : integerOf? raw = none := by
      rw [Option.eq_none_iff_forall_ne_some]
      intro w word
      exact noWord w (integerOf?_eq_some_iff.1 word)
    have refuses : (integer least greatest).Refuses raw (.wrongType "integer" raw) :=
      .type missing (by rw [takes, none]; rfl)
    rw [if_neg missing]
    exact ⟨_, Reaches.codec_read_eq_error .here refuses⟩

/-- The same of a number outside the range, in the notation that denotes it. -/
theorem rejectsWith_of_outside {i : Int} (outside : i < -2 ^ 63 ∨ 2 ^ 63 - 1 < i)
    (denotes : ∀ j, raw.DenotesInteger j → j = i) (given : raw ≠ .null) :
    (integer least greatest).RejectsWith raw "invalid_type" := by
  have rejected := @rejectsWith_of_no_word least greatest raw
  rw [if_neg given] at rejected
  apply rejected
  intro w denoted
  have inside := exists_toInt_eq_iff.1 ⟨w, denotes _ denoted⟩
  omega

end

/-! ## §5. Exactness -/

/-- **WHOLE NUMBERS ARE READ EXACTLY.**  For every raw value and all bounds:

* without bounds it is read exactly when it denotes a whole number from `-2^63` to `2^63 - 1`;
* with bounds, an operand is read exactly when the value denotes a number of the range within the
  bounds, and it is that number, the only one that the value denotes;
* a value that denotes no number of the range is rejected as of the wrong type, null as missing;
* of the wrong type are the texts and the JSON numbers of all whole numbers outside the range, and
  every binary64 number, whole or not;
* a number of the range and its text in decimal are read alike. -/
theorem whole_numbers_exact (least greatest : Option Int64) (raw : Json) :
    ((∃ o, (integer none none).codec.read raw = .ok o) ↔
        ∃ i, raw.DenotesInteger i ∧ -2 ^ 63 ≤ i ∧ i ≤ 2 ^ 63 - 1)
    ∧ ((∀ o, (integer least greatest).codec.read raw = .ok o ↔ ∃ w : Int64,
          raw.DenotesInteger w.toInt ∧ Between least greatest w.toInt ∧ o = .integer w)
      ∧ ∀ i j, raw.DenotesInteger i → raw.DenotesInteger j → i = j)
    ∧ ((¬∃ i, raw.DenotesInteger i ∧ -2 ^ 63 ≤ i ∧ i ≤ 2 ^ 63 - 1) →
        (integer least greatest).RejectsWith raw
          (if raw = .null then "required" else "invalid_type"))
    ∧ ((∀ i, i < -2 ^ 63 ∨ 2 ^ 63 - 1 < i →
          (integer least greatest).RejectsWith (.str (String.ofList (Text.intDigits i)))
            "invalid_type"
          ∧ (Json.ofInt i ≠ .null →
            (integer least greatest).RejectsWith (.ofInt i) "invalid_type"))
      ∧ ∀ x, (integer least greatest).RejectsWith (.num (.float x)) "invalid_type")
    ∧ ∀ w : Int64, (integer least greatest).codec.read (.ofSignedWord w) =
        (integer least greatest).codec.read (.str (String.ofList (Text.intDigits w.toInt))) := by
  refine ⟨?_, ⟨fun o => read_integer_eq_ok_iff, fun i j h h' => h.unique h'⟩, ?_, ⟨?_, ?_⟩, ?_⟩
  · -- Without bounds, only the range is asked for.
    constructor
    · rintro ⟨o, accepted⟩
      obtain ⟨w, denoted, -⟩ := read_integer_eq_ok_iff.1 accepted
      exact ⟨w.toInt, denoted, exists_toInt_eq_iff.1 ⟨w, rfl⟩⟩
    · rintro ⟨i, denoted, inside⟩
      obtain ⟨w, rfl⟩ := exists_toInt_eq_iff.2 inside
      have free : Between none none w.toInt := ⟨by rintro limit ⟨⟩, by rintro limit ⟨⟩⟩
      exact ⟨.integer w, read_integer_eq_ok_iff.2 ⟨w, denoted, free, rfl⟩⟩
  · intro none
    apply rejectsWith_of_no_word
    intro w denoted
    exact none ⟨w.toInt, denoted, exists_toInt_eq_iff.1 ⟨w, rfl⟩⟩
  · intro i outside
    constructor
    · apply rejectsWith_of_outside outside
      · intro j denoted
        exact denoted.unique (Json.denotesInteger_intDigits i)
      · exact Json.noConfusion
    · intro given
      apply rejectsWith_of_outside outside _ given
      -- As a JSON number it is itself, or a binary64 number, which denotes nothing.
      intro j denoted
      unfold Json.ofInt at denoted
      split at denoted
      · cases denoted
        rfl
      · split at denoted <;> cases denoted
  · intro x
    have rejected := @rejectsWith_of_no_word least greatest (.num (.float x))
    rw [if_neg Json.noConfusion] at rejected
    apply rejected
    intro w denoted
    cases denoted
  · intro w
    have number : (Json.ofSignedWord w).DenotesInteger w.toInt := .number
    have text := Json.denotesInteger_intDigits w.toInt
    simp only [codec, read_integer_of_denotes number, read_integer_of_denotes text]

/-- A plus sign, leading zeros and blanks at the ends are allowed. -/
example : (integer none none).codec.read (.str " +007\t") = .ok (.integer 7) := rfl

end Form

end Sift
