/-
  Sift.Proofs.Operand.Inhabitants
  ───────────────────────────────
  **What a form accepts is of the form's type.**

  `Inhabits` says of a form, a raw value and an operand that the operand is one of the form:

      number, integer — within the finite bounds
      options         — one of the options
      pattern         — compiled from the raw text
      list            — as many items as the raw array, of the declared length, each the operand
                        that the item form reads at its position, and one of the item form

  What is not accepted is refused with one of eight codes (`Rejection.codes`), and "required"
  stands for null alone, at whatever depth.

  Main result: `Form.accepted_operand_inhabits`.
-/
import Sift.Proofs.Operand.Refusal

namespace Sift

open Outcome

/-! ## §1. Operands of a form -/

namespace Form

/-- **An operand is one of a form**, for the raw value that it was read from. -/
inductive Inhabits : Form → Json → Operand → Prop
  | text {raw : Json} {s : String} : Inhabits text raw (.text s)
  | number {least greatest : Option Binary64} {raw : Json} {x : Binary64.Finite}
      (notBelow : ∀ limit, least = some (.finite limit) → limit.toInt ≤ x.toInt)
      (notAbove : ∀ limit, greatest = some (.finite limit) → x.toInt ≤ limit.toInt) :
      Inhabits (number least greatest) raw (.number (.finite x))
  | integer {least greatest : Option Int64} {raw : Json} {w : Int64}
      (notBelow : ∀ limit, least = some limit → limit.toInt ≤ w.toInt)
      (notAbove : ∀ limit, greatest = some limit → w.toInt ≤ limit.toInt) :
      Inhabits (integer least greatest) raw (.integer w)
  | truth {raw : Json} {b : Bool} : Inhabits truth raw (.truth b)
  | options {allowed : List String} {raw : Json} {s : String} (member : s ∈ allowed) :
      Inhabits (options allowed) raw (.text s)
  | pattern {p : Pattern} : Inhabits pattern (.str p.source) (.pattern p)
  | instant {raw : Json} {t : Instant} : Inhabits instant raw (.instant t)
  | list {item : Form} {length : Option UInt64} {raws : List Json} {items : List Operand}
      (counted : ∀ count, length = some count → items.length = count.toNat)
      (same : items.length = raws.length)
      (read : ∀ (i : Nat) raw o, raws[i]? = some raw → items[i]? = some o →
        item.read raw = .ok o)
      (each : ∀ (i : Nat) raw o, raws[i]? = some raw → items[i]? = some o →
        Inhabits item raw o) :
      Inhabits (list item length) (.arr raws) (.list items)

/-- A number that is not refused is within the finite bounds. -/
theorem within_of_checkNumber {least greatest : Option Binary64} {x : Binary64.Finite}
    {o : Operand} (inside : checkNumber least greatest (.finite x) = .ok o) :
    (∀ limit, least = some (.finite limit) → limit.toInt ≤ x.toInt)
      ∧ ∀ limit, greatest = some (.finite limit) → x.toInt ≤ limit.toInt := by
  -- A limit that was passed would have been reported.
  have within : ∀ bound limit, ¬ Past ((Binary64.finite x).lt · = true)
      (·.lt (.finite x) = true) least greatest bound limit := by
    intro bound limit past
    rw [checkNumber_eq_error_iff.2 ⟨bound, limit, past, rfl⟩] at inside
    cases inside
  obtain ⟨notBelow, notAbove⟩ := not_past_iff.1 within
  refine ⟨fun limit declared => ?_, fun limit declared => ?_⟩
  · simpa [Binary64.lt] using notBelow _ declared
  · simpa [Binary64.lt] using notAbove _ declared

/-- A whole number that is not refused is within the bounds. -/
theorem within_of_checkInteger {least greatest : Option Int64} {w : Int64} {o : Operand}
    (inside : checkInteger least greatest w = .ok o) :
    (∀ limit, least = some limit → limit.toInt ≤ w.toInt)
      ∧ ∀ limit, greatest = some limit → w.toInt ≤ limit.toInt := by
  have within : ∀ bound limit, ¬ Past (w < ·) (· < w) least greatest bound limit := by
    intro bound limit past
    rw [checkInteger_eq_error_iff.2 ⟨bound, limit, past, rfl⟩] at inside
    cases inside
  obtain ⟨notBelow, notAbove⟩ := not_past_iff.1 within
  refine ⟨fun limit declared => ?_, fun limit declared => ?_⟩
  · simpa [Int64.lt_iff_toInt_lt] using notBelow _ declared
  · simpa [Int64.lt_iff_toInt_lt] using notAbove _ declared

/-- A pattern that is read has the raw text. -/
theorem source_of_ofText? {s : String} {p : Pattern} (h : Pattern.ofText? s = some p) :
    p.source = s := by
  unfold Pattern.ofText? at h
  split at h
  · cases h
    rfl
  · cases h

/-- **What a form reads is one of its operands.** -/
theorem inhabits_of_read {form : Form} {raw : Json} {o : Operand} (accepted : form.read raw = .ok o) :
    form.Inhabits raw o := by
  -- Induction on the form: the items of a list are read by the item form.
  induction form generalizing raw o with
  | text =>
    cases fits_of_read accepted
    exact .text
  | number =>
    cases fits_of_read accepted with
    | number inside =>
      obtain ⟨notBelow, notAbove⟩ := within_of_checkNumber inside
      exact .number notBelow notAbove
  | integer =>
    cases fits_of_read accepted with
    | integer inside =>
      obtain ⟨notBelow, notAbove⟩ := within_of_checkInteger inside
      exact .integer notBelow notAbove
  | truth =>
    cases fits_of_read accepted
    exact .truth
  | options =>
    cases fits_of_read accepted with
    | options member => exact .options (List.contains_iff_mem.1 member)
  | pattern =>
    have accepted := read_of_required accepted
    unfold readPattern at accepted
    split at accepted
    · split at accepted
      · rename_i compiled
        cases accepted
        rw [← source_of_ofText? compiled]
        exact .pattern
      · cases accepted
    · cases accepted
  | instant =>
    cases fits_of_read accepted
    exact .instant
  | list item length ih =>
    obtain ⟨raws, items, rfl, rfl, same, counted, each⟩ := exists_items_of_read_list accepted
    refine .list ?_ same.symm each fun i raw o hraw ho => ih (each i raw o hraw ho)
    intro count declared
    exact (checkLength_eq_ok_iff.1 counted count declared).symm

end Form

/-! ## §2. Codes -/

namespace Rejection

/-- The codes of rejections. -/
def codes : List String :=
  ["required", "invalid_type", "min_value", "max_value", "invalid_choice", "invalid_regex",
    "invalid_datetime", "invalid_length"]

/-- Every cause has one of the codes. -/
theorem code_mem_codes (cause : Rejection) : cause.code ∈ codes := by
  induction cause with
  | inItem _ _ ih => exact ih
  | numberOutside bound | integerOutside bound => cases bound <;> simp [codes, code]
  | _ => simp [codes, code]

end Rejection

/-- **"Required" stands for null**: it is the code of a value that is refused by itself exactly
when the value is null. -/
theorem Form.Refuses.code_eq_required_iff {form : Form} {raw : Json} {cause : Rejection}
    (h : form.Refuses raw cause) : cause.code = "required" ↔ raw = .null := by
  cases h with
  | null => simp [Rejection.code]
  | type given => simp [Rejection.code, given]
  | @number _ _ _ _ _ bound value =>
    cases bound <;> cases raw <;> first | cases value | simp [Rejection.code]
  | @integer _ _ _ _ _ bound value =>
    cases bound <;> cases raw <;> first | cases value | simp [Rejection.code]
  | _ => simp [Rejection.code]

namespace Form

/-! ## §3. Acceptance and rejection -/

/-- **ACCEPTED OPERANDS INHABIT THEIR FORM.**  For every form and every raw value: an operand that
the codec reads is one of the form, at every depth of lists; and an error is that of an invalid
operand without a position, with one of the eight codes, which is "required" exactly when the value
that is refused — the raw value or the item of it that a path leads to — is null. -/
theorem accepted_operand_inhabits (form : Form) (raw : Json) :
    (∀ o, form.codec.read raw = .ok o → form.Inhabits raw o)
    ∧ ∀ error, form.codec.read raw = .error error →
        ∃ message code, error = .invalidOperand message (some code) none
          ∧ code ∈ Rejection.codes
          ∧ ∃ path g x cause, Reaches form raw path g x ∧ g.Refuses x cause ∧ cause.code = code
            ∧ (code = "required" ↔ x = .null) := by
  refine ⟨fun o accepted => inhabits_of_read (codec_read_eq_ok_iff.1 accepted), ?_⟩
  intro error rejected
  -- The item where the rejection arose; its cause gives the code.
  obtain ⟨path, g, x, cause, reaches, refuses⟩ := exists_codec_read_eq_error_iff.1 ⟨_, rejected⟩
  have same := rejected.symm.trans (reaches.codec_read_eq_error refuses)
  exact ⟨_, _, Except.error.inj same, cause.code_mem_codes, path, g, x, cause, reaches, refuses,
    rfl, refuses.code_eq_required_iff⟩

end Form

end Sift
