/-
  Sift.Proofs.Settings.Operands
  ─────────────────────────────
  **Operands of declared operators can be compared.**

  The rule that accepts a form for a comparison, the usual forms, the readers of the forms and
  the tests of the comparisons are four tables that do not know each other.  They agree: what a
  declared catalog has read is never a criterion whose operand its comparison cannot test.

      the declared form, or the usual one, is accepted   (`accepts_of_codec`)
      what a form reads fits it                          (`Form.fits_of_read`)
      operands of accepted forms suit the comparison     (`Comparison.suits_of_fits`)

  Main result: `Settings.operands_comparable`.
-/
import Sift.Proofs.Comparison.Shape
import Sift.Proofs.Filter.Reading
import Sift.Proofs.Settings.Validity

namespace Sift

/-- **A criterion that compares**: its operator is the comparison, it has an operand exactly
where one is needed, and the operand is of the shape to be tested, with a type that tells values
apart. -/
structure Criterion.Compares (criterion : Criterion) (k : Comparison) : Prop where
  tests : criterion.operator.holds = k.holds
  present : criterion.operand.isSome = k.needsOperand
  suits : ∀ o, criterion.operand = some o → k.Suits o
  tellsApart : ∀ o, criterion.operand = some o → ∃ other, o.Alike other ∧ k.TellsApart other

namespace Settings

open Outcome

/-! ## §1. The codec of a declared operator -/

namespace OperatorDeclaration

variable {o : OperatorDeclaration} (suits : o.FormSuits)

include suits

/-- An operator has a codec exactly where its comparison needs an operand. -/
theorem isSome_codec_declared : o.declared.codec.isSome = o.comparison.needsOperand := by
  unfold declared
  cases given : o.form with
  | none => simp [Comparison.isSome_defaultForm?]
  | some form => simp [(suits form given).1]

/-- **The codec is that of an accepted form**, declared or usual. -/
theorem accepts_of_codec {codec : Codec} (taken : o.declared.codec = some codec) :
    ∃ form, codec = Form.codec form ∧ o.comparison.accepts form = true := by
  obtain ⟨form, effective, rfl⟩ := Option.map_eq_some_iff.1 taken
  refine ⟨form, rfl, ?_⟩
  cases given : o.form with
  | none =>
    rw [given, Option.none_or] at effective
    exact Comparison.accepts_defaultForm effective
  | some chosen =>
    rw [given, Option.some_or] at effective
    cases effective
    exact (suits form given).2

end OperatorDeclaration

/-! ## §2. Criteria of a declared catalog -/

/-- **A criterion that was read has a declared operator.** -/
theorem exists_operator_of_readFrom {settings : Settings} {catalog : Catalog}
    (declared : settings.toCatalog.outcome = .ok catalog) {fragment : Json}
    {criterion : Criterion} (h : Criterion.ReadFrom catalog.find fragment criterion) :
    ∃ d ∈ settings.subjects, criterion.subject.id = d.id
      ∧ ∃ o ∈ d.operators, o.FormSuits ∧ criterion.operator = o.declared.toOperator := by
  obtain ⟨subjectKey, -, hsubject⟩ := h.subject
  obtain ⟨operatorKey, -, hoperator⟩ := h.operator
  obtain ⟨d, hd, hid, field, built, same⟩ := exists_declaration_of_find declared hsubject
  -- The subject of the catalog looks its operators up in the table it was built with.
  have found : field.table.find operatorKey.shown = .ok criterion.operator := by
    rw [same] at hoperator
    exact hoperator
  obtain ⟨-, inTable⟩ := OperatorTable.of_find_eq_ok found
  rw [SubjectDeclaration.operators_of_build built] at inTable
  obtain ⟨o, ho, operator⟩ := List.mem_map.1 inTable
  have valid : d.Valid := SubjectDeclaration.exists_build_iff.1 ⟨field, built⟩
  refine ⟨d, hd, ?_, o, ho, valid.forms o ho, operator.symm⟩
  rw [hid]
  exact (Catalog.of_find_eq_ok hsubject).1

/-- **A criterion that was read compares**, where its operator has a suitable form. -/
theorem compares_of_readFrom {resolver : Resolver} {fragment : Json} {criterion : Criterion}
    (h : Criterion.ReadFrom resolver fragment criterion) {o : OperatorDeclaration}
    (suits : o.FormSuits) (operator : criterion.operator = o.declared.toOperator) :
    criterion.Compares o.comparison := by
  have codec : criterion.operator.codec = o.declared.codec := by
    rw [operator]
    rfl
  -- An operand is read exactly where there is a codec, and that is where one is needed.
  have present : criterion.operand.isSome = o.comparison.needsOperand := by
    rw [← OperatorDeclaration.isSome_codec_declared suits, ← codec]
    cases taken : criterion.operator.codec with
    | none => rw [(criterion.bare taken).1, Option.isSome_none, Option.isSome_none]
    | some codec =>
      obtain ⟨raw, operand, -, -, stored, -⟩ := h.operand codec taken
      rw [stored, Option.isSome_some, Option.isSome_some]
  have suitable : ∀ operand, criterion.operand = some operand →
      o.comparison.Suits operand := by
    intro operand stored
    cases taken : criterion.operator.codec with
    | none =>
      rw [(criterion.bare taken).1] at stored
      cases stored
    | some used =>
      -- The operand is what the codec has read, so it fits the form of the codec.
      obtain ⟨raw, other, -, accepted, again, -⟩ := h.operand used taken
      rw [stored] at again
      cases again
      obtain ⟨form, rfl, accepts⟩ := OperatorDeclaration.accepts_of_codec suits (codec ▸ taken)
      exact Comparison.suits_of_fits accepts (Form.fits_of_read (mapError_eq_ok_iff.1 accepted))
  refine ⟨by rw [operator]; rfl, present, suitable, ?_⟩
  intro operand stored
  have needed : o.comparison.needsOperand = true := by
    rw [← present, stored, Option.isSome_some]
  exact Comparison.exists_alike_tellsApart needed (suitable operand stored)

/-- **OPERANDS OF DECLARED OPERATORS CAN BE COMPARED.**  Let settings declare a catalog, and let
it read a filter from any payload.  Every criterion of the filter has a declared operator of its
subject.  It has an operand exactly where the comparison of that operator needs one, and the
operand has the shape that the comparison tests: so it is never of a wrong type, with which the
comparison would be constant. -/
theorem operands_comparable {settings : Settings} {catalog : Catalog}
    (declared : settings.toCatalog.outcome = .ok catalog) {payload : Json} {filter : Filter}
    (stored : (Filter.read catalog.find payload).outcome = .ok filter) :
    ∀ criterion ∈ filter.criteria, ∃ d ∈ settings.subjects, criterion.subject.id = d.id
      ∧ ∃ o ∈ d.operators, criterion.operator = o.declared.toOperator
        ∧ criterion.Compares o.comparison := by
  intro criterion member
  obtain ⟨fragment, found⟩ := Filter.exists_readFrom_of_mem stored criterion member
  obtain ⟨d, hd, subject, o, ho, suits, operator⟩ := exists_operator_of_readFrom declared found
  exact ⟨d, hd, subject, o, ho, operator, compares_of_readFrom found suits operator⟩

/-- A subject whose operators test whether its value lies in a range of whole numbers, and
whether it has one. -/
def rangeSettings : Settings :=
  ⟨some "diff", [⟨"lines", none,
    [⟨some "within", .between, some (.list (.integer none none) (some 2))⟩,
      ⟨none, .isEmpty, none⟩]⟩]⟩

/-- Both operators, the first with a whole number and a text that denotes one. -/
def rangePayload : Json :=
  .obj [("conditions", .arr
      [.obj [("choice", .str "lines"), ("op", .str "within"),
          ("value", .arr [.ofSignedWord 1, .str " 20 "])],
        .obj [("choice", .str "lines"), ("op", .str "is_empty")]]),
    ("mode", .str "any")]

/-- Of a range and a test for emptiness, the first has two whole numbers and the second has no
operand. -/
theorem operands_comparable_range :
    ∃ catalog filter first second, rangeSettings.toCatalog.outcome = .ok catalog
      ∧ (Filter.read catalog.find rangePayload).outcome = .ok filter
      ∧ filter.criteria = [first, second]
      ∧ first.operand = some (.list [.integer 1, .integer 20]) ∧ second.operand = none
      ∧ ∀ criterion ∈ filter.criteria, ∃ d ∈ rangeSettings.subjects,
          criterion.subject.id = d.id
          ∧ ∃ o ∈ d.operators, criterion.operator = o.declared.toOperator
            ∧ criterion.Compares o.comparison :=
  ⟨_, _, _, _, rfl, rfl, rfl, rfl, rfl, @operands_comparable rangeSettings _ rfl rangePayload _ rfl⟩

end Settings

end Sift
