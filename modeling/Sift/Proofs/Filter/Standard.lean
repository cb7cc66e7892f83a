/-
  Sift.Proofs.Filter.Standard
  ───────────────────────────
  **Stored filters over standard operators.**

  A catalog is *standard* when its subjects are field subjects with standard operators, each
  with the codec of a form or with none.  A filter that such a catalog has read is resolved by
  it, and every operand fits its form; so the one thing that can keep its payload from being
  read again is an instant whose year has no plain text:

      every instant has a year of 0 to 9999  ↔  the payload is read again as an equal filter
      some instant has another year          →  the first criterion with one is refused

  Such an instant is accepted: by its offset, or as a bare date with a signed year.

  Main result: `Filter.read_stored_iff`.
-/
import Sift.Proofs.Filter.Rereading
import Sift.Proofs.Operand.Rereading
import Sift.Proofs.Operator.Table
import Sift.Proofs.Subject.Catalog

namespace Sift

open Outcome

/-! ## §1. Standard catalogs -/

/-- An operator of a comparison, with the codec of a form or with none. -/
def Operator.IsStandard (operator : Operator) : Prop :=
  ∃ standard : StandardOperator, operator = standard.toOperator
    ∧ ∀ codec, standard.codec = some codec → ∃ form : Form, codec = form.codec

/-- A field subject with standard operators. -/
def Subject.IsStandard (subject : Subject) : Prop :=
  ∃ field : FieldSubject, subject = field.toSubject
    ∧ ∀ operator ∈ field.table.operators, operator.IsStandard

/-- **A catalog of field subjects with standard operators.** -/
def Catalog.IsStandard (catalog : Catalog) : Prop :=
  ∀ subject ∈ catalog.subjects, subject.IsStandard

/-! ## §2. Instants of criteria and filters -/

/-- The instants of a criterion's operand. -/
def Criterion.instants (criterion : Criterion) : List Instant :=
  match criterion.operand with
  | some operand => operand.instants
  | none => []

/-- The instants of a filter, in the order of its criteria. -/
def Filter.instants (filter : Filter) : List Instant :=
  filter.criteria.flatMap (·.instants)

namespace Criterion

/-- **The operand is one that the operator's form can read.** -/
def FitsForm (criterion : Criterion) : Prop :=
  ∀ codec, criterion.operator.codec = some codec → ∃ form operand, codec = Form.codec form
    ∧ criterion.operand = some operand ∧ form.Fits operand

/-- Every instant of the operand has a plain year. -/
def HasPlainYears (criterion : Criterion) : Prop := ∀ t ∈ criterion.instants, t.HasPlainYear

/-- Without plain years there is an instant before the year `0` or after the year `9999`. -/
theorem not_hasPlainYears_iff {criterion : Criterion} :
    ¬ criterion.HasPlainYears ↔
      ∃ t ∈ criterion.instants, t.date.year < 0 ∨ 9999 < t.date.year := by
  constructor
  · intro signed
    obtain ⟨t, ht⟩ := Classical.not_forall.1 signed
    obtain ⟨member, year⟩ := Classical.not_imp.1 ht
    unfold Instant.HasPlainYear at year
    exact ⟨t, member, by omega⟩
  · intro found plain
    obtain ⟨t, member, year⟩ := found
    have := plain t member
    unfold Instant.HasPlainYear at this
    omega

/-- The years of a criterion are those of its operand. -/
theorem hasPlainYears_some {criterion : Criterion} {operand : Operand}
    (h : criterion.operand = some operand) :
    criterion.HasPlainYears ↔ operand.HasPlainYears := by
  unfold HasPlainYears instants
  rw [h]
  exact Iff.rfl

/-- Without an operand there are no years. -/
theorem hasPlainYears_of_bare {criterion : Criterion} (bare : criterion.operator.codec = none) :
    criterion.HasPlainYears := by
  obtain ⟨noOperand, -⟩ := criterion.bare bare
  unfold HasPlainYears instants
  rw [noOperand]
  intro t ht
  cases ht

/-! ## §3. What a standard catalog has read -/

section
variable {catalog : Catalog} (standard : catalog.IsStandard)

include standard

/-- **What was read is resolved** by the catalog that read it, and the operand fits. -/
theorem resolvedBy_and_fitsForm {fragment : Json} {criterion : Criterion}
    (h : ReadFrom catalog.find fragment criterion) :
    criterion.ResolvedBy catalog.find ∧ criterion.FitsForm := by
  obtain ⟨subjectKey, -, hsubject⟩ := h.subject
  obtain ⟨operatorKey, -, hoperator⟩ := h.operator
  obtain ⟨subjectId, member⟩ := Catalog.of_find_eq_ok hsubject
  obtain ⟨field, isField, operators⟩ := standard criterion.subject member
  have found : field.table.find operatorKey.shown = .ok criterion.operator := by
    rw [isField] at hoperator
    exact hoperator
  obtain ⟨operatorId, inTable⟩ := OperatorTable.of_find_eq_ok found
  -- What was found has the identifier that was asked for, so asking for it finds the same.
  refine ⟨⟨?_, ?_⟩, ?_⟩
  · rw [subjectId]
    exact hsubject
  · rw [operatorId]
    exact hoperator
  · intro codec taken
    obtain ⟨raw, operand, -, accepted, hoperand, -⟩ := h.operand codec taken
    obtain ⟨operator, same, forms⟩ := operators criterion.operator inTable
    rw [same] at taken
    obtain ⟨form, rfl⟩ := forms codec taken
    exact ⟨form, operand, rfl, hoperand, Form.fits_of_read (mapError_eq_ok_iff.1 accepted)⟩

end

/-! ## §4. One criterion -/

section
variable {criterion : Criterion} (fits : criterion.FitsForm)

include fits

/-- **The operand survives exactly when its years are plain.** -/
theorem keepsOperand_iff : criterion.KeepsOperand ↔ criterion.HasPlainYears := by
  constructor
  · intro keeps
    -- Without a codec there is no operand, and so no instant.
    cases taken : criterion.operator.codec with
    | none => exact hasPlainYears_of_bare taken
    | some codec =>
      obtain ⟨form, operand, rfl, hoperand, fit⟩ := fits codec taken
      obtain ⟨stored, hstored, again, accepted, same⟩ := keeps _ taken
      rw [hoperand] at hstored
      cases hstored
      rw [hasPlainYears_some hoperand]
      exact (Form.read_write_iff fit).1 ⟨again, mapError_eq_ok_iff.1 accepted, same⟩
  · intro plain codec taken
    obtain ⟨form, operand, rfl, hoperand, fit⟩ := fits codec taken
    rw [hasPlainYears_some hoperand] at plain
    obtain ⟨again, accepted, same⟩ := (Form.read_write_iff fit).2 plain
    exact ⟨operand, hoperand, again, mapError_eq_ok_iff.2 accepted, same⟩

/-- A codec refuses only another year, and says that the instant is invalid. -/
theorem refuses_of_fits {cause : Error} (refuses : criterion.Refuses cause) :
    ¬ criterion.HasPlainYears
      ∧ ∃ message, cause = .invalidOperand message (some "invalid_datetime") none := by
  obtain ⟨codec, taken, refused⟩ := refuses
  obtain ⟨form, operand, rfl, hoperand, fit⟩ := fits codec taken
  rw [hoperand] at refused
  -- With plain years it would have been read back.
  have signed : ¬ operand.HasPlainYears := by
    intro plain
    have accepted := Form.codec_read_eq_ok_iff.2 (Form.read_write fit plain)
    cases refused.symm.trans accepted
  rw [hasPlainYears_some hoperand]
  obtain ⟨message, known⟩ := Form.codec_read_write_error fit signed
  refine ⟨signed, message, ?_⟩
  exact Except.error.inj (refused.symm.trans known)

/-- Another year is refused. -/
theorem exists_refuses_of_fits (signed : ¬ criterion.HasPlainYears) :
    ∃ cause, criterion.Refuses cause := by
  cases taken : criterion.operator.codec with
  | none => exact absurd (hasPlainYears_of_bare taken) signed
  | some codec =>
    obtain ⟨form, operand, rfl, hoperand, fit⟩ := fits codec taken
    rw [hasPlainYears_some hoperand] at signed
    obtain ⟨message, refused⟩ := Form.codec_read_write_error fit signed
    refine ⟨.invalidOperand message (some "invalid_datetime") none, _, taken, ?_⟩
    rw [hoperand]
    exact refused

end

end Criterion

namespace Filter

/-! ## §5. Stored filters -/

/-- The years of a filter are those of its criteria. -/
theorem forall_mem_instants {filter : Filter} :
    (∀ t ∈ filter.instants, t.HasPlainYear) ↔
      ∀ criterion ∈ filter.criteria, criterion.HasPlainYears := by
  unfold instants
  constructor
  · intro h criterion hmem t ht
    exact h t (List.mem_flatMap.2 ⟨criterion, hmem, ht⟩)
  · intro h t ht
    obtain ⟨criterion, hmem, ht⟩ := List.mem_flatMap.1 ht
    exact h criterion hmem t ht

/-- **WHEN A STORED FILTER CAN BE READ AGAIN.**  Let a standard catalog read a filter from any
payload.  The payload of that filter is read again, as an equal filter, exactly when every
instant in it has a year of `0` to `9999`.  With another year it is refused instead: the error
is that of an invalid instant, at the first criterion that has such a year. -/
theorem read_stored_iff {catalog : Catalog} (standard : catalog.IsStandard) {payload : Json}
    {filter : Filter} (stored : (read catalog.find payload).outcome = .ok filter) :
    ((∃ again, (read catalog.find filter.toJson).outcome = .ok again
        ∧ again.sameAs filter = true) ↔
      ∀ t ∈ filter.instants, 0 ≤ t.date.year ∧ t.date.year ≤ 9999)
    ∧ ((∃ t ∈ filter.instants, t.date.year < 0 ∨ 9999 < t.date.year) →
        ∃ i criterion message, filter.criteria[i]? = some criterion
          ∧ (∃ t ∈ criterion.instants, t.date.year < 0 ∨ 9999 < t.date.year)
          ∧ (∀ j < i, ∀ earlier, filter.criteria[j]? = some earlier →
              ∀ t ∈ earlier.instants, 0 ≤ t.date.year ∧ t.date.year ≤ 9999)
          ∧ (read catalog.find filter.toJson).outcome =
              .error (.invalidOperand message (some "invalid_datetime") (some i))) := by
  have known : ∀ criterion ∈ filter.criteria,
      criterion.ResolvedBy catalog.find ∧ criterion.FitsForm := by
    intro criterion hmem
    obtain ⟨fragment, found⟩ := exists_readFrom_of_mem stored criterion hmem
    exact Criterion.resolvedBy_and_fitsForm standard found
  have resolved := fun criterion hmem => (known criterion hmem).1
  -- Both parts reduce to the criteria, which keep their operands or refuse them by years alone.
  constructor
  · rw [read_toJson_sameAs_iff resolved]
    show _ ↔ ∀ t ∈ filter.instants, t.HasPlainYear
    rw [forall_mem_instants]
    constructor
    · intro keeps criterion hmem
      exact (Criterion.keepsOperand_iff (known criterion hmem).2).1 (keeps criterion hmem)
    · intro plain criterion hmem
      exact (Criterion.keepsOperand_iff (known criterion hmem).2).2 (plain criterion hmem)
  · intro h
    obtain ⟨t, ht, signed⟩ := h
    obtain ⟨culprit, hmem, ht⟩ := List.mem_flatMap.1 ht
    have refused := Criterion.exists_refuses_of_fits (known culprit hmem).2
      (Criterion.not_hasPlainYears_iff.2 ⟨t, ht, signed⟩)
    obtain ⟨error, failed⟩ := exists_read_toJson_eq_error resolved ⟨culprit, hmem, refused⟩
    obtain ⟨i, cause, first, rfl⟩ := (read_toJson_eq_error_iff resolved).1 failed
    -- The criterion of the first refusal has such a year, and none before it has.
    obtain ⟨⟨criterion, hi, refuses⟩, before⟩ := first
    have hcriterion := List.mem_of_getElem? hi
    obtain ⟨signed, message, rfl⟩ :=
      Criterion.refuses_of_fits (known criterion hcriterion).2 refuses
    refine ⟨i, criterion, message, hi, Criterion.not_hasPlainYears_iff.1 signed, ?_, failed⟩
    intro j hj earlier hearlier t ht
    by_cases plain : earlier.HasPlainYears
    · exact plain t ht
    obtain ⟨other, refuses⟩ := Criterion.exists_refuses_of_fits
      (known earlier (List.mem_of_getElem? hearlier)).2 plain
    exact absurd refuses (before j hj earlier hearlier other)

/-- The test that an instant is earlier. -/
def isBefore : Operator := (StandardOperator.of .before).toOperator

/-- A subject with that test only. -/
def due : Subject := ((FieldSubject.of "due").withOperator isBefore).toSubject

/-- The catalog of that subject. -/
def dueCatalog : Catalog := ⟨[due], List.pairwise_singleton _ _⟩

/-- The criterion that the subject is before an instant. -/
def dueFragment (text : String) : Json :=
  .obj [("choice", .str "due"), ("op", .str "before"), ("value", .str text)]

/-- The payload of that criterion. -/
def duePayload (text : String) : Json :=
  .obj [("conditions", .arr [dueFragment text]), ("mode", .str "all")]

/-- The filter that the payload is read as, where the text denotes that instant. -/
def dueFilter (text : String) (t : Instant) : Filter :=
  ⟨.all, [Criterion.withRaw due isBefore (some (.instant t)) (some (.str text))]⟩

theorem dueCatalog_isStandard : dueCatalog.IsStandard := by
  intro subject hsubject
  refine ⟨_, List.mem_singleton.1 hsubject, ?_⟩
  intro operator hoperator
  refine ⟨StandardOperator.of .before, List.mem_singleton.1 hoperator, ?_⟩
  intro codec taken
  cases taken
  exact ⟨.instant, rfl⟩

theorem outcome_read_duePayload {text : String} {t : Instant}
    (h : Instant.ofText? text = some t) :
    (read dueCatalog.find (duePayload text)).outcome = .ok (dueFilter text t) := by
  -- The fragment is read by its codec alone; all before it is found by computation.
  have criterion : Criterion.readAt dueCatalog.find 0 (dueFragment text) =
      ((Form.instant.codec.read (.str text)).mapError (·.withPosition (some 0))).map
        fun operand => Criterion.withRaw due isBefore (some operand) (some (.str text)) :=
    Criterion.outcome_readValue_some rfl (.str text)
  have operand : Form.instant.codec.read (.str text) = .ok (.instant t) := by
    simp only [Form.codec, Form.read, Form.required, Form.readInstant, h]
    rfl
  rw [operand] at criterion
  rw [@outcome_read_array dueCatalog.find (duePayload text) .all [dueFragment text] rfl rfl,
    inOrder_cons_ok criterion]
  rfl

/-- The filter cannot be read again where the year of the instant is not plain. -/
theorem outcome_read_dueFilter {text : String} {t : Instant} (signed : ¬ t.HasPlainYear) :
    (read dueCatalog.find (dueFilter text t).toJson).outcome =
      .error ((Error.rejected (.invalidInstant t.text)).withPosition (some 0)) := by
  have resolved : ∀ criterion ∈ (dueFilter text t).criteria,
      criterion.ResolvedBy dueCatalog.find := by
    intro criterion hmem
    rw [List.mem_singleton.1 hmem]
    exact ⟨rfl, rfl⟩
  have refused : Form.instant.codec.read (.str t.text) =
      .error (.rejected (.invalidInstant t.text)) := by
    simp only [Form.codec, Form.read, Form.required, Form.readInstant,
      Instant.ofText?_text_eq_none signed]
    rfl
  rw [read_toJson_eq_error_iff resolved]
  -- The one criterion is the first, so nothing is refused before it.
  refine ⟨0, _, ⟨⟨_, rfl, _, rfl, refused⟩, ?_⟩, rfl⟩
  intro j hj
  exact absurd hj (Nat.not_lt_zero j)

/-- A leap second by a clock ahead of UTC is stored and read again. -/
theorem read_stored_leap_second :
    dueCatalog.IsStandard
    ∧ ∃ filter, (read dueCatalog.find (duePayload "2017-01-01T08:59:60.5+09:00")).outcome =
        .ok filter
      ∧ ∃ again, (read dueCatalog.find filter.toJson).outcome = .ok again
          ∧ again.sameAs filter = true := by
  -- Nine hours ahead, the second after the last one of the year.
  have denoted : Instant.ofText? "2017-01-01T08:59:60.5+09:00" =
      some ⟨⟨2016, 12, 31, by decide⟩, 86399, 1500000000, by decide, by decide⟩ := by
    decide +kernel
  have stored := outcome_read_duePayload denoted
  refine ⟨dueCatalog_isStandard, _, stored,
    (read_stored_iff dueCatalog_isStandard stored).1.2 ?_⟩
  intro t ht
  cases List.mem_singleton.1 ht
  decide

/-- **A filter that cannot be read again**: the last second of the year `9999` by a clock behind
UTC is an instant of the year `10000`, which is stored, and refused when it is read again. -/
theorem read_stored_year_10000 :
    dueCatalog.IsStandard
    ∧ ∃ filter, (read dueCatalog.find (duePayload "9999-12-31T23:59:59-01:00")).outcome =
        .ok filter
      ∧ (read dueCatalog.find filter.toJson).outcome =
          .error (.invalidOperand "无法解析日期时间: '+10000-01-01T00:59:59+00:00'"
            (some "invalid_datetime") (some 0)) := by
  -- An hour behind, the last second of the year 9999 lies in the next one.
  have denoted : Instant.ofText? "9999-12-31T23:59:59-01:00" =
      some ⟨⟨10000, 1, 1, by decide⟩, 3599, 0, by decide, by decide⟩ := by
    decide +kernel
  refine ⟨dueCatalog_isStandard, _, outcome_read_duePayload denoted, ?_⟩
  rw [outcome_read_dueFilter (by decide)]
  apply congrArg Except.error
  decide +kernel

end Filter

end Sift
