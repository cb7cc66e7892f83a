/-
  Sift.Proofs.Filter.StoredText
  ─────────────────────────────
  **A filter can be read again from its own text.**

  What a standard catalog has read is written no more deeply nested than it was read: an operand
  is at most as deep as the raw value it was read from, and a criterion as its fragment.  The text
  that was read is nested fewer levels than the limit of the reader, so the text that is written
  is, and it denotes the payload it was written from.  Reading goes on from the payload as it does
  for payloads that were never texts, and ends with an equal filter where all years are plain.

  Main result: `Filter.stored_text_is_read_again`.
-/
import Sift.Proofs.Json.Rereading
import Sift.Proofs.Filter.Standard

namespace Sift

open Outcome

namespace Form

/-! ## §1. Operands -/

/-- **An operand that fits is written in order.** -/
theorem orderly_write {form : Form} {o : Operand} (fits : form.Fits o) :
    (form.write o).Orderly := by
  -- On the fit of the operand to the form, which follows the items of lists.
  induction fits with
  | text => exact .str
  | number => exact .num
  | integer => exact .num
  | truth => exact .bool
  | options => exact .str
  | pattern => exact .str
  | instant => exact .str
  | @list item length items counted each ih =>
    refine .arr fun j hj => ?_
    obtain ⟨o, ho, rfl⟩ := List.mem_map.1 hj
    exact ih o ho

/-- A form other than a list writes no array and no object. -/
theorem depth_write_of_fits {form : Form} {o : Operand} (fits : form.Fits o)
    (flat : ∀ item length, form ≠ list item length) : (form.write o).depth = 0 := by
  cases fits with
  | list => exact absurd rfl (flat _ _)
  | _ => rfl

/-- **An operand is written no more deeply nested than it was read.** -/
theorem depth_write_le {form : Form} :
    ∀ {raw : Json} {o : Operand}, form.read raw = .ok o → (form.write o).depth ≤ raw.depth := by
  -- Induction on the form; the items of a list are written by the form they were read by.
  induction form with
  | list item length ih =>
    intro raw o h
    obtain ⟨raws, items, rfl, rfl, same, -, each⟩ := exists_items_of_read_list h
    show (Json.arr (items.map item.write)).depth ≤ _
    rw [Json.depth, Json.depth]
    refine Nat.succ_le_succ (Json.depthItems_le_iff.2 fun j hj => ?_)
    obtain ⟨o, ho, rfl⟩ := List.mem_map.1 hj
    obtain ⟨i, hi⟩ := List.getElem?_of_mem ho
    obtain ⟨raw, hraw⟩ := exists_getElem?_of_length_eq same hi
    calc (item.write o).depth ≤ raw.depth := ih (each i raw o hraw hi)
      _ ≤ Json.depthItems raws :=
        Json.depthItems_le_iff.1 (Nat.le_refl _) raw (List.mem_of_getElem? hraw)
  | _ =>
    intro raw o h
    rw [depth_write_of_fits (fits_of_read h) (by simp)]
    exact Nat.zero_le _

end Form

namespace Criterion

/-! ## §2. Criteria -/

/-- A criterion is written as an object of texts, and of the operand where there is one. -/
theorem exists_toJson_eq_object {P : Json → Prop} (criterion : Criterion) (texts : ∀ s, P (.str s))
    (value : ∀ codec, criterion.operator.codec = some codec → P (written codec criterion.operand)) :
    ∃ members, criterion.toJson = .object members ∧ ∀ m ∈ members, P m.2 := by
  refine ⟨_, rfl, List.forall_mem_append.2 ⟨?_, ?_⟩⟩
  · exact List.forall_mem_cons.2 ⟨texts _, List.forall_mem_cons.2 ⟨texts _, List.forall_mem_nil _⟩⟩
  · split
    · rename_i codec taken
      exact List.forall_mem_cons.2 ⟨value codec taken, List.forall_mem_nil _⟩
    · exact List.forall_mem_nil _

section
variable {criterion : Criterion} (fits : criterion.FitsForm)

include fits

/-- A criterion whose operand fits is written in order. -/
theorem orderly_toJson : criterion.toJson.Orderly := by
  obtain ⟨members, written, each⟩ := exists_toJson_eq_object criterion (fun s => Json.Orderly.str)
    fun codec taken => by
      obtain ⟨form, operand, rfl, hoperand, fit⟩ := fits codec taken
      rw [hoperand]
      exact Form.orderly_write fit
  rw [written]
  exact Json.orderly_object each

/-- **A criterion is written no more deeply nested than its fragment.** -/
theorem depth_toJson_le {resolver : Resolver} {fragment : Json}
    (found : ReadFrom resolver fragment criterion) : criterion.toJson.depth ≤ fragment.depth := by
  -- The fragment is an object, since it has keys.
  obtain ⟨key, given, -⟩ := found.subject
  have isObject := Json.depth_lt_of_get? given
  obtain ⟨members, written, each⟩ :=
    @exists_toJson_eq_object (fun j => j.depth ≤ fragment.depth - 1) criterion
      (fun s => Nat.zero_le _) fun codec taken => by
      obtain ⟨form, operand, rfl, hoperand, -⟩ := fits codec taken
      obtain ⟨raw, same, hraw, accepted, again, -⟩ := found.operand _ taken
      rw [hoperand] at again ⊢
      cases again
      have read : form.read raw = .ok operand := mapError_eq_ok_iff.1 accepted
      calc (form.write operand).depth ≤ raw.depth := Form.depth_write_le read
        _ ≤ fragment.depth - 1 := Nat.le_pred_of_lt (Json.depth_lt_of_get? hraw)
  have deep := Json.depth_object_le each
  rw [← written] at deep
  omega

end

end Criterion

namespace Filter

/-! ## §3. Filters -/

section
variable {catalog : Catalog} (standard : catalog.IsStandard) {payload : Json} {filter : Filter}
  (stored : (read catalog.find payload).outcome = .ok filter)

include standard stored

/-- Every criterion of the filter is resolved by the catalog and fits its form. -/
theorem resolvedBy_and_fitsForm_of_read :
    ∀ criterion ∈ filter.criteria, criterion.ResolvedBy catalog.find ∧ criterion.FitsForm := by
  intro criterion hmem
  obtain ⟨fragment, found⟩ := exists_readFrom_of_mem stored criterion hmem
  exact Criterion.resolvedBy_and_fitsForm standard found

/-- A filter is written in order. -/
theorem orderly_toJson : filter.toJson.Orderly := by
  refine Json.orderly_object fun m hm => ?_
  rcases List.mem_cons.1 hm with rfl | hm
  · exact .str
  · rw [List.mem_singleton.1 hm]
    refine .arr fun j hj => ?_
    obtain ⟨criterion, hmem, rfl⟩ := List.mem_map.1 hj
    exact Criterion.orderly_toJson
      (resolvedBy_and_fitsForm_of_read standard stored criterion hmem).2

/-- **A filter is written no more deeply nested than its payload**, or in two levels. -/
theorem depth_toJson_le : filter.toJson.depth ≤ max 2 payload.depth := by
  have criteria : ∀ j ∈ filter.criteria.map (·.toJson), j.depth ≤ max 2 payload.depth - 2 := by
    intro j hj
    obtain ⟨criterion, hmem, rfl⟩ := List.mem_map.1 hj
    obtain ⟨fragments, fragment, given, member, found⟩ := exists_fragment_of_mem stored hmem
    have fits := (resolvedBy_and_fitsForm_of_read standard stored criterion hmem).2
    -- Its fragment is an item of the array, which is a member of the payload.
    have inner := Criterion.depth_toJson_le fits found
    have middle := Json.depth_lt_of_mem member
    have outer := Json.depth_lt_of_get? given
    omega
  have members : ∀ m ∈ [("mode", Json.str filter.mode.name),
      ("conditions", .arr (filter.criteria.map (·.toJson)))],
      m.2.depth ≤ max 2 payload.depth - 1 := by
    refine List.forall_mem_cons.2
      ⟨Nat.zero_le _, List.forall_mem_cons.2 ⟨?_, List.forall_mem_nil _⟩⟩
    rw [Json.depth]
    have := Json.depthItems_le_iff.2 criteria
    omega
  have deep := Json.depth_object_le members
  show (Json.object _).depth ≤ _
  omega

/-- The payload of the filter may be refused, but not as a text that cannot be read. -/
theorem outcome_read_toJson_ne_unreadable :
    (read catalog.find filter.toJson).outcome ≠ .error .unreadableJson := by
  intro unreadable
  have known := resolvedBy_and_fitsForm_of_read standard stored
  obtain ⟨i, cause, ⟨⟨criterion, hi, refuses⟩, -⟩, same⟩ :=
    (read_toJson_eq_error_iff fun criterion hmem => (known criterion hmem).1).1 unreadable
  obtain ⟨-, message, rfl⟩ :=
    Criterion.refuses_of_fits (known criterion (List.mem_of_getElem? hi)).2 refuses
  cases same

/-- Where all years are plain, the payload of the filter is read as an equal filter. -/
theorem exists_read_toJson_sameAs (plain : ∀ t ∈ filter.instants, t.HasPlainYear) :
    ∃ again, (read catalog.find filter.toJson).outcome = .ok again
      ∧ again.sameAs filter = true := by
  have known := resolvedBy_and_fitsForm_of_read standard stored
  rw [read_toJson_sameAs_iff fun criterion hmem => (known criterion hmem).1]
  intro criterion hmem
  have years := forall_mem_instants.1 plain criterion hmem
  exact (Criterion.keepsOperand_iff (known criterion hmem).2).2 years

end

/-! ## §4. Texts -/

/-- A filter that was read from a text was read from the payload that the text denotes. -/
theorem exists_payload_of_ofText {resolver : Resolver} {text : String} {filter : Filter}
    (h : (ofText resolver text).outcome = .ok filter) :
    ∃ payload, Json.parse? text = some payload ∧ (read resolver payload).outcome = .ok filter := by
  unfold ofText at h
  split at h
  · rename_i payload denoted
    exact ⟨payload, denoted, h⟩
  · cases h

/-- **A FILTER CAN BE READ AGAIN FROM ITS OWN TEXT.**  Let a standard catalog read a filter from a
text.  The payload of that filter is nested no more deeply than the payload in the text, or in two
levels; so, where the reader of texts gives the binary64 numbers in it back, the text of the filter
is never refused as JSON, and it is read as an equal filter where every instant has a year of `0` to
`9999`. -/
theorem stored_text_is_read_again {catalog : Catalog} (standard : catalog.IsStandard)
    {text : String} {filter : Filter} (stored : (ofText catalog.find text).outcome = .ok filter) :
    (∃ payload, Json.parse? text = some payload ∧ filter.toJson.depth ≤ max 2 payload.depth)
    ∧ ((∀ x, .float x ∈ filter.toJson.numbers → (Json.Number.float x).IsReadBack) →
        (ofText catalog.find filter.text).outcome ≠ .error .unreadableJson
        ∧ ((∀ t ∈ filter.instants, 0 ≤ t.date.year ∧ t.date.year ≤ 9999) →
            ∃ again, (ofText catalog.find filter.text).outcome = .ok again
              ∧ again.sameAs filter = true)) := by
  obtain ⟨payload, denoted, read⟩ := exists_payload_of_ofText stored
  have nested := depth_toJson_le standard read
  refine ⟨⟨payload, denoted, nested⟩, fun back => ?_⟩
  -- Reading the stored text has bounded its depth, and what is written is no deeper.
  have shallow : filter.toJson.depth < Json.Reader.nestingLimit :=
    Nat.lt_of_le_of_lt nested (Nat.max_lt.2 ⟨by decide, Json.depth_lt_of_parse? denoted⟩)
  have again := Json.parse?_text (orderly_toJson standard read) shallow back
  have outcome : (ofText catalog.find filter.text).outcome =
      (Filter.read catalog.find filter.toJson).outcome := by
    unfold ofText Filter.text
    rw [again]
  rw [outcome]
  exact ⟨outcome_read_toJson_ne_unreadable standard read,
    fun plain => exists_read_toJson_sameAs standard read plain⟩

/-- The test that a number is greater. -/
def isGreater : Operator := (StandardOperator.of .greaterThan).toOperator

/-- A subject with that test only. -/
def score : Subject := ((FieldSubject.of "score").withOperator isGreater).toSubject

/-- The catalog of that subject. -/
def scoreCatalog : Catalog := ⟨[score], List.pairwise_singleton _ _⟩

/-- The payload of the criterion that the score is greater than a number. -/
def scorePayload (x : Binary64.Finite) : Json :=
  .obj [("conditions", .arr [.obj [("choice", .str "score"), ("op", .str "greater_than"),
    ("value", .num (.float x))]]), ("mode", .str "any")]

/-- The filter that the payload is read as. -/
def scoreFilter (x : Binary64.Finite) : Filter :=
  ⟨.any, [Criterion.withRaw score isGreater (some (.number (.finite x))) (some (.num (.float x)))]⟩

theorem scoreCatalog_isStandard : scoreCatalog.IsStandard := by
  intro subject hsubject
  refine ⟨_, List.mem_singleton.1 hsubject, ?_⟩
  intro operator hoperator
  refine ⟨StandardOperator.of .greaterThan, List.mem_singleton.1 hoperator, ?_⟩
  intro codec taken
  cases taken
  exact ⟨.number none none, rfl⟩

theorem outcome_read_scorePayload (x : Binary64.Finite) :
    (read scoreCatalog.find (scorePayload x)).outcome = .ok (scoreFilter x) := by
  refine (@outcome_read_eq_ok_iff _ (scorePayload x) .any _ rfl rfl _).2 ⟨rfl, rfl, ?_⟩
  intro i fragment criterion hfragment hcriterion
  -- There is one criterion, at position zero.
  cases i with
  | succ i => cases hfragment
  | zero =>
    cases hfragment
    cases hcriterion
    refine (Criterion.outcome_read_eq_ok_iff (some 0)).2 ⟨⟨_, rfl, rfl⟩, ⟨_, rfl, rfl⟩, ?_⟩
    intro codec taken
    cases taken
    exact ⟨_, _, rfl, rfl, rfl, rfl⟩

/-- Two and a half. -/
def twoAndHalf : Binary64.Finite := ⟨false, Nat.pow 2 1073 * 5, by decide +kernel⟩

/-- A text of the payload with that number, with its keys in another order. -/
def scoreText : String :=
  "\x7b\"mode\": \"any\", \"conditions\": [" ++
    "\x7b\"value\": 2.5, \"op\": \"greater_than\", \"choice\": \"score\"\x7d]\x7d"

/-- A filter with the number two and a half is read again from its own text. -/
theorem stored_text_is_read_again_half :
    scoreCatalog.IsStandard
    ∧ ∃ filter, (ofText scoreCatalog.find scoreText).outcome = .ok filter
      ∧ (ofText scoreCatalog.find filter.text).outcome ≠ .error .unreadableJson
      ∧ ∃ again, (ofText scoreCatalog.find filter.text).outcome = .ok again
          ∧ again.sameAs filter = true := by
  have denoted : Json.parse? scoreText = some (scorePayload twoAndHalf) := by
    decide +kernel
  have stored : (ofText scoreCatalog.find scoreText).outcome = .ok (scoreFilter twoAndHalf) := by
    unfold ofText
    rw [denoted]
    exact outcome_read_scorePayload twoAndHalf
  have back : (Json.Number.float twoAndHalf).IsReadBack := by
    unfold Json.Number.IsReadBack
    decide +kernel
  obtain ⟨notRefused, equal⟩ := (stored_text_is_read_again scoreCatalog_isStandard stored).2
    -- The bound is the only number in the filter.
    fun x hx => by
      cases List.mem_singleton.1 hx
      exact back
  exact ⟨scoreCatalog_isStandard, _, stored, notRefused, equal fun t ht => by cases ht⟩

end Filter

end Sift
