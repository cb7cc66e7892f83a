/-
  Sift.Proofs.Filter.Forms
  ────────────────────────
  **No form shows in what is written.**

  A list form writes the items of a list by its item form, and writes anything else by its own
  type; an operand writes the items of a list by their own types.  The one recursion follows the
  form as far as the operand goes along with it, the other the operand alone, and both end in the
  same raw value, whether or not form and operand go together:

      form.write o  =  o.toJson

  So the raw value and the payload of a criterion show its operand and not its form.  Resolvers
  that differ in the forms of their operators alone can be told apart by what they read, but
  neither by what they write nor by what the criteria admit.

  Main results:
    * `Form.write_eq_toJson`
    * `Criterion.Counterpart.passesFor` — criteria that two such resolvers have found alike.
    * `Filter.writing_shows_no_form`.
-/
import Sift.Proofs.Filter.Construction
import Sift.Proofs.Filter.Verdict
import Sift.Proofs.Operator.Table
import Sift.Proofs.Subject.Catalog

namespace Sift

open Outcome

/-! ## §1. Operands -/

namespace Form

/-- **What a form writes is the raw JSON of the operand**, whatever the form. -/
theorem write_eq_toJson (form : Form) (o : Operand) : form.write o = o.toJson := by
  -- Induction on the form; where form or operand is no list, the operand is on its own at once.
  induction form generalizing o with
  | list item length ih =>
    cases o with
    | list items =>
      calc (list item length).write (.list items)
          = .arr (items.map item.write) := rfl
        _ = .arr (items.map Operand.toJson) :=
          congrArg Json.arr (List.map_congr_left fun o _ => ih o)
        _ = (Operand.list items).toJson := by rw [Operand.toJson, Operand.itemsToJson_eq_map]
    | _ => rfl
  | _ => rfl

theorem write_codec (form : Form) : form.codec.write = Operand.toJson :=
  funext form.write_eq_toJson

end Form

/-! ## §2. Differing in forms -/

/-- **Two operators differ in their forms at most**: they have one identifier and one test, and the
same codec, or each the codec of a form. -/
structure Operator.SameButForm (op op' : Operator) : Prop where
  id : op.id = op'.id
  holds : op.holds = op'.holds
  codec : op.codec = op'.codec
    ∨ ∃ form form' : Form, op.codec = some form.codec ∧ op'.codec = some form'.codec

/-- **Two subjects differ in forms at most**: so do the operators that they give. -/
structure Subject.SameButForms (s s' : Subject) : Prop where
  id : s.id = s'.id
  value : s.value = s'.value
  operators : ∀ asked, Alike Operator.SameButForm (s.operator asked) (s'.operator asked)

/-- **Two resolvers differ in forms at most**: so do the subjects that they give. -/
def Resolver.SameButForms (resolver resolver' : Resolver) : Prop :=
  ∀ asked, Alike Subject.SameButForms (resolver asked) (resolver' asked)

/-- Two field subjects differ in forms at most: so do their operators, one by one. -/
structure FieldSubject.SameButForms (s s' : FieldSubject) : Prop where
  id : s.id = s'.id
  path : s.path = s'.path
  operators : List.Forall₂ Operator.SameButForm s.table.operators s'.table.operators

/-- Two catalogs differ in forms at most: so do their subjects, one by one. -/
def Catalog.SameButForms (catalog catalog' : Catalog) : Prop :=
  List.Forall₂ Subject.SameButForms catalog.subjects catalog'.subjects

/-- The operators of field subjects are found alike. -/
theorem FieldSubject.SameButForms.toSubject {s s' : FieldSubject} (same : s.SameButForms s') :
    s.toSubject.SameButForms s'.toSubject where
  id := same.id
  value := by
    unfold FieldSubject.toSubject
    rw [same.path]
  operators asked := by
    -- The identifiers agree, so the same place is found in both tables.
    have found : Option.Rel Operator.SameButForm (s.table.operators.find? (·.id == asked))
        (s'.table.operators.find? (·.id == asked)) :=
      rel_find? (fun _ _ related => related.id) same.operators asked
    show Alike _ (s.table.find asked) (s'.table.find asked)
    rw [OperatorTable.find_eq_elim, OperatorTable.find_eq_elim]
    exact .of_rel found _

/-- The subjects of catalogs are found alike. -/
theorem Catalog.SameButForms.find {catalog catalog' : Catalog}
    (same : catalog.SameButForms catalog') : Resolver.SameButForms catalog.find catalog'.find := by
  intro asked
  have found : Option.Rel Subject.SameButForms (catalog.get? asked) (catalog'.get? asked) :=
    rel_find? (fun _ _ related => related.id) same asked
  rw [find_eq_elim, find_eq_elim]
  exact .of_rel found _

/-- **Operators that differ in their forms take operands alike, and write them alike.** -/
theorem Operator.SameButForm.map_write {op op' : Operator} (same : op.SameButForm op') :
    op.codec.map Codec.write = op'.codec.map Codec.write := by
  rcases same.codec with equal | ⟨form, form', taken, taken'⟩
  · rw [equal]
  · rw [taken, taken', Option.map_some, Option.map_some, form.write_codec, form'.write_codec]

/-! ## §3. Criteria -/

namespace Criterion

section
variable (subject : Subject) (operator : Operator) (operand : Option Operand)

/-- A criterion that is built asks the codec for nothing but its writing. -/
theorem raw_of : (of subject operator operand).raw =
    (operator.codec.map Codec.write).bind operand.map := by
  unfold of
  rw [raw_withRaw]
  cases operator.codec <;> rfl

/-- Whether it keeps the operand depends on there being a codec. -/
theorem operand_of : (of subject operator operand).operand =
    (operator.codec.map Codec.write).bind fun _ => operand := by
  unfold of
  rw [operand_withRaw]
  cases operator.codec <;> rfl

end

/-- Codecs that write alike write the same for an operand, or for none. -/
theorem written_congr {codec codec' : Codec} (same : codec.write = codec'.write)
    (operand : Option Operand) : written codec operand = written codec' operand := by
  unfold written
  rw [same]

/-- **A payload shows identifiers, and what is written for the operand.** -/
theorem toJson_congr {a b : Criterion} (subject : a.subject.id = b.subject.id)
    (operator : a.operator.id = b.operator.id) (operand : a.operand = b.operand)
    (write : a.operator.codec.map Codec.write = b.operator.codec.map Codec.write) :
    a.toJson = b.toJson := by
  -- Where one operator has a codec the other has one too, and it writes alike.
  cases taken : a.operator.codec with
  | none =>
    rw [taken, Option.map_none, eq_comm, Option.map_eq_none_iff] at write
    rw [toJson_bare taken, toJson_bare write, subject, operator]
  | some codec =>
    rw [taken, Option.map_some, eq_comm, Option.map_eq_some_iff] at write
    obtain ⟨codec', taken', same⟩ := write
    rw [toJson_taken taken, toJson_taken taken', subject, operator, operand, written_congr same]

/-- The payload of a criterion with a form has the raw JSON of the operand, or null. -/
theorem toJson_of_form {criterion : Criterion} {form : Form}
    (taken : criterion.operator.codec = some form.codec) :
    criterion.toJson =
      .obj [("choice", .str criterion.subject.id), ("op", .str criterion.operator.id),
        ("value", (criterion.operand.map Operand.toJson).getD .null)] := by
  have value : written form.codec criterion.operand =
      (criterion.operand.map Operand.toJson).getD .null := by
    cases criterion.operand with
    | none => rfl
    | some o => exact form.write_eq_toJson o
  rw [toJson_taken taken, value]

/-- **One criterion is the counterpart of another**: two resolvers have found their subjects, and
these their operators, under the same identifiers, and the operand is the same. -/
structure Counterpart (resolver resolver' : Resolver) (a b : Criterion) : Prop where
  subject : ∃ asked, resolver asked = .ok a.subject ∧ resolver' asked = .ok b.subject
  operator : ∃ asked, a.subject.operator asked = .ok a.operator
    ∧ b.subject.operator asked = .ok b.operator
  operand : a.operand = b.operand

section
variable {resolver resolver' : Resolver} (same : resolver.SameButForms resolver')

include same

/-- **Counterparts pass for one another** where the resolvers differ in forms at most. -/
theorem Counterpart.passesFor {a b : Criterion} (h : Counterpart resolver resolver' a b) :
    PassesFor a b := by
  -- The two were asked for the same, so they answered with what differs in forms at most.
  obtain ⟨asked, found, found'⟩ := h.subject
  obtain ⟨wanted, given, given'⟩ := h.operator
  have subject : a.subject.SameButForms b.subject := (same asked).related found found'
  have operator : a.operator.SameButForm b.operator :=
    (subject.operators wanted).related given given'
  refine ⟨toJson_congr subject.id operator.id h.operand operator.map_write, fun data => ?_, ?_⟩
  · unfold admits
    rw [subject.value, operator.holds, h.operand]
  · unfold sameAs NoNaN
    rw [subject.id, operator.id, h.operand, beq_self_eq_true, beq_self_eq_true]
    exact sameOptional_self_iff

/-- **What is built with one resolver can be built with the other**, as a counterpart with the same
raw value. -/
theorem exists_counterpart_of {subjectId operatorId : String} {subject : Subject}
    {operator : Operator} (found : resolver subjectId = .ok subject)
    (given : subject.operator operatorId = .ok operator) :
    ∃ subject' operator', resolver' subjectId = .ok subject'
      ∧ subject'.operator operatorId = .ok operator'
      ∧ ∀ operand, Counterpart resolver resolver' (of subject operator operand)
            (of subject' operator' operand)
          ∧ (of subject operator operand).raw = (of subject' operator' operand).raw := by
  obtain ⟨subject', found', subjects⟩ := (same subjectId).exists_ok found
  obtain ⟨operator', given', operators⟩ := (subjects.operators operatorId).exists_ok given
  refine ⟨subject', operator', found', given', fun operand => ?_⟩
  -- A criterion built from parts keeps them, the raw value apart, which its codec writes.
  have kept := keeps_of subject operator operand
  have kept' := keeps_of subject' operator' operand
  refine ⟨⟨⟨subjectId, ?_⟩, ⟨operatorId, ?_⟩, ?_⟩, ?_⟩
  · rw [kept.subject, kept'.subject]
    exact ⟨found, found'⟩
  · rw [kept.subject, kept.operator, kept'.subject, kept'.operator]
    exact ⟨given, given'⟩
  · rw [operand_of, operand_of, operators.map_write]
  · rw [raw_of, raw_of, operators.map_write]

end

/-- Criteria that two resolvers have read from one fragment are counterparts where they have the
same operand. -/
theorem counterpart_of_readFrom {resolver resolver' : Resolver} {fragment : Json} {a b : Criterion}
    (read : ReadFrom resolver fragment a) (read' : ReadFrom resolver' fragment b)
    (operand : a.operand = b.operand) : Counterpart resolver resolver' a b where
  subject := by
    obtain ⟨key, given, found⟩ := read.subject
    obtain ⟨key', given', found'⟩ := read'.subject
    rw [given] at given'
    cases given'
    exact ⟨key.shown, found, found'⟩
  operator := by
    obtain ⟨key, given, found⟩ := read.operator
    obtain ⟨key', given', found'⟩ := read'.operator
    rw [given] at given'
    cases given'
    exact ⟨key.shown, found, found'⟩
  operand := operand

end Criterion

/-! ## §4. Filters -/

namespace Filter

open Criterion

/-- **One filter is the counterpart of another**: criterion by criterion, under the same mode. -/
structure Counterpart (resolver resolver' : Resolver) (filter other : Filter) : Prop where
  mode : filter.mode = other.mode
  criteria : List.Forall₂ (Criterion.Counterpart resolver resolver') filter.criteria
    other.criteria

section
variable {resolver resolver' : Resolver} (same : resolver.SameButForms resolver')
  {filter other : Filter} (h : Counterpart resolver resolver' filter other)

include same h

theorem Counterpart.toJson_eq : filter.toJson = other.toJson := by
  have payloads : filter.criteria.map (·.toJson) = other.criteria.map (·.toJson) := by
    rw [← List.forall₂_eq_eq_eq, List.forall₂_map_left_iff, List.forall₂_map_right_iff]
    exact h.criteria.imp fun _ _ twin => (twin.passesFor same).written
  unfold toJson
  rw [h.mode, payloads]

theorem Counterpart.admits_eq (data : Json) : filter.admits data = other.admits data := by
  rw [admits_eq_combine, admits_eq_combine, h.mode]
  exact Mode.combine_congr _ (h.criteria.imp fun _ _ twin => (twin.passesFor same).admits data)

end

/-- **NO FORM SHOWS IN WHAT IS WRITTEN.**

* Every form writes every operand as its raw JSON, whether or not they go together, at any depth of
  lists;
* so the raw value of a criterion that is built with a form is the raw JSON of its operand, and the
  payload of a criterion with a form has that, or null where there is no operand;
* let two resolvers differ at most in the forms of their operators.  What is built with one can be
  built with the other, with the same raw value; criteria of the same operand that were built or
  read under the same identifiers pass for one another; and filters of such criteria have the same
  payload and the same text, and admit the same data.
* Catalogs whose subjects differ at most in forms, one by one, are such resolvers. -/
theorem writing_shows_no_form :
    (∀ (form : Form) (o : Operand), form.write o = o.toJson)
    ∧ (∀ (form : Form) (operator : Operator), operator.codec = some form.codec →
        ∀ subject operand,
          (Criterion.of subject operator operand).raw = operand.map Operand.toJson)
    ∧ (∀ (form : Form) (criterion : Criterion), criterion.operator.codec = some form.codec →
        criterion.toJson =
          .obj [("choice", .str criterion.subject.id), ("op", .str criterion.operator.id),
            ("value", (criterion.operand.map Operand.toJson).getD .null)])
    ∧ (∀ resolver resolver' : Resolver, resolver.SameButForms resolver' →
        (∀ subjectId operatorId subject operator, resolver subjectId = .ok subject →
          subject.operator operatorId = .ok operator →
          ∃ subject' operator', resolver' subjectId = .ok subject'
            ∧ subject'.operator operatorId = .ok operator'
            ∧ ∀ operand, Criterion.Counterpart resolver resolver'
                  (Criterion.of subject operator operand)
                  (Criterion.of subject' operator' operand)
                ∧ (Criterion.of subject operator operand).raw =
                    (Criterion.of subject' operator' operand).raw)
        ∧ (∀ fragment a b, ReadFrom resolver fragment a → ReadFrom resolver' fragment b →
            a.operand = b.operand → Criterion.Counterpart resolver resolver' a b)
        ∧ (∀ a b, Criterion.Counterpart resolver resolver' a b → PassesFor a b)
        ∧ ∀ filter other, Counterpart resolver resolver' filter other →
            filter.toJson = other.toJson ∧ filter.text = other.text
              ∧ ∀ data, filter.admits data = other.admits data)
    ∧ ∀ catalog catalog' : Catalog, catalog.SameButForms catalog' →
        Resolver.SameButForms catalog.find catalog'.find := by
  refine ⟨Form.write_eq_toJson, fun form operator taken subject operand => ?_,
    fun form criterion => toJson_of_form, fun resolver resolver' same => ⟨?_, ?_, ?_, ?_⟩,
    fun catalog catalog' same => same.find⟩
  · rw [raw_of, taken, Option.map_some, form.write_codec]
    rfl
  · intro subjectId operatorId subject operator found given
    exact exists_counterpart_of same found given
  · intro fragment a b read read' operand
    exact counterpart_of_readFrom read read' operand
  · intro a b twin
    exact twin.passesFor same
  · -- Equal JSON is written as equal text.
    intro filter other twin
    have written := twin.toJson_eq same
    exact ⟨written, congrArg Json.text written, twin.admits_eq same⟩

/-- The test of equality, with the codec of a form. -/
def isWith (form : Form) : Operator :=
  ((StandardOperator.of .is).withCodec (some form.codec)).toOperator

/-- A field subject with that test only. -/
def labelField (form : Form) : FieldSubject :=
  (FieldSubject.of "label").withOperator (isWith form)

/-- The catalog of that subject. -/
def labelCatalog (form : Form) : Catalog :=
  ⟨[(labelField form).toSubject], List.pairwise_singleton _ _⟩

/-- The catalogs of any two forms differ in these. -/
theorem labelCatalog_sameButForms (form form' : Form) :
    (labelCatalog form).SameButForms (labelCatalog form') := by
  have operators : (isWith form).SameButForm (isWith form') :=
    ⟨rfl, rfl, .inr ⟨form, form', rfl, rfl⟩⟩
  have fields : (labelField form).SameButForms (labelField form') :=
    ⟨rfl, rfl, .cons operators .nil⟩
  exact .cons fields.toSubject .nil

/-- The criterion that the label is an operand, under a form. -/
def labelIs (form : Form) (o : Operand) : Criterion :=
  .of (labelField form).toSubject (isWith form) (some o)

/-- Lists of pairs of texts. -/
def pairsOfTexts : Form := .list (.list .text (some 2)) none

/-- A list of a pair of texts, and of three items that are no such pair. -/
def mixedItems : Operand :=
  .list [.list [.text "a", .text "b"], .list [.number .nan], .truth true, .integer (-7)]

/-- The filter of that criterion alone. -/
def labelFilter (form : Form) (o : Operand) : Filter := ⟨.all, [labelIs form o]⟩

/-- Under lists of pairs of texts and under instants, an operand that fits neither is written
alike. -/
theorem writing_shows_no_form_mixed :
    pairsOfTexts.write mixedItems = Form.instant.write mixedItems
    ∧ (labelIs pairsOfTexts mixedItems).raw =
        some (.arr [.arr [.str "a", .str "b"], .arr [.null], .bool true, .ofSignedWord (-7)])
    ∧ Resolver.SameButForms (labelCatalog pairsOfTexts).find (labelCatalog .instant).find
    ∧ (labelFilter pairsOfTexts mixedItems).text = (labelFilter .instant mixedItems).text := by
  obtain ⟨write, raw, -, written, catalogs⟩ := writing_shows_no_form
  have differ := catalogs _ _ (labelCatalog_sameButForms pairsOfTexts .instant)
  have criteria : Criterion.Counterpart (labelCatalog pairsOfTexts).find
      (labelCatalog .instant).find (labelIs pairsOfTexts mixedItems)
      (labelIs .instant mixedItems) :=
    ⟨⟨"label", rfl, rfl⟩, ⟨"is", rfl, rfl⟩, rfl⟩
  have filters : Counterpart (labelCatalog pairsOfTexts).find (labelCatalog .instant).find
      (labelFilter pairsOfTexts mixedItems) (labelFilter .instant mixedItems) :=
    ⟨rfl, List.Forall₂.cons criteria List.Forall₂.nil⟩
  refine ⟨?_, raw pairsOfTexts (isWith pairsOfTexts) rfl _ _, differ,
    ((written _ _ differ).2.2.2 _ _ filters).2.1⟩
  rw [write, write]

end Filter

end Sift
