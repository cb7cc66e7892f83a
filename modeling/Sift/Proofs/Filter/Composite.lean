/-
  Sift.Proofs.Filter.Composite
  ────────────────────────────
  **Composite comparisons stand for filters of simple ones.**

  A comparison with a list of operands asks what several criteria ask, from the payload on: the
  items of its operand are read by the form that the simple comparison has, null and everything
  else that is no operand included, and the verdict is that of the simple ones under a mode:

      one_of [v, …]      any of  is v, …
      not_one_of [v, …]  all of  is_not v, …
      between [a, b]     all of  greater_than_or_equal a, less_than_or_equal b

  Main results:
    * `Criterion.readFrom_fragment_iff` — when a fragment under a usual form is read, and as
      what.
    * `Filter.outcome_read_payload_iff` — a filter corresponds to its fragments one by one.
    * `Filter.composite_stands_for_simple`.
-/
import Sift.Proofs.Comparison.Numbers
import Sift.Proofs.Filter.Reading
import Sift.Proofs.Filter.Verdict
import Sift.Proofs.Operand.Rereading

namespace Sift

open Outcome

/-! ## §1. Lists of raw values -/

/-- **An array is read as a list** exactly when its length is allowed and its items are read
by the form of the items. -/
theorem Form.read_list_eq_ok_iff {item : Form} {length : Option UInt64} {raws : List Json}
    {o : Operand} :
    (Form.list item length).read (.arr raws) = .ok o ↔
      checkLength length raws.length = .ok ()
        ∧ ∃ items, List.Forall₂ (fun raw i => item.read raw = .ok i) raws items
          ∧ .list items = o := by
  -- The position an item is read at shows in its error alone.
  have items_iff : ∀ items, readItems item.read 0 raws = .ok items ↔
      List.Forall₂ (fun raw i => item.read raw = .ok i) raws items := by
    intro items
    rw [readItems_eq_inOrder]
    exact inOrder_eq_ok_iff_forall₂ fun _ _ _ => mapError_eq_ok_iff
  show readList item.read length (.arr raws) = .ok o ↔ _
  rw [readList_eq, bind_eq_ok_iff]
  simp only [map_eq_ok_iff, items_iff]
  constructor
  · intro found
    obtain ⟨⟨⟩, allowed, read⟩ := found
    exact ⟨allowed, read⟩
  · intro found
    obtain ⟨allowed, read⟩ := found
    exact ⟨(), allowed, read⟩

/-- An array of two is read as a list of two exactly when both items are read. -/
theorem Form.read_pair_eq_ok_iff {item : Form} {a b : Json} {o : Operand} :
    (Form.list item (some 2)).read (.arr [a, b]) = .ok o ↔
      ∃ x y, item.read a = .ok x ∧ item.read b = .ok y ∧ .list [x, y] = o := by
  rw [read_list_eq_ok_iff]
  constructor
  · intro found
    obtain ⟨-, items, each, same⟩ := found
    simp only [List.forall₂_cons_left_iff, List.forall₂_nil_left_iff] at each
    obtain ⟨x, -, hx, ⟨y, -, hy, rfl, rfl⟩, rfl⟩ := each
    exact ⟨x, y, hx, hy, same⟩
  · intro found
    obtain ⟨x, y, hx, hy, same⟩ := found
    -- Two items are what the declared length asks for.
    exact ⟨rfl, [x, y], .cons hx (.cons hy .nil), same⟩

/-! ## §2. Fragments and payloads -/

/-- The payload of a filter with the given fragments. -/
def Filter.payload (mode : Mode) (fragments : List Json) : Json :=
  .object [("mode", .str mode.name), ("conditions", .arr fragments)]

/-- **A filter corresponds to its fragments**: it has the mode and, one by one, the criteria
that they are read as. -/
theorem Filter.outcome_read_payload_iff {resolver : Resolver} {mode : Mode}
    {fragments : List Json} {filter : Filter} :
    (Filter.read resolver (payload mode fragments)).outcome = .ok filter ↔
      filter.mode = mode
        ∧ List.Forall₂ (Criterion.ReadFrom resolver) fragments filter.criteria := by
  have named : (payload mode fragments).get? "mode" = some (.str mode.name) := by
    simp [payload, Json.object, Json.get?, Json.lookup_insertMember]
  have given : (payload mode fragments).get? "conditions" = some (.arr fragments) := by
    simp [payload, Json.object, Json.get?, Json.lookup_insertMember]
  have read_iff : ∀ criteria, inOrder (Criterion.readAt resolver) 0 fragments = .ok criteria ↔
      List.Forall₂ (Criterion.ReadFrom resolver) fragments criteria := by
    intro criteria
    -- A success is the same at every position.
    refine inOrder_eq_ok_iff_forall₂ ?_
    intro k fragment criterion
    exact Criterion.outcome_read_eq_ok_iff (some k)
  rw [outcome_read_array resolver named given, map_eq_ok_iff]
  simp only [read_iff]
  constructor
  · intro found
    obtain ⟨criteria, each, rfl⟩ := found
    exact ⟨rfl, each⟩
  · intro found
    obtain ⟨rfl, each⟩ := found
    exact ⟨filter.criteria, each, rfl⟩

/-- **The subject has the operator of a comparison**, under its name and with its usual form. -/
def Subject.Carries (subject : Subject) (k : Comparison) : Prop :=
  subject.operator k.name = .ok (StandardOperator.of k).toOperator

namespace Criterion

/-- The fragment that compares a subject with a raw value. -/
def fragment (id : String) (k : Comparison) (raw : Json) : Json :=
  .object [("choice", .str id), ("op", .str k.name), ("value", raw)]

section
variable (id : String) (k : Comparison) (raw : Json)

@[simp] theorem get?_choice_fragment : (fragment id k raw).get? "choice" = some (.str id) := by
  simp [fragment, Json.object, Json.get?, Json.lookup_insertMember]

@[simp] theorem get?_op_fragment : (fragment id k raw).get? "op" = some (.str k.name) := by
  simp [fragment, Json.object, Json.get?, Json.lookup_insertMember]

@[simp] theorem get?_value_fragment : (fragment id k raw).get? "value" = some raw := by
  simp [fragment, Json.object, Json.get?, Json.lookup_insertMember]

end

/-- **The fragment is read**, at that position. -/
def Readable (resolver : Resolver) (position : Option Nat) (fragment : Json) : Prop :=
  ∃ criterion, (read resolver fragment position).outcome = .ok criterion

/-- The criterion that compares a subject with an operand. -/
def usual (subject : Subject) (k : Comparison) (o : Operand) (raw : Json) : Criterion :=
  withRaw subject (StandardOperator.of k).toOperator (some o) (some raw)

section
variable {resolver : Resolver} {id : String} {subject : Subject} {k : Comparison} {form : Form}
  (found : resolver id = .ok subject) (carries : subject.Carries k)
  (usualForm : k.defaultForm? = some form)

include usualForm

/-- The operator of the comparison has the codec of the usual form. -/
theorem codec_of_defaultForm? :
    (StandardOperator.of k).toOperator.codec = some form.codec := by
  show k.defaultForm?.map Form.codec = _
  rw [usualForm, Option.map_some]

/-- The criterion of a comparison has its verdict. -/
theorem admits_usual (o : Operand) (raw data : Json) :
    (usual subject k o raw).admits data = k.holds (subject.value data) (some o) := by
  unfold admits usual
  rw [operator_withRaw, subject_withRaw, operand_withRaw, codec_of_defaultForm? usualForm]
  rfl

include found carries

/-- **A fragment is read as the comparison with what the usual form reads**, and is refused
where the form refuses the raw value. -/
theorem outcome_read_fragment_eq_ok_iff {raw : Json} {criterion : Criterion}
    {position : Option Nat} :
    (read resolver (fragment id k raw) position).outcome = .ok criterion ↔
      ∃ o, form.read raw = .ok o ∧ usual subject k o raw = criterion := by
  rw [outcome_read_found (get?_choice_fragment id k raw) found (get?_op_fragment id k raw)
    carries, get?_value_fragment, outcome_readValue_some (codec_of_defaultForm? usualForm),
    map_eq_ok_iff]
  simp only [mapError_eq_ok_iff, Form.codec]
  rfl

/-- The fragment is read exactly when the usual form reads the raw value. -/
theorem readable_fragment_iff {raw : Json} {position : Option Nat} :
    Readable resolver position (fragment id k raw) ↔ ∃ o, form.read raw = .ok o := by
  simp only [Readable, outcome_read_fragment_eq_ok_iff found carries usualForm]
  constructor
  · intro h
    obtain ⟨-, o, hread, -⟩ := h
    exact ⟨o, hread⟩
  · intro h
    obtain ⟨o, hread⟩ := h
    exact ⟨_, o, hread, rfl⟩

/-- What a fragment has found, where its value is read as an operand. -/
theorem readFrom_fragment {raw : Json} {o : Operand} (hread : form.read raw = .ok o) :
    ReadFrom resolver (fragment id k raw) (usual subject k o raw) :=
  (outcome_read_eq_ok_iff none).1
    ((outcome_read_fragment_eq_ok_iff found carries usualForm).2 ⟨o, hread, rfl⟩)

end

end Criterion

/-! ## §3. One fragment for several -/

namespace Filter

/-- **A fragment stands for several under a mode**: it is read as a criterion and they as a
filter, and the two admit the same data. -/
def StandsFor (resolver : Resolver) (position : Option Nat) (composite : Json) (mode : Mode)
    (fragments : List Json) : Prop :=
  ∃ criterion filter, (Criterion.read resolver composite position).outcome = .ok criterion
    ∧ (read resolver (payload mode fragments)).outcome = .ok filter
    ∧ ∀ data, criterion.admits data = filter.admits data

section
variable {resolver : Resolver} {id : String} {subject : Subject}
  (found : resolver id = .ok subject)

include found

/-- Raw values that are read one by one have criteria of one comparison, which have its
verdicts on the operands. -/
theorem exists_criteria {k : Comparison} {form : Form} (carries : subject.Carries k)
    (usualForm : k.defaultForm? = some form) {raws : List Json} {items : List Operand}
    (each : List.Forall₂ (fun raw o => form.read raw = .ok o) raws items) :
    ∃ criteria, List.Forall₂ (Criterion.ReadFrom resolver)
        (raws.map (Criterion.fragment id k)) criteria
      ∧ ∀ data, List.Forall₂ (fun o c => k.holds (subject.value data) (some o) =
          Criterion.admits c data) items criteria := by
  -- One criterion for each raw value: the two lists grow together.
  induction each with
  | nil => exact ⟨[], .nil, fun _ => .nil⟩
  | @cons raw o raws items hread _ ih =>
    obtain ⟨criteria, fragments, verdicts⟩ := ih
    refine ⟨Criterion.usual subject k o raw :: criteria, ?_, ?_⟩
    · exact .cons (Criterion.readFrom_fragment found carries usualForm hread) fragments
    · intro data
      exact .cons (Criterion.admits_usual usualForm o raw data).symm (verdicts data)

/-! ### Lists of any length -/

section
variable {k simple : Comparison} {item : Form}
  (carries : subject.Carries k) (usualForm : k.defaultForm? = some (.list item none))
  (carriesSimple : subject.Carries simple) (usualItem : simple.defaultForm? = some item)

include carries usualForm carriesSimple usualItem

/-- A comparison with a list is read exactly when the simple comparison is read with each
item. -/
theorem readable_list_iff {raws : List Json} {position : Option Nat} :
    Criterion.Readable resolver position (Criterion.fragment id k (.arr raws)) ↔
      ∀ raw ∈ raws, Criterion.Readable resolver position (Criterion.fragment id simple raw) := by
  rw [Criterion.readable_fragment_iff found carries usualForm]
  simp only [Criterion.readable_fragment_iff found carriesSimple usualItem,
    ← exists_forall₂_iff, Form.read_list_eq_ok_iff]
  -- The usual list has no length of its own, so only an item can be refused.
  constructor
  · intro h
    obtain ⟨-, -, items, each, -⟩ := h
    exact ⟨items, each⟩
  · intro h
    obtain ⟨items, each⟩ := h
    exact ⟨.list items, rfl, items, each, rfl⟩

/-- **A comparison with a list stands for the simple ones**, where its verdict combines
theirs. -/
theorem standsFor_list (mode : Mode)
    (law : ∀ value items, k.holds value (some (.list items)) =
      mode.combine (fun o => simple.holds value (some o)) items)
    {raws : List Json} {position : Option Nat}
    (readable : Criterion.Readable resolver position (Criterion.fragment id k (.arr raws))) :
    StandsFor resolver position (Criterion.fragment id k (.arr raws)) mode
      (raws.map (Criterion.fragment id simple)) := by
  obtain ⟨o, hread⟩ := (Criterion.readable_fragment_iff found carries usualForm).1 readable
  obtain ⟨-, items, each, rfl⟩ := Form.read_list_eq_ok_iff.1 hread
  obtain ⟨criteria, fragments, verdicts⟩ := exists_criteria found carriesSimple usualItem each
  -- The criterion of the list, and the filter of the criteria of its items.
  refine ⟨Criterion.usual subject k (.list items) (.arr raws), ⟨mode, criteria⟩,
    (Criterion.outcome_read_fragment_eq_ok_iff found carries usualForm).2 ⟨_, hread, rfl⟩,
    outcome_read_payload_iff.2 ⟨rfl, fragments⟩, ?_⟩
  intro data
  calc (Criterion.usual subject k (.list items) (.arr raws)).admits data
      = k.holds (subject.value data) (some (.list items)) :=
        Criterion.admits_usual usualForm _ _ data
    _ = mode.combine (fun o => simple.holds (subject.value data) (some o)) items := law _ _
    _ = mode.combine (·.admits data) criteria := Mode.combine_congr _ (verdicts data)

end

/-! ### Two bounds -/

section
variable (carries : subject.Carries .between)
  (carriesLeast : subject.Carries .greaterThanOrEqual)
  (carriesGreatest : subject.Carries .lessThanOrEqual) {a b : Json} {position : Option Nat}

include carries carriesLeast carriesGreatest

/-- A range is read exactly when both bounds are read as numbers. -/
theorem readable_between_iff :
    Criterion.Readable resolver position (Criterion.fragment id .between (.arr [a, b])) ↔
      Criterion.Readable resolver position (Criterion.fragment id .greaterThanOrEqual a)
        ∧ Criterion.Readable resolver position (Criterion.fragment id .lessThanOrEqual b) := by
  rw [Criterion.readable_fragment_iff found carries rfl,
    Criterion.readable_fragment_iff found carriesLeast rfl,
    Criterion.readable_fragment_iff found carriesGreatest rfl]
  simp only [Form.read_pair_eq_ok_iff]
  constructor
  · intro h
    -- The pair reads its ends with the form that the single bounds are read with.
    obtain ⟨-, x, y, hx, hy, -⟩ := h
    exact ⟨⟨x, hx⟩, y, hy⟩
  · intro h
    obtain ⟨⟨x, hx⟩, y, hy⟩ := h
    exact ⟨_, x, y, hx, hy, rfl⟩

/-- **A range stands for its two bounds.** -/
theorem standsFor_between
    (readable : Criterion.Readable resolver position
      (Criterion.fragment id .between (.arr [a, b]))) :
    StandsFor resolver position (Criterion.fragment id .between (.arr [a, b])) .all
      [Criterion.fragment id .greaterThanOrEqual a, Criterion.fragment id .lessThanOrEqual b] := by
  obtain ⟨o, hread⟩ := (Criterion.readable_fragment_iff found carries rfl).1 readable
  obtain ⟨x, y, hx, hy, rfl⟩ := Form.read_pair_eq_ok_iff.1 hread
  -- The two criteria are read from the ends of the pair, with the operands the pair was read to.
  let least := Criterion.usual subject .greaterThanOrEqual x a
  let greatest := Criterion.usual subject .lessThanOrEqual y b
  refine ⟨Criterion.usual subject .between (.list [x, y]) (.arr [a, b]),
    ⟨.all, [least, greatest]⟩,
    (Criterion.outcome_read_fragment_eq_ok_iff found carries rfl).2 ⟨_, hread, rfl⟩,
    outcome_read_payload_iff.2 ⟨rfl, .cons ?_ (.cons ?_ .nil)⟩, ?_⟩
  · exact Criterion.readFrom_fragment found carriesLeast rfl hx
  · exact Criterion.readFrom_fragment found carriesGreatest rfl hy
  · intro data
    have both : (Filter.mk .all [least, greatest]).admits data =
        (least.admits data && (greatest.admits data && true)) := rfl
    rw [both, Bool.and_true, Criterion.admits_usual rfl, Criterion.admits_usual rfl,
      Criterion.admits_usual rfl, Comparison.holds_between_pair]

end

/-- **COMPOSITE COMPARISONS STAND FOR FILTERS OF SIMPLE ONES.**  Let a subject have the operators
of the seven comparisons with their usual forms.  For all raw values, `one_of` and `not_one_of`
are read with their list exactly when `is` is read with each, and then admit the same data as
any `is` and as all `is_not`; and `between` is read with two raw values exactly when the two
bounds are, and then admits the same data as both. -/
theorem composite_stands_for_simple
    (carries : ∀ k ∈ [Comparison.is, .isNot, .oneOf, .notOneOf, .between, .greaterThanOrEqual,
      .lessThanOrEqual], subject.Carries k) (position : Option Nat) :
    (∀ raws : List Json,
      (Criterion.Readable resolver position (Criterion.fragment id .oneOf (.arr raws)) ↔
        ∀ raw ∈ raws, Criterion.Readable resolver position (Criterion.fragment id .is raw))
      ∧ (Criterion.Readable resolver position (Criterion.fragment id .notOneOf (.arr raws)) ↔
        ∀ raw ∈ raws, Criterion.Readable resolver position (Criterion.fragment id .is raw))
      ∧ (Criterion.Readable resolver position (Criterion.fragment id .oneOf (.arr raws)) →
        StandsFor resolver position (Criterion.fragment id .oneOf (.arr raws)) .any
          (raws.map (Criterion.fragment id .is)))
      ∧ (Criterion.Readable resolver position (Criterion.fragment id .notOneOf (.arr raws)) →
        StandsFor resolver position (Criterion.fragment id .notOneOf (.arr raws)) .all
          (raws.map (Criterion.fragment id .isNot))))
    ∧ ∀ a b : Json,
      (Criterion.Readable resolver position (Criterion.fragment id .between (.arr [a, b])) ↔
        Criterion.Readable resolver position (Criterion.fragment id .greaterThanOrEqual a)
          ∧ Criterion.Readable resolver position (Criterion.fragment id .lessThanOrEqual b))
      ∧ (Criterion.Readable resolver position (Criterion.fragment id .between (.arr [a, b])) →
        StandsFor resolver position (Criterion.fragment id .between (.arr [a, b])) .all
          [Criterion.fragment id .greaterThanOrEqual a,
            Criterion.fragment id .lessThanOrEqual b]) := by
  have is := carries .is (by simp)
  have isNot := carries .isNot (by simp)
  have oneOf := carries .oneOf (by simp)
  have notOneOf := carries .notOneOf (by simp)
  have between := carries .between (by simp)
  have least := carries .greaterThanOrEqual (by simp)
  have greatest := carries .lessThanOrEqual (by simp)
  refine ⟨fun raws => ⟨?_, ?_, ?_, ?_⟩, fun a b => ⟨?_, ?_⟩⟩
  · exact readable_list_iff found oneOf rfl is rfl
  · exact readable_list_iff found notOneOf rfl is rfl
  · intro readable
    exact standsFor_list found oneOf rfl is rfl .any Comparison.holds_oneOf_list readable
  · intro readable
    exact standsFor_list found notOneOf rfl isNot rfl .all Comparison.holds_notOneOf_list
      readable
  · exact readable_between_iff found between least greatest
  · exact standsFor_between found between least greatest

end

/-- A field with the operators of the seven comparisons. -/
def branchField : FieldSubject :=
  [Comparison.is, .isNot, .oneOf, .notOneOf, .between, .greaterThanOrEqual, .lessThanOrEqual]
    |>.foldl (fun field k => field.withOperator (StandardOperator.of k).toOperator)
      (FieldSubject.of "pr.branch")

/-- The resolver of that field. -/
def branchResolver : Resolver := fun id =>
  if id = "pr.branch" then .ok branchField.toSubject else .error (.noSubject id)

/-- A list of two stands for two criteria, under either comparison, and so does a range; the empty
list stands for none.  A list with null is refused, as `is` is with null. -/
theorem composite_stands_for_simple_branches :
    StandsFor branchResolver none
      (Criterion.fragment "pr.branch" .oneOf (.arr [.str "main", .str "release"])) .any
      [Criterion.fragment "pr.branch" .is (.str "main"),
        Criterion.fragment "pr.branch" .is (.str "release")]
    ∧ StandsFor branchResolver none
      (Criterion.fragment "pr.branch" .notOneOf (.arr [.str "main", .str "release"])) .all
      [Criterion.fragment "pr.branch" .isNot (.str "main"),
        Criterion.fragment "pr.branch" .isNot (.str "release")]
    ∧ StandsFor branchResolver none
      (Criterion.fragment "pr.branch" .between (.arr [.ofSignedWord 1, .ofSignedWord 5])) .all
      [Criterion.fragment "pr.branch" .greaterThanOrEqual (.ofSignedWord 1),
        Criterion.fragment "pr.branch" .lessThanOrEqual (.ofSignedWord 5)]
    ∧ StandsFor branchResolver none (Criterion.fragment "pr.branch" .oneOf (.arr [])) .any []
    ∧ ¬ Criterion.Readable branchResolver none
      (Criterion.fragment "pr.branch" .oneOf (.arr [.str "main", .null])) := by
  have carries : ∀ k ∈ [Comparison.is, .isNot, .oneOf, .notOneOf, .between, .greaterThanOrEqual,
      .lessThanOrEqual], branchField.toSubject.Carries k := by
    simp only [List.forall_mem_cons]
    exact ⟨rfl, rfl, rfl, rfl, rfl, rfl, rfl, by simp⟩
  have found : branchResolver "pr.branch" = .ok branchField.toSubject := rfl
  obtain ⟨lists, ranges⟩ := composite_stands_for_simple found carries none
  have texts : ∀ raw ∈ [Json.str "main", .str "release"], Criterion.Readable branchResolver none
      (Criterion.fragment "pr.branch" .is raw) := by
    simp only [List.forall_mem_cons, List.not_mem_nil, false_implies, implies_true, and_true]
    exact ⟨⟨_, rfl⟩, ⟨_, rfl⟩⟩
  -- Without bounds every number is read.
  have number (n : Json.Number) : ∃ o, (Form.number none none).read (.num n) = .ok o := by
    refine ⟨.number n.toBinary64, ?_⟩
    show Form.readNumber none none (.num n) = _
    unfold Form.readNumber
    rw [Json.numeric?_num]
    rfl
  have numbers : Criterion.Readable branchResolver none
        (Criterion.fragment "pr.branch" .greaterThanOrEqual (.ofSignedWord 1))
      ∧ Criterion.Readable branchResolver none
        (Criterion.fragment "pr.branch" .lessThanOrEqual (.ofSignedWord 5)) :=
    ⟨(Criterion.readable_fragment_iff found (carries _ (by simp)) rfl).2 (number _),
      (Criterion.readable_fragment_iff found (carries _ (by simp)) rfl).2 (number _)⟩
  obtain ⟨readable, readableNot, stands, standsNot⟩ := lists [.str "main", .str "release"]
  refine ⟨stands (readable.2 texts), standsNot (readableNot.2 texts),
    (ranges _ _).2 ((ranges _ _).1.2 numbers), (lists []).2.2.1 ((lists []).1.2 (by simp)), ?_⟩
  rw [(lists [.str "main", .null]).1]
  intro each
  obtain ⟨criterion, h⟩ := each .null (by simp)
  cases h

end Filter

end Sift
