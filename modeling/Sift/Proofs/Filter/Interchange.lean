/-
  Sift.Proofs.Filter.Interchange
  ──────────────────────────────
  **Equal operands are interchangeable.**

  Equality of operands is a loop of its own beside the fifteen tests: it compares numbers as
  numbers, so that the two zeros are equal and a NaN is equal to nothing, and patterns by their
  texts.  No test tells equal operands apart:

      numbers   — equal ones are ordered alike and near the same ones  (`indistinct_of_eq`)
      operands  — equal ones are the same, or two such numbers, or lists of equal items
                                                                       (`sameAs_cases`)
      tests     — each looks at operands by these alone                (`test_congr`)

  Equality itself is symmetric and transitive, and an operand equals itself exactly when no NaN
  occurs in it.

  Main result: `Criterion.equal_operands_interchange`.
-/
import Sift.Proofs.Comparison.Laws
import Sift.Proofs.Comparison.Shape
import Sift.Proofs.Filter.Criterion
import Sift.Proofs.Filter.Verdict
import Sift.Proofs.Operand.Items

namespace Sift

/-! ## §1. Numbers -/

namespace Binary64

/-- **Numbers that nothing tells apart**: they are ordered alike, equal to the same numbers and
near the same ones. -/
structure Indistinct (x y : Binary64) : Prop where
  lt_left : ∀ a : Binary64, a.lt x = a.lt y
  lt_right : ∀ a : Binary64, x.lt a = y.lt a
  eq_left : ∀ a : Binary64, a.eq x = a.eq y
  eq_right : ∀ a : Binary64, x.eq a = y.eq a
  near : ∀ a : Binary64, a.near x = a.near y

theorem Indistinct.refl (x : Binary64) : x.Indistinct x :=
  ⟨fun _ => rfl, fun _ => rfl, fun _ => rfl, fun _ => rfl, fun _ => rfl⟩

/-- **Equal numbers are indistinct**, the two zeros included. -/
theorem indistinct_of_eq {x y : Binary64} (h : x.eq y = true) : x.Indistinct y := by
  cases x with
  | nan => cases h
  | infinite p =>
    cases y with
    | infinite q =>
      obtain rfl : p = q := beq_iff_eq.1 h
      exact .refl _
    | _ => cases h
  | finite x =>
    cases y with
    | finite y =>
      -- Two finite numbers are only ever asked for their values.
      have same : x.toInt = y.toInt := beq_iff_eq.1 h
      refine ⟨?_, ?_, ?_, ?_, ?_⟩ <;> intro a <;> cases a <;>
        simp only [lt, eq, Binary64.near, sub, same]
    | _ => cases h

theorem eq_swap (x y : Binary64) : x.eq y = y.eq x := by
  cases x <;> cases y <;> first | rfl | exact Bool.beq_comm

theorem eq_self_iff {x : Binary64} : x.eq x = true ↔ x ≠ nan := by
  cases x <;> simp [eq]

/-- At most is told apart no better than less and equal. -/
theorem Indistinct.le_left {x y : Binary64} (h : x.Indistinct y) (a : Binary64) :
    a.le x = a.le y := by
  unfold le
  rw [h.lt_left, h.eq_left]

theorem Indistinct.le_right {x y : Binary64} (h : x.Indistinct y) (a : Binary64) :
    x.le a = y.le a := by
  unfold le
  rw [h.lt_right, h.eq_right]

end Binary64

/-! ## §2. Equality of operands -/

namespace Operand

/-- **Equal operands**: the same, or two equal numbers, or lists of equal items. -/
theorem sameAs_cases {a b : Operand} (h : a.sameAs b = true) :
    a = b ∨ (∃ x y, a = .number x ∧ b = .number y ∧ x.eq y = true)
      ∨ ∃ as bs, a = .list as ∧ b = .list bs
        ∧ List.Forall₂ (fun a b => a.sameAs b = true) as bs := by
  cases a with
  | truth p =>
    cases b with
    | truth q => exact Or.inl (congrArg truth (beq_iff_eq.1 h))
    | _ => cases h
  | integer p =>
    cases b with
    | integer q => exact Or.inl (congrArg integer (beq_iff_eq.1 h))
    | _ => cases h
  | number x =>
    cases b with
    | number y => exact Or.inr (Or.inl ⟨x, y, rfl, rfl, h⟩)
    | _ => cases h
  | text p =>
    cases b with
    | text q => exact Or.inl (congrArg text (beq_iff_eq.1 h))
    | _ => cases h
  | instant p =>
    cases b with
    | instant q => exact Or.inl (congrArg instant (beq_iff_eq.1 h))
    | _ => cases h
  | pattern p =>
    cases b with
    | pattern q =>
      -- A pattern is determined by its text.
      exact Or.inl (congrArg pattern (Pattern.eq_of_source (beq_iff_eq.1 h)))
    | _ => cases h
  | list as =>
    cases b with
    | list bs => exact Or.inr (Or.inr ⟨as, bs, rfl, rfl, sameItems_iff.1 h⟩)
    | _ => cases h

/-- **Induction over equal operands**: what relates every operand to itself, equal numbers to each
other, and lists whose items it relates, relates all equal operands. -/
theorem sameAs_induction {motive : Operand → Operand → Prop} (self : ∀ a, motive a a)
    (numbers : ∀ x y : Binary64, x.eq y = true → motive (.number x) (.number y))
    (lists : ∀ as bs, List.Forall₂ motive as bs → motive (.list as) (.list bs)) {a : Operand} :
    ∀ {b}, a.sameAs b = true → motive a b := by
  induction a using inductionItems with
  | truth | integer | number | text | instant | pattern =>
    intro b same
    -- Equal leaves are the same or two numbers.
    rcases sameAs_cases same with rfl | ⟨x, y, first, rfl, equal⟩ | ⟨_, _, ne, _⟩
    · exact self _
    · rw [first]
      exact numbers x y equal
    · cases ne
  | list as ih =>
    intro b same
    -- Equal lists are the same or equal item by item.
    rcases sameAs_cases same with rfl | ⟨_, _, ne, _⟩ | ⟨_, bs, first, rfl, each⟩
    · exact self _
    · cases ne
    · cases first
      exact lists as bs (forall₂_imp_of_mem each fun a member b => @ih a member b)

/-- **Equality is symmetric.** -/
theorem sameAs_comm (a : Operand) : ∀ b, a.sameAs b = b.sameAs a := by
  induction a using inductionItems with
  | truth | integer | text | instant | pattern =>
    intro b
    cases b <;> first | rfl | exact Bool.beq_comm
  | number x =>
    intro b
    cases b with
    | number y => exact Binary64.eq_swap x y
    | _ => rfl
  | list as ih =>
    intro b
    cases b with
    | list bs =>
      -- The items are compared pairwise, so the lists go down together.
      show sameItems as bs = sameItems bs as
      induction as generalizing bs with
      | nil => cases bs <;> rfl
      | cons a as rest =>
        cases bs with
        | nil => rfl
        | cons b bs =>
          simp only [sameItems]
          rw [ih a List.mem_cons_self, rest fun o member => ih o (List.mem_cons_of_mem a member)]
    | _ => rfl

/-- **Equal operands are equal to the same ones**, so equality is transitive. -/
theorem sameAs_congr {a b : Operand} (same : a.sameAs b = true) (c : Operand) :
    a.sameAs c = b.sameAs c := by
  refine sameAs_induction (motive := fun a b => ∀ c, a.sameAs c = b.sameAs c) ?_ ?_ ?_ same c
  · intro a c
    rfl
  · intro x y equal c
    cases c with
    -- Only the two zeros are equal without being the same, and no number tells them apart.
    | number z => exact (Binary64.indistinct_of_eq equal).eq_right z
    | _ => rfl
  · intro as bs alike c
    cases c with
    | list cs =>
      show sameItems as cs = sameItems bs cs
      induction alike generalizing cs with
      | nil => rfl
      | cons first _ rest => cases cs <;> simp only [sameItems, first, rest]
    | _ => rfl

/-- **An operand equals itself** exactly when no NaN occurs in it. -/
theorem sameAs_self_iff {a : Operand} : a.sameAs a = true ↔ ¬ (number .nan).OccursIn a := by
  induction a using inductionItems with
  | truth | integer | text | instant | pattern =>
    rw [occursIn_iff_of_leaf rfl]
    simp [sameAs]
  | number x =>
    rw [occursIn_iff_of_leaf rfl, number.injEq]
    show x.eq x = true ↔ _
    -- Every binary64 number but NaN equals itself.
    rw [Binary64.eq_self_iff]
    exact ne_comm
  | list items ih =>
    rw [occursIn_list_iff rfl]
    show sameItems items items = true ↔ _
    rw [sameItems_iff, List.forall₂_same, not_exists]
    exact forall_congr' fun o => by simp only [not_and, imp_congr_right (ih o)]

/-- The numbers of equal operands are indistinct, where they have any. -/
theorem number?_congr {a b : Operand} (same : a.sameAs b = true) :
    (a.number? = none ∧ b.number? = none)
      ∨ ∃ x y, a.number? = some x ∧ b.number? = some y ∧ x.Indistinct y := by
  rcases sameAs_cases same with rfl | ⟨x, y, rfl, rfl, equal⟩ | ⟨as, bs, rfl, rfl, -⟩
  · cases a.number? with
    | none => exact Or.inl ⟨rfl, rfl⟩
    | some x => exact Or.inr ⟨x, x, rfl, rfl, .refl x⟩
  · exact Or.inr ⟨x, y, rfl, rfl, Binary64.indistinct_of_eq equal⟩
  · exact Or.inl ⟨rfl, rfl⟩

/-- **Equal operands equal the same values.** -/
theorem equals_congr {a b : Operand} (same : a.sameAs b = true) (v : Json) :
    a.equals v = b.equals v := by
  refine sameAs_induction (motive := fun a b => ∀ v, a.equals v = b.equals v) ?_ ?_ ?_ same v
  · intro a v
    rfl
  · intro x y equal v
    -- Numbers are compared by their distance, and equal numbers have one.
    show nearNumber (some x) v = nearNumber (some y) v
    unfold nearNumber
    cases v.numeric? with
    | none => rfl
    | some a => exact (Binary64.indistinct_of_eq equal).near a
  · intro as bs alike v
    cases v with
    | arr values =>
      show allEqual as values = allEqual bs values
      induction alike generalizing values with
      | nil => rfl
      | cons first _ rest => cases values <;> simp only [allEqual, first, rest]
    | _ => rfl

end Operand

/-! ## §3. Tests -/

namespace Comparison

section
variable {a b : Operand} (same : a.sameAs b = true) (v : Json)

include same

theorem ordered_congr {test : Binary64 → Binary64 → Bool}
    (respects : ∀ {x y}, x.Indistinct y → ∀ n, test n x = test n y) :
    ordered test a v = ordered test b v := by
  unfold ordered
  rcases Operand.number?_congr same with ⟨none, none'⟩ | ⟨x, y, some, some', indistinct⟩
  · rw [none, none']
  · rw [some, some']
    cases v.numeric? with
    | none => rfl
    | some n => exact respects indistinct n

theorem liesBetween_congr : liesBetween a v = liesBetween b v := by
  rcases Operand.sameAs_cases same with rfl | ⟨x, y, rfl, rfl, -⟩ | ⟨as, bs, rfl, rfl, each⟩
  · rfl
  · rfl
  · -- Only lists of two are looked into, and the two have the same lengths.
    cases each with
    | nil => rfl
    | @cons least least' _ _ first rest =>
      cases rest with
      | nil => rfl
      | @cons greatest greatest' _ _ second rest =>
        cases rest with
        | cons => rfl
        | nil =>
          have lower : holds greaterThanOrEqual (some v) (some least) =
              holds greaterThanOrEqual (some v) (some least') :=
            ordered_congr first v fun h n => h.le_right n
          have upper : holds lessThanOrEqual (some v) (some greatest) =
              holds lessThanOrEqual (some v) (some greatest') :=
            ordered_congr second v fun h n => h.le_left n
          show holds between (some v) (some (.list [least, greatest])) =
            holds between (some v) (some (.list [least', greatest']))
          rw [holds_between_pair, holds_between_pair, lower, upper]

theorem equalsSome_congr : equalsSome a v = equalsSome b v := by
  rcases Operand.sameAs_cases same with rfl | ⟨x, y, rfl, rfl, -⟩ | ⟨as, bs, rfl, rfl, each⟩
  · rfl
  · rfl
  · exact Mode.combine_congr .any (each.imp fun _ _ same => Operand.equals_congr same v)

theorem holdsWithin_congr : holdsWithin a v = holdsWithin b v := by
  cases v with
  | str s =>
    rcases Operand.sameAs_cases same with rfl | ⟨x, y, rfl, rfl, -⟩ | ⟨as, bs, rfl, rfl, -⟩
    · rfl
    · rfl
    · rfl
  -- Only elements are compared here, and equal operands equal the same values.
  | arr values =>
    have alike : a.equals = b.equals := funext (Operand.equals_congr same)
    unfold holdsWithin
    rw [alike]
  | _ => rfl

theorem holdsItems_congr (mode : Mode) :
    holdsItems (fun items found => mode.combine found items) a v =
      holdsItems (fun items found => mode.combine found items) b v := by
  rcases Operand.sameAs_cases same with rfl | ⟨x, y, rfl, rfl, -⟩ | ⟨as, bs, rfl, rfl, each⟩
  · rfl
  · rfl
  · cases v with
    | arr values =>
      refine Mode.combine_congr mode (each.imp fun a b same => ?_)
      rw [show a.equals = b.equals from funext (Operand.equals_congr same)]
    | _ => rfl

/-- A test that no number and no list passes. -/
theorem test_congr_of_scalar {test : Operand → Json → Bool}
    (number : ∀ x, test (.number x) v = false) (list : ∀ items, test (.list items) v = false) :
    test a v = test b v := by
  rcases Operand.sameAs_cases same with rfl | ⟨x, y, rfl, rfl, -⟩ | ⟨as, bs, rfl, rfl, -⟩
  · rfl
  · rw [number, number]
  · rw [list, list]

/-- **No test tells equal operands apart.** -/
theorem test_congr (k : Comparison) : k.test a v = k.test b v := by
  cases k with
  | is => exact Operand.equals_congr same v
  | greaterThan => exact ordered_congr same v fun h n => h.lt_right n
  | greaterThanOrEqual => exact ordered_congr same v fun h n => h.le_right n
  | lessThan => exact ordered_congr same v fun h n => h.lt_left n
  | lessThanOrEqual => exact ordered_congr same v fun h n => h.le_left n
  | between => exact liesBetween_congr same v
  | oneOf => exact equalsSome_congr same v
  | contains => exact holdsWithin_congr same v
  | containsAny => exact holdsItems_congr same v .any
  | containsAll => exact holdsItems_congr same v .all
  -- These ask for a text, an instant or a pattern, where equal is the same.
  | startsWith | endsWith | matchesPattern | before | after =>
    exact test_congr_of_scalar same v (fun _ => rfl) fun _ => rfl
  -- Negations and the tests of emptiness have no test of their own.
  | isNot | notOneOf | doesNotContain | doesNotMatchPattern | isEmpty | isNotEmpty => rfl

/-- **Equal operands have the same verdicts**, under every comparison and for every value. -/
theorem holds_congr (k : Comparison) (value : Option Json) :
    k.holds value (some a) = k.holds value (some b) := by
  cases needed : k.needsOperand with
  | false =>
    cases k <;> first | rfl | cases needed
  | true =>
    rw [holds_eq_core needed, holds_eq_core needed]
    cases value with
    | none => rfl
    | some v => exact congrArg _ (test_congr same v k.core)

end

end Comparison

/-! ## §4. Criteria -/

namespace Criterion

/-- Equal criteria with one subject and one standard operator admit the same data. -/
theorem admits_of_sameAs {a b : Criterion} (subject : a.subject = b.subject)
    (operator : a.operator = b.operator)
    (standard : ∃ s : StandardOperator, a.operator = s.toOperator)
    (same : a.sameAs b = true) (data : Json) : a.admits data = b.admits data := by
  obtain ⟨s, made⟩ := standard
  have operands : Operand.sameOptional a.operand b.operand = true := by
    unfold sameAs at same
    exact (Bool.and_eq_true_iff.1 same).2
  unfold admits
  rw [← operator, ← subject, made]
  -- Both have an operand, or neither has one.
  generalize a.operand = o at operands ⊢
  generalize b.operand = o' at operands ⊢
  cases o with
  | none =>
    cases o' with
    | none => rfl
    | some => cases operands
  | some o =>
    cases o' with
    | none => cases operands
    | some o' => exact Comparison.holds_congr operands s.comparison _

/-- Equal criteria that one resolver resolves have one subject and one operator. -/
theorem subject_and_operator_eq {resolver : Resolver} {a b : Criterion}
    (ha : a.ResolvedBy resolver) (hb : b.ResolvedBy resolver) (same : a.sameAs b = true) :
    a.subject = b.subject ∧ a.operator = b.operator := by
  simp only [sameAs, Bool.and_eq_true, beq_iff_eq] at same
  have subject : a.subject = b.subject :=
    Except.ok.inj (ha.subject.symm.trans (same.1.1 ▸ hb.subject))
  refine ⟨subject, Except.ok.inj (ha.operator.symm.trans ?_)⟩
  rw [subject, same.1.2]
  exact hb.operator

/-- **EQUAL OPERANDS ARE INTERCHANGEABLE.**

* Equality of operands is symmetric and transitive, and an operand equals itself exactly when no
  NaN occurs in it, at any depth of its lists;
* equal operands have the same verdict under every comparison, for every value or none;
* equal criteria whose subjects and standard operators come from one resolver admit exactly the
  same data. -/
theorem equal_operands_interchange :
    ((∀ a b : Operand, a.sameAs b = true → b.sameAs a = true)
      ∧ (∀ a b c : Operand, a.sameAs b = true → b.sameAs c = true → a.sameAs c = true)
      ∧ ∀ a : Operand, a.sameAs a = true ↔ ¬ (Operand.number .nan).OccursIn a)
    ∧ (∀ a b : Operand, a.sameAs b = true → ∀ (k : Comparison) (value : Option Json),
        k.holds value (some a) = k.holds value (some b))
    ∧ ∀ (resolver : Resolver) (a b : Criterion), a.ResolvedBy resolver → b.ResolvedBy resolver →
        (∃ s : StandardOperator, a.operator = s.toOperator) → a.sameAs b = true →
          ∀ data, a.admits data = b.admits data := by
  refine ⟨⟨?_, ?_, fun _ => Operand.sameAs_self_iff⟩, ?_, ?_⟩
  · intro a b same
    rw [b.sameAs_comm a]
    exact same
  · intro a b c first second
    rw [Operand.sameAs_congr first c]
    exact second
  · intro a b same k value
    exact Comparison.holds_congr same k value
  · intro resolver a b ha hb standard same
    obtain ⟨subject, operator⟩ := subject_and_operator_eq ha hb same
    exact admits_of_sameAs subject operator standard same

end Criterion

end Sift
