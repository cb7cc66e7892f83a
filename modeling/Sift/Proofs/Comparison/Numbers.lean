/-
  Sift.Proofs.Comparison.Numbers
  ──────────────────────────────
  **What equality and the orders say about numbers.**

  The orders compare binary64 numbers as they are.  Equality compares two signed words as words,
  and any other numbers within a tolerance.  Each of the laws that one expects of the two holds
  up to a limit, which is exact:

      a whole number equals no other           — save across the end of the signed words
      what is equal is neither above nor below — save numbers less than the tolerance apart
      different words are above or below       — save those that are rounded to one number

  Main results: `Comparison.whole_equality_iff`, `Comparison.coherent_iff`,
  `Comparison.words_in_order_iff`.
-/
import Sift.Proofs.Binary64.Whole
import Sift.Proofs.Comparison.Shape
import Sift.Proofs.Json.Numeric

namespace Sift

/-! ## §1. The numbers of values and operands -/

/-- A signed word has fewer than 64 digits. -/
theorem natAbs_toInt_lt (w : Int64) : w.toInt.natAbs < 2 ^ 64 := by
  have lower := w.le_toInt
  have upper := w.toInt_lt
  omega

/-- Below `2^53` two words with one nearest number are the same. -/
theorem ofInt_toInt_eq_iff {f i : Int64}
    (small : f.toInt.natAbs < 2 ^ 53 ∨ i.toInt.natAbs < 2 ^ 53) :
    Binary64.ofInt f.toInt = Binary64.ofInt i.toInt ↔ f = i := by
  rw [Binary64.ofInt_eq_ofInt_iff (natAbs_toInt_lt f) (natAbs_toInt_lt i),
    Binary64.nearestWhole_eq_iff small, Int64.toInt_inj]

/-- Words with one nearest number are at most 1024 apart. -/
theorem natAbs_toInt_sub_le {f i : Int64}
    (same : Binary64.ofInt f.toInt = Binary64.ofInt i.toInt) :
    (f.toInt - i.toInt).natAbs ≤ 1024 := by
  rw [Binary64.ofInt_eq_ofInt_iff (natAbs_toInt_lt f) (natAbs_toInt_lt i)] at same
  have bounded (w : Int64) : w.toInt.natAbs ≤ 2 ^ (10 + 53) := by
    have lower := w.le_toInt
    have upper := w.toInt_lt
    omega
  exact Binary64.natAbs_sub_le_of_nearestWhole_eq (k := 10) (bounded f) (bounded i) same

/-- The binary64 number of a signed word is the one nearest to it. -/
theorem Json.Number.toBinary64_of_word {n : Json.Number} {v : Int64}
    (h : (Json.num n).signedWord? = some v) : n.toBinary64 = .ofInt v.toInt := by
  cases n with
  | int m lower upper =>
    have value : v.toInt = m := toInt_of_signedWord? h
    rw [value]
    rfl
  | float x => cases h

/-- A JSON number stands for its binary64 number. -/
theorem Json.numeric?_num (n : Json.Number) : (Json.num n).numeric? = some n.toBinary64 := by
  obtain ⟨x, hx⟩ := n.exists_toBinary64
  show (some n.toBinary64).filter Binary64.isFinite = _
  rw [hx]
  rfl

theorem Json.signedWord?_ofSignedWord (w : Int64) : (ofSignedWord w).signedWord? = some w :=
  signedWord?_toInt w

/-- The number of a word stands for the binary64 number nearest to it. -/
theorem Json.numeric?_ofSignedWord (w : Int64) :
    (ofSignedWord w).numeric? = some (.ofInt w.toInt) := by
  have nearest := Number.toBinary64_of_word (signedWord?_ofSignedWord w)
  unfold ofSignedWord
  rw [numeric?_num, nearest]

/-- A numeric operand is finite. -/
theorem Operand.exists_number? {o : Operand} (numeric : o.IsNumeric) :
    ∃ y, o.number? = some (.finite y) := by
  cases o with
  | integer w =>
    obtain ⟨y, hy, -⟩ := Binary64.exists_ofInt_eq_finite (natAbs_toInt_lt w)
    exact ⟨y, congrArg some hy⟩
  | number x =>
    cases x with
    | finite y => exact ⟨y, rfl⟩
    | nan | infinite _ => cases numeric
  | _ => cases numeric

/-- A value that stands for a number is near the numbers near that. -/
theorem Operand.nearNumber_of_numeric? {value : Json} {a : Binary64}
    (h : value.numeric? = some a) (b : Binary64) : nearNumber (some b) value = a.near b := by
  unfold nearNumber
  rw [h]

/-! ## §2. The verdicts on numbers -/

namespace Binary64

theorem le_finite_iff (x y : Finite) : (finite x).le (finite y) = true ↔ x.toInt ≤ y.toInt := by
  show (decide (x.toInt < y.toInt) || x.toInt == y.toInt) = true ↔ _
  rw [Bool.or_eq_true, decide_eq_true_eq, beq_iff_eq]
  omega

end Binary64

namespace Comparison

/-- An order tests the number of the value and that of the operand. -/
theorem ordered_of_numbers {value : Json} {o : Operand} {a b : Binary64}
    (ha : value.numeric? = some a) (hb : o.number? = some b) (test : Binary64 → Binary64 → Bool) :
    ordered test o value = test a b := by
  unfold ordered
  rw [ha, hb]

section
variable {n : Json.Number} {o : Operand} {x y : Binary64.Finite}
  (hx : n.toBinary64 = .finite x) (hy : o.number? = some (.finite y))

include hx hy

/-- **The orders are those of the values.** -/
theorem orders_iff :
    (greaterThan.holds (some (.num n)) (some o) = true ↔ y.toInt < x.toInt)
    ∧ (lessThan.holds (some (.num n)) (some o) = true ↔ x.toInt < y.toInt)
    ∧ (greaterThanOrEqual.holds (some (.num n)) (some o) = true ↔ y.toInt ≤ x.toInt)
    ∧ (lessThanOrEqual.holds (some (.num n)) (some o) = true ↔ x.toInt ≤ y.toInt) := by
  have orders := ordered_of_numbers ((Json.numeric?_num n).trans (congrArg some hx)) hy
  refine ⟨?_, ?_, ?_, ?_⟩
  · show ordered _ o (.num n) = true ↔ _
    rw [orders]
    exact decide_eq_true_iff
  · show ordered _ o (.num n) = true ↔ _
    rw [orders]
    exact decide_eq_true_iff
  · show ordered _ o (.num n) = true ↔ _
    rw [orders]
    exact Binary64.le_finite_iff y x
  · show ordered _ o (.num n) = true ↔ _
    rw [orders]
    exact Binary64.le_finite_iff x y

end

end Comparison

/-! ## §3. Equality with a whole number -/

/-- The whole number that a value is. -/
def Json.whole? : Json → Option Int
  | num n => n.int?
  | _ => none

/-- A value is a whole number exactly when it is that JSON number. -/
theorem Json.eq_of_whole? {value : Json} {m : Int} (h : value.whole? = some m) :
    ∃ lower upper, value = .num (.int m lower upper) := by
  cases value with
  | num n =>
    cases n with
    | int m' lower upper =>
      cases h
      exact ⟨lower, upper, rfl⟩
    | float x => cases h
  | _ => cases h

namespace Operand

/-- **A word is taken for a whole number** where it is that number, and where the number lies
behind the signed words and both are rounded to their end, `2^63`. -/
def TakenFor (w : Int64) (m : Int) : Prop :=
  w.toInt = m
    ∨ (9223372036854775296 ≤ w.toInt ∧ 9223372036854775808 ≤ m ∧ m ≤ 9223372036854776832)

/-- A value that is a signed word equals that word only. -/
theorem equalsInteger_of_word {value : Json} {v : Int64} (h : value.signedWord? = some v)
    (w : Int64) : equalsInteger w value = true ↔ v = w := by
  unfold equalsInteger
  simp only [h]
  exact beq_iff_eq

theorem equals_integer_iff (w v : Int64) :
    (integer w).equals (.ofSignedWord v) = true ↔ w = v :=
  (equalsInteger_of_word (Json.signedWord?_ofSignedWord v) w).trans eq_comm

/-- Any other value is compared as a number. -/
theorem equalsInteger_of_no_word {value : Json} (h : value.signedWord? = none) (w : Int64) :
    equalsInteger w value = nearNumber (some (.ofInt w.toInt)) value := by
  unfold equalsInteger
  simp only [h]

/-- **A whole number equals the words that are taken for it.** -/
theorem equals_whole_iff {value : Json} {m : Int} (whole : value.whole? = some m) (w : Int64) :
    (integer w).equals value = true ↔ TakenFor w m := by
  obtain ⟨lower, upper, rfl⟩ := Json.eq_of_whole? whole
  have below := w.toInt_lt
  show equalsInteger w _ = true ↔ _
  unfold TakenFor
  cases word : signedWord? m with
  | some v =>
    have value := toInt_of_signedWord? word
    have inside := v.toInt_lt
    have isWord : (Json.num (.int m lower upper)).signedWord? = some v := word
    rw [equalsInteger_of_word isWord, ← Int64.toInt_inj]
    omega
  | none =>
    -- Past the signed words the two are compared as binary64 numbers.
    have beyond : 9223372036854775808 ≤ m := by
      unfold signedWord? at word
      split at word
      · cases word
      · omega
    have noWord : (Json.num (.int m lower upper)).signedWord? = none := word
    have size : m.natAbs < 2 ^ 64 := by omega
    rw [equalsInteger_of_no_word noWord, nearNumber_of_numeric? (Json.numeric?_num _)]
    show (Binary64.ofInt m).near _ = true ↔ _
    rw [Binary64.near_ofInt_iff size (natAbs_toInt_lt w),
      Binary64.ofInt_eq_ofInt_iff size (natAbs_toInt_lt w), eq_comm,
      Binary64.nearestWhole_eq_limit_iff below beyond]
    omega

end Operand

namespace Comparison

/-- **WHICH WHOLE NUMBERS ARE EQUAL.**  A value that is a whole number `m` equals the operand `w`
exactly when `w` is taken for `m`: when they are one number, or when `w` is one of the last 512
signed words and `m` at most 1024 past their end.  The same holds for each item of a list of words
that the value is to be one of, and for each whole number in an array that is to contain `w`; what
else the array holds counts by its own equality. -/
theorem whole_equality_iff {value : Json} {m : Int} (whole : value.whole? = some m) (w : Int64) :
    (is.holds (some value) (some (.integer w)) = true ↔ Operand.TakenFor w m)
    ∧ (∀ ws : List Int64, oneOf.holds (some value) (some (.list (ws.map .integer))) = true ↔
        ∃ w ∈ ws, Operand.TakenFor w m)
    ∧ (∀ values : List Json, contains.holds (some (.arr values)) (some (.integer w)) = true ↔
        ∃ element ∈ values, (∃ m, element.whole? = some m ∧ Operand.TakenFor w m)
          ∨ (element.whole? = none ∧ is.holds (some element) (some (.integer w)) = true)) := by
  refine ⟨Operand.equals_whole_iff whole w, ?_, ?_⟩
  · -- An item is asked as `is` asks, so the first part is used once for each.
    intro ws
    show (ws.map Operand.integer).any (·.equals value) = true ↔ _
    simp only [List.any_map, List.any_eq_true, Function.comp_apply,
      Operand.equals_whole_iff whole]
  · intro values
    show values.any (Operand.integer w).equals = true ↔ _
    rw [List.any_eq_true]
    apply exists_congr
    intro element
    apply and_congr_right
    intro _
    -- The elements that are no integers are left to `is`, which says for them what it says alone.
    show (Operand.integer w).equals element = true ↔
      _ ∨ (_ ∧ (Operand.integer w).equals element = true)
    cases kind : element.whole? with
    | none => simp
    | some m' => simp [Operand.equals_whole_iff kind]

/-- The first number past the merged ones is told from the last word. -/
theorem whole_equality_past_merged :
    (Json.ofUnsignedWord 9223372036854776833).whole? = some 9223372036854776833
    ∧ is.holds (some (.ofUnsignedWord 9223372036854776833)) (some (.integer 9223372036854775807)) =
      false := by
  have whole : (Json.ofUnsignedWord 9223372036854776833).whole? = some 9223372036854776833 := rfl
  refine ⟨whole, ?_⟩
  rw [← Bool.not_eq_true, (whole_equality_iff whole 9223372036854775807).1]
  unfold Operand.TakenFor
  decide

/-- **Two whole numbers that are not told apart**: the last signed word equals its successor, which
is no signed word; so it does as an item of a list, and in an array. -/
theorem whole_equality_at_limit :
    (Json.ofUnsignedWord 9223372036854775808).whole? = some 9223372036854775808
    ∧ (9223372036854775807 : Int64).toInt ≠ 9223372036854775808
    ∧ is.holds (some (.ofUnsignedWord 9223372036854775808))
        (some (.integer 9223372036854775807)) = true
    ∧ oneOf.holds (some (.ofUnsignedWord 9223372036854775808))
        (some (.list [.integer 9223372036854775807])) = true
    ∧ contains.holds (some (.arr [.ofUnsignedWord 9223372036854775808]))
        (some (.integer 9223372036854775807)) = true := by
  have taken : (Operand.integer 9223372036854775807).equals
      (.ofUnsignedWord 9223372036854775808) = true := by
    -- Evaluating `equals` itself would round both numbers; the lemma leaves a closed fact on
    -- integers.
    rw [@Operand.equals_whole_iff _ 9223372036854775808 rfl]
    unfold Operand.TakenFor
    decide
  refine ⟨rfl, by decide, taken, ?_, ?_⟩
  · show List.any _ _ = true
    rw [List.any_cons, taken, Bool.true_or]
  · show List.any _ _ = true
    rw [List.any_cons, taken, Bool.true_or]

/-! ## §4. Equality beside the orders -/

/-- **Equality agrees with the orders**: of `is`, `greaterThan` and `lessThan` at most one holds,
and what is equal is neither below nor above. -/
def Coherent (value : Json) (o : Operand) : Prop :=
  ¬ (is.holds (some value) (some o) = true ∧ greaterThan.holds (some value) (some o) = true)
  ∧ ¬ (is.holds (some value) (some o) = true ∧ lessThan.holds (some value) (some o) = true)
  ∧ ¬ (greaterThan.holds (some value) (some o) = true ∧ lessThan.holds (some value) (some o) = true)
  ∧ (is.holds (some value) (some o) = true →
      greaterThanOrEqual.holds (some value) (some o) = true
        ∧ lessThanOrEqual.holds (some value) (some o) = true)

section
variable {n : Json.Number} {o : Operand} {x y : Binary64.Finite}
  (hx : n.toBinary64 = .finite x) (hy : o.number? = some (.finite y))

include hx hy

/-- **Numbers of different values** are equal exactly when they are less than the tolerance
apart, signed words included. -/
theorem holds_is_iff_of_apart (apart : x.toInt ≠ y.toInt) :
    is.holds (some (.num n)) (some o) = true ↔
      (x.toInt - y.toInt).natAbs < Binary64.tolerance := by
  rw [← Binary64.near_finite_iff]
  cases o with
  | integer w =>
    have hy : Binary64.ofInt w.toInt = .finite y := Option.some.inj hy
    show Operand.equalsInteger w (.num n) = true ↔ _
    cases word : (Json.num n).signedWord? with
    | some v =>
      -- Two words of one binary64 number would have one value.
      have differ : Binary64.ofInt v.toInt ≠ Binary64.ofInt w.toInt := by
        intro same
        rw [← Json.Number.toBinary64_of_word word, hx, hy] at same
        cases same
        exact apart rfl
      rw [Operand.equalsInteger_of_word word, ← hx, ← hy, Json.Number.toBinary64_of_word word,
        Binary64.near_ofInt_iff (natAbs_toInt_lt v) (natAbs_toInt_lt w)]
      constructor
      · intro same
        rw [same]
      · intro same
        exact absurd same differ
    | none =>
      rw [Operand.equalsInteger_of_no_word word,
        Operand.nearNumber_of_numeric? (Json.numeric?_num n), hx, hy]
  | number z =>
    have hy : z = .finite y := Option.some.inj hy
    show Operand.nearNumber (some z) (.num n) = true ↔ _
    rw [Operand.nearNumber_of_numeric? (Json.numeric?_num n), hx, hy]
  | _ => cases hy

end

/-- **WHERE EQUALITY AGREES WITH THE ORDERS.**  Let a value be a number, and an operand a whole or
finite number.  The orders are those of the two binary64 numbers, so above and below never hold
together.  Equality agrees with them exactly when the two numbers have one value, or are at least
the tolerance apart, as different numbers are wherever both are of size one or more.  Numbers that
differ by less are equal, and above or below as well. -/
theorem coherent_iff (n : Json.Number) {o : Operand} (numeric : o.IsNumeric) :
    ∃ x y : Binary64.Finite, n.toBinary64 = .finite x ∧ o.number? = some (.finite y)
      ∧ (greaterThan.holds (some (.num n)) (some o) = true ↔ y.toInt < x.toInt)
      ∧ (lessThan.holds (some (.num n)) (some o) = true ↔ x.toInt < y.toInt)
      ∧ (Coherent (.num n) o ↔
          x.toInt = y.toInt ∨ Binary64.tolerance ≤ (x.toInt - y.toInt).natAbs)
      ∧ (Binary64.unitsPerOne ≤ x.units → Binary64.unitsPerOne ≤ y.units → Coherent (.num n) o)
      ∧ (¬ Coherent (.num n) o → is.holds (some (.num n)) (some o) = true) := by
  obtain ⟨x, hx⟩ := n.exists_toBinary64
  obtain ⟨y, hy⟩ := Operand.exists_number? numeric
  obtain ⟨above, below, atLeast, atMost⟩ := orders_iff hx hy
  -- Distinct numbers are the only case to look at: one ordering holds then, and `is` must fail.
  have agreement : Coherent (.num n) o ↔
      x.toInt = y.toInt ∨ Binary64.tolerance ≤ (x.toInt - y.toInt).natAbs := by
    unfold Coherent
    rw [above, below, atLeast, atMost]
    by_cases same : x.toInt = y.toInt
    · omega
    · rw [holds_is_iff_of_apart hx hy same]
      omega
  refine ⟨x, y, hx, hy, above, below, agreement, ?_, ?_⟩
  · -- From one on, neighbouring numbers are a tolerance apart.
    intro largeX largeY
    rw [agreement]
    by_cases same : x.toInt = y.toInt
    · exact .inl same
    · exact .inr (Binary64.tolerance_le_of_one_le largeX largeY same)
  · intro conflict
    rw [agreement] at conflict
    rw [holds_is_iff_of_apart hx hy (by omega)]
    omega

/-- The number `1`. -/
def oneExactly : Binary64.Finite := ⟨false, Nat.pow 2 1074, by decide +kernel⟩

/-- The number after `1`. -/
def afterOne : Binary64.Finite := ⟨false, Nat.pow 2 1074 + Nat.pow 2 1022, by decide +kernel⟩

/-- The number after `1` is told apart from it. -/
theorem coherent_after_one :
    (Operand.number (.finite oneExactly)).IsNumeric
    ∧ Coherent (.num (.float afterOne)) (.number (.finite oneExactly)) := by
  have numeric : (Operand.number (.finite oneExactly)).IsNumeric := rfl
  obtain ⟨x, y, hx, hy, -, -, -, fromOne, -⟩ := coherent_iff (.float afterOne) numeric
  obtain rfl : afterOne = x := Binary64.finite.inj hx
  obtain rfl : oneExactly = y := Binary64.finite.inj (Option.some.inj hy)
  exact ⟨numeric, fromOne (by decide +kernel) (by decide +kernel)⟩

/-- The number `0.3`. -/
def threeTenths : Binary64.Finite := ⟨false, 5404319552844595 * Nat.pow 2 1020, by decide +kernel⟩

/-- The sum of `0.1` and `0.2`, the number after `0.3`. -/
def sumOfTenths : Binary64.Finite := ⟨false, 5404319552844596 * Nat.pow 2 1020, by decide +kernel⟩

/-- **A number that equals what it is above**: `0.1 + 0.2` equals `0.3` within the tolerance, and is
greater than `0.3`. -/
theorem equal_and_above :
    Text.number? "0.3" = some (.finite threeTenths)
    ∧ Text.number? "0.30000000000000004" = some (.finite sumOfTenths)
    ∧ is.holds (some (.num (.float sumOfTenths))) (some (.number (.finite threeTenths))) = true
    ∧ greaterThan.holds (some (.num (.float sumOfTenths)))
        (some (.number (.finite threeTenths))) = true
    ∧ lessThanOrEqual.holds (some (.num (.float sumOfTenths)))
        (some (.number (.finite threeTenths))) = false := by
  decide +kernel

/-! ## §5. Order of words -/

section
variable (f i : Int64)

/-- **The orders are those of the words**: above and below hold as they do of whole numbers. -/
def InOrder : Prop :=
  greaterThan.holds (some (.ofSignedWord f)) (some (.integer i)) = decide (i.toInt < f.toInt)
  ∧ lessThan.holds (some (.ofSignedWord f)) (some (.integer i)) = decide (f.toInt < i.toInt)

/-- The orders test the binary64 numbers nearest to the words. -/
theorem ordered_words (test : Binary64 → Binary64 → Bool) :
    ordered test (.integer i) (.ofSignedWord f) = test (.ofInt f.toInt) (.ofInt i.toInt) :=
  ordered_of_numbers (Json.numeric?_ofSignedWord f) rfl test

/-- A word is above the words below it that have another nearest number. -/
theorem greaterThan_words : greaterThan.holds (some (.ofSignedWord f)) (some (.integer i)) = true ↔
    i.toInt < f.toInt ∧ Binary64.ofInt f.toInt ≠ Binary64.ofInt i.toInt := by
  show ordered (fun a b => b.lt a) (.integer i) (.ofSignedWord f) = true ↔ _
  rw [ordered_words, Binary64.lt_ofInt_iff (natAbs_toInt_lt i) (natAbs_toInt_lt f), ne_comm]

/-- A word is below the words above it that have another nearest number. -/
theorem lessThan_words : lessThan.holds (some (.ofSignedWord f)) (some (.integer i)) = true ↔
    f.toInt < i.toInt ∧ Binary64.ofInt f.toInt ≠ Binary64.ofInt i.toInt := by
  show ordered (fun a b => a.lt b) (.integer i) (.ofSignedWord f) = true ↔ _
  rw [ordered_words, Binary64.lt_ofInt_iff (natAbs_toInt_lt f) (natAbs_toInt_lt i)]

end

section
variable {f i : Int64} (distinct : f ≠ i)

include distinct

/-- Different words are in order exactly when they have different nearest numbers. -/
theorem inOrder_iff : InOrder f i ↔ Binary64.ofInt f.toInt ≠ Binary64.ofInt i.toInt := by
  have differ : f.toInt ≠ i.toInt := by rwa [Ne, Int64.toInt_inj]
  unfold InOrder
  rw [Bool.eq_iff_iff, Bool.eq_iff_iff (a := lessThan.holds _ _), decide_eq_true_iff,
    decide_eq_true_iff]
  rw [greaterThan_words, lessThan_words]
  constructor
  · intro ⟨above, below⟩ same
    -- One of the two words is below the other, and would be so with another nearest number.
    rcases Int.lt_or_gt_of_ne differ with less | more
    · exact (below.2 less).2 same
    · exact (above.2 more).2 same
  · intro apart
    exact ⟨and_iff_left apart, and_iff_left apart⟩

/-- **Words that are merged** are told apart by equality, and by no order. -/
theorem holds_of_merged (same : Binary64.ofInt f.toInt = Binary64.ofInt i.toInt) :
    (∀ k ∈ [is, greaterThan, lessThan],
      k.holds (some (.ofSignedWord f)) (some (.integer i)) = false)
    ∧ ∀ k ∈ [greaterThanOrEqual, lessThanOrEqual],
      k.holds (some (.ofSignedWord f)) (some (.integer i)) = true := by
  constructor
  · intro k listed
    simp only [List.mem_cons, List.not_mem_nil, or_false] at listed
    rw [← Bool.not_eq_true]
    -- `is` compares the words themselves, the two orderings what both words become.
    obtain rfl | rfl | rfl := listed
    · exact fun equal => distinct ((Operand.equals_integer_iff i f).1 equal).symm
    · exact fun above => ((greaterThan_words f i).1 above).2 same
    · exact fun below => ((lessThan_words f i).1 below).2 same
  · intro k listed
    obtain ⟨x, hx, -⟩ := Binary64.exists_ofInt_eq_finite (natAbs_toInt_lt i)
    have level : (Binary64.finite x).le (.finite x) = true :=
      (Binary64.le_finite_iff x x).2 (Int.le_refl _)
    simp only [List.mem_cons, List.not_mem_nil, or_false] at listed
    obtain rfl | rfl := listed
    · show ordered (fun a b => b.le a) (.integer i) (.ofSignedWord f) = true
      rw [ordered_words, same, hx, level]
    · show ordered (fun a b => a.le b) (.integer i) (.ofSignedWord f) = true
      rw [ordered_words, same, hx, level]

end

/-- **WHICH WORDS ARE IN ORDER.**  Two different signed words are above or below each other as the
whole numbers they are, exactly when different binary64 numbers are nearest to them.  Otherwise
none of `is`, `greaterThan` and `lessThan` holds, and both `greaterThanOrEqual` and
`lessThanOrEqual` do; then each of the words is at least `2^53` in size, and they are at most 1024
apart. -/
theorem words_in_order_iff {f i : Int64} (distinct : f ≠ i) :
    (InOrder f i ↔ Binary64.ofInt f.toInt ≠ Binary64.ofInt i.toInt)
    ∧ (Binary64.ofInt f.toInt = Binary64.ofInt i.toInt →
        (∀ k ∈ [is, greaterThan, lessThan],
          k.holds (some (.ofSignedWord f)) (some (.integer i)) = false)
        ∧ (∀ k ∈ [greaterThanOrEqual, lessThanOrEqual],
          k.holds (some (.ofSignedWord f)) (some (.integer i)) = true)
        ∧ 2 ^ 53 ≤ f.toInt.natAbs ∧ 2 ^ 53 ≤ i.toInt.natAbs
        ∧ (f.toInt - i.toInt).natAbs ≤ 1024) := by
  refine ⟨inOrder_iff distinct, ?_⟩
  intro same
  obtain ⟨none, both⟩ := holds_of_merged distinct same
  -- Below 2^53 in size a word becomes itself, so two distinct ones stay distinct.
  have large : ¬ (f.toInt.natAbs < 2 ^ 53 ∨ i.toInt.natAbs < 2 ^ 53) := by
    intro small
    exact distinct ((ofInt_toInt_eq_iff small).1 same)
  exact ⟨none, both, by omega, by omega, natAbs_toInt_sub_le same⟩

/-- The last words of 53 digits are in order. -/
theorem words_in_order_small :
    (9007199254740992 : Int64) ≠ 9007199254740991 ∧ InOrder 9007199254740992 9007199254740991 := by
  have distinct : (9007199254740992 : Int64) ≠ 9007199254740991 := by decide
  refine ⟨distinct, (words_in_order_iff distinct).1.2 ?_⟩
  rw [Ne, ofInt_toInt_eq_iff (.inr (by decide))]
  exact distinct

/-- **Two words that are in no order**: `2^53 + 1` is not `2^53`, and neither above nor below it. -/
theorem words_out_of_order :
    (9007199254740992 : Int64).toInt < (9007199254740993 : Int64).toInt
    ∧ ∀ k ∈ [is, greaterThan, lessThan],
      k.holds (some (.ofSignedWord 9007199254740993)) (some (.integer 9007199254740992)) =
        false := by
  decide +kernel

end Comparison

end Sift
