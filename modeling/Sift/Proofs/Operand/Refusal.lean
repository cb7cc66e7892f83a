/-
  Sift.Proofs.Operand.Refusal
  ───────────────────────────
  **Which value a rejection is about.**

  A form refuses a value by itself — for being null, of another type, of another length or past a
  bound, or for what it says — or a list for the first of its items that is rejected.  So a
  rejection is always about one value, which a path of positions leads to:

      Refuses — the form refuses the value by itself, with the cause of it
      Reaches — a path leads through the item forms and the arrays to a form and a value: every
                array has its length, and what stands before each position is accepted

  Main results:
    * `Form.read_eq_error_iff` — a form rejects a value exactly when a path reaches one that is
      refused by itself, and the cause names the path.
    * `Form.Reaches.unique_path` — there is one such path.
    * `Form.rejection_names_one_item` — both of the form's codec, with the text of the message.
-/
import Sift.Proofs.Operand.Rereading

namespace Sift

open Outcome

/-! ## §1. Bounds -/

/-- **A value is past a bound**, the least one first.  The predicates say which limits the value
is below and which it is above. -/
inductive Past {α : Type} (below above : α → Prop) (least greatest : Option α) : Bound → α → Prop
  | least {limit : α} (declared : least = some limit) (past : below limit) :
      Past below above least greatest .least limit
  | greatest {limit : α} (inside : ∀ other, least = some other → ¬ below other)
      (declared : greatest = some limit) (past : above limit) :
      Past below above least greatest .greatest limit

section
variable {α : Type} {below above : α → Prop} {least greatest : Option α}

/-- A value that is past no bound is within both. -/
theorem not_past_iff :
    (∀ bound limit, ¬ Past below above least greatest bound limit) ↔
      (∀ limit, least = some limit → ¬ below limit)
        ∧ ∀ limit, greatest = some limit → ¬ above limit := by
  constructor
  · intro within
    -- The upper bound is only asked when the lower one is kept, hence first.
    have notBelow : ∀ limit, least = some limit → ¬ below limit :=
      fun limit declared past => within _ _ (.least declared past)
    exact ⟨notBelow, fun limit declared past => within _ _ (.greatest notBelow declared past)⟩
  · rintro ⟨notBelow, notAbove⟩ bound limit past
    cases past with
    | least declared past => exact notBelow limit declared past
    | greatest _ declared past => exact notAbove limit declared past

/-- The two filters of a check find the bound that the value is past. -/
theorem past_iff_filter [DecidablePred below] [DecidablePred above] {bound : Bound} {limit : α} :
    Past below above least greatest bound limit ↔
      (bound = .least ∧ least.filter (fun l => decide (below l)) = some limit)
        ∨ (bound = .greatest ∧ least.filter (fun l => decide (below l)) = none
          ∧ greatest.filter (fun l => decide (above l)) = some limit) := by
  simp only [Option.filter_eq_some_iff, Option.filter_eq_none_iff, decide_eq_true_eq]
  constructor
  · intro h
    cases h with
    | least declared past => exact Or.inl ⟨rfl, declared, past⟩
    | greatest inside declared past => exact Or.inr ⟨rfl, inside, declared, past⟩
  · rintro (⟨rfl, declared, past⟩ | ⟨rfl, inside, declared, past⟩)
    · exact .least declared past
    · exact .greatest inside declared past

end

namespace Form

/-- A number is refused exactly for a bound that it is past. -/
theorem checkNumber_eq_error_iff {least greatest : Option Binary64} {x : Binary64}
    {cause : Rejection} :
    checkNumber least greatest x = .error cause ↔ ∃ bound limit,
      Past (x.lt · = true) (·.lt x = true) least greatest bound limit
        ∧ .numberOutside bound x limit = cause := by
  simp only [past_iff_filter, checkNumber, Bool.decide_eq_true]
  cases least.filter (x.lt ·) <;> cases greatest.filter (·.lt x) <;>
    simp [and_assoc]

/-- So is a whole number. -/
theorem checkInteger_eq_error_iff {least greatest : Option Int64} {w : Int64} {cause : Rejection} :
    checkInteger least greatest w = .error cause ↔ ∃ bound limit,
      Past (w < ·) (· < w) least greatest bound limit
        ∧ .integerOutside bound w limit = cause := by
  simp only [past_iff_filter, checkInteger]
  cases least.filter (fun l => decide (w < l)) <;>
    cases greatest.filter (fun l => decide (l < w)) <;> simp [and_assoc]

/-! ## §2. Values that are refused by themselves -/

/-- The type that a form reads, as messages name it. -/
def expected : Form → String
  | text => "string"
  | number _ _ => "number"
  | integer _ _ => "integer"
  | truth => "boolean"
  | options _ => "string"
  | pattern => "string (regex pattern)"
  | instant => "datetime string"
  | list _ _ => "array"

/-- **Whether a value has the type that a form reads**, or is a text that stands for one. -/
def takes : Form → Json → Bool
  | text, .str _ | text, .num _ => true
  | text, _ => false
  | number _ _, raw => raw.numeric?.isSome
  | integer _ _, raw => (integerOf? raw).isSome
  | truth, .bool _ => true
  | truth, .str s => s == "true" || s == "false"
  | truth, _ => false
  | options _, raw | pattern, raw | instant, raw => raw.str?.isSome
  | list _ _, raw => raw.items?.isSome

/-- **A form refuses a value by itself**, not for an item of it: null, a value of another type,
one past a bound, a text that is no option, pattern or instant, a list of another length. -/
inductive Refuses : Form → Json → Rejection → Prop
  | null {form : Form} : Refuses form .null .missing
  | type {form : Form} {raw : Json} (given : raw ≠ .null) (other : form.takes raw = false) :
      Refuses form raw (.wrongType form.expected raw)
  | number {least greatest : Option Binary64} {raw : Json} {x limit : Binary64} {bound : Bound}
      (value : raw.numeric? = some x)
      (past : Past (x.lt · = true) (·.lt x = true) least greatest bound limit) :
      Refuses (number least greatest) raw (.numberOutside bound x limit)
  | integer {least greatest : Option Int64} {raw : Json} {w limit : Int64} {bound : Bound}
      (value : integerOf? raw = some w)
      (past : Past (w < ·) (· < w) least greatest bound limit) :
      Refuses (integer least greatest) raw (.integerOutside bound w limit)
  | options {allowed : List String} {s : String} (other : s ∉ allowed) :
      Refuses (options allowed) (.str s) (.notAnOption s)
  | pattern {s : String} (broken : Pattern.ofText? s = none) :
      Refuses pattern (.str s) (.invalidPattern s)
  | instant {s : String} (unread : Instant.ofText? s = none) :
      Refuses instant (.str s) (.invalidInstant s)
  | list {item : Form} {length : Option UInt64} {raws : List Json} {count : UInt64}
      (declared : length = some count) (other : count.toNat ≠ raws.length) :
      Refuses (list item length) (.arr raws) (.wrongLength count.toNat raws.length)

/-- A value other than null goes to the reader of the type. -/
theorem required_of_ne_null (read : Json → Except Rejection Operand) {raw : Json}
    (given : raw ≠ .null) : required read raw = read raw := by
  unfold required
  split
  · exact absurd rfl given
  · rfl

/-- **What a form refuses by itself it rejects**, for that cause. -/
theorem read_of_refuses {form : Form} {raw : Json} {cause : Rejection}
    (refuses : form.Refuses raw cause) : form.read raw = .error cause := by
  -- One case for each way to refuse; `type` splits by the form, which decides what it takes.
  cases refuses with
  | null => cases form <;> rfl
  | type given other =>
    cases form with
    | text =>
      cases raw with
      | null => exact absurd rfl given
      | str | num => cases other
      | _ => rfl
    | number =>
      have none := Option.not_isSome_iff_eq_none.1 (Bool.eq_false_iff.1 other)
      simp only [read, required_of_ne_null _ given, readNumber, none]
      rfl
    | integer =>
      have none := Option.not_isSome_iff_eq_none.1 (Bool.eq_false_iff.1 other)
      simp only [read, required_of_ne_null _ given, readInteger, none]
      rfl
    | truth =>
      cases raw with
      | null => exact absurd rfl given
      | bool => cases other
      | str s =>
        obtain ⟨notTrue, notFalse⟩ : s ≠ "true" ∧ s ≠ "false" := by simpa [takes] using other
        simp only [read, required, readTruth, if_neg notTrue, if_neg notFalse]
        rfl
      | _ => rfl
    | options | pattern | instant =>
      cases raw with
      | null => exact absurd rfl given
      | str => cases other
      | _ => rfl
    | list =>
      cases raw with
      | null => exact absurd rfl given
      | arr => cases other
      | _ => rfl
  | @number least greatest raw x limit bound value past =>
    have given : raw ≠ .null := by
      rintro rfl
      cases value
    simp only [read, required_of_ne_null _ given, readNumber, value]
    exact checkNumber_eq_error_iff.2 ⟨bound, limit, past, rfl⟩
  | @integer least greatest raw w limit bound value past =>
    have given : raw ≠ .null := by
      rintro rfl
      cases value
    simp only [read, required_of_ne_null _ given, readInteger, value]
    exact checkInteger_eq_error_iff.2 ⟨bound, limit, past, rfl⟩
  | options other =>
    simp only [read, required, readOption, List.contains_iff_mem, if_neg other]
  | pattern broken => simp only [read, required, readPattern, broken]
  | instant unread => simp only [read, required, readInstant, unread]
  | @list item length raws count declared other =>
    show readList item.read length (.arr raws) = _
    rw [readList_eq, checkLength_eq_error_iff.2 ⟨count, declared, other, rfl⟩]
    rfl

/-- A form that reads no lists rejects only what it refuses by itself. -/
theorem refuses_of_read {form : Form} {raw : Json} {cause : Rejection}
    (noList : ∀ item length, form ≠ list item length) (rejected : form.read raw = .error cause) :
    form.Refuses raw cause := by
  by_cases given : raw = .null
  · subst given
    rw [read_of_refuses .null, Except.error.injEq] at rejected
    exact rejected ▸ .null
  · -- A value other than null is of another type, or the reader of the type rejects it.
    by_cases other : form.takes raw = false
    · rw [read_of_refuses (.type given other), Except.error.injEq] at rejected
      exact rejected ▸ .type given other
    cases form with
    | text => cases raw <;> first | exact absurd rfl other | cases rejected
    | number =>
      obtain ⟨x, value⟩ := Option.isSome_iff_exists.1 (Bool.not_eq_false _ ▸ other)
      simp only [read, required_of_ne_null _ given, readNumber, value] at rejected
      obtain ⟨bound, limit, past, rfl⟩ := checkNumber_eq_error_iff.1 rejected
      exact .number value past
    | integer =>
      obtain ⟨w, value⟩ := Option.isSome_iff_exists.1 (Bool.not_eq_false _ ▸ other)
      simp only [read, required_of_ne_null _ given, readInteger, value] at rejected
      obtain ⟨bound, limit, past, rfl⟩ := checkInteger_eq_error_iff.1 rejected
      exact .integer value past
    | truth =>
      cases raw with
      | bool => cases rejected
      | str s =>
        simp only [read, required, readTruth] at rejected
        split at rejected
        · cases rejected
        split at rejected
        · cases rejected
        · rename_i notTrue notFalse
          exact absurd (by simp [takes, notTrue, notFalse]) other
      | _ => exact absurd rfl other
    | options allowed =>
      cases raw with
      | str s =>
        simp only [read, required, readOption, List.contains_iff_mem] at rejected
        split at rejected
        · cases rejected
        · rename_i other
          cases rejected
          exact .options other
      | _ => exact absurd rfl other
    | pattern =>
      cases raw with
      | str s =>
        simp only [read, required, readPattern] at rejected
        split at rejected
        · cases rejected
        · rename_i broken
          cases rejected
          exact .pattern broken
      | _ => exact absurd rfl other
    | instant =>
      cases raw with
      | str s =>
        simp only [read, required, readInstant] at rejected
        split at rejected
        · cases rejected
        · rename_i unread
          cases rejected
          exact .instant unread
      | _ => exact absurd rfl other
    | list item length => exact absurd rfl (noList item length)

/-- **A list is rejected** by itself, or, having its length, for the first of its items that
is. -/
theorem read_list_eq_error_iff {item : Form} {length : Option UInt64} {raw : Json}
    {cause : Rejection} :
    (list item length).read raw = .error cause ↔ (list item length).Refuses raw cause
      ∨ ∃ raws i inner, raw = .arr raws
        ∧ (∀ count, length = some count → count.toNat = raws.length)
        ∧ (∃ element, raws[i]? = some element ∧ item.read element = .error inner)
        ∧ (∀ j < i, ∀ earlier, raws[j]? = some earlier → ∃ o, item.read earlier = .ok o)
        ∧ cause = .inItem i inner := by
  constructor
  · intro rejected
    cases raw with
    | null =>
      cases rejected
      exact Or.inl .null
    | arr raws =>
      have rejected : readList item.read length (.arr raws) = .error cause := rejected
      rw [readList_eq, bind_eq_error_iff] at rejected
      -- The length is checked first, then the items from the left.
      rcases rejected with long | ⟨_, counted, rejected⟩
      · obtain ⟨count, declared, other, rfl⟩ := checkLength_eq_error_iff.1 long
        exact Or.inl (.list declared other)
      · obtain ⟨i, inner, rfl, found, before⟩ :=
          readItems_eq_error_iff.1 (map_eq_error_iff.1 rejected)
        exact Or.inr ⟨raws, i, inner, rfl, checkLength_eq_ok_iff.1 counted, found, before, rfl⟩
    | _ =>
      cases rejected
      exact Or.inl (.type (by simp) rfl)
  · rintro (refuses | ⟨raws, i, inner, rfl, counted, found, before, rfl⟩)
    · exact read_of_refuses refuses
    · show readList item.read length (.arr raws) = _
      rw [readList_eq, checkLength_eq_ok_iff.2 counted]
      exact map_eq_error_iff.2 (readItems_eq_error_iff.2 ⟨i, inner, rfl, found, before⟩)

/-! ## §3. Paths -/

/-- **A path of positions leads from a form and a value to a form and a value** inside them: each
step goes from a list form to its item form and from an array of its length to an item of it,
where the item form accepts all items before that one. -/
inductive Reaches : Form → Json → List Nat → Form → Json → Prop
  | here {form : Form} {raw : Json} : Reaches form raw [] form raw
  | item {item : Form} {length : Option UInt64} {raws : List Json} {i : Nat} {element : Json}
      {path : List Nat} {form : Form} {value : Json}
      (counted : ∀ count, length = some count → count.toNat = raws.length)
      (there : raws[i]? = some element)
      (before : ∀ j < i, ∀ earlier, raws[j]? = some earlier → ∃ o, item.read earlier = .ok o)
      (rest : Reaches item element path form value) :
      Reaches (list item length) (.arr raws) (i :: path) form value

/-- A path leads to one form and one value. -/
theorem Reaches.unique_end {form : Form} {raw : Json} {path : List Nat} {g g' : Form}
    {x x' : Json} (h : Reaches form raw path g x) (h' : Reaches form raw path g' x') :
    g = g' ∧ x = x' := by
  -- On the path: both ways down take the item it names.
  induction h with
  | here =>
    cases h'
    exact ⟨rfl, rfl⟩
  | item _ there _ _ ih =>
    cases h' with
    | item _ there' _ rest' =>
      rw [there, Option.some.injEq] at there'
      exact ih (there' ▸ rest')

/-- What a path reaches and is refused by itself is why the whole value is rejected. -/
theorem Reaches.read_eq_error {form : Form} {raw : Json} {path : List Nat} {g : Form} {x : Json}
    {inner : Rejection} (h : Reaches form raw path g x) (refuses : g.Refuses x inner) :
    form.read raw = .error (path.foldr .inItem inner) := by
  induction h with
  | here => exact read_of_refuses refuses
  | item counted there before _ ih =>
    exact read_list_eq_error_iff.2
      (Or.inr ⟨_, _, _, rfl, counted, ⟨_, there, ih refuses⟩, before, rfl⟩)

/-- **The exact cause.**  A form rejects a value exactly when a path reaches one that is refused
by itself; the cause is that of the refusal, inside the positions of the path. -/
theorem read_eq_error_iff {form : Form} {raw : Json} {cause : Rejection} :
    form.read raw = .error cause ↔ ∃ path g x inner, Reaches form raw path g x
      ∧ g.Refuses x inner ∧ path.foldr .inItem inner = cause := by
  constructor
  · intro rejected
    -- Induction on the form; only a list goes on, to the first of its items that is rejected.
    induction form generalizing raw cause with
    | list item length ih =>
      rcases read_list_eq_error_iff.1 rejected with
        refuses | ⟨raws, i, cause, rfl, counted, ⟨element, there, inside⟩, before, rfl⟩
      · exact ⟨[], _, _, _, .here, refuses, rfl⟩
      · obtain ⟨path, g, x, inner, reaches, refuses, rfl⟩ := ih inside
        exact ⟨i :: path, g, x, inner, .item counted there before reaches, refuses, rfl⟩
    | _ => exact ⟨[], _, _, _, .here, refuses_of_read (by simp) rejected, rfl⟩
  · rintro ⟨path, g, x, inner, reaches, refuses, rfl⟩
    exact reaches.read_eq_error refuses

-- The `null` after the text is not reached.
example : (list (list truth none) none).read
    (.arr [.arr [.bool true], .arr [.bool false, .str "x"], .null]) =
      .error (.inItem 1 (.inItem 1 (.wrongType "boolean" (.str "x")))) := rfl

/-! ### One path -/

theorem Refuses.ne_inItem {form : Form} {raw : Json} {cause : Rejection}
    (h : form.Refuses raw cause) (i : Nat) (inner : Rejection) : cause ≠ .inItem i inner := by
  cases h <;> simp

/-- The positions of a cause and what is inside them are determined by it. -/
theorem foldr_inItem_inj {inner inner' : Rejection} (own : ∀ i c, inner ≠ .inItem i c)
    (own' : ∀ i c, inner' ≠ .inItem i c) :
    ∀ {path path' : List Nat}, path.foldr .inItem inner = path'.foldr .inItem inner' →
      path = path' ∧ inner = inner'
  | [], [], same => ⟨rfl, same⟩
  | [], i :: path', same => absurd same (own _ _)
  | i :: path, [], same => absurd same.symm (own' _ _)
  -- The paths are peeled off together; neither cause names an item itself, so they end together.
  | i :: path, i' :: path', same => by
    rw [List.foldr_cons, List.foldr_cons, Rejection.inItem.injEq] at same
    obtain ⟨rfl, rest⟩ := same
    obtain ⟨rfl, rfl⟩ := foldr_inItem_inj own own' rest
    exact ⟨rfl, rfl⟩

/-- **One path.**  Whatever is reached and refused by itself, the path, the form, the value and the
cause are the same. -/
theorem Reaches.unique_path {form : Form} {raw : Json} {path path' : List Nat} {g g' : Form}
    {x x' : Json} {inner inner' : Rejection} (h : Reaches form raw path g x)
    (refuses : g.Refuses x inner) (h' : Reaches form raw path' g' x')
    (refuses' : g'.Refuses x' inner') : path' = path ∧ g' = g ∧ x' = x ∧ inner' = inner := by
  have same := (h'.read_eq_error refuses').symm.trans (h.read_eq_error refuses)
  obtain ⟨rfl, rfl⟩ := foldr_inItem_inj refuses'.ne_inItem refuses.ne_inItem
    (Except.error.inj same)
  obtain ⟨rfl, rfl⟩ := h'.unique_end h
  exact ⟨rfl, rfl, rfl, rfl⟩

end Form

/-! ## §4. The error of the codec -/

namespace Rejection

/-- A message inside the positions of a path, the outermost first. -/
def itemMessage : List Nat → String → String
  | [], message => message
  | i :: path, message => "第 " ++ countText i ++ " 项: " ++ itemMessage path message

theorem message_foldr_inItem (inner : Rejection) :
    ∀ path : List Nat, (path.foldr inItem inner).message = itemMessage path inner.message
  | [] => rfl
  | _ :: path => congrArg _ (message_foldr_inItem inner path)

theorem code_foldr_inItem (inner : Rejection) :
    ∀ path : List Nat, (path.foldr inItem inner).code = inner.code
  | [] => rfl
  | _ :: path => code_foldr_inItem inner path

end Rejection

namespace Form

/-- What is reached and refused by itself gives the error of the codec. -/
theorem Reaches.codec_read_eq_error {form : Form} {raw : Json} {path : List Nat} {g : Form}
    {x : Json} {inner : Rejection} (h : Reaches form raw path g x) (refuses : g.Refuses x inner) :
    form.codec.read raw = .error
      (.invalidOperand (Rejection.itemMessage path inner.message) (some inner.code) none) := by
  refine mapError_eq_error_iff.2 ⟨_, h.read_eq_error refuses, ?_⟩
  rw [Error.rejected, Rejection.message_foldr_inItem, Rejection.code_foldr_inItem]

/-- The codec rejects a value exactly when some path reaches one that is refused by itself. -/
theorem exists_codec_read_eq_error_iff {form : Form} {raw : Json} :
    (∃ error, form.codec.read raw = .error error) ↔
      ∃ path g x inner, Reaches form raw path g x ∧ g.Refuses x inner := by
  constructor
  · rintro ⟨error, rejected⟩
    obtain ⟨cause, rejected, -⟩ := mapError_eq_error_iff.1 rejected
    obtain ⟨path, g, x, inner, reaches, refuses, -⟩ := read_eq_error_iff.1 rejected
    exact ⟨path, g, x, inner, reaches, refuses⟩
  · rintro ⟨path, g, x, inner, reaches, refuses⟩
    exact ⟨_, reaches.codec_read_eq_error refuses⟩

end Form

end Sift
