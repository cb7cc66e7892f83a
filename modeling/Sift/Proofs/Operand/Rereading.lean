/-
  Sift.Proofs.Operand.Rereading
  ─────────────────────────────
  **When a written operand is read back by its form.**

  A form reads many spellings of an operand and writes one.  What it has read *fits* it:

      Fits — the operand is of the form's type, inside its bounds, and its instants are
             regular (`Sift.Proofs.Instant.Text`), at every depth of a list

  An operand that fits is read back from what its form writes for it, as the same operand,
  **exactly when all its instants have plain years**; any other instant is refused as an
  invalid one, however deep it is.

  Main results:
  - `Form.fits_of_read` : what a form reads fits it,
  - `Form.read_write` : an operand that fits, of plain years, is read back,
  - `Form.read_write_error` : an instant of any other year is refused,
  - `Form.codec_read_again_iff` : the same of the form's codec, for whatever it has read.
-/
import Sift.Operator.Basic
import Sift.Proofs.Instant.Text
import Sift.Proofs.Operand.Items
import Sift.Proofs.Outcome

namespace Sift

open Outcome

/-! ## §1. The instants of an operand -/

namespace Operand

mutual
/-- The instants of an operand, at every depth. -/
def instants : Operand → List Instant
  | instant t => [t]
  | list items => itemInstants items
  | _ => []
termination_by structural o => o

/-- The instants of each item. -/
def itemInstants : List Operand → List Instant
  | [] => []
  | o :: rest => instants o ++ itemInstants rest
termination_by structural os => os
end

/-- The instants of the items are collected one by one. -/
theorem mem_itemInstants {t : Instant} {items : List Operand} :
    t ∈ itemInstants items ↔ ∃ o ∈ items, t ∈ o.instants := by
  induction items with
  | nil => simp [itemInstants]
  | cons o rest ih => simp [itemInstants, ih]

/-- **Every instant has a plain year**, so that its text is read back. -/
def HasPlainYears (o : Operand) : Prop := ∀ t ∈ o.instants, t.HasPlainYear

/-- A list has plain years exactly when its items have. -/
theorem hasPlainYears_list {items : List Operand} :
    (list items).HasPlainYears ↔ ∀ o ∈ items, o.HasPlainYears := by
  constructor
  · intro h o ho t ht
    exact h t (mem_itemInstants.2 ⟨o, ho, ht⟩)
  · intro h t ht
    obtain ⟨o, ho, hto⟩ := mem_itemInstants.1 ht
    exact h o ho t hto

end Operand

namespace Form

/-! ## §2. Operands that fit a form -/

/-- **An operand fits a form**: it is one that the form can read. -/
inductive Fits : Form → Operand → Prop
  | text {s : String} : Fits text (.text s)
  | number {least greatest : Option Binary64} {x : Binary64.Finite}
      (inside : checkNumber least greatest (.finite x) = .ok (.number (.finite x))) :
      Fits (number least greatest) (.number (.finite x))
  | integer {least greatest : Option Int64} {w : Int64}
      (inside : checkInteger least greatest w = .ok (.integer w)) :
      Fits (integer least greatest) (.integer w)
  | truth {b : Bool} : Fits truth (.truth b)
  | options {allowed : List String} {s : String} (member : allowed.contains s = true) :
      Fits (options allowed) (.text s)
  | pattern {p : Pattern} : Fits pattern (.pattern p)
  | instant {t : Instant} (regular : t.Regular) : Fits instant (.instant t)
  | list {item : Form} {length : Option UInt64} {items : List Operand}
      (counted : checkLength length items.length = .ok ()) (each : ∀ o ∈ items, Fits item o) :
      Fits (list item length) (.list items)

/-- A number that is not refused is kept. -/
theorem eq_of_checkNumber {least greatest : Option Binary64} {x : Binary64} {o : Operand}
    (h : checkNumber least greatest x = .ok o) : o = .number x := by
  unfold checkNumber at h
  split at h
  · cases h
  · cases h
  · cases h
    rfl

/-- A whole number that is not refused is kept. -/
theorem eq_of_checkInteger {least greatest : Option Int64} {w : Int64} {o : Operand}
    (h : checkInteger least greatest w = .ok o) : o = .integer w := by
  unfold checkInteger at h
  split at h
  · cases h
  · cases h
  · cases h
    rfl

/-- A number that was read is finite. -/
theorem finite_of_numeric? {raw : Json} {x : Binary64} (h : raw.numeric? = some x) :
    ∃ y, x = .finite y := by
  have finite : x.isFinite = true := by
    unfold Json.numeric? at h
    split at h
    · exact (Option.filter_eq_some_iff.1 h).2
    · exact (Option.filter_eq_some_iff.1 h).2
    · cases h
  cases x with
  | finite y => exact ⟨y, rfl⟩
  | nan => cases finite
  | infinite negative => cases finite

/-- A raw value that is read is not null, and the reader of the type reads it. -/
theorem read_of_required {read : Json → Except Rejection Operand} {raw : Json} {o : Operand}
    (h : required read raw = .ok o) : read raw = .ok o := by
  unfold required at h
  split at h
  · cases h
  · exact h

/-! ## §3. Lists -/

/-- The items of a list are read in order, and an error names the position of its item. -/
theorem readItems_eq_inOrder (read : Json → Except Rejection Operand) :
    ∀ (position : Nat) (raws : List Json), readItems read position raws =
      inOrder (fun i raw => (read raw).mapError (.inItem i)) position raws
  | _, [] => rfl
  | position, raw :: rest => by
      -- Both recursions are on the list; the position only counts along.
      have ih := readItems_eq_inOrder read (position + 1) rest
      cases h : read raw with
      | error cause =>
        rw [inOrder_cons_error (mapError_eq_error_iff.2 ⟨cause, h, rfl⟩)]
        simp only [readItems, h]
      | ok item =>
        rw [inOrder_cons_ok (mapError_eq_ok_iff.2 h), ← ih]
        simp only [readItems, h]
        cases readItems read (position + 1) rest <;> rfl

/-- A list of items is read exactly when each item is. -/
theorem readItems_eq_ok_iff {read : Json → Except Rejection Operand} {raws : List Json}
    {items : List Operand} :
    readItems read 0 raws = .ok items ↔ raws.length = items.length
      ∧ ∀ (i : Nat) raw o, raws[i]? = some raw → items[i]? = some o → read raw = .ok o := by
  rw [readItems_eq_inOrder, inOrder_eq_ok_iff]
  simp only [mapError_eq_ok_iff]

/-- A list of items is refused for the first item that is, which the error names. -/
theorem readItems_eq_error_iff {read : Json → Except Rejection Operand} {raws : List Json}
    {cause : Rejection} :
    readItems read 0 raws = .error cause ↔ ∃ i inner, cause = .inItem i inner
      ∧ (∃ raw, raws[i]? = some raw ∧ read raw = .error inner)
      ∧ ∀ j < i, ∀ raw, raws[j]? = some raw → ∃ o, read raw = .ok o := by
  rw [readItems_eq_inOrder, inOrder_eq_error_iff]
  simp only [FirstFailure, mapError_eq_error_iff, mapError_eq_ok_iff, Nat.zero_add]
  -- The first item that is refused gives its cause, under its position.
  constructor
  · intro h
    obtain ⟨i, ⟨raw, hraw, inner, refused, rfl⟩, before⟩ := h
    exact ⟨i, inner, rfl, ⟨raw, hraw, refused⟩, before⟩
  · intro h
    obtain ⟨i, inner, rfl, ⟨raw, hraw, refused⟩, before⟩ := h
    exact ⟨i, ⟨raw, hraw, inner, refused, rfl⟩, before⟩

/-- A list with an item that is refused is refused. -/
theorem exists_readItems_eq_error {read : Json → Except Rejection Operand} {raws : List Json}
    {raw : Json} (member : raw ∈ raws) {inner : Rejection} (refused : read raw = .error inner) :
    ∃ cause, readItems read 0 raws = .error cause := by
  cases hread : readItems read 0 raws with
  | error cause => exact ⟨cause, rfl⟩
  | ok items =>
      obtain ⟨same, each⟩ := readItems_eq_ok_iff.1 hread
      -- Were all items read, so would be this one.
      obtain ⟨i, hi⟩ := List.getElem?_of_mem member
      obtain ⟨o, ho⟩ := exists_getElem?_of_length_eq same.symm hi
      have accepted := each i raw o hi ho
      rw [refused] at accepted
      cases accepted

/-- A list is refused exactly for a length that is not the declared one. -/
theorem checkLength_eq_error_iff {length : Option UInt64} {actual : Nat} {cause : Rejection} :
    checkLength length actual = .error cause ↔ ∃ count, length = some count
      ∧ count.toNat ≠ actual ∧ .wrongLength count.toNat actual = cause := by
  unfold checkLength
  cases length with
  | none => simp
  | some count => by_cases same : count.toNat = actual <;> simp [Option.filter, same]

/-- It is not refused exactly where it has the declared length. -/
theorem checkLength_eq_ok_iff {length : Option UInt64} {actual : Nat} :
    checkLength length actual = .ok () ↔ ∀ count, length = some count → count.toNat = actual := by
  unfold checkLength
  cases length with
  | none => simp
  | some count => by_cases same : count.toNat = actual <;> simp [Option.filter, same]

/-- A list is refused for the length first, and then for the first item that is refused. -/
theorem readList_eq {read : Json → Except Rejection Operand} {length : Option UInt64}
    {raws : List Json} :
    readList read length (.arr raws) =
      (checkLength length raws.length).bind fun _ => (readItems read 0 raws).map .list := by
  simp only [readList]
  cases checkLength length raws.length with
  | error cause => rfl
  | ok _ => cases readItems read 0 raws <;> rfl

/-- **A list is read from an array of its length, item by item.** -/
theorem exists_items_of_read_list {item : Form} {length : Option UInt64} {raw : Json} {o : Operand}
    (h : (list item length).read raw = .ok o) :
    ∃ raws items, raw = .arr raws ∧ o = .list items ∧ raws.length = items.length
      ∧ checkLength length items.length = .ok ()
      ∧ ∀ (i : Nat) raw o, raws[i]? = some raw → items[i]? = some o → item.read raw = .ok o := by
  have accepted := read_of_required h
  cases raw with
  | arr raws =>
    -- The count is checked before the items are read.
    rw [readList_eq, bind_eq_ok_iff] at accepted
    obtain ⟨_, counted, accepted⟩ := accepted
    obtain ⟨items, read, rfl⟩ := map_eq_ok_iff.1 accepted
    obtain ⟨same, each⟩ := readItems_eq_ok_iff.1 read
    exact ⟨raws, items, rfl, rfl, same, same ▸ counted, each⟩
  | _ => cases accepted

/-! ## §4. What is read fits -/

/-- **What a form reads fits it.** -/
theorem fits_of_read :
    ∀ {form : Form} {raw : Json} {o : Operand}, form.read raw = .ok o → form.Fits o
  | text, raw, o, h => by
      have accepted := read_of_required h
      unfold readText at accepted
      split at accepted
      · cases accepted
        exact .text
      · cases accepted
        exact .text
      · cases accepted
  | number least greatest, raw, o, h => by
      have accepted := read_of_required h
      unfold readNumber at accepted
      split at accepted
      · rename_i x numeric
        -- What is read as a number is finite, so a bound that is met is met by a number.
        obtain ⟨y, rfl⟩ := finite_of_numeric? numeric
        have kept := eq_of_checkNumber accepted
        rw [kept] at accepted ⊢
        exact .number accepted
      · cases accepted
  | integer least greatest, raw, o, h => by
      have accepted := read_of_required h
      unfold readInteger at accepted
      split at accepted
      · have kept := eq_of_checkInteger accepted
        rw [kept] at accepted ⊢
        exact .integer accepted
      · cases accepted
  | truth, raw, o, h => by
      have accepted := read_of_required h
      unfold readTruth at accepted
      split at accepted
      · cases accepted
        exact .truth
      · split at accepted
        · cases accepted
          exact .truth
        split at accepted
        · cases accepted
          exact .truth
        · cases accepted
      · cases accepted
  | options allowed, raw, o, h => by
      have accepted := read_of_required h
      unfold readOption at accepted
      split at accepted
      · split at accepted
        · rename_i member
          cases accepted
          exact .options member
        · cases accepted
      · cases accepted
  | pattern, raw, o, h => by
      have accepted := read_of_required h
      unfold readPattern at accepted
      split at accepted
      · split at accepted
        · cases accepted
          exact .pattern
        · cases accepted
      · cases accepted
  | instant, raw, o, h => by
      have accepted := read_of_required h
      unfold readInstant at accepted
      split at accepted
      · split at accepted
        · rename_i t denoted
          cases accepted
          exact .instant (Instant.regular_of_ofText? denoted)
        · cases accepted
      · cases accepted
  | list item length, raw, o, h => by
      obtain ⟨raws, items, rfl, rfl, same, counted, each⟩ := exists_items_of_read_list h
      refine .list counted ?_
      intro o ho
      obtain ⟨i, hi⟩ := List.getElem?_of_mem ho
      obtain ⟨raw, hraw⟩ := exists_getElem?_of_length_eq same hi
      exact fits_of_read (each i raw o hraw hi)

/-! ## §5. What fits equals itself -/

/-- **An operand that fits equals itself**: no NaN fits. -/
theorem sameAs_self_of_fits {form : Form} {o : Operand} (fits : form.Fits o) :
    o.sameAs o = true := by
  induction fits with
  | text => simp [Operand.sameAs]
  | number => simp [Operand.sameAs, Binary64.eq]
  | integer => simp [Operand.sameAs]
  | truth => simp [Operand.sameAs]
  | options => simp [Operand.sameAs]
  | pattern => simp [Operand.sameAs]
  | instant => simp [Operand.sameAs]
  | list _ _ ih =>
      rw [Operand.sameAs]
      exact Operand.sameItems_iff.2 (List.forall₂_same.2 ih)

/-! ## §6. Reading what was written -/

/-- A pattern is read back from its text. -/
theorem ofText?_source (p : Pattern) : Pattern.ofText? p.source = some p := by
  unfold Pattern.ofText?
  split
  · exact congrArg some (Pattern.eq_of_source rfl)
  · rename_i h
    rw [p.compiled] at h
    cases h

/-- **An operand that fits is read back from what its form writes**, where its instants have
plain years. -/
theorem read_write {form : Form} {o : Operand} (fits : form.Fits o) (plain : o.HasPlainYears) :
    form.read (form.write o) = .ok o := by
  -- Induction on the fit; a list reads its items back by their own fits.
  induction fits with
  | text => rfl
  | number inside => exact inside
  | @integer least greatest w inside =>
      show readInteger least greatest (.ofSignedWord w) = _
      have word : integerOf? (.ofSignedWord w) = some w := signedWord?_toInt w
      simp only [readInteger, word]
      exact inside
  | truth => rfl
  | options member =>
      show (if _ then _ else _) = _
      rw [if_pos member]
  | @pattern p =>
      show readPattern (.str p.source) = _
      simp only [readPattern, ofText?_source]
  | @instant t regular =>
      have year := plain t List.mem_cons_self
      simp only [read, write, Operand.toJson, required, readInstant,
        Instant.ofText?_text regular year]
  | @list item length items counted each ih =>
      have plainItems := Operand.hasPlainYears_list.1 plain
      have readBack : readItems item.read 0 (items.map item.write) = .ok items := by
        rw [readItems_eq_ok_iff]
        refine ⟨List.length_map .., ?_⟩
        intro i raw o hraw ho
        rw [List.getElem?_map, ho] at hraw
        cases hraw
        have member := List.mem_of_getElem? ho
        exact ih o member (plainItems o member)
      show readList item.read length (.arr (items.map item.write)) = _
      rw [readList_eq, List.length_map, counted, readBack]
      rfl

/-- **An instant of any other year is refused**, and nothing else about the operand is. -/
theorem read_write_error {form : Form} {o : Operand} (fits : form.Fits o)
    (signed : ¬ o.HasPlainYears) :
    ∃ cause, form.read (form.write o) = .error cause ∧ cause.code = "invalid_datetime" := by
  have noInstants : ∀ {o : Operand}, o.instants = [] → o.HasPlainYears := by
    intro o empty t ht
    rw [empty] at ht
    cases ht
  -- Only an instant, or a list that has one, can have such a year.
  induction fits with
  | text => exact absurd (noInstants rfl) signed
  | number => exact absurd (noInstants rfl) signed
  | integer => exact absurd (noInstants rfl) signed
  | truth => exact absurd (noInstants rfl) signed
  | options => exact absurd (noInstants rfl) signed
  | pattern => exact absurd (noInstants rfl) signed
  | @instant t regular =>
      have year : ¬ t.HasPlainYear := by
        intro plain
        apply signed
        intro u hu
        rw [List.mem_singleton.1 hu]
        exact plain
      refine ⟨.invalidInstant t.text, ?_, rfl⟩
      simp only [read, write, Operand.toJson, required, readInstant,
        Instant.ofText?_text_eq_none year]
  | @list item length items counted each ih =>
      rw [Operand.hasPlainYears_list] at signed
      -- One of the items is refused, so the list of them is.
      have failed : ∃ cause, readItems item.read 0 (items.map item.write) = .error cause := by
        by_cases some : ∃ o ∈ items, ¬ o.HasPlainYears
        · obtain ⟨o, member, year⟩ := some
          obtain ⟨inner, refused, -⟩ := ih o member year
          exact exists_readItems_eq_error (List.mem_map_of_mem member) refused
        exfalso
        apply signed
        intro o member
        by_cases plain : o.HasPlainYears
        · exact plain
        · exact absurd ⟨o, member, plain⟩ some
      -- The first item that is refused has such a year, and its code stays.
      obtain ⟨cause, hread⟩ := failed
      obtain ⟨i, inner, rfl, ⟨raw, hraw, refused⟩, -⟩ := readItems_eq_error_iff.1 hread
      rw [List.getElem?_map, Option.map_eq_some_iff] at hraw
      obtain ⟨o, ho, rfl⟩ := hraw
      have member := List.mem_of_getElem? ho
      have year : ¬ o.HasPlainYears := by
        intro plain
        rw [read_write (each o member) plain] at refused
        cases refused
      obtain ⟨known, same, code⟩ := ih o member year
      rw [refused] at same
      cases same
      refine ⟨.inItem i inner, ?_, code⟩
      show readList item.read length (.arr (items.map item.write)) = _
      rw [readList_eq, List.length_map, counted, hread]
      rfl

/-- **The exact condition for one operand**: what a form has read is read back from what it
writes, as an equal operand, exactly when its instants have plain years. -/
theorem read_write_iff {form : Form} {o : Operand} (fits : form.Fits o) :
    (∃ again, form.read (form.write o) = .ok again ∧ again.sameAs o = true) ↔
      o.HasPlainYears := by
  constructor
  · intro h
    obtain ⟨again, accepted, -⟩ := h
    by_cases plain : o.HasPlainYears
    · exact plain
    -- A year with a sign is written but never read.
    obtain ⟨cause, refused, -⟩ := read_write_error fits plain
    rw [refused] at accepted
    cases accepted
  · intro plain
    exact ⟨o, read_write fits plain, sameAs_self_of_fits fits⟩

/-! ## §7. The codec of a form -/

theorem codec_read_eq_ok_iff {form : Form} {raw : Json} {o : Operand} :
    form.codec.read raw = .ok o ↔ form.read raw = .ok o :=
  mapError_eq_ok_iff

/-- The codec refuses an instant of any other year by the code of an invalid one. -/
theorem codec_read_write_error {form : Form} {o : Operand} (fits : form.Fits o)
    (signed : ¬ o.HasPlainYears) : ∃ message, form.codec.read (form.codec.write o) =
      .error (.invalidOperand message (some "invalid_datetime") none) := by
  obtain ⟨cause, refused, code⟩ := read_write_error fits signed
  refine ⟨cause.message, mapError_eq_error_iff.2 ⟨cause, refused, ?_⟩⟩
  unfold Error.rejected
  rw [code]

/-- What the codec accepts of its own writing has plain years. -/
theorem hasPlainYears_of_codec_read_write {form : Form} {o again : Operand} (fits : form.Fits o)
    (accepted : form.codec.read (form.codec.write o) = .ok again) : o.HasPlainYears := by
  by_cases plain : o.HasPlainYears
  · exact plain
  obtain ⟨message, refused⟩ := codec_read_write_error fits plain
  rw [refused] at accepted
  cases accepted

/-- **WHEN A STORED OPERAND CAN BE READ AGAIN.**  Let the codec of a form read an operand from any
raw value.  What it writes for that operand is read again, as an equal operand that is written
alike, exactly when every instant in it, at whatever depth of lists, has a year of `0` to `9999`;
nothing but the operand itself can be read from it.  With another year it is refused, and the code
of the error is that of an invalid instant. -/
theorem codec_read_again_iff {form : Form} {raw : Json} {o : Operand}
    (stored : form.codec.read raw = .ok o) :
    ((∃ again, form.codec.read (form.codec.write o) = .ok again ∧ again.sameAs o = true
        ∧ form.codec.write again = form.codec.write o) ↔
      ∀ t ∈ o.instants, 0 ≤ t.date.year ∧ t.date.year ≤ 9999)
    ∧ (∀ again, form.codec.read (form.codec.write o) = .ok again → again = o)
    ∧ ((∃ t ∈ o.instants, t.date.year < 0 ∨ 9999 < t.date.year) →
        ∃ message, form.codec.read (form.codec.write o) =
          .error (.invalidOperand message (some "invalid_datetime") none)) := by
  have fits := fits_of_read (codec_read_eq_ok_iff.1 stored)
  have accepted (plain : o.HasPlainYears) : form.codec.read (form.codec.write o) = .ok o :=
    codec_read_eq_ok_iff.2 (read_write fits plain)
  -- With plain years all that is written is read back; a signed year is what refuses it.
  refine ⟨⟨?_, ?_⟩, ?_, ?_⟩
  · intro ⟨again, read, _, _⟩
    exact hasPlainYears_of_codec_read_write fits read
  · intro plain
    exact ⟨o, accepted plain, sameAs_self_of_fits fits, rfl⟩
  · intro again read
    rw [accepted (hasPlainYears_of_codec_read_write fits read)] at read
    cases read
    rfl
  · intro ⟨t, member, year⟩
    refine codec_read_write_error fits fun plain => ?_
    have : 0 ≤ t.date.year ∧ t.date.year ≤ 9999 := plain t member
    omega

/-- The form of lists of lists of instants. -/
def schedule : Form := list (list instant none) none

/-- A text that denotes an instant is read as one at any depth. -/
theorem codec_read_schedule {text : String} {t : Instant} (h : Instant.ofText? text = some t) :
    schedule.codec.read (.arr [.arr [.str text]]) = .ok (.list [.list [.instant t]]) := by
  rw [codec_read_eq_ok_iff]
  simp only [schedule, read, required, readList, checkLength, readItems, readInstant, h,
    Option.filter_none]

/-- A leap second in a list of lists is read again, and a year of five digits is refused. -/
theorem codec_read_again_schedule :
    (∃ o, schedule.codec.read (.arr [.arr [.str "2017-01-01T08:59:60.5+09:00"]]) = .ok o
      ∧ ∃ again, schedule.codec.read (schedule.codec.write o) = .ok again ∧ again.sameAs o = true
        ∧ schedule.codec.write again = schedule.codec.write o)
    ∧ ∃ o, schedule.codec.read (.arr [.arr [.str "9999-12-31T23:59:59-01:00"]]) = .ok o
      ∧ ∃ message, schedule.codec.read (schedule.codec.write o) =
        .error (.invalidOperand message (some "invalid_datetime") none) := by
  have leap : Instant.ofText? "2017-01-01T08:59:60.5+09:00" =
      some ⟨⟨2016, 12, 31, by decide⟩, 86399, 1500000000, by decide, by decide⟩ := by
    decide +kernel
  have late : Instant.ofText? "9999-12-31T23:59:59-01:00" =
      some ⟨⟨10000, 1, 1, by decide⟩, 3599, 0, by decide, by decide⟩ := by
    decide +kernel
  have storedLeap := codec_read_schedule leap
  have storedLate := codec_read_schedule late
  refine ⟨⟨_, storedLeap, (codec_read_again_iff storedLeap).1.2 ?_⟩,
    _, storedLate, (codec_read_again_iff storedLate).2.2 ⟨_, List.mem_cons_self, .inr (by decide)⟩⟩
  intro t ht
  cases List.mem_singleton.1 ht
  decide

end Form

end Sift
