/-
  Sift.Proofs.Filter.Rereading
  ────────────────────────────
  **When a written filter is read back.**

  The identifiers of a criterion lead back to its subject and its operator wherever the
  resolver knows these; what is left is the operand, which the operator's codec wrote and now
  has to read.  So, for subjects, operators and codecs that answer whatever they like:

      every codec reads what it wrote as an equal operand  ↔  the filter is read back equal
      some codec refuses what it wrote                     →  the error of the first one

  Main result: `Filter.read_toJson_iff`.
-/
import Sift.Proofs.Filter.Reading

namespace Sift

open Outcome

namespace Criterion

/-! ## §1. One criterion -/

/-- **The operand survives**: where the operator takes one, there is one, and the codec reads
what it wrote for it as an equal operand. -/
def KeepsOperand (criterion : Criterion) : Prop :=
  ∀ codec, criterion.operator.codec = some codec → ∃ operand, criterion.operand = some operand
    ∧ ∃ again, codec.read (codec.write operand) = .ok again ∧ again.sameAs operand = true

/-- The codec refuses what it wrote, null where there is no operand. -/
def Refuses (criterion : Criterion) (cause : Error) : Prop :=
  ∃ codec, criterion.operator.codec = some codec
    ∧ codec.read (written codec criterion.operand) = .error cause

section
variable {resolver : Resolver} {criterion : Criterion}
  (resolved : criterion.ResolvedBy resolver) (i : Nat)

include resolved

/-- The error of a written criterion is that of its codec. -/
theorem readAt_toJson_eq_error_iff {error : Error} :
    Criterion.readAt resolver i criterion.toJson = .error error ↔
      ∃ cause, criterion.Refuses cause ∧ error = cause.withPosition (some i) := by
  unfold Criterion.readAt Refuses
  cases hcodec : criterion.operator.codec with
  | none =>
    rw [outcome_read_toJson_bare resolved (some i) hcodec]
    simp
  | some codec =>
    rw [outcome_read_toJson_some resolved (some i) hcodec, map_eq_error_iff,
      mapError_eq_error_iff]
    simp [eq_comm]

/-- A written criterion is read back unless its codec refuses. -/
theorem exists_readAt_toJson_iff :
    (∃ again, Criterion.readAt resolver i criterion.toJson = .ok again) ↔
      ∀ cause, ¬ criterion.Refuses cause := by
  constructor
  · intro found cause refuses
    obtain ⟨again, h⟩ := found
    have hfail := (readAt_toJson_eq_error_iff resolved i).2 ⟨cause, refuses, rfl⟩
    rw [h] at hfail
    cases hfail
  · intro accepts
    -- Reading gives one or the other, and an error comes from a refusal.
    cases h : Criterion.readAt resolver i criterion.toJson with
    | ok again => exact ⟨again, rfl⟩
    | error error =>
      obtain ⟨cause, refuses, -⟩ := (readAt_toJson_eq_error_iff resolved i).1 h
      exact absurd refuses (accepts cause)

/-- A written criterion is read back equal exactly when its operand survives. -/
theorem readAt_toJson_sameAs_iff :
    (∃ again, Criterion.readAt resolver i criterion.toJson = .ok again
      ∧ again.sameAs criterion = true) ↔ criterion.KeepsOperand := by
  unfold Criterion.readAt KeepsOperand
  cases hcodec : criterion.operator.codec with
  | none =>
    rw [outcome_read_toJson_bare resolved (some i) hcodec]
    obtain ⟨bare, -⟩ := criterion.bare hcodec
    simp [sameAs, hcodec, bare, Operand.sameOptional]
  | some codec =>
    rw [outcome_read_toJson_some resolved (some i) hcodec]
    simp only [map_eq_ok_iff, mapError_eq_ok_iff]
    constructor
    · intro found other same
      cases same
      obtain ⟨_, ⟨operand, hread, rfl⟩, hsame⟩ := found
      simp only [sameAs, reread, subject_withRaw, operator_withRaw, operand_withRaw, hcodec,
        beq_self_eq_true, Bool.true_and, Option.bind_some] at hsame
      -- An operand that was read is not equal to a missing one.
      cases hoperand : criterion.operand with
      | none => simp [hoperand, Operand.sameOptional] at hsame
      | some stored =>
        rw [hoperand] at hread hsame
        exact ⟨stored, rfl, operand, hread, hsame⟩
    · intro keeps
      obtain ⟨stored, hoperand, operand, hread, hsame⟩ := keeps codec rfl
      refine ⟨_, ⟨operand, by rw [hoperand]; exact hread, rfl⟩, ?_⟩
      simp [sameAs, reread, hcodec, hoperand, Operand.sameOptional, hsame]

end

end Criterion

namespace Filter

/-! ## §2. Lists of criteria -/

/-- Lists of criteria are equal when they are equal one by one. -/
theorem sameCriteria_iff :
    ∀ as bs : List Criterion, sameCriteria as bs = true ↔
      as.length = bs.length
        ∧ ∀ (i : Nat) (a b : Criterion), as[i]? = some a → bs[i]? = some b →
          a.sameAs b = true
  | [], bs => by
      cases bs <;> simp [sameCriteria]
  | a :: as, bs => by
      cases bs with
      | nil => simp [sameCriteria]
      | cons b bs =>
        rw [sameCriteria, Bool.and_eq_true, sameCriteria_iff as bs]
        constructor
        · intro found
          obtain ⟨hhead, hlen, hall⟩ := found
          refine ⟨by simp [hlen], ?_⟩
          intro i c d hc hd
          -- Position zero is the heads, every later one the tails.
          cases i with
          | zero =>
            simp only [List.getElem?_cons_zero, Option.some.injEq] at hc hd
            exact hc ▸ hd ▸ hhead
          | succ i => exact hall i c d (by simpa using hc) (by simpa using hd)
        · intro found
          obtain ⟨hlen, hall⟩ := found
          refine ⟨hall 0 a b rfl rfl, by simpa using hlen, ?_⟩
          intro i c d hc hd
          exact hall (i + 1) c d (by simpa using hc) (by simpa using hd)

/-- **The first refusal**: the codec of the criterion at `i` refuses what it wrote, and none
before it does. -/
def FirstRefusal (filter : Filter) (i : Nat) (cause : Error) : Prop :=
  (∃ criterion, filter.criteria[i]? = some criterion ∧ criterion.Refuses cause)
    ∧ ∀ j < i, ∀ criterion, filter.criteria[j]? = some criterion →
      ∀ other, ¬ criterion.Refuses other

section
variable {resolver : Resolver} {filter : Filter}
  (resolved : ∀ criterion ∈ filter.criteria, criterion.ResolvedBy resolver)

include resolved

/-- The first failure of the payload is the first refusal, stamped. -/
theorem firstFailure_toJson_iff {i : Nat} {error : Error} :
    FirstFailure (Criterion.readAt resolver) 0 (filter.criteria.map (·.toJson)) i error ↔
      ∃ cause, filter.FirstRefusal i cause ∧ error = cause.withPosition (some i) := by
  unfold FirstFailure FirstRefusal
  simp only [List.getElem?_map, Option.map_eq_some_iff, Nat.zero_add]
  constructor
  · intro found
    -- What is found at the position is the criterion as it was written there.
    obtain ⟨⟨_, ⟨criterion, hi, rfl⟩, hfail⟩, hok⟩ := found
    have known := resolved criterion (List.mem_of_getElem? hi)
    obtain ⟨cause, refuses, rfl⟩ :=
      (Criterion.readAt_toJson_eq_error_iff known i).1 hfail
    refine ⟨cause, ⟨⟨criterion, hi, refuses⟩, ?_⟩, rfl⟩
    intro j hj earlier hearlier
    exact (Criterion.exists_readAt_toJson_iff
      (resolved earlier (List.mem_of_getElem? hearlier)) j).1
        (hok j hj _ ⟨earlier, hearlier, rfl⟩)
  · intro found
    obtain ⟨cause, ⟨⟨criterion, hi, refuses⟩, hok⟩, rfl⟩ := found
    have known := resolved criterion (List.mem_of_getElem? hi)
    refine ⟨⟨_, ⟨criterion, hi, rfl⟩,
      (Criterion.readAt_toJson_eq_error_iff known i).2 ⟨cause, refuses, rfl⟩⟩, ?_⟩
    intro j hj fragment found
    obtain ⟨earlier, hearlier, rfl⟩ := found
    exact (Criterion.exists_readAt_toJson_iff
      (resolved earlier (List.mem_of_getElem? hearlier)) j).2 (hok j hj earlier hearlier)

/-- A written filter is read back equal exactly when each of its criteria is. -/
theorem read_toJson_sameAs_iff :
    (∃ again, (read resolver filter.toJson).outcome = .ok again
      ∧ again.sameAs filter = true) ↔
      ∀ criterion ∈ filter.criteria, criterion.KeepsOperand := by
  have readBack := @outcome_read_eq_ok_iff resolver filter.toJson filter.mode
    (filter.criteria.map (·.toJson)) (get?_mode_toJson filter) (get?_conditions_toJson filter)
  constructor
  · intro found criterion hmem
    obtain ⟨again, hread, hsame⟩ := found
    obtain ⟨-, hlen, hall⟩ := readBack.1 hread
    simp only [sameAs, Bool.and_eq_true, sameCriteria_iff] at hsame
    obtain ⟨i, hi⟩ := List.getElem?_of_mem hmem
    -- The criterion of the same position in what was read.
    rw [List.length_map] at hlen
    obtain ⟨other, hother⟩ := exists_getElem?_of_length_eq hlen.symm hi
    have accepted := hall i criterion.toJson other (by rw [List.getElem?_map, hi]; rfl) hother
    apply (Criterion.readAt_toJson_sameAs_iff (resolved criterion hmem) i).1
    exact ⟨other, accepted, hsame.2.2 i other criterion hother hi⟩
  · intro keeps
    -- Every criterion is read back, so the filter is, and then each is the one that was found.
    have each := fun criterion hmem (i : Nat) =>
      (Criterion.readAt_toJson_sameAs_iff (resolved criterion hmem) i).2 (keeps criterion hmem)
    obtain ⟨again, hread⟩ := (exists_outcome_read_eq_ok_iff (get?_mode_toJson filter)
      (get?_conditions_toJson filter)).2 (by
        intro i fragment hi
        rw [List.getElem?_map, Option.map_eq_some_iff] at hi
        obtain ⟨criterion, hcriterion, rfl⟩ := hi
        obtain ⟨c, hc, -⟩ := each criterion (List.mem_of_getElem? hcriterion) i
        exact ⟨c, hc⟩)
    obtain ⟨hmode, hlen, hall⟩ := readBack.1 hread
    refine ⟨again, hread, ?_⟩
    simp only [sameAs, Bool.and_eq_true, sameCriteria_iff]
    refine ⟨by simp [hmode], by simpa using hlen.symm, ?_⟩
    intro i a c ha hc
    have hread_i := hall i c.toJson a (by rw [List.getElem?_map, hc]; rfl) ha
    obtain ⟨a', ha', hsame⟩ := each c (List.mem_of_getElem? hc) i
    rw [hread_i, Except.ok.injEq] at ha'
    exact ha' ▸ hsame

/-- The error of a written filter is that of its first refusal, stamped. -/
theorem read_toJson_eq_error_iff {error : Error} :
    (read resolver filter.toJson).outcome = .error error ↔
      ∃ i cause, filter.FirstRefusal i cause ∧ error = cause.withPosition (some i) := by
  rw [outcome_read_eq_error_iff (get?_mode_toJson filter) (get?_conditions_toJson filter)]
  simp only [firstFailure_toJson_iff resolved]

/-- One codec that refuses is enough for an error. -/
theorem exists_read_toJson_eq_error
    (h : ∃ criterion ∈ filter.criteria, ∃ cause, criterion.Refuses cause) :
    ∃ error, (read resolver filter.toJson).outcome = .error error := by
  obtain ⟨criterion, hmem, cause, refuses⟩ := h
  -- Were the filter read, so would be every criterion, this one included.
  cases hread : (read resolver filter.toJson).outcome with
  | error error => exact ⟨error, rfl⟩
  | ok again =>
      obtain ⟨i, hi⟩ := List.getElem?_of_mem hmem
      have accepted := (exists_outcome_read_eq_ok_iff (get?_mode_toJson filter)
        (get?_conditions_toJson filter)).1 ⟨again, hread⟩ i criterion.toJson
          (by rw [List.getElem?_map, hi]; rfl)
      exact absurd refuses
        ((Criterion.exists_readAt_toJson_iff (resolved criterion hmem) i).1 accepted cause)

/-- **THE EXACT ROUND-TRIP CRITERION.**  For every resolver that knows the criteria of a
filter, whatever its subjects, operators and codecs do: the payload of the filter is read back
as an equal filter exactly when every criterion keeps its operand; its error is that of the
first codec that refuses what it wrote, with the position of that criterion where its kind of
error has one; and a codec that refuses is enough for an error. -/
theorem read_toJson_iff :
    ((∃ again, (read resolver filter.toJson).outcome = .ok again
        ∧ again.sameAs filter = true) ↔
      ∀ criterion ∈ filter.criteria, criterion.KeepsOperand)
    ∧ (∀ error, (read resolver filter.toJson).outcome = .error error ↔
        ∃ i cause, filter.FirstRefusal i cause ∧ error = cause.withPosition (some i)
          ∧ error.position? = if cause.isPlaced then some i else none)
    ∧ ((∃ criterion ∈ filter.criteria, ∃ cause, criterion.Refuses cause) →
        ∃ error, (read resolver filter.toJson).outcome = .error error) := by
  refine ⟨read_toJson_sameAs_iff resolved, ?_, exists_read_toJson_eq_error resolved⟩
  intro error
  rw [read_toJson_eq_error_iff resolved]
  constructor
  · intro h
    obtain ⟨i, cause, first, stamped⟩ := h
    refine ⟨i, cause, first, stamped, ?_⟩
    rw [stamped]
    exact Error.position?_withPosition cause (some i)
  · intro h
    obtain ⟨i, cause, first, stamped, -⟩ := h
    exact ⟨i, cause, first, stamped⟩

end

/-- A catalog of one subject, whose only operator takes a text. -/
def titleCatalog : Catalog where
  subjects := [((FieldSubject.of "title").withOperator
    (StandardOperator.of .is).toOperator).toSubject]
  sorted := List.pairwise_singleton _ _

/-- A criterion on the title, with or without an operand. -/
def titleIs (operand : Option Operand) : Criterion :=
  Criterion.of ((FieldSubject.of "title").withOperator
    (StandardOperator.of .is).toOperator).toSubject (StandardOperator.of .is).toOperator operand

/-- A second criterion without an operand: what is written for it is refused, at its
position. -/
theorem read_toJson_missing_operand :
    (∀ criterion ∈ [titleIs (some (.text "a")), titleIs none],
      criterion.ResolvedBy titleCatalog.find)
    ∧ (read titleCatalog.find
        (Filter.mk .all [titleIs (some (.text "a")), titleIs none]).toJson).outcome =
      .error (.invalidOperand "必须提供值" (some "required") (some 1)) := by
  have resolved : ∀ criterion ∈ [titleIs (some (.text "a")), titleIs none],
      criterion.ResolvedBy titleCatalog.find := by
    intro criterion hmem
    simp only [List.mem_cons, List.not_mem_nil, or_false] at hmem
    rcases hmem with rfl | rfl <;> exact ⟨rfl, rfl⟩
  have law := (@read_toJson_iff _ (.mk .all _) resolved).2.1
  refine ⟨resolved, (law _).2 ⟨1, Error.rejected .missing,
    ⟨⟨titleIs none, rfl, _, rfl, rfl⟩, ?_⟩, rfl, rfl⟩⟩
  -- The first criterion has its text.
  intro j hj criterion hcriterion cause refuses
  obtain rfl : j = 0 := by omega
  cases hcriterion
  obtain ⟨codec, taken, refused⟩ := refuses
  cases taken
  cases refused

end Filter

end Sift
