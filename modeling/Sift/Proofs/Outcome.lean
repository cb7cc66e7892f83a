/-
  Sift.Proofs.Outcome
  ───────────────────
  **Sequences of outcomes, up to the first error.**

  An outcome is a value or an error; a sequence of them succeeds when each does.  `inOrder f k`
  applies `f` to the items of a list with their positions, counted from `k` on, and stops at the
  first error: the criteria of a filter and the items of a list operand are read so.

  Main results:
    * `inOrder_eq_ok_iff` — it succeeds exactly when every item does, and then holds what the
      items give, in order.
    * `inOrder_eq_error_iff` — its error is that of the least failing position.
-/

namespace Sift

variable {α β ε ε' : Type}

/-! ## §1. One after the other -/

namespace Outcome

theorem bind_eq_ok_iff {x : Except ε α} {f : α → Except ε β} {b : β} :
    x.bind f = .ok b ↔ ∃ a, x = .ok a ∧ f a = .ok b := by
  cases x <;> simp [Except.bind]

theorem bind_eq_error_iff {x : Except ε α} {f : α → Except ε β} {error : ε} :
    x.bind f = .error error ↔ x = .error error ∨ ∃ a, x = .ok a ∧ f a = .error error := by
  cases x <;> simp [Except.bind]

/-- A sequence goes on only with what came before. -/
theorem bind_congr {x : Except ε α} {f g : α → Except ε β} (same : ∀ a, x = .ok a → f a = g a) :
    x.bind f = x.bind g := by
  cases x with
  | error cause => rfl
  | ok a => exact same a rfl

theorem map_eq_ok_iff {x : Except ε α} {f : α → β} {b : β} :
    x.map f = .ok b ↔ ∃ a, x = .ok a ∧ f a = b := by
  cases x <;> simp [Except.map]

theorem map_eq_error_iff {x : Except ε α} {f : α → β} {error : ε} :
    x.map f = .error error ↔ x = .error error := by
  cases x <;> simp [Except.map]

theorem mapError_eq_ok_iff {x : Except ε α} {f : ε → ε'} {a : α} :
    x.mapError f = .ok a ↔ x = .ok a := by
  constructor
  · intro h
    cases x with
    | error cause => cases h
    | ok b =>
      cases h
      rfl
  · intro h
    rw [h]
    rfl

theorem mapError_eq_error_iff {x : Except ε α} {f : ε → ε'} {error : ε'} :
    x.mapError f = .error error ↔ ∃ cause, x = .error cause ∧ f cause = error := by
  constructor
  · intro h
    cases x with
    | error cause =>
      cases h
      exact ⟨cause, rfl, rfl⟩
    | ok b => cases h
  · intro h
    obtain ⟨cause, hcause, hchange⟩ := h
    rw [hcause, ← hchange]
    rfl

theorem mapError_bind (change : ε → ε') (x : Except ε α) (f : α → Except ε β) :
    (x.bind f).mapError change = (x.mapError change).bind fun a => (f a).mapError change := by
  cases x <;> rfl

theorem mapError_mapError {ε'' : Type} (f : ε → ε') (g : ε' → ε'') (x : Except ε α) :
    (x.mapError f).mapError g = x.mapError fun e => g (f e) := by
  cases x <;> rfl

end Outcome

open Outcome

/-- Lists of one length have items at the same positions. -/
theorem exists_getElem?_of_length_eq {as : List α} {bs : List β} (same : as.length = bs.length)
    {i : Nat} {b : β} (h : bs[i]? = some b) : ∃ a, as[i]? = some a := by
  have inside : i < as.length := by
    rw [same]
    exact (List.getElem?_eq_some_iff.1 h).1
  exact ⟨as[i], List.getElem?_eq_getElem inside⟩

/-! ## §2. Items in order -/

/-- Applies `f` to items and their positions, up to the first error. -/
def inOrder (f : Nat → α → Except ε β) (k : Nat) : List α → Except ε (List β)
  | [] => .ok []
  | a :: rest => (f k a).bind fun b => (inOrder f (k + 1) rest).bind fun bs => .ok (b :: bs)

/-- **The first failure.**  The item at `i` fails with `error` and none before it does;
positions count from `k` on. -/
def FirstFailure (f : Nat → α → Except ε β) (k : Nat) (as : List α) (i : Nat) (error : ε) :
    Prop :=
  (∃ a, as[i]? = some a ∧ f (k + i) a = .error error)
    ∧ ∀ j < i, ∀ a, as[j]? = some a → ∃ b, f (k + j) a = .ok b

/-! ### One item more -/

section
variable {f : Nat → α → Except ε β} {k : Nat} {a : α} {rest : List α}

theorem inOrder_cons_error {error : ε} (h : f k a = .error error) :
    inOrder f k (a :: rest) = .error error := by
  simp only [inOrder, h]
  rfl

theorem inOrder_cons_ok {b : β} (h : f k a = .ok b) :
    inOrder f k (a :: rest) = (inOrder f (k + 1) rest).map (b :: ·) := by
  simp only [inOrder, h]
  cases inOrder f (k + 1) rest <;> rfl

theorem firstFailure_zero {error : ε} :
    FirstFailure f k (a :: rest) 0 error ↔ f k a = .error error := by
  simp [FirstFailure]

theorem firstFailure_succ {i : Nat} {error : ε} :
    FirstFailure f k (a :: rest) (i + 1) error ↔
      (∃ b, f k a = .ok b) ∧ FirstFailure f (k + 1) rest i error := by
  -- Position `i + 1` counted from `k` is position `i` counted from `k + 1`.
  constructor
  · intro found
    obtain ⟨⟨c, hc, herr⟩, hok⟩ := found
    refine ⟨hok 0 (Nat.succ_pos i) a rfl, ⟨c, by simpa using hc, ?_⟩, ?_⟩
    · rwa [Nat.add_right_comm k 1 i]
    · intro j hj d hd
      obtain ⟨b, hb⟩ := hok (j + 1) (Nat.succ_lt_succ hj) d (by simpa using hd)
      exact ⟨b, by rwa [Nat.add_right_comm k 1 j]⟩
  · intro found
    obtain ⟨hhead, ⟨c, hc, herr⟩, hok⟩ := found
    refine ⟨⟨c, by simpa using hc, by rwa [Nat.add_right_comm k 1 i] at herr⟩, ?_⟩
    intro j hj d hd
    cases j with
    | zero =>
      rw [List.getElem?_cons_zero, Option.some.injEq] at hd
      exact hd ▸ hhead
    | succ j =>
      obtain ⟨b, hb⟩ := hok j (Nat.lt_of_succ_lt_succ hj) d (by simpa using hd)
      exact ⟨b, by rwa [Nat.add_right_comm k 1 j] at hb⟩

end

/-! ## §3. Success and failure -/

/-- **All or nothing.**  It succeeds exactly when every item does at its position, and then
with what they give, in order. -/
theorem inOrder_eq_ok_iff (f : Nat → α → Except ε β) :
    ∀ (k : Nat) (as : List α) (bs : List β),
      inOrder f k as = .ok bs ↔
        as.length = bs.length
          ∧ ∀ i a b, as[i]? = some a → bs[i]? = some b → f (k + i) a = .ok b
  | k, [], bs => by
      cases bs <;> simp [inOrder]
  | k, a :: rest, bs => by
      cases h : f k a with
      | error error =>
        rw [inOrder_cons_error h]
        constructor
        · intro impossible
          cases impossible
        · -- A result would have one for the first item, which fails.
          intro found
          obtain ⟨hlen, hall⟩ := found
          cases bs with
          | nil => simp at hlen
          | cons b bs =>
            have := hall 0 a b rfl rfl
            rw [Nat.add_zero, h] at this
            cases this
      | ok c =>
        rw [inOrder_cons_ok h]
        -- A nonempty result starts with `c`, and its rest is that of the rest of the items.
        cases bs with
        | nil => simp [map_eq_ok_iff]
        | cons b bs =>
          have step : (inOrder f (k + 1) rest).map (c :: ·) = .ok (b :: bs) ↔
              c = b ∧ inOrder f (k + 1) rest = .ok bs := by
            simp [map_eq_ok_iff, and_left_comm]
          rw [step, inOrder_eq_ok_iff f (k + 1) rest bs]
          constructor
          · intro found
            obtain ⟨rfl, hlen, hall⟩ := found
            refine ⟨by simp [hlen], ?_⟩
            intro i d e hd he
            cases i with
            | zero =>
              simp only [List.getElem?_cons_zero, Option.some.injEq] at hd he
              rw [← hd, ← he, Nat.add_zero, h]
            | succ i =>
              have := hall i d e (by simpa using hd) (by simpa using he)
              rwa [Nat.add_right_comm k 1 i] at this
          · intro found
            obtain ⟨hlen, hall⟩ := found
            have hb := hall 0 a b rfl rfl
            rw [Nat.add_zero, h, Except.ok.injEq] at hb
            refine ⟨hb, by simpa using hlen, ?_⟩
            intro i d e hd he
            have := hall (i + 1) d e (by simpa using hd) (by simpa using he)
            rwa [Nat.add_right_comm k 1 i]

/-- **The first failure stops.**  Its error is that of the least failing position, and nothing
that comes later matters. -/
theorem inOrder_eq_error_iff (f : Nat → α → Except ε β) :
    ∀ (k : Nat) (as : List α) (error : ε),
      inOrder f k as = .error error ↔ ∃ i, FirstFailure f k as i error
  | k, [], error => by
      simp [inOrder, FirstFailure]
  | k, a :: rest, error => by
      cases h : f k a with
      | error cause =>
        -- The first item fails, so position zero is the least that does.
        rw [inOrder_cons_error h]
        constructor
        · intro same
          cases same
          exact ⟨0, firstFailure_zero.2 h⟩
        · intro found
          obtain ⟨i, hi⟩ := found
          cases i with
          | zero =>
            have same := h.symm.trans (firstFailure_zero.1 hi)
            cases same
            rfl
          | succ i =>
            obtain ⟨⟨b, hb⟩, -⟩ := firstFailure_succ.1 hi
            rw [h] at hb
            cases hb
      | ok c =>
        -- The first item succeeds, so the failures are those of the rest, one further on.
        rw [inOrder_cons_ok h]
        rw [map_eq_error_iff, inOrder_eq_error_iff f (k + 1) rest error]
        constructor
        · intro found
          obtain ⟨i, hi⟩ := found
          exact ⟨i + 1, firstFailure_succ.2 ⟨⟨c, h⟩, hi⟩⟩
        · intro found
          obtain ⟨i, hi⟩ := found
          cases i with
          | zero =>
            rw [firstFailure_zero, h] at hi
            cases hi
          | succ i => exact ⟨i, (firstFailure_succ.1 hi).2⟩

/-- It succeeds exactly when every item does. -/
theorem exists_inOrder_eq_ok_iff (f : Nat → α → Except ε β) (k : Nat) (as : List α) :
    (∃ bs, inOrder f k as = .ok bs) ↔ ∀ i a, as[i]? = some a → ∃ b, f (k + i) a = .ok b := by
  constructor
  · intro found i a ha
    obtain ⟨bs, h⟩ := found
    obtain ⟨hlen, hall⟩ := (inOrder_eq_ok_iff f k as bs).1 h
    obtain ⟨b, hb⟩ := exists_getElem?_of_length_eq hlen.symm ha
    exact ⟨b, hall i a b ha hb⟩
  · intro hall
    cases h : inOrder f k as with
    | ok bs => exact ⟨bs, rfl⟩
    | error error =>
      obtain ⟨i, ⟨a, ha, hfail⟩, -⟩ := (inOrder_eq_error_iff f k as error).1 h
      obtain ⟨b, hb⟩ := hall i a ha
      rw [hfail] at hb
      cases hb

/-- What comes after the first failure does not matter. -/
theorem FirstFailure.take_append {f : Nat → α → Except ε β} {k : Nat} {as : List α} {i : Nat}
    {error : ε} (h : FirstFailure f k as i error) (later : List α) :
    FirstFailure f k (as.take (i + 1) ++ later) i error := by
  -- Up to `i` the two lists agree.
  have same : ∀ j ≤ i, (as.take (i + 1) ++ later)[j]? = as[j]? := by
    obtain ⟨⟨a, ha, -⟩, -⟩ := h
    have hi : i < as.length := (List.getElem?_eq_some_iff.1 ha).1
    intro j hj
    rw [List.getElem?_append_left (by rw [List.length_take]; omega),
      List.getElem?_take_of_lt (by omega)]
  obtain ⟨⟨a, ha, hfail⟩, hok⟩ := h
  refine ⟨⟨a, by rw [same i (Nat.le_refl i)]; exact ha, hfail⟩, ?_⟩
  intro j hj a ha
  rw [same j (Nat.le_of_lt hj)] at ha
  exact hok j hj a ha

end Sift
