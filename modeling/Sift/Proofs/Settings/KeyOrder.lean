/-
  Sift.Proofs.Settings.KeyOrder
  ─────────────────────────────
  **Where the order of keys has no part.**

  A source leaves it open in which order its keys are set (`KeyOrder`).  What is set is a tree of
  places, and each key sets the places that its value spells below its own:

      key  ─ ofKey ─▸  steps  ─ placesIn ─▸  places, a table member by member

  Two keys are apart when no place of the one is a place of the other or leads to one: at some
  step the two part, by different names or by different positions from the same end.  Keys that
  are apart may be set in either order, and so a source whose keys are all apart gives the same
  settings in every order.

  Main result: `KeyOrder.setAll_eq_of_alike`.
-/
import Mathlib.Data.String.Basic
import Sift.Settings.Source

namespace Sift.Settings

/-! ## §1. Members -/

namespace Tree

section
variable {name k : String} (t u : Tree) (rest : List (String × Tree))

theorem assign_cons_self : assign name t ((name, u) :: rest) = (name, t) :: rest := if_pos rfl

theorem assign_cons_of_lt (before : k < name) :
    assign name t ((k, u) :: rest) = (k, u) :: assign name t rest := by
  simp only [assign, if_neg before.ne, if_pos before]

theorem assign_cons_of_gt (after : name < k) :
    assign name t ((k, u) :: rest) = (name, t) :: (k, u) :: rest := by
  simp only [assign, if_neg after.ne', if_neg (lt_asymm after)]

end

/-- Of two assignments of one name the later counts. -/
theorem assign_assign (name : String) (t u : Tree) (members : List (String × Tree)) :
    assign name t (assign name u members) = assign name t members := by
  induction members with
  | nil => exact assign_cons_self t u []
  | cons m rest ih =>
    obtain ⟨k, v⟩ := m
    rcases lt_trichotomy k name with before | rfl | after
    · rw [assign_cons_of_lt _ _ _ before, assign_cons_of_lt _ _ _ before, ih,
        assign_cons_of_lt _ _ _ before]
    · rw [assign_cons_self, assign_cons_self, assign_cons_self]
    · rw [assign_cons_of_gt _ _ _ after, assign_cons_self, assign_cons_of_gt _ _ _ after]

/-- Assignments of two names in their order may be made in the other. -/
theorem assign_comm_of_lt {a b : String} (less : a < b) (t u : Tree)
    (members : List (String × Tree)) :
    assign a t (assign b u members) = assign b u (assign a t members) := by
  induction members with
  | nil => exact (assign_cons_of_gt t u [] less).trans (assign_cons_of_lt u t [] less).symm
  | cons m rest ih =>
    obtain ⟨k, v⟩ := m
    rcases lt_trichotomy k a with before | rfl | after
    · have far : k < b := before.trans less
      rw [assign_cons_of_lt _ _ _ far, assign_cons_of_lt _ _ _ before, ih,
        assign_cons_of_lt _ _ _ before, assign_cons_of_lt _ _ _ far]
    · rw [assign_cons_of_lt _ _ _ less, assign_cons_self, assign_cons_self,
        assign_cons_of_lt _ _ _ less]
    · -- The lesser name goes before the member, so it stays before whatever the greater one does.
      rw [assign_cons_of_gt _ _ _ after, assign_cons_of_lt _ _ _ less]
      rcases lt_trichotomy k b with before | rfl | beyond
      · rw [assign_cons_of_lt _ _ _ before, assign_cons_of_gt _ _ _ after]
      · rw [assign_cons_self, assign_cons_of_gt _ _ _ less]
      · rw [assign_cons_of_gt _ _ _ beyond, assign_cons_of_gt _ _ _ less]

/-- **Assignments of different names** may be made in either order. -/
theorem assign_comm {a b : String} (different : a ≠ b) (t u : Tree)
    (members : List (String × Tree)) :
    assign a t (assign b u members) = assign b u (assign a t members) := by
  rcases lt_or_gt_of_ne different with less | greater
  · exact assign_comm_of_lt less t u members
  · exact (assign_comm_of_lt greater u t members).symm

end Tree

namespace KeyPath

open Sift.Settings.Tree

/-! ## §2. Steps -/

/-- **Two lists of steps part**: after the same steps, one goes on by another name than the other,
or by another position from the same end.  A position from the start and one from the end may be
of one item, which depends on how many there are. -/
inductive Part : List KeyStep → List KeyStep → Prop
  | names {a b : String} (different : a ≠ b) (p q : List KeyStep) :
      Part (.name a :: p) (.name b :: q)
  | positions {n k : Int} (different : n ≠ k) (sides : 0 ≤ n ↔ 0 ≤ k) (p q : List KeyStep) :
      Part (.position n :: p) (.position k :: q)
  | common (step : KeyStep) {p q : List KeyStep} (part : Part p q) : Part (step :: p) (step :: q)

theorem Part.symm {p q : List KeyStep} (h : Part p q) : Part q p := by
  induction h with
  | names different p q => exact .names different.symm q p
  | positions different sides p q => exact .positions different.symm sides.symm q p
  | common step _ ih => exact .common step ih

theorem length_fill (size : Nat) (items : List Tree) :
    (fill size items).length = max items.length size := by
  unfold fill
  rw [List.length_append, List.length_replicate]
  omega

/-- Enough items are not filled up. -/
theorem fill_of_le {size : Nat} {items : List Tree} (enough : size ≤ items.length) :
    fill size items = items := by
  unfold fill
  rw [Nat.sub_eq_zero_of_le enough, List.replicate_zero, List.append_nil]

/-- Filling up twice is filling up to the greater size. -/
theorem fill_fill (size other : Nat) (items : List Tree) :
    fill size (fill other items) = fill (max size other) items := by
  have counts : other - items.length + (size - max items.length other) =
      max size other - items.length := by omega
  rw [fill, length_fill]
  unfold fill
  rw [List.append_assoc, List.replicate_append_replicate, counts]

/-- Filling up leaves an item that is there to be changed. -/
theorem fill_modify {n : Nat} {items : List Tree} (there : n < items.length) (f : Tree → Tree)
    (size : Nat) : fill size (items.modify n f) = (fill size items).modify n f := by
  unfold fill
  rw [List.length_modify]
  apply List.ext_getElem?
  intro m
  rw [List.getElem?_modify, List.getElem?_append, List.getElem?_append, List.length_modify]
  by_cases inside : m < items.length
  · rw [if_pos inside, if_pos inside, List.getElem?_modify]
  · have other : n ≠ m := by omega
    simp only [if_neg inside, if_neg other, id_map']

theorem alterItem_comm_ofNat {n k : Nat} (different : n ≠ k) (f g : Tree → Tree)
    (items : List Tree) :
    alterItem n f (alterItem k g items) = alterItem k g (alterItem n f items) := by
  have changed (n k : Nat) (f g : Tree → Tree) : alterItem n f (alterItem k g items) =
      ((fill (max (n + 1) (k + 1)) items).modify k g).modify n f := by
    have there : k < (fill (k + 1) items).length := by
      rw [length_fill]
      omega
    show (fill (n + 1) ((fill (k + 1) items).modify k g)).modify n f = _
    rw [fill_modify there, fill_fill]
  rw [changed, changed, max_comm, List.modify_modify_ne _ _ _ different.symm]

theorem alterItem_alterItem_ofNat (n : Nat) (f g : Tree → Tree) (items : List Tree) :
    alterItem n f (alterItem n g items) = alterItem n (f ∘ g) items := by
  -- The first change has made room for the position, so the second fills nothing.
  have enough : n + 1 ≤ ((fill (n + 1) items).modify n g).length := by
    rw [List.length_modify, length_fill]
    omega
  show (fill (n + 1) ((fill (n + 1) items).modify n g)).modify n f = _
  rw [fill_of_le enough, List.modify_modify_eq]
  rfl

/-- Filling up in front is filling up the items in reverse. -/
theorem reverse_fillBefore (size : Nat) (items : List Tree) :
    (fillBefore size items).reverse = fill size items.reverse := by
  unfold fill fillBefore
  rw [List.reverse_append, List.reverse_replicate, List.length_reverse]

/-- Counting from the end is counting from the start of the items in reverse. -/
theorem modify_from_end {n : Nat} {items : List Tree} (there : n < items.length)
    (f : Tree → Tree) :
    items.modify (items.length - (n + 1)) f = (items.reverse.modify n f).reverse := by
  apply List.ext_getElem?
  intro m
  by_cases inside : m < items.length
  · have inReverse : m < (items.reverse.modify n f).length := by simpa using inside
    have atEnd : items.length - (n + 1) = m ↔ n = items.length - 1 - m := by omega
    have back : items.length - 1 - (items.length - 1 - m) = m := by omega
    rw [List.getElem?_reverse inReverse, List.getElem?_modify, List.getElem?_modify,
      List.length_modify, List.length_reverse, List.getElem?_reverse (by omega), back]
    simp only [atEnd]
  · rw [List.getElem?_eq_none (by simpa using inside),
      List.getElem?_eq_none (by simpa using inside)]

/-- **A position from the end** is one from the start of the items in reverse. -/
theorem alterItem_negSucc (n : Nat) (f : Tree → Tree) (items : List Tree) :
    alterItem (.negSucc n) f items = (alterItem n f items.reverse).reverse := by
  have there : n < (fillBefore (n + 1) items).length := by
    rw [fillBefore, List.length_append, List.length_replicate]
    omega
  show (fillBefore (n + 1) items).modify ((fillBefore (n + 1) items).length - (n + 1)) f = _
  rw [modify_from_end there, reverse_fillBefore]
  rfl

/-- **Items at different positions** from the same end may be changed in either order. -/
theorem alterItem_comm {n k : Int} (different : n ≠ k) (sides : 0 ≤ n ↔ 0 ≤ k)
    (f g : Tree → Tree) (items : List Tree) :
    alterItem n f (alterItem k g items) = alterItem k g (alterItem n f items) := by
  cases n with
  | ofNat n =>
    cases k with
    | ofNat k =>
      exact alterItem_comm_ofNat (fun same => different (congrArg Int.ofNat same)) f g items
    | negSucc k =>
      exact absurd (sides.1 (Int.natCast_nonneg n)) (Int.not_le.2 (Int.negSucc_lt_zero k))
  | negSucc n =>
    cases k with
    | ofNat k =>
      exact absurd (sides.2 (Int.natCast_nonneg k)) (Int.not_le.2 (Int.negSucc_lt_zero n))
    | negSucc k =>
      have apart : n ≠ k := fun same => different (congrArg Int.negSucc same)
      rw [alterItem_negSucc, alterItem_negSucc, alterItem_negSucc, alterItem_negSucc,
        List.reverse_reverse, List.reverse_reverse, alterItem_comm_ofNat apart]

/-- An item that is changed twice is changed once by both. -/
theorem alterItem_alterItem (position : Int) (f g : Tree → Tree) (items : List Tree) :
    alterItem position f (alterItem position g items) = alterItem position (f ∘ g) items := by
  cases position with
  | ofNat n => exact alterItem_alterItem_ofNat n f g items
  | negSucc n =>
    rw [alterItem_negSucc, alterItem_negSucc, alterItem_negSucc, List.reverse_reverse,
      alterItem_alterItem_ofNat]

/-- What is at the end of some steps is changed below them. -/
theorem alter_append (f : Tree → Tree) (p q : List KeyStep) :
    alter f (p ++ q) = alter (alter f q) p := by
  induction p with
  | nil => rfl
  | cons step rest ih =>
    funext t
    cases step with
    | name name => simp only [List.cons_append, alter, ih]
    | position position => simp only [List.cons_append, alter, ih]

/-- A place that is changed twice is changed once by both. -/
theorem alter_alter (f g : Tree → Tree) (p : List KeyStep) (t : Tree) :
    alter f p (alter g p t) = alter (f ∘ g) p t := by
  -- On the path, over every tree: the step leads both changes to one place.
  induction p generalizing t with
  | nil => rfl
  | cons step rest ih =>
    cases step with
    | name name =>
      simp only [alter, membersOf, members?, Option.getD_some, lookup_assign, if_true,
        assign_assign, ih]
    | position position =>
      simp only [alter, itemsOf, items?, Option.getD_some, alterItem_alterItem]
      congr 2
      funext u
      exact ih u

/-- **Two changes commute** when they may be made in either order. -/
def Commute (f : Tree → Tree) (p : List KeyStep) (g : Tree → Tree) (q : List KeyStep) : Prop :=
  ∀ t, alter f p (alter g q t) = alter g q (alter f p t)

namespace Commute

variable {f f' g : Tree → Tree} {p q : List KeyStep}

theorem symm (h : Commute f p g q) : Commute g q f p := fun t => (h t).symm

/-- What commutes with two changes of one place commutes with both at once. -/
theorem comp (h : Commute f p g q) (h' : Commute f' p g q) : Commute (f ∘ f') p g q := by
  intro t
  rw [← alter_alter, ← alter_alter, h', h]

end Commute

/-- **Changes at places that part** commute. -/
theorem commute_of_part {p q : List KeyStep} (part : Part p q) (f g : Tree → Tree) :
    Commute f p g q := by
  -- Where the paths part at once the changes touch two places; below a common step they are the
  -- changes of one place, which commute.
  induction part with
  | names different p q =>
    intro t
    simp only [alter, membersOf, members?, Option.getD_some, lookup_assign, if_neg different,
      if_neg (Ne.symm different), assign_comm different]
  | positions different sides p q =>
    intro t
    simp only [alter, itemsOf, items?, Option.getD_some, alterItem_comm different sides]
  | @common step p q _ ih =>
    intro t
    have same : alter f p ∘ alter g q = alter g q ∘ alter f p := funext ih
    calc alter f (step :: p) (alter g (step :: q) t)
        = alter (alter f p) [step] (alter (alter g q) [step] t) := by
          rw [← alter_append, ← alter_append]; rfl
      _ = alter (alter g q) [step] (alter (alter f p) [step] t) := by
          rw [alter_alter, alter_alter, same]
      _ = alter g (step :: q) (alter f (step :: p) t) := by
          rw [← alter_append, ← alter_append]; rfl

/-! ## §3. Places -/

mutual
/-- **The places that a tree sets**, from its own place on: those that its members set, where it is
a table that has some. -/
def placesIn : Tree → List (List KeyStep)
  | .table members => if members.isEmpty then [[]] else placesOf members
  | _ => [[]]
termination_by structural t => t

/-- The places that members set. -/
def placesOf : List (String × Tree) → List (List KeyStep)
  | [] => []
  | (name, t) :: rest => (placesIn t).map (KeyStep.name name :: ·) ++ placesOf rest
termination_by structural ms => ms
end

/-- Merging a table is setting its members one after the other. -/
theorem merge_table_cons (name : String) (v : Tree) (rest : List (String × Tree)) :
    merge (.table ((name, v) :: rest)) = merge (.table rest) ∘ alter (merge v) [.name name] := rfl

mutual
/-- **Merging a tree commutes** with what commutes with every change of the places it sets. -/
theorem commute_merge {g : Tree → Tree} {q : List KeyStep} : ∀ (v : Tree) (p : List KeyStep),
    (∀ x ∈ placesIn v, ∀ f, Commute f (p ++ x) g q) → Commute (merge v) p g q
  | .table [], p, h => by simpa using h [] (List.mem_singleton.2 rfl) (merge (.table []))
  | .table (m :: rest), p, h => commute_mergeMembers (m :: rest) p (List.cons_ne_nil m rest) h
  | .nil, p, h => by simpa using h [] (List.mem_singleton.2 rfl) (merge .nil)
  | .truth b, p, h => by simpa using h [] (List.mem_singleton.2 rfl) (merge (.truth b))
  | .integer i, p, h => by simpa using h [] (List.mem_singleton.2 rfl) (merge (.integer i))
  | .number x, p, h => by simpa using h [] (List.mem_singleton.2 rfl) (merge (.number x))
  | .text s, p, h => by simpa using h [] (List.mem_singleton.2 rfl) (merge (.text s))
  | .array ts, p, h => by simpa using h [] (List.mem_singleton.2 rfl) (merge (.array ts))

theorem commute_mergeMembers {g : Tree → Tree} {q : List KeyStep} :
    ∀ (members : List (String × Tree)) (p : List KeyStep), members ≠ [] →
      (∀ x ∈ placesOf members, ∀ f, Commute f (p ++ x) g q) →
        Commute (merge (.table members)) p g q
  | [], p, nonempty, h => absurd rfl nonempty
  | (name, v) :: rest, p, nonempty, h => by
    have first : Commute (alter (merge v) [.name name]) p g q := by
      have inner : Commute (merge v) (p ++ [.name name]) g q := by
        refine commute_merge v _ fun x place f => ?_
        rw [List.append_assoc]
        exact h _ (List.mem_append_left _ (List.mem_map_of_mem place)) f
      intro t
      rw [← alter_append]
      exact inner t
    -- The last member is alone a change at its own key; otherwise two commuting changes follow each
    -- other.
    cases rest with
    | nil => exact first
    | cons m rest =>
      rw [merge_table_cons]
      refine .comp (commute_mergeMembers (m :: rest) p (List.cons_ne_nil m rest) ?_) first
      exact fun x place => h x (List.mem_append_right _ place)
end

/-! ## §4. Keys -/

/-- The steps of a key from the top. -/
def stepsOf (key : String) : List KeyStep := .name (ofKey key).1 :: (ofKey key).2

/-- **Two keys with their values are apart**: every place that the one sets parts from every place
that the other sets. -/
def Apart (m n : String × Tree) : Prop :=
  ∀ x ∈ placesIn m.2, ∀ y ∈ placesIn n.2, Part (stepsOf m.1 ++ x) (stepsOf n.1 ++ y)

theorem Apart.symm {m n : String × Tree} (h : Apart m n) : Apart n m :=
  fun y inN x inM => (h x inM y inN).symm

/-- Setting a key changes the place that it leads to. -/
theorem table_set (members : List (String × Tree)) (key : String) (value : Tree) :
    .table (set members key value) = alter (merge value) (stepsOf key) (.table members) := rfl

/-- Setting a key whose steps are known. -/
theorem set_of_key {key name : String} {steps : List KeyStep} (h : ofKey key = (name, steps))
    (members : List (String × Tree)) (value : Tree) :
    KeyPath.set members key value =
      assign name (alter (merge value) steps ((lookup name members).getD .nil)) members := by
  unfold KeyPath.set
  rw [h]

/-- **Keys that are apart** may be set in either order. -/
theorem set_comm {m n : String × Tree} (apart : Apart m n) (members : List (String × Tree)) :
    set (set members m.1 m.2) n.1 n.2 = set (set members n.1 n.2) m.1 m.2 := by
  have commute : Commute (merge m.2) (stepsOf m.1) (merge n.2) (stepsOf n.1) := by
    refine commute_merge m.2 _ fun x place f => (commute_merge n.2 _ fun y place' f' => ?_).symm
    exact commute_of_part (apart x place y place').symm f' f
  have tables : Tree.table (set (set members m.1 m.2) n.1 n.2) =
      .table (set (set members n.1 n.2) m.1 m.2) := by
    rw [table_set, table_set, table_set, table_set, commute]
  exact Tree.table.inj tables

/-- **A source whose keys are all apart** is set in every order alike. -/
theorem setAll_eq_of_perm {source other : List (String × Tree)} (apart : source.Pairwise Apart)
    (perm : other.Perm source) (members : List (String × Tree)) :
    setAll members other = setAll members source := by
  have swap : ∀ m ∈ source, ∀ n ∈ source, ∀ members : List (String × Tree),
      set (set members m.1 m.2) n.1 n.2 = set (set members n.1 n.2) m.1 m.2 := by
    intro m hm n hn
    -- A key may be swapped with itself, apart or not.
    exact List.Pairwise.forall_of_forall_of_flip (fun _ _ _ => rfl) (apart.imp set_comm)
      (apart.imp fun h => set_comm h.symm) hm hn
  exact (perm.symm.foldl_eq' swap members).symm

end KeyPath

/-! ## §5. Orders -/

namespace KeyOrder

variable {order other : KeyOrder} {source : List (String × Tree)}

/-- **Two readings of a source take its keys alike**: in one and the same order, or in any two where
its keys are all apart. -/
def Alike (order other : KeyOrder) (source : List (String × Tree)) : Prop :=
  order.arrange source = other.arrange source ∨ source.Pairwise KeyPath.Apart

/-- **What is read alike** is set alike. -/
theorem setAll_eq_of_alike (alike : order.Alike other source) (members : List (String × Tree)) :
    KeyPath.setAll members (order.arrange source) =
      KeyPath.setAll members (other.arrange source) := by
  rcases alike with same | apart
  · rw [same]
  · rw [KeyPath.setAll_eq_of_perm apart (order.perm source),
      KeyPath.setAll_eq_of_perm apart (other.perm source)]

theorem arrange_singleton (order : KeyOrder) (m : String × Tree) : order.arrange [m] = [m] :=
  List.perm_singleton.1 (order.perm [m])

theorem arrange_nil (order : KeyOrder) : order.arrange [] = [] :=
  List.perm_nil.1 (order.perm [])

end KeyOrder

end Sift.Settings
