/-
  Sift.Proofs.Json.Nesting
  ────────────────────────
  **How deeply values are nested.**

  A value is nested as deeply as its deepest item or member, and one level more.  The reader of
  texts counts the levels that are left: `value?` with `room` levels gives a value of fewer than
  `room`, or a scalar.  What a value can be, by its first character, is said once for the proofs
  about the reader (`Reader.value?_cases`).

  Main result: `depth_lt_of_parse?`.
-/
import Sift.Json.Parser

namespace Sift.Json

/-! ## §1. Items and members -/

/-- Items are nested at most `n` deep where each of them is. -/
theorem depthItems_le_iff {n : Nat} :
    ∀ {items : List Json}, depthItems items ≤ n ↔ ∀ j ∈ items, j.depth ≤ n
  | [] => by simp [depthItems]
  | j :: rest => by
      rw [depthItems, Nat.max_le, depthItems_le_iff, List.forall_mem_cons]

/-- Members are nested at most `n` deep where the value of each of them is. -/
theorem depthMembers_le_iff {n : Nat} :
    ∀ {members : List (String × Json)}, depthMembers members ≤ n ↔ ∀ m ∈ members, m.2.depth ≤ n
  | [] => by simp [depthMembers]
  | (k, j) :: rest => by
      rw [depthMembers, Nat.max_le, depthMembers_le_iff, List.forall_mem_cons]

/-- **An item is nested less deeply** than its array. -/
theorem depth_lt_of_mem {items : List Json} {j : Json} (h : j ∈ items) :
    j.depth < (arr items).depth := by
  rw [depth]
  exact Nat.lt_succ_of_le (depthItems_le_iff.1 (Nat.le_refl _) j h)

/-! ## §2. Objects -/

/-- Inserting brings in the new member and nothing else. -/
theorem mem_of_mem_insertMember {key : String} {value : Json} {m : String × Json} :
    ∀ {members : List (String × Json)}, m ∈ insertMember key value members →
      m = (key, value) ∨ m ∈ members
  | [], h => .inl (List.mem_singleton.1 h)
  | (k, v) :: rest, h => by
      unfold insertMember at h
      split at h
      · exact List.mem_cons.1 h
      · split at h
        · exact (List.mem_cons.1 h).imp_right (List.mem_cons_of_mem _)
        · rcases List.mem_cons.1 h with rfl | h
          · exact .inr List.mem_cons_self
          · exact (mem_of_mem_insertMember h).imp_right (List.mem_cons_of_mem _)

/-- Members inserted one after another are among those given. -/
theorem mem_of_mem_foldl_insertMember {m : String × Json} (members : List (String × Json)) :
    ∀ {acc : List (String × Json)},
      m ∈ members.foldl (fun acc m => insertMember m.1 m.2 acc) acc → m ∈ members ∨ m ∈ acc := by
  -- Over every accumulator, since the fold changes it at each member.
  induction members with
  | nil => exact .inr
  | cons first rest ih =>
    intro acc h
    rcases ih h with h | h
    · exact .inl (List.mem_cons_of_mem _ h)
    · rcases mem_of_mem_insertMember h with rfl | h
      · exact .inl List.mem_cons_self
      · exact .inr h

/-- **An object is nested one level more** than the members it is made from, at most. -/
theorem depth_object_le {members : List (String × Json)} {n : Nat}
    (each : ∀ m ∈ members, m.2.depth ≤ n) : (object members).depth ≤ n + 1 := by
  rw [object, depth]
  refine Nat.succ_le_succ (depthMembers_le_iff.2 fun m hm => ?_)
  rcases mem_of_mem_foldl_insertMember members hm with h | h
  · exact each m h
  · cases h

theorem mem_of_lookup {key : String} {value : Json} :
    ∀ {members : List (String × Json)}, lookup key members = some value → (key, value) ∈ members
  | [], h => by cases h
  | (k, v) :: rest, h => by
      unfold lookup at h
      split at h
      · rename_i same
        cases h
        exact same ▸ List.mem_cons_self
      · exact List.mem_cons_of_mem _ (mem_of_lookup h)

/-- **A member is nested less deeply** than its object. -/
theorem depth_lt_of_get? {j value : Json} {key : String} (h : j.get? key = some value) :
    value.depth < j.depth := by
  unfold get? at h
  split at h
  · rw [depth]
    exact Nat.lt_succ_of_le (depthMembers_le_iff.1 (Nat.le_refl _) _ (mem_of_lookup h))
  · cases h

namespace Reader

/-! ## §3. What the reader gives -/

/-- A word is read as its value. -/
theorem eq_of_word? {word cs rest : List Char} {value j : Json}
    (h : word? word value cs = some (j, rest)) : j = value := by
  unfold word? at h
  split at h
  · cases h
    rfl
  · cases h

/-- The parts of a number have a number for a value. -/
theorem exists_num_of_numberValue? {negative : Bool} {whole : List Char}
    {part : Option (List Char)} {exponent : Option Int} {j : Json}
    (h : numberValue? negative whole part exponent = some j) : ∃ n, j = num n := by
  unfold numberValue? at h
  extract_lets d float? size i at h
  -- Both ways to a binary64 number, a text with a point and one too long for a word, end here.
  have floating : float? = some j → ∃ n, j = num n := fun scaled => by
    obtain ⟨x, -, rfl⟩ := Option.map_eq_some_iff.1 scaled
    exact ⟨_, rfl⟩
  split at h
  · exact floating h
  · split at h
    · exact ⟨_, (Option.some.inj h).symm⟩
    · exact floating h

/-- A number is read as a number. -/
theorem exists_num_of_number? {cs rest : List Char} {j : Json}
    (h : number? cs = some (j, rest)) : ∃ n, j = num n := by
  unfold number? at h
  simp only [Option.bind_eq_bind, Option.bind_eq_some_iff] at h
  obtain ⟨_, -, _, -, _, -, value, given, same⟩ := h
  cases same
  exact exists_num_of_numberValue? given

/-- **What a value can be**, by its first character: a word or a string, an array, an object, or a
number.  Arrays and objects take a level, which has to be there. -/
theorem value?_cases {fuel room : Nat} {cs rest : List Char} {j : Json}
    (h : value? (fuel + 1) room cs = some (j, rest)) :
    (∃ c left, cs = c :: left ∧ c ∈ ['n', 't', 'f', '"'] ∧
        (j = null ∨ (∃ b, j = bool b) ∨ ∃ s, j = str s)) ∨
      (∃ left items, cs = '[' :: left ∧ 1 < room ∧ j = arr items ∧
        (items = [] ∨ ∃ start, items? fuel (room - 1) [] start = some (items, rest))) ∨
      (∃ left members, cs = '\x7b' :: left ∧ 1 < room ∧ j = object members ∧
        (members = [] ∨ ∃ start, members? fuel (room - 1) [] start = some (members, rest))) ∨
      number? cs = some (j, rest) := by
  -- In the order in which the parser asks for the first character.
  rw [value?.eq_def] at h
  dsimp only at h
  split at h
  · cases h
  rename_i c left
  split at h
  · rename_i first
    exact .inl ⟨c, left, rfl, by rw [first]; decide, .inl (eq_of_word? h)⟩
  split at h
  · rename_i first
    exact .inl ⟨c, left, rfl, by rw [first]; decide, .inr (.inl ⟨_, eq_of_word? h⟩)⟩
  split at h
  · rename_i first
    exact .inl ⟨c, left, rfl, by rw [first]; decide, .inr (.inl ⟨_, eq_of_word? h⟩)⟩
  split at h
  · rename_i first
    obtain ⟨_, -, same⟩ := Option.map_eq_some_iff.1 h
    cases same
    exact .inl ⟨c, left, rfl, by rw [first]; decide, .inr (.inr ⟨_, rfl⟩)⟩
  split at h
  · rename_i first
    subst first
    split at h
    · cases h
    · rename_i deep
      refine .inr (.inl ⟨left, ?_⟩)
      split at h
      · cases h
        exact ⟨[], rfl, Nat.lt_of_not_le deep, rfl, .inl rfl⟩
      · obtain ⟨⟨items, _⟩, read, same⟩ := Option.map_eq_some_iff.1 h
        cases same
        exact ⟨items, rfl, Nat.lt_of_not_le deep, rfl, .inr ⟨_, read⟩⟩
  split at h
  · rename_i first
    subst first
    split at h
    · cases h
    · rename_i deep
      refine .inr (.inr (.inl ⟨left, ?_⟩))
      split at h
      · cases h
        exact ⟨[], rfl, Nat.lt_of_not_le deep, rfl, .inl rfl⟩
      · obtain ⟨⟨members, _⟩, read, same⟩ := Option.map_eq_some_iff.1 h
        cases same
        exact ⟨members, rfl, Nat.lt_of_not_le deep, rfl, .inr ⟨_, read⟩⟩
  · exact .inr (.inr (.inr h))

/-- The readers with this fuel give values nested fewer than `room` levels, or scalars. -/
structure KeepsRoom (fuel : Nat) : Prop where
  value : ∀ {room cs j rest}, value? fuel room cs = some (j, rest) → j.depth ≤ room - 1
  items : ∀ {room done cs items rest}, (∀ j ∈ done, j.depth ≤ room - 1) →
    items? fuel room done cs = some (items, rest) → ∀ j ∈ items, j.depth ≤ room - 1
  members : ∀ {room done cs members rest}, (∀ m ∈ done, m.2.depth ≤ room - 1) →
    members? fuel room done cs = some (members, rest) → ∀ m ∈ members, m.2.depth ≤ room - 1

section
variable {fuel : Nat} (kept : KeepsRoom fuel)

include kept

theorem KeepsRoom.value_succ {room : Nat} {cs rest : List Char} {j : Json}
    (h : value? (fuel + 1) room cs = some (j, rest)) : j.depth ≤ room - 1 := by
  -- A scalar is not nested at all.
  have scalar : j.depth = 0 → j.depth ≤ room - 1 := fun flat => flat ▸ Nat.zero_le _
  rcases value?_cases h with ⟨_, _, -, -, kind⟩ | ⟨_, items, -, deep, rfl, source⟩ |
    ⟨_, members, -, deep, rfl, source⟩ | number
  · rcases kind with rfl | ⟨b, rfl⟩ | ⟨s, rfl⟩ <;> exact scalar rfl
  · have each : ∀ j ∈ items, j.depth ≤ room - 1 - 1 := by
      rcases source with rfl | ⟨_, read⟩
      · exact List.forall_mem_nil _
      · exact kept.items (List.forall_mem_nil _) read
    have inner := depthItems_le_iff.2 each
    rw [depth]
    omega
  · have each : ∀ m ∈ members, m.2.depth ≤ room - 1 - 1 := by
      rcases source with rfl | ⟨_, read⟩
      · exact List.forall_mem_nil _
      · exact kept.members (List.forall_mem_nil _) read
    have inner := depth_object_le each
    omega
  · obtain ⟨n, rfl⟩ := exists_num_of_number? number
    exact scalar rfl

theorem KeepsRoom.items_succ {room : Nat} {done items : List Json} {cs rest : List Char}
    (before : ∀ j ∈ done, j.depth ≤ room - 1)
    (h : items? (fuel + 1) room done cs = some (items, rest)) :
    ∀ j ∈ items, j.depth ≤ room - 1 := by
  unfold items? at h
  split at h
  · cases h
  · rename_i item left read
    -- The items read so far are kept in reverse; the depth of none depends on that.
    have all : ∀ j ∈ item :: done, j.depth ≤ room - 1 :=
      List.forall_mem_cons.2 ⟨kept.value read, before⟩
    split at h
    · exact kept.items all h
    · cases h
      exact fun j hj => all j (List.mem_reverse.1 hj)
    · cases h

theorem KeepsRoom.members_succ {room : Nat} {done members : List (String × Json)}
    {cs rest : List Char} (before : ∀ m ∈ done, m.2.depth ≤ room - 1)
    (h : members? (fuel + 1) room done cs = some (members, rest)) :
    ∀ m ∈ members, m.2.depth ≤ room - 1 := by
  unfold members? at h
  split at h
  · cases h
  rename_i key _ _
  split at h
  · split at h
    · cases h
    · rename_i value left read
      have all : ∀ m ∈ (key, value) :: done, m.2.depth ≤ room - 1 :=
        List.forall_mem_cons.2 ⟨kept.value read, before⟩
      split at h
      · exact kept.members all h
      · cases h
        exact fun m hm => all m (List.mem_reverse.1 hm)
      · cases h
  · cases h

end

theorem keepsRoom : ∀ fuel, KeepsRoom fuel
  | 0 => {
      value := fun h => by rw [value?] at h; cases h
      items := fun _ h => by rw [items?] at h; cases h
      members := fun _ h => by rw [members?] at h; cases h }
  | fuel + 1 => {
      value := (keepsRoom fuel).value_succ
      items := (keepsRoom fuel).items_succ
      members := (keepsRoom fuel).members_succ }

end Reader

/-- **What a text denotes** is nested fewer than `nestingLimit` levels. -/
theorem depth_lt_of_parse? {s : String} {j : Json} (h : parse? s = some j) :
    j.depth < Reader.nestingLimit := by
  unfold parse? ofChars? at h
  split at h
  · rename_i value rest read
    split at h
    · cases h
      exact Nat.lt_of_le_pred (by decide) ((Reader.keepsRoom _).value read)
    · cases h
  · cases h

end Sift.Json
