/-
  Sift.Proofs.Json.Rereading
  ──────────────────────────
  **A value is read back from its own text.**

  The text of a value is read as that value, whatever follows it, in as many steps as it has
  characters (`ReadsBack`).  Three things can be in the way, and each is a hypothesis of the main
  result: a value nested too deeply is refused; an object is read with its members in the order
  of their keys (`Orderly`); and a binary64 number may be read as a neighbour of it
  (`Number.IsReadBack`).

  Main result: `parse?_text`.
-/
import Sift.Proofs.Json.Nesting
import Sift.Proofs.Json.Tokens

namespace Sift.Json

/-! ## §1. Objects in order -/

/-- **Every object has its members in the strict order of their keys.** -/
inductive Orderly : Json → Prop
  | null : Orderly null
  | bool {b : Bool} : Orderly (bool b)
  | num {n : Number} : Orderly (num n)
  | str {s : String} : Orderly (str s)
  | arr {items : List Json} (each : ∀ j ∈ items, Orderly j) : Orderly (arr items)
  | obj {members : List (String × Json)} (sorted : (members.map (·.1)).Pairwise (· < ·))
      (each : ∀ m ∈ members, Orderly m.2) : Orderly (obj members)

/-- A key is inserted among the others. -/
theorem mem_keys_insertMember {key k : String} {value : Json} {members : List (String × Json)}
    (h : k ∈ (insertMember key value members).map (·.1)) : k = key ∨ k ∈ members.map (·.1) := by
  obtain ⟨m, hm, rfl⟩ := List.mem_map.1 h
  rcases mem_of_mem_insertMember hm with rfl | hm
  · exact .inl rfl
  · exact .inr (List.mem_map_of_mem hm)

/-- **Inserting** keeps the order of the keys. -/
theorem sorted_insertMember {key : String} {value : Json} :
    ∀ {members : List (String × Json)}, (members.map (·.1)).Pairwise (· < ·) →
      ((insertMember key value members).map (·.1)).Pairwise (· < ·)
  | [], _ => List.pairwise_singleton ..
  | (k, v) :: rest, sorted => by
      obtain ⟨above, others⟩ := List.pairwise_cons.1 sorted
      unfold insertMember
      split
      · -- The new key goes before all others.
        rename_i below
        refine List.pairwise_cons.2 ⟨fun k' hk' => ?_, sorted⟩
        rcases List.mem_cons.1 hk' with rfl | hk'
        · exact below
        · exact String.lt_trans below (above k' hk')
      · split
        · rename_i same
          exact List.pairwise_cons.2 ⟨same ▸ above, others⟩
        · -- It belongs further on, so what comes first now stays below everything inserted.
          rename_i notBelow notSame
          refine List.pairwise_cons.2 ⟨fun k' hk' => ?_, sorted_insertMember others⟩
          rcases mem_keys_insertMember hk' with rfl | hk'
          · exact Std.lt_of_le_of_ne (Std.not_lt.1 notBelow) (Ne.symm notSame)
          · exact above k' hk'

/-- **An object is orderly** where the values of its members are. -/
theorem orderly_object {members : List (String × Json)} (each : ∀ m ∈ members, m.2.Orderly) :
    (object members).Orderly := by
  -- Over every accumulator: the members go in one by one.
  have sorted : ∀ (members acc : List (String × Json)), (acc.map (·.1)).Pairwise (· < ·) →
      ((members.foldl (fun acc m => insertMember m.1 m.2 acc) acc).map (·.1)).Pairwise (· < ·) := by
    intro members
    induction members with
    | nil => exact fun _ h => h
    | cons m rest ih => exact fun acc h => ih _ (sorted_insertMember h)
  refine .obj (sorted members [] List.Pairwise.nil) fun m hm => ?_
  rcases mem_of_mem_foldl_insertMember members hm with h | h
  · exact each m h
  · cases h

/-- A key above all the others is inserted at the end. -/
theorem insertMember_of_above {key : String} {value : Json} :
    ∀ {members : List (String × Json)}, (∀ k ∈ members.map (·.1), k < key) →
      insertMember key value members = members ++ [(key, value)]
  | [], _ => rfl
  | (k, v) :: rest, above => by
      have below : k < key := above k List.mem_cons_self
      rw [insertMember, if_neg (String.lt_asymm below), if_neg (String.ne_of_lt below).symm,
        insertMember_of_above fun k' hk' => above k' (List.mem_cons_of_mem _ hk'), List.cons_append]

/-- **Members in order** are kept as they are. -/
theorem object_of_sorted {members : List (String × Json)}
    (sorted : (members.map (·.1)).Pairwise (· < ·)) : object members = obj members := by
  -- Each member goes to the end, since its key is above those already in.
  have kept : ∀ members acc : List (String × Json),
      ((acc ++ members).map (·.1)).Pairwise (· < ·) →
        members.foldl (fun acc m => insertMember m.1 m.2 acc) acc = acc ++ members := by
    intro members
    induction members with
    | nil => exact fun acc _ => (List.append_nil acc).symm
    | cons m rest ih =>
      intro acc sorted
      have above : ∀ k ∈ acc.map (·.1), k < m.1 := by
        rw [List.map_append] at sorted
        exact fun k hk => (List.pairwise_append.1 sorted).2.2 k hk m.1 List.mem_cons_self
      rw [List.foldl_cons, insertMember_of_above above, ih, List.append_assoc,
        List.singleton_append]
      rwa [List.append_assoc, List.singleton_append]
  rw [object, kept members [] sorted, List.nil_append]

/-! ## §2. Numbers of a value -/

mutual
/-- The numbers in a value. -/
def numbers : Json → List Number
  | num n => [n]
  | arr items => itemNumbers items
  | obj members => memberNumbers members
  | _ => []
termination_by structural j => j

/-- The numbers in the items. -/
def itemNumbers : List Json → List Number
  | [] => []
  | j :: rest => numbers j ++ itemNumbers rest
termination_by structural js => js

/-- The numbers in the members. -/
def memberNumbers : List (String × Json) → List Number
  | [] => []
  | (_, j) :: rest => numbers j ++ memberNumbers rest
termination_by structural ms => ms
end

theorem mem_itemNumbers {n : Number} {j : Json} (hn : n ∈ j.numbers) :
    ∀ {items : List Json}, j ∈ items → n ∈ itemNumbers items
  | i :: rest, h => by
      rw [itemNumbers, List.mem_append]
      rcases List.mem_cons.1 h with rfl | h
      · exact .inl hn
      · exact .inr (mem_itemNumbers hn h)

theorem mem_memberNumbers {n : Number} {m : String × Json} (hn : n ∈ m.2.numbers) :
    ∀ {members : List (String × Json)}, m ∈ members → n ∈ memberNumbers members
  | (_, _) :: rest, h => by
      rw [memberNumbers, List.mem_append]
      rcases List.mem_cons.1 h with rfl | h
      · exact .inl hn
      · exact .inr (mem_memberNumbers hn h)

namespace Reader

/-! ## §3. One level -/

/-- **The text of the value is read as the value**, with so many levels left, in as many steps as it
has characters. -/
def ReadsBack (room : Nat) (j : Json) : Prop :=
  ∀ fuel rest, j.chars.length ≤ fuel → EndsNumber rest →
    value? fuel room (j.chars ++ rest) = some (j, rest)

/-- It is enough to take the first step. -/
theorem ReadsBack.of_succ {room : Nat} {j : Json} (some : j.chars ≠ [])
    (h : ∀ fuel rest, j.chars.length ≤ fuel + 1 → EndsNumber rest →
      value? (fuel + 1) room (j.chars ++ rest) = .some (j, rest)) : ReadsBack room j := by
  intro fuel rest enough ends
  cases fuel with
  | zero => exact absurd (List.length_eq_zero_iff.1 (Nat.le_zero.1 enough)) some
  | succ fuel => exact h fuel rest enough ends

/-- A text that is read as a value starts with a character of the value. -/
theorem head_of_value? {fuel room : Nat} {cs rest : List Char} {j : Json}
    (h : value? fuel room cs = some (j, rest)) :
    skipSpace cs = cs ∧ ∀ left, cs ≠ ']' :: left := by
  have starts : ∀ {c : Char} {left : List Char}, cs = c :: left → isSpace c = false → c ≠ ']' →
      skipSpace cs = cs ∧ ∀ left, cs ≠ ']' :: left := by
    rintro c left rfl solid other
    refine ⟨List.dropWhile_cons_of_neg (by simp [solid]), fun left' same => ?_⟩
    exact other (List.cons.inj same).1
  cases fuel with
  | zero => cases h
  | succ fuel =>
    rcases value?_cases h with ⟨c, _, text, first, -⟩ | ⟨_, _, text, -⟩ | ⟨_, _, text, -⟩ | number
    · -- The first character tells the kind of the value, and none of them is blank or a closing
      -- bracket.
      simp only [List.mem_cons, List.not_mem_nil, or_false] at first
      rcases first with rfl | rfl | rfl | rfl <;> exact starts text rfl (by decide)
    · exact starts text rfl (by decide)
    · exact starts text rfl (by decide)
    · obtain ⟨c, _, text, numeric⟩ := exists_cons_of_number? number
      exact starts text (isSpace_of_isNumeric numeric) (ne_of_isNumeric numeric _ rfl)

/-- Words and strings are read by their first character. -/
theorem readsBack_null (room : Nat) : ReadsBack room null :=
  .of_succ (by simp [chars]) fun _ _ _ _ => rfl

theorem readsBack_bool (room : Nat) (b : Bool) : ReadsBack room (bool b) := by
  cases b <;> exact .of_succ (by simp [chars]) fun _ _ _ _ => rfl

theorem readsBack_str (room : Nat) (s : String) : ReadsBack room (str s) := by
  refine .of_succ (by simp [chars, quoted]) fun fuel rest _ _ => ?_
  show (string? (quoted s ++ rest)).map _ = _
  rw [string?_quoted]
  rfl

/-- **A number** is read as it is alone. -/
theorem readsBack_num (room : Nat) {n : Number} (back : number? n.chars = some (num n, [])) :
    ReadsBack room (num n) := by
  obtain ⟨c, cs, text, numeric⟩ := exists_cons_of_number? back
  -- A numeric first character is none of those the other kinds begin with.
  have apart := @ne_of_isNumeric c numeric
  refine .of_succ (by rw [chars, text]; exact List.cons_ne_nil _ _) fun fuel rest _ ends => ?_
  have read := number?_append ends back
  rw [chars, text, List.cons_append] at *
  rw [value?.eq_def]
  dsimp only
  rw [if_neg (apart _ rfl), if_neg (apart _ rfl), if_neg (apart _ rfl), if_neg (apart _ rfl),
    if_neg (apart _ rfl), if_neg (apart _ rfl)]
  exact read

/-! ## §4. Arrays -/

/-- What follows an item does not continue it. -/
theorem endsNumber_itemChars (items : List Json) (rest : List Char) :
    EndsNumber (itemChars items ++ rest) := by
  cases items with
  | nil => exact endsNumber_cons (by decide)
  | cons j items => exact endsNumber_cons (by decide)

/-- **Items that are read back** are read back one after another. -/
theorem items?_chars {room : Nat} (rest : List Char) {items : List Json} :
    ∀ {j : Json} {fuel : Nat} (done : List Json), (∀ i ∈ j :: items, ReadsBack room i) →
      j.chars.length + (itemChars items).length ≤ fuel →
      items? fuel room done (j.chars ++ (itemChars items ++ rest)) =
        some (done.reverse ++ j :: items, rest) := by
  induction items with
  | nil =>
    intro j fuel done each enough
    rw [itemChars, List.length_singleton] at enough
    cases fuel with
    | zero => cases enough
    | succ fuel =>
      have read := each j List.mem_cons_self fuel _ (Nat.le_of_succ_le_succ enough)
        (endsNumber_itemChars [] rest)
      rw [items?, read]
      show some ((j :: done).reverse, rest) = _
      rw [List.reverse_cons]
  | cons i items ih =>
    intro j fuel done each enough
    rw [itemChars, List.length_append, List.length_cons] at enough
    cases fuel with
    | zero => omega
    | succ fuel =>
      obtain ⟨first, others⟩ := List.forall_mem_cons.1 each
      have read := first fuel _ (by omega) (endsNumber_itemChars (i :: items) rest)
      have next := ih (j :: done) others (by omega : _ ≤ fuel)
      -- The next item starts right after the comma.
      have solid := (head_of_value? (others i List.mem_cons_self fuel _ (by omega)
        (endsNumber_itemChars items rest))).1
      rw [items?, read]
      show items? fuel room (j :: done)
        (skipSpace (i.chars ++ itemChars items ++ rest)) = _
      rw [List.append_assoc, solid, next, List.reverse_cons, List.append_assoc,
        List.singleton_append]

/-- An array is its items, which start right after the bracket. -/
theorem value?_array {fuel room : Nat} {cs rest : List Char} {items : List Json} (deep : 1 < room)
    (solid : skipSpace cs = cs) (more : ∀ left, cs ≠ ']' :: left)
    (read : items? fuel (room - 1) [] cs = some (items, rest)) :
    value? (fuel + 1) room ('[' :: cs) = some (arr items, rest) := by
  rw [value?.eq_def]
  dsimp only
  rw [if_neg (by decide), if_neg (by decide), if_neg (by decide), if_neg (by decide), if_pos rfl,
    if_neg (Nat.not_le.2 deep), solid]
  split
  · exact absurd rfl (more _)
  · rw [read]
    rfl

/-- **An array of items that are read back** is read back. -/
theorem readsBack_arr {room : Nat} {items : List Json} (deep : 1 < room)
    (each : ∀ i ∈ items, ReadsBack (room - 1) i) : ReadsBack room (arr items) := by
  cases items with
  | nil =>
    refine .of_succ (by simp [chars]) fun fuel rest _ _ => ?_
    show (if room ≤ 1 then none else some (arr [], rest)) = _
    rw [if_neg (Nat.not_le.2 deep)]
  | cons j items =>
    refine .of_succ (by simp [chars]) fun fuel rest enough _ => ?_
    rw [chars, List.cons_append] at enough ⊢
    rw [List.length_cons, List.length_append] at enough
    -- What follows the bracket is a value, so it is not taken for the empty array.
    have first := head_of_value? (each j List.mem_cons_self fuel _ (by omega)
      (endsNumber_itemChars items rest))
    rw [List.cons_append, List.append_assoc]
    exact value?_array deep first.1 first.2 (items?_chars rest [] each (by omega))

/-! ## §5. Objects -/

section
variable {room fuel : Nat} {value : Json} {rest : List Char} (back : ReadsBack room value)
  (enough : value.chars.length ≤ fuel) (key : String) (done : List (String × Json))

include back enough

/-- The last member stands before the brace. -/
theorem members?_last :
    members? (fuel + 1) room done (quoted key ++ ':' :: (value.chars ++ '\x7d' :: rest)) =
      some (((key, value) :: done).reverse, rest) := by
  have colon : ∀ cs, skipSpace (':' :: cs) = ':' :: cs := fun _ => rfl
  have brace : skipSpace ('\x7d' :: rest) = '\x7d' :: rest := rfl
  have read := back fuel ('\x7d' :: rest) enough (endsNumber_cons (by decide))
  rw [members?, string?_quoted]
  simp only [colon, (head_of_value? read).1, read, brace]

/-- Any other member stands before a comma. -/
theorem members?_next :
    members? (fuel + 1) room done (quoted key ++ ':' :: (value.chars ++ ',' :: rest)) =
      members? fuel room ((key, value) :: done) (skipSpace rest) := by
  have colon : ∀ cs, skipSpace (':' :: cs) = ':' :: cs := fun _ => rfl
  have comma : skipSpace (',' :: rest) = ',' :: rest := rfl
  have read := back fuel (',' :: rest) enough (endsNumber_cons (by decide))
  rw [members?, string?_quoted]
  simp only [colon, (head_of_value? read).1, read, comma]

end

/-- **Members whose values are read back** are read back one after another. -/
theorem members?_chars {room : Nat} (rest : List Char) {members : List (String × Json)} :
    ∀ {key : String} {value : Json} {fuel : Nat} (done : List (String × Json)),
      (∀ m ∈ (key, value) :: members, ReadsBack room m.2) →
      value.chars.length + (memberChars members).length ≤ fuel →
      members? fuel room done (quoted key ++ ':' :: (value.chars ++ (memberChars members ++ rest))) =
        some (done.reverse ++ (key, value) :: members, rest) := by
  induction members with
  | nil =>
    intro key value fuel done each enough
    rw [memberChars, List.length_singleton] at enough
    cases fuel with
    | zero => cases enough
    | succ fuel =>
      have own : ReadsBack room value := each _ List.mem_cons_self
      show members? (fuel + 1) room done (quoted key ++ ':' :: (value.chars ++ '\x7d' :: rest)) = _
      rw [members?_last own (Nat.le_of_succ_le_succ enough), List.reverse_cons]
  | cons m members ih =>
    intro key value fuel done each enough
    obtain ⟨k, j⟩ := m
    rw [memberChars, List.length_append, List.length_append, List.length_cons,
      List.length_cons] at enough
    cases fuel with
    | zero => omega
    | succ fuel =>
      obtain ⟨first, others⟩ := List.forall_mem_cons.1 each
      have own : ReadsBack room value := first
      have next := ih ((key, value) :: done) others (by omega : _ ≤ fuel)
      show members? (fuel + 1) room done (quoted key ++ ':' :: (value.chars ++
        ',' :: (quoted k ++ ':' :: j.chars ++ memberChars members ++ rest))) = _
      rw [members?_next own (by omega)]
      -- The next key starts with a quote, right after the comma.
      show members? fuel room ((key, value) :: done)
        (quoted k ++ ':' :: j.chars ++ memberChars members ++ rest) = _
      simp only [List.append_assoc, List.cons_append] at next ⊢
      rw [next, List.reverse_cons, List.append_assoc, List.singleton_append]

/-- An object is its members, which start right after the brace. -/
theorem value?_object {fuel room : Nat} {cs rest : List Char} {members : List (String × Json)}
    (deep : 1 < room) (solid : skipSpace cs = cs) (more : ∀ left, cs ≠ '\x7d' :: left)
    (read : members? fuel (room - 1) [] cs = some (members, rest)) :
    value? (fuel + 1) room ('\x7b' :: cs) = some (object members, rest) := by
  rw [value?.eq_def]
  dsimp only
  rw [if_neg (by decide), if_neg (by decide), if_neg (by decide), if_neg (by decide),
    if_neg (by decide), if_pos rfl, if_neg (Nat.not_le.2 deep), solid]
  split
  · exact absurd rfl (more _)
  · rw [read]
    rfl

/-- **An object whose members are read back** is read back, where they are in order. -/
theorem readsBack_obj {room : Nat} {members : List (String × Json)} (deep : 1 < room)
    (sorted : (members.map (·.1)).Pairwise (· < ·))
    (each : ∀ m ∈ members, ReadsBack (room - 1) m.2) : ReadsBack room (obj members) := by
  cases members with
  | nil =>
    refine .of_succ (by simp [chars]) fun fuel rest _ _ => ?_
    show (if room ≤ 1 then none else some (obj [], rest)) = _
    rw [if_neg (Nat.not_le.2 deep)]
  | cons m members =>
    obtain ⟨k, j⟩ := m
    have text : ∀ rest, (obj ((k, j) :: members)).chars ++ rest =
        '\x7b' :: (quoted k ++ ':' :: (j.chars ++ (memberChars members ++ rest))) := by
      intro rest
      simp [chars]
    refine .of_succ (by simp [chars]) fun fuel rest enough _ => ?_
    rw [chars] at enough
    simp only [List.length_append, List.length_cons] at enough
    -- Reading sorts the members, which changes nothing here.
    rw [text, ← object_of_sorted sorted]
    exact value?_object deep rfl (fun left same => by cases (List.cons.inj same).1)
      (members?_chars rest [] each (by omega))

/-! ## §6. Values -/

/-- **A value is read back** where its binary64 numbers are, it is orderly, and enough levels are
left. -/
theorem readsBack {j : Json} (orderly : j.Orderly) :
    ∀ {room : Nat}, j.depth ≤ room - 1 → (∀ x, .float x ∈ j.numbers → (Number.float x).IsReadBack) →
      ReadsBack room j := by
  -- Induction on the order; every level takes one from the room.
  induction orderly with
  | null => exact fun {room} _ _ => readsBack_null room
  | bool => exact fun {room} _ _ => readsBack_bool room _
  | str => exact fun {room} _ _ => readsBack_str room _
  | @num n =>
    intro room _ back
    apply readsBack_num
    cases n with
    | int i lower upper => exact number?_intDigits i lower upper
    | float x => exact number?_chars_of_isReadBack (back x List.mem_cons_self)
  | @arr items each ih =>
    intro room shallow back
    rw [depth] at shallow
    refine readsBack_arr (by omega) fun i hi => ih i hi ?_ fun x hx => ?_
    · have := depthItems_le_iff.1 (Nat.le_refl _) i hi
      omega
    · exact back x (mem_itemNumbers hx hi)
  | @obj members sorted each ih =>
    intro room shallow back
    rw [depth] at shallow
    refine readsBack_obj (by omega) sorted fun m hm => ih m hm ?_ fun x hx => ?_
    · have := depthMembers_le_iff.1 (Nat.le_refl _) m hm
      omega
    · exact back x (mem_memberNumbers hx hm)

end Reader

/-- **A value is read back from its own text**, where it is orderly, nested fewer than
`nestingLimit` levels, and its binary64 numbers are read back. -/
theorem parse?_text {j : Json} (orderly : j.Orderly) (shallow : j.depth < Reader.nestingLimit)
    (back : ∀ x, .float x ∈ j.numbers → (Number.float x).IsReadBack) : parse? j.text = some j := by
  have whole : Reader.ReadsBack Reader.nestingLimit j :=
    Reader.readsBack orderly (Nat.le_pred_of_lt shallow) back
  have read := whole (2 * j.chars.length + 2) [] (by omega) Reader.endsNumber_nil
  have solid := (Reader.head_of_value? read).1
  rw [List.append_nil] at read solid
  unfold parse? ofChars? text
  rw [String.toList_ofList, solid, read]
  rfl

end Sift.Json
