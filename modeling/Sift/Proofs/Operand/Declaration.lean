/-
  Sift.Proofs.Operand.Declaration
  ───────────────────────────────
  **Which JSON values declare a form, and that its own declaration does.**

  A declaration is a table of members, or an array of the type and the members in their order.
  `Declares` says what is a declaration of which form, without the reader:

      type     — its name, and inside a list its number                      (`Names`)
      shape    — a table and an array both give members by their names        (`Gives`)
      members  — missing and null are none, else a number, a word, a length   (`MayMean`)

  The reader takes exactly the declarations.  A form that JSON can declare has finite bounds,
  since JSON has no other numbers; and each of these is declared by what it is written as, so a
  form that was read from anything is read from its own declaration again.

  Main results:
    * `Form.ofJson?_eq_some_iff` — what is read is what is declared.
    * `Form.declaration_read_back` — which forms are read back from their own declarations.
-/
import Sift.Operand.Declaration
import Sift.Proofs.Json.Numeric

namespace Sift

open Settings

/-! ## §1. Objects and tables -/

namespace Json

/-- A key that is not there has no member. -/
theorem lookup_eq_none {name : String} {members : List (String × Json)}
    (absent : name ∉ members.map Prod.fst) : lookup name members = none := by
  induction members with
  | nil => rfl
  | cons m rest ih =>
    obtain ⟨other, others⟩ := not_or.1 (mt List.mem_cons.2 absent)
    rw [lookup, if_neg fun same => other same.symm]
    exact ih others

/-- **An object of distinct keys** has the members that it is made of. -/
theorem exists_object_eq (members : List (String × Json))
    (distinct : (members.map Prod.fst).Nodup) :
    ∃ ms, object members = .obj ms ∧ ∀ name, lookup name ms = lookup name members := by
  -- Whatever is there before, a member that is inserted comes first.
  have kept : ∀ members acc : List (String × Json), (members.map Prod.fst).Nodup → ∀ name,
      lookup name (members.foldl (fun acc m => insertMember m.1 m.2 acc) acc) =
        (lookup name members).or (lookup name acc) := by
    intro members
    induction members with
    | nil =>
      intro acc _ name
      rfl
    | cons m rest ih =>
      obtain ⟨key, value⟩ := m
      intro acc distinct name
      obtain ⟨fresh, distinct⟩ := List.nodup_cons.1 distinct
      rw [List.foldl_cons, ih _ distinct, lookup_insertMember, lookup]
      split
      · rename_i same
        subst same
        -- Names are distinct, so no later member has this one.
        rw [lookup_eq_none fresh]
        rfl
      · rfl
  refine ⟨_, rfl, fun name => ?_⟩
  rw [kept members [] distinct, lookup, Option.or_none]

end Json

namespace Settings.Tree

/-- A member of a table of JSON values. -/
theorem lookup_ofMembers (name : String) (members : List (String × Json)) :
    lookup name (ofMembers members) = (Json.lookup name members).map ofJson := by
  induction members with
  | nil => rfl
  | cons m rest ih =>
    obtain ⟨key, j⟩ := m
    simp only [ofMembers, lookup, Json.lookup]
    split
    · rfl
    · exact ih

/-- Items that get names are members. -/
theorem zip_ofItems (names : List String) (items : List Json) :
    names.zip (ofItems items) = ofMembers (names.zip items) := by
  induction names generalizing items with
  | nil => cases items <;> rfl
  | cons name names ih =>
    cases items with
    | nil => rfl
    | cons j rest =>
      show (name, ofJson j) :: names.zip (ofItems rest) = _
      rw [ih]
      rfl

theorem length_ofItems (items : List Json) : (ofItems items).length = items.length := by
  induction items with
  | nil => rfl
  | cons j rest ih => exact congrArg (· + 1) ih

/-- Only null is no value. -/
theorem isNil_ofJson {j : Json} : (ofJson j).isNil = true ↔ j = .null := by
  cases j with
  | null => exact ⟨fun _ => rfl, fun _ => rfl⟩
  | num n => cases n <;> simp [ofJson, ofNumber, isNil]
  | _ => simp [ofJson, isNil]

end Settings.Tree

namespace Form

/-! ## §2. Declarations -/

/-- **A value names a type**: by the name of the type, and inside a list also by its number. -/
inductive Names (inside : Bool) (kind : Kind) : Json → Prop
  | name : Names inside kind (.str kind.name)
  | place {n : Json.Number} {i : Nat} (deep : inside = true) (whole : n.int? = some (i : Int))
      (nth : Kind.all[i]? = some kind) : Names inside kind (.num n)

/-- **A declaration gives the members of its type**: a table by their names, whatever else it
holds, and an array in their order after the type, of which the last ones may be missing. -/
inductive Gives (inside : Bool) (kind : Kind) : Json → List (String × Json) → Prop
  | table {members : List (String × Json)} {tag : Json}
      (typed : Json.lookup "type" members = some tag) (names : Names inside kind tag) :
      Gives inside kind (.obj members) members
  | array {tag : Json} {values : List Json} (names : Names inside kind tag)
      (few : values.length ≤ kind.memberNames.length) :
      Gives inside kind (.arr (tag :: values)) (kind.memberNames.zip values)

/-- An optional member: missing and null are none. -/
inductive MayMean {α : Type} (Means : Json → α → Prop) : Option Json → Option α → Prop
  | missing : MayMean Means none none
  | null : MayMean Means (some .null) none
  | given {j : Json} {a : α} (means : Means j a) : MayMean Means (some j) (some a)

/-- The bound of a number is any number. -/
def MeansNumber (j : Json) (x : Binary64) : Prop := ∃ n, j = .num n ∧ n.toBinary64 = x

/-- The bound of a whole number is a whole number of the signed words. -/
def MeansWord (j : Json) (w : Int64) : Prop := ∃ n, j = .num n ∧ n.int? = some w.toInt

/-- A length is a whole number of the unsigned words. -/
def MeansLength (j : Json) (w : UInt64) : Prop := ∃ n, j = .num n ∧ n.int? = some (w.toNat : Int)

/-- The form of a type that has no members. -/
def plain? : Kind → Option Form
  | .text => some .text
  | .truth => some .truth
  | .pattern => some .pattern
  | .instant => some .instant
  | .number | .integer | .options | .list => none

/-- **A JSON value declares a form**, inside a list or not. -/
inductive Declares : Bool → Json → Form → Prop
  | plain {inside : Bool} {j : Json} {ms : List (String × Json)} {kind : Kind} {f : Form}
      (gives : Gives inside kind j ms) (bare : plain? kind = some f) : Declares inside j f
  | number {inside : Bool} {j : Json} {ms : List (String × Json)} {least greatest : Option Binary64}
      (gives : Gives inside .number j ms)
      (lower : MayMean MeansNumber (Json.lookup "min" ms) least)
      (upper : MayMean MeansNumber (Json.lookup "max" ms) greatest) :
      Declares inside j (.number least greatest)
  | integer {inside : Bool} {j : Json} {ms : List (String × Json)} {least greatest : Option Int64}
      (gives : Gives inside .integer j ms)
      (lower : MayMean MeansWord (Json.lookup "min" ms) least)
      (upper : MayMean MeansWord (Json.lookup "max" ms) greatest) :
      Declares inside j (.integer least greatest)
  | options {inside : Bool} {j : Json} {ms : List (String × Json)} {allowed : List String}
      (gives : Gives inside .options j ms)
      (texts : Json.lookup "options" ms = some (.arr (allowed.map .str))) :
      Declares inside j (.options allowed)
  | list {inside : Bool} {j inner : Json} {ms : List (String × Json)} {item : Form}
      {length : Option UInt64} (gives : Gives inside .list j ms)
      (given : Json.lookup "item" ms = some inner) (declared : Declares true inner item)
      (counted : MayMean MeansLength (Json.lookup "length" ms) length) :
      Declares inside j (.list item length)

/-! ## §3. Reading members -/

/-- The type of a tree is the one that the value names. -/
theorem kind_ofJson_iff {inside : Bool} {kind : Kind} {j : Json} :
    Kind.ofTree? inside (.ofJson j) = some kind ↔ Names inside kind j := by
  constructor
  · intro found
    cases j with
    | str s =>
      have same : kind.name = s := by simpa using List.find?_some found
      rw [← same]
      exact .name
    | num n =>
      -- A place is a whole number; one with a fraction names nothing.
      cases n with
      | float x => cases found
      | int i lower upper =>
        simp only [Tree.ofJson, Tree.ofNumber, Kind.ofTree?, Bool.and_eq_true,
          decide_eq_true_eq] at found
        split at found
        · rename_i deep
          exact .place deep.1 (by rw [Int.toNat_of_nonneg deep.2]; rfl) found
        · cases found
    | _ => cases found
  · intro named
    cases named with
    | name => exact Kind.ofTree?_name inside kind
    | @place n i deep whole nth =>
      cases n with
      | float x => cases whole
      | int i' lower upper =>
        cases whole
        simp [Tree.ofJson, Tree.ofNumber, Kind.ofTree?, deep, nth]

/-- **An optional member** is read as what it may mean, where a value is read as what it means. -/
theorem optionalTree?_iff {α : Type} {read : Tree → Option α} {Means : Json → α → Prop}
    (reads : ∀ {j a}, read (.ofJson j) = some a ↔ Means j a)
    (null : ∀ a, ¬ Means .null a) {ms : List (String × Json)} {name : String} {o : Option α} :
    optionalTree? read ((Tree.lookup name (Tree.ofMembers ms)).getD .nil) = some o ↔
      MayMean Means (Json.lookup name ms) o := by
  rw [Tree.lookup_ofMembers]
  cases Json.lookup name ms with
  | none =>
    constructor
    · intro h
      cases h
      exact .missing
    · intro h
      cases h
      rfl
  | some j =>
    show optionalTree? read (Tree.ofJson j) = some o ↔ _
    unfold optionalTree?
    -- Null stands for no value and is never read as one.
    by_cases isNull : j = .null
    · subst isNull
      constructor
      · intro h
        cases h
        exact .null
      · intro h
        cases h with
        | null => rfl
        | given means => exact absurd means (null _)
    · rw [if_neg fun h => isNull (Tree.isNil_ofJson.1 h), Option.map_eq_some_iff]
      constructor
      · rintro ⟨a, h, rfl⟩
        exact .given (reads.1 h)
      · intro h
        cases h with
        | null => exact absurd rfl isNull
        | given means => exact ⟨_, reads.2 means, rfl⟩

theorem number?_ofJson_iff {j : Json} {x : Binary64} :
    number? (.ofJson j) = some x ↔ MeansNumber j x := by
  cases j with
  | num n =>
    cases n <;> simp [Tree.ofJson, Tree.ofNumber, number?, MeansNumber, Json.Number.toBinary64]
  | _ => simp [Tree.ofJson, number?, MeansNumber]

theorem integer?_ofJson_iff {j : Json} {w : Int64} :
    integer? (.ofJson j) = some w ↔ MeansWord j w := by
  cases j with
  | num n =>
    cases n with
    | float x => simp [Tree.ofJson, Tree.ofNumber, integer?, MeansWord, Json.Number.int?]
    | int i lower upper =>
      -- The tree keeps the whole number, whatever its size; the word decides.
      show signedWord? i = some w ↔ _
      rw [signedWord?_eq_some_iff]
      constructor
      · rintro rfl
        exact ⟨_, rfl, rfl⟩
      · rintro ⟨n, same, whole⟩
        cases same
        cases whole
        rfl
  | _ => simp [Tree.ofJson, integer?, MeansWord]

theorem length?_ofJson_iff {j : Json} {w : UInt64} :
    length? (.ofJson j) = some w ↔ MeansLength j w := by
  cases j with
  | num n =>
    cases n with
    | float x => simp [Tree.ofJson, Tree.ofNumber, length?, MeansLength, Json.Number.int?]
    | int i lower upper =>
      show (if 0 ≤ i then unsignedWord? i.toNat else none) = some w ↔ _
      constructor
      · -- A length is never negative, so it is the same number as its word.
        intro h
        split at h
        · rename_i nonneg
          refine ⟨_, rfl, ?_⟩
          show some i = some (w.toNat : Int)
          rw [toNat_of_unsignedWord? h, Int.toNat_of_nonneg nonneg]
        · cases h
      · rintro ⟨n, same, whole⟩
        cases same
        cases whole
        rw [if_pos (Int.natCast_nonneg _), Int.toNat_natCast]
        exact unsignedWord?_toNat w
  | _ => simp [Tree.ofJson, length?, MeansLength]

section
variable {ms : List (String × Json)} {name : String}

theorem numberMember?_iff {o : Option Binary64} :
    optionalTree? number? ((Tree.lookup name (Tree.ofMembers ms)).getD .nil) = some o ↔
      MayMean MeansNumber (Json.lookup name ms) o :=
  optionalTree?_iff number?_ofJson_iff (by rintro x ⟨_, ⟨⟩, _⟩)

theorem wordMember?_iff {o : Option Int64} :
    optionalTree? integer? ((Tree.lookup name (Tree.ofMembers ms)).getD .nil) = some o ↔
      MayMean MeansWord (Json.lookup name ms) o :=
  optionalTree?_iff integer?_ofJson_iff (by rintro w ⟨_, ⟨⟩, _⟩)

theorem lengthMember?_iff {o : Option UInt64} :
    optionalTree? length? ((Tree.lookup name (Tree.ofMembers ms)).getD .nil) = some o ↔
      MayMean MeansLength (Json.lookup name ms) o :=
  optionalTree?_iff length?_ofJson_iff (by rintro w ⟨_, ⟨⟩, _⟩)

end

/-- The items of an enumeration are texts. -/
theorem mapM_text?_ofItems_iff {js : List Json} {allowed : List String} :
    (Tree.ofItems js).mapM Tree.text? = some allowed ↔ js = allowed.map .str := by
  induction js generalizing allowed with
  | nil => cases allowed <;> simp [Tree.ofItems]
  | cons j rest ih =>
    -- A tree is a text only where the JSON is that text.
    have text (s : String) : (Tree.ofJson j).text? = some s ↔ j = .str s := by
      cases j with
      | num n => cases n <;> simp [Tree.ofJson, Tree.ofNumber, Tree.text?]
      | _ => simp [Tree.ofJson, Tree.text?]
    rw [Tree.ofItems, List.mapM_cons]
    simp only [Option.bind_eq_bind, Option.bind_eq_some_iff, text, ih]
    constructor
    · rintro ⟨s, rfl, others, rfl, made⟩
      cases made
      rfl
    · intro same
      cases allowed with
      | nil => cases same
      | cons s others =>
        rw [List.map_cons, List.cons.injEq] at same
        exact ⟨s, same.1, others, same.2, rfl⟩

theorem options?_iff {ms : List (String × Json)} {allowed : List String} :
    options? ((Tree.lookup "options" (Tree.ofMembers ms)).getD .nil) = some allowed ↔
      Json.lookup "options" ms = some (.arr (allowed.map .str)) := by
  rw [Tree.lookup_ofMembers]
  cases Json.lookup "options" ms with
  | none => simp [options?]
  | some j =>
    cases j with
    | arr items =>
      show (Tree.ofItems items).mapM Tree.text? = some allowed ↔ _
      rw [mapM_text?_ofItems_iff, Option.some.injEq, Json.arr.injEq]
    | num n => cases n <;> simp [Tree.ofJson, Tree.ofNumber, options?]
    | _ => simp [Tree.ofJson, options?]

/-! ## §4. What is read -/

/-- The form that the member `item` declares. -/
theorem itemOf?_eq (members : List (String × Tree)) :
    itemOf? true members = (Tree.lookup "item" members).bind (ofTree? true true) := by
  induction members with
  | nil => rfl
  | cons m rest ih =>
    obtain ⟨name, t⟩ := m
    simp only [itemOf?, Tree.lookup]
    split
    · rfl
    · exact ih

/-- Only a list has an item. -/
theorem ofKind?_congr {kind : Kind} {item item' : Option Form} {members : List (String × Tree)}
    (same : kind = .list → item = item') :
    ofKind? item members kind = ofKind? item' members kind := by
  cases kind with
  | list => rw [same rfl]
  | _ => rfl

/-- A type without members is read whatever there is. -/
theorem ofKind?_of_plain {kind : Kind} {f : Form} (bare : plain? kind = some f)
    (item : Option Form) (members : List (String × Tree)) : ofKind? item members kind = some f := by
  cases kind with
  | text | truth | pattern | instant => exact bare
  | number | integer | options | list => cases bare

/-- The form of the items, where a declaration gives them. -/
def itemForm? (ms : List (String × Json)) : Option Form :=
  (Json.lookup "item" ms).bind fun inner => ofTree? true true (.ofJson inner)

/-- A table is read as the form of its type with its members. -/
theorem ofTree?_obj (inside : Bool) (members : List (String × Json)) :
    ofTree? true inside (.ofJson (.obj members)) =
      ((Json.lookup "type" members).bind fun tag => Kind.ofTree? inside (.ofJson tag)).bind
        (ofKind? (itemForm? members) (Tree.ofMembers members)) := by
  have item : itemOf? true (Tree.ofMembers members) = itemForm? members := by
    rw [itemOf?_eq, Tree.lookup_ofMembers]
    unfold itemForm?
    cases Json.lookup "item" members <;> rfl
  simp only [Tree.ofJson, ofTree?, item, Tree.lookup_ofMembers, Bool.true_and, Option.bind_map]
  show _ = Option.bind ((Json.lookup "type" members).bind (Kind.ofTree? inside ∘ Tree.ofJson)) _
  cases (Json.lookup "type" members).bind (Kind.ofTree? inside ∘ Tree.ofJson) <;> rfl

/-- An array is read as the form of its type with the members that it names, if those are not
too many. -/
theorem ofTree?_arr (inside : Bool) (tag : Json) (values : List Json) :
    ofTree? true inside (.ofJson (.arr (tag :: values))) =
      (Kind.ofTree? inside (.ofJson tag)).bind fun kind =>
        if values.length ≤ kind.memberNames.length then
          ofKind? (itemForm? (kind.memberNames.zip values))
            (Tree.ofMembers (kind.memberNames.zip values)) kind
        else none := by
  -- The item of a list is the second one of the array, which has the name `item`.
  have item (kind : Kind) (list : kind = .list) :
      secondOf? true (Tree.ofItems (tag :: values)) =
        itemForm? (kind.memberNames.zip values) := by
    subst list
    cases values <;> rfl
  simp only [Tree.ofJson, ofTree?, Tree.ofItems, List.head?_cons, Option.bind_some, List.tail_cons,
    Kind.named?, Tree.length_ofItems, Tree.zip_ofItems, Bool.true_and]
  cases Kind.ofTree? inside (.ofJson tag) with
  | none => rfl
  | some kind =>
    rw [Option.bind_some, ← ofKind?_congr (item kind)]
    by_cases few : values.length ≤ kind.memberNames.length
    · simp only [if_pos few]
      rfl
    · simp only [if_neg few]

/-- **Both shapes are read by the members that they give.** -/
theorem ofTree?_iff_gives {inside : Bool} {j : Json} {f : Form} :
    ofTree? true inside (.ofJson j) = some f ↔ ∃ kind ms, Gives inside kind j ms
      ∧ ofKind? (itemForm? ms) (Tree.ofMembers ms) kind = some f := by
  constructor
  · intro read
    cases j with
    | obj members =>
      -- A table names its kind by a member.
      rw [ofTree?_obj] at read
      obtain ⟨kind, found, made⟩ := Option.bind_eq_some_iff.1 read
      obtain ⟨tag, typed, named⟩ := Option.bind_eq_some_iff.1 found
      exact ⟨kind, members, .table typed (kind_ofJson_iff.1 named), made⟩
    | arr items =>
      cases items with
      | nil => cases read
      | cons tag values =>
        -- An array names it by its first item; the others are members by their places.
        rw [ofTree?_arr] at read
        obtain ⟨kind, named, made⟩ := Option.bind_eq_some_iff.1 read
        by_cases few : values.length ≤ kind.memberNames.length
        · rw [if_pos few] at made
          exact ⟨kind, _, .array (kind_ofJson_iff.1 named) few, made⟩
        · rw [if_neg few] at made
          cases made
    | num n => cases n <;> cases read
    | null | bool _ | str _ => cases read
  · rintro ⟨kind, ms, gives, made⟩
    cases gives with
    | table typed names =>
      rw [ofTree?_obj, typed, Option.bind_some, kind_ofJson_iff.2 names]
      exact made
    | array names few =>
      rw [ofTree?_arr, kind_ofJson_iff.2 names, Option.bind_some, if_pos few]
      exact made

/-- What is read is declared. -/
theorem declares_of_ofTree? (f : Form) {inside : Bool} {j : Json}
    (h : ofTree? true inside (.ofJson j) = some f) : Declares inside j f := by
  obtain ⟨kind, ms, gives, made⟩ := ofTree?_iff_gives.1 h
  clear h
  cases kind with
  | text | truth | pattern | instant => exact .plain gives made
  | options =>
    obtain ⟨allowed, texts, rfl⟩ := Option.map_eq_some_iff.1 made
    exact .options gives (options?_iff.1 texts)
  | number =>
    obtain ⟨least, lower, made⟩ := Option.bind_eq_some_iff.1 made
    obtain ⟨greatest, upper, made⟩ := Option.bind_eq_some_iff.1 made
    cases made
    exact .number gives (numberMember?_iff.1 lower) (numberMember?_iff.1 upper)
  | integer =>
    obtain ⟨least, lower, made⟩ := Option.bind_eq_some_iff.1 made
    obtain ⟨greatest, upper, made⟩ := Option.bind_eq_some_iff.1 made
    cases made
    exact .integer gives (wordMember?_iff.1 lower) (wordMember?_iff.1 upper)
  | list =>
    obtain ⟨item, found, made⟩ := Option.bind_eq_some_iff.1 made
    obtain ⟨length, counted, made⟩ := Option.bind_eq_some_iff.1 made
    cases made
    obtain ⟨inner, given, read⟩ := Option.bind_eq_some_iff.1 found
    -- The item is a smaller form, read from the value of its own member.
    exact .list gives given (declares_of_ofTree? item read) (lengthMember?_iff.1 counted)
termination_by f

/-- What is declared is read. -/
theorem ofTree?_of_declares {inside : Bool} {j : Json} {f : Form} (declared : Declares inside j f) :
    ofTree? true inside (.ofJson j) = some f := by
  induction declared with
  | plain gives bare => exact ofTree?_iff_gives.2 ⟨_, _, gives, ofKind?_of_plain bare _ _⟩
  | options gives texts =>
    refine ofTree?_iff_gives.2 ⟨_, _, gives, ?_⟩
    exact Option.map_eq_some_iff.2 ⟨_, options?_iff.2 texts, rfl⟩
  | number gives lower upper =>
    -- Both bounds are read before the form is made.
    have first := numberMember?_iff.2 lower
    have second := numberMember?_iff.2 upper
    refine ofTree?_iff_gives.2 ⟨_, _, gives, ?_⟩
    exact Option.bind_eq_some_iff.2 ⟨_, first, Option.bind_eq_some_iff.2 ⟨_, second, rfl⟩⟩
  | integer gives lower upper =>
    have first := wordMember?_iff.2 lower
    have second := wordMember?_iff.2 upper
    refine ofTree?_iff_gives.2 ⟨_, _, gives, ?_⟩
    exact Option.bind_eq_some_iff.2 ⟨_, first, Option.bind_eq_some_iff.2 ⟨_, second, rfl⟩⟩
  | list gives given _ counted read =>
    -- The form of the items comes first, as a declaration of its own.
    have item : itemForm? _ = some _ := Option.bind_eq_some_iff.2 ⟨_, given, read⟩
    have length := lengthMember?_iff.2 counted
    refine ofTree?_iff_gives.2 ⟨_, _, gives, ?_⟩
    exact Option.bind_eq_some_iff.2 ⟨_, item, Option.bind_eq_some_iff.2 ⟨_, length, rfl⟩⟩

/-- **What is read is what is declared.** -/
theorem ofJson?_eq_some_iff {j : Json} {f : Form} : ofJson? j = some f ↔ Declares false j f :=
  ⟨declares_of_ofTree? f, ofTree?_of_declares⟩

/-! ## §5. The declaration of a form -/

/-- Every bound of a number in the form is finite. -/
def FiniteBounds : Form → Prop
  | number least greatest =>
    (∀ x ∈ least, x.isFinite = true) ∧ ∀ x ∈ greatest, x.isFinite = true
  | list item _ => item.FiniteBounds
  | _ => True

/-- A bound that JSON can give is finite. -/
theorem isFinite_of_mayMean {given : Option Json} {bound : Option Binary64}
    (means : MayMean MeansNumber given bound) : ∀ x ∈ bound, x.isFinite = true := by
  cases means with
  | missing | null =>
    intro x hx
    cases hx
  | given number =>
    rintro _ ⟨⟩
    obtain ⟨n, -, rfl⟩ := number
    -- JSON has no spelling for an infinite number or for none.
    obtain ⟨x, finite⟩ := n.exists_toBinary64
    rw [finite]
    rfl

/-- A form that JSON can declare has finite bounds. -/
theorem finiteBounds_of_declares {inside : Bool} {j : Json} {f : Form}
    (declared : Declares inside j f) : f.FiniteBounds := by
  -- On the declaration; only a number carries bounds, and a list passes on those of its items.
  induction declared with
  | number _ lower upper => exact ⟨isFinite_of_mayMean lower, isFinite_of_mayMean upper⟩
  | list _ _ _ _ ih => exact ih
  | options | integer => trivial
  | @plain _ _ _ kind f _ bare =>
    cases kind with
    | text | truth | pattern | instant =>
      cases bare
      trivial
    | number | integer | options | list => cases bare

/-- A written declaration gives the members of its type. -/
theorem gives_declared (inside : Bool) (kind : Kind) (members : List (String × Json))
    (distinct : ("type" :: members.map Prod.fst).Nodup) :
    ∃ ms, Gives inside kind (declared kind members) ms
      ∧ ∀ name, name ≠ "type" → Json.lookup name ms = Json.lookup name members := by
  obtain ⟨ms, written, kept⟩ := Json.exists_object_eq (("type", .str kind.name) :: members) distinct
  refine ⟨ms, ?_, ?_⟩
  · rw [declared, written]
    exact .table (by rw [kept]; rfl) .name
  · intro name other
    rw [kept, Json.lookup, if_neg fun same => other same.symm]

/-- A type without members declares its form. -/
theorem declares_declared {kind : Kind} {f : Form} (bare : plain? kind = some f) (inside : Bool) :
    Declares inside (declared kind []) f := by
  obtain ⟨ms, gives, -⟩ := gives_declared inside kind [] (by decide)
  exact .plain gives bare

/-- An optional member that is written means what it was. -/
theorem mayMean_optionalJson {α : Type} {Means : Json → α → Prop} {write : α → Json}
    {o : Option α} (means : ∀ a ∈ o, Means (write a) a) :
    MayMean Means (some (optionalJson write o)) o := by
  cases o with
  | none => exact .null
  | some a => exact .given (means a rfl)

theorem meansNumber_ofBinary64 {x : Binary64} (finite : x.isFinite = true) :
    MeansNumber (.ofBinary64 x) x := by
  cases x with
  | finite x => exact ⟨.float x, rfl, rfl⟩
  | _ => cases finite

theorem meansWord_ofSignedWord (w : Int64) : MeansWord (.ofSignedWord w) w := ⟨_, rfl, rfl⟩

theorem meansLength_ofUnsignedWord (w : UInt64) : MeansLength (.ofUnsignedWord w) w := ⟨_, rfl, rfl⟩

/-- **A form of finite bounds is declared by its own declaration**, inside a list or not. -/
theorem declares_toJson {f : Form} (finite : f.FiniteBounds) (inside : Bool) :
    Declares inside f.toJson f := by
  -- The induction is for values inside lists and elsewhere at once, since items are inside.
  induction f generalizing inside with
  | text | truth | pattern | instant => exact declares_declared rfl inside
  | options allowed =>
    obtain ⟨ms, gives, kept⟩ := gives_declared inside .options
      [("options", .arr (allowed.map .str))] (by simp)
    exact .options gives (by rw [kept _ (by decide)]; rfl)
  | number least greatest =>
    obtain ⟨ms, gives, kept⟩ := gives_declared inside .number
      [("min", optionalJson .ofBinary64 least), ("max", optionalJson .ofBinary64 greatest)]
      (by simp)
    refine .number gives ?_ ?_
    · rw [kept _ (by decide)]
      exact mayMean_optionalJson fun x hx => meansNumber_ofBinary64 (finite.1 x hx)
    · rw [kept _ (by decide)]
      exact mayMean_optionalJson fun x hx => meansNumber_ofBinary64 (finite.2 x hx)
  | integer least greatest =>
    obtain ⟨ms, gives, kept⟩ := gives_declared inside .integer
      [("min", optionalJson .ofSignedWord least), ("max", optionalJson .ofSignedWord greatest)]
      (by simp)
    refine .integer gives ?_ ?_
    · rw [kept _ (by decide)]
      exact mayMean_optionalJson fun w _ => meansWord_ofSignedWord w
    · rw [kept _ (by decide)]
      exact mayMean_optionalJson fun w _ => meansWord_ofSignedWord w
  | list item length ih =>
    obtain ⟨ms, gives, kept⟩ := gives_declared inside .list
      [("item", item.toJson), ("length", optionalJson .ofUnsignedWord length)]
      (by simp)
    refine .list gives ?_ (ih finite true) ?_
    · rw [kept _ (by decide)]
      rfl
    · rw [kept _ (by decide)]
      exact mayMean_optionalJson fun w _ => meansLength_ofUnsignedWord w

/-! ## §6. Reading it back -/

/-- A finite bound is equal to itself. -/
theorem sameBound_self {bound : Option Binary64} (finite : ∀ x ∈ bound, x.isFinite = true) :
    sameBound bound bound = true := by
  cases bound with
  | none => rfl
  | some x =>
    cases x with
    | finite x => simp [sameBound, Binary64.eq]
    | _ => cases finite _ rfl

/-- A form of finite bounds is equal to itself. -/
theorem sameAs_self {f : Form} (finite : f.FiniteBounds) : f.sameAs f = true := by
  induction f with
  | number least greatest =>
    rw [sameAs, sameBound_self finite.1, sameBound_self finite.2]
    rfl
  | list item length ih =>
    rw [sameAs, ih finite, beq_self_eq_true]
    rfl
  | _ => simp [sameAs]

/-- A bound that is equal to a finite one is finite. -/
theorem isFinite_of_sameBound {a b : Option Binary64} (same : sameBound a b = true)
    (finite : ∀ x ∈ a, x.isFinite = true) : ∀ x ∈ b, x.isFinite = true := by
  rintro y ⟨⟩
  cases a with
  | none => cases same
  | some x =>
    have finite : x.isFinite = true := finite x rfl
    -- Being equal as numbers, `y` is finite as `x` is.
    cases x with
    | finite x =>
      cases y with
      | finite y => rfl
      | _ => cases same
    | _ => cases finite

/-- A form that is equal to one of finite bounds has finite bounds. -/
theorem finiteBounds_of_sameAs {a b : Form} (same : a.sameAs b = true) (finite : a.FiniteBounds) :
    b.FiniteBounds := by
  -- On `b`, over every `a`: a list is compared with the items of the other.
  induction b generalizing a with
  | number least greatest =>
    cases a with
    | number c d =>
      obtain ⟨lower, upper⟩ := Bool.and_eq_true_iff.1 same
      exact ⟨isFinite_of_sameBound lower finite.1, isFinite_of_sameBound upper finite.2⟩
    | _ => cases same
  | list item length ih =>
    cases a with
    | list item' length' => exact ih (Bool.and_eq_true_iff.1 same).1 finite
    | _ => cases same
  | _ => trivial

/-- **A declaration is read back as the form that it declares.**  The forms that are read back
from their own declarations are those of finite bounds, at every depth, and they are read back
without any difference.  Whatever a form was read from, a table with other members or none, or
an array, its bounds are finite and its own declaration declares it again. -/
theorem declaration_read_back (f : Form) :
    (f.FiniteBounds ↔ ∃ again, ofJson? f.toJson = some again ∧ again.sameAs f = true)
      ∧ (f.FiniteBounds → ofJson? f.toJson = some f ∧ f.sameAs f = true)
      ∧ ∀ j, (ofJson? j = some f ↔ Declares false j f)
        ∧ (ofJson? j = some f → ofJson? f.toJson = some f ∧ f.sameAs f = true) := by
  have back (finite : f.FiniteBounds) : ofJson? f.toJson = some f ∧ f.sameAs f = true :=
    ⟨ofJson?_eq_some_iff.2 (declares_toJson finite false), sameAs_self finite⟩
  refine ⟨⟨fun finite => ⟨f, back finite⟩, ?_⟩, back, fun j => ⟨ofJson?_eq_some_iff, ?_⟩⟩
  · rintro ⟨again, read, same⟩
    exact finiteBounds_of_sameAs same (finiteBounds_of_declares (ofJson?_eq_some_iff.1 read))
  · intro read
    exact back (finiteBounds_of_declares (ofJson?_eq_some_iff.1 read))

/-- An array may leave out the last members, and a type inside a list may be its number. -/
example : ofJson? (.arr [.str "list", .arr [.num (.int 1 (by decide) (by decide)), .null]]) =
    some (.list (.number none none) none) := rfl

end Form

end Sift
