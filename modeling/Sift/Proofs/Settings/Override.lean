/-
  Sift.Proofs.Settings.Override
  ─────────────────────────────
  **Overriding the root from the environment.**

  The text of a variable is read as a scalar where it names one, and a root takes any scalar by
  its text.  What was set and what is the root are therefore one text only where the first
  reading and the second writing undo each other:

      text  ─ value ─▸  scalar  ─ scalarText? ─▸  root

  They do for every text that names no scalar, such as a key in letters, and for a scalar that
  is spelled the way it is written.  `007` is the whole number 7, and its root is `7`.

  Main results:
    * `Settings.override_is_root_iff` — the root, for all settings and all texts.
    * `Settings.override_of_padded_key` — a text that is not kept.
-/
import Sift.Proofs.Settings.KeyOrder
import Sift.Proofs.Text.Integer

namespace Sift.Settings

/-! ## §1. What a text names -/

/-- **The scalar that a text names.**  A whole number past the signed words is a number. -/
inductive Names (t : String) : Tree → Prop
  | truth (b : Bool) (spelled : t.toList.map Char.toLower = (toString b).toList) :
      Names t (.truth b)
  | integer (w : Int64) (spelled : Text.integer? t.toList = some w.toInt) :
      Names t (.integer w.toInt)
  | number (x : Binary64) (notWhole : ∀ w : Int64, Text.integer? t.toList ≠ some w.toInt)
      (spelled : Binary64.ofText? t.toList = some x) : Names t (.number x)

/-- **A text that is read literally**: whatever scalar it names, it is the text of that
scalar. -/
def Verbatim (t : String) : Prop := ∀ v, Names t v → Declaration.scalarText? v = some t

/-- What a numeral can start with. -/
def startsNumeral (c : Char) : Bool := Text.isDigit c || c = '+' || c = '-' || c = '.'

/-- A text that starts like no numeral. -/
def StartsNoNumber (cs : List Char) : Prop := ∀ c ∈ cs.head?, startsNumeral c = false

/-- The words that are numbers, in lower case. -/
def numberWords : List (List Char) := ["inf".toList, "infinity".toList, "nan".toList]

/-- The words that are scalars, in lower case. -/
def scalarWords : List (List Char) := "true".toList :: "false".toList :: numberWords

/-- **A key in words**: it starts like no number, and is none of the words that are scalars, in
whatever case. -/
def InWords (t : String) : Prop :=
  StartsNoNumber t.toList ∧ t.toList.map Char.toLower ∉ scalarWords

theorem startsNumeral_eq_false_iff {c : Char} :
    startsNumeral c = false ↔ ((Text.isDigit c = false ∧ c ≠ '+') ∧ c ≠ '-') ∧ c ≠ '.' := by
  simp [startsNumeral]

/-- What a numeral starts with has no lower case. -/
theorem toLower_of_startsNumeral {c : Char} (h : startsNumeral c = true) : c.toLower = c := by
  simp only [startsNumeral, Bool.or_eq_true, decide_eq_true_eq] at h
  rcases h with ((digit | rfl) | rfl) | rfl
  · exact Text.toLower_of_isDigit digit
  · decide
  · decide
  · decide

namespace StartsNoNumber

variable {cs : List Char} (start : StartsNoNumber cs)

include start

/-- It is no whole number. -/
theorem integer?_eq_none : Text.integer? cs = none := by
  cases cs with
  | nil => rfl
  | cons c rest =>
    obtain ⟨⟨⟨noDigit, notPlus⟩, notMinus⟩, -⟩ := startsNumeral_eq_false_iff.1 (start c rfl)
    have notAll : Text.allDigits (c :: rest) = false := by simp [Text.allDigits, noDigit]
    unfold Text.integer? Text.natural?
    simp [notPlus, notMinus, notAll]

/-- It is a number only by a name. -/
theorem ofText?_eq_none (noName : cs.map Char.toLower ∉ numberWords) :
    Binary64.ofText? cs = none := by
  have noNumeral : Binary64.numeral? false cs = none := by
    cases cs with
    | nil => rfl
    | cons c rest =>
      obtain ⟨⟨⟨noDigit, -⟩, -⟩, notPoint⟩ := startsNumeral_eq_false_iff.1 (start c rfl)
      simp [Binary64.numeral?, Text.spanDigits, noDigit, notPoint]
  -- Without a sign there is only one way to read it.
  have unsigned : Binary64.ofText? cs = Binary64.unsigned? false cs := by
    cases cs with
    | nil => rfl
    | cons c rest =>
      obtain ⟨⟨⟨-, notPlus⟩, notMinus⟩, -⟩ := startsNumeral_eq_false_iff.1 (start c rfl)
      simp [Binary64.ofText?, notPlus, notMinus]
  obtain ⟨notInf, notInfinity, notNan⟩ :
      cs.map Char.toLower ≠ ['i', 'n', 'f'] ∧
        cs.map Char.toLower ≠ ['i', 'n', 'f', 'i', 'n', 'i', 't', 'y'] ∧
        cs.map Char.toLower ≠ ['n', 'a', 'n'] := by
    refine ⟨?_, ?_, ?_⟩ <;> exact fun spelled => noName (spelled ▸ by decide)
  rw [unsigned]
  unfold Binary64.unsigned?
  simp [notInf, notInfinity, notNan, noNumeral]

end StartsNoNumber

/-- A truth value starts like no numeral. -/
theorem startsNoNumber_of_truth {cs : List Char} {b : Bool}
    (spelled : cs.map Char.toLower = (toString b).toList) : StartsNoNumber cs := by
  cases cs with
  | nil =>
    intro c first
    cases first
  | cons d rest =>
    intro c first
    cases first
    have letter : d.toLower = 't' ∨ d.toLower = 'f' := by
      cases b
      · exact Or.inr (List.cons.inj spelled).1
      · exact Or.inl (List.cons.inj spelled).1
    -- What a numeral starts with would be that letter itself.
    rw [← Bool.not_eq_true]
    intro numeral
    rw [toLower_of_startsNumeral numeral] at letter
    rcases letter with rfl | rfl <;> cases numeral

/-- **A truth value is no number.** -/
theorem no_number_of_truth {cs : List Char} {b : Bool}
    (spelled : cs.map Char.toLower = (toString b).toList) :
    Text.integer? cs = none ∧ Binary64.ofText? cs = none := by
  have start := startsNoNumber_of_truth spelled
  exact ⟨start.integer?_eq_none, start.ofText?_eq_none (spelled ▸ by cases b <;> decide)⟩

/-- A key in words names no scalar. -/
theorem InWords.names_nothing {t : String} (h : InWords t) (v : Tree) : ¬ Names t v := by
  obtain ⟨start, noWord⟩ := h
  intro named
  cases named with
  | truth b spelled => exact noWord (spelled ▸ by cases b <;> decide)
  | integer w spelled =>
    rw [start.integer?_eq_none] at spelled
    cases spelled
  -- Words such as `inf` and `nan` do spell numbers, and are excluded by name.
  | number x notWhole spelled =>
    have noNumber : t.toList.map Char.toLower ∉ numberWords := fun word =>
      noWord (List.mem_cons_of_mem _ (List.mem_cons_of_mem _ word))
    rw [start.ofText?_eq_none noNumber] at spelled
    cases spelled

/-! ## §2. What a text is read as -/

/-- How a text that is no truth value is read. -/
theorem value_of_no_truth {t : String}
    (noTruth : ∀ b : Bool, t.toList.map Char.toLower ≠ (toString b).toList) :
    Environment.value t =
      (((Text.integer? t.toList).bind signedWord?).map fun w => .integer w.toInt).getD
        (((Binary64.ofText? t.toList).map .number).getD (.text t)) := by
  have notTrue : t.toList.map Char.toLower ≠ "true".toList := noTruth true
  have notFalse : t.toList.map Char.toLower ≠ "false".toList := noTruth false
  unfold Environment.value
  simp only [if_neg notTrue, if_neg notFalse]
  cases (Text.integer? t.toList).bind signedWord? with
  | some w => rfl
  | none => cases Binary64.ofText? t.toList <;> rfl

/-- **What a text names** is what it is read as. -/
theorem value_of_names {t : String} {v : Tree} (named : Names t v) : Environment.value t = v := by
  cases named with
  | truth b spelled =>
    unfold Environment.value
    simp only [spelled]
    cases b <;> rfl
  | integer w spelled =>
    -- A truth value is tried first, but none is spelled like a number.
    rw [value_of_no_truth, Text.word_eq_some_iff.2 spelled]
    · rfl
    · intro b truth
      rw [(no_number_of_truth truth).1] at spelled
      cases spelled
  | number x notWhole spelled =>
    have noWord : (Text.integer? t.toList).bind signedWord? = none :=
      Option.eq_none_iff_forall_ne_some.2 fun w word => notWhole w (Text.word_eq_some_iff.1 word)
    rw [value_of_no_truth, noWord, spelled]
    · rfl
    · intro b truth
      rw [(no_number_of_truth truth).2] at spelled
      cases spelled

/-- A text that names no scalar is read as itself. -/
theorem value_of_names_nothing {t : String} (nothing : ∀ v, ¬ Names t v) :
    Environment.value t = .text t := by
  have noWhole (w : Int64) : Text.integer? t.toList ≠ some w.toInt :=
    fun spelled => nothing _ (.integer w spelled)
  have noWord : (Text.integer? t.toList).bind signedWord? = none :=
    Option.eq_none_iff_forall_ne_some.2 fun w word => noWhole w (Text.word_eq_some_iff.1 word)
  have noNumber : Binary64.ofText? t.toList = none :=
    Option.eq_none_iff_forall_ne_some.2 fun x spelled => nothing _ (.number x noWhole spelled)
  rw [value_of_no_truth fun b truth => nothing _ (.truth b truth), noWord, noNumber]
  rfl

/-- **The root that a text gives**: the text of the scalar that it names, or else itself. -/
structure GivesRoot (t root : String) : Prop where
  named : ∀ v, Names t v → Declaration.scalarText? v = some root
  unnamed : (∀ v, ¬ Names t v) → root = t

/-- Every text gives a root. -/
theorem exists_givesRoot (t : String) :
    ∃ root, Declaration.scalarText? (Environment.value t) = some root ∧ GivesRoot t root := by
  by_cases named : ∃ v, Names t v
  · obtain ⟨v, named⟩ := named
    have scalar : ∃ root, Declaration.scalarText? v = some root := by
      cases named <;> exact ⟨_, rfl⟩
    obtain ⟨root, written⟩ := scalar
    -- A text names one scalar at most, since it is read as whatever it names.
    refine ⟨root, value_of_names named ▸ written, ?_, fun nothing => absurd named (nothing v)⟩
    intro u alsoNamed
    rw [← value_of_names alsoNamed, value_of_names named, written]
  · have nothing : ∀ v, ¬ Names t v := not_exists.1 named
    exact ⟨t, by rw [value_of_names_nothing nothing]; rfl,
      fun v named => absurd named (nothing v), fun _ => rfl⟩

/-- **The text is the root** exactly where it is read literally. -/
theorem GivesRoot.eq_iff {t root : String} (gives : GivesRoot t root) :
    root = t ↔ Verbatim t := by
  constructor
  · rintro rfl
    exact gives.named
  · intro verbatim
    by_cases named : ∃ v, Names t v
    · obtain ⟨v, named⟩ := named
      exact Option.some.inj ((gives.named v named).symm.trans (verbatim v named))
    · exact gives.unnamed (not_exists.1 named)

/-! ## §3. Variables -/

/-- The name of the variable that sets the root. -/
def rootVariable : String := "CONDITION_ENGINE__ROOT"

/-- What variables set, key by key in their order. -/
def assignments (env : List (String × String)) : List (String × Tree) :=
  env.filterMap fun v => (Environment.key? v.1).map fun key => (key, Environment.value v.2)

/-- The settings of variables are what they set, one after the other. -/
theorem settings_eq_foldl (env : List (String × String)) :
    Environment.settings env =
      (assignments env).foldl (fun members m => Tree.assign m.1 m.2 members) [] := by
  unfold assignments Environment.settings
  rw [List.foldl_filterMap]
  congr 1
  funext members v
  cases Environment.key? v.1 <;> rfl

/-- Variables of other programs set nothing. -/
theorem assignments_of_others {env : List (String × String)}
    (others : ∀ v ∈ env, Environment.key? v.1 = none) : assignments env = [] :=
  List.filterMap_eq_nil_iff.2 fun v member => by rw [others v member, Option.map_none]

theorem settings_of_others {env : List (String × String)}
    (others : ∀ v ∈ env, Environment.key? v.1 = none) : Environment.settings env = [] := by
  rw [settings_eq_foldl, assignments_of_others others, List.foldl_nil]

/-- Among them, the variable of the root gives the root. -/
theorem settings_of_root {before after : List (String × String)}
    (others : ∀ v ∈ before ++ after, Environment.key? v.1 = none) (t : String) :
    Environment.settings (before ++ (rootVariable, t) :: after) =
      [("root", Environment.value t)] := by
  have sets : Environment.key? rootVariable = some "root" := by decide
  -- No other variable assigns anything, so that of the root is alone.
  have nothing := assignments_of_others others
  unfold assignments at nothing
  rw [List.filterMap_append, List.append_eq_nil_iff] at nothing
  rw [settings_eq_foldl, assignments, List.filterMap_append, List.filterMap_cons, sets,
    nothing.1, nothing.2]
  rfl

/-! ## §4. Settings with another root -/

/-- What is no table replaces what was there. -/
theorem merge_of_members?_eq_none {incoming : Tree} (h : incoming.members? = none) (t : Tree) :
    KeyPath.merge incoming t = incoming := by
  cases incoming with
  | table members => cases h
  | nil | truth _ | integer _ | number _ | text _ | array _ => rfl

/-- A source that sets the root to a scalar. -/
theorem setAll_root {v : Tree} {root : String} (scalar : Declaration.scalarText? v = some root)
    (members : List (String × Tree)) :
    KeyPath.setAll members [("root", v)] = Tree.assign "root" v members := by
  have key : KeyPath.ofKey "root" = ("root", []) := by decide
  -- Only a table would be merged into what the file has at the root.
  have noTable : v.members? = none := by
    cases v with
    | table _ => cases scalar
    | nil | truth _ | integer _ | number _ | text _ | array _ => rfl
  unfold KeyPath.setAll
  rw [List.foldl_cons, List.foldl_nil, KeyPath.set_of_key key, KeyPath.alter,
    merge_of_members?_eq_none noTable]

/-- **Setting the root** of what declares settings changes their root only. -/
theorem ofMembers?_assign_root {members : List (String × Tree)} {settings : Settings}
    (declares : ofMembers? members = some settings) {v : Tree} {root : String}
    (scalar : Declaration.scalarText? v = some root) :
    ofMembers? (Tree.assign "root" v members) = some { settings with root := some root } := by
  have reads : Declaration.optional? Declaration.scalarText? (some v) = some (some root) := by
    have notNil : v.isNil = false := by
      cases v with
      | nil => cases scalar
      | truth _ | integer _ | number _ | text _ | array _ | table _ => rfl
    simp [Declaration.optional?, Form.optionalTree?, notNil, scalar]
  have other : ("root" : String) ≠ "choices" := by decide
  unfold ofMembers? at declares ⊢
  -- The old root is read too, and what it was has no part in the rest.
  obtain ⟨old, -, rest⟩ := Option.bind_eq_some_iff.1 declares
  obtain ⟨subjects, listed, made⟩ := Option.bind_eq_some_iff.1 rest
  cases made
  simp only [Tree.lookup_assign, if_true, if_neg other, reads, listed]
  rfl

/-- Nothing declares no subjects. -/
theorem ofMembers?_nil : ofMembers? [] = some { root := none, subjects := [] } := rfl

/-! ## §5. Loading -/

section
variable {order envOrder : KeyOrder} {path : Option String} {extension : String}
  {text : Option String} {env : List (String × String)}

/-- The outcome of loading is what the file and the environment give. -/
theorem outcome_loadBy : (loadBy order envOrder path extension text env).outcome =
    ofFileBy order envOrder extension text env := by
  unfold loadBy
  simp only [Logged.outcome_bind, Logged.outcome_quietly, Logged.outcome_note]
  cases ofFileBy order envOrder extension text env <;> rfl

/-- **Loading succeeds** where the file has members and all that is set declares settings. -/
theorem ofFileBy_eq_ok_iff {settings : Settings} :
    ofFileBy order envOrder extension text env = .ok settings ↔
      ∃ members, fileMembers? extension text = some members
        ∧ ofMembers? (KeyPath.setAll (KeyPath.setAll [] (order.arrange members))
            (envOrder.arrange (Environment.settings env))) = some settings := by
  unfold ofFileBy ofSources
  cases fileMembers? extension text with
  | none => simp
  | some members =>
    simp only [Option.some.injEq, exists_eq_left', List.foldl_cons, List.foldl_nil]
    cases ofMembers? (KeyPath.setAll (KeyPath.setAll [] (order.arrange members))
      (envOrder.arrange (Environment.settings env))) with
    | none => simp
    | some declared => simp

end

/-- The members of a JSON file. -/
theorem members_of_json {text : String} {members : List (String × Json)}
    (parsed : Json.parse? (fileText text) = some (.obj members)) :
    fileMembers? "json" (some text) = some (Tree.ofMembers members) := by
  have json : Format.ofExtension? "json" = some .json := by decide
  unfold fileMembers?
  rw [json]
  simp only [Option.bind_some, Format.members?, parsed, Tree.ofJson, Tree.members?]

/-- **Overriding the root.**  Settings that a file gives are loaded with the variable of the root
set to a text, whichever other variables there are, as the same settings with the root that the
text gives; and that is the text itself exactly where it is read literally, as a key in words
is.  The keys of the environment may be set in any orders, and so may those of a file where they
are all apart; else the file's are set in one order both times. -/
theorem override_is_root_iff {order other envOrder envOrder' : KeyOrder}
    {path path' : Option String} {extension : String} {text : Option String}
    {before after : List (String × String)} {settings : Settings}
    (others : ∀ v ∈ before ++ after, Environment.key? v.1 = none)
    (alike : ∀ members, fileMembers? extension text = some members → order.Alike other members)
    (loads : (loadBy order envOrder path extension text (before ++ after)).outcome = .ok settings)
    (t : String) :
    ∃ root, (loadBy other envOrder' path' extension text
          (before ++ (rootVariable, t) :: after)).outcome = .ok { settings with root := some root }
      ∧ GivesRoot t root
      ∧ (root = t ↔ Verbatim t)
      ∧ (InWords t → root = t) := by
  obtain ⟨root, scalar, gives⟩ := exists_givesRoot t
  refine ⟨root, ?_, gives, gives.eq_iff, fun words => gives.unnamed words.names_nothing⟩
  -- The file sets the same members both times; only what is set after them differs, which is
  -- nothing without the variable.
  rw [outcome_loadBy, ofFileBy_eq_ok_iff] at loads ⊢
  obtain ⟨members, read, declares⟩ := loads
  rw [settings_of_others others, KeyOrder.arrange_nil,
    KeyOrder.setAll_eq_of_alike (alike members read)] at declares
  refine ⟨members, read, ?_⟩
  rw [settings_of_root others, KeyOrder.arrange_singleton, setAll_root scalar]
  exact ofMembers?_assign_root declares scalar

/-- A file with a root. -/
def rootedText : String := "\x7b\"root\":\"pull_request\"\x7d"

/-- A root in words is kept, in a file that has another one. -/
theorem override_of_word :
    (load "json" (some rootedText) [("PATH", "/bin"), (rootVariable, "review_request")]).outcome =
        .ok { root := some "review_request", subjects := [] } := by
  have others : ∀ v ∈ [("PATH", "/bin")] ++ [], Environment.key? v.1 = none := by decide
  have parsed : Json.parse? (fileText rootedText) =
      some (.obj [("root", .str "pull_request")]) := by decide +kernel
  have loads : (load "json" (some rootedText) ([("PATH", "/bin")] ++ [])).outcome =
      .ok { root := some "pull_request", subjects := [] } := by
    rw [load, outcome_loadBy, ofFileBy_eq_ok_iff, settings_of_others others]
    refine ⟨[("root", .text "pull_request")], members_of_json parsed, ?_⟩
    rw [KeyOrder.arrange_singleton, KeyOrder.arrange_nil, setAll_root rfl]
    exact ofMembers?_assign_root ofMembers?_nil rfl
  -- The word starts with a letter and is no name of a scalar.
  have words : InWords "review_request" := by
    refine ⟨?_, by decide⟩
    intro c first
    cases first
    rfl
  obtain ⟨root, overridden, -, -, kept⟩ :=
    override_is_root_iff others (fun _ _ => .inl rfl) loads "review_request"
  rw [kept words] at overridden
  exact overridden

/-- **A key of digits is not kept**: its leading zeros are lost. -/
theorem override_of_padded_key :
    (load "json" (some "\x7b\x7d") []).outcome = .ok { root := none, subjects := [] }
    ∧ (load "json" (some "\x7b\x7d") [(rootVariable, "007")]).outcome =
        .ok { root := some "7", subjects := [] } := by
  have parsed : Json.parse? (fileText "\x7b\x7d") = some (.obj []) := by decide +kernel
  have others : ∀ v ∈ ([] ++ [] : List (String × String)), Environment.key? v.1 = none := by
    intro v member
    cases member
  -- The zeros are lost here, where the text becomes a whole number.
  have read : Environment.value "007" = .integer 7 := by rfl
  have given : Environment.settings [(rootVariable, "007")] = [("root", .integer 7)] := by
    rw [← read]
    exact settings_of_root others "007"
  simp only [load, outcome_loadBy, ofFileBy_eq_ok_iff, given]
  refine ⟨⟨[], members_of_json parsed, ofMembers?_nil⟩, [], members_of_json parsed, ?_⟩
  rw [KeyOrder.arrange_singleton, setAll_root (by rfl)]
  exact ofMembers?_assign_root ofMembers?_nil (by rfl)

end Sift.Settings
