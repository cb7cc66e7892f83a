/-
  Sift.Proofs.Path.Chain
  ──────────────────────
  **Every place in a JSON value has a dotted path.**

  A chain of steps, each to a key of an object or to a position of an array, leads from a value
  to one inside it.  Written with points between its steps the chain is a path, and **the path
  leads to the same place**: the steps are read back one by one, since no position has a point
  and the keys are plain.  One chain is lost.  The empty key alone is written as the empty path,
  and that is the whole value.

    • `Path.steps_intercalate` — joined steps are taken apart again;
    • `Path.follow?_of_leads` — the written steps lead where the chain leads;
    • `Path.ofChain_eq_empty_iff` — the one chain that is written as the empty path.

  Main result: `Json.dotted_paths_address`, with the law of joined paths beside it.
-/
import Sift.Proofs.Path
import Sift.Proofs.Text.Digits

namespace Sift

namespace Path

/-! ## §1. Chains of steps -/

/-- One step down. -/
inductive Step where
  /-- To the member of a key. -/
  | key (name : String)
  /-- To the item at a position. -/
  | item (position : UInt64)

namespace Step

/-- A step as paths write it: the key as it is, a position in decimal. -/
def chars : Step → List Char
  | key name => name.toList
  | item position => Text.natDigits position.toNat

/-- A key without points, or a position. -/
def IsPlain : Step → Prop
  | key name => '.' ∉ name.toList
  | item _ => True

/-- **Where a step leads**: to a key that the object has, or to a position that the array has. -/
inductive Enters : Step → Json → Json → Prop
  | member {name : String} {members : List (String × Json)} {inner : Json}
      (there : Json.lookup name members = some inner) : Enters (key name) (.obj members) inner
  | item {position : UInt64} {items : List Json} {inner : Json}
      (there : items[position.toNat]? = some inner) : Enters (item position) (.arr items) inner

end Step

/-- **Where a chain leads**, step by step. -/
inductive Leads : Json → List Step → Json → Prop
  | here {value : Json} : Leads value [] value
  | down {value inner target : Json} {step : Step} {rest : List Step}
      (first : step.Enters value inner) (others : Leads inner rest target) :
      Leads value (step :: rest) target

/-- **The path of a chain**: its steps with points between them. -/
def ofChain (chain : List Step) : String :=
  String.ofList (['.'].intercalate (chain.map Step.chars))

/-! ## §2. Joined steps are taken apart -/

/-- A text without points is one step. -/
theorem steps_of_no_point : ∀ {cs : List Char}, '.' ∉ cs → steps cs = [cs]
  | [], _ => rfl
  | c :: cs, h => by
      rw [List.mem_cons, not_or] at h
      rw [steps, if_neg fun same => h.1 same.symm, steps_of_no_point h.2]

/-- **Steps without points come back** from the path that they are joined to. -/
theorem steps_intercalate : ∀ {parts : List (List Char)}, parts ≠ [] →
    (∀ cs ∈ parts, '.' ∉ cs) → steps (['.'].intercalate parts) = parts
  | [cs], _, plain => by
      rw [List.intercalate_singleton]
      exact steps_of_no_point (plain cs List.mem_cons_self)
  | cs :: next :: rest, _, plain => by
      have others := steps_intercalate (List.cons_ne_nil next rest) fun part h =>
        plain part (List.mem_cons_of_mem cs h)
      rw [List.intercalate_cons_cons, List.append_assoc, List.singleton_append,
        steps_append_point, steps_of_no_point (plain cs List.mem_cons_self), others]
      rfl

/-- What a plain step is written as has no point. -/
theorem Step.point_not_mem_chars {step : Step} (plain : step.IsPlain) : '.' ∉ step.chars := by
  cases step with
  | key name => exact plain
  | item position =>
    intro h
    have digit := Text.isDigit_of_mem_natDigits h
    cases digit

/-! ## §3. Written steps lead the same way -/

/-- A position in decimal denotes that position. -/
theorem position?_natDigits (position : UInt64) :
    position? (Text.natDigits position.toNat) = some position.toNat := by
  unfold position?
  rw [Text.natural?_natDigits, Option.bind_some, unsignedWord?_toNat, Option.map_some]

/-- A written step enters what the step enters. -/
theorem enter?_of_enters {step : Step} {value inner : Json} (h : step.Enters value inner) :
    enter? value step.chars = some inner := by
  cases h with
  | member there =>
    rw [Step.chars, enter?, String.ofList_toList]
    exact there
  | item there =>
    rw [Step.chars, enter?, position?_natDigits, Option.bind_some]
    exact there

/-- **The written steps of a chain lead where the chain leads.** -/
theorem follow?_of_leads {value target : Json} {chain : List Step} (h : Leads value chain target) :
    follow? value (chain.map Step.chars) = some target := by
  induction h with
  | here => rfl
  | down first others ih =>
    rw [List.map_cons, follow?, enter?_of_enters first, Option.bind_some, ih]

/-! ## §4. The path of a chain -/

/-- Only the empty key is written without characters. -/
theorem Step.chars_eq_nil_iff {step : Step} : step.chars = [] ↔ step = .key "" := by
  cases step with
  | key name => simp [chars]
  | item position => simp [chars, Text.natDigits_ne_nil]

/-- **The one chain that is written as the empty path.** -/
theorem ofChain_eq_empty_iff {chain : List Step} (nonempty : chain ≠ []) :
    ofChain chain = "" ↔ chain = [.key ""] := by
  match chain with
  | [step] => simp [ofChain, Step.chars_eq_nil_iff]
  | step :: next :: rest => simp [ofChain, List.intercalate_cons_cons]

/-- **The path of a chain leads where the chain leads**, unless it is the empty path. -/
theorem at?_ofChain {value target : Json} {chain : List Step} (nonempty : chain ≠ [])
    (notEmptyKey : chain ≠ [.key ""]) (plain : ∀ step ∈ chain, step.IsPlain)
    (leads : Leads value chain target) : value.at? (ofChain chain) = some target := by
  -- Only the single empty key is written as the empty path, which means the whole value.
  have written : ofChain chain ≠ "" := fun empty =>
    notEmptyKey ((ofChain_eq_empty_iff nonempty).1 empty)
  -- A step without a point in it comes out of the splitting as it went in.
  have parts : ∀ cs ∈ chain.map Step.chars, '.' ∉ cs := by
    intro cs hcs
    obtain ⟨step, member, rfl⟩ := List.mem_map.1 hcs
    exact Step.point_not_mem_chars (plain step member)
  rw [Json.at?_of_ne_empty written, ofChain, String.toList_ofList,
    steps_intercalate (by simpa using nonempty) parts]
  exact follow?_of_leads leads

/-- The empty key alone leads away from the value, which its path does not. -/
theorem ne_of_leads_emptyKey {value target : Json} (leads : Leads value [.key ""] target) :
    target ≠ value := by
  rintro rfl
  have stays := follow?_of_leads leads
  change (enter? target []).bind some = some target at stays
  rw [Option.bind_fun_some] at stays
  exact enter?_nil_ne_self target stays

end Path

/-- **DOTTED PATHS ADDRESS JSON.**  For every value:

* a path that a point joins from two nonempty ones leads where the second leads from where the
  first leads, and nowhere if the first does;
* whatever a chain of existing plain keys and positions leads to is at the path of the chain.  The
  chain of the empty key alone is the exception: its path is the whole value, which that chain
  never leads to. -/
theorem Json.dotted_paths_address (value : Json) :
    (∀ p q : String, p ≠ "" → q ≠ "" →
      value.at? (p ++ "." ++ q) = (value.at? p).bind fun inner => inner.at? q)
    ∧ ∀ (chain : List Path.Step) (target : Json), chain ≠ [] → (∀ step ∈ chain, step.IsPlain) →
        Path.Leads value chain target →
        (chain ≠ [.key ""] → value.at? (Path.ofChain chain) = some target)
        ∧ (chain = [.key ""] → value.at? (Path.ofChain chain) = some value ∧ target ≠ value) := by
  refine ⟨fun p q hp hq => Json.at?_below hp hq value, ?_⟩
  intro chain target nonempty plain leads
  refine ⟨fun other => Path.at?_ofChain nonempty other plain leads, ?_⟩
  rintro rfl
  refine ⟨?_, Path.ne_of_leads_emptyKey leads⟩
  rw [(Path.ofChain_eq_empty_iff nonempty).2 rfl, Json.at?_empty]

/-- Two reviewers, the second below a key that is empty. -/
def Path.reviewers : Json :=
  .obj [("reviewers", .arr [.str "alice", .obj [("", .obj [("name", .str "bob")])]])]

/-- A chain through an object, an array and an empty key, and two paths joined. -/
theorem Json.dotted_paths_address_reviewers :
    Path.reviewers.at? "reviewers.1..name" = some (.str "bob")
    ∧ Path.reviewers.at? ("reviewers" ++ "." ++ "0") =
        (Path.reviewers.at? "reviewers").bind fun inner => inner.at? "0" := by
  obtain ⟨joined, addressed⟩ := Json.dotted_paths_address Path.reviewers
  refine ⟨?_, joined "reviewers" "0" (by decide) (by decide)⟩
  have leads : Path.Leads Path.reviewers
      [.key "reviewers", .item 1, .key "", .key "name"] (.str "bob") :=
    .down (.member rfl) (.down (.item rfl) (.down (.member rfl) (.down (.member rfl) .here)))
  exact (addressed _ _ (by simp) (by simp [Path.Step.IsPlain]) leads).1 (by simp)

end Sift
