/-
  Sift.Filter.Basic
  ─────────────────
  **Filters: criteria under a mode.**

  A filter admits data that meets all of its criteria, or any of them.  Reading is all or
  nothing: the first criterion that is refused refuses the filter, and exactly one event says
  how the reading ended.
-/
import Sift.Filter.Criterion
import Sift.Json.Parser

namespace Sift

/-! ## §1. Modes -/

/-- How the criteria of a filter are combined. -/
inductive Mode where
  | all
  | any
deriving DecidableEq

namespace Mode

def name : Mode → String
  | all => "all"
  | any => "any"

def ofName? (name : String) : Option Mode :=
  if name = "all" then some all else if name = "any" then some any else none

/-- The mode that a payload names. -/
def ofJson? : Option Json → Option Mode
  | some (.str name) => ofName? name
  | _ => none

/-- A text is the name of one mode at most. -/
theorem ofName?_eq_some {text : String} {mode : Mode} :
    ofName? text = some mode ↔ text = mode.name := by
  unfold ofName?
  cases mode with
  | all => by_cases h : text = "all" <;> simp [h, name]
  | any => by_cases h : text = "all" <;> simp [h, name]

/-- **A mode is known by its name**, and no other value names one. -/
theorem ofJson?_eq_some {named : Option Json} {mode : Mode} :
    ofJson? named = some mode ↔ named = some (.str mode.name) := by
  cases named with
  | none => exact ⟨nofun, nofun⟩
  | some j =>
    cases j with
    | str text =>
      show ofName? text = some mode ↔ _
      rw [ofName?_eq_some, Option.some.injEq, Json.str.injEq]
    | null | bool _ | num _ | arr _ | obj _ => exact ⟨nofun, nofun⟩

/-- A mode as messages show it; a missing one and null are shown alike. -/
def shown : Option Json → String
  | none | some .null => "None"
  | some j => j.shown

/-- The mode that a value declares: a name, or an object whose only member is that name and
null. -/
def ofDeclaration? : Json → Option Mode
  | .str name => ofName? name
  | .obj [(name, .null)] => ofName? name
  | _ => none

end Mode

/-! ## §2. Filters -/

/-- A filter. -/
structure Filter where
  mode : Mode
  criteria : List Criterion

namespace Filter

/-- The filter without criteria that admits everything. -/
def default : Filter := ⟨.all, []⟩

/-- A filter under the mode of that name. -/
def ofModeName (mode : String) (criteria : List Criterion) : Except Error Filter :=
  match Mode.ofName? mode with
  | some mode => .ok ⟨mode, criteria⟩
  | none => .error (.unknownMode mode)

/-- **Whether the filter admits some data.** -/
def admits (filter : Filter) (data : Json) : Bool :=
  match filter.mode with
  | .all => filter.criteria.all (·.admits data)
  | .any => filter.criteria.any (·.admits data)

/-- **The payload of a filter.** -/
def toJson (filter : Filter) : Json :=
  .object [("mode", .str filter.mode.name), ("conditions", .arr (filter.criteria.map (·.toJson)))]

@[simp] theorem get?_mode_toJson (filter : Filter) :
    filter.toJson.get? "mode" = some (.str filter.mode.name) := by
  simp [toJson, Json.object, Json.get?, Json.lookup_insertMember]

@[simp] theorem get?_conditions_toJson (filter : Filter) :
    filter.toJson.get? "conditions" = some (.arr (filter.criteria.map (·.toJson))) := by
  simp [toJson, Json.object, Json.get?, Json.lookup_insertMember]

def text (filter : Filter) : String := filter.toJson.text

/-- Whether two lists of criteria are equal one by one. -/
def sameCriteria : List Criterion → List Criterion → Bool
  | [], [] => true
  | a :: as, b :: bs => a.sameAs b && sameCriteria as bs
  | _, _ => false

/-- Whether two filters are equal: the same mode and equal criteria in the same order. -/
def sameAs (a b : Filter) : Bool :=
  decide (a.mode = b.mode) && sameCriteria a.criteria b.criteria

/-! ## §3. Reading -/

/-- Reads criteria in order, counting positions from `position` on. -/
def readCriteria (resolver : Resolver) (position : Nat) :
    List Json → Logged (List Criterion)
  | [] => .pure []
  | fragment :: rest =>
    (Criterion.read resolver fragment (some position)).bind fun criterion =>
    (readCriteria resolver (position + 1) rest).bind fun criteria =>
    .pure (criterion :: criteria)

/-- The criteria of a payload; none where the key is missing. -/
def readPart (resolver : Resolver) (payload : Json) : Option Json → Logged (List Criterion)
  | none => .pure []
  | some (.arr fragments) => readCriteria resolver 0 fragments
  | some other => .refuse (.criteriaRefused other payload) .criteriaNotArray

/-- **Reads a filter** from a payload. -/
def read (resolver : Resolver) (payload : Json) : Logged Filter :=
  let named := payload.get? "mode"
  match Mode.ofJson? named with
  | none =>
    .refuse (.modeRefused (Mode.shown named) payload) (.unknownMode (Mode.shown named))
  | some mode =>
    (readPart resolver payload (payload.get? "conditions")).bind fun criteria =>
    (Logged.note (.filterRead mode.name criteria.length)).bind fun _ =>
    .pure ⟨mode, criteria⟩

/-- Reads a filter from the text of a payload. -/
def ofText (resolver : Resolver) (text : String) : Logged Filter :=
  match Json.parse? text with
  | some payload => read resolver payload
  | none => .quietly (.error .unreadableJson)

end Filter

end Sift
