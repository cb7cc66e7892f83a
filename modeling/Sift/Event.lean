/-
  Sift.Event
  ──────────
  **Diagnostic events.**

  An event says what happened and with what; its level, its message and its fields are
  functions of it.  Events never change an outcome: `Logged` is an outcome with the events
  that led to it, in order.
-/
import Sift.Error
import Sift.Json.Text
import Sift.Text.Quoted

namespace Sift

/-! ## §1. Events -/

/-- Where the reading of a criterion stopped. -/
inductive Stage where
  | subjectMissing
  | operatorMissing
  | subjectUnknown (subject : String)
  | subjectFailed (subject : String) (error : Error)
  | operatorUnknown (subject operator : String)
  | operatorFailed (subject operator : String) (error : Error)
  | operandMissing (subject operator : String)
  | operandInvalid (subject operator : String) (raw : Json) (error : Error)

/-- A diagnostic event. -/
inductive Event where
  | subjectAdded (id : String)
  | subjectRepeated (id : String)
  | subjectRemoved (id : String)
  | subjectAbsent (id : String)
  | operatorRepeated (id : String)
  /-- A criterion was refused. -/
  | criterionRefused (stage : Stage) (fragment : Json) (position : Option Nat)
  /-- A filter was refused for its mode, shown as a text. -/
  | modeRefused (shown : String) (payload : Json)
  /-- A filter was refused because its criteria are no array. -/
  | criteriaRefused (criteria payload : Json)
  /-- A filter was read. -/
  | filterRead (mode : String) (count : Nat)
  /-- Settings were loaded, from the file at a path where it is told. -/
  | settingsLoaded (path root : Option String) (count : Nat)

/-- How serious an event is. -/
inductive Level where
  | debug
  | info
  | warn
deriving DecidableEq

/-! ## §2. Messages -/

namespace Stage

/-- What stopped the reading, as the message of the event says it. -/
def reason : Stage → String
  | subjectMissing => "缺少 \"choice\" 键"
  | operatorMissing => "缺少 \"op\" 键"
  | subjectUnknown _ => "无效的 \"choice\""
  | subjectFailed _ _ => "查找条件字段出错"
  | operatorUnknown _ _ => "无效的 \"op\""
  | operatorFailed _ _ _ => "查找操作符出错"
  | operandMissing _ _ => "缺少 \"value\" 键"
  | operandInvalid _ _ _ _ => "无效的 \"value\""

/-- What was known when the reading stopped. -/
def fields : Stage → List (String × String)
  | subjectMissing | operatorMissing => []
  | subjectUnknown subject => [("choice_id", subject)]
  | subjectFailed subject error => [("choice_id", subject), ("error", error.message)]
  | operatorUnknown subject operator | operandMissing subject operator =>
    [("choice_id", subject), ("operator_id", operator)]
  | operatorFailed subject operator error =>
    [("choice_id", subject), ("operator_id", operator), ("error", error.message)]
  | operandInvalid subject operator raw error =>
    [("choice_id", subject), ("operator_id", operator), ("value", raw.text),
      ("error", error.message)]

end Stage

namespace Event

/-- The level of an event. -/
def level : Event → Level
  | subjectAdded _ | subjectRemoved _ | settingsLoaded _ _ _ => .info
  | subjectRepeated _ | subjectAbsent _ | operatorRepeated _ => .warn
  | criterionRefused _ _ _ | modeRefused _ _ | criteriaRefused _ _ | filterRead _ _ => .debug

/-- The message of an event. -/
def message : Event → String
  | subjectAdded _ => "条件字段已注册"
  | subjectRepeated _ => "条件字段重复注册"
  | subjectRemoved _ => "条件字段已注销"
  | subjectAbsent _ => "注销不存在的条件字段"
  | operatorRepeated _ => "操作符重复注册"
  | criterionRefused stage _ _ => "条件反序列化失败: " ++ stage.reason
  | modeRefused _ _ => "条件集反序列化失败: 无效的 \"mode\""
  | criteriaRefused _ _ => "条件集反序列化失败: \"conditions\" 不是数组"
  | filterRead _ _ => "条件集反序列化完成"
  | settingsLoaded _ _ _ => "条件字段配置已加载"

def countText (n : Nat) : String := String.ofList (Text.natDigits n)

/-- The fields of an event, by name. -/
def fields : Event → List (String × String)
  | subjectAdded id | subjectRepeated id | subjectRemoved id | subjectAbsent id =>
    [("choice_id", id)]
  | operatorRepeated id => [("operator_id", id)]
  | criterionRefused stage fragment position =>
    stage.fields ++ [("condition", fragment.text),
      ("condition_index", Text.optional countText position)]
  | modeRefused shown payload => [("mode", shown), ("condition_set", payload.text)]
  | criteriaRefused criteria payload =>
    [("conditions", criteria.text), ("condition_set", payload.text)]
  | filterRead mode count => [("mode", mode), ("count", countText count)]
  | settingsLoaded path root count =>
    (path.map fun path => ("path", path)).toList ++
      [("root", Text.optional Text.quoted root), ("choices", countText count)]

end Event

/-! ## §3. Outcomes with events -/

/-- An outcome and the events that led to it. -/
structure Logged (α : Type) where
  outcome : Except Error α
  events : List Event

namespace Logged

/-- A value without events. -/
def pure (a : α) : Logged α := ⟨.ok a, []⟩

/-- An error after one event. -/
def refuse (event : Event) (error : Error) : Logged α := ⟨.error error, [event]⟩

/-- An outcome without events. -/
def quietly (outcome : Except Error α) : Logged α := ⟨outcome, []⟩

/-- One event. -/
def note (event : Event) : Logged Unit := ⟨.ok (), [event]⟩

/-- **One after the other.**  The first error stops, and events are kept in order. -/
def bind (x : Logged α) (f : α → Logged β) : Logged β :=
  match x.outcome with
  | .error error => ⟨.error error, x.events⟩
  | .ok a => ⟨(f a).outcome, x.events ++ (f a).events⟩

/-- What comes after a value without events is all there is. -/
theorem pure_bind (a : α) (f : α → Logged β) : (pure a).bind f = f a := by
  simp [pure, bind]

/-- **Sequencing** does not depend on where the brackets stand. -/
theorem bind_assoc (x : Logged α) (f : α → Logged β) (g : β → Logged γ) :
    (x.bind f).bind g = x.bind fun a => (f a).bind g := by
  obtain ⟨outcome, events⟩ := x
  cases outcome with
  | error e => simp [bind]
  | ok a =>
    simp only [bind]
    cases (f a).outcome <;> simp

/-! ### Outcomes alone -/

@[simp] theorem outcome_pure (a : α) : (pure a).outcome = .ok a := rfl

@[simp] theorem outcome_refuse (event : Event) (error : Error) :
    (refuse event error : Logged α).outcome = .error error := rfl

@[simp] theorem outcome_quietly (outcome : Except Error α) :
    (quietly outcome).outcome = outcome := rfl

@[simp] theorem outcome_note (event : Event) : (note event).outcome = .ok () := rfl

/-- **Events never change an outcome**: the outcome of a sequence is the sequence of the
outcomes. -/
@[simp] theorem outcome_bind (x : Logged α) (f : α → Logged β) :
    (x.bind f).outcome = x.outcome.bind fun a => (f a).outcome := by
  obtain ⟨outcome, events⟩ := x
  cases outcome <;> rfl

instance : Monad Logged where
  pure := Logged.pure
  bind := Logged.bind

end Logged

end Sift
