/-
  Sift.Error
  ──────────
  **Errors.**

  Subjects, operators and codecs may be supplied by a program, so an error of theirs carries
  the message its maker gave it.  The three kinds that concern one criterion also carry the
  position of that criterion in its filter, once it is known (`Error.withPosition`).
-/
import Sift.Operand.Rejection

namespace Sift

/-- What a register holds. -/
inductive Registered where
  | subject
  | operator
deriving DecidableEq

/-- An error. -/
inductive Error where
  | unknownSubject (message : String) (id : Option String) (position : Option Nat)
  | unknownOperator (message : String) (id : Option String) (position : Option Nat)
  | invalidOperand (message : String) (code : Option String) (position : Option Nat)
  | invalidMode (message : String) (mode : String)
  | invalidPayload (detail : String)
  | invalidSettings (detail : String)
  | alreadyRegistered (what : Registered) (id : String)
  /-- Settings that cannot be read. -/
  | unreadableSettings (detail : String)
  /-- A text that is not JSON. -/
  | unreadableJson
deriving DecidableEq

namespace Error

/-! ## §1. Causes -/

/-- No subject has this identifier. -/
def noSubject (id : String) : Error := unknownSubject ("未找到条件字段: " ++ id) none none

/-- No operator has this identifier. -/
def noOperator (id : String) : Error := unknownOperator ("未找到操作符: " ++ id) none none

/-- A criterion names no subject. -/
def subjectRequired : Error := unknownSubject "必须指定条件字段" none none

/-- A criterion names no operator. -/
def operatorRequired : Error := unknownOperator "必须指定操作符" none none

/-- A raw value was rejected. -/
def rejected (cause : Rejection) : Error :=
  invalidOperand cause.message (some cause.code) none

/-- A mode that is neither of the two. -/
def unknownMode (mode : String) : Error :=
  invalidMode ("\"" ++ mode ++ "\" 不是有效的条件模式") mode

/-- The criteria of a filter are no array. -/
def criteriaNotArray : Error := invalidPayload "\"conditions\" 必须是数组"

/-! ## §2. Messages and positions -/

/-- What a register holds, as messages name it. -/
def registeredName : Registered → String
  | .subject => "条件字段"
  | .operator => "操作符"

/-- The message of an error, without the details of a text that is not JSON. -/
def message : Error → String
  | unknownSubject message _ _ | unknownOperator message _ _ | invalidOperand message _ _
  | invalidMode message _ => message
  | invalidPayload detail => "无效的条件数据: " ++ detail
  | invalidSettings detail => "无效的条件配置: " ++ detail
  | alreadyRegistered what id => registeredName what ++ "已注册: " ++ id
  | unreadableSettings detail => "配置加载失败: " ++ detail
  | unreadableJson => "JSON 序列化错误"

/-- **Sets the position**, whatever it was before; the other kinds have none and stay. -/
def withPosition (position : Option Nat) : Error → Error
  | unknownSubject message id _ => unknownSubject message id position
  | unknownOperator message id _ => unknownOperator message id position
  | invalidOperand message code _ => invalidOperand message code position
  | other => other

/-- The position of the criterion that an error is about. -/
def position? : Error → Option Nat
  | unknownSubject _ _ position | unknownOperator _ _ position
  | invalidOperand _ _ position => position
  | _ => none

/-- The last position set is the one that stays. -/
theorem withPosition_withPosition (e : Error) (first second : Option Nat) :
    (e.withPosition first).withPosition second = e.withPosition second := by
  cases e <;> rfl

end Error

end Sift
