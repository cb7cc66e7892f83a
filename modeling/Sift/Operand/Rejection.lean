/-
  Sift.Operand.Rejection
  ──────────────────────
  **Why a raw value is not an operand of a form.**

  Every cause has a message for people and a code for programs.  A cause inside a list names
  the position of the item, counted from zero, in front of the item's own message, and keeps
  the item's code.
-/
import Sift.Json.Basic
import Sift.Binary64.Shortest

namespace Sift

/-- The bound that a number is held against. -/
inductive Bound where
  | least
  | greatest
deriving DecidableEq

/-- A cause of rejection. -/
inductive Rejection where
  /-- The raw value is null. -/
  | missing
  | wrongType (expected : String) (actual : Json)
  | numberOutside (bound : Bound) (value limit : Binary64)
  | integerOutside (bound : Bound) (value limit : Int64)
  | notAnOption (text : String)
  | invalidPattern (text : String)
  | invalidInstant (text : String)
  | wrongLength (expected actual : Nat)
  /-- The item at a position of a list is rejected. -/
  | inItem (position : Nat) (cause : Rejection)

/-- **Number layout in messages.**  Never an exponent and no `.0`; a half goes up. -/
def messageLayout : Binary64.Layout where
  lowest := none
  highest := none
  pointZero := false
  plus := false
  tie := .up

namespace Rejection

/-- A value that is past a bound. -/
def outside (bound : Bound) (value limit : String) : String :=
  match bound with
  | .least => "值 " ++ value ++ " 小于最小值 " ++ limit
  | .greatest => "值 " ++ value ++ " 大于最大值 " ++ limit

/-- A number as messages show it. -/
def numberText (x : Binary64) : String := String.ofList (messageLayout.text x)

/-- A whole number as messages show it. -/
def integerText (w : Int64) : String := String.ofList (Text.intDigits w.toInt)

/-- A count as messages show it. -/
def countText (n : Nat) : String := String.ofList (Text.natDigits n)

/-- The message of a cause; of a pattern it tells no more than the text. -/
def message : Rejection → String
  | missing => "必须提供值"
  | wrongType expected actual => "值类型无效: 期望 " ++ expected ++ ", 实际 " ++ actual.typeName
  | numberOutside bound value limit => outside bound (numberText value) (numberText limit)
  | integerOutside bound value limit => outside bound (integerText value) (integerText limit)
  | notAnOption text => "\"" ++ text ++ "\" 不是有效的选项"
  | invalidPattern text => "无效的正则表达式 '" ++ text ++ "'"
  | invalidInstant text => "无法解析日期时间: '" ++ text ++ "'"
  | wrongLength expected actual =>
    "列表长度应为 " ++ countText expected ++ ", 实际 " ++ countText actual
  | inItem position cause => "第 " ++ countText position ++ " 项: " ++ cause.message

/-- The code of a cause. -/
def code : Rejection → String
  | missing => "required"
  | wrongType _ _ => "invalid_type"
  | numberOutside .least _ _ | integerOutside .least _ _ => "min_value"
  | numberOutside .greatest _ _ | integerOutside .greatest _ _ => "max_value"
  | notAnOption _ => "invalid_choice"
  | invalidPattern _ => "invalid_regex"
  | invalidInstant _ => "invalid_datetime"
  | wrongLength _ _ => "invalid_length"
  | inItem _ cause => cause.code

end Rejection

end Sift
