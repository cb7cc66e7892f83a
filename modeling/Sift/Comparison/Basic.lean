/-
  Sift.Comparison.Basic
  ─────────────────────
  **The comparisons and their rules.**

  Four comparisons are the negations of others and two need no operand.  A comparison has a
  form that its operands take unless another is declared, and it accepts exactly the forms
  whose operands it can test.
-/
import Sift.Operand.Form

namespace Sift

/-- A comparison of a value with an operand. -/
inductive Comparison where
  | is
  | isNot
  | greaterThan
  | greaterThanOrEqual
  | lessThan
  | lessThanOrEqual
  | between
  | oneOf
  | notOneOf
  | contains
  | doesNotContain
  | containsAny
  | containsAll
  | startsWith
  | endsWith
  | matchesPattern
  | doesNotMatchPattern
  | before
  | after
  | isEmpty
  | isNotEmpty
deriving DecidableEq

namespace Comparison

/-! ## §1. Names -/

/-- All comparisons, in their order. -/
def all : List Comparison :=
  [is, isNot, greaterThan, greaterThanOrEqual, lessThan, lessThanOrEqual, between, oneOf,
    notOneOf, contains, doesNotContain, containsAny, containsAll, startsWith, endsWith,
    matchesPattern, doesNotMatchPattern, before, after, isEmpty, isNotEmpty]

/-- The name of a comparison. -/
def name : Comparison → String
  | is => "is"
  | isNot => "is_not"
  | greaterThan => "greater_than"
  | greaterThanOrEqual => "greater_than_or_equal"
  | lessThan => "less_than"
  | lessThanOrEqual => "less_than_or_equal"
  | between => "between"
  | oneOf => "one_of"
  | notOneOf => "not_one_of"
  | contains => "contains"
  | doesNotContain => "does_not_contain"
  | containsAny => "contains_any"
  | containsAll => "contains_all"
  | startsWith => "starts_with"
  | endsWith => "ends_with"
  | matchesPattern => "matches_regex"
  | doesNotMatchPattern => "does_not_match_regex"
  | before => "before"
  | after => "after"
  | isEmpty => "is_empty"
  | isNotEmpty => "is_not_empty"

def ofName? (name : String) : Option Comparison := all.find? (·.name == name)

/-- A comparison is known by its name. -/
theorem ofName?_name (k : Comparison) : ofName? k.name = some k := by
  cases k <;> decide

/-- A name in which every word starts with a capital letter and the words are joined. -/
def joinWords (capital : Bool) : List Char → List Char
  | [] => []
  | c :: cs =>
    if c = '_' then joinWords true cs
    else (if capital then c.toUpper else c) :: joinWords false cs

/-- The name of a comparison as descriptions show it. -/
def title (k : Comparison) : String := String.ofList (joinWords true k.name.toList)

/-- The comparison that a JSON value names: a name, or an object whose only member is that
name and null. -/
def ofJson? : Json → Option Comparison
  | .str name => ofName? name
  | .obj [(name, .null)] => ofName? name
  | _ => none

/-! ## §2. Rules -/

def needsOperand : Comparison → Bool
  | isEmpty | isNotEmpty => false
  | _ => true

/-- The comparison that a negative one negates. -/
def positive? : Comparison → Option Comparison
  | isNot => some is
  | notOneOf => some oneOf
  | doesNotContain => some contains
  | doesNotMatchPattern => some matchesPattern
  | _ => none

/-- **The form of operands** where none is declared. -/
def defaultForm? : Comparison → Option Form
  | isEmpty | isNotEmpty => none
  | greaterThan | greaterThanOrEqual | lessThan | lessThanOrEqual => some (.number none none)
  | between => some (.list (.number none none) (some 2))
  | oneOf | notOneOf | containsAny | containsAll => some (.list .text none)
  | matchesPattern | doesNotMatchPattern => some .pattern
  | before | after => some .instant
  | is | isNot | contains | doesNotContain | startsWith | endsWith => some .text

end Comparison

/-- A form of numbers, whole or not. -/
def Form.isNumeric : Form → Bool
  | number _ _ | integer _ _ => true
  | _ => false

/-- **Whether operands of a form can be tested.** -/
def Comparison.accepts : Comparison → Form → Bool
  | isEmpty, _ | isNotEmpty, _ => false
  | is, _ | isNot, _ | contains, _ | doesNotContain, _ => true
  | greaterThan, form | greaterThanOrEqual, form | lessThan, form | lessThanOrEqual, form =>
    form.isNumeric
  -- A list of open length is refused even if it would hold two numbers.
  | between, .list item (some length) => length == 2 && item.isNumeric
  | between, _ => false
  | oneOf, .list _ _ | notOneOf, .list _ _ | containsAny, .list _ _ | containsAll, .list _ _ =>
    true
  | oneOf, _ | notOneOf, _ | containsAny, _ | containsAll, _ => false
  | startsWith, .text | startsWith, .options _ | endsWith, .text | endsWith, .options _ => true
  | startsWith, _ | endsWith, _ => false
  | matchesPattern, .pattern | matchesPattern, .text | doesNotMatchPattern, .pattern
  | doesNotMatchPattern, .text => true
  | matchesPattern, _ | doesNotMatchPattern, _ => false
  | before, form | after, form => decide (form = .instant)

end Sift
