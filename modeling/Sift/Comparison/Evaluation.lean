/-
  Sift.Comparison.Evaluation
  ──────────────────────────
  **When a comparison holds.**

  A comparison is a pure test of an optional value against an optional operand.  A missing or
  incompatible side makes every positive comparison false; the negative comparisons are the
  exact negations of the positive ones.  Numbers are compared as binary64 numbers, save that
  two signed words are equal only when they are the same.
-/
import Sift.Comparison.Basic

namespace Sift

/-! ## §1. Texts within texts -/

/-- Whether `part` occurs somewhere in a text. -/
def Text.occursIn (part : List Char) : List Char → Bool
  | [] => part.isEmpty
  | c :: cs => part.isPrefixOf (c :: cs) || occursIn part cs

namespace Operand

/-! ## §2. Equality with a value -/

/-- Whether a value stands for a number near the given one. -/
def nearNumber (expected : Option Binary64) (value : Json) : Bool :=
  match value.numeric?, expected with
  | some a, some b => a.near b
  | _, _ => false

/-- Whether a value equals a whole number: as words where the value is a signed word, and as
numbers otherwise. -/
def equalsInteger (w : Int64) (value : Json) : Bool :=
  match value.signedWord? with
  | some v => v == w
  | none => nearNumber (some (.ofInt w.toInt)) value

/-- Whether a value equals a text.  A number equals the text of a number near it. -/
def equalsText (s : String) : Json → Bool
  | .num n => nearNumber (Text.number? s) (.num n)
  | value => value.str? == some s

mutual
/-- **Whether a value equals an operand.**  A pattern equals the texts it is found in, a list
the arrays whose items equal its items. -/
def equals : Operand → Json → Bool
  | truth b, value => value.bool? == some b
  | integer w, value => equalsInteger w value
  | number x, value => nearNumber (some x) value
  | text s, value => equalsText s value
  | instant t, value => value.instant? == some t
  | pattern p, value => value.str?.any p.foundIn
  | list items, value =>
    match value with
    | .arr values => allEqual items values
    | _ => false
termination_by structural o => o

/-- Whether as many values as operands equal them, one by one. -/
def allEqual : List Operand → List Json → Bool
  | [], [] => true
  | o :: os, value :: values => equals o value && allEqual os values
  | _, _ => false
termination_by structural os => os
end

end Operand

namespace Comparison

/-! ## §3. The positive tests -/

/-- A missing value, null, or an empty text, array or object. -/
def isVacant : Option Json → Bool
  | none | some .null => true
  | some (.str s) => s == ""
  | some (.arr items) => items.isEmpty
  | some (.obj members) => members.isEmpty
  | some _ => false

/-- Compares as numbers. -/
def ordered (test : Binary64 → Binary64 → Bool) (o : Operand) (value : Json) : Bool :=
  match value.numeric?, o.number? with
  | some a, some b => test a b
  | _, _ => false

/-- Lies between the two items of a list, both included. -/
def liesBetween : Operand → Json → Bool
  | .list [least, greatest], value =>
    match value.numeric?, least.number?, greatest.number? with
    | some x, some a, some b => a.le x && x.le b
    | _, _, _ => false
  | _, _ => false

/-- Equals some item of a list. -/
def equalsSome (o : Operand) (value : Json) : Bool :=
  match o with
  | .list items => items.any (·.equals value)
  | _ => false

/-- A text that contains a text, or an array some item of which equals the operand. -/
def holdsWithin (o : Operand) : Json → Bool
  | .str s =>
    match o with
    | .text part => Text.occursIn part.toList s.toList
    | _ => false
  | .arr values => values.any o.equals
  | _ => false

/-- An array that holds as many items of a list as `quantifier` asks for. -/
def holdsItems (quantifier : List Operand → (Operand → Bool) → Bool) : Operand → Json → Bool
  | .list items, .arr values => quantifier items fun o => values.any o.equals
  | _, _ => false

/-- Compares as texts: the value first, the operand second. -/
def textual (test : List Char → List Char → Bool) : Operand → Json → Bool
  | .text part, .str s => test s.toList part.toList
  | _, _ => false

/-- A text that a pattern is found in; the operand may be the text of the pattern. -/
def foundBy : Operand → Json → Bool
  | .pattern p, .str s => p.foundIn s
  | .text source, .str s => (Pattern.ofText? source).any (·.foundIn s)
  | _, _ => false

/-- Compares as instants: the value first, the operand second. -/
def timed (test : Instant → Instant → Bool) : Operand → Json → Bool
  | .instant t, value => value.instant?.any (test · t)
  | _, _ => false

/-- A positive comparison of a value with an operand. -/
def test : Comparison → Operand → Json → Bool
  | is => Operand.equals
  | greaterThan => ordered fun a b => b.lt a
  | greaterThanOrEqual => ordered fun a b => b.le a
  | lessThan => ordered fun a b => a.lt b
  | lessThanOrEqual => ordered fun a b => a.le b
  | between => liesBetween
  | oneOf => equalsSome
  | contains => holdsWithin
  | containsAny => holdsItems List.any
  | containsAll => holdsItems List.all
  | startsWith => textual fun s part => part.isPrefixOf s
  | endsWith => textual fun s part => part.isSuffixOf s
  | matchesPattern => foundBy
  | before => timed fun a b => a.lt b
  | after => timed fun a b => b.lt a
  | isNot | notOneOf | doesNotContain | doesNotMatchPattern | isEmpty | isNotEmpty =>
    fun _ _ => false

/-! ## §4. The verdict -/

/-- A positive comparison, false where a side is missing. -/
def testOptional (k : Comparison) (value : Option Json) (o : Option Operand) : Bool :=
  match value, o with
  | some value, some o => k.test o value
  | _, _ => false

/-- **Whether a comparison holds** between an optional value and an optional operand. -/
def holds (k : Comparison) (value : Option Json) (o : Option Operand) : Bool :=
  match k with
  | isEmpty => isVacant value
  | isNotEmpty => !isVacant value
  | k =>
    match k.positive? with
    | some positive => !positive.testOptional value o
    | none => k.testOptional value o

end Comparison

end Sift
