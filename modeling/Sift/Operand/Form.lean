/-
  Sift.Operand.Form
  ─────────────────
  **Forms: what an operand looks like, how it is read and how it is written.**

  A form accepts raw JSON of its type, and a text where the text denotes a number, a whole
  number or a truth value.  Bounds are inclusive, and null is never a value.  Reading stops at
  the first cause of rejection; in a list the length comes before the items.
-/
import Sift.Operand.Basic
import Sift.Operand.Rejection
import Sift.Json.Text
import Sift.Text.Quoted

namespace Sift

/-- A declared form of operands. -/
inductive Form where
  | text
  | number (least greatest : Option Binary64)
  | integer (least greatest : Option Int64)
  | truth
  /-- One of the given texts. -/
  | options (allowed : List String)
  | pattern
  | instant
  /-- A list of items of one form, of a given length where there is one. -/
  | list (item : Form) (length : Option UInt64)
deriving DecidableEq

namespace Form

/-! ## §1. Reading -/

/-- Refuses a number past a bound; the lower bound comes first. -/
def checkNumber (least greatest : Option Binary64) (x : Binary64) : Except Rejection Operand :=
  match least.filter (x.lt ·), greatest.filter (·.lt x) with
  | some limit, _ => .error (.numberOutside .least x limit)
  | none, some limit => .error (.numberOutside .greatest x limit)
  | none, none => .ok (.number x)

/-- Refuses a whole number past a bound; the lower bound comes first. -/
def checkInteger (least greatest : Option Int64) (w : Int64) : Except Rejection Operand :=
  match least.filter (w < ·), greatest.filter (· < w) with
  | some limit, _ => .error (.integerOutside .least w limit)
  | none, some limit => .error (.integerOutside .greatest w limit)
  | none, none => .ok (.integer w)

/-- Reads a text: a number is taken by its JSON text. -/
def readText : Json → Except Rejection Operand
  | .str s => .ok (.text s)
  | .num n => .ok (.text (String.ofList n.chars))
  | raw => .error (.wrongType "string" raw)

/-- Reads a number between bounds. -/
def readNumber (least greatest : Option Binary64) (raw : Json) : Except Rejection Operand :=
  match raw.numeric? with
  | some x => checkNumber least greatest x
  | none => .error (.wrongType "number" raw)

/-- The signed word that a raw value stands for: a whole number, or a text that denotes one. -/
def integerOf? : Json → Option Int64
  | .num n => n.signedWord?
  | .str s => Text.signedWord? s
  | _ => none

/-- Reads a whole number between bounds. -/
def readInteger (least greatest : Option Int64) (raw : Json) : Except Rejection Operand :=
  match integerOf? raw with
  | some w => checkInteger least greatest w
  | none => .error (.wrongType "integer" raw)

/-- Reads a truth value. -/
def readTruth : Json → Except Rejection Operand
  | .bool b => .ok (.truth b)
  | .str s =>
    if s = "true" then .ok (.truth true)
    else if s = "false" then .ok (.truth false)
    else .error (.wrongType "boolean" (.str s))
  | raw => .error (.wrongType "boolean" raw)

/-- Reads one of the options. -/
def readOption (allowed : List String) : Json → Except Rejection Operand
  | .str s => if allowed.contains s then .ok (.text s) else .error (.notAnOption s)
  | raw => .error (.wrongType "string" raw)

/-- Reads a pattern. -/
def readPattern : Json → Except Rejection Operand
  | .str s =>
    match Pattern.ofText? s with
    | some p => .ok (.pattern p)
    | none => .error (.invalidPattern s)
  | raw => .error (.wrongType "string (regex pattern)" raw)

/-- Reads an instant. -/
def readInstant : Json → Except Rejection Operand
  | .str s =>
    match Instant.ofText? s with
    | some t => .ok (.instant t)
    | none => .error (.invalidInstant s)
  | raw => .error (.wrongType "datetime string" raw)

/-- Reads items in order, counting positions from `position` on. -/
def readItems (read : Json → Except Rejection Operand) (position : Nat) :
    List Json → Except Rejection (List Operand)
  | [] => .ok []
  | raw :: rest =>
    match read raw with
    | .error cause => .error (.inItem position cause)
    | .ok item =>
      match readItems read (position + 1) rest with
      | .error cause => .error cause
      | .ok items => .ok (item :: items)

/-- Refuses a list of another length. -/
def checkLength (length : Option UInt64) (actual : Nat) : Except Rejection Unit :=
  match length.filter (·.toNat ≠ actual) with
  | some expected => .error (.wrongLength expected.toNat actual)
  | none => .ok ()

/-- Reads a list whose items are read by `read`. -/
def readList (read : Json → Except Rejection Operand) (length : Option UInt64) :
    Json → Except Rejection Operand
  | .arr raws =>
    match checkLength length raws.length, readItems read 0 raws with
    | .error cause, _ => .error cause
    | .ok (), .error cause => .error cause
    | .ok (), .ok items => .ok (.list items)
  | raw => .error (.wrongType "array" raw)

/-- Refuses null and reads any other value by `read`. -/
def required (read : Json → Except Rejection Operand) : Json → Except Rejection Operand
  | .null => .error .missing
  | raw => read raw

/-- **The operand that a raw value stands for.** -/
def read : Form → Json → Except Rejection Operand
  | text => required readText
  | number least greatest => required (readNumber least greatest)
  | integer least greatest => required (readInteger least greatest)
  | truth => required readTruth
  | options allowed => required (readOption allowed)
  | pattern => required readPattern
  | instant => required readInstant
  | list item length => required (readList item.read length)

/-! ## §2. Writing -/

/-- **The raw value of an operand.**  The items of a list are written by the item form; any
other operand is written by its own type, whatever the form. -/
def write : Form → Operand → Json
  | list item _, .list items => .arr (items.map item.write)
  | _, o => o.toJson

/-! ## §3. Descriptions -/

/-- **Number layout in descriptions.**  Positional from `10^-4` up to below `10^16`, whole
numbers with `.0`, otherwise an exponent without a plus sign; a half goes up. -/
def describedLayout : Binary64.Layout where
  lowest := some (-4)
  highest := some 15
  pointZero := true
  plus := false
  tie := .up

/-- A number as descriptions show it. -/
def describeNumber (x : Binary64) : String := String.ofList (describedLayout.text x)

/-- A form as messages about settings show it. -/
def describe : Form → String
  | text => "String"
  | number least greatest =>
    Text.record "Number" [("min", Text.optional describeNumber least),
      ("max", Text.optional describeNumber greatest)]
  | integer least greatest =>
    Text.record "Integer" [("min", Text.optional Rejection.integerText least),
      ("max", Text.optional Rejection.integerText greatest)]
  | truth => "Boolean"
  | options allowed =>
    Text.record "Enum" [("options", Text.bracketed (allowed.map Text.quoted))]
  | pattern => "Regex"
  | instant => "DateTime"
  | list item length =>
    Text.record "List" [("item", item.describe),
      ("length", Text.optional (fun w => Rejection.countText w.toNat) length)]

/-! ## §4. Equality -/

/-- Whether two optional bounds are equal as numbers. -/
def sameBound : Option Binary64 → Option Binary64 → Bool
  | none, none => true
  | some a, some b => a.eq b
  | _, _ => false

/-- **Whether two forms are equal.**  Bounds are compared as numbers, so a form with a NaN for
a bound differs from itself. -/
def sameAs : Form → Form → Bool
  | number a b, number c d => sameBound a c && sameBound b d
  | list a m, list b n => a.sameAs b && m == n
  | a, b => decide (a = b)

end Form

end Sift
