/-
  Sift.Operand.Declaration
  ────────────────────────
  **How forms are declared.**

  A form is declared by a table that names its type and its members, `toJson` being the
  complete one.  A reader also takes an array of the type's name and the members in their
  order, of which the last ones may be missing like those of a table.  Types are strict: the
  bounds of a number are numbers, those of a whole number and the length of a list are whole
  numbers of the right range.  Members of other names are ignored in a table, and an array
  with more members than the type has is refused.
-/
import Sift.Operand.Form
import Sift.Settings.Tree

namespace Sift.Form

open Settings

/-! ## §1. Types -/

/-- The type that a declaration names. -/
inductive Kind where
  | text
  | number
  | integer
  | truth
  | options
  | pattern
  | instant
  | list
deriving DecidableEq

namespace Kind

/-- All types, in the order of their numbers. -/
def all : List Kind := [text, number, integer, truth, options, pattern, instant, list]

/-- The name of a type. -/
def name : Kind → String
  | text => "string"
  | number => "number"
  | integer => "integer"
  | truth => "boolean"
  | options => "enum"
  | pattern => "regex"
  | instant => "datetime"
  | list => "list"

/-- The type that a tree names; where `numbered` holds, its number may stand for it. -/
def ofTree? (numbered : Bool) : Tree → Option Kind
  | .text s => all.find? (·.name == s)
  | .integer i => if numbered && decide (0 ≤ i) then all[i.toNat]? else none
  | _ => none

/-- The names of the members that a type has, in the order of an array. -/
def memberNames : Kind → List String
  | number | integer => ["min", "max"]
  | options => ["options"]
  | list => ["item", "length"]
  | text | truth | pattern | instant => []

/-- The members that an array gives after its type, by their names; it may leave out the last
ones. -/
def named? (k : Kind) (items : List Tree) : Option (List (String × Tree)) :=
  if items.length ≤ k.memberNames.length then some (k.memberNames.zip items) else none

theorem ofTree?_name (numbered : Bool) (k : Kind) :
    ofTree? numbered (.text k.name) = some k := by
  cases k <;> rfl

end Kind

/-! ## §2. Writing a declaration -/

def optionalJson (write : α → Json) : Option α → Json
  | none => .null
  | some a => write a

/-- A declaration of a type with its members. -/
def declared (kind : Kind) (members : List (String × Json)) : Json :=
  .object (("type", .str kind.name) :: members)

/-- **The declaration of a form**, with all its members; a bound that is not finite is written
as null. -/
def toJson : Form → Json
  | text => declared .text []
  | number least greatest =>
    declared .number [("min", optionalJson .ofBinary64 least),
      ("max", optionalJson .ofBinary64 greatest)]
  | integer least greatest =>
    declared .integer [("min", optionalJson .ofSignedWord least),
      ("max", optionalJson .ofSignedWord greatest)]
  | truth => declared .truth []
  | options allowed => declared .options [("options", .arr (allowed.map .str))]
  | pattern => declared .pattern []
  | instant => declared .instant []
  | list item length =>
    declared .list [("item", item.toJson), ("length", optionalJson .ofUnsignedWord length)]

/-! ## §3. Reading members -/

/-- An optional member: no value stands for none. -/
def optionalTree? (read : Tree → Option α) (t : Tree) : Option (Option α) :=
  if t.isNil then some none else (read t).map some

/-- The bound of a number. -/
def number? : Tree → Option Binary64
  | .integer i => some (.ofInt i)
  | .number x => some x
  | _ => none

/-- The bound of a whole number. -/
def integer? : Tree → Option Int64
  | .integer i => signedWord? i
  | _ => none

/-- The length of a list. -/
def length? : Tree → Option UInt64
  | .integer i => if 0 ≤ i then unsignedWord? i.toNat else none
  | _ => none

/-- The texts of an enumeration. -/
def options? : Tree → Option (List String)
  | .array items => items.mapM Tree.text?
  | _ => none

/-! ## §4. Reading a declaration -/

/-- The members of a declaration, an item of a list aside. -/
structure Parts where
  least : Tree := .nil
  greatest : Tree := .nil
  allowed : Tree := .nil

/-- The form of a type other than a list. -/
def ofParts? (parts : Parts) : Kind → Option Form
  | .text => some .text
  | .truth => some .truth
  | .pattern => some .pattern
  | .instant => some .instant
  | .options => (options? parts.allowed).map .options
  | .number => do
    let least ← optionalTree? number? parts.least
    let greatest ← optionalTree? number? parts.greatest
    return .number least greatest
  | .integer => do
    let least ← optionalTree? integer? parts.least
    let greatest ← optionalTree? integer? parts.greatest
    return .integer least greatest
  -- A list holds another form and is read where that is.
  | .list => none

/-- The members of a type other than a list by their names. -/
def partsOfMembers (members : List (String × Tree)) : Parts where
  least := (Tree.lookup "min" members).getD .nil
  greatest := (Tree.lookup "max" members).getD .nil
  allowed := (Tree.lookup "options" members).getD .nil

/-- The form of a type with its members; `item` is the form that the member of that name
declares. -/
def ofKind? (item : Option Form) (members : List (String × Tree)) : Kind → Option Form
  | .list => do
    let item ← item
    let length ← optionalTree? length? ((Tree.lookup "length" members).getD .nil)
    return .list item length
  | kind => ofParts? (partsOfMembers members) kind

mutual
/-- **The form that a tree declares.**  `numbered` says whether types inside lists may be given
by number, `inside` whether this one is inside a list. -/
def ofTree? (numbered inside : Bool) : Tree → Option Form
  | .table members =>
    match (Tree.lookup "type" members).bind (Kind.ofTree? (numbered && inside)) with
    | none => none
    | some kind => ofKind? (itemOf? numbered members) members kind
  | .array items =>
    match items.head?.bind (Kind.ofTree? (numbered && inside)) with
    | none => none
    | some kind =>
      match kind.named? items.tail with
      | none => none
      | some members => ofKind? (secondOf? numbered items) members kind
  | _ => none
termination_by structural t => t

/-- The form that the member `item` declares. -/
def itemOf? (numbered : Bool) : List (String × Tree) → Option Form
  | [] => none
  | (name, t) :: rest => if name = "item" then ofTree? numbered true t else itemOf? numbered rest
termination_by structural ms => ms

/-- The form that the second item of an array declares. -/
def secondOf? (numbered : Bool) : List Tree → Option Form
  | [] => none
  | _ :: rest => firstOf? numbered rest
termination_by structural ts => ts

/-- The form that the first item of an array declares. -/
def firstOf? (numbered : Bool) : List Tree → Option Form
  | [] => none
  | t :: _ => ofTree? numbered true t
termination_by structural ts => ts
end

/-- The form that a JSON value declares. -/
def ofJson? (j : Json) : Option Form := ofTree? true false (.ofJson j)

end Sift.Form
