/-
  Sift.Settings.Toml.Parser
  ─────────────────────────
  **Reading TOML documents.**

  Comments, keys with values, headers of tables and of arrays of tables; values are scalars,
  arrays and inline tables.  Each reader takes the remaining characters and gives what it read
  with what is left; the fuel of the recursive readers is the length of the text.
-/
import Sift.Settings.Toml.Draft
import Sift.Settings.Toml.Scalar

namespace Sift.Settings.Toml

/-! ## §1. Values -/

/-- How deeply arrays and inline tables may nest. -/
def nestingLimit : Nat := 80

/-- The text after blanks, comments and line ends. -/
def skipSpace (cs : List Char) : List Char := skipLines cs.length cs

mutual
/-- A value that holds at most `depth` levels of arrays and inline tables. -/
def value? (depth : Nat) : Nat → List Char → Option (Tree × List Char)
  | 0, _ => none
  | fuel + 1, cs =>
    match cs, depth with
    | '[' :: cs, depth + 1 =>
      (items? depth fuel [] (skipSpace cs)).map fun (items, cs) => (.array items, cs)
    | '\x7b' :: cs, depth + 1 =>
      (pairs? depth fuel [] (skipSpace cs)).map fun (members, cs) =>
        (.table (Draft.membersToTree members), cs)
    | cs, _ =>
      match string? cs with
      | some (s, cs) => some (.text s, cs)
      | none =>
        let word := cs.takeWhile isWordChar
        (word? word).map (·, cs.drop word.length)

/-- Items up to the closing bracket, a comma after the last one allowed; `done` holds the items
before, in reverse. -/
def items? (depth : Nat) : Nat → List Tree → List Char → Option (List Tree × List Char)
  | 0, _, _ => none
  | fuel + 1, done, cs =>
    match cs with
    -- After a comma too: the last one may be left standing.
    | ']' :: cs => some (done.reverse, cs)
    | cs =>
      match value? depth fuel cs with
      | none => none
      | some (item, cs) =>
        match skipSpace cs with
        | ',' :: cs => items? depth fuel (item :: done) (skipSpace cs)
        | ']' :: cs => some ((item :: done).reverse, cs)
        | _ => none

/-- Keys with values up to the closing brace, a comma after the last one allowed.  Line ends and
comments may stand anywhere but inside a key. -/
def pairs? (depth : Nat) : Nat → Members → List Char → Option (Members × List Char)
  | 0, _, _ => none
  | fuel + 1, done, cs =>
    match cs with
    | '\x7d' :: cs => some (done, cs)
    | cs =>
      match (key? (cs.length + 1) cs).map fun (key, cs) => (key, skipSpace cs) with
      | some (key, '=' :: cs) =>
        match value? depth fuel (skipSpace cs) with
        | none => none
        | some (value, cs) =>
          -- A key that is set twice is refused here already.
          match Draft.assign value key done, skipSpace cs with
          | some done, ',' :: cs => pairs? depth fuel done (skipSpace cs)
          | some done, '\x7d' :: cs => some (done, cs)
          | _, _ => none
      | _ => none
end

/-! ## §2. Documents -/

/-- A document while it is read: its members and the header in force. -/
structure State where
  members : Members
  header : List String

/-- A header after its opening brackets, up to and including its closing ones. -/
def header? (closing : List Char) (cs : List Char) : Option (List String × List Char) :=
  match key? (cs.length + 1) cs with
  | some (key, cs) =>
    if closing.isPrefixOf cs then some (key, cs.drop closing.length) else none
  | none => none

/-- Opens what a header names. -/
def State.openHeader (s : State) (key : List String)
    (opener : String → Members → Option Members) : Option State :=
  match key.getLast? with
  | some name =>
    (Draft.within (opener name) key.dropLast s.members).map fun members => ⟨members, key⟩
  | none => none

/-- One header, or one key with its value. -/
def statement? (s : State) (cs : List Char) : Option (State × List Char) :=
  match cs with
  -- A doubled bracket adds an item to an array of tables.
  | '[' :: '[' :: cs => do
    let (key, cs) ← header? [']', ']'] cs
    return (← s.openHeader key Draft.openItem, cs)
  | '[' :: cs => do
    let (key, cs) ← header? [']'] cs
    return (← s.openHeader key Draft.openTable, cs)
  | cs =>
    match key? (cs.length + 1) cs with
    | some (key, '=' :: cs) => do
      let (value, cs) ← value? nestingLimit (2 * cs.length + 1) (skipBlanks cs)
      let members ← Draft.within (Draft.assign value key) s.header s.members
      return (⟨members, s.header⟩, cs)
    | _ => none

/-- The statements of a document, each on a line of its own; `fuel` bounds their number. -/
def statements? : Nat → State → List Char → Option State
  | 0, _, _ => none
  | fuel + 1, s, cs =>
    match skipSpace cs with
    | [] => some s
    | cs =>
      match statement? s cs with
      | none => none
      | some (s, cs) => (restOfLine? cs).bind (statements? fuel s)

/-- The text without a byte-order mark at its start. -/
def withoutMark (cs : List Char) : List Char :=
  match cs with
  | c :: rest => if c.toNat = 0xFEFF then rest else cs
  | [] => []

/-- **The members of a document.** -/
def parse? (text : String) : Option (List (String × Tree)) :=
  let cs := withoutMark text.toList
  (statements? (cs.length + 1) ⟨[], []⟩ cs).map fun s => Draft.membersToTree s.members

end Sift.Settings.Toml
