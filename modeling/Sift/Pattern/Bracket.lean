/-
  Sift.Pattern.Bracket
  ────────────────────
  **Classes in square brackets.**

  A bracket holds characters, ranges, escapes, named ASCII classes and further brackets, whose
  union it is.  `&&`, `--` and `~~` combine what stands on their two sides, from left to right.
  The scanner keeps the open brackets on a stack and takes one piece at a time.
-/
import Sift.Pattern.Syntax

namespace Sift.Pattern

open Sift.Unicode

/-! ## §1. Pieces of a bracket -/

/-- A part of a bracket: its set and how deeply it is nested. -/
structure Piece where
  set : CharSet
  depth : Nat

/-- An operation between two parts. -/
inductive SetOp where
  | inter
  | diff
  | symm
deriving DecidableEq

/-- The combination of two sets. -/
def SetOp.apply : SetOp → CharSet → CharSet → CharSet
  | .inter, a, b => a.inter b
  | .diff, a, b => a.diff b
  | .symm, a, b => a.symm b

/-- The union of pieces given in reverse. -/
def Piece.union : List Piece → Piece
  | [] => ⟨.empty, 0⟩
  | [p] => p
  | ps => ⟨.unions (ps.map (·.set)), ps.foldl (fun d p => max d p.depth) 0 + 1⟩

/-- An open bracket: whether it is negated, the left side of the operation that is waiting for
its right side, and the pieces since, in reverse. -/
structure Bracket where
  negated : Bool
  waiting : Option (SetOp × Piece)
  pieces : List Piece

namespace Bracket

def push (b : Bracket) (p : Piece) : Bracket := { b with pieces := p :: b.pieces }

/-- What the bracket holds so far. -/
def content (f : Flags) (b : Bracket) : Piece :=
  let right := Piece.union b.pieces
  match b.waiting with
  | none => right
  | some (op, left) =>
    ⟨op.apply (f.fold left.set) (f.fold right.set), max left.depth right.depth + 1⟩

/-- Starts the right side of an operation. -/
def operate (f : Flags) (op : SetOp) (b : Bracket) : Bracket :=
  { b with waiting := some (op, b.content f), pieces := [] }

/-- The class that the closed bracket is. -/
def close? (f : Flags) (b : Bracket) : Option Piece :=
  let p := b.content f
  (f.negate? b.negated (f.fold p.set)).map fun set => ⟨set, p.depth + 1⟩

end Bracket

/-! ## §2. Reading the pieces -/

/-- The ASCII classes with a name. -/
def asciiClasses : List (String × Ranges) := [
  ("alnum", asciiAlnum), ("alpha", [(65, 90), (97, 122)]), ("ascii", [(0, 127)]),
  ("blank", [(9, 9), (32, 32)]), ("cntrl", [(0, 31), (127, 127)]), ("digit", [(48, 57)]),
  ("graph", [(33, 126)]), ("lower", [(97, 122)]), ("print", [(32, 126)]),
  ("punct", [(33, 47), (58, 64), (91, 96), (123, 126)]), ("space", [(9, 13), (32, 32)]),
  ("upper", [(65, 90)]), ("word", (95, 95) :: asciiAlnum),
  ("xdigit", [(48, 57), (65, 70), (97, 102)])]

/-- A named class after its opening bracket and colon, such as the rest of `[:alpha:]`: whether
it is negated, and its ranges.  Where it is none, the bracket opens an ordinary class. -/
def namedAscii? (cs : List Char) : Option (Bool × Ranges × List Char) :=
  let (negated, cs) := match cs with
    | '^' :: cs => (true, cs)
    | cs => (false, cs)
  let name := String.ofList (cs.takeWhile (· ≠ ':'))
  match cs.dropWhile (· ≠ ':') with
  | ':' :: ']' :: rest =>
    (asciiClasses.find? (·.1 = name)).map fun entry => (negated, entry.2, rest)
  | _ => none

/-- The hyphens at the start of a bracket. -/
def leadingHyphens (f : Flags) : Nat → Bracket → List Char → Bracket × List Char
  | 0, b, cs => (b, cs)
  | fuel + 1, b, cs =>
    match cs with
    | '-' :: rest => leadingHyphens f fuel (b.push ⟨.single '-', 0⟩) (f.skip rest)
    | cs => (b, cs)

/-- A bracket after its opening mark: a caret negates it, and a closing mark that comes first
stands for itself. -/
def openBracket (f : Flags) (cs : List Char) : Bracket × List Char :=
  let cs := f.skip cs
  let (negated, cs) := match cs with
    | '^' :: cs => (true, f.skip cs)
    | cs => (false, cs)
  let (b, cs) := leadingHyphens f cs.length ⟨negated, none, []⟩ cs
  match b.pieces, cs with
  | [], ']' :: rest => (b.push ⟨.single ']', 0⟩, f.skip rest)
  | _, cs => (b, cs)

/-- A single member, or an end of a range. -/
def member? (f : Flags) : List Char → Option (Primitive × List Char)
  | [] => none
  | '\\' :: cs => escape? f cs
  | c :: cs => some (.literal c false, cs)

/-- The character at the end of a range.  Without Unicode it is an ASCII character. -/
def rangeEnd? (f : Flags) : Primitive → Option Nat
  | .literal c _ => if !f.unicode && 128 ≤ c.toNat then none else some c.toNat
  | _ => none

/-- The character after the next one, skipped places left out. -/
def peekPast (f : Flags) (rest : List Char) : Option Char :=
  if f.verbose then
    let seen := rest.dropWhile Text.isBlank
    match seen with
    | '#' :: more => (more.dropWhile Text.isBlank).head?
    | seen => seen.head?
  else rest.head?

/-- A member or a range. -/
def range? (f : Flags) (cs : List Char) : Option (Piece × List Char) := do
  let (first, rest) ← member? f cs
  let rest := f.skip rest
  let alone : Option (Piece × List Char) := match first with
    | .literal _ _ => (rangeEnd? f first).map fun n => (⟨.span n n, 0⟩, rest)
    | .set s => some (⟨s, 0⟩, rest)
    | .look _ => none
  match rest with
  | [] => none
  | '-' :: more =>
    let ahead := peekPast f more
    -- A dash before the bracket or another dash stands for itself.
    if ahead = some ']' || ahead = some '-' then alone
    else
      let (last, rest) ← member? f (f.skip more)
      let low ← rangeEnd? f first
      let high ← rangeEnd? f last
      if high < low then none else return (⟨.span low high, 0⟩, rest)
  | _ => alone

/-! ## §3. The scanner -/

/-- Reads up to the mark that closes the last open bracket; `outer` holds the brackets around
the innermost one. -/
def bracketRest? (f : Flags) : Nat → List Bracket → Bracket → List Char →
    Option (Piece × List Char)
  | 0, _, _, _ => none
  | fuel + 1, outer, b, cs =>
    match f.skip cs with
    | [] => none
    | '[' :: rest =>
      -- Where no name of a class follows, the bracket opens an inner class.
      let named := match rest with
        | ':' :: rest => namedAscii? rest
        | _ => none
      match named with
      | some (negated, table, rest) =>
        match f.negate? negated (f.fold (.ofRanges table)) with
        | some set => bracketRest? f fuel outer (b.push ⟨set, 0⟩) rest
        | none => none
      | none =>
        let (inner, rest) := openBracket f rest
        bracketRest? f fuel (b :: outer) inner rest
    | ']' :: rest =>
      match b.close? f, outer with
      | some p, [] => some (p, rest)
      | some p, parent :: outer => bracketRest? f fuel outer (parent.push p) rest
      | none, _ => none
    | '&' :: '&' :: rest => bracketRest? f fuel outer (b.operate f .inter) rest
    | '-' :: '-' :: rest => bracketRest? f fuel outer (b.operate f .diff) rest
    | '~' :: '~' :: rest => bracketRest? f fuel outer (b.operate f .symm) rest
    | cs =>
      match range? f cs with
      | some (p, rest) => bracketRest? f fuel outer (b.push p) rest
      | none => none

/-- **A class in brackets**, after its opening mark. -/
def bracket? (f : Flags) (cs : List Char) : Option (Piece × List Char) :=
  let (b, rest) := openBracket f cs
  bracketRest? f (cs.length + 1) [] b rest

end Sift.Pattern
