/-
  Sift.Pattern.Node
  ─────────────────
  **Compiled patterns.**

  A `Node` is a pattern without its spelling.  The constructors `Node.ofSet`, `Node.sequence`,
  `Node.alternatives` and `Node.repeated` build nodes in a normal form: neighbouring literals are
  one, rows and choices are flat, a choice between single characters is a class, and what all
  alternatives start with stands in front of them.  The normal form matters for the size of a
  pattern, not for what it matches.
-/
import Sift.Unicode.CharSet

namespace Sift.Pattern

open Sift.Unicode

/-! ## §1. Nodes -/

/-- The characters that classes and words are taken from. -/
inductive Repertoire where
  | unicode
  | ascii
deriving DecidableEq

/-- A condition on a position. -/
inductive Look where
  | start
  | finish
  /-- At the start of a line; `crlf` lets a carriage return end lines too. -/
  | lineStart (crlf : Bool)
  | lineFinish (crlf : Bool)
  | wordBoundary (kind : Repertoire)
  | notWordBoundary (kind : Repertoire)
  | wordStart (kind : Repertoire)
  | wordFinish (kind : Repertoire)
  /-- No part of a word before. -/
  | wordStartHalf (kind : Repertoire)
  /-- No part of a word after. -/
  | wordFinishHalf (kind : Repertoire)
deriving DecidableEq

/-- A compiled pattern. -/
inductive Node where
  | empty
  /-- These characters in a row. -/
  | literal (chars : List Char)
  /-- One character of a set.  Classes of different repertoires are different nodes even where
  their sets are the same. -/
  | one (set : CharSet) (kind : Repertoire)
  | look (look : Look)
  /-- A row; the first part is no row itself. -/
  | seq (a b : Node)
  /-- A choice; the second part is no choice itself. -/
  | alt (a b : Node)
  /-- At least `least` and, where there is a bound, at most `most` times; `greedy` prefers more
  rounds, which changes nothing about what is found. -/
  | times (body : Node) (least : Nat) (most : Option Nat) (greedy : Bool)
  /-- A group whose match is kept, under its number. -/
  | group (number : Nat) (body : Node)
deriving DecidableEq

/-- The number of nodes in a node. -/
def Node.weight : Node → Nat
  | .seq a b | .alt a b => a.weight + b.weight + 1
  | .times body _ _ _ | .group _ body => body.weight + 1
  | _ => 1

/-! ## §2. What a node consumes -/

namespace Node

/-- The least number of characters that a match takes; `none` where there is no match. -/
def leastLength : Node → Option Nat
  | .empty | .look _ => some 0
  | .literal cs => some cs.length
  | .one s _ => if s.ranges.isEmpty then none else some 1
  | .seq a b => do return (← a.leastLength) + (← b.leastLength)
  | .alt a b => do return min (← a.leastLength) (← b.leastLength)
  | .times body least _ _ => body.leastLength.map (· * least)
  | .group _ body => body.leastLength

/-- Whether a match always takes a character. -/
def consumes (n : Node) : Bool := n.leastLength.any (0 < ·)

/-- Whether every match is empty. -/
def isEmptyOnly : Node → Bool
  | .empty | .look _ => true
  | .literal _ | .one _ _ => false
  | .seq a b | .alt a b => a.isEmptyOnly && b.isEmptyOnly
  | .times body _ most _ => body.isEmptyOnly || most = some 0
  | .group _ body => body.isEmptyOnly

/-- Whether every match starts at the start of the text. -/
def startsAtStart : Node → Bool
  | .look l => l = .start
  | .seq a b => a.startsAtStart || (a.isEmptyOnly && b.startsAtStart)
  | .alt a b => a.startsAtStart && b.startsAtStart
  | .times body least _ _ => 0 < least && body.startsAtStart
  | .group _ body => body.startsAtStart
  | .empty | .literal _ | .one _ _ => false

/-- Whether every match ends at the end of the text. -/
def endsAtEnd : Node → Bool
  | .look l => l = .finish
  | .seq a b => b.endsAtEnd || (b.isEmptyOnly && a.endsAtEnd)
  | .alt a b => a.endsAtEnd && b.endsAtEnd
  | .times body least _ _ => 0 < least && body.endsAtEnd
  | .group _ body => body.endsAtEnd
  | .empty | .literal _ | .one _ _ => false

/-! ## §3. Rows -/

/-- The parts of a row. -/
def parts : Node → List Node
  | .empty => []
  | .seq a b => a :: b.parts
  | n => [n]

/-- The parts with neighbouring literals made one. -/
def joinLiterals : List Node → List Node
  | [] => []
  | n :: ns =>
    match n, joinLiterals ns with
    | .literal cs, .literal ds :: rest => .literal (cs ++ ds) :: rest
    | n, rest => n :: rest

/-- A row of these parts as they are. -/
def row : List Node → Node
  | [] => .empty
  | [n] => n
  | n :: ns => .seq n (row ns)

/-- **These nodes in a row.** -/
def sequence (ns : List Node) : Node := row (joinLiterals (ns.flatMap parts))

/-! ## §4. Choices -/

/-- What matches nothing: one character of the empty set. -/
def never : Node := .one .empty .ascii

/-- One character of a set. -/
def ofSet (s : CharSet) (kind : Repertoire) : Node :=
  if s.ranges.isEmpty then never
  else match s.only? with
    | some c => .literal [c]
    | none => .one s kind

def branches : Node → List Node
  | .alt a b => a.branches ++ [b]
  | n => [n]

def char? : Node → Option Char
  | .literal [c] => some c
  | _ => none

def set? : Node → Option CharSet
  | .one s _ => some s
  | _ => none

def literal? : Node → Option (List Char)
  | .literal cs => some cs
  | _ => none

def isRow : Node → Bool
  | .seq _ _ => true
  | _ => false

/-- What two lists of parts start with. -/
def sharedParts : List Node → List Node → List Node
  | a :: as, b :: bs => if a = b then a :: sharedParts as bs else []
  | _, _ => []

/-- A choice between these alternatives as they are. -/
def choice : List Node → Node
  | [] => never
  | n :: ns => ns.foldl .alt n

/-- One of these nodes; `fuel` bounds how often a common start is taken out. -/
def alternativesWithin : Nat → List Node → Node
  | 0, ns => choice (ns.flatMap branches)
  | fuel + 1, ns =>
    let ns := ns.flatMap branches
    match ns with
    | [] => choice []
    | [n] => n
    | first :: rest =>
      match ns.mapM char?, ns.mapM set? with
      | some cs, _ => ofSet (.ofCodes (cs.map Char.toNat)) .unicode
      | none, some sets => ofSet (.unions sets) .unicode
      | none, none =>
        -- What all alternatives begin with is taken out in front.
        let shared := rest.foldl (fun ps n => sharedParts ps n.parts) first.parts
        if ns.all isRow && !shared.isEmpty then
          let left := ns.map fun n => sequence (n.parts.drop shared.length)
          sequence (shared ++ [alternativesWithin fuel left])
        else choice ns

/-- **One of these nodes.** -/
def alternatives (ns : List Node) : Node :=
  alternativesWithin ((ns.map weight).foldr (· + ·) 1) ns

/-! ## §5. Repetitions -/

/-- **A repeated node.**  What only matches the empty text need not be repeated. -/
def repeated (body : Node) (least : Nat) (most : Option Nat) (greedy : Bool) : Node :=
  let (least, most) :=
    if body.isEmptyOnly then (min least 1, some ((most.map (min · 1)).getD 1)) else (least, most)
  if most = some 0 then .empty
  else if least = 1 && most = some 1 then body
  else .times body least most greedy

end Node

end Sift.Pattern
