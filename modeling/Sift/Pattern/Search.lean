/-
  Sift.Pattern.Search
  ───────────────────
  **What a compiled pattern matches.**

  A `Route` takes a set of positions of a text to the set of positions where a match that
  started at one of them can end.  A set of positions is a number whose binary digits say which
  positions it holds, so every construct is one or two operations on numbers, a repetition is
  iteration, and the time is bounded whatever the pattern.  A pattern is found in a text when
  some position can be reached from some position.
-/
import Sift.Pattern.Node

namespace Sift.Pattern

open Sift.Unicode

/-! ## §1. Texts -/

/-- The sets of characters that are parts of words. -/
structure WordSets where
  unicode : CharSet
  ascii : CharSet

/-- A text being searched: its characters and the characters beside each position. -/
structure Haystack where
  chars : List Char
  sides : List (Option Char × Option Char)
  words : WordSets

/-- The characters beside each position of a text that `before` precedes. -/
def sidesFrom (before : Option Char) : List Char → List (Option Char × Option Char)
  | [] => [(before, none)]
  | c :: cs => (before, some c) :: sidesFrom (some c) cs

/-- The text of these characters. -/
def Haystack.of (words : WordSets) (chars : List Char) : Haystack :=
  { chars, sides := sidesFrom none chars, words }

/-- The positions, or characters, that pass a test. -/
def mask (p : α → Bool) (xs : List α) : Nat :=
  xs.foldr (fun x acc => 2 * acc + (if p x then 1 else 0)) 0

/-- All positions of a text of that length. -/
def everywhere (length : Nat) : Nat := Nat.pow 2 (length + 1) - 1

/-- Whether a character is part of a word. -/
def WordSets.has (words : WordSets) (kind : Repertoire) : Option Char → Bool
  | none => false
  | some c => match kind with
    | .unicode => words.unicode.contains c
    | .ascii => words.ascii.contains c

/-- Whether a condition holds between two neighbouring characters. -/
def Look.holds (words : WordSets) : Look → Option Char → Option Char → Bool
  | .start, before, _ => before.isNone
  | .finish, _, after => after.isNone
  | .lineStart false, before, _ => before.isNone || before = some '\n'
  | .lineFinish false, _, after => after.isNone || after = some '\n'
  -- Between the two characters of a line ending no line starts or ends.
  | .lineStart true, before, after =>
    before.isNone || before = some '\n' || (before = some '\r' && after ≠ some '\n')
  | .lineFinish true, before, after =>
    after.isNone || after = some '\r' || (after = some '\n' && before ≠ some '\r')
  | .wordBoundary k, before, after => words.has k before != words.has k after
  | .notWordBoundary k, before, after => words.has k before == words.has k after
  | .wordStart k, before, after => !words.has k before && words.has k after
  | .wordFinish k, before, after => words.has k before && !words.has k after
  | .wordStartHalf k, before, _ => !words.has k before
  | .wordFinishHalf k, _, after => !words.has k after

/-! ## §2. Routes -/

/-- A pattern as it applies to one text. -/
inductive Route where
  | stay
  /-- Over the next character, from these positions. -/
  | step (here : Nat)
  /-- At these positions alone. -/
  | only (here : Nat)
  | seq (a b : Route)
  | alt (a b : Route)
  | times (body : Route) (least rounds : Nat)

/-- Where each of these characters stands in a text. -/
def Haystack.places (t : Haystack) (cs : List Char) : List (Char × Nat) :=
  cs.map fun c => (c, mask (· == c) t.chars)

/-- The route of a pattern.  In a text of `n` characters `n + 1` rounds reach all that any number
of rounds reaches. -/
def Node.route (t : Haystack) : Node → Route
  | .empty => .stay
  | .literal cs =>
    let places := t.places cs.eraseDups
    cs.foldr (fun c r => .seq (.step ((places.lookup c).getD 0)) r) .stay
  | .one set _ => .step (mask set.contains t.chars)
  | .look l => .only (mask (fun side => l.holds t.words side.1 side.2) t.sides)
  | .seq a b => .seq (a.route t) (b.route t)
  | .alt a b => .alt (a.route t) (b.route t)
  | .times body least most _ =>
    -- More rounds than there are places between characters add nothing.
    .times (body.route t) least (match most with | some m => m - least | none => t.sides.length)
  | .group _ body => body.route t

/-- `f` applied `count` times; once nothing changes, nothing will. -/
def iterate (f : Nat → Nat) : Nat → Nat → Nat
  | 0, s => s
  | count + 1, s => let r := f s; if r = s then s else iterate f count r

/-- The positions reached by at most `count` applications of `f`. -/
def closure (f : Nat → Nat) : Nat → Nat → Nat
  | 0, s => s
  | count + 1, s => let r := s ||| f s; if r = s then s else closure f count r

/-- **Where matches can end** that start at one of the positions `s`. -/
def Route.ends : Route → Nat → Nat
  | .stay, s => s
  | .step here, s => (s &&& here) <<< 1
  | .only here, s => s &&& here
  | .seq a b, s => b.ends (a.ends s)
  | .alt a b, s => a.ends s ||| b.ends s
  | .times body least rounds, s => closure body.ends rounds (iterate body.ends least s)

/-- **Search.**  Whether the pattern matches somewhere in the text. -/
def Node.foundIn (node : Node) (t : Haystack) : Bool :=
  (node.route t).ends (everywhere t.chars.length) != 0

end Sift.Pattern
