/-
  Sift.Pattern.Compile
  ────────────────────
  **From the text of a pattern to its compiled form.**

  The scanner reads one construct at a time and keeps the groups that are open on a stack.
  Groups, alternatives, sequences, repetitions and brackets nest at most `nestingLimit` deep, and a
  repetition count fits 32 bits.  The automaton of a pattern has to fit into `sizeLimit` bytes,
  unless the pattern is searched as a list of texts.  Look-around, back-references and atomic
  groups do not exist.
-/
import Sift.Pattern.Bracket
import Sift.Pattern.Footprint
import Sift.Pattern.Lead
import Sift.Unicode.Recent

namespace Sift.Pattern

open Sift.Unicode

/-! ## §1. Parts -/

/-- How deeply constructs may nest. -/
def nestingLimit : Nat := 250

/-- A part of a pattern: its compiled form and its depth. -/
structure Part where
  node : Node
  depth : Nat

namespace Part

/-- The part that matches the empty text. -/
def empty : Part := ⟨.empty, 0⟩

def look (l : Look) : Part := ⟨.look l, 0⟩

def set (f : Flags) (s : CharSet) (depth : Nat) : Part := ⟨.ofSet s f.repertoire, depth⟩

/-- The greatest depth of these parts. -/
def deepest (ps : List Part) : Nat := ps.foldl (fun d p => max d p.depth) 0

/-- Parts in a row. -/
def sequence : List Part → Part
  | [] => empty
  | [p] => p
  | ps => ⟨.sequence (ps.map (·.node)), deepest ps + 1⟩

/-- One of several parts. -/
def alternatives : List Part → Part
  | [] => empty
  | [p] => p
  | ps => ⟨.alternatives (ps.map (·.node)), deepest ps + 1⟩

def repeated (p : Part) (least : Nat) (most : Option Nat) (greedy : Bool) : Part :=
  ⟨p.node.repeated least most greedy, p.depth + 1⟩

/-- A group, with its number where its match is kept. -/
def group (p : Part) (number : Option Nat) : Part :=
  ⟨number.elim p.node fun n => .group n p.node, p.depth + 1⟩

end Part

/-! ## §2. Groups -/

/-- A group being read: its number where its match is kept, the flags in force in it, its
alternatives so far and the items of the last one, both in reverse.  An item that is missing is a
change of flags. -/
structure Level where
  number : Option Nat
  flags : Flags
  branches : List Part
  items : List (Option Part)

namespace Level

/-- An empty group. -/
def start (number : Option Nat) (flags : Flags) : Level := ⟨number, flags, [], []⟩

def push (l : Level) (p : Part) : Level := { l with items := some p :: l.items }

/-- The alternative being read. -/
def branch (l : Level) : Part := .sequence (l.items.reverse.map (·.getD .empty))

def nextBranch (l : Level) : Level := { l with branches := l.branch :: l.branches, items := [] }

def content (l : Level) : Part := .alternatives (l.branch :: l.branches).reverse

/-- Repeats the last item, where there is one that can be repeated; `lazy` is the mark for fewer
rounds. -/
def repeatLast? (l : Level) (least : Nat) (most : Option Nat) (lazy : Bool) : Option Level :=
  match l.items with
  | some p :: rest =>
    some { l with items := some (p.repeated least most (lazy == l.flags.swapGreed)) :: rest }
  | _ => none

end Level

/-- How a group begins. -/
inductive Opening where
  /-- Flags for the rest of the group around. -/
  | directive (flags : Flags)
  /-- A group, with its name where it has one. -/
  | group (captures : Bool) (name : Option String) (flags : Flags)

/-- Flags up to the mark after them.  A letter comes once, and so does the hyphen, which turns
off the letters after it. -/
def flags? (f : Flags) (on : Bool) (seen : List Char) : List Char → Option (Flags × List Char)
  | [] => none
  | c :: cs =>
    if c = ':' || c = ')' then
      if seen.head? = some '-' then none else some (f, c :: cs)
    else if seen.contains c then none
    else if c = '-' then flags? f false (c :: seen) cs
    else match f.set? c on with
      | some f => flags? f on (c :: seen) cs
      | none => none

/-- The letters that names of groups may have. -/
def nameLetters : CharSet := (tabled "alphabetic").union recentLetters

/-- The digits and numbers that names of groups may have. -/
def nameNumbers : CharSet := (categories ["nd", "nl", "no"]).union recentNumbers

/-- A character of a group's name. -/
def isNameChar (first : Bool) (c : Char) : Bool :=
  let letter := c = '_' || nameLetters.contains c
  if first then letter
  else letter || c = '.' || c = '[' || c = ']' || nameNumbers.contains c

/-- The name of a group, up to its closing mark. -/
def groupName? (cs : List Char) : Option (String × List Char) :=
  let name := cs.takeWhile (· ≠ '>')
  match name, cs.dropWhile (· ≠ '>') with
  | c :: rest, '>' :: after =>
    if isNameChar true c && rest.all (isNameChar false) then some (String.ofList name, after)
    else none
  | _, _ => none

/-- What follows an opening parenthesis. -/
def opening? (f : Flags) (cs : List Char) : Option (Opening × List Char) :=
  let named (cs : List Char) :=
    (groupName? cs).map fun (name, rest) => (Opening.group true (some name) f, rest)
  match f.skip cs with
  -- Looking ahead and behind is not supported.
  | '?' :: '=' :: _ | '?' :: '!' :: _ | '?' :: '<' :: '=' :: _ | '?' :: '<' :: '!' :: _ => none
  | '?' :: 'P' :: '<' :: rest | '?' :: '<' :: rest => named rest
  | '?' :: rest =>
    match flags? f true [] rest with
    | some (g, ':' :: after) => some (.group false none g, after)
    | some (g, ')' :: after) =>
      -- `(?)` sets no flag and is refused.
      if rest.head? = some ')' then none else some (.directive g, after)
    | _ => none
  | rest => some (.group true none f, rest)

/-! ## §3. Repetitions -/

/-- A repetition mark is followed by a question mark where it prefers fewer rounds. -/
def lazyMark : List Char → Bool × List Char
  | '?' :: rest => (true, rest)
  | rest => (false, rest)

/-- The digits of a count, what the flags let stand between them aside; `fuel` bounds their
number. -/
def countDigits (f : Flags) : Nat → List Char → List Char × List Char
  | 0, cs => ([], cs)
  | _ + 1, [] => ([], [])
  | fuel + 1, c :: rest =>
    if Text.isDigit c then
      let (ds, rest) := countDigits f fuel (f.skip rest)
      (c :: ds, rest)
    else ([], c :: rest)

/-- A count that fits 32 bits, blanks around it; `none` inside where there is no digit. -/
def count? (f : Flags) (cs : List Char) : Option (Option Nat × List Char) :=
  let (ds, rest) := countDigits f cs.length (Text.trimLeft cs)
  let rest := if f.verbose then f.skip (Text.trimLeft rest) else Text.trimLeft rest
  if ds.isEmpty then some (none, rest)
  else if Text.digitsValue ds < 4294967296 then some (some (Text.digitsValue ds), rest)
  else none

/-- A counted repetition after its opening brace: the bounds, and the text after it. -/
def counted? (f : Flags) (cs : List Char) : Option (Nat × Option Nat × List Char) := do
  let (least, rest) ← count? f (f.skip cs)
  let (least, most, rest) ← match rest with
    | ',' :: rest =>
      match f.skip rest with
      | '\x7d' :: rest => least.map fun n => (n, none, rest)
      | rest => do
        let least ← least
        let (most, rest) ← count? f rest
        match rest with
        | '\x7d' :: rest => most.map fun m => (least, some m, rest)
        | _ => none
    | '\x7d' :: rest => least.map fun n => (n, some n, rest)
    | _ => none
  -- Bounds the wrong way round are an error.
  if most.all (least ≤ ·) then return (least, most, f.skip rest) else none

/-! ## §4. The scanner -/

/-- Any character but a line end, unless the flags let the dot match those too. -/
def dot? (f : Flags) : Option Part :=
  if !f.unicode then none
  else if f.dotAll then some (.set f .all 0)
  else if f.crlf then some (.set f (CharSet.compl ⟨[(10, 10), (13, 13)]⟩) 0)
  else some (.set f (CharSet.single '\n').compl 0)

/-- A single piece as a part. -/
def Primitive.part? (f : Flags) : Primitive → Option Part
  | .literal c byte => (f.literal? c byte).map (Part.set f · 0)
  | .set s => some (.set f s 0)
  | .look l => some (.look l)

/-- Reads up to the end of the pattern; `outer` holds the groups around the innermost one and
`kept` the names of the groups so far whose matches are kept, nothing for one without a name. -/
def scan? : Nat → List Level → Level → List (Option String) → List Char → Option Part
  | 0, _, _, _, _ => none
  | fuel + 1, outer, l, kept, cs =>
    let f := l.flags
    let keep (p : Option Part) (rest : List Char) : Option Part :=
      match p with
      | some p => scan? fuel outer (l.push p) kept rest
      | none => none
    let again (least : Nat) (most : Option Nat) (rest : List Char) : Option Part :=
      let (lazy, rest) := lazyMark rest
      match l.repeatLast? least most lazy with
      | some l => scan? fuel outer l kept rest
      | none => none
    match f.skip cs with
    -- The pattern may only end where every group is closed.
    | [] => if outer.isEmpty then some l.content else none
    | c :: rest =>
      if c = '(' then
        match opening? f rest with
        | some (.directive g, rest) =>
          scan? fuel outer { l with flags := g, items := none :: l.items } kept rest
        | some (.group true name g, rest) =>
          -- Two groups may not bear one name.
          if name.isSome && kept.contains name then none
          else scan? fuel (l :: outer) (.start (some (kept.length + 1)) g) (name :: kept) rest
        | some (.group false _ g, rest) => scan? fuel (l :: outer) (.start none g) kept rest
        | none => none
      else if c = ')' then
        match outer with
        | parent :: outer =>
          scan? fuel outer (parent.push (l.content.group l.number)) kept rest
        | [] => none
      else if c = '|' then scan? fuel outer l.nextBranch kept rest
      else if c = '[' then
        match bracket? f rest with
        | some (p, rest) => keep (some (.set f p.set p.depth)) rest
        | none => none
      else if c = '?' then again 0 (some 1) rest
      else if c = '*' then again 0 none rest
      else if c = '+' then again 1 none rest
      else if c = '\x7b' then
        match counted? f rest with
        | some (least, most, rest) => again least most rest
        | none => none
      else if c = '\\' then
        match escape? f rest with
        | some (p, rest) => keep (p.part? f) rest
        | none => none
      else if c = '.' then keep (dot? f) rest
      else if c = '^' then
        keep (some (.look (if f.multiline then .lineStart f.crlf else .start))) rest
      else if c = '$' then
        keep (some (.look (if f.multiline then .lineFinish f.crlf else .finish))) rest
      else keep (Primitive.part? f (.literal c false)) rest

/-- **The compiled form of a pattern**, where its text is one. -/
def compile? (source : String) : Option Node :=
  let cs := source.toList
  match scan? (cs.length + 1) [] (.start none {}) [] cs with
  | some p =>
    if p.depth ≤ nestingLimit && (p.node.isTextChoice || p.node.fits) then some p.node else none
  | none => none

end Sift.Pattern
