/-
  Sift.Pattern.Footprint
  ──────────────────────
  **How much memory the automaton of a pattern takes.**

  The automaton works on the bytes of the UTF-8 form of a text, and there are two of it: one
  reads forward and one backward.  They are not built here, only counted.  A repetition writes
  its body out as often as the body may occur, a class is the automaton of the byte forms of its
  characters, and equal parts of that automaton are built once as far as a memory of limited size
  can tell.  `Node.fits` is the limit on both counts.
-/
import Sift.Pattern.Node
import Sift.Unicode.Utf8

namespace Sift.Pattern

open Sift.Unicode

/-! ## §1. Counting -/

/-- The bytes that the automaton of a pattern may take. -/
def sizeLimit : Nat := 10485760

/-- The bytes of a state. -/
def stateSize : Nat := 32

/-- The bytes of one of several transitions of a state. -/
def edgeSize : Nat := 8

/-- The bytes of one of several states that a state branches to. -/
def linkSize : Nat := 4

/-- What an automaton takes so far: its states, and the bytes of their lists of transitions and
branches. -/
structure Tally where
  states : Nat
  listed : Nat

namespace Tally

def bytes (t : Tally) : Nat := stateSize * t.states + t.listed

def withStates (t : Tally) (count : Nat) : Tally := { t with states := t.states + count }

/-- More transitions in lists. -/
def withEdges (t : Tally) (count : Nat) : Tally :=
  { t with listed := t.listed + edgeSize * count }

/-- More branches. -/
def withLinks (t : Tally) (count : Nat) : Tally :=
  { t with listed := t.listed + linkSize * count }

/-- The end of a part is joined to what follows; where the end branches, that is one branch
more. -/
def joined (t : Tally) (branching : Bool) : Tally := if branching then t.withLinks 1 else t

end Tally

/-- The direction in which an automaton reads. -/
inductive Direction where
  | forward
  | backward
deriving DecidableEq

/-! ## §2. Memories -/

/-- The hash of no numbers. -/
def hashSeed : UInt64 := 14695981039346656037

/-- The hash of numbers below `2 ^ 64` and one more: exclude and multiply. -/
def hashWith (h : UInt64) (n : Nat) : UInt64 := (h ^^^ n.toUInt64) * 1099511628211

/-- A memory of the states that stand for keys.  Every key has one slot, and a slot keeps its
last key with its state. -/
structure Memory (κ : Type) where
  kept : Array (Option (κ × Nat))

namespace Memory

variable {κ : Type}

/-- A memory that holds nothing. -/
def fresh (slots : Nat) : Memory κ := ⟨Array.replicate slots none⟩

/-- The slot of the keys with this hash. -/
def slot (m : Memory κ) (h : UInt64) : Nat := h.toNat % m.kept.size

/-- The state of a key, where its slot still keeps it. -/
def remembered? [DecidableEq κ] (m : Memory κ) (slot : Nat) (key : κ) : Option Nat :=
  match m.kept[slot]? with
  | some (some (k, state)) => if k = key then some state else none
  | _ => none

/-- Keeps a key in its slot. -/
def keep (m : Memory κ) (slot : Nat) (key : κ) (state : Nat) : Memory κ :=
  ⟨m.kept.setIfInBounds slot (some (key, state))⟩

end Memory

/-! ## §3. Classes -/

/-- A transition: its first byte, its last byte and the state it leads to. -/
structure Edge where
  first : Nat
  last : Nat
  target : Nat
deriving DecidableEq

/-- The state with these transitions, built unless the memory has it. -/
def stateOf (edges : List Edge) (t : Tally) (m : Memory (List Edge)) :
    Nat × Tally × Memory (List Edge) :=
  let slot := m.slot (edges.foldl
    (fun h e => hashWith (hashWith (hashWith h e.first) e.last) e.target) hashSeed)
  match m.remembered? slot edges with
  | some state => (state, t, m)
  | none =>
    (t.states, (t.withStates 1).withEdges edges.length, m.keep slot edges t.states)

/-- The state that reads one of these byte forms, which are in order, and then is at `goal`; no
form is longer than `depth`. -/
def formsState (goal : Nat) : Nat → List (List ByteRange) → Tally → Memory (List Edge) →
    Nat × Tally × Memory (List Edge)
  | 0, _, t, m => (goal, t, m)
  | depth + 1, forms, t, m =>
    -- Forms that begin with the same range share the state behind it.
    let groups := forms.splitBy fun a b => a.head? == b.head?
    let (edges, t, m) := groups.foldl
      (fun (edges, t, m) group =>
        match group with
        | (r :: rest) :: _ =>
          let (next, t, m) :=
            if rest.isEmpty then (goal, t, m) else formsState goal depth (group.map (·.tail)) t m
          (⟨r.first, r.last, next⟩ :: edges, t, m)
        | _ => (edges, t, m))
      ([], t, m)
    stateOf edges.reverse t m

/-- The states that read the bytes of one form from the last on: for each byte from the first on,
the state that reads it and goes on to the state before, which is `next` for the first byte. -/
def formStates (next : Nat) : List ByteRange → Tally → Memory Edge → Tally × Memory Edge
  | [], t, m => (t, m)
  | r :: rest, t, m =>
    let edge : Edge := ⟨r.first, r.last, next⟩
    let slot := m.slot (hashWith (hashWith (hashWith hashSeed next) r.first) r.last)
    match m.remembered? slot edge with
    | some state => formStates state rest t m
    | none => formStates t.states rest (t.withStates 1) (m.keep slot edge t.states)

/-- `formStates` of several forms. -/
def allFormStates (goal : Nat) : List (List ByteRange) → Tally → Memory Edge → Tally
  | [], t, _ => t
  | form :: forms, t, m =>
    let (t, m) := formStates goal form t m
    allFormStates goal forms t m

/-- Adds a part, and says whether the end of the part branches. -/
structure Stage where
  add : Tally → Tally × Bool

/-- Adds a class that has these byte forms. -/
def formsStage (d : Direction) (forms : List (List ByteRange)) : Stage where
  add t := match d with
    | .forward => ((formsState t.states 4 forms (t.withStates 1) (.fresh 10000)).2.1, false)
    | .backward =>
      let u := allFormStates (t.states + 1) forms (t.withStates 2) (.fresh 1000)
      (u.withLinks forms.length, false)

/-- Adds a class.  One of ASCII characters alone is a state with a list of transitions; any other
reads byte forms. -/
def classStage (d : Direction) (s : CharSet) : Stage :=
  if s.ranges.all (·.2 < 128) then ⟨fun t => ((t.withStates 2).withEdges s.ranges.length, false)⟩
  else formsStage d (s.ranges.flatMap fun r => byteForms r.1 r.2)

/-! ## §4. Choices of literals -/

/-- The bytes of a literal in the order in which they are read. -/
def literalBytes (d : Direction) (cs : List Char) : List Nat :=
  let bytes := cs.flatMap fun c => utf8Bytes c.toNat
  match d with
  | .forward => bytes
  | .backward => bytes.reverse

/-- The runs of texts that go on, cut where a text ends; `moved` says whether a text has gone on
before, `ended` whether one has ended, and `run` is the run being read, in reverse.  While no text
has gone on, the second end is no cut. -/
def runsFrom (moved ended : Bool) (run : List (List Nat)) :
    List (List Nat) → List (List (List Nat))
  | [] => [run.reverse]
  | text :: texts =>
    if text.isEmpty then
      if !moved && ended then runsFrom moved ended run texts
      else run.reverse :: runsFrom moved true [] texts
    else runsFrom true ended (text :: run) texts

/-- What is left of the texts after their first byte, for each first byte. -/
def byFirstByte (texts : List (List Nat)) : List (List (List Nat)) :=
  (texts.filterMap (·.head?)).eraseDups.map fun b =>
    (texts.filter (·.head? = some b)).map List.tail

/-- The tree of a choice between texts, none longer than `depth`.  The order of the choice is
kept: a text that ends comes between the runs before it and after it. -/
def treeTally : Nat → List (List Nat) → Tally → Tally
  | 0, _, t => t
  | depth + 1, texts, t =>
    if texts.all List.isEmpty then t
    else
      let runs := runsFrom false false [] texts
      -- Where two cuts meet no text goes on between them, and the run has no state of its own.
      let filled := runs.filter (!·.isEmpty)
      let t := filled.foldl
        (fun t run =>
          let groups := byFirstByte run
          let t := groups.foldl (fun t group => treeTally depth group t) t
          (t.withStates 1).withEdges (if groups.length = 1 then 0 else groups.length)) t
      (t.withStates 1).withLinks (filled.length + runs.length - 1)

/-! ## §5. Rows and repetitions -/

namespace Stage

/-- Adds a number of states. -/
def states (count : Nat) : Stage := ⟨fun t => (t.withStates count, false)⟩

/-- One part and then another. -/
def seq (a b : Stage) : Stage where
  add t :=
    let (t, x) := a.add t
    let (t, y) := b.add t
    (t.joined x, y)

/-- `one` again and again, `count` times; `branching` says whether the end so far branches.
Nothing is counted any more once the limit is passed. -/
def again (one : Stage) : Nat → Tally → Bool → Tally × Bool
  | 0, t, branching => (t, branching)
  | count + 1, t, branching =>
    if sizeLimit < t.bytes then (t, branching)
    else
      let (u, next) := one.add t
      again one count (u.joined branching) next

/-- `one`, `count` times. -/
def exactly (one : Stage) : Nat → Stage
  | 0 => states 1
  | count + 1 => ⟨fun t =>
      let (t, branching) := one.add t
      again one count t branching⟩

/-- `one` up to `count` times: before each there is a branch to the end. -/
def upTo (one : Stage) : Nat → Tally → Bool → Tally × Bool
  | 0, t, branching => (t.joined branching, false)
  | count + 1, t, branching =>
    if sizeLimit < t.bytes then (t, branching)
    else
      let (u, next) := one.add (t.withStates 1)
      upTo one count ((u.withLinks 2).joined branching) next

/-- At least `least` times; `consumes` says whether `one` always takes a character. -/
def atLeast (one : Stage) (consumes : Bool) : Nat → Stage
  | 0 => ⟨fun t =>
      if consumes then
        let (t, x) := one.add (t.withStates 1)
        ((t.withLinks 1).joined x, true)
      else
        let (t, x) := one.add t
        (((t.joined x).withStates 3).withLinks 4, false)⟩
  | 1 => ⟨fun t =>
      let (t, x) := one.add t
      (((t.withStates 1).withLinks 1).joined x, true)⟩
  | count + 1 => ⟨fun t =>
      let (t, x) := (one.exactly count).add t
      let (t, y) := one.add t
      ((((t.withStates 1).withLinks 1).joined x).joined y, true)⟩

/-- From `least` to `most` times. -/
def between (one : Stage) (least most : Nat) : Stage where
  add t :=
    if least = 0 && most = 1 then
      let (t, x) := one.add (t.withStates 1)
      (((t.withStates 1).withLinks 2).joined x, false)
    else
      let (t, x) := (one.exactly least).add t
      if least = most then (t, x) else upTo one (most - least) (t.withStates 1) x

/-- A group whose match is kept: a state before and a state after. -/
def kept (body : Stage) : Stage where
  add t :=
    let (t, x) := body.add (t.withStates 1)
    ((t.withStates 1).joined x, false)

/-- Two alternatives, the first of which may itself be a choice already. -/
def either (a b : Stage) (inChoice : Bool) : Stage where
  add t :=
    let (t, x) := a.add t
    let (t, y) := b.add t
    let t := (t.withLinks 1).joined y
    (if inChoice then t else ((t.withStates 2).withLinks 1).joined x, false)

end Stage

/-! ## §6. Patterns -/

/-- Whether the node is a choice. -/
def Node.isChoice : Node → Bool
  | .alt _ _ => true
  | _ => false

/-- Adds the automaton of a node.  `inner` marks a choice that is the first part of a longer
one. -/
def Node.stage (d : Direction) : Node → Bool → Stage
  | .empty, _ | .look _, _ => .states 1
  | .literal cs, _ => .states (literalBytes d cs).length
  | .one s _, _ => classStage d s
  | .seq a b, _ =>
    match d with
    | .forward => (a.stage d false).seq (b.stage d false)
    | .backward => (b.stage d false).seq (a.stage d false)
  | .alt a b, inner =>
    -- Literals side by side are built as one tree, which shares what they begin with.
    match inner, (a.branches ++ [b]).mapM Node.literal? with
    | false, some literals =>
      let texts := literals.map (literalBytes d)
      ⟨fun t =>
        (treeTally ((texts.map List.length).foldl max 0) texts (t.withStates 1), false)⟩
    | _, _ => (a.stage d true).either (b.stage d false) a.isChoice
  | .group _ body, _ =>
    match d with
    | .forward => (body.stage d false).kept
    | .backward => body.stage d false
  | .times body least none _, _ => (body.stage d false).atLeast body.consumes least
  | .times body least (some most) _, _ => (body.stage d false).between least most

/-- **The bytes of the automaton that reads in a direction.**  A search may start anywhere unless
every match starts, or ends, at the end of the text where the automaton sets out; the forward
automaton keeps the whole match as a group. -/
def Node.footprint (d : Direction) (n : Node) : Nat :=
  let (anchored, whole) := match d with
    | .forward => (n.startsAtStart, (n.stage d false).kept)
    | .backward => (n.endsAtEnd, n.stage d false)
  let start : Tally := if anchored then ⟨1, 0⟩ else (Tally.withLinks ⟨3, edgeSize⟩ 2)
  let (t, x) := whole.add start
  ((t.withStates 1).joined x).bytes

/-- Whether both automata stay within the limit. -/
def Node.fits (n : Node) : Bool :=
  n.footprint .forward ≤ sizeLimit && n.footprint .backward ≤ sizeLimit

end Sift.Pattern
