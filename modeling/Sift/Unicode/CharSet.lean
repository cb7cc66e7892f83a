/-
  Sift.Unicode.CharSet
  ────────────────────
  **Sets of characters.**

  A `CharSet` lists the ranges of its members in increasing order, and ranges that overlap or
  touch are one, so equal sets have equal lists.  Long range tables are kept as text:
  `readRanges` reads a table in which every range is given by its distance from the end of the
  one before and by the number of characters it holds beyond its first.
-/

namespace Sift.Unicode

/-! ## §1. Range tables -/

/-- Ranges of code points, both ends included. -/
abbrev Ranges := List (Nat × Nat)

/-- The state of the table reader: the code point after the last range, the gap read so far
where a length follows it, and the number being read. -/
structure RangeReader where
  start : Nat
  gap : Option Nat
  number : Nat
  done : Ranges

namespace RangeReader

/-- Closes the range being read. -/
def close (s : RangeReader) : RangeReader :=
  let (first, more) := match s.gap with
    | some gap => (s.start + gap, s.number)
    | none => (s.start + s.number, 0)
  { start := first + more + 1, gap := none, number := 0, done := (first, first + more) :: s.done }

/-- Takes one character of a table. -/
def step (s : RangeReader) (c : Char) : RangeReader :=
  if c = ' ' then s.close
  else if c = ':' then { s with gap := some s.number, number := 0 }
  else { s with number := s.number * 10 + (c.toNat - 48) }

/-- Takes one line of a table. -/
def line (s : RangeReader) (line : String) : RangeReader :=
  (line.toList.foldl step s).close

end RangeReader

/-- **Reads a range table**, line by line.  `"65:25 6:25"` is the ASCII letters: 26 characters
from 65 on, and 26 more after a gap of 6. -/
def readRanges (table : List String) : Ranges :=
  (table.foldl RangeReader.line ⟨0, none, 0, []⟩).done.reverse

/-! ## §2. Operations on ranges -/

/-- The greatest code point. -/
def lastCodePoint : Nat := 0x10FFFF

/-- The code point of the next character; no character is a surrogate. -/
def codeAfter (n : Nat) : Nat := if n = 0xD7FF then 0xE000 else n + 1

/-- The code point of the character before. -/
def codeBefore (n : Nat) : Nat := if n = 0xE000 then 0xD7FF else n - 1

/-- Makes one range of those that overlap or touch; the first members increase. -/
def joinRanges : Ranges → Ranges
  | (a, b) :: (c, d) :: rest =>
    if c ≤ b + 1 then joinRanges ((a, max b d) :: rest) else (a, b) :: joinRanges ((c, d) :: rest)
  | ranges => ranges
termination_by ranges => ranges.length

/-- The gaps between ranges; `low` is the first code point that is not decided yet.  Between two
ranges that touch at the surrogates there is no gap: the two characters there stand for it. -/
def gapsFrom (low : Nat) : Ranges → Ranges
  | [] => if low ≤ lastCodePoint then [(low, lastCodePoint)] else []
  | (a, b) :: rest =>
    if a = 0 then gapsFrom (codeAfter b) rest
    else (min low (codeBefore a), max low (codeBefore a)) :: gapsFrom (codeAfter b) rest

/-- Whether one of the ranges, which are in order, holds a code point. -/
def inRanges (n : Nat) : Ranges → Bool
  | [] => false
  | (a, b) :: rest => if n < a then false else if n ≤ b then true else inRanges n rest

/-- What two lists of ranges share. -/
def sharedRanges : Ranges → Ranges → Ranges
  | (a, b) :: as, (c, d) :: bs =>
    let rest := if b < d then sharedRanges as ((c, d) :: bs) else sharedRanges ((a, b) :: as) bs
    if max a c ≤ min b d then (max a c, min b d) :: rest else rest
  | _, _ => []
termination_by as bs => as.length + bs.length

/-- What the first list of ranges holds beyond the second. -/
def otherRanges : Ranges → Ranges → Ranges
  | [], _ => []
  | as, [] => as
  | (a, b) :: as, (c, d) :: bs =>
    if d < a then otherRanges ((a, b) :: as) bs
    else if b < c then (a, b) :: otherRanges as ((c, d) :: bs)
    else
      let rest :=
        if d < b then otherRanges ((codeAfter d, b) :: as) bs else otherRanges as ((c, d) :: bs)
      if a < c then (a, codeBefore c) :: rest else rest
termination_by as bs => as.length + bs.length

/-! ## §3. Sets -/

/-- A set of characters. -/
structure CharSet where
  ranges : Ranges
deriving DecidableEq

namespace CharSet

/-- The characters in any of the ranges. -/
def ofRanges (ranges : Ranges) : CharSet :=
  ⟨joinRanges (ranges.mergeSort fun r s => r.1 ≤ s.1)⟩

/-- The characters of a table, whose ranges are in order and apart. -/
def ofTable (table : List String) : CharSet := ⟨readRanges table⟩

def empty : CharSet := ⟨[]⟩

def all : CharSet := ⟨[(0, lastCodePoint)]⟩

/-- The characters from one to another. -/
def span (first last : Nat) : CharSet := ⟨[(first, last)]⟩

/-- The set of one character. -/
def single (c : Char) : CharSet := span c.toNat c.toNat

/-- The characters of these code points. -/
def ofCodes (codes : List Nat) : CharSet := ofRanges (codes.map fun n => (n, n))

def unions (sets : List CharSet) : CharSet := ofRanges (sets.flatMap (·.ranges))

def union (a b : CharSet) : CharSet := unions [a, b]

def inter (a b : CharSet) : CharSet := ⟨sharedRanges a.ranges b.ranges⟩

/-- The characters in the first set and not in the second. -/
def diff (a b : CharSet) : CharSet := ⟨otherRanges a.ranges b.ranges⟩

/-- The characters in one of the sets and not in the other. -/
def symm (a b : CharSet) : CharSet := (a.union b).diff (a.inter b)

def compl (a : CharSet) : CharSet := ⟨gapsFrom 0 a.ranges⟩

/-- Whether a code point is a member. -/
def has (s : CharSet) (n : Nat) : Bool := inRanges n s.ranges

def contains (s : CharSet) (c : Char) : Bool := s.has c.toNat

/-- **The characters that equal a member up to case**; `orbits` are the classes of that equality
that have more than one member. -/
def folded (orbits : List (List Nat)) (s : CharSet) : CharSet :=
  s.union (ofCodes (orbits.filter fun o => o.any s.has).flatten)

/-- The only member of a set of one. -/
def only? (s : CharSet) : Option Char :=
  match s.ranges with
  | [(a, b)] => if a = b then some (Char.ofNat a) else none
  | _ => none

end CharSet

end Sift.Unicode
