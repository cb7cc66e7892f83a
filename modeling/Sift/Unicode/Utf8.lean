/-
  Sift.Unicode.Utf8
  ─────────────────
  **Ranges of characters as ranges of bytes.**

  The UTF-8 forms of the characters of a range are, in general, not the byte strings between the
  first form and the last one.  `byteForms` cuts a range of code points into pieces for which
  they are: in each piece all forms have the same length, and every byte runs through a range of
  its own.
-/
import Sift.Unicode.CharSet

namespace Sift.Unicode

/-- A range of bytes, both ends included. -/
structure ByteRange where
  first : Nat
  last : Nat
deriving DecidableEq

/-- A byte that goes on with a form: six binary digits. -/
def tailByte (n : Nat) : Nat := 0x80 + n % 0x40

/-- The bytes of the UTF-8 form of a code point. -/
def utf8Bytes (n : Nat) : List Nat :=
  if n < 0x80 then [n]
  else if n < 0x800 then [0xC0 + n / 0x40, tailByte n]
  else if n < 0x10000 then [0xE0 + n / 0x1000, tailByte (n / 0x40), tailByte n]
  else [0xF0 + n / 0x40000, tailByte (n / 0x1000), tailByte (n / 0x40), tailByte n]

/-- The end of the first piece of a range that leaves a block of `block` code points: of the blocks
that it reaches, the first and the last stand alone unless they are whole. -/
def blockCut? (block low high : Nat) : Option Nat :=
  if low / block = high / block then none
  else if low % block ≠ 0 then some ((low / block + 1) * block - 1)
  else if high % block ≠ block - 1 then some (high / block * block - 1)
  else none

/-- Where a range of code points has to be cut: around the surrogates, where the length of the
form changes, and then at the edges of the blocks that share all bytes but the last, the last two
or the last three. -/
def cut? (low high : Nat) : Option Nat :=
  if low ≤ 0x7F && 0x7F < high then some 0x7F
  else if low ≤ 0x7FF && 0x7FF < high then some 0x7FF
  else if low ≤ 0xD7FF && 0xD7FF < high then some 0xD7FF
  else if low ≤ 0xDFFF && 0xDFFF < high then some 0xDFFF
  else if low ≤ 0xFFFF && 0xFFFF < high then some 0xFFFF
  else if high ≤ 0x7F then none
  else
    ((blockCut? 0x40 low high).or (blockCut? 0x1000 low high)).or (blockCut? 0x40000 low high)

/-- **The pieces of a range of code points**, in order, each as the ranges of its bytes.
Surrogates have no form. -/
def byteForms (low high : Nat) : List (List ByteRange) :=
  match cut? low high with
  | some n =>
    if _h : low ≤ n ∧ n < high then byteForms low n ++ byteForms (n + 1) high else []
  | none =>
    if 0xD800 ≤ low && low ≤ 0xDFFF then []
    else [List.zipWith ByteRange.mk (utf8Bytes low) (utf8Bytes high)]
termination_by high - low
decreasing_by all_goals omega

end Sift.Unicode
