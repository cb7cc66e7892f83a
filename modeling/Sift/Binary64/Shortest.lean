/-
  Sift.Binary64.Shortest
  ──────────────────────
  **The fewest digits that read back, and the layouts that write them.**

  Every finite number is a whole multiple of `10 ^ -1074`, so its decimal expansion is exact.
  `shortest` cuts that expansion after one, two, … digits, tries the two neighbours on each
  grid and keeps the first grid where one of them reads back as the number; of two that do,
  the nearer wins.  A `Layout` says how the digits are laid out.
-/
import Sift.Binary64.Decimal

namespace Sift

namespace Binary64

/-! ## §1. The exact expansion -/

/-- The number of decimal places after which every finite number ends. -/
def places : Nat := 1074

/-- The size of a finite number in units of `10 ^ -places`, exactly. -/
def Finite.scaled (x : Finite) : Nat := x.units * Nat.pow 5 places

/-- Which of two equally near candidates is written. -/
inductive Tie where
  | even
  | up
deriving DecidableEq

/-! ## §2. The search -/

/-- A decimal that rounds to the number. -/
def readsBack (x : Finite) (d : Decimal) : Bool := d.toBinary64 x.negative == .finite x

/-- The better of the two neighbours of `exact` on the grid `10 ^ cut`, where one of them reads
back. -/
def candidate? (tie : Tie) (x : Finite) (exact cut : Nat) : Option Decimal :=
  let grid := Nat.pow 10 cut
  let below : Decimal := ⟨exact / grid, (cut : Int) - places⟩
  let above : Decimal := { below with digits := below.digits + 1 }
  let excess := 2 * (exact % grid)
  let upward := grid < excess ∨ (excess = grid ∧ (tie = .up ∨ below.digits % 2 = 1))
  match readsBack x below, readsBack x above with
  | true, true => some (if upward then above else below)
  | true, false => some below
  | false, true => some above
  | false, false => none

/-- The first grid that holds a candidate, from the coarsest of `cut` places down. -/
def search (tie : Tie) (x : Finite) (exact : Nat) : Nat → Decimal
  | 0 => (candidate? tie x exact 0).getD ⟨exact, -places⟩
  | cut + 1 =>
    match candidate? tie x exact (cut + 1) with
    | some d => d
    | none => search tie x exact cut

/-- A decimal without its trailing zeros; `fuel` bounds their number. -/
def stripZeros : Nat → Decimal → Decimal
  | 0, d => d
  | fuel + 1, d =>
    if d.digits ≠ 0 ∧ d.digits % 10 = 0 then
      stripZeros fuel ⟨d.digits / 10, d.exponent + 1⟩
    else d

/-- **The shortest decimal** that reads back as the number, nearest among the shortest. -/
def shortest (tie : Tie) (x : Finite) : Decimal :=
  if x.units = 0 then ⟨0, 0⟩
  else
    let exact := x.scaled
    let count := (Text.natDigits exact).length
    stripZeros count (search tie x exact (count - 1))

/-! ## §3. Layouts -/

/-- How a number is written.  A number whose leading digit stands at an exponent between
`lowest` and `highest` is written positionally, every other one with an exponent; a missing
bound is no bound. -/
structure Layout where
  lowest : Option Int
  highest : Option Int
  /-- Whole numbers written positionally end in `.0`. -/
  pointZero : Bool
  /-- A positive exponent carries a plus sign. -/
  plus : Bool
  tie : Tie

def zeros (count : Nat) : List Char := List.replicate count '0'

/-- The digits `ds`, scaled by `10 ^ e`, without an exponent. -/
def positional (pointZero : Bool) (ds : List Char) (e : Int) : List Char :=
  if 0 ≤ e then
    ds ++ zeros e.toNat ++ (if pointZero then ['.', '0'] else [])
  else
    let point := (ds.length : Int) + e
    if 0 < point then ds.take point.toNat ++ '.' :: ds.drop point.toNat
    else '0' :: '.' :: zeros (-point).toNat ++ ds

/-- One digit, the others after a point, and the exponent of the leading digit. -/
def scientific (plus : Bool) (ds : List Char) (lead : Int) : List Char :=
  let mantissa := match ds with
    | d :: r :: rest => d :: '.' :: r :: rest
    | ds => ds
  mantissa ++ 'e' :: (if plus && 0 ≤ lead then ['+'] else []) ++ Text.intDigits lead

/-- The text of a finite number in a layout. -/
def Layout.finite (l : Layout) (x : Finite) : List Char :=
  let d := shortest l.tie x
  let ds := Text.natDigits d.digits
  let lead := d.exponent + ds.length - 1
  let plain := l.lowest.all (· ≤ lead) && l.highest.all (lead ≤ ·)
  let size :=
    if x.units = 0 || plain then positional l.pointZero ds d.exponent
    else scientific l.plus ds lead
  if x.negative then '-' :: size else size

/-- The text of a number in a layout. -/
def Layout.text (l : Layout) : Binary64 → List Char
  | .nan => ['N', 'a', 'N']
  | .infinite true => ['-', 'i', 'n', 'f']
  | .infinite false => ['i', 'n', 'f']
  | .finite x => l.finite x

end Binary64

end Sift
