/-
  Sift.Binary64.Scaled
  ────────────────────
  **Numerals scaled by a power of ten in binary64.**

  A long numeral keeps the leading digits that fit 64 bits.  `Decimal.scaled?` rounds these digits
  to a binary64 number and multiplies or divides it by a power of ten, each step rounded on its
  own.  Where digits and power are both exact the result is the nearest number; otherwise it may be
  a neighbour of it.  A numeral past the largest finite number has no result.
-/
import Sift.Binary64.Decimal

namespace Sift

namespace Decimal

/-! ## §1. Leading digits -/

/-- Digits are kept while they are below this. -/
def keptLimit : Nat := 18446744073709551616

/-- The digits with one more behind them. -/
def nextDigits (d : Decimal) (c : Char) : Nat := d.digits * 10 + Text.digitsValue [c]

/-- Adds digits before the point.  From the first one that cannot be kept on, each only raises
the exponent. -/
def withWhole (d : Decimal) : List Char → Decimal
  | [] => d
  | c :: cs =>
    if d.nextDigits c < keptLimit then withWhole { d with digits := d.nextDigits c } cs
    else { d with exponent := d.exponent + (cs.length + 1) }

/-- Adds digits after the point, up to the first one that cannot be kept. -/
def withFraction (d : Decimal) : List Char → Decimal
  | [] => d
  | c :: cs =>
    if d.nextDigits c < keptLimit then withFraction ⟨d.nextDigits c, d.exponent - 1⟩ cs else d

end Decimal

/-! ## §2. Scaling -/

namespace Binary64

/-- The rounded product of two sizes. -/
def mulUnits (x y : Nat) : Binary64 := ofUnits false (x * y) unitsPerOne

/-- The rounded quotient of two sizes. -/
def divUnits (x y : Nat) : Binary64 := ofUnits false (x * unitsPerOne) y

/-- The largest exponent of a finite power of ten. -/
def largestPower : Nat := 308

/-- The size of the power of ten nearest to it; it is finite up to `largestPower`. -/
def powerUnits (exponent : Nat) : Nat := roundUnits (Nat.pow 10 exponent * unitsPerOne) 1

/-- Scales a size by a power of ten.  Below `-largestPower` that takes several divisions; no finite
size is left after `fuel` of them. -/
def scaleUnits (fuel : Nat) (x : Nat) (exponent : Int) : Binary64 :=
  if x = 0 then .zero false
  else if (largestPower : Int) < exponent then .infinite false
  else if 0 ≤ exponent then mulUnits x (powerUnits exponent.toNat)
  else if -(largestPower : Int) ≤ exponent then divUnits x (powerUnits (-exponent).toNat)
  else match fuel with
    | 0 => .zero false
    | fuel + 1 =>
      match divUnits x (powerUnits largestPower) with
      | .finite y => scaleUnits fuel y.units (exponent + largestPower)
      | other => other

end Binary64

/-- **The numeral scaled in binary64**, with the given sign. -/
def Decimal.scaled? (negative : Bool) (d : Decimal) : Option Binary64.Finite :=
  match Binary64.scaleUnits 3 (Binary64.roundUnits (d.digits * Binary64.unitsPerOne) 1)
      d.exponent with
  | .finite x => some { x with negative }
  | _ => none

end Sift
