/-
  Sift.Binary64.Decimal
  ─────────────────────
  **Decimal numerals and their rounding to binary64.**

  A `Decimal` is `digits · 10 ^ exponent`.  `Decimal.toBinary64` rounds it once, to the
  nearest number; numerals far outside the range are decided by their size alone, so the
  exponent may be arbitrarily long.  `Binary64.ofText?` reads the usual spellings, the names
  of the infinities and of the NaN included.
-/
import Sift.Binary64.Basic
import Sift.Text.Digits

namespace Sift

/-- The number `digits · 10 ^ exponent`. -/
structure Decimal where
  digits : Nat
  exponent : Int
deriving DecidableEq

namespace Decimal

/-- Above this exponent a nonzero numeral is past every finite number; below its negation,
counted from the leading digit, it is nearer to zero than to anything else. -/
def exponentBound : Int := 400

/-- **The nearest binary64 number**, with the given sign. -/
def toBinary64 (negative : Bool) (d : Decimal) : Binary64 :=
  if d.digits = 0 then .zero negative
  else if exponentBound < d.exponent then .infinite negative
  else if d.exponent + d.digits.log2 + 1 < -exponentBound then .zero negative
  else if 0 ≤ d.exponent then
    .ofUnits negative (d.digits * Nat.pow 10 d.exponent.toNat * Binary64.unitsPerOne) 1
  else
    .ofUnits negative (d.digits * Binary64.unitsPerOne)
      (Nat.pow 10 (-d.exponent).toNat)

end Decimal

namespace Binary64

/-! ## §1. The exponent part of a numeral -/

/-- An exponent part: nothing at all, or a letter `e`, an optional sign and digits up to the
end of the text. -/
def exponentPart? : List Char → Option Int
  | [] => some 0
  | c :: cs => if c == 'e' || c == 'E' then Text.integer? cs else none

/-! ## §2. Numerals and names -/

/-- Digits, optionally a point and more digits, optionally an exponent; there is at least one
digit before the exponent. -/
def numeral? (negative : Bool) (cs : List Char) : Option Binary64 :=
  let (whole, rest) := Text.spanDigits cs
  let (part, rest) := match rest with
    | '.' :: rest => Text.spanDigits rest
    | rest => ([], rest)
  if whole.isEmpty && part.isEmpty then none
  else (exponentPart? rest).map fun e =>
    Decimal.toBinary64 negative
      { digits := Text.digitsValue (whole ++ part), exponent := e - part.length }

/-- A numeral or a name, without its sign.  Names are read in either case. -/
def unsigned? (negative : Bool) (cs : List Char) : Option Binary64 :=
  let name := cs.map Char.toLower
  if name = ['i', 'n', 'f'] || name = ['i', 'n', 'f', 'i', 'n', 'i', 't', 'y'] then
    some (.infinite negative)
  else if name = ['n', 'a', 'n'] then some .nan
  else numeral? negative cs

/-- **Reads a number**, with an optional sign and nothing around it. -/
def ofText? : List Char → Option Binary64
  | '+' :: cs => unsigned? false cs
  | '-' :: cs => unsigned? true cs
  | cs => unsigned? false cs

end Binary64

end Sift
