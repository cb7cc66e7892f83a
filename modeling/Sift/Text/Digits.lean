/-
  Sift.Text.Digits
  ────────────────
  **Decimal digits, and the two whole-number formats that operands and paths use.**

  `natural?` and `integer?` read an optional sign followed by one or more ASCII digits and
  nothing else.  Leading zeros are allowed; there is no size limit here.
-/

namespace Sift.Text

/-! ## §1. Runs of digits -/

def isDigit (c : Char) : Bool := '0' ≤ c && c ≤ '9'

/-- The longest run of digits at the start, and the rest. -/
def spanDigits (cs : List Char) : List Char × List Char :=
  (cs.takeWhile isDigit, cs.dropWhile isDigit)

/-- The number that a run of digits denotes. -/
def digitsValue (ds : List Char) : Nat := Nat.ofDigitChars 10 ds 0

/-- A nonempty text of digits alone. -/
def allDigits (cs : List Char) : Bool := !cs.isEmpty && cs.all isDigit

def natDigits (n : Nat) : List Char := Nat.toDigits 10 n

/-- **Reading back.**  The digits of a number denote that number. -/
theorem digitsValue_natDigits (n : Nat) : digitsValue (natDigits n) = n :=
  Nat.ofDigitChars_toDigits (by decide) (by decide)

/-- A whole number in decimal, negative numbers with a minus sign. -/
def intDigits (i : Int) : List Char :=
  if i < 0 then '-' :: natDigits i.natAbs else natDigits i.natAbs

/-- The value of a hexadecimal digit of either case. -/
def hexValue? (c : Char) : Option Nat :=
  if '0' ≤ c && c ≤ '9' then some (c.toNat - 48)
  else if 'a' ≤ c && c ≤ 'f' then some (c.toNat - 87)
  else if 'A' ≤ c && c ≤ 'F' then some (c.toNat - 55)
  else none

/-! ## §2. Signed and unsigned whole numbers -/

/-- One or more digits after an optional plus sign. -/
def natural? : List Char → Option Nat
  | '+' :: ds => if allDigits ds then some (digitsValue ds) else none
  | ds => if allDigits ds then some (digitsValue ds) else none

/-- One or more digits after an optional plus or minus sign. -/
def integer? : List Char → Option Int
  | '-' :: ds => if allDigits ds then some (-(digitsValue ds : Int)) else none
  | ds => (natural? ds).map Int.ofNat

end Sift.Text
