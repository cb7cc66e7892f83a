/-
  Sift.Json.Numeric
  ─────────────────
  **Numbers and instants that JSON values stand for.**

  A number stands for itself and a text for the number it denotes, blanks at its ends aside.
  Infinities and NaN are never read.
-/
import Sift.Json.Basic
import Sift.Text.Blank
import Sift.Instant.Text
import Sift.Word

namespace Sift

/-- The number that a text denotes, blanks at its ends aside; it may be infinite or a NaN. -/
def Text.number? (s : String) : Option Binary64 := Binary64.ofText? (Text.trim s.toList)

/-- The whole number in the signed 64-bit range that a text denotes, blanks at its ends
aside. -/
def Text.signedWord? (s : String) : Option Int64 :=
  (Text.integer? (Text.trim s.toList)).bind Sift.signedWord?

/-- A number that is neither infinite nor a NaN. -/
def Binary64.isFinite (x : Binary64) : Bool := x.finite?.isSome

namespace Json

/-- A whole number in the signed 64-bit range. -/
def Number.signedWord? (n : Number) : Option Int64 := n.int?.bind Sift.signedWord?

def ofSignedWord (w : Int64) : Json :=
  num (.int w.toInt w.le_toInt (by have := w.toInt_lt; omega))

def ofUnsignedWord (w : UInt64) : Json :=
  num (.int w.toNat (by omega) (by have := w.toNat_lt; omega))

/-- The signed word that a value is. -/
def signedWord? : Json → Option Int64
  | num n => n.signedWord?
  | _ => none

/-- **The finite number that a value stands for**: a number, or a text that denotes one. -/
def numeric? : Json → Option Binary64
  | num n => some n.toBinary64 |>.filter Binary64.isFinite
  | str s => (Text.number? s).filter Binary64.isFinite
  | _ => none

/-- The instant that a value stands for: a text that denotes one. -/
def instant? : Json → Option Instant
  | str s => Instant.ofText? s
  | _ => none

end Json

end Sift
