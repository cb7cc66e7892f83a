/-
  Sift.Settings.Toml.Scalar
  ─────────────────────────
  **Scalars and keys of TOML.**

  Strings on one line, basic or literal; whole numbers in four bases that fit a signed 64-bit
  word; binary64 numbers, the infinities and the NaN included; truth values.  Underscores stand
  between digits only.
-/
import Sift.Settings.Tree
import Sift.Word

namespace Sift.Settings.Toml

/-! ## §1. Blanks, comments and line ends -/

def isBlank (c : Char) : Bool := c = ' ' || c = '\t'

/-- The text after the blanks at its start. -/
def skipBlanks (cs : List Char) : List Char := cs.dropWhile isBlank

/-- A control character that stands neither in strings nor in comments. -/
def isControl (c : Char) : Bool := (c.toNat < 32 && c ≠ '\t') || c.toNat = 127

/-- The text after a comment, where there is one. -/
def skipComment : List Char → List Char
  | '#' :: cs => cs.dropWhile fun c => !isControl c
  | cs => cs

/-- The text after a line end. -/
def newline? : List Char → Option (List Char)
  | '\n' :: cs => some cs
  | '\r' :: '\n' :: cs => some cs
  | _ => none

/-- The text after the rest of a line that holds nothing but blanks and a comment. -/
def restOfLine? (cs : List Char) : Option (List Char) :=
  match skipComment (skipBlanks cs) with
  | [] => some []
  | cs => newline? cs

/-- The text after blanks, comments and line ends; `fuel` bounds the lines. -/
def skipLines : Nat → List Char → List Char
  | 0, cs => cs
  | fuel + 1, cs =>
    let cs := skipComment (skipBlanks cs)
    match newline? cs with
    | some cs => skipLines fuel cs
    | none => cs

/-! ## §2. Strings -/

/-- The number of several hexadecimal digits, as many as `count`. -/
def hexNumber? : Nat → Nat → List Char → Option (Nat × List Char)
  | 0, n, cs => some (n, cs)
  | count + 1, n, c :: cs =>
    (Text.hexValue? c).bind fun d => hexNumber? count (16 * n + d) cs
  | _ + 1, _, [] => none

/-- A character by its code point. -/
def character? (n : Nat) : Option Char :=
  if n.isValidChar then some (Char.ofNat n) else none

/-- The character of an escape after its backslash. -/
def escape? : List Char → Option (Char × List Char)
  | 'b' :: cs => some (Char.ofNat 8, cs)
  | 't' :: cs => some ('\t', cs)
  | 'n' :: cs => some ('\n', cs)
  | 'f' :: cs => some (Char.ofNat 12, cs)
  | 'r' :: cs => some ('\r', cs)
  | 'e' :: cs => some (Char.ofNat 27, cs)
  | '"' :: cs => some ('"', cs)
  | '\\' :: cs => some ('\\', cs)
  | 'x' :: cs => (hexNumber? 2 0 cs).bind fun (n, cs) => (character? n).map (·, cs)
  | 'u' :: cs => (hexNumber? 4 0 cs).bind fun (n, cs) => (character? n).map (·, cs)
  | 'U' :: cs => (hexNumber? 8 0 cs).bind fun (n, cs) => (character? n).map (·, cs)
  | _ => none

/-- The rest of a basic string; `done` holds its characters in reverse. -/
def basicRest? : Nat → List Char → List Char → Option (String × List Char)
  | 0, _, _ => none
  | _ + 1, _, [] => none
  | fuel + 1, done, c :: cs =>
    if c = '"' then some (String.ofList done.reverse, cs)
    else if c = '\\' then
      match escape? cs with
      | some (c, cs) => basicRest? fuel (c :: done) cs
      | none => none
    else if isControl c then none
    else basicRest? fuel (c :: done) cs

/-- The rest of a literal string. -/
def literalRest? (cs : List Char) : Option (String × List Char) :=
  let text := cs.takeWhile fun c => c ≠ '\'' && !isControl c
  match cs.drop text.length with
  | '\'' :: cs => some (String.ofList text, cs)
  | _ => none

/-- A string. -/
def string? : List Char → Option (String × List Char)
  | '"' :: cs => basicRest? (cs.length + 1) [] cs
  | '\'' :: cs => literalRest? cs
  | _ => none

/-! ## §3. Keys -/

/-- A character of a bare key. -/
def isBare (c : Char) : Bool := c.isAlphanum || c = '_' || c = '-'

/-- One part of a key. -/
def keyPart? (cs : List Char) : Option (String × List Char) :=
  match string? cs with
  | some part => some part
  | none =>
    let bare := cs.takeWhile isBare
    if bare.isEmpty then none else some (String.ofList bare, cs.drop bare.length)

/-- The parts of a key, with points between them; `fuel` bounds their number. -/
def key? : Nat → List Char → Option (List String × List Char)
  | 0, _ => none
  | fuel + 1, cs =>
    match keyPart? (skipBlanks cs) with
    | none => none
    | some (part, cs) =>
      match skipBlanks cs with
      | '.' :: cs => (key? fuel cs).map fun (parts, cs) => (part :: parts, cs)
      | cs => some ([part], cs)

/-! ## §4. Numbers and truth values -/

/-- The characters between the underscores of a text. -/
def pieces : List Char → List (List Char)
  | [] => [[]]
  | c :: cs =>
    if c = '_' then [] :: pieces cs
    else match pieces cs with
      | [] => [[c]]
      | first :: rest => (c :: first) :: rest

/-- Digits with underscores between them, without the underscores. -/
def digits? (isDigit : Char → Bool) (cs : List Char) : Option (List Char) :=
  let parts := pieces cs
  if parts.all fun p => !p.isEmpty && p.all isDigit then some parts.flatten else none

/-- Digits of which the first is zero only where it stands alone. -/
def wholeDigits? (cs : List Char) : Option (List Char) :=
  (digits? Text.isDigit cs).bind fun ds =>
    if ds.length ≠ 1 && ds.head? = some '0' then none else some ds

/-- The value of digits in a base. -/
def baseValue (base : Nat) (ds : List Char) : Nat :=
  ds.foldl (fun n c => base * n + (Text.hexValue? c).getD 0) 0

/-- A whole number in a base other than ten. -/
def based? (base : Nat) (cs : List Char) : Option Int :=
  (digits? (fun c => (Text.hexValue? c).any (· < base)) cs).map fun ds => baseValue base ds

/-- The sign of a number, and the rest. -/
def signed (cs : List Char) : Bool × List Char :=
  match cs with
  | '-' :: cs => (true, cs)
  | '+' :: cs => (false, cs)
  | cs => (false, cs)

/-- A whole number. -/
def integer? (cs : List Char) : Option Int :=
  match cs with
  | '0' :: 'x' :: cs => based? 16 cs
  | '0' :: 'o' :: cs => based? 8 cs
  | '0' :: 'b' :: cs => based? 2 cs
  | cs =>
    let (negative, cs) := signed cs
    (wholeDigits? cs).map fun ds =>
      let size : Int := Text.digitsValue ds
      if negative then -size else size

/-- The fraction of a number, where there is one. -/
def fraction? : List Char → Option (List Char)
  | [] => some []
  | '.' :: cs => digits? Text.isDigit cs
  | _ => none

/-- The exponent of a number, where there is one. -/
def exponent? : List Char → Option Int
  | [] => some 0
  | _ :: cs =>
    let (negative, cs) := signed cs
    (digits? Text.isDigit cs).map fun ds =>
      let size : Int := Text.digitsValue ds
      if negative then -size else size

/-- A binary64 number with a fraction or an exponent; one that is too large is refused. -/
def decimal? (negative : Bool) (cs : List Char) : Option Binary64 := do
  let whole := cs.takeWhile fun c => c ≠ '.' && c ≠ 'e' && c ≠ 'E'
  let rest := cs.drop whole.length
  let part := rest.takeWhile fun c => c ≠ 'e' && c ≠ 'E'
  let wholeDigits ← wholeDigits? whole
  let partDigits ← fraction? part
  let exponent ← exponent? (rest.drop part.length)
  match Decimal.toBinary64 negative
      ⟨Text.digitsValue (wholeDigits ++ partDigits), exponent - partDigits.length⟩ with
  | .finite x => some (.finite x)
  | _ => none

/-- A binary64 number. -/
def number? (cs : List Char) : Option Binary64 :=
  let (negative, cs) := signed cs
  if cs = ['i', 'n', 'f'] then some (.infinite negative)
  else if cs = ['n', 'a', 'n'] then some .nan
  else decimal? negative cs

/-- A character of a number or of a truth value. -/
def isWordChar (c : Char) : Bool := c.isAlphanum || c = '_' || c = '-' || c = '+' || c = '.'

/-- **A number or a truth value** from all of its characters. -/
def word? (cs : List Char) : Option Tree :=
  if cs = ['t', 'r', 'u', 'e'] then some (.truth true)
  else if cs = ['f', 'a', 'l', 's', 'e'] then some (.truth false)
  else match integer? cs with
    | some i => (signedWord? i).map fun w => .integer w.toInt
    | none => (number? cs).map .number

end Sift.Settings.Toml
