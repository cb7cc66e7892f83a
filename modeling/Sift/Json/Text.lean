/-
  Sift.Json.Text
  ──────────────
  **The compact text of a JSON value.**

  No blanks, members in the order they are kept in, and in strings only the quote, the
  backslash and the control characters below U+0020 escaped.  Floating-point numbers are
  written with the fewest digits that read back, always with a point or an exponent.
-/
import Sift.Json.Basic
import Sift.Binary64.Shortest

namespace Sift.Json

/-! ## §1. Numbers -/

/-- **Number layout.**  Positional from `10^-5` up to below `10^16`, whole numbers with `.0`,
otherwise an exponent with its sign; a half goes to the even digit. -/
def numberLayout : Binary64.Layout where
  lowest := some (-5)
  highest := some 15
  pointZero := true
  plus := true
  tie := .even

/-- The text of a number. -/
def Number.chars : Number → List Char
  | .int i _ _ => Text.intDigits i
  | .float x => numberLayout.finite x

/-! ## §2. Strings -/

def hexDigit (n : Nat) : Char := Nat.digitChar n

/-- One character of a string. -/
def escapeChar (c : Char) : List Char :=
  if c = '"' then ['\\', '"']
  else if c = '\\' then ['\\', '\\']
  else if c.toNat = 8 then ['\\', 'b']
  else if c.toNat = 9 then ['\\', 't']
  else if c.toNat = 10 then ['\\', 'n']
  else if c.toNat = 12 then ['\\', 'f']
  else if c.toNat = 13 then ['\\', 'r']
  else if c.toNat < 32 then
    ['\\', 'u', '0', '0', hexDigit (c.toNat / 16), hexDigit (c.toNat % 16)]
  else [c]

/-- A string with its quotes. -/
def quoted (s : String) : List Char := '"' :: s.toList.flatMap escapeChar ++ ['"']

/-! ## §3. Values -/

mutual
/-- The characters of a value's text. -/
def chars : Json → List Char
  | null => ['n', 'u', 'l', 'l']
  | bool true => ['t', 'r', 'u', 'e']
  | bool false => ['f', 'a', 'l', 's', 'e']
  | num n => n.chars
  | str s => quoted s
  | arr [] => ['[', ']']
  | arr (j :: rest) => '[' :: chars j ++ itemChars rest
  | obj [] => ['\x7b', '\x7d']
  | obj ((k, j) :: rest) => '\x7b' :: quoted k ++ ':' :: chars j ++ memberChars rest
termination_by structural j => j

/-- The items after the first, up to the closing bracket. -/
def itemChars : List Json → List Char
  | [] => [']']
  | j :: rest => ',' :: chars j ++ itemChars rest
termination_by structural js => js

/-- The members after the first, up to the closing brace. -/
def memberChars : List (String × Json) → List Char
  | [] => ['\x7d']
  | (k, j) :: rest => ',' :: quoted k ++ ':' :: chars j ++ memberChars rest
termination_by structural ms => ms
end

/-- The compact text of a value. -/
def text (j : Json) : String := String.ofList j.chars

/-- The text a value is shown as: a string stands for itself, any other value for its JSON
text. -/
def shown : Json → String
  | str s => s
  | j => j.text

end Sift.Json
