/-
  Sift.Json.Parser
  ────────────────
  **Strict reading of JSON text.**

  The grammar of RFC 8259 and nothing besides: blanks are space, tab, line feed and carriage
  return; control characters below U+0020 do not stand in strings; surrogate escapes come in
  pairs; a number past the binary64 range is refused; arrays and objects are nested fewer than
  `nestingLimit` levels; nothing follows the value.

  Each reader takes the remaining characters and gives the value with what is left.  The fuel
  of the recursive readers is the length of the text, which no reader can exceed since each
  step takes a character.
-/
import Sift.Binary64.Scaled
import Sift.Json.Basic

namespace Sift.Json.Reader

/-- Values nested this deeply are refused. -/
def nestingLimit : Nat := 128

/-- A character between tokens. -/
def isSpace (c : Char) : Bool := c = ' ' || c = '\t' || c = '\n' || c = '\r'

/-- The text from the next token on. -/
def skipSpace (cs : List Char) : List Char := cs.dropWhile isSpace

/-! ## §1. Numbers -/

/-- The digits of a number's whole part: a single zero, or digits that do not start with one. -/
def wholePart? (cs : List Char) : Option (List Char × List Char) :=
  match cs with
  | '0' :: rest => some (['0'], rest)
  | cs =>
    let (ds, rest) := Text.spanDigits cs
    if ds.isEmpty then none else some (ds, rest)

/-- The digits after the point, where there is a point. -/
def fraction? : List Char → Option (Option (List Char) × List Char)
  | '.' :: cs =>
    let (ds, rest) := Text.spanDigits cs
    if ds.isEmpty then none else some (some ds, rest)
  | cs => some (none, cs)

/-- The exponent, where there is one. -/
def exponent? : List Char → Option (Option Int × List Char)
  | c :: cs =>
    if c = 'e' || c = 'E' then
      let (negative, cs) := match cs with
        | '-' :: cs => (true, cs)
        | '+' :: cs => (false, cs)
        | cs => (false, cs)
      let (ds, rest) := Text.spanDigits cs
      let size : Int := Text.digitsValue ds
      -- An exponent without digits is an error, not the end of the number.
      if ds.isEmpty then none else some (some (if negative then -size else size), rest)
    else some (none, c :: cs)
  | [] => some (none, [])

/-- The value of a number's parts.  Without fraction and exponent it is a whole number where it
fits 64 bits, except that a negative zero keeps its sign as a binary64 number.  Any other number is
its leading digits scaled in binary64. -/
def numberValue? (negative : Bool) (whole : List Char) (part : Option (List Char))
    (exponent : Option Int) : Option Json :=
  let float? :=
    let d := ((⟨0, 0⟩ : Decimal).withWhole whole).withFraction (part.getD [])
    (Decimal.scaled? negative { d with exponent := d.exponent + exponent.getD 0 }).map fun x =>
      num (.float x)
  -- A point or an exponent makes it a binary64 number, whole or not.
  if part.isSome || exponent.isSome then float?
  else
    let size : Int := Text.digitsValue whole
    let i := if negative then -size else size
    -- `-0` and what fits neither kind of word are binary64 numbers as well.
    if h : (-9223372036854775808 ≤ i ∧ i < 18446744073709551616) ∧ (negative = true → i ≠ 0) then
      some (num (.int i h.1.1 h.1.2))
    else float?

/-- A number. -/
def number? (cs : List Char) : Option (Json × List Char) := do
  let (negative, cs) := match cs with
    | '-' :: cs => (true, cs)
    | cs => (false, cs)
  let (whole, cs) ← wholePart? cs
  let (part, cs) ← fraction? cs
  let (exponent, cs) ← exponent? cs
  let value ← numberValue? negative whole part exponent
  return (value, cs)

/-! ## §2. Strings -/

/-- Four hexadecimal digits. -/
def hexQuad? : List Char → Option (Nat × List Char)
  | a :: b :: c :: d :: rest => do
    let a ← Text.hexValue? a
    let b ← Text.hexValue? b
    let c ← Text.hexValue? c
    let d ← Text.hexValue? d
    return (((a * 16 + b) * 16 + c) * 16 + d, rest)
  | _ => none

/-- The character of a `\u` escape.  A leading surrogate is followed by the escape of a
trailing one. -/
def unicodeEscape? (cs : List Char) : Option (Char × List Char) := do
  let (n, rest) ← hexQuad? cs
  if n < 0xD800 || 0xDFFF < n then return (Char.ofNat n, rest)
  else if 0xDBFF < n then none
  else match rest with
    | '\\' :: 'u' :: rest => do
      let (m, rest) ← hexQuad? rest
      if 0xDC00 ≤ m && m ≤ 0xDFFF then
        return (Char.ofNat (0x10000 + (n - 0xD800) * 0x400 + (m - 0xDC00)), rest)
      else none
    | _ => none

/-- The character of the escape whose letter is given. -/
def letterEscape? (c : Char) : Option Char :=
  if c = '"' || c = '\\' || c = '/' then some c
  else if c = 'b' then some (Char.ofNat 8)
  else if c = 'f' then some (Char.ofNat 12)
  else if c = 'n' then some '\n'
  else if c = 'r' then some '\r'
  else if c = 't' then some '\t'
  else none

/-- The rest of a string after its opening quote; `done` holds its characters in reverse. -/
def stringRest? : Nat → List Char → List Char → Option (String × List Char)
  | 0, _, _ => none
  | _ + 1, _, [] => none
  | fuel + 1, done, c :: cs =>
    if c = '"' then some (String.ofList done.reverse, cs)
    else if c = '\\' then
      match cs with
      | 'u' :: cs =>
        match unicodeEscape? cs with
        | some (c, cs) => stringRest? fuel (c :: done) cs
        | none => none
      | e :: cs =>
        match letterEscape? e with
        | some c => stringRest? fuel (c :: done) cs
        | none => none
      | [] => none
    -- Control characters must be escaped.
    else if c.toNat < 32 then none
    else stringRest? fuel (c :: done) cs

def string? : List Char → Option (String × List Char)
  | '"' :: cs => stringRest? cs.length.succ [] cs
  | _ => none

/-! ## §3. Values -/

/-- A word that stands for a value. -/
def word? (word : List Char) (value : Json) (cs : List Char) : Option (Json × List Char) :=
  if word.isPrefixOf cs then some (value, cs.drop word.length) else none

mutual
/-- A value at the start of a token; `room` counts the levels it may still nest. -/
def value? : Nat → Nat → List Char → Option (Json × List Char)
  | 0, _, _ => none
  | fuel + 1, room, cs =>
    match cs with
    | [] => none
    | c :: rest =>
      if c = 'n' then word? ['n', 'u', 'l', 'l'] null cs
      else if c = 't' then word? ['t', 'r', 'u', 'e'] (bool true) cs
      else if c = 'f' then word? ['f', 'a', 'l', 's', 'e'] (bool false) cs
      else if c = '"' then (string? cs).map fun (s, rest) => (str s, rest)
      else if c = '[' then
        if room ≤ 1 then none
        else match skipSpace rest with
          -- The bracket may close the array only here: after a comma it is an error.
          | ']' :: rest => some (arr [], rest)
          | rest => (items? fuel (room - 1) [] rest).map fun (items, rest) => (arr items, rest)
      else if c = '\x7b' then
        if room ≤ 1 then none
        else match skipSpace rest with
          | '\x7d' :: rest => some (obj [], rest)
          | rest => (members? fuel (room - 1) [] rest).map fun (ms, rest) => (object ms, rest)
      else number? cs

/-- Items up to the closing bracket; `done` holds the items before, in reverse. -/
def items? : Nat → Nat → List Json → List Char → Option (List Json × List Char)
  | 0, _, _, _ => none
  | fuel + 1, room, done, cs =>
    match value? fuel room cs with
    | none => none
    | some (item, rest) =>
      match skipSpace rest with
      | ',' :: rest => items? fuel room (item :: done) (skipSpace rest)
      | ']' :: rest => some ((item :: done).reverse, rest)
      | _ => none

/-- Members up to the closing brace, in the order of the text. -/
def members? : Nat → Nat → List (String × Json) → List Char →
    Option (List (String × Json) × List Char)
  | 0, _, _, _ => none
  | fuel + 1, room, done, cs =>
    match string? cs with
    | none => none
    | some (key, rest) =>
      match skipSpace rest with
      | ':' :: rest =>
        match value? fuel room (skipSpace rest) with
        | none => none
        | some (value, rest) =>
          match skipSpace rest with
          | ',' :: rest => members? fuel room ((key, value) :: done) (skipSpace rest)
          -- The members are in the order of the text; `object` sorts them.
          | '\x7d' :: rest => some (((key, value) :: done).reverse, rest)
          | _ => none
      | _ => none
end

end Reader

open Reader in
/-- **The value that a text denotes**, blanks around it aside. -/
def ofChars? (cs : List Char) : Option Json :=
  match value? (2 * cs.length + 2) nestingLimit (skipSpace cs) with
  | some (value, rest) => if (skipSpace rest).isEmpty then some value else none
  | none => none

/-- The value that a text denotes. -/
def parse? (s : String) : Option Json := ofChars? s.toList

end Sift.Json
