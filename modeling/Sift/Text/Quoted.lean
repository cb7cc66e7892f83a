/-
  Sift.Text.Quoted
  ────────────────
  **Quoted texts, as descriptions of forms and registers show them.**

  Quotes, backslashes and the usual control characters are escaped by a letter.  Every other
  character that would not show, or that would join the character before it, is written by
  its code point in hexadecimal.
-/
import Sift.Unicode.Property
import Sift.Unicode.Recent

namespace Sift.Text

open Unicode

/-- The general categories of the characters that do not show. -/
def hiddenCategories : List String := ["cc", "cf", "co", "cn", "zl", "zp", "zs"]

/-- The voicing marks of half width.  They continue what is before them, yet stand beside it. -/
def voicingMarks : CharSet := .span 0xFF9E 0xFF9F

/-- The characters that are written by their code point: those that do not show, and those that
continue what is before them.  Among the plain ASCII characters there is none. -/
def hiddenSet : CharSet :=
  CharSet.diff
    (.unions (tabled "graphemeextend" :: tabled "defaultignorablecodepoint"
      :: hiddenCategories.filterMap generalCategory?))
    (recentShown.union voicingMarks)

/-- A printing ASCII character, the space included. -/
def isPlain (c : Char) : Bool := 32 ≤ c.toNat && c.toNat ≤ 126

/-- A character that is written by its code point. -/
def isHidden (c : Char) : Bool := !isPlain c && hiddenSet.contains c

/-- One character of a quoted text. -/
def quoteChar (c : Char) : List Char :=
  if c = '"' then ['\\', '"']
  else if c = '\\' then ['\\', '\\']
  else if c = '\n' then ['\\', 'n']
  else if c = '\t' then ['\\', 't']
  else if c = '\r' then ['\\', 'r']
  else if c.toNat = 0 then ['\\', '0']
  else if isHidden c then ['\\', 'u', '\x7b'] ++ Nat.toDigits 16 c.toNat ++ ['\x7d']
  else [c]

/-- **A text in quotes.** -/
def quoted (s : String) : String :=
  String.ofList ('"' :: s.toList.flatMap quoteChar ++ ['"'])

def bracketed (texts : List String) : String :=
  "[" ++ String.intercalate ", " texts ++ "]"

/-- An optional part of a description. -/
def optional (shown : α → String) : Option α → String
  | none => "None"
  | some a => "Some(" ++ shown a ++ ")"

/-- A description with named parts. -/
def record (name : String) (parts : List (String × String)) : String :=
  name ++ " \x7b " ++ String.intercalate ", " (parts.map fun p => p.1 ++ ": " ++ p.2)
    ++ " \x7d"

end Sift.Text
