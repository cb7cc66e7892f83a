/-
  Sift.Pattern.Syntax
  ───────────────────
  **The pieces of a pattern's text: flags, escapes and single characters.**

  `escape?` reads what follows a backslash.  What a piece means depends on the flags in force:
  whether case counts, whether classes are those of Unicode or of ASCII, whether blanks and
  comments in the pattern are skipped.  A pattern only ever matches whole characters, so a piece
  that could match half of one is refused.
-/
import Sift.Pattern.Search
import Sift.Text.Blank
import Sift.Text.Digits
import Sift.Unicode.Age
import Sift.Unicode.Folding
import Sift.Unicode.Segmentation

namespace Sift.Pattern

open Sift.Unicode

/-! ## §1. Flags -/

/-- The flags in force at some place of a pattern. -/
structure Flags where
  /-- `i`: case does not count. -/
  caseless : Bool := false
  /-- `m`: `^` and `$` match at line ends. -/
  multiline : Bool := false
  /-- `s`: the dot matches a line feed too. -/
  dotAll : Bool := false
  /-- `R`: a carriage return ends lines too. -/
  crlf : Bool := false
  /-- `u`: classes are those of Unicode. -/
  unicode : Bool := true
  /-- `x`: blanks and comments of the pattern are skipped. -/
  verbose : Bool := false
  /-- `U`: repetitions prefer fewer rounds, and more rounds with the mark for fewer. -/
  swapGreed : Bool := false
deriving DecidableEq

/-- The characters that classes and words are taken from. -/
def Flags.repertoire (f : Flags) : Repertoire := if f.unicode then .unicode else .ascii

/-- Sets the flag of that letter. -/
def Flags.set? (f : Flags) (letter : Char) (on : Bool) : Option Flags :=
  if letter = 'i' then some { f with caseless := on }
  else if letter = 'm' then some { f with multiline := on }
  else if letter = 's' then some { f with dotAll := on }
  else if letter = 'R' then some { f with crlf := on }
  else if letter = 'u' then some { f with unicode := on }
  else if letter = 'x' then some { f with verbose := on }
  else if letter = 'U' then some { f with swapGreed := on }
  else none

/-- The text from the next piece on: with `verbose`, blanks and comments up to the end of their
line are skipped. -/
def skipComment : Bool → List Char → List Char
  | _, [] => []
  | true, c :: cs => if c = '\n' then skipComment false cs else skipComment true cs
  | false, c :: cs =>
    if Text.isBlank c then skipComment false cs
    else if c = '#' then skipComment true cs
    else c :: cs

/-- The text from the next piece on. -/
def Flags.skip (f : Flags) (cs : List Char) : List Char :=
  if f.verbose then skipComment false cs else cs

/-! ## §2. Characters of words, digits and spaces -/

/-- The ASCII letters and digits. -/
def asciiAlnum : Ranges := [(48, 57), (65, 90), (97, 122)]

/-- The pairs of ASCII letters that are equal up to case. -/
def asciiOrbits : List (List Nat) := (List.range 26).map fun i => [65 + i, 97 + i]

/-- The ASCII parts of words. -/
def asciiWord : CharSet := .ofRanges ((95, 95) :: asciiAlnum)

/-- The parts of words. -/
def unicodeWord : CharSet :=
  .unions [tabled "alphabetic", categories ["mn", "mc", "me", "nd", "pc"], tabled "joincontrol"]

/-- The parts of words, for both kinds. -/
def wordSets : WordSets := ⟨unicodeWord, asciiWord⟩

/-- The set without regard to case, where the flags say so. -/
def Flags.fold (f : Flags) (s : CharSet) : CharSet :=
  if f.caseless then s.folded (if f.unicode then foldingOrbits else asciiOrbits) else s

/-- The complement, where it is asked for.  Without Unicode a complement would hold bytes that
are no characters. -/
def Flags.negate? (f : Flags) (negated : Bool) (s : CharSet) : Option CharSet :=
  if negated then (if f.unicode then some s.compl else none) else some s

/-- The class of a letter after a backslash: digits, spaces or parts of words. -/
def Flags.perlClass? (f : Flags) (letter : Char) : Option CharSet :=
  let base? :=
    if letter.toLower = 'd' then
      if f.unicode then generalCategory? "nd" else some (.span 48 57)
    else if letter.toLower = 's' then
      if f.unicode then property? "whitespace" else some (.ofRanges [(9, 13), (32, 32)])
    else some (if f.unicode then unicodeWord else asciiWord)
  base?.bind (f.negate? letter.isUpper)

/-! ## §3. Classes of Unicode properties -/

/-- **The loose form of a name**: small ASCII letters without blanks, hyphens, underscores and a
leading `is`. -/
def looseName (name : List Char) : String :=
  let (dropped, name) := match name with
    | a :: b :: rest => if a.toLower = 'i' && b.toLower = 's' then (true, rest) else (false, name)
    | name => (false, name)
  let kept := (name.filter fun c => c ≠ ' ' && c ≠ '_' && c ≠ '-' && c.toNat < 128).map Char.toLower
  if dropped && kept = ['c'] then "isc" else String.ofList kept

/-- The class of a name that stands alone.  Three names are short for a category and for a
property of another kind; they mean the category. -/
def namedClass? (name : String) : Option CharSet :=
  let own := if name = "cf" || name = "sc" || name = "lc" then none else property? name
  own.or ((generalCategory? name).or (script? name))

/-- The class of the characters whose property has a value. -/
def valueClass? (property value : String) : Option CharSet :=
  if property = "gc" || property = "generalcategory" then generalCategory? value
  else if property = "sc" || property = "script" then script? value
  else if property = "scx" || property = "scriptextensions" then scriptExtension? value
  else if property = "age" then age? value
  else if property = "gcb" || property = "graphemeclusterbreak" then
    breakValue? graphemeValues value
  else if property = "wb" || property = "wordbreak" then breakValue? wordValues value
  else if property = "sb" || property = "sentencebreak" then breakValue? sentenceValues value
  else none

/-- Splits a text at the first place where `separator` stands. -/
def splitAt? (separator : List Char) : List Char → List Char → Option (List Char × List Char)
  | _, [] => none
  | before, c :: cs =>
    if separator.isPrefixOf (c :: cs) then
      some (before.reverse, (c :: cs).drop separator.length)
    else splitAt? separator (c :: before) cs

/-- The class named between braces, and whether its spelling negates it. -/
def bracedClass? (content : List Char) : Option (Bool × CharSet) :=
  let valued (negated : Bool) (parts : List Char × List Char) :=
    (valueClass? (looseName parts.1) (looseName parts.2)).map (negated, ·)
  match splitAt? ['!', '='] [] content with
  | some parts => valued true parts
  | none => match splitAt? [':'] [] content with
    | some parts => valued false parts
    | none => match splitAt? ['='] [] content with
      | some parts => valued false parts
      | none => (namedClass? (looseName content)).map (false, ·)

/-- The text up to a closing brace, skipped places left out, and the text after the brace. -/
def untilBrace? (f : Flags) : Nat → List Char → List Char → Option (List Char × List Char)
  | 0, _, _ => none
  | fuel + 1, done, cs =>
    match f.skip cs with
    | [] => none
    | c :: rest =>
      if c = '\x7d' then some (done.reverse, rest) else untilBrace? f fuel (c :: done) rest

/-- The class after `\p` or `\P`. -/
def propertyClass? (f : Flags) (negated : Bool) (cs : List Char) :
    Option (CharSet × List Char) := do
  let (flipped, set, rest) ← match f.skip cs with
    | [] => none
    | c :: rest =>
      if c = '\x7b' then
        (untilBrace? f rest.length.succ [] rest).bind fun (content, rest) =>
          (bracedClass? content).map fun (flipped, set) => (flipped, set, rest)
      else if c = '\\' then none
      else (namedClass? (looseName [c])).map fun set => (false, set, f.skip rest)
  -- Classes by property need the Unicode tables, which are off without the flag.
  if f.unicode then
    return (← f.negate? (negated != flipped) (f.fold set), rest)
  else none

/-! ## §4. Escapes -/

/-- A single piece of a pattern. -/
inductive Primitive where
  /-- A character; `byte` marks one that is spelled as a byte. -/
  | literal (c : Char) (byte : Bool)
  | set (s : CharSet)
  | look (l : Look)

/-- The character of a code point. -/
def scalar? (n : Nat) : Option Char := if n.isValidChar then some (Char.ofNat n) else none

/-- Exactly `count` hexadecimal digits; `value` is the number read before them. -/
def hexDigits? (f : Flags) : Nat → Nat → List Char → Option (Nat × List Char)
  | 0, value, cs => some (value, cs)
  | count + 1, value, cs =>
    match f.skip cs with
    | [] => none
    | c :: rest => (Text.hexValue? c).bind fun d => hexDigits? f count (value * 16 + d) rest

/-- A character by its number: in braces, or by a fixed count of digits. -/
def hexEscape? (f : Flags) (letter : Char) (cs : List Char) : Option (Primitive × List Char) :=
  match f.skip cs with
  | [] => none
  | c :: rest =>
    if c = '\x7b' then do
      let (content, rest) ← untilBrace? f rest.length.succ [] rest
      if content.isEmpty then none
      let digits ← content.mapM Text.hexValue?
      let c ← scalar? (digits.foldl (fun n d => n * 16 + d) 0)
      return (.literal c false, f.skip rest)
    else do
      let count := if letter = 'x' then 2 else if letter = 'u' then 4 else 8
      let (n, rest) ← hexDigits? f count 0 (c :: rest)
      -- Only `\x` with two digits can stand for a byte.
      return (.literal (← scalar? n) (letter = 'x'), f.skip rest)

/-- The name of a special boundary: letters and hyphens up to a closing brace. -/
def boundaryName? (f : Flags) : Nat → List Char → List Char → Option (List Char × List Char)
  | 0, _, _ => none
  | fuel + 1, done, cs =>
    match f.skip cs with
    | [] => none
    | c :: rest =>
      if c = '\x7d' then some (done.reverse, rest)
      else if c.isAlpha || c = '-' then boundaryName? f fuel (c :: done) rest
      else none

/-- What follows `\b`.  A brace whose content starts like a name has to name a special boundary;
any other brace is left for the repetition it belongs to. -/
def boundary? (f : Flags) (cs : List Char) : Option (Look × List Char) :=
  match cs with
  | '\x7b' :: rest =>
    match f.skip rest with
    | [] => none
    | c :: rest =>
      if c.isAlpha || c = '-' then
        (boundaryName? f (rest.length + 2) [] (c :: rest)).bind fun (name, rest) =>
          let name := String.ofList name
          if name = "start" then some (.wordStart f.repertoire, rest)
          else if name = "end" then some (.wordFinish f.repertoire, rest)
          else if name = "start-half" then some (.wordStartHalf f.repertoire, rest)
          else if name = "end-half" then some (.wordFinishHalf f.repertoire, rest)
          else none
      -- A brace without a name after it is a repetition of the boundary.
      else some (.wordBoundary f.repertoire, cs)
  | cs => some (.wordBoundary f.repertoire, cs)

/-- A character that stands for itself after a backslash: any ASCII character but letters,
digits and angle brackets. -/
def isEscapable (c : Char) : Bool :=
  c.toNat < 128 && !c.isAlphanum && c ≠ '<' && c ≠ '>'

/-- **What follows a backslash.** -/
def escape? (f : Flags) : List Char → Option (Primitive × List Char)
  | [] => none
  | c :: cs =>
    -- Neither back references nor octal escapes.
    if c.isDigit then none
    else if c = 'x' || c = 'u' || c = 'U' then hexEscape? f c cs
    else if c = 'p' || c = 'P' then
      (propertyClass? f (c = 'P') cs).map fun (s, rest) => (.set s, rest)
    else if ['d', 's', 'w', 'D', 'S', 'W'].contains c then
      (f.perlClass? c).map fun s => (.set s, cs)
    else if isEscapable c then some (.literal c false, cs)
    else if c = 'a' then some (.literal (Char.ofNat 7) false, cs)
    else if c = 'f' then some (.literal (Char.ofNat 12) false, cs)
    else if c = 't' then some (.literal '\t' false, cs)
    else if c = 'n' then some (.literal '\n' false, cs)
    else if c = 'r' then some (.literal '\r' false, cs)
    else if c = 'v' then some (.literal (Char.ofNat 11) false, cs)
    else if c = 'A' then some (.look .start, cs)
    else if c = 'z' then some (.look .finish, cs)
    else if c = 'b' then (boundary? f cs).map fun (l, rest) => (.look l, rest)
    else if c = 'B' then some (.look (.notWordBoundary f.repertoire), cs)
    else if c = '<' then some (.look (.wordStart f.repertoire), cs)
    else if c = '>' then some (.look (.wordFinish f.repertoire), cs)
    else none

/-- A character as a set.  Without Unicode, a byte past ASCII is no character. -/
def Flags.literal? (f : Flags) (c : Char) (byte : Bool) : Option CharSet :=
  if byte && !f.unicode && 128 ≤ c.toNat then none else some (f.fold (.single c))

end Sift.Pattern
