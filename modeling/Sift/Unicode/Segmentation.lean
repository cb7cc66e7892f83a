/-
  Sift.Unicode.Segmentation
  ─────────────────────────
  **Where a text can be broken: into characters as a reader sees them, into words and into
  sentences.**

  Each of the three divisions gives every character one value.  The rules of the standard say
  what the values are made of: properties, categories and short lists of exceptions.  The value
  `Other`, of all characters that no rule names, is no class.  Names are in loose form: small
  letters alone.
-/
import Sift.Unicode.Property
import Sift.Unicode.Script

namespace Sift.Unicode

/-- A value of a division: its names and its characters. -/
structure BreakValue where
  names : List String
  set : CharSet

/-! ## §1. What the rules share -/

/-- The characters of these code points and ranges of code points. -/
def listed (codes : List Nat) (ranges : Ranges) : CharSet :=
  .ofRanges (codes.map (fun n => (n, n)) ++ ranges)

def carriageReturn : CharSet := .span 0x0D 0x0D

def lineFeed : CharSet := .span 0x0A 0x0A

def zeroWidthJoiner : CharSet := .span 0x200D 0x200D

/-- The marks that continue what is before them. -/
def continuing : CharSet := tabled "graphemeextend"

/-- The marks and the spacing marks. -/
def marking : CharSet := continuing.union (categories ["mc"])

/-- The modifiers of the skin tone of a picture. -/
def skinTones : CharSet := tabled "emojimodifier"

/-- The signs that stand before a number and go around it. -/
def prefixed : CharSet := tabled "prependedconcatenationmark"

/-- The letters that flags are made of. -/
def flagLetters : CharSet := tabled "regionalindicator"

/-- The invisible format characters that neither join nor separate. -/
def formatting : CharSet :=
  (categories ["cf"]).diff (.unions [continuing, prefixed, zeroWidthJoiner])

/-- The digits, with what is written like a part of a number. -/
def numeric : CharSet :=
  .unions [categories ["nd"], prefixed.diff (.span 0x70F 0x70F), listed [0x66B, 0x19DA] []]

/-! ## §2. Characters as a reader sees them -/

/-- The first code points of the syllables of two letters; each is followed by the 27 syllables
that close it with a third. -/
def openSyllables : List Nat := (List.range 399).map fun k => 0xAC00 + 28 * k

/-- The controls, and the code points set aside for such. -/
def controls : CharSet :=
  let reserved := (tabled "defaultignorablecodepoint").diff (categories assignedNames)
  CharSet.diff (.unions [categories ["zl", "zp", "cc", "cf"], reserved])
    (.unions [carriageReturn, lineFeed, prefixed, continuing, zeroWidthJoiner])

/-- The spacing marks that do not join the character before. -/
def detachedMarks : CharSet :=
  listed [0x1038, 0x108F, 0x1A61, 0xAA7B, 0xAA7D]
    [(0x102B, 0x102C), (0x1062, 0x1064), (0x1067, 0x106D), (0x1083, 0x1083), (0x1087, 0x108C),
      (0x109A, 0x109C), (0x1A63, 0x1A64), (0x11720, 0x11721)]

/-- The values of the division into characters as a reader sees them. -/
def graphemeValues : List BreakValue := [
  ⟨["cn", "control"], controls⟩,
  ⟨["cr"], carriageReturn⟩,
  ⟨["ex", "extend"], continuing.union skinTones⟩,
  ⟨["l"], listed [] [(0x1100, 0x115F), (0xA960, 0xA97C)]⟩,
  ⟨["lf"], lineFeed⟩,
  ⟨["lv"], .ofCodes openSyllables⟩,
  ⟨["lvt"], .ofRanges (openSyllables.map fun n => (n + 1, n + 27))⟩,
  ⟨["pp", "prepend"], prefixed.union
    (listed [0xD4E, 0x113D1, 0x1193F, 0x11941, 0x11A3A, 0x11D46, 0x11F02]
      [(0x111C2, 0x111C3), (0x11A84, 0x11A89)])⟩,
  ⟨["ri", "regionalindicator"], flagLetters⟩,
  ⟨["sm", "spacingmark"],
    ((categories ["mc"]).diff (continuing.union detachedMarks)).union (listed [0xE33, 0xEB3] [])⟩,
  ⟨["t"], listed [] [(0x11A8, 0x11FF), (0xD7CB, 0xD7FB)]⟩,
  ⟨["v"], listed [0x16D63] [(0x1160, 0x11A7), (0xD7B0, 0xD7C6), (0x16D67, 0x16D6A)]⟩,
  ⟨["zwj"], zeroWidthJoiner⟩]

/-! ## §3. Words -/

/-- The characters of the syllabary that words are divided by. -/
def syllabary : CharSet :=
  (CharSet.ofTable ((scriptTable? "katakana").elim [] (·.table))).union
    (listed [0x30A0, 0x30FC, 0xFF70] [(0x3031, 0x3035), (0x309B, 0x309C)])

/-- The letters that count their single quotes as letters' marks. -/
def quotingLetters : CharSet :=
  (CharSet.ofTable ((scriptTable? "hebrew").elim [] (·.table))).inter (categories ["lo"])

/-- The letters of scripts that are written without spaces between words. -/
def unspaced : CharSet :=
  listed
    [0xE84, 0xEA5, 0xEBD, 0xEC6, 0x103F, 0x1061, 0x108E, 0x17D7, 0x17DC, 0x1AA7, 0xAA7A, 0xAAB1,
     0xAAC0, 0xAAC2]
    [(0xE01, 0xE30), (0xE32, 0xE33), (0xE40, 0xE46), (0xE81, 0xE82), (0xE86, 0xE8A),
     (0xE8C, 0xEA3), (0xEA7, 0xEB0), (0xEB2, 0xEB3), (0xEC0, 0xEC4), (0xEDC, 0xEDF),
     (0x1000, 0x102A), (0x1050, 0x1055), (0x105A, 0x105D), (0x1065, 0x1066), (0x106E, 0x1070),
     (0x1075, 0x1081), (0x1780, 0x17B3), (0x1950, 0x196D), (0x1970, 0x1974), (0x1980, 0x19AB),
     (0x19B0, 0x19C9), (0x1A20, 0x1A54), (0xA9E0, 0xA9E4), (0xA9E6, 0xA9EF), (0xA9FA, 0xA9FE),
     (0xAA60, 0xAA76), (0xAA7E, 0xAAAF), (0xAAB5, 0xAAB6), (0xAAB9, 0xAABD), (0xAADB, 0xAADD),
     (0x11700, 0x1171A), (0x11740, 0x11746)]

/-- The signs that are used like letters. -/
def letterlike : CharSet :=
  listed [0x2ED, 0x55E, 0x58A, 0x5F3, 0x70F, 0xAB5B]
    [(0x2C2, 0x2C5), (0x2D2, 0x2D7), (0x2DE, 0x2DF), (0x2E5, 0x2EB), (0x2EF, 0x2FF),
      (0x55A, 0x55C), (0xA708, 0xA716), (0xA720, 0xA721), (0xA789, 0xA78A)]

/-- The letters that words are made of. -/
def wordLetters : CharSet :=
  let apart := [tabled "ideographic", syllabary, marking, quotingLetters, unspaced,
    .ofTable ((scriptTable? "hiragana").elim [] (·.table))]
  ((tabled "alphabetic").diff (.unions apart)).union letterlike

/-- The values of the division into words. -/
def wordValues : List BreakValue := [
  ⟨["le", "aletter"], wordLetters⟩,
  ⟨["cr"], carriageReturn⟩,
  ⟨["dq", "doublequote"], .single '"'⟩,
  ⟨["extend"], (marking.union skinTones).diff zeroWidthJoiner⟩,
  ⟨["ex", "extendnumlet"], (categories ["pc"]).union (.span 0x202F 0x202F)⟩,
  ⟨["fo", "format"], formatting.diff (.span 0x200B 0x200B)⟩,
  ⟨["hl", "hebrewletter"], quotingLetters⟩,
  ⟨["ka", "katakana"], syllabary⟩,
  ⟨["lf"], lineFeed⟩,
  ⟨["ml", "midletter"],
    listed [0x3A, 0xB7, 0x387, 0x55F, 0x5F4, 0x2027, 0xFE13, 0xFE55, 0xFF1A] []⟩,
  ⟨["mn", "midnum"],
    listed [0x2C, 0x3B, 0x37E, 0x589, 0x60C, 0x60D, 0x66C, 0x7F8, 0x2044, 0xFE50, 0xFE54, 0xFF0C,
      0xFF1B] []⟩,
  ⟨["mb", "midnumlet"], listed [0x2E, 0x2018, 0x2019, 0x2024, 0xFE52, 0xFF07, 0xFF0E] []⟩,
  ⟨["nl", "newline"], listed [0x85] [(0x0B, 0x0C), (0x2028, 0x2029)]⟩,
  ⟨["nu", "numeric"], numeric⟩,
  ⟨["ri", "regionalindicator"], flagLetters⟩,
  ⟨["sq", "singlequote"], .span 0x27 0x27⟩,
  ⟨["wsegspace"], (categories ["zs"]).diff (listed [0xA0, 0x2007, 0x202F] [])⟩,
  ⟨["zwj"], zeroWidthJoiner⟩]

/-! ## §4. Sentences -/

/-- The full stops that may also end an abbreviation. -/
def fullStops : CharSet := listed [0x2E, 0x2024, 0xFE52, 0xFF0E] []

/-- The separators of paragraphs. -/
def paragraphSeparators : CharSet := listed [0x85] [(0x2028, 0x2029)]

/-- The marks that end a sentence for sure. -/
def sentenceEnds : CharSet := (tabled "sentenceterminal").diff fullStops

/-- The small letters, for sentences. -/
def smallLetters : CharSet :=
  ((tabled "lowercase").diff (continuing.union (.span 0x10D0 0x10FF))).union
    (.span 0x10FC 0x10FC)

/-- The capital letters, for sentences. -/
def capitalLetters : CharSet :=
  ((categories ["lt"]).union (tabled "uppercase")).diff (.span 0x1C90 0x1CBF)

/-- The values of the division into sentences. -/
def sentenceValues : List BreakValue := [
  ⟨["at", "aterm"], fullStops⟩,
  ⟨["cl", "close"],
    ((categories ["ps", "pe", "pi", "pf"]).union (tabled "quotationmark")).diff
      (listed [0xFF02, 0xFF07] []) |>.union
      (listed [0x2E0B] [(0x275B, 0x2760), (0x2E00, 0x2E01), (0x2E06, 0x2E08), (0x1F676, 0x1F678)])⟩,
  ⟨["cr"], carriageReturn⟩,
  ⟨["ex", "extend"], marking.union zeroWidthJoiner⟩,
  ⟨["fo", "format"], formatting.union (.span 0x70F 0x70F)⟩,
  ⟨["le", "oletter"],
    ((tabled "alphabetic").union (.span 0x5F3 0x5F3)).diff
      (.unions [smallLetters, capitalLetters, marking])⟩,
  ⟨["lf"], lineFeed⟩,
  ⟨["lo", "lower"], smallLetters⟩,
  ⟨["nu", "numeric"], numeric.union (.span 0x66C 0x66C)⟩,
  ⟨["sc", "scontinue"],
    listed [0x3A, 0x3B, 0x37E, 0x55D, 0x7F8, 0x1802, 0x1808, 0x3001, 0xFE58, 0xFE63]
      [(0x2C, 0x2D), (0x60C, 0x60D), (0x2013, 0x2014), (0xFE10, 0xFE11), (0xFE13, 0xFE14),
        (0xFE31, 0xFE32), (0xFE50, 0xFE51), (0xFE54, 0xFE55), (0xFF0C, 0xFF0D),
        (0xFF1A, 0xFF1B), (0xFF64, 0xFF64)]⟩,
  ⟨["se", "sep"], paragraphSeparators⟩,
  ⟨["sp"], (tabled "whitespace").diff (.unions [paragraphSeparators, carriageReturn, lineFeed])⟩,
  ⟨["st", "sterm"], sentenceEnds⟩,
  ⟨["up", "upper"], capitalLetters⟩]

/-! ## §5. Values by name -/

/-- The characters of a value of a division, by a name of the value. -/
def breakValue? (values : List BreakValue) (name : String) : Option CharSet :=
  (values.find? (·.names.contains name)).map (·.set)

end Sift.Unicode
