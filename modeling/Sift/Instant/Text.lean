/-
  Sift.Instant.Text
  ─────────────────
  **Reading and writing instants.**

  Two written forms are read: an RFC 3339 date-time, whose offset is applied, and a bare date,
  which means midnight UTC.  The bare date is read loosely: blanks may stand before each
  number, month and day may have one digit, and the year may have one to four digits, or a sign
  and any number of them.  One form is written, the RFC 3339 date-time in UTC.
-/
import Sift.Instant.Basic
import Sift.Text.Blank
import Sift.Text.Digits

namespace Sift.Instant

open Text

/-! ## §1. Pieces -/

/-- Exactly `count` digits. -/
def fixed? (count : Nat) (cs : List Char) : Option (Nat × List Char) :=
  let ds := cs.take count
  if ds.length = count ∧ ds.all isDigit then some (digitsValue ds, cs.drop count) else none

/-- One to `most` digits. -/
def upTo? (most : Nat) (cs : List Char) : Option (Nat × List Char) :=
  let ds := (cs.take most).takeWhile isDigit
  if ds.isEmpty then none else some (digitsValue ds, cs.drop ds.length)

/-- The given character. -/
def mark? (c : Char) : List Char → Option (List Char)
  | d :: cs => if d = c then some cs else none
  | [] => none

/-! ## §2. RFC 3339 -/

/-- The fraction of a second in nanoseconds, where there is one; digits past the ninth are
dropped. -/
def fraction? : List Char → Option (Nat × List Char)
  | '.' :: cs =>
    let (ds, rest) := spanDigits cs
    if ds.isEmpty then none
    else
      let kept := ds.take 9
      some (digitsValue kept * Nat.pow 10 (9 - kept.length), rest)
  | cs => some (0, cs)

/-- The hours and minutes of an offset, in seconds ahead of UTC or behind it. -/
def clockOffset? (behind : Bool) (cs : List Char) : Option (Int × List Char) := do
  let (hours, cs) ← fixed? 2 cs
  let cs ← mark? ':' cs
  let (minutes, cs) ← fixed? 2 cs
  if 60 ≤ minutes then none
  else
    let size : Int := hours * 3600 + minutes * 60
    return (if behind then -size else size, cs)

/-- An offset from UTC in seconds: `Z`, or a sign, hours, a colon and minutes. -/
def offset? : List Char → Option (Int × List Char)
  | [] => none
  | c :: rest =>
    if c = 'Z' ∨ c = 'z' then some (0, rest)
    else if c = '+' then clockOffset? false rest
    else if c = '-' ∨ c = '−' then clockOffset? true rest
    else none

/-- The instant of a clock reading: hour, minute and second of the day, a second of 60 being a
leap second, and an offset of less than a day. -/
def ofClock? (date : Date) (hour minute second nano : Nat) (offset : Int) : Option Instant :=
  if 24 ≤ hour ∨ 60 ≤ minute ∨ 60 < second ∨ offset ≤ -86400 ∨ 86400 ≤ offset then none
  else
    let leap := second = 60
    let nano := if leap then nano + 1000000000 else nano
    if h : nano < 2000000000 then
      ofLocal date (hour * 3600 + minute * 60 + (if leap then 59 else second)) nano offset h
    else none

/-- **An RFC 3339 date-time.** -/
def ofDateTime? (cs : List Char) : Option Instant := do
  let (year, cs) ← fixed? 4 cs
  let cs ← mark? '-' cs
  let (month, cs) ← fixed? 2 cs
  let cs ← mark? '-' cs
  let (day, cs) ← fixed? 2 cs
  let cs ← (mark? 'T' cs).or ((mark? 't' cs).or (mark? ' ' cs))
  let (hour, cs) ← fixed? 2 cs
  let cs ← mark? ':' cs
  let (minute, cs) ← fixed? 2 cs
  let cs ← mark? ':' cs
  let (second, cs) ← fixed? 2 cs
  let (nano, cs) ← fraction? cs
  let (offset, cs) ← offset? cs
  let date ← Date.ofParts? year month day
  let instant ← ofClock? date hour minute second nano offset
  -- Nothing may follow the offset.
  if cs.isEmpty then return instant else none

/-! ## §3. Bare dates -/

/-- The years that a bare date may name. -/
def yearInRange (year : Int) : Bool := -262143 ≤ year && year ≤ 262142

/-- A year: a sign and digits, or one to four digits. -/
def year? : List Char → Option (Int × List Char)
  | '-' :: cs =>
    let (ds, rest) := spanDigits cs
    if ds.isEmpty then none else some (-(digitsValue ds : Int), rest)
  | '+' :: cs =>
    let (ds, rest) := spanDigits cs
    if ds.isEmpty then none else some ((digitsValue ds : Int), rest)
  | cs => (upTo? 4 cs).map fun (y, rest) => ((y : Int), rest)

/-- **A bare date**, at midnight UTC. -/
def ofBareDate? (cs : List Char) : Option Instant := do
  let (year, cs) ← year? (trimLeft cs)
  let cs ← mark? '-' cs
  let (month, cs) ← upTo? 2 (trimLeft cs)
  let cs ← mark? '-' cs
  let (day, cs) ← upTo? 2 (trimLeft cs)
  if cs.isEmpty && yearInRange year then
    return midnight (← Date.ofParts? year month day)
  else none

/-- The instant that a text denotes: a date-time first, else a bare date. -/
def ofText? (s : String) : Option Instant :=
  (ofDateTime? s.toList).or (ofBareDate? s.toList)

/-! ## §4. Writing -/

/-- A number padded with zeros to a width. -/
def padded (width n : Nat) : List Char :=
  let ds := natDigits n
  List.replicate (width - ds.length) '0' ++ ds

/-- A year; outside `0` to `9999` it carries its sign. -/
def yearDigits (year : Int) : List Char :=
  if 0 ≤ year ∧ year ≤ 9999 then padded 4 year.toNat
  else (if year < 0 then '-' else '+') :: padded 4 year.natAbs

/-- A fraction of a second in the fewest of 0, 3, 6 or 9 digits that are exact. -/
def fractionDigits (nano : Nat) : List Char :=
  if nano = 0 then []
  else if nano % 1000000 = 0 then '.' :: padded 3 (nano / 1000000)
  else if nano % 1000 = 0 then '.' :: padded 6 (nano / 1000)
  else '.' :: padded 9 nano

/-- The clock reading of a second of the day, `extra` being `1` in a leap second. -/
def clockDigits (second extra : Nat) : List Char :=
  padded 2 (second / 3600) ++ ':' :: padded 2 (second / 60 % 60)
    ++ ':' :: padded 2 (second % 60 + extra)

/-- **The RFC 3339 text in UTC.** -/
def chars (t : Instant) : List Char :=
  yearDigits t.date.year ++ '-' :: padded 2 t.date.month ++ '-' :: padded 2 t.date.day
    ++ 'T' :: clockDigits t.second (t.nano / 1000000000)
    ++ fractionDigits (t.nano % 1000000000) ++ ['+', '0', '0', ':', '0', '0']

/-- The RFC 3339 text in UTC. -/
def text (t : Instant) : String := String.ofList t.chars

end Sift.Instant
