/-
  Sift.Instant.Basic
  ──────────────────
  **Calendar days and instants in UTC.**

  A `Date` is a day of the proleptic Gregorian calendar, an `Instant` a second of such a day
  and a count of nanoseconds.  A leap second is the second before it with a count from
  `10 ^ 9` on, which places it after that second and before the next one.

  Main definitions: `Date.ofParts?`, `Date.next`, `Date.previous`, `Instant.lt`,
  `Instant.midnight` and `Instant.ofLocal` (a clock reading with an offset from UTC).
-/

namespace Sift

/-! ## §1. Days -/

/-- A leap year of the Gregorian rule, extended to all years. -/
def isLeapYear (year : Int) : Bool := year % 4 == 0 && (year % 100 != 0 || year % 400 == 0)

/-- The number of days of a month. -/
def daysInMonth (year : Int) (month : Nat) : Nat :=
  if month = 2 then (if isLeapYear year then 29 else 28)
  else if month = 4 ∨ month = 6 ∨ month = 9 ∨ month = 11 then 30
  else 31

/-- A real day of the calendar. -/
structure Date where
  year : Int
  month : Nat
  day : Nat
  valid : (1 ≤ month ∧ month ≤ 12) ∧ 1 ≤ day ∧ day ≤ daysInMonth year month
deriving DecidableEq

theorem daysInMonth_pos (year : Int) (month : Nat) : 1 ≤ daysInMonth year month := by
  unfold daysInMonth
  split
  · split <;> omega
  · split <;> omega

namespace Date

/-- The day of that year, month and day of the month, where there is one. -/
def ofParts? (year : Int) (month day : Nat) : Option Date :=
  if h : (1 ≤ month ∧ month ≤ 12) ∧ 1 ≤ day ∧ day ≤ daysInMonth year month then
    some ⟨year, month, day, h⟩
  else none

/-- The day after. -/
def next (d : Date) : Date :=
  if h : d.day < daysInMonth d.year d.month then
    { d with day := d.day + 1, valid := ⟨d.valid.1, by omega, h⟩ }
  else if h : d.month < 12 then
    ⟨d.year, d.month + 1, 1, ⟨by omega, h⟩, by omega, daysInMonth_pos _ _⟩
  else ⟨d.year + 1, 1, 1, by decide, by decide, daysInMonth_pos _ _⟩

/-- The day before. -/
def previous (d : Date) : Date :=
  if h : 1 < d.day then
    { d with day := d.day - 1, valid := ⟨d.valid.1, by omega, by have := d.valid.2.2; omega⟩ }
  else if h : 1 < d.month then
    ⟨d.year, d.month - 1, daysInMonth d.year (d.month - 1),
      ⟨by omega, by have := d.valid.1.2; omega⟩, daysInMonth_pos _ _, Nat.le_refl _⟩
  else ⟨d.year - 1, 12, daysInMonth (d.year - 1) 12, by decide, daysInMonth_pos _ _,
    Nat.le_refl _⟩

def lt (a b : Date) : Bool :=
  decide (a.year < b.year) || (a.year == b.year &&
    (decide (a.month < b.month) || (a.month == b.month && decide (a.day < b.day))))

end Date

/-! ## §2. Instants -/

/-- An instant in UTC: a day, a second of that day and nanoseconds from that second on. -/
structure Instant where
  date : Date
  second : Nat
  nano : Nat
  inDay : second < 86400
  inSecond : nano < 2000000000
deriving DecidableEq

namespace Instant

def lt (a b : Instant) : Bool :=
  a.date.lt b.date || (a.date == b.date &&
    (decide (a.second < b.second) || (a.second == b.second && decide (a.nano < b.nano))))

def midnight (d : Date) : Instant := ⟨d, 0, 0, by decide, by decide⟩

/-- **The instant of a clock reading** on a day, by a clock that is `offset` seconds ahead of
UTC; the offset is less than a day either way. -/
def ofLocal (d : Date) (second nano : Nat) (offset : Int) (inSecond : nano < 2000000000) :
    Option Instant :=
  let t : Int := second - offset
  if h : 0 ≤ t ∧ t < 86400 then some ⟨d, t.toNat, nano, by omega, inSecond⟩
  else if h : -86400 ≤ t ∧ t < 0 then
    some ⟨d.previous, (t + 86400).toNat, nano, by omega, inSecond⟩
  else if h : 86400 ≤ t ∧ t < 172800 then
    some ⟨d.next, (t - 86400).toNat, nano, by omega, inSecond⟩
  else none

end Instant

end Sift
