/-
  Sift.Proofs.Instant.Moment
  ──────────────────────────
  **Instants as moments on one line.**

  Days are numbered one by one, across the ends of months and years, and an instant is a moment:
  its second on the line of all seconds, with room behind each second for the leap second after
  it.  The order of instants, which is stated over their parts, is the order of the moments, so
  it is total; and a clock that is ahead of UTC shows a moment that lies as far ahead, whatever
  day this makes it.

      the next day, the day before    — one more, one less          (`number_next`, `number_previous`)
      the order of days and instants  — that of numbers and moments (`lt_iff_number`, `lt_iff_moment`)
      the instant of a clock reading  — the moment it shows, less its offset
                                        (`moment_of_instant?`)
-/
import Sift.Proofs.Instant.Text

namespace Sift

/-! ## §1. Days, numbered -/

/-- The days from the first one of the year 1 to the first one of a year. -/
def daysBeforeYear (year : Int) : Int :=
  365 * (year - 1) + (year - 1) / 4 - (year - 1) / 100 + (year - 1) / 400

/-- The days of a year before a month. -/
def daysBeforeMonth (year : Int) : Nat → Nat
  | 0 | 1 => 0
  | month + 2 => daysBeforeMonth year (month + 1) + daysInMonth year (month + 1)

/-- The days of a year. -/
def daysInYear (year : Int) : Nat := if isLeapYear year then 366 else 365

theorem daysBeforeYear_succ (year : Int) :
    daysBeforeYear (year + 1) = daysBeforeYear year + daysInYear year := by
  unfold daysBeforeYear daysInYear isLeapYear
  by_cases leap : (year % 4 == 0 && (year % 100 != 0 || year % 400 == 0)) = true
  · rw [if_pos leap]
    simp only [Bool.and_eq_true, Bool.or_eq_true, beq_iff_eq, bne_iff_ne] at leap
    omega
  · rw [if_neg leap]
    simp only [Bool.and_eq_true, Bool.or_eq_true, beq_iff_eq, bne_iff_ne] at leap
    omega

theorem daysBeforeYear_mono {a b : Int} (h : a ≤ b) : daysBeforeYear a ≤ daysBeforeYear b := by
  unfold daysBeforeYear
  omega

theorem daysBeforeMonth_succ (year : Int) {month : Nat} (h : 1 ≤ month) :
    daysBeforeMonth year (month + 1) = daysBeforeMonth year month + daysInMonth year month := by
  obtain ⟨m, rfl⟩ := Nat.exists_eq_add_of_le' h
  rfl

/-- The days before later months are more. -/
theorem daysBeforeMonth_mono (year : Int) {a b : Nat} (positive : 1 ≤ a) (h : a ≤ b) :
    daysBeforeMonth year a ≤ daysBeforeMonth year b := by
  induction h with
  | refl => exact Nat.le_refl _
  | step hab ih =>
    rw [daysBeforeMonth_succ year (Nat.le_trans positive hab)]
    exact Nat.le_trans ih (Nat.le_add_right _ _)

/-- The twelve months make up the year. -/
theorem daysBeforeMonth_thirteen (year : Int) : daysBeforeMonth year 13 = daysInYear year := by
  unfold daysInYear
  cases leap : isLeapYear year <;>
    simp [daysBeforeMonth, daysInMonth, leap]

namespace Date

/-- **The number of a day**, the first day of the year 1 being the day 1. -/
def number (d : Date) : Int :=
  daysBeforeYear d.year + daysBeforeMonth d.year d.month + d.day

/-- A day lies within its month. -/
theorem number_le (d : Date) :
    d.number ≤ daysBeforeYear d.year + daysBeforeMonth d.year (d.month + 1) := by
  have day := d.valid.2.2
  rw [daysBeforeMonth_succ d.year d.valid.1.1]
  unfold number
  omega

/-- A day lies within its year. -/
theorem number_le_year (d : Date) : d.number ≤ daysBeforeYear (d.year + 1) := by
  have month := daysBeforeMonth_mono d.year (Nat.le_add_left 1 d.month)
    (show d.month + 1 ≤ 13 from Nat.succ_le_succ d.valid.1.2)
  have inMonth := d.number_le
  rw [daysBeforeMonth_thirteen] at month
  rw [daysBeforeYear_succ]
  omega

/-- A day comes after what lies before its month. -/
theorem lt_number (d : Date) :
    daysBeforeYear d.year + daysBeforeMonth d.year d.month < d.number := by
  have day := d.valid.2.1
  unfold number
  omega

/-- **An earlier day has a smaller number.** -/
theorem number_lt {a b : Date} (h : a.lt b = true) : a.number < b.number := by
  unfold lt at h
  simp only [Bool.or_eq_true, Bool.and_eq_true, decide_eq_true_eq, beq_iff_eq] at h
  rcases h with year | ⟨year, month | ⟨month, day⟩⟩
  · -- The last day of the earlier year comes before the first of the later one.
    have before := daysBeforeYear_mono (show a.year + 1 ≤ b.year from year)
    have last := a.number_le_year
    have first := b.lt_number
    omega
  · have before := daysBeforeMonth_mono b.year (Nat.le_add_left 1 a.month)
      (show a.month + 1 ≤ b.month from month)
    have last := a.number_le
    have first := b.lt_number
    rw [year] at last
    omega
  · unfold number
    rw [year, month]
    omega

/-- Of two days one comes before the other, or they are the same. -/
theorem lt_or_eq_or_lt (a b : Date) : a.lt b = true ∨ a = b ∨ b.lt a = true := by
  obtain ⟨y, m, d, valid⟩ := a
  obtain ⟨y', m', d', valid'⟩ := b
  simp only [lt, Bool.or_eq_true, Bool.and_eq_true, decide_eq_true_eq, beq_iff_eq, mk.injEq]
  omega

/-- **Days are ordered as their numbers.** -/
theorem lt_iff_number {a b : Date} : a.lt b = true ↔ a.number < b.number := by
  refine ⟨number_lt, fun less => ?_⟩
  rcases lt_or_eq_or_lt a b with before | rfl | after
  · exact before
  · exact absurd less (Int.lt_irrefl _)
  · exact absurd less (Int.not_lt.2 (Int.le_of_lt (number_lt after)))

/-- A day is known by its number. -/
theorem number_inj {a b : Date} : a.number = b.number ↔ a = b := by
  refine ⟨fun same => ?_, congrArg number⟩
  rcases lt_or_eq_or_lt a b with before | equal | after
  · exact absurd same (Int.ne_of_lt (number_lt before))
  · exact equal
  · exact absurd same (Int.ne_of_gt (number_lt after))

/-- **The next day** has the next number, also across the ends of months and years. -/
theorem number_next (d : Date) : d.next.number = d.number + 1 := by
  obtain ⟨year, month, day, ⟨first, last⟩, low, within⟩ := d
  unfold next number
  dsimp only
  split
  · dsimp only
    omega
  split
  · -- The first day of the next month.
    have step := daysBeforeMonth_succ year first
    dsimp only
    omega
  · -- The first day of the next year.
    obtain rfl : month = 12 := by omega
    have step := daysBeforeYear_succ year
    have months := daysBeforeMonth_thirteen year
    have december := daysBeforeMonth_succ year first
    have january : daysBeforeMonth (year + 1) 1 = 0 := rfl
    rw [show 12 + 1 = 13 from rfl, months] at december
    dsimp only
    omega

/-- **The day before** has the number before. -/
theorem number_previous (d : Date) : d.previous.number = d.number - 1 := by
  obtain ⟨year, month, day, ⟨first, last⟩, low, within⟩ := d
  unfold previous number
  dsimp only
  split
  · dsimp only
    omega
  split
  · -- The last day of the month before.
    have step := @daysBeforeMonth_succ year (month - 1) (by omega)
    rw [Nat.sub_add_cancel first] at step
    dsimp only
    omega
  · -- The last day of the year before.
    obtain rfl : month = 1 := by omega
    have step := daysBeforeYear_succ (year - 1)
    have months := daysBeforeMonth_thirteen (year - 1)
    have december := @daysBeforeMonth_succ (year - 1) 12 (by decide)
    have january : daysBeforeMonth year 1 = 0 := rfl
    rw [Int.sub_add_cancel] at step
    rw [show 12 + 1 = 13 from rfl, months] at december
    dsimp only
    omega

end Date

/-! ## §2. Moments -/

/-- The moment of a second on the line of all seconds and nanoseconds from it on, of which a
leap second has more than a second's. -/
def momentOf (second : Int) (nano : Nat) : Int := second * 2000000000 + nano

namespace Instant

/-- **The moment of an instant.** -/
def moment (t : Instant) : Int := momentOf (t.date.number * 86400 + t.second) t.nano

/-- **Instants are ordered as their moments.** -/
theorem lt_iff_moment {a b : Instant} : a.lt b = true ↔ a.moment < b.moment := by
  have inDay := a.inDay
  have inDay' := b.inDay
  have inSecond := a.inSecond
  have inSecond' := b.inSecond
  unfold lt moment momentOf
  simp only [Bool.or_eq_true, Bool.and_eq_true, decide_eq_true_eq, beq_iff_eq,
    Date.lt_iff_number, ← Date.number_inj]
  omega

/-- An instant is known by its moment. -/
theorem moment_inj {a b : Instant} : a.moment = b.moment ↔ a = b := by
  refine ⟨fun same => ?_, congrArg moment⟩
  have inDay := a.inDay
  have inDay' := b.inDay
  have inSecond := a.inSecond
  have inSecond' := b.inSecond
  unfold moment momentOf at same
  obtain ⟨date, second, nano, _, _⟩ := a
  obtain ⟨date', second', nano', _, _⟩ := b
  dsimp only at *
  -- The second of the day is below a whole day, so the day can be told from the sum.
  have sameDate : date = date' := Date.number_inj.1 (by omega)
  simp only [mk.injEq]
  subst sameDate
  refine ⟨rfl, ?_, ?_⟩ <;> omega

/-- **A clock ahead of UTC** shows a moment that lies as far ahead. -/
theorem moment_of_ofLocal {d : Date} {second nano : Nat} {offset : Int}
    {hnano : nano < 2000000000} {t : Instant}
    (h : ofLocal d second nano offset hnano = some t) :
    t.moment = momentOf (d.number * 86400 + second - offset) nano := by
  simp only [ofLocal] at h
  unfold moment momentOf
  split at h
  · cases h
    dsimp only
    omega
  split at h
  · -- The day before in UTC.
    cases h
    have previous := d.number_previous
    dsimp only
    omega
  split at h
  · -- The next day in UTC.
    cases h
    have next := d.number_next
    dsimp only
    omega
  · cases h

/-- A clock that shows a second of a day, less than a day off, shows an instant. -/
theorem exists_ofLocal {second : Nat} {offset : Int} (inDay : second < 86400)
    (lower : -86400 < offset) (upper : offset < 86400) (d : Date) (nano : Nat)
    (hnano : nano < 2000000000) : ∃ t, ofLocal d second nano offset hnano = some t := by
  -- An offset below a day moves the time to the day before or after at most.
  unfold ofLocal
  dsimp only
  split
  · exact ⟨_, rfl⟩
  split
  · exact ⟨_, rfl⟩
  split
  · exact ⟨_, rfl⟩
  · omega

end Instant

/-! ## §3. Clock readings -/

namespace Instant.Reading

/-- A clock reading within the bounds of a clock, where a second of 60 is a leap second, and of
an offset of less than a day. -/
structure OnClock (r : Reading) : Prop where
  hour : r.hour < 24
  minute : r.minute < 60
  second : r.second ≤ 60
  behind : -86400 < r.offset
  ahead : r.offset < 86400

/-- **The moment that a clock shows**, less its offset.  A leap second is the second before it,
with a second's nanoseconds more. -/
def moment (r : Reading) : Int :=
  let clock : Int := r.date.number * 86400 + (r.hour * 3600 + r.minute * 60 + min r.second 59 : Nat)
  momentOf (clock - r.offset) (if r.second = 60 then r.nano + 1000000000 else r.nano)

/-- **The instant of a clock reading is the moment that it shows.** -/
theorem moment_of_instant? {r : Reading} {t : Instant} (h : r.instant? = some t) :
    t.moment = r.moment := by
  unfold instant? ofClock? at h
  unfold moment
  split at h
  · cases h
  by_cases leap : r.second = 60
  · -- A leap second: the second before it, and a second's nanoseconds more.
    simp only [leap, if_true] at h
    split at h
    · have shown := moment_of_ofLocal h
      simp only [leap, if_true]
      exact shown
    · cases h
  · simp only [leap, if_false] at h
    split at h
    · have shown := moment_of_ofLocal h
      have ordinary : min r.second 59 = r.second := Nat.min_eq_left (by omega)
      simp only [leap, if_false, ordinary]
      exact shown
    · cases h

/-- **A clock reading within bounds has an instant**, and no other has one. -/
theorem exists_instant?_iff {r : Reading} (fraction : r.nano < 1000000000) :
    (∃ t, r.instant? = some t) ↔ r.OnClock := by
  unfold instant? ofClock?
  constructor
  · intro found
    obtain ⟨t, shown⟩ := found
    split at shown
    · cases shown
    · -- The guard that was passed is the negation of the bounds.
      rename_i within
      exact ⟨by omega, by omega, by omega, by omega, by omega⟩
  · intro within
    obtain ⟨hour, minute, second, behind, ahead⟩ := within
    rw [if_neg (by omega)]
    dsimp only
    rw [dif_pos (by split <;> omega)]
    exact exists_ofLocal (by split <;> omega) behind ahead _ _ _

end Instant.Reading

end Sift
