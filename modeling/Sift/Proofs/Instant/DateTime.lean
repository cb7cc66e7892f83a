/-
  Sift.Proofs.Instant.DateTime
  ────────────────────────────
  **The texts of date-times, as a grammar.**

  The reader of date-times takes a text apart piece by piece and says nothing about the whole.
  `IsDateTime` states the written form, RFC 3339, over whole texts: a plain date, a clock reading
  on it, a fraction of a second and an offset from UTC.  The reader accepts exactly these, where
  the clock reading is one of an instant.

  Main result: `ofDateTime?_eq_some_iff`.
-/
import Sift.Proofs.Text.Digits

namespace Sift.Text

/-! ## §1. Numerals -/

/-- **A numeral**: digits, at least `least` and at most `most` of them, that denote `n`. -/
structure Numeral (least most n : Nat) (ds : List Char) : Prop where
  digits : ∀ c ∈ ds, isDigit c = true
  least_le : least ≤ ds.length
  le_most : ds.length ≤ most
  value : digitsValue ds = n

namespace Numeral

variable {least most n : Nat} {ds : List Char}

theorem mono {least' most' : Nat} (h : Numeral least most n ds) (lower : least' ≤ least)
    (upper : most ≤ most') : Numeral least' most' n ds :=
  ⟨h.digits, Nat.le_trans lower h.least_le, Nat.le_trans h.le_most upper, h.value⟩

/-- A numeral starts with a digit. -/
theorem exists_eq_cons (h : Numeral least most n ds) (positive : 0 < least) :
    ∃ d rest, ds = d :: rest ∧ isDigit d = true := by
  cases ds with
  | nil => exact absurd h.least_le (by simp; omega)
  | cons d rest => exact ⟨d, rest, rfl, h.digits d List.mem_cons_self⟩

/-- A padded number is a numeral of its width. -/
theorem padded {width n : Nat} (positive : 0 < width) (h : n < 10 ^ width) :
    Numeral width width n (Instant.padded width n) := by
  have len := Instant.length_padded positive h
  exact ⟨fun _ => Instant.isDigit_of_mem_padded, Nat.le_of_eq len.symm, Nat.le_of_eq len,
    Instant.digitsValue_padded⟩

theorem zero : Numeral 2 2 0 ['0', '0'] := Numeral.padded (by decide) (by decide)

end Numeral

end Sift.Text

namespace Sift.Instant

open Text

/-! ## §2. Digits in front of a text -/

/-- **Exactly `count` digits** are read where a numeral of that width stands in front. -/
theorem fixed?_eq_some_iff {count n : Nat} {cs rest : List Char} :
    fixed? count cs = some (n, rest) ↔ ∃ ds, Numeral count count n ds ∧ cs = ds ++ rest := by
  unfold fixed?
  constructor
  · intro read
    dsimp only at read
    split at read
    · rename_i enough
      cases read
      -- As many digits as asked for, no more and no fewer.
      refine ⟨cs.take count, ⟨?_, ?_, ?_, rfl⟩, (List.take_append_drop count cs).symm⟩
      · exact List.all_eq_true.1 enough.2
      · exact Nat.le_of_eq enough.1.symm
      · exact Nat.le_of_eq enough.1
    · cases read
  · intro found
    obtain ⟨ds, numeral, rfl⟩ := found
    have len : ds.length = count := Nat.le_antisymm numeral.le_most numeral.least_le
    simp only [List.take_left' len, List.drop_left' len]
    rw [if_pos ⟨len, List.all_eq_true.2 numeral.digits⟩, numeral.value]

/-- What follows a run of digits: nothing, or another character. -/
def EndsRun (rest : List Char) : Prop := ∀ c ∈ rest.head?, isDigit c = false

theorem endsRun_nil : EndsRun [] := by
  intro c member
  cases member

theorem endsRun_cons {c : Char} (h : isDigit c = false) (rest : List Char) :
    EndsRun (c :: rest) := by
  intro d member
  cases member
  exact h

/-- A run of digits is taken up to its end. -/
theorem takeWhile_isDigit_append {ds rest : List Char} (digits : ∀ c ∈ ds, isDigit c = true)
    (ends : EndsRun rest) : (ds ++ rest).takeWhile isDigit = ds := by
  rw [List.takeWhile_append_of_pos digits]
  cases rest with
  | nil => simp
  | cons c rest =>
    rw [List.takeWhile_cons_of_neg (by simp [ends c rfl]), List.append_nil]

/-- One to `most` digits that are read are a numeral. -/
theorem numeral_of_upTo? {most n : Nat} {cs rest : List Char}
    (read : upTo? most cs = some (n, rest)) : ∃ ds, Numeral 1 most n ds ∧ cs = ds ++ rest := by
  unfold upTo? at read
  dsimp only at read
  split at read
  · cases read
  · rename_i nonempty
    cases read
    -- The digits are a run at the start of at most that many characters.
    have run : (cs.take most).takeWhile isDigit <+: cs :=
      (List.takeWhile_prefix isDigit).trans (List.take_prefix most cs)
    have short := (List.takeWhile_prefix (l := cs.take most) isDigit).length_le
    refine ⟨(cs.take most).takeWhile isDigit, ⟨?_, ?_, ?_, rfl⟩, ?_⟩
    · exact List.all_eq_true.1 List.all_takeWhile
    · exact List.length_pos_iff.2 fun none => nonempty (List.isEmpty_iff.2 none)
    · exact Nat.le_trans short (List.length_take_le most cs)
    · exact (List.prefix_iff_eq_append.1 run).symm

/-- **A numeral is read to its end** where one to `most` digits may stand. -/
theorem upTo?_append {most n : Nat} {ds rest : List Char} (numeral : Numeral 1 most n ds)
    (ends : EndsRun rest) : upTo? most (ds ++ rest) = some (n, rest) := by
  -- Cutting the text at `most` characters keeps the numeral, and what is left still ends it.
  have run : ((ds ++ rest).take most).takeWhile isDigit = ds := by
    rw [List.take_append, List.take_of_length_le numeral.le_most]
    refine takeWhile_isDigit_append numeral.digits fun c member => ends c ?_
    cases rest with
    | nil => simp at member
    | cons d rest =>
      cases width : most - ds.length with
      | zero => simp [width] at member
      | succ k => simpa [width] using member
  have nonempty : ¬ ds.isEmpty = true := by
    intro none
    have positive := numeral.least_le
    rw [List.isEmpty_iff.1 none] at positive
    exact absurd positive (by decide)
  simp only [upTo?, run]
  rw [if_neg nonempty, numeral.value, List.drop_left' rfl]

theorem mark?_eq_some_iff {c : Char} {cs rest : List Char} :
    mark? c cs = some rest ↔ cs = c :: rest := by
  cases cs with
  | nil => simp [mark?]
  | cons d cs =>
    show (if d = c then some cs else none) = some rest ↔ d :: cs = c :: rest
    rw [Option.ite_none_right_eq_some, Option.some_inj, List.cons.injEq]

/-! Readers run in order: what the first takes stands in front, and the others go on behind it. -/

section
variable {α : Type} {a : α} {cs : List Char}

theorem bind_fixed?_eq_some_iff {count : Nat} {next : Nat × List Char → Option α} :
    (fixed? count cs).bind next = some a ↔
      ∃ n ds rest, Numeral count count n ds ∧ cs = ds ++ rest ∧ next (n, rest) = some a := by
  rw [Option.bind_eq_some_iff]
  constructor
  · rintro ⟨⟨n, rest⟩, read, others⟩
    obtain ⟨ds, numeral, split⟩ := fixed?_eq_some_iff.1 read
    exact ⟨n, ds, rest, numeral, split, others⟩
  · rintro ⟨n, ds, rest, numeral, split, others⟩
    exact ⟨(n, rest), fixed?_eq_some_iff.2 ⟨ds, numeral, split⟩, others⟩

theorem bind_mark?_eq_some_iff {c : Char} {next : List Char → Option α} :
    (mark? c cs).bind next = some a ↔ ∃ rest, cs = c :: rest ∧ next rest = some a := by
  rw [Option.bind_eq_some_iff]
  simp only [mark?_eq_some_iff]

end

/-! ## §3. Date-times -/

/-- **A clock reading**: a day, what the clock shows on it, and how many seconds the clock is
ahead of UTC. -/
structure Reading where
  date : Date
  hour : Nat
  minute : Nat
  second : Nat
  nano : Nat
  offset : Int

/-- The instant of a clock reading, where there is one. -/
def Reading.instant? (r : Reading) : Option Instant :=
  ofClock? r.date r.hour r.minute r.second r.nano r.offset

/-- **A plain date**, `YYYY-MM-DD`. -/
inductive IsPlainDate (date : Date) : List Char → Prop
  | intro {year : Nat} {ys ms ds : List Char} (same : date.year = year)
      (years : Numeral 4 4 year ys) (months : Numeral 2 2 date.month ms)
      (days : Numeral 2 2 date.day ds) : IsPlainDate date (ys ++ '-' :: (ms ++ '-' :: ds))

/-- **The fraction of a second** in nanoseconds: none, or a point and digits, of which nine
count. -/
inductive IsFraction : Nat → List Char → Prop
  | none : IsFraction 0 []
  | digits {ds : List Char} (nonempty : ds ≠ []) (digits : ∀ c ∈ ds, isDigit c = true) :
      IsFraction (digitsValue (ds.take 9) * 10 ^ (9 - (ds.take 9).length)) ('.' :: ds)

/-- **The offset from UTC** in seconds: a letter, or a sign, hours and minutes. -/
inductive IsZone : Int → List Char → Prop
  | utc {letter : Char} (h : letter = 'Z' ∨ letter = 'z') : IsZone 0 [letter]
  | ahead {hours minutes : Nat} {hs ms : List Char} (hour : Numeral 2 2 hours hs)
      (minute : Numeral 2 2 minutes ms) (fits : minutes < 60) :
      IsZone (hours * 3600 + minutes * 60) ('+' :: (hs ++ ':' :: ms))
  | behind {sign : Char} {hours minutes : Nat} {hs ms : List Char} (h : sign = '-' ∨ sign = '−')
      (hour : Numeral 2 2 hours hs) (minute : Numeral 2 2 minutes ms) (fits : minutes < 60) :
      IsZone (-(hours * 3600 + minutes * 60)) (sign :: (hs ++ ':' :: ms))

/-- **A date-time** of RFC 3339 that shows a clock reading. -/
inductive IsDateTime (r : Reading) : List Char → Prop
  | intro {separator : Char} {date hs ms ss fraction zone : List Char}
      (day : IsPlainDate r.date date)
      (between : separator = 'T' ∨ separator = 't' ∨ separator = ' ')
      (hours : Numeral 2 2 r.hour hs) (minutes : Numeral 2 2 r.minute ms)
      (seconds : Numeral 2 2 r.second ss) (nanos : IsFraction r.nano fraction)
      (offset : IsZone r.offset zone) :
      IsDateTime r (date ++ separator :: (hs ++ ':' :: (ms ++ ':' :: (ss ++ (fraction ++ zone)))))

/-- A fraction is less than a second. -/
theorem IsFraction.lt {nano : Nat} {cs : List Char} (h : IsFraction nano cs) :
    nano < 1000000000 := by
  cases h with
  | none => decide
  | @digits ds nonempty digits =>
    have short : (ds.take 9).length ≤ 9 := List.length_take_le 9 ds
    have value := digitsValue_lt fun c hc => digits c (List.mem_of_mem_take (i := 9) hc)
    calc digitsValue (ds.take 9) * 10 ^ (9 - (ds.take 9).length)
        < 10 ^ (ds.take 9).length * 10 ^ (9 - (ds.take 9).length) :=
          Nat.mul_lt_mul_of_pos_right value (Nat.pow_pos (by decide))
      _ = 10 ^ 9 := by rw [← Nat.pow_add, Nat.add_sub_cancel' short]

/-- A zone starts with a letter or a sign, which ends a run of digits and is no point. -/
theorem IsZone.exists_eq_cons {offset : Int} {zone : List Char} (h : IsZone offset zone) :
    ∃ c rest, zone = c :: rest ∧ isDigit c = false ∧ c ≠ '.' := by
  cases h with
  | utc letter => rcases letter with rfl | rfl <;> exact ⟨_, _, rfl, by decide, by decide⟩
  | ahead => exact ⟨_, _, rfl, by decide, by decide⟩
  | behind sign => rcases sign with rfl | rfl <;> exact ⟨_, _, rfl, by decide, by decide⟩

/-- The nanoseconds of a date-time are less than a second. -/
theorem IsDateTime.nano_lt {r : Reading} {cs : List Char} (h : IsDateTime r cs) :
    r.nano < 1000000000 := by
  cases h with
  | intro _ _ _ _ _ nanos _ => exact nanos.lt

/-- A date-time starts with a digit. -/
theorem IsDateTime.exists_eq_cons {r : Reading} {cs : List Char} (h : IsDateTime r cs) :
    ∃ d rest, cs = d :: rest ∧ isDigit d = true := by
  cases h with
  | intro day =>
    cases day with
    | intro same years =>
      obtain ⟨d, rest, rfl, digit⟩ := years.exists_eq_cons (by decide)
      exact ⟨d, _, rfl, digit⟩

theorem isFraction_of_fraction? {nano : Nat} {cs rest : List Char}
    (read : fraction? cs = some (nano, rest)) :
    ∃ fraction, IsFraction nano fraction ∧ cs = fraction ++ rest := by
  unfold fraction? at read
  split at read
  · rename_i digits
    dsimp only [spanDigits] at read
    split at read
    · cases read
    · rename_i nonempty
      cases read
      -- A point alone is no fraction, so there is a digit behind it.
      refine ⟨'.' :: digits.takeWhile isDigit, .digits ?_ ?_, ?_⟩
      · exact fun none => nonempty (List.isEmpty_iff.2 none)
      · exact List.all_eq_true.1 List.all_takeWhile
      · rw [List.cons_append, List.takeWhile_append_dropWhile]
  · cases read
    exact ⟨[], .none, rfl⟩

/-- **A fraction is read to its end**, where what follows continues neither the digits nor, if
there is none, begins one. -/
theorem fraction?_append {nano : Nat} {fraction rest : List Char} {c : Char}
    (h : IsFraction nano fraction) (ends : isDigit c = false) (point : c ≠ '.') :
    fraction? (fraction ++ c :: rest) = some (nano, c :: rest) := by
  cases h with
  | none =>
    unfold fraction?
    split
    · -- Without a fraction the rest would have to start with a point.
      rename_i same
      cases same
      exact absurd rfl point
    · rfl
  | @digits ds nonempty digits =>
    unfold fraction?
    simp only [List.cons_append, spanDigits_append digits ends]
    rw [if_neg fun none => nonempty (List.isEmpty_iff.1 none)]
    rfl

/-- The hours and minutes of an offset. -/
theorem clockOffset?_eq_some_iff {behind : Bool} {offset : Int} {cs rest : List Char} :
    clockOffset? behind cs = some (offset, rest) ↔ ∃ hours minutes hs ms,
      Numeral 2 2 hours hs ∧ Numeral 2 2 minutes ms ∧ minutes < 60
        ∧ offset = (if behind then -((hours : Int) * 3600 + minutes * 60)
            else (hours : Int) * 3600 + minutes * 60)
        ∧ cs = hs ++ ':' :: (ms ++ rest) := by
  unfold clockOffset?
  constructor
  · intro read
    -- Part by part, each one leaves the text that the next one reads.
    obtain ⟨hours, hs, _, hour, rfl, pastHours⟩ := bind_fixed?_eq_some_iff.1 read
    obtain ⟨_, rfl, pastColon⟩ := bind_mark?_eq_some_iff.1 pastHours
    obtain ⟨minutes, ms, _, minute, rfl, last⟩ := bind_fixed?_eq_some_iff.1 pastColon
    dsimp only at last
    split at last
    · cases last
    · rename_i fits
      cases last
      exact ⟨hours, minutes, hs, ms, hour, minute, Nat.not_le.1 fits, rfl, rfl⟩
  · intro found
    obtain ⟨hours, minutes, hs, ms, hour, minute, fits, rfl, rfl⟩ := found
    refine bind_fixed?_eq_some_iff.2 ⟨_, hs, _, hour, rfl, ?_⟩
    refine bind_mark?_eq_some_iff.2 ⟨_, rfl, ?_⟩
    refine bind_fixed?_eq_some_iff.2 ⟨_, ms, _, minute, rfl, ?_⟩
    exact if_neg (Nat.not_le.2 fits)

/-- **An offset is read** exactly where a zone stands in front. -/
theorem offset?_eq_some_iff {offset : Int} {cs rest : List Char} :
    offset? cs = some (offset, rest) ↔ ∃ zone, IsZone offset zone ∧ cs = zone ++ rest := by
  constructor
  · intro read
    -- The first character tells the three forms apart.
    cases cs with
    | nil => cases read
    | cons c cs =>
      simp only [offset?] at read
      split at read
      · rename_i letter
        cases read
        exact ⟨[c], .utc letter, rfl⟩
      split at read
      · rename_i plus
        obtain ⟨hours, minutes, hs, ms, hour, minute, fits, rfl, rfl⟩ :=
          clockOffset?_eq_some_iff.1 read
        subst plus
        exact ⟨_, .ahead hour minute fits, by simp⟩
      split at read
      · rename_i sign
        obtain ⟨hours, minutes, hs, ms, hour, minute, fits, rfl, rfl⟩ :=
          clockOffset?_eq_some_iff.1 read
        exact ⟨_, .behind sign hour minute fits, by simp⟩
      · cases read
  · intro found
    obtain ⟨zone, form, rfl⟩ := found
    cases form with
    | utc letter =>
      simp only [offset?, List.cons_append, List.nil_append]
      rw [if_pos letter]
    | @ahead hours minutes hs ms hour minute fits =>
      show clockOffset? false (hs ++ ':' :: ms ++ rest) = _
      rw [List.append_assoc]
      exact clockOffset?_eq_some_iff.2
        ⟨hours, minutes, hs, ms, hour, minute, fits, rfl, rfl⟩
    | @behind sign hours minutes hs ms dash hour minute fits =>
      have signed : offset? (sign :: (hs ++ ':' :: ms) ++ rest)
          = clockOffset? true (hs ++ ':' :: ms ++ rest) := by
        -- The minus sign has two spellings, and both are read alike.
        rcases dash with rfl | rfl <;> rfl
      rw [signed, List.append_assoc]
      exact clockOffset?_eq_some_iff.2
        ⟨hours, minutes, hs, ms, hour, minute, fits, rfl, rfl⟩

/-- The parts of a day fit in two digits. -/
theorem parts_lt (d : Date) : d.month < 10 ^ 2 ∧ d.day < 10 ^ 2 := by
  obtain ⟨⟨_, hmonth⟩, _, hday⟩ := d.valid
  have most : daysInMonth d.year d.month ≤ 31 := by
    unfold daysInMonth
    split
    · split <;> omega
    · split <;> omega
  omega

/-- The day of the parts. -/
theorem ofParts?_eq_some_iff {year : Int} {month day : Nat} {date : Date} :
    Date.ofParts? year month day = some date ↔
      date.year = year ∧ date.month = month ∧ date.day = day := by
  unfold Date.ofParts?
  constructor
  · intro found
    split at found
    · cases found
      exact ⟨rfl, rfl, rfl⟩
    · cases found
  · intro same
    obtain ⟨rfl, rfl, rfl⟩ := same
    exact dif_pos date.valid

/-- One of the three separators. -/
theorem separator_eq_some_iff {cs rest : List Char} :
    (mark? 'T' cs).or ((mark? 't' cs).or (mark? ' ' cs)) = some rest ↔
      ∃ c, (c = 'T' ∨ c = 't' ∨ c = ' ') ∧ cs = c :: rest := by
  simp only [Option.or_eq_some_iff, mark?_eq_some_iff]
  constructor
  · intro found
    rcases found with rfl | ⟨-, rfl | ⟨-, rfl⟩⟩
    · exact ⟨'T', Or.inl rfl, rfl⟩
    · exact ⟨'t', Or.inr (Or.inl rfl), rfl⟩
    · exact ⟨' ', Or.inr (Or.inr rfl), rfl⟩
  · intro found
    -- The alternatives exclude each other, so the order of trying does not matter.
    obtain ⟨c, rfl | rfl | rfl, rfl⟩ := found
    · exact Or.inl rfl
    · exact Or.inr ⟨rfl, Or.inl rfl⟩
    · exact Or.inr ⟨rfl, Or.inr ⟨rfl, rfl⟩⟩

/-- **A date-time is read** exactly where the whole text is one whose clock reading has an
instant. -/
theorem ofDateTime?_eq_some_iff {cs : List Char} {t : Instant} :
    ofDateTime? cs = some t ↔ ∃ r : Reading, IsDateTime r cs ∧ r.instant? = some t := by
  unfold ofDateTime?
  constructor
  · intro read
    obtain ⟨year, ys, _, years, rfl, pastYear⟩ := bind_fixed?_eq_some_iff.1 read
    obtain ⟨_, rfl, pastDash⟩ := bind_mark?_eq_some_iff.1 pastYear
    obtain ⟨month, mos, _, months, rfl, pastMonth⟩ := bind_fixed?_eq_some_iff.1 pastDash
    obtain ⟨_, rfl, pastDash'⟩ := bind_mark?_eq_some_iff.1 pastMonth
    obtain ⟨day, ds, _, days, rfl, pastDay⟩ := bind_fixed?_eq_some_iff.1 pastDash'
    obtain ⟨_, hseparator, pastSeparator⟩ := Option.bind_eq_some_iff.1 pastDay
    obtain ⟨separator, between, rfl⟩ := separator_eq_some_iff.1 hseparator
    obtain ⟨hour, hs, _, hours, rfl, pastHour⟩ := bind_fixed?_eq_some_iff.1 pastSeparator
    obtain ⟨_, rfl, pastColon⟩ := bind_mark?_eq_some_iff.1 pastHour
    obtain ⟨minute, ms, _, minutes, rfl, pastMinute⟩ := bind_fixed?_eq_some_iff.1 pastColon
    obtain ⟨_, rfl, pastColon'⟩ := bind_mark?_eq_some_iff.1 pastMinute
    obtain ⟨second, ss, _, seconds, rfl, pastSecond⟩ := bind_fixed?_eq_some_iff.1 pastColon'
    obtain ⟨⟨nano, _⟩, hnano, pastFraction⟩ := Option.bind_eq_some_iff.1 pastSecond
    obtain ⟨fraction, nanos, rfl⟩ := isFraction_of_fraction? hnano
    obtain ⟨⟨offset, afterOffset⟩, hoffset, pastZone⟩ := Option.bind_eq_some_iff.1 pastFraction
    obtain ⟨zone, zoned, rfl⟩ := offset?_eq_some_iff.1 hoffset
    -- The whole text is taken apart; what is left is the day, the clock and the end.
    obtain ⟨date, hdate, onDay⟩ := Option.bind_eq_some_iff.1 pastZone
    obtain ⟨instant, hclock, last⟩ := Option.bind_eq_some_iff.1 onDay
    obtain ⟨same, rfl, rfl⟩ := ofParts?_eq_some_iff.1 hdate
    split at last
    · rename_i ended
      cases last
      rw [List.isEmpty_iff.1 ended, List.append_nil]
      have form := IsDateTime.intro (r := ⟨date, hour, minute, second, nano, offset⟩)
        (.intro same years months days) between hours minutes seconds nanos zoned
      refine ⟨⟨date, hour, minute, second, nano, offset⟩, ?_, hclock⟩
      simpa only [List.append_assoc, List.cons_append] using form
    · cases last
  · intro found
    obtain ⟨r, form, clock⟩ := found
    cases form with
    | @intro separator _ hs ms ss fraction zone day between hours minutes seconds nanos offset =>
      cases day with
      | @intro year ys mos ds same years months days =>
        obtain ⟨c, rest, rfl, ends, point⟩ := offset.exists_eq_cons
        simp only [List.append_assoc, List.cons_append]
        refine bind_fixed?_eq_some_iff.2 ⟨_, ys, _, years, rfl, ?_⟩
        refine bind_mark?_eq_some_iff.2 ⟨_, rfl, ?_⟩
        refine bind_fixed?_eq_some_iff.2 ⟨_, mos, _, months, rfl, ?_⟩
        refine bind_mark?_eq_some_iff.2 ⟨_, rfl, ?_⟩
        refine bind_fixed?_eq_some_iff.2 ⟨_, ds, _, days, rfl, ?_⟩
        refine Option.bind_eq_some_iff.2
          ⟨_, separator_eq_some_iff.2 ⟨separator, between, rfl⟩, ?_⟩
        refine bind_fixed?_eq_some_iff.2 ⟨_, hs, _, hours, rfl, ?_⟩
        refine bind_mark?_eq_some_iff.2 ⟨_, rfl, ?_⟩
        refine bind_fixed?_eq_some_iff.2 ⟨_, ms, _, minutes, rfl, ?_⟩
        refine bind_mark?_eq_some_iff.2 ⟨_, rfl, ?_⟩
        refine bind_fixed?_eq_some_iff.2 ⟨_, ss, _, seconds, rfl, ?_⟩
        refine Option.bind_eq_some_iff.2 ⟨_, fraction?_append nanos ends point, ?_⟩
        refine Option.bind_eq_some_iff.2
          ⟨_, offset?_eq_some_iff.2 ⟨c :: rest, offset, (List.append_nil _).symm⟩, ?_⟩
        refine Option.bind_eq_some_iff.2
          ⟨r.date, ofParts?_eq_some_iff.2 ⟨same, rfl, rfl⟩, ?_⟩
        refine Option.bind_eq_some_iff.2 ⟨t, clock, ?_⟩
        rfl

end Sift.Instant
