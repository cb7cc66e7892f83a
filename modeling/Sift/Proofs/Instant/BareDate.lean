/-
  Sift.Proofs.Instant.BareDate
  ────────────────────────────
  **The texts of bare dates, as a grammar, and what a text denotes.**

  `IsBareDate` is the loose form that the reader accepts, and accepts exactly; a plain date,
  `YYYY-MM-DD`, is the strict form:

      a bare date is plain  ↔  ten characters, a digit first and no blank  (`isPlainDate_iff`)

  No text is both a date-time and a bare date, since only a date-time has a colon, so the order
  in which the two are tried does not matter.

  Main results: `ofBareDate?_eq_some_iff`, `ofText?_eq_some_iff`.
-/
import Sift.Proofs.Instant.DateTime
import Sift.Proofs.Text.Blank

namespace Sift.Instant

open Text

/-! ## §1. Bare dates -/

/-- **A year of a bare date**: one to four digits, or a sign and any number of them. -/
inductive NamesYear : Int → List Char → Prop
  | digits {n : Nat} {ds : List Char} (numeral : Numeral 1 4 n ds) : NamesYear n ds
  | after {n : Nat} {ds : List Char} (numeral : Numeral 1 ds.length n ds) :
      NamesYear n ('+' :: ds)
  | before {n : Nat} {ds : List Char} (numeral : Numeral 1 ds.length n ds) :
      NamesYear (-n) ('-' :: ds)

/-- **A bare date**, as loosely as it may be written: blanks before each number, a month and a
day of one or two digits, and a year in the range of the calendar. -/
inductive IsBareDate (date : Date) : List Char → Prop
  | intro {b₁ ys b₂ ms b₃ ds : List Char}
      (blank : ∀ c ∈ b₁ ++ (b₂ ++ b₃), isBlank c = true) (year : NamesYear date.year ys)
      (inRange : yearInRange date.year = true) (month : Numeral 1 2 date.month ms)
      (day : Numeral 1 2 date.day ds) :
      IsBareDate date (b₁ ++ (ys ++ '-' :: (b₂ ++ (ms ++ '-' :: (b₃ ++ ds)))))

/-- A year starts with a digit or a sign, and no blank. -/
theorem NamesYear.exists_eq_cons {year : Int} {ys : List Char} (h : NamesYear year ys) :
    ∃ c rest, ys = c :: rest ∧ (isDigit c = true ∨ c = '+' ∨ c = '-') := by
  cases h with
  | digits numeral =>
    obtain ⟨d, rest, rfl, digit⟩ := numeral.exists_eq_cons (by decide)
    exact ⟨d, rest, rfl, Or.inl digit⟩
  | after => exact ⟨_, _, rfl, Or.inr (Or.inl rfl)⟩
  | before => exact ⟨_, _, rfl, Or.inr (Or.inr rfl)⟩

theorem trimLeft_blank_numeral {b ds : List Char} {least most n : Nat}
    (blank : ∀ c ∈ b, isBlank c = true) (numeral : Numeral least most n ds)
    (positive : 0 < least) (rest : List Char) : trimLeft (b ++ (ds ++ rest)) = ds ++ rest := by
  obtain ⟨d, others, rfl, digit⟩ := numeral.exists_eq_cons positive
  exact trimLeft_blank_append blank (isBlank_of_isDigit digit) (others ++ rest)

theorem namesYear_of_year? {year : Int} {cs rest : List Char}
    (read : year? cs = some (year, rest)) : ∃ ys, NamesYear year ys ∧ cs = ys ++ rest := by
  -- After a sign the whole run of digits is the number.
  have run : ∀ {digits : List Char}, ¬ (spanDigits digits).1.isEmpty = true →
      Numeral 1 (spanDigits digits).1.length (digitsValue (spanDigits digits).1)
        (spanDigits digits).1 := by
    intro digits nonempty
    refine ⟨fun c => isDigit_of_mem_spanDigits, ?_, Nat.le_refl _, rfl⟩
    exact List.length_pos_iff.2 fun none => nonempty (List.isEmpty_iff.2 none)
  unfold year? at read
  split at read
  · dsimp only at read
    split at read
    · cases read
    · rename_i digits nonempty
      cases read
      refine ⟨_, .before (run nonempty), ?_⟩
      rw [List.cons_append]
      exact congrArg _ List.takeWhile_append_dropWhile.symm
  · dsimp only at read
    split at read
    · cases read
    · rename_i digits nonempty
      cases read
      refine ⟨_, .after (run nonempty), ?_⟩
      rw [List.cons_append]
      exact congrArg _ List.takeWhile_append_dropWhile.symm
  · obtain ⟨⟨n, after⟩, digits, same⟩ := Option.map_eq_some_iff.1 read
    cases same
    obtain ⟨ds, numeral, split⟩ := numeral_of_upTo? digits
    exact ⟨ds, .digits numeral, split⟩

/-- **A year is read** up to the dash after it. -/
theorem year?_append {year : Int} {ys : List Char} (h : NamesYear year ys) (rest : List Char) :
    year? (ys ++ '-' :: rest) = some (year, '-' :: rest) := by
  have dash : isDigit '-' = false := by decide
  cases h with
  | @digits n ds numeral =>
    obtain ⟨d, others, rfl, digit⟩ := numeral.exists_eq_cons (by decide)
    have read := upTo?_append numeral (endsRun_cons dash rest)
    unfold year?
    split
    · -- A year without a sign begins with a digit, so neither signed branch is taken.
      rename_i sign
      cases sign
      exact absurd digit (by decide)
    · rename_i sign
      cases sign
      exact absurd digit (by decide)
    · rw [read]
      rfl
  | @after n ds numeral =>
    obtain ⟨d, others, rfl, digit⟩ := numeral.exists_eq_cons (by decide)
    simp only [List.cons_append, year?]
    rw [← List.cons_append, spanDigits_append numeral.digits dash]
    simp [numeral.value]
  | @before n ds numeral =>
    obtain ⟨d, others, rfl, digit⟩ := numeral.exists_eq_cons (by decide)
    simp only [List.cons_append, year?]
    rw [← List.cons_append, spanDigits_append numeral.digits dash]
    simp [numeral.value]

/-- **A bare date is read** exactly where the whole text is one, as midnight of its day. -/
theorem ofBareDate?_eq_some_iff {cs : List Char} {t : Instant} :
    ofBareDate? cs = some t ↔ ∃ date, IsBareDate date cs ∧ t = midnight date := by
  unfold ofBareDate?
  constructor
  · intro read
    obtain ⟨⟨year, afterYear⟩, hyear, pastYear⟩ := Option.bind_eq_some_iff.1 read
    obtain ⟨afterDash, rfl, pastDash⟩ := bind_mark?_eq_some_iff.1 pastYear
    obtain ⟨⟨month, afterMonth⟩, hmonth, pastMonth⟩ := Option.bind_eq_some_iff.1 pastDash
    obtain ⟨afterDash', rfl, pastDash'⟩ := bind_mark?_eq_some_iff.1 pastMonth
    obtain ⟨⟨day, afterDay⟩, hday, last⟩ := Option.bind_eq_some_iff.1 pastDash'
    dsimp only at last
    split at last
    · rename_i ended
      rw [Bool.and_eq_true, List.isEmpty_iff] at ended
      obtain ⟨date, hdate, same⟩ := Option.bind_eq_some_iff.1 last
      cases same
      obtain ⟨rfl, rfl, rfl⟩ := ofParts?_eq_some_iff.1 hdate
      obtain ⟨rfl, inRange⟩ := ended
      -- The blanks dropped before each number belong to the text as well.
      obtain ⟨b₁, blank₁, split₁⟩ := exists_blank_append_trimLeft cs
      obtain ⟨ys, years, hys⟩ := namesYear_of_year? hyear
      obtain ⟨b₂, blank₂, split₂⟩ := exists_blank_append_trimLeft afterDash
      obtain ⟨ms, months, hms⟩ := numeral_of_upTo? hmonth
      obtain ⟨b₃, blank₃, split₃⟩ := exists_blank_append_trimLeft afterDash'
      obtain ⟨ds, days, hds⟩ := numeral_of_upTo? hday
      rw [hds, List.append_nil] at split₃
      rw [hms, split₃] at split₂
      rw [hys, split₂] at split₁
      refine ⟨date, ?_, rfl⟩
      rw [split₁]
      refine .intro ?_ years inRange months days
      simp only [List.mem_append]
      rintro c (member | member | member)
      · exact blank₁ c member
      · exact blank₂ c member
      · exact blank₃ c member
    · cases last
  · intro found
    obtain ⟨date, form, rfl⟩ := found
    cases form with
    | @intro b₁ ys b₂ ms b₃ ds blank year inRange month day =>
      simp only [List.mem_append] at blank
      have dash : isDigit '-' = false := by decide
      have trimmed : trimLeft (b₁ ++ (ys ++ '-' :: (b₂ ++ (ms ++ '-' :: (b₃ ++ ds)))))
          = ys ++ '-' :: (b₂ ++ (ms ++ '-' :: (b₃ ++ ds))) := by
        obtain ⟨c, rest, rfl, first⟩ := year.exists_eq_cons
        refine trimLeft_blank_append (fun c h => blank c (Or.inl h)) ?_ _
        rcases first with digit | rfl | rfl
        · exact isBlank_of_isDigit digit
        · decide
        · decide
      rw [trimmed]
      refine Option.bind_eq_some_iff.2 ⟨_, year?_append year _, ?_⟩
      refine bind_mark?_eq_some_iff.2 ⟨_, rfl, ?_⟩
      dsimp only
      rw [trimLeft_blank_numeral (fun c h => blank c (Or.inr (Or.inl h))) month (by decide)]
      refine Option.bind_eq_some_iff.2 ⟨_, upTo?_append month (endsRun_cons dash _), ?_⟩
      refine bind_mark?_eq_some_iff.2 ⟨_, rfl, ?_⟩
      have last := trimLeft_blank_numeral (fun c h => blank c (Or.inr (Or.inr h))) day
        (by decide) []
      rw [List.append_nil] at last
      dsimp only
      rw [last]
      have read := upTo?_append day endsRun_nil
      rw [List.append_nil] at read
      refine Option.bind_eq_some_iff.2 ⟨_, read, ?_⟩
      dsimp only
      rw [if_pos (by simp [inRange])]
      exact Option.bind_eq_some_iff.2 ⟨date, ofParts?_eq_some_iff.2 ⟨rfl, rfl, rfl⟩, rfl⟩

/-! ## §2. Plain dates -/

section
variable {date : Date} {cs : List Char}

/-- A plain date has ten characters, starts with a digit and has no blank. -/
theorem IsPlainDate.spelling (h : IsPlainDate date cs) :
    cs.length = 10 ∧ (∃ d rest, cs = d :: rest ∧ isDigit d = true)
      ∧ ∀ c ∈ cs, isBlank c = false := by
  cases h with
  | @intro year ys ms ds same years months days =>
    obtain ⟨d, rest, hys, digit⟩ := years.exists_eq_cons (by decide)
    refine ⟨?_, ⟨d, rest ++ '-' :: (ms ++ '-' :: ds), by rw [hys, List.cons_append], digit⟩, ?_⟩
    · -- Four, two and two digits with a dash between them.
      have y := Nat.le_antisymm years.le_most years.least_le
      have m := Nat.le_antisymm months.le_most months.least_le
      have d := Nat.le_antisymm days.le_most days.least_le
      simp only [List.length_append, List.length_cons]
      omega
    · simp only [List.mem_append, List.mem_cons]
      rintro c (member | rfl | member | rfl | member)
      · exact isBlank_of_isDigit (years.digits c member)
      · decide
      · exact isBlank_of_isDigit (months.digits c member)
      · decide
      · exact isBlank_of_isDigit (days.digits c member)

/-- Four digits name a year of `0` to `9999`. -/
theorem IsPlainDate.year_range (h : IsPlainDate date cs) : 0 ≤ date.year ∧ date.year ≤ 9999 := by
  cases h with
  | @intro year ys ms ds same years months days =>
    have few : year < 10 ^ 4 := by
      rw [← years.value, ← Nat.le_antisymm years.le_most years.least_le]
      exact digitsValue_lt years.digits
    omega

/-- **A day has a plain date** exactly when its year has four digits. -/
theorem exists_isPlainDate_iff :
    (∃ s : String, IsPlainDate date s.toList) ↔ 0 ≤ date.year ∧ date.year ≤ 9999 := by
  constructor
  · rintro ⟨s, plain⟩
    exact plain.year_range
  · rintro ⟨lower, upper⟩
    obtain ⟨month, day⟩ := parts_lt date
    have year : date.year = date.year.toNat := (Int.toNat_of_nonneg lower).symm
    have fits : date.year.toNat < 10 ^ 4 := by omega
    -- The padded numerals are the one spelling that a plain date has.
    have form := IsPlainDate.intro year (.padded (by decide) fits) (.padded (by decide) month)
      (.padded (by decide) day)
    exact ⟨String.ofList _, by rwa [String.toList_ofList]⟩

/-- **Every plain date is a bare date.** -/
theorem IsPlainDate.isBareDate (h : IsPlainDate date cs) : IsBareDate date cs := by
  have range := h.year_range
  have inRange : yearInRange date.year = true := by
    unfold yearInRange
    rw [Bool.and_eq_true, decide_eq_true_eq, decide_eq_true_eq]
    omega
  cases h with
  | @intro year ys ms ds same years months days =>
    have year : NamesYear date.year ys := by
      rw [same]
      exact .digits (years.mono (by decide) (by decide))
    exact @IsBareDate.intro date [] ys [] ms [] ds (by simp) year inRange
      (months.mono (by decide) (by decide)) (days.mono (by decide) (by decide))

/-- **A bare date is plain** exactly when it has ten characters, starts with a digit and has no
blank: then no number can be shorter than in a plain date. -/
theorem isPlainDate_iff :
    IsPlainDate date cs ↔ IsBareDate date cs ∧ cs.length = 10
      ∧ (∃ d rest, cs = d :: rest ∧ isDigit d = true) ∧ ∀ c ∈ cs, isBlank c = false := by
  constructor
  · intro plain
    exact ⟨plain.isBareDate, plain.spelling⟩
  · rintro ⟨bare, length, ⟨first, others, head, digit⟩, tight⟩
    cases bare with
    | @intro b₁ ys b₂ ms b₃ ds blank year inRange month day =>
      have none : ∀ b : List Char, (∀ c ∈ b, isBlank c = true ∧ isBlank c = false) → b = [] := by
        intro b both
        refine List.eq_nil_iff_forall_not_mem.2 fun c member => ?_
        exact absurd ((both c member).1.symm.trans (both c member).2) (by decide)
      obtain rfl : b₁ = [] := none b₁ fun c h => ⟨blank c (by simp [h]), tight c (by simp [h])⟩
      obtain rfl : b₂ = [] := none b₂ fun c h => ⟨blank c (by simp [h]), tight c (by simp [h])⟩
      obtain rfl : b₃ = [] := none b₃ fun c h => ⟨blank c (by simp [h]), tight c (by simp [h])⟩
      simp only [List.nil_append, List.length_append, List.length_cons] at head length ⊢
      generalize hyear : date.year = named at year
      cases year with
      | @digits n ys numeral =>
        -- The widths are at most 4, 2 and 2, and they add up to 8.
        have y := numeral.le_most
        have m := month.le_most
        have d := day.le_most
        exact .intro hyear ⟨numeral.digits, by omega, y, numeral.value⟩
          ⟨month.digits, by omega, m, month.value⟩ ⟨day.digits, by omega, d, day.value⟩
      | after | before =>
        cases head
        exact absurd digit (by decide)

/-- A plain date with the first hour behind it is a date-time. -/
theorem IsPlainDate.isDateTime (h : IsPlainDate date cs) :
    IsDateTime ⟨date, 0, 0, 0, 0, 0⟩ (cs ++ "T00:00:00Z".toList) := by
  exact @IsDateTime.intro ⟨date, 0, 0, 0, 0, 0⟩ 'T' cs ['0', '0'] ['0', '0'] ['0', '0'] [] ['Z']
    h (Or.inl rfl) .zero .zero .zero .none (.utc (Or.inl rfl))

/-! ## §3. Texts -/

theorem colon_not_mem_of_numeral {least most n : Nat} {ds : List Char}
    (h : Numeral least most n ds) : ':' ∉ ds :=
  fun member => absurd (h.digits ':' member) (by decide)

theorem NamesYear.colon_not_mem {year : Int} {ys : List Char} (h : NamesYear year ys) :
    ':' ∉ ys := by
  cases h with
  | digits numeral => exact colon_not_mem_of_numeral numeral
  | after numeral => simp [colon_not_mem_of_numeral numeral]
  | before numeral => simp [colon_not_mem_of_numeral numeral]

theorem IsBareDate.colon_not_mem (h : IsBareDate date cs) : ':' ∉ cs := by
  intro colon
  cases h with
  | @intro b₁ ys b₂ ms b₃ ds blank year inRange month day =>
    simp only [List.mem_append, List.mem_cons, colon_not_mem_of_numeral month,
      colon_not_mem_of_numeral day, year.colon_not_mem] at colon blank
    have among : ':' ∈ b₁ ∨ ':' ∈ b₂ ∨ ':' ∈ b₃ := by simpa using colon
    exact absurd (blank ':' among) (by decide)

/-- **No text is a date-time and a bare date**: only the one has a colon. -/
theorem IsDateTime.not_isBareDate {r : Reading} (h : IsDateTime r cs) : ¬ IsBareDate date cs := by
  intro bare
  refine bare.colon_not_mem ?_
  cases h
  simp

end

/-- **What a text denotes**: the instant of the clock reading that it shows, or midnight of the
day that it names. -/
theorem ofText?_eq_some_iff {s : String} {t : Instant} :
    ofText? s = some t ↔ (∃ r : Reading, IsDateTime r s.toList ∧ r.instant? = some t)
      ∨ ∃ date, IsBareDate date s.toList ∧ t = midnight date := by
  unfold ofText?
  rw [Option.or_eq_some_iff, ofDateTime?_eq_some_iff, ofBareDate?_eq_some_iff]
  constructor
  · intro read
    rcases read with dateTime | ⟨-, bareDate⟩
    · exact Or.inl dateTime
    · exact Or.inr bareDate
  · intro form
    rcases form with dateTime | bareDate
    · exact Or.inl dateTime
    · refine Or.inr ⟨?_, bareDate⟩
      -- No text has both forms, so reading it as a date and time has failed.
      obtain ⟨date, bare, -⟩ := bareDate
      refine Option.eq_none_iff_forall_ne_some.2 fun other read => ?_
      obtain ⟨r, dateTime, -⟩ := ofDateTime?_eq_some_iff.1 read
      exact dateTime.not_isBareDate bare

end Sift.Instant
