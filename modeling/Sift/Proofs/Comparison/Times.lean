/-
  Sift.Proofs.Comparison.Times
  ────────────────────────────
  **Comparisons of times: which texts are times, and how they are ordered.**

  Three comparisons take an instant for their operand: before, is and after.  Each reads the
  value as an instant by code of its own, and is false where there is none:

      the value is a time      →  exactly one of the three holds, by the order of moments
      the value is no time     →  none of the three holds
      two texts of one moment  →  the same verdicts, whatever the offsets

  The texts that are times are date-times and bare dates (`Sift.Proofs.Instant.BareDate`), the
  latter in a form much looser than `YYYY-MM-DD`, for operands and values alike.

  Main results: `temporal_comparisons_total`, `bare_date_read_iff`.
-/
import Mathlib.Logic.ExistsUnique
import Sift.Operator.Basic
import Sift.Proofs.Comparison.Laws
import Sift.Proofs.Instant.Moment

namespace Sift.Comparison

open Instant

/-! ## §1. The three verdicts -/

/-- The comparisons of times. -/
def temporal : List Comparison := [before, is, after]

section
variable {value : Option Json} {t d : Instant}

/-- **The verdicts on a time** are those of the moments. -/
theorem holds_temporal_iff (time : value.bind Json.instant? = some t) :
    (holds before value (some (.instant d)) = true ↔ t.moment < d.moment)
      ∧ (holds is value (some (.instant d)) = true ↔ t.moment = d.moment)
      ∧ (holds after value (some (.instant d)) = true ↔ d.moment < t.moment) := by
  -- The value is a text, and what it denotes is compared.
  obtain ⟨v, rfl, read⟩ := Option.bind_eq_some_iff.1 time
  refine ⟨?_, ?_, ?_⟩
  · show v.instant?.any (·.lt d) = true ↔ _
    rw [read]
    exact lt_iff_moment
  · show (v.instant? == some d) = true ↔ _
    rw [read, beq_iff_eq, Option.some_inj, moment_inj]
  · show v.instant?.any (fun a => d.lt a) = true ↔ _
    rw [read]
    exact lt_iff_moment

/-- **What is no time** is neither before, nor at, nor after any. -/
theorem holds_temporal_eq_false (noTime : value.bind Json.instant? = none) :
    ∀ k ∈ temporal, holds k value (some (.instant d)) = false := by
  simp only [temporal, List.forall_mem_cons]
  cases value with
  | none => exact ⟨rfl, rfl, rfl, fun _ member => nomatch member⟩
  | some v =>
    have none : v.instant? = none := noTime
    -- All three ask for the instant first.
    refine ⟨?_, ?_, ?_, fun _ member => nomatch member⟩
    · show v.instant?.any (·.lt d) = false
      rw [none]
      rfl
    · show (v.instant? == some d) = false
      rw [none]
      rfl
    · show v.instant?.any (fun a => d.lt a) = false
      rw [none]
      rfl

/-- **One instant, the same verdicts**, in whatever form it is given. -/
theorem holds_temporal_congr {other : Option Json}
    (same : value.bind Json.instant? = other.bind Json.instant?) :
    ∀ k ∈ temporal, holds k value (some (.instant d)) = holds k other (some (.instant d)) := by
  intro k member
  cases time : value.bind Json.instant? with
  | none =>
    rw [holds_temporal_eq_false time k member,
      holds_temporal_eq_false (same.symm.trans time) k member]
  | some t =>
    obtain ⟨before, equal, after⟩ := @holds_temporal_iff value t d time
    obtain ⟨before', equal', after'⟩ := @holds_temporal_iff other t d (same.symm.trans time)
    -- Both texts denote one instant, so all three verdicts are of its moment.
    rw [Bool.eq_iff_iff]
    simp only [temporal, List.mem_cons, List.not_mem_nil, or_false] at member
    rcases member with rfl | rfl | rfl
    · rw [before, before']
    · rw [equal, equal']
    · rw [after, after']

/-- Texts that denote the same have the same verdicts. -/
theorem holds_temporal_of_ofText?_eq {s s' : String} (same : ofText? s = ofText? s') :
    ∀ k ∈ temporal, holds k (some (.str s)) (some (.instant d)) =
      holds k (some (.str s')) (some (.instant d)) :=
  @holds_temporal_congr (some (.str s)) d (some (.str s')) same

/-- **Exactly one** of the three holds of a time. -/
theorem existsUnique_temporal (time : value.bind Json.instant? = some t) :
    ∃! k, k ∈ temporal ∧ holds k value (some (.instant d)) = true := by
  obtain ⟨before, equal, after⟩ := @holds_temporal_iff value t d time
  simp only [temporal, List.mem_cons, List.not_mem_nil, or_false]
  -- Moments are ordered like whole numbers: one of the three, and never two.
  rcases Int.lt_trichotomy t.moment d.moment with less | same | more
  · refine ⟨_, ⟨Or.inl rfl, before.2 less⟩, ?_⟩
    rintro k ⟨rfl | rfl | rfl, holds⟩
    · rfl
    · exact absurd (equal.1 holds) (Int.ne_of_lt less)
    · exact absurd (after.1 holds) (Int.not_lt.2 (Int.le_of_lt less))
  · refine ⟨_, ⟨Or.inr (Or.inl rfl), equal.2 same⟩, ?_⟩
    rintro k ⟨rfl | rfl | rfl, holds⟩
    · exact absurd same (Int.ne_of_lt (before.1 holds))
    · rfl
    · exact absurd same (Int.ne_of_gt (after.1 holds))
  · refine ⟨_, ⟨Or.inr (Or.inr rfl), after.2 more⟩, ?_⟩
    rintro k ⟨rfl | rfl | rfl, holds⟩
    · exact absurd (before.1 holds) (Int.not_lt.2 (Int.le_of_lt more))
    · exact absurd (equal.1 holds) (Int.ne_of_gt more)
    · rfl

/-- What is before an instant is before the later ones. -/
theorem holds_before_mono {later : Instant} (less : d.moment < later.moment)
    (h : holds before value (some (.instant d)) = true) :
    holds before value (some (.instant later)) = true := by
  cases time : value.bind Json.instant? with
  | none =>
    rw [holds_temporal_eq_false time before (by decide)] at h
    cases h
  | some t =>
    exact (holds_temporal_iff time).1.2 (Int.lt_trans ((holds_temporal_iff time).1.1 h) less)

/-- What is after an instant is after the earlier ones. -/
theorem holds_after_mono {earlier : Instant} (less : earlier.moment < d.moment)
    (h : holds after value (some (.instant d)) = true) :
    holds after value (some (.instant earlier)) = true := by
  cases time : value.bind Json.instant? with
  | none =>
    rw [holds_temporal_eq_false time after (by decide)] at h
    cases h
  | some t =>
    exact (holds_temporal_iff time).2.2.2
      (Int.lt_trans less ((holds_temporal_iff time).2.2.1 h))

end

/-! ## §2. Texts of one moment -/

/-- A date-time within the bounds of a clock denotes the instant of its moment. -/
theorem exists_ofText?_of_isDateTime {s : String} {r : Reading} (form : IsDateTime r s.toList)
    (within : r.OnClock) : ∃ t, ofText? s = some t ∧ t.moment = r.moment := by
  obtain ⟨t, shown⟩ := (Reading.exists_instant?_iff form.nano_lt).2 within
  exact ⟨t, ofText?_eq_some_iff.2 (Or.inl ⟨r, form, shown⟩), Reading.moment_of_instant? shown⟩

/-- **Date-times of one moment denote one instant.** -/
theorem ofText?_eq_of_moment_eq {s s' : String} {r r' : Reading} (form : IsDateTime r s.toList)
    (within : r.OnClock) (form' : IsDateTime r' s'.toList) (within' : r'.OnClock)
    (same : r.moment = r'.moment) : ofText? s = ofText? s' := by
  obtain ⟨t, read, moment⟩ := exists_ofText?_of_isDateTime form within
  obtain ⟨t', read', moment'⟩ := exists_ofText?_of_isDateTime form' within'
  rw [read, read', moment_inj.1 (moment.trans (same.trans moment'.symm))]

/-- A plain date denotes what the date-time of its first second does. -/
theorem ofText?_of_isPlainDate {s : String} {date : Date} (plain : IsPlainDate date s.toList) :
    ofText? s = some (midnight date)
      ∧ ofText? (s ++ "T00:00:00Z") = some (midnight date) := by
  refine ⟨ofText?_eq_some_iff.2 (Or.inr ⟨date, plain.isBareDate, rfl⟩), ?_⟩
  refine ofText?_eq_some_iff.2 (Or.inl ⟨⟨date, 0, 0, 0, 0, 0⟩, ?_, ?_⟩)
  · rw [String.toList_append]
    exact plain.isDateTime
  · rw [← utc_midnight]
    exact instant?_utc (regular_midnight date)

/-- **The text of an instant shows its moment in UTC**, where its year is plain. -/
theorem isDateTime_text {t : Instant} (plain : t.HasPlainYear) (regular : t.Regular) :
    IsDateTime t.utc t.text.toList ∧ t.utc.OnClock ∧ t.utc.offset = 0
      ∧ t.utc.moment = t.moment := by
  have shown := instant?_utc regular
  have form : IsDateTime t.utc t.text.toList := by
    unfold text
    rw [String.toList_ofList]
    exact isDateTime_chars plain
  exact ⟨form, (Reading.exists_instant?_iff form.nano_lt).1 ⟨t, shown⟩, rfl,
    (Reading.moment_of_instant? shown).symm⟩

/-- **THE COMPARISONS OF TIMES ARE TOTAL.**  For every instant `d` as operand:

* of a text that denotes an instant exactly one of before, is and after holds, as its moment is
  less than, the same as, or more than that of `d`;
* before stays true for every later operand, and after for every earlier one;
* of a value that is no text, or one that denotes no instant, none of the three holds;
* a plain date, and there is one for every day of a year of four digits, gives the same verdicts
  as the same date with `T00:00:00Z` behind it;
* a date-time within the bounds of a clock denotes the instant of the moment that it shows, less
  its offset, and date-times of one moment give the same verdicts, whatever their offsets;
* the moment of a text whose year in UTC has four digits has such a text in UTC. -/
theorem temporal_comparisons_total (d : Instant) :
    (∀ s t, ofText? s = some t →
      (∃! k, k ∈ temporal ∧ holds k (some (.str s)) (some (.instant d)) = true)
      ∧ (holds before (some (.str s)) (some (.instant d)) = true ↔ t.moment < d.moment)
      ∧ (holds is (some (.str s)) (some (.instant d)) = true ↔ t.moment = d.moment)
      ∧ (holds after (some (.str s)) (some (.instant d)) = true ↔ d.moment < t.moment))
    ∧ (∀ value other, d.moment < other.moment →
      (holds before value (some (.instant d)) = true →
        holds before value (some (.instant other)) = true)
      ∧ (holds after value (some (.instant other)) = true →
        holds after value (some (.instant d)) = true))
    ∧ (∀ value, (∀ s, value = some (.str s) → ofText? s = none) →
      ∀ k ∈ temporal, holds k value (some (.instant d)) = false)
    ∧ (∀ date : Date, (0 ≤ date.year ∧ date.year ≤ 9999 ↔ ∃ s : String, IsPlainDate date s.toList)
      ∧ ∀ s : String, IsPlainDate date s.toList → ∀ k ∈ temporal,
        holds k (some (.str s)) (some (.instant d)) =
          holds k (some (.str (s ++ "T00:00:00Z"))) (some (.instant d)))
    ∧ (∀ (s : String) (r : Reading), IsDateTime r s.toList → r.OnClock →
      (∃ t, ofText? s = some t ∧ t.moment = r.moment)
      ∧ ∀ (s' : String) (r' : Reading), IsDateTime r' s'.toList → r'.OnClock →
        r.moment = r'.moment → ∀ k ∈ temporal,
          holds k (some (.str s)) (some (.instant d)) =
            holds k (some (.str s')) (some (.instant d)))
    ∧ ∀ s t, ofText? s = some t → t.HasPlainYear →
      (∃ r : Reading, IsDateTime r t.text.toList ∧ r.OnClock ∧ r.offset = 0
        ∧ r.moment = t.moment)
      ∧ ∀ k ∈ temporal, holds k (some (.str s)) (some (.instant d)) =
          holds k (some (.str t.text)) (some (.instant d)) := by
  refine ⟨?_, ?_, ?_, ?_, ?_, ?_⟩
  · intro s t read
    exact ⟨existsUnique_temporal read, holds_temporal_iff read⟩
  · intro value other less
    exact ⟨holds_before_mono less, holds_after_mono less⟩
  · intro value noTime
    refine holds_temporal_eq_false ?_
    cases value with
    | none => rfl
    | some v =>
      cases v with
      | str s => exact noTime s rfl
      | _ => rfl
  · intro date
    refine ⟨exists_isPlainDate_iff.symm, ?_⟩
    intro s plain
    obtain ⟨bare, timed⟩ := ofText?_of_isPlainDate plain
    exact holds_temporal_of_ofText?_eq (bare.trans timed.symm)
  · intro s r form within
    refine ⟨exists_ofText?_of_isDateTime form within, ?_⟩
    intro s' r' form' within' same
    exact holds_temporal_of_ofText?_eq
      (ofText?_eq_of_moment_eq form within form' within' same)
  · intro s t read plain
    -- What a text denotes is regular, so its own text denotes the same.
    have regular := regular_of_ofText? read
    refine ⟨⟨t.utc, isDateTime_text plain regular⟩, ?_⟩
    exact holds_temporal_of_ofText?_eq (read.trans (ofText?_text regular plain).symm)

/-- A leap second at the end of a year, seen from two offsets. -/
example : ofText? "2017-01-01T00:59:60+01:00" = ofText? "2016-12-31T23:59:60Z" := by
  decide +kernel

/-! ## §3. Bare dates as operands and as values -/

section
variable {s : String}

/-- The form of instants accepts a text that denotes one. -/
theorem codec_read_of_ofText? {t : Instant} (read : ofText? s = some t) :
    Form.instant.codec.read (.str s) = .ok (.instant t) := by
  show (Form.readInstant (.str s)).mapError _ = _
  simp only [Form.readInstant, read]
  rfl

/-- It refuses any other text as an invalid instant. -/
theorem codec_read_of_ofText?_eq_none (read : ofText? s = none) :
    Form.instant.codec.read (.str s) = .error (.rejected (.invalidInstant s)) := by
  show (Form.readInstant (.str s)).mapError _ = _
  simp only [Form.readInstant, read]
  rfl

/-- **The form of instants accepts** exactly the texts that denote one, as what they denote. -/
theorem codec_read_text_eq_ok_iff {o : Operand} :
    Form.instant.codec.read (.str s) = .ok o ↔ ∃ t, ofText? s = some t ∧ o = .instant t := by
  cases read : ofText? s with
  | none => simp [codec_read_of_ofText?_eq_none read]
  | some t => simp [codec_read_of_ofText? read, eq_comm]

/-- **It refuses** exactly the others, with one error. -/
theorem codec_read_text_eq_error_iff {e : Error} :
    Form.instant.codec.read (.str s) = .error e ↔
      ofText? s = none ∧ e = .rejected (.invalidInstant s) := by
  cases read : ofText? s with
  | none => simp [codec_read_of_ofText?_eq_none read, eq_comm]
  | some t => simp [codec_read_of_ofText? read]

/-- What is no date-time denotes an instant where it is a bare date. -/
theorem ofText?_eq_some_iff_isBareDate (other : ofDateTime? s.toList = none) {t : Instant} :
    ofText? s = some t ↔ ∃ date, IsBareDate date s.toList ∧ t = midnight date := by
  unfold ofText?
  rw [other, Option.none_or, ofBareDate?_eq_some_iff]

/-- It denotes none where it is no bare date. -/
theorem ofText?_eq_none_iff_isBareDate (other : ofDateTime? s.toList = none) :
    ofText? s = none ↔ ¬ ∃ date, IsBareDate date s.toList := by
  rw [Option.eq_none_iff_forall_ne_some]
  simp only [ne_eq, ofText?_eq_some_iff_isBareDate other]
  constructor
  · rintro none ⟨date, bare⟩
    exact none (midnight date) ⟨date, bare, rfl⟩
  · rintro none t ⟨date, bare, -⟩
    exact none ⟨date, bare⟩

end

/-- **BARE DATES ARE READ LOOSELY.**  For every text that is no date-time:

* the form of instants accepts it exactly when it is a bare date, blanks before the numbers,
  short numbers and signed years included, and then as midnight UTC of its day; any other text
  it refuses as an invalid instant;
* the comparisons of times take it for a time under the same condition;
* it has the documented form `YYYY-MM-DD` of a day exactly when it is a bare date of ten
  characters that starts with a digit and has no blank. -/
theorem bare_date_read_iff {s : String} (other : ofDateTime? s.toList = none) :
    ((∀ o, Form.instant.codec.read (.str s) = .ok o ↔
        ∃ date, IsBareDate date s.toList ∧ o = .instant (midnight date))
      ∧ ∀ e, Form.instant.codec.read (.str s) = .error e ↔
        (¬ ∃ date, IsBareDate date s.toList)
          ∧ e = .invalidOperand ("无法解析日期时间: '" ++ s ++ "'") (some "invalid_datetime") none)
    ∧ (∀ d : Instant,
      (∀ date, IsBareDate date s.toList →
        (holds before (some (.str s)) (some (.instant d)) = true ↔
            (midnight date).moment < d.moment)
          ∧ (holds is (some (.str s)) (some (.instant d)) = true ↔
            (midnight date).moment = d.moment)
          ∧ (holds after (some (.str s)) (some (.instant d)) = true ↔
            d.moment < (midnight date).moment))
      ∧ ((¬ ∃ date, IsBareDate date s.toList) →
        ∀ k ∈ temporal, holds k (some (.str s)) (some (.instant d)) = false))
    ∧ ∀ date, IsPlainDate date s.toList ↔ IsBareDate date s.toList ∧ s.toList.length = 10
      ∧ (∃ c rest, s.toList = c :: rest ∧ Text.isDigit c = true)
      ∧ ∀ c ∈ s.toList, Text.isBlank c = false := by
  refine ⟨⟨?_, ?_⟩, ?_, fun date => isPlainDate_iff⟩
  · intro o
    -- No other form is left, so what is read is midnight of the date.
    rw [codec_read_text_eq_ok_iff]
    simp only [ofText?_eq_some_iff_isBareDate other]
    constructor
    · rintro ⟨_, ⟨date, bare, rfl⟩, rfl⟩
      exact ⟨date, bare, rfl⟩
    · rintro ⟨date, bare, rfl⟩
      exact ⟨midnight date, ⟨date, bare, rfl⟩, rfl⟩
  · intro e
    rw [codec_read_text_eq_error_iff, ofText?_eq_none_iff_isBareDate other]
    rfl
  · intro d
    refine ⟨fun date bare => ?_, fun none => ?_⟩
    · exact holds_temporal_iff ((ofText?_eq_some_iff_isBareDate other).2 ⟨date, bare, rfl⟩)
    · exact holds_temporal_eq_false ((ofText?_eq_none_iff_isBareDate other).2 none)

/-- A blank, a signed year of five digits and short numbers, as in the general statement. -/
theorem bare_date_read_signed_year :
    ofDateTime? " +02024-1- 5".toList = none
      ∧ Form.instant.codec.read (.str " +02024-1- 5") =
        .ok (.instant (midnight ⟨2024, 1, 5, by decide⟩)) := by
  have other : ofDateTime? " +02024-1- 5".toList = none := by decide +kernel
  -- Blanks, sign and digits as the grammar splits them.
  have pieces : " +02024-1- 5".toList =
      [' '] ++ (['+', '0', '2', '0', '2', '4'] ++ '-' ::
        ([] ++ (['1'] ++ '-' :: ([' '] ++ ['5'])))) := by
    decide +kernel
  have year : Text.Numeral 1 5 2024 ['0', '2', '0', '2', '4'] :=
    ⟨by simp [Text.isDigit], by decide, by decide, by decide⟩
  have month : Text.Numeral 1 2 1 ['1'] :=
    ⟨by simp [Text.isDigit], by decide, by decide, by decide⟩
  have day : Text.Numeral 1 2 5 ['5'] :=
    ⟨by simp [Text.isDigit], by decide, by decide, by decide⟩
  have bare : IsBareDate ⟨2024, 1, 5, by decide⟩ " +02024-1- 5".toList := by
    rw [pieces]
    exact .intro (by simp [Text.isBlank]) (.after year) (by decide) month day
  exact ⟨other, ((bare_date_read_iff other).1.1 _).2 ⟨_, bare, rfl⟩⟩

/-- **Short numbers are read**: a date of eight characters is accepted as an operand and taken
for a time, and it is no plain date. -/
theorem short_date_is_read :
    ofDateTime? "2024-1-5".toList = none
      ∧ Form.instant.codec.read (.str "2024-1-5") =
        .ok (.instant (midnight ⟨2024, 1, 5, by decide⟩))
      ∧ holds is (some (.str "2024-1-5"))
        (some (.instant (midnight ⟨2024, 1, 5, by decide⟩))) = true
      ∧ ¬ ∃ date, IsPlainDate date "2024-1-5".toList := by
  have read : ofText? "2024-1-5" = some (midnight ⟨2024, 1, 5, by decide⟩) := by decide +kernel
  have time := @holds_temporal_iff (some (.str "2024-1-5")) _
    (midnight ⟨2024, 1, 5, by decide⟩) read
  refine ⟨by decide +kernel, codec_read_of_ofText? read, time.2.1.2 rfl, ?_⟩
  -- A plain date has ten characters.
  rintro ⟨date, plain⟩
  have length : "2024-1-5".toList.length = 8 := by decide +kernel
  rw [plain.spelling.1] at length
  cases length

end Sift.Comparison
