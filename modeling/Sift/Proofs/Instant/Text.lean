/-
  Sift.Proofs.Instant.Text
  ────────────────────────
  **Which instants are read back from their own text.**

  An instant that was read is *regular*: a leap second is the last second of its minute,
  since offsets are whole minutes.  The text of a regular instant is read back as that
  instant **exactly when its year has four digits without a sign**: then the text is a date-time
  that shows the instant on a clock in UTC.  Any other year is written with its sign, which no
  date-time has, and no bare date has a colon.

  Main results:
  - `regular_of_ofText?` : what a text denotes is regular,
  - `ofText?_text` : a regular instant of the years `0` to `9999` is read back,
  - `ofText?_text_eq_none` : the text of an instant of any other year denotes nothing.
-/
import Sift.Proofs.Instant.BareDate

namespace Sift.Instant

open Text

/-! ## §1. What an instant needs -/

/-- **A leap second is the last second of its minute.** -/
def Regular (t : Instant) : Prop := t.nano < 1000000000 ∨ t.second % 60 = 59

/-- The years that are written in four digits without a sign. -/
def HasPlainYear (t : Instant) : Prop := 0 ≤ t.date.year ∧ t.date.year ≤ 9999

instance (t : Instant) : Decidable t.HasPlainYear := inferInstanceAs (Decidable (_ ∧ _))

/-- A first instant of a day is regular. -/
theorem regular_midnight (d : Date) : (midnight d).Regular := by
  left
  show 0 < 1000000000
  decide

/-! ## §2. Pieces that were written -/

/-- A fraction of a second in `width` digits. -/
theorem isFraction_padded {width n : Nat} (hwidth : 0 < width) (hmost : width ≤ 9)
    (h : n < 10 ^ width) : IsFraction (n * 10 ^ (9 - width)) ('.' :: padded width n) := by
  have len := length_padded hwidth h
  have kept : (padded width n).take 9 = padded width n :=
    List.take_of_length_le (by rw [len]; exact hmost)
  have form := IsFraction.digits (@padded_ne_nil width n) fun _ => isDigit_of_mem_padded
  rwa [kept, digitsValue_padded, len] at form

/-- **A fraction is one that was written**, however few digits it was written in. -/
theorem isFraction_fractionDigits {nano : Nat} (h : nano < 1000000000) :
    IsFraction nano (fractionDigits nano) := by
  unfold fractionDigits
  -- The shortest of zero, three, six or nine digits that loses nothing.
  by_cases whole : nano = 0
  · rw [if_pos whole, whole]
    exact .none
  rw [if_neg whole]
  by_cases milli : nano % 1000000 = 0
  · rw [if_pos milli]
    have form := @isFraction_padded 3 (nano / 1000000) (by decide) (by decide) (by omega)
    rwa [show nano / 1000000 * 10 ^ (9 - 3) = nano by omega] at form
  rw [if_neg milli]
  by_cases micro : nano % 1000 = 0
  · rw [if_pos micro]
    have form := @isFraction_padded 6 (nano / 1000) (by decide) (by decide) (by omega)
    rwa [show nano / 1000 * 10 ^ (9 - 6) = nano by omega] at form
  · rw [if_neg micro]
    have form := @isFraction_padded 9 nano (by decide) (by decide) h
    rwa [show nano * 10 ^ (9 - 9) = nano by omega] at form

theorem isZone_utc : IsZone 0 ['+', '0', '0', ':', '0', '0'] := by
  exact .ahead .zero .zero (by decide)

/-- A clock on UTC shows the instant itself. -/
theorem ofLocal_utc (t : Instant) : ofLocal t.date t.second t.nano 0 t.inSecond = some t := by
  have inDay := t.inDay
  unfold ofLocal
  rw [dif_pos (by omega)]
  show some (Instant.mk t.date ((t.second : Int) - 0).toNat t.nano _ _) = some t
  congr 1

/-- **What a clock in UTC shows** at an instant: sixty stands for a leap second. -/
def utc (t : Instant) : Reading where
  date := t.date
  hour := t.second / 3600
  minute := t.second / 60 % 60
  second := t.second % 60 + t.nano / 1000000000
  nano := t.nano % 1000000000
  offset := 0

theorem utc_midnight (d : Date) : (midnight d).utc = ⟨d, 0, 0, 0, 0, 0⟩ := by
  simp [utc, midnight]

/-- A regular instant is the one that a clock in UTC shows at it. -/
theorem instant?_utc {t : Instant} (h : t.Regular) : t.utc.instant? = some t := by
  have inDay := t.inDay
  have inSecond := t.inSecond
  show ofClock? t.date (t.second / 3600) (t.second / 60 % 60)
    (t.second % 60 + t.nano / 1000000000) (t.nano % 1000000000) 0 = some t
  unfold ofClock?
  rw [if_neg (by unfold Regular at h; omega)]
  by_cases leap : t.nano < 1000000000
  · -- An ordinary second shows below sixty.
    have second : ¬ t.second % 60 + t.nano / 1000000000 = 60 := by omega
    have clock : t.second / 3600 * 3600 + t.second / 60 % 60 * 60
        + (t.second % 60 + t.nano / 1000000000) = t.second := by omega
    have nano : t.nano % 1000000000 = t.nano := Nat.mod_eq_of_lt leap
    simp only [second, if_false, nano, clock, dif_pos inSecond]
    exact ofLocal_utc t
  · -- A leap second shows sixty, which regularity puts at the end of the minute.
    have last : t.second % 60 = 59 := h.resolve_left leap
    have second : t.second % 60 + t.nano / 1000000000 = 60 := by omega
    have clock : t.second / 3600 * 3600 + t.second / 60 % 60 * 60 + 59 = t.second := by omega
    have nano : t.nano % 1000000000 + 1000000000 = t.nano := by omega
    simp only [second, if_true, nano, clock, dif_pos inSecond]
    exact ofLocal_utc t

/-! ## §3. A plain year is read back -/

/-- The text of an instant of a plain year, piece by piece. -/
theorem chars_of_plainYear {t : Instant} (h : t.HasPlainYear) :
    t.chars = padded 4 t.date.year.toNat ++ '-' :: (padded 2 t.date.month ++ '-' ::
      (padded 2 t.date.day ++ 'T' :: (padded 2 (t.second / 3600) ++ ':' ::
      (padded 2 (t.second / 60 % 60) ++ ':' ::
      (padded 2 (t.second % 60 + t.nano / 1000000000) ++
      (fractionDigits (t.nano % 1000000000) ++ '+' :: ['0', '0', ':', '0', '0'])))))) := by
  unfold chars clockDigits yearDigits
  rw [if_pos ⟨h.1, h.2⟩]
  simp only [List.append_assoc, List.cons_append]

/-- **The text of an instant of a plain year is a date-time**, which shows it in UTC. -/
theorem isDateTime_chars {t : Instant} (plain : t.HasPlainYear) : IsDateTime t.utc t.chars := by
  have inDay := t.inDay
  have inSecond := t.inSecond
  obtain ⟨month, day⟩ := parts_lt t.date
  have year : t.date.year = t.date.year.toNat := (Int.toNat_of_nonneg plain.1).symm
  have yearFits : t.date.year.toNat < 10 ^ 4 := by
    have := plain.2
    omega
  have hour : t.utc.hour < 10 ^ 2 := by
    show t.second / 3600 < 10 ^ 2
    omega
  have minute : t.utc.minute < 10 ^ 2 := by
    show t.second / 60 % 60 < 10 ^ 2
    omega
  have second : t.utc.second < 10 ^ 2 := by
    show t.second % 60 + t.nano / 1000000000 < 10 ^ 2
    omega
  have date : IsPlainDate t.utc.date _ :=
    .intro year (.padded (by decide) yearFits) (.padded (by decide) month)
      (.padded (by decide) day)
  -- The nanoseconds past a billion are written as a sixtieth second.
  have form := IsDateTime.intro date (Or.inl rfl) (.padded (by decide) hour)
    (.padded (by decide) minute) (.padded (by decide) second)
    (isFraction_fractionDigits (Nat.mod_lt t.nano (by decide))) isZone_utc
  rw [chars_of_plainYear plain]
  simp only [List.append_assoc, List.cons_append] at form
  exact form

/-- **A regular instant of a plain year is read back from its text.** -/
theorem ofText?_text {t : Instant} (regular : t.Regular) (plain : t.HasPlainYear) :
    ofText? t.text = some t := by
  refine ofText?_eq_some_iff.2 (Or.inl ⟨t.utc, ?_, instant?_utc regular⟩)
  unfold text
  rw [String.toList_ofList]
  exact isDateTime_chars plain

/-! ## §4. What is read is regular -/

/-- An offset is a number of whole minutes. -/
theorem IsZone.minutes {offset : Int} {cs : List Char} (h : IsZone offset cs) :
    offset % 60 = 0 := by
  cases h with
  | utc => rfl
  | ahead | behind => omega

/-- A local clock keeps the nanoseconds, and shifts the second by the offset modulo days. -/
theorem ofLocal_parts {d : Date} {second nano : Nat} {offset : Int} {hnano : nano < 2000000000}
    {t : Instant} (h : ofLocal d second nano offset hnano = some t) :
    t.nano = nano ∧ (t.second : Int) % 60 = (second - offset) % 60 := by
  simp only [ofLocal] at h
  split at h
  · cases h
    refine ⟨rfl, ?_⟩
    -- A day is a whole number of minutes, so the second of the minute stays.
    show ((((second : Int) - offset).toNat : Nat) : Int) % 60 = _
    omega
  split at h
  · cases h
    refine ⟨rfl, ?_⟩
    show ((((second : Int) - offset + 86400).toNat : Nat) : Int) % 60 = _
    omega
  split at h
  · cases h
    refine ⟨rfl, ?_⟩
    show ((((second : Int) - offset - 86400).toNat : Nat) : Int) % 60 = _
    omega
  · cases h

/-- **A clock reading is regular** where the fraction is below a second and the offset is in
whole minutes. -/
theorem regular_of_ofClock? {d : Date} {hour minute second nano : Nat} {offset : Int}
    {t : Instant} (hnano : nano < 1000000000) (minutes : offset % 60 = 0)
    (h : ofClock? d hour minute second nano offset = some t) : t.Regular := by
  unfold ofClock? at h
  split at h
  · cases h
  by_cases leap : second = 60
  · -- A leap second is read as the 59th, and whole minutes keep it there.
    right
    simp only [leap, if_true] at h
    split at h
    · have shift := (ofLocal_parts h).2
      omega
    · cases h
  · left
    simp only [leap, if_false] at h
    split at h
    · rw [(ofLocal_parts h).1]
      exact hnano
    · cases h

/-- The instant that a date-time shows is regular. -/
theorem IsDateTime.regular {r : Reading} {cs : List Char} {t : Instant} (h : IsDateTime r cs)
    (clock : r.instant? = some t) : t.Regular := by
  cases h with
  | intro _ _ _ _ _ nanos offset => exact regular_of_ofClock? nanos.lt offset.minutes clock

/-- **What a text denotes is regular.** -/
theorem regular_of_ofText? {s : String} {t : Instant} (h : ofText? s = some t) : t.Regular := by
  rcases ofText?_eq_some_iff.1 h with ⟨r, form, clock⟩ | ⟨date, -, rfl⟩
  · exact form.regular clock
  · exact regular_midnight date

/-! ## §5. Any other year is not read back -/

/-- The text of an instant of any other year starts with a sign. -/
theorem exists_chars_of_signedYear {t : Instant} (h : ¬ t.HasPlainYear) :
    ∃ sign rest, isDigit sign = false ∧ t.chars = sign :: rest := by
  unfold chars yearDigits
  rw [if_neg fun plain => h ⟨plain.1, plain.2⟩]
  simp only [List.append_assoc, List.cons_append]
  refine ⟨_, _, ?_, rfl⟩
  split
  · decide
  · decide

theorem colon_mem_chars (t : Instant) : ':' ∈ t.chars := by
  unfold chars clockDigits
  simp

/-- **The text of an instant of any other year denotes nothing.** -/
theorem ofText?_text_eq_none {t : Instant} (h : ¬ t.HasPlainYear) : ofText? t.text = none := by
  obtain ⟨sign, rest, notDigit, written⟩ := exists_chars_of_signedYear h
  refine Option.eq_none_iff_forall_ne_some.2 fun other read => ?_
  unfold text at read
  rw [ofText?_eq_some_iff, String.toList_ofList] at read
  -- A date and time begins with a digit, and a bare date has no colon.
  rcases read with ⟨r, dateTime, -⟩ | ⟨date, bareDate, -⟩
  · obtain ⟨d, others, started, digit⟩ := dateTime.exists_eq_cons
    rw [written] at started
    cases started
    rw [notDigit] at digit
    cases digit
  · exact bareDate.colon_not_mem (colon_mem_chars t)

end Sift.Instant
