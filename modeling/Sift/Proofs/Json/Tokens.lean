/-
  Sift.Proofs.Json.Tokens
  ───────────────────────
  **Numbers and strings are read back from their texts.**

  Every piece of a text is read with anything behind it.  A string goes on to its closing quote, so
  whatever follows is left (`string?_quoted`).  A number goes on as long as it can, so what follows
  must not continue it (`EndsNumber`): then it is read as it is alone (`number?_append`).

  A whole number is read back (`number?_intDigits`).  A binary64 number is scaled by a power of
  ten when it is read, with a rounding at each step, and may come out as a neighbour: that it is
  read back is a property of the number (`Number.IsReadBack`).
-/
import Sift.Json.Text
import Sift.Proofs.Json.Nesting
import Sift.Proofs.Text.Digits

namespace Sift.Json

open Text

namespace Reader

/-! ## §1. Strings -/

theorem hexValue?_hexDigit : ∀ n < 16, hexValue? (hexDigit n) = some n := by decide

/-- **The escape of a small code** stands for its character. -/
theorem unicodeEscape?_hexDigits {n : Nat} (small : n < 256) (rest : List Char) :
    unicodeEscape? ('0' :: '0' :: hexDigit (n / 16) :: hexDigit (n % 16) :: rest) =
      some (Char.ofNat n, rest) := by
  have zero : hexValue? '0' = some 0 := by decide
  have high := hexValue?_hexDigit (n / 16) (by omega)
  have low := hexValue?_hexDigit (n % 16) (by omega)
  have code : ((0 * 16 + 0) * 16 + n / 16) * 16 + n % 16 = n := by omega
  have quad : hexQuad? ('0' :: '0' :: hexDigit (n / 16) :: hexDigit (n % 16) :: rest) =
      some (n, rest) := by
    unfold hexQuad?
    simp only [zero, high, low, Option.bind_eq_bind, Option.bind_some, code]
    rfl
  -- Two zeros in front keep the code far below the surrogates.
  have noSurrogate : n < 0xD800 := by omega
  unfold unicodeEscape?
  simp only [quad, Option.bind_eq_bind, Option.bind_some, noSurrogate, decide_true, Bool.true_or,
    if_true]
  rfl

/-- **An escaped character** is read back in one step. -/
theorem stringRest?_escapeChar (fuel : Nat) (done : List Char) (c : Char) (rest : List Char) :
    stringRest? (fuel + 1) done (escapeChar c ++ rest) = stringRest? fuel (c :: done) rest := by
  have byCode : ∀ {n : Nat}, c.toNat = n → c = Char.ofNat n := fun code => by
    rw [← code, Char.ofNat_toNat]
  unfold escapeChar
  split
  · rename_i quote
    rw [quote]
    rfl
  split
  · rename_i backslash
    rw [backslash]
    rfl
  -- The five control characters with a letter of their own.
  iterate 5
    split
    · rename_i code
      rw [byCode code]
      rfl
  split
  · -- Any other control character is written by its code.
    rename_i control
    have escaped := unicodeEscape?_hexDigits (by omega : c.toNat < 256) rest
    rw [Char.ofNat_toNat] at escaped
    show stringRest? (fuel + 1) done
      ('\\' :: 'u' :: '0' :: '0' :: hexDigit (c.toNat / 16) :: hexDigit (c.toNat % 16) :: rest) = _
    rw [stringRest?]
    simp only [escaped]
    rfl
  · rename_i notQuote notBackslash _ _ _ _ _ notControl
    show stringRest? (fuel + 1) done (c :: rest) = _
    rw [stringRest?.eq_def]
    dsimp only
    rw [if_neg notQuote, if_neg notBackslash, if_neg notControl]

/-- The characters of a string are read back one by one, up to the closing quote. -/
theorem stringRest?_flatMap (rest : List Char) :
    ∀ {cs : List Char} {fuel : Nat} (done : List Char), cs.length < fuel →
      stringRest? fuel done (cs.flatMap escapeChar ++ '"' :: rest) =
        some (String.ofList (done.reverse ++ cs), rest)
  | _, 0, _, h => absurd h (Nat.not_lt_zero _)
  | [], fuel + 1, done, _ => by
      rw [List.flatMap_nil, List.nil_append, List.append_nil]
      rfl
  | c :: cs, fuel + 1, done, h => by
      have fewer : cs.length < fuel := Nat.lt_of_succ_lt_succ h
      rw [List.flatMap_cons, List.append_assoc, stringRest?_escapeChar,
        stringRest?_flatMap rest (c :: done) fewer, List.reverse_cons, List.append_assoc,
        List.singleton_append]

/-- A character is written in one character or more. -/
theorem length_le_length_flatMap_escapeChar (cs : List Char) :
    cs.length ≤ (cs.flatMap escapeChar).length := by
  induction cs with
  | nil => exact Nat.le_refl _
  | cons c cs ih =>
    have one : 1 ≤ (escapeChar c).length := by
      unfold escapeChar
      repeat' split
      all_goals simp
    rw [List.flatMap_cons, List.length_append, List.length_cons]
    omega

/-- **A string is read back**, and what follows it is left. -/
theorem string?_quoted (s : String) (rest : List Char) :
    string? (quoted s ++ rest) = some (s, rest) := by
  have enough : s.toList.length < (s.toList.flatMap escapeChar ++ '"' :: rest).length.succ := by
    have := length_le_length_flatMap_escapeChar s.toList
    rw [List.length_append]
    omega
  have text : quoted s ++ rest = '"' :: (s.toList.flatMap escapeChar ++ '"' :: rest) := by
    simp [quoted]
  rw [text, string?, stringRest?_flatMap rest [] enough, List.reverse_nil, List.nil_append,
    String.ofList_toList]

/-! ## §2. Numbers -/

/-- A character that numbers are written in. -/
def isNumeric (c : Char) : Bool := isDigit c || c = '-' || c = '.' || c = 'e' || c = '+'

theorem isNumeric_of_isDigit {c : Char} (digit : isDigit c = true) : isNumeric c = true := by
  simp [isNumeric, digit]

/-- A numeric character is no other one. -/
theorem ne_of_isNumeric {c : Char} (h : isNumeric c = true) (d : Char)
    (other : isNumeric d = false) : c ≠ d := by
  rintro rfl
  rw [h] at other
  cases other

/-- A numeric character does not stand between tokens. -/
theorem isSpace_of_isNumeric {c : Char} (h : isNumeric c = true) : isSpace c = false := by
  have apart := @ne_of_isNumeric c h
  simp only [isSpace, Bool.or_eq_false_iff, decide_eq_false_iff_not]
  exact ⟨⟨⟨apart _ rfl, apart _ rfl⟩, apart _ rfl⟩, apart _ rfl⟩

/-- Nothing of the rest continues a number. -/
def EndsNumber (rest : List Char) : Prop :=
  ∀ c ∈ rest.head?, isDigit c = false ∧ c ≠ '.' ∧ c ≠ 'e' ∧ c ≠ 'E'

theorem endsNumber_nil : EndsNumber [] := fun c hc => by cases hc

theorem endsNumber_cons {c : Char} {rest : List Char}
    (h : isDigit c = false ∧ c ≠ '.' ∧ c ≠ 'e' ∧ c ≠ 'E') : EndsNumber (c :: rest) := by
  intro d hd
  cases hd
  exact h

/-- The sign of an exponent, and its digits. -/
def exponentSign : List Char → Bool × List Char
  | '-' :: cs => (true, cs)
  | '+' :: cs => (false, cs)
  | cs => (false, cs)

/-- An exponent is what stands after its letter: a sign and digits. -/
theorem exponent?_cons {c : Char} (letter : (c = 'e' || c = 'E') = true) (cs : List Char) :
    exponent? (c :: cs) =
      if (spanDigits (exponentSign cs).2).1.isEmpty then none
      else some (some (if (exponentSign cs).1
        then -(digitsValue (spanDigits (exponentSign cs).2).1 : Int)
        else digitsValue (spanDigits (exponentSign cs).2).1), (spanDigits (exponentSign cs).2).2) := by
  rw [exponent?.eq_def]
  dsimp only
  rw [if_pos letter]
  rfl

/-- A sign is the first character, or there is none. -/
theorem exponentSign_append {cs : List Char} (some : cs ≠ []) (rest : List Char) :
    exponentSign (cs ++ rest) = ((exponentSign cs).1, (exponentSign cs).2 ++ rest) := by
  cases cs with
  | nil => exact absurd rfl some
  | cons c cs =>
    rw [List.cons_append]
    unfold exponentSign
    split <;> simp_all

/-- The sign of a number, and what stands after it. -/
def numberSign : List Char → Bool × List Char
  | '-' :: cs => (true, cs)
  | cs => (false, cs)

/-- A number is its sign and its three parts. -/
theorem number?_eq (cs : List Char) :
    number? cs =
      (wholePart? (numberSign cs).2).bind fun whole => (fraction? whole.2).bind fun part =>
        (exponent? part.2).bind fun exponent =>
          (numberValue? (numberSign cs).1 whole.1 part.1 exponent.1).bind fun value =>
            some (value, exponent.2) := by
  rfl

theorem numberSign_append {cs : List Char} (some : cs ≠ []) (rest : List Char) :
    numberSign (cs ++ rest) = ((numberSign cs).1, (numberSign cs).2 ++ rest) := by
  cases cs with
  | nil => exact absurd rfl some
  | cons c cs =>
    rw [List.cons_append]
    unfold numberSign
    split <;> simp_all

section
variable {rest : List Char} (ends : EndsNumber rest)

include ends

/-- A run of digits stops before the rest. -/
theorem spanDigits_append_of_ends (cs : List Char) :
    spanDigits (cs ++ rest) = ((spanDigits cs).1, (spanDigits cs).2 ++ rest) := by
  unfold spanDigits
  induction cs with
  | nil =>
    cases rest with
    | nil => rfl
    | cons c rest =>
      -- What follows a number starts with no digit.
      have stop := (ends c rfl).1
      simp [stop]
  | cons c cs ih =>
    rw [Prod.mk.injEq] at ih
    cases digit : isDigit c with
    | false => simp [digit]
    | true => simp [digit, ih.1, ih.2]

theorem wholePart?_append {cs ds left : List Char} (h : wholePart? cs = some (ds, left)) :
    wholePart? (cs ++ rest) = some (ds, left ++ rest) := by
  unfold wholePart? at h
  split at h
  · cases h
    rfl
  · rename_i notZero
    dsimp only at h
    split at h
    · cases h
    · rename_i some
      cases h
      cases cs with
      | nil => exact absurd rfl some
      | cons c cs =>
        -- A leading zero was the other case, so the digits go as far as they can.
        have other : c ≠ '0' := fun zero => notZero cs (zero ▸ rfl)
        unfold wholePart?
        split
        · rename_i same
          exact absurd (List.cons.inj same).1 other
        · dsimp only
          rw [spanDigits_append_of_ends ends, if_neg some]

theorem fraction?_append {cs left : List Char} {part : Option (List Char)}
    (h : fraction? cs = some (part, left)) :
    fraction? (cs ++ rest) = some (part, left ++ rest) := by
  unfold fraction? at h
  split at h
  · rename_i cs
    dsimp only at h
    split at h
    · cases h
    · rename_i some
      cases h
      show (if (spanDigits (cs ++ rest)).1.isEmpty then none
        else Option.some (Option.some (spanDigits (cs ++ rest)).1, (spanDigits (cs ++ rest)).2)) = _
      rw [spanDigits_append_of_ends ends, if_neg some]
  · rename_i noPoint
    cases h
    unfold fraction?
    split
    · rename_i same
      -- The point is that of `cs`, or else the first of the rest.
      cases cs with
      | nil => exact absurd rfl (ends '.' (by rw [← List.nil_append rest, same]; rfl)).2.1
      | cons c cs => exact absurd (by rw [(List.cons.inj same).1]) (noPoint cs)
    · rfl

theorem exponent?_append {cs left : List Char} {exponent : Option Int}
    (h : exponent? cs = some (exponent, left)) :
    exponent? (cs ++ rest) = some (exponent, left ++ rest) := by
  cases cs with
  | nil =>
    cases h
    cases rest with
    | nil => rfl
    | cons c rest =>
      -- What follows a number does not start like an exponent.
      obtain ⟨-, -, lower, upper⟩ := ends c rfl
      show exponent? (c :: rest) = _
      rw [exponent?.eq_def]
      dsimp only
      rw [if_neg (by simp [lower, upper])]
      rfl
  | cons c cs =>
    rw [List.cons_append]
    by_cases letter : (c = 'e' || c = 'E') = true
    · rw [exponent?_cons letter] at h ⊢
      split at h
      · cases h
      · rename_i digits
        cases h
        -- There are digits, so what follows is not taken for the sign.
        have some : cs ≠ [] := fun none => digits (by rw [none]; rfl)
        rw [exponentSign_append some, spanDigits_append_of_ends ends, if_neg digits]
    · unfold exponent? at h ⊢
      dsimp only at h ⊢
      rw [if_neg letter] at h ⊢
      cases h
      rfl

/-- **A number is read alike** with something behind it that does not continue it. -/
theorem number?_append {cs left : List Char} {j : Json} (h : number? cs = some (j, left)) :
    number? (cs ++ rest) = some (j, left ++ rest) := by
  rw [number?_eq] at h ⊢
  simp only [Option.bind_eq_some_iff] at h
  obtain ⟨⟨whole, _⟩, hwhole, ⟨part, _⟩, hpart, ⟨exponent, _⟩, hexponent, value, hvalue, same⟩ := h
  cases same
  -- A sign is looked for in the first character, which must exist for `rest` not to supply it.
  have some : cs ≠ [] := by
    rintro rfl
    cases hwhole
  rw [numberSign_append some]
  simp only [wholePart?_append ends hwhole, fraction?_append ends hpart,
    exponent?_append ends hexponent, hvalue, Option.bind_some]

end

theorem spanDigits_suffix (cs : List Char) : (spanDigits cs).2 <:+ cs := List.dropWhile_suffix _

theorem suffix_of_wholePart? {cs ds left : List Char} (h : wholePart? cs = some (ds, left)) :
    left <:+ cs := by
  unfold wholePart? at h
  split at h
  · cases h
    exact List.suffix_cons ..
  · dsimp only at h
    split at h
    · cases h
    · cases h
      exact spanDigits_suffix cs

theorem suffix_of_fraction? {cs left : List Char} {part : Option (List Char)}
    (h : fraction? cs = some (part, left)) : left <:+ cs := by
  unfold fraction? at h
  split at h
  · dsimp only at h
    split at h
    · cases h
    · cases h
      exact (spanDigits_suffix _).trans (List.suffix_cons ..)
  · cases h
    exact List.suffix_refl _

theorem exponentSign_suffix (cs : List Char) : (exponentSign cs).2 <:+ cs := by
  unfold exponentSign
  split
  · exact List.suffix_cons ..
  · exact List.suffix_cons ..
  · exact List.suffix_refl _

theorem suffix_of_exponent? {cs left : List Char} {exponent : Option Int}
    (h : exponent? cs = some (exponent, left)) : left <:+ cs := by
  cases cs with
  | nil =>
    cases h
    exact List.suffix_refl _
  | cons c cs =>
    by_cases letter : (c = 'e' || c = 'E') = true
    · rw [exponent?_cons letter] at h
      split at h
      · cases h
      · cases h
        -- The letter, the sign and the digits are taken one after the other.
        exact ((spanDigits_suffix _).trans (exponentSign_suffix cs)).trans (List.suffix_cons ..)
    · unfold exponent? at h
      dsimp only at h
      rw [if_neg letter] at h
      cases h
      exact List.suffix_refl _

theorem numberSign_suffix (cs : List Char) : (numberSign cs).2 <:+ cs := by
  unfold numberSign
  split
  · exact List.suffix_cons ..
  · exact List.suffix_refl _

/-- What is left after a number is the end of the text. -/
theorem suffix_of_number? {cs left : List Char} {j : Json} (h : number? cs = some (j, left)) :
    left <:+ cs := by
  rw [number?_eq] at h
  simp only [Option.bind_eq_some_iff] at h
  obtain ⟨⟨whole, _⟩, hwhole, ⟨part, _⟩, hpart, ⟨exponent, _⟩, hexponent, value, hvalue, same⟩ := h
  cases same
  exact (((suffix_of_exponent? hexponent).trans (suffix_of_fraction? hpart)).trans
    (suffix_of_wholePart? hwhole)).trans (numberSign_suffix cs)

theorem exists_cons_of_wholePart? {cs ds left : List Char}
    (h : wholePart? cs = some (ds, left)) : ∃ c rest, cs = c :: rest ∧ isDigit c = true := by
  unfold wholePart? at h
  split at h
  · exact ⟨_, _, rfl, by decide⟩
  · dsimp only at h
    split at h
    · cases h
    · -- Some digit was found, and it is the first character.
      rename_i digits
      cases cs with
      | nil => exact absurd rfl digits
      | cons c rest =>
        refine ⟨c, rest, rfl, ?_⟩
        cases digit : isDigit c with
        | true => rfl
        | false => exact absurd (by simp [spanDigits, digit]) digits

/-- A number starts with a numeric character. -/
theorem exists_cons_of_number? {cs left : List Char} {j : Json}
    (h : number? cs = some (j, left)) : ∃ c rest, cs = c :: rest ∧ isNumeric c = true := by
  rw [number?_eq] at h
  obtain ⟨⟨whole, _⟩, hwhole, -⟩ := Option.bind_eq_some_iff.1 h
  obtain ⟨c, rest, unsigned, digit⟩ := exists_cons_of_wholePart? hwhole
  unfold numberSign at unsigned
  split at unsigned
  · exact ⟨_, _, rfl, rfl⟩
  · exact ⟨c, rest, unsigned, isNumeric_of_isDigit digit⟩

/-! ## §3. Whole numbers -/

/-- All the digits of a whole number are read. -/
theorem wholePart?_natDigits (n : Nat) : wholePart? (natDigits n) = some (natDigits n, []) := by
  rcases Nat.eq_zero_or_pos n with rfl | positive
  · decide
  · unfold wholePart?
    split
    · rename_i written
      exact absurd written (natDigits_ne_zero_cons positive _)
    · dsimp only
      rw [spanDigits_natDigits, if_neg]
      rw [List.isEmpty_iff]
      exact natDigits_ne_nil n

theorem numberSign_intDigits (i : Int) :
    numberSign (intDigits i) = (decide (i < 0), natDigits i.natAbs) := by
  unfold intDigits
  split
  · rename_i negative
    rw [decide_eq_true negative]
    rfl
  · rename_i notNegative
    rw [decide_eq_false notNegative]
    -- The digits of a number never start with a minus sign.
    obtain ⟨d, ds, written, digit⟩ := exists_natDigits_eq_cons i.natAbs
    rw [written]
    unfold numberSign
    split
    · rename_i same
      rw [(List.cons.inj same).1] at digit
      cases digit
    · rfl

/-- Digits alone have a whole number for a value. -/
theorem numberValue?_natDigits (i : Int) (lower : -9223372036854775808 ≤ i)
    (upper : i < 18446744073709551616) :
    numberValue? (decide (i < 0)) (natDigits i.natAbs) none none =
      some (num (.int i lower upper)) := by
  have size : (if decide (i < 0) = true then -(digitsValue (natDigits i.natAbs) : Int)
      else digitsValue (natDigits i.natAbs)) = i := by
    rw [digitsValue_natDigits]
    split
    · rename_i negative
      have := of_decide_eq_true negative
      omega
    · rename_i notNegative
      have := mt decide_eq_true notNegative
      omega
  -- Minus zero would not be whole, but its sign is only written below zero.
  have inside : (-9223372036854775808 ≤ i ∧ i < 18446744073709551616) ∧
      (decide (i < 0) = true → i ≠ 0) :=
    ⟨⟨lower, upper⟩, fun negative => Int.ne_of_lt (of_decide_eq_true negative)⟩
  unfold numberValue?
  simp only [size]
  rw [if_neg (by decide), dif_pos inside]

/-- **A whole number** is read back. -/
theorem number?_intDigits (i : Int) (lower : -9223372036854775808 ≤ i)
    (upper : i < 18446744073709551616) :
    number? (intDigits i) = some (num (.int i lower upper), []) := by
  rw [number?_eq, numberSign_intDigits]
  simp only [wholePart?_natDigits, Option.bind_some]
  show ((numberValue? (decide (i < 0)) (natDigits i.natAbs) none none).bind fun value =>
    some (value, [])) = _
  rw [numberValue?_natDigits i lower upper]
  rfl

/-! ## §4. Binary64 numbers -/

theorem isNumeric_natDigits (n : Nat) : ∀ c ∈ natDigits n, isNumeric c = true :=
  fun _ hc => isNumeric_of_isDigit (isDigit_of_mem_natDigits hc)

theorem isNumeric_intDigits (i : Int) : ∀ c ∈ intDigits i, isNumeric c = true := by
  unfold intDigits
  split
  · exact List.forall_mem_cons.2 ⟨rfl, isNumeric_natDigits _⟩
  · exact isNumeric_natDigits _

theorem isNumeric_zeros (n : Nat) : ∀ c ∈ Binary64.zeros n, isNumeric c = true := by
  intro c hc
  rw [(List.mem_replicate.1 hc).2]
  exact rfl

section
variable {ds : List Char} (digits : ∀ c ∈ ds, isNumeric c = true)

include digits

theorem isNumeric_positional (pointZero : Bool) (e : Int) :
    ∀ c ∈ Binary64.positional pointZero ds e, isNumeric c = true := by
  unfold Binary64.positional
  dsimp only
  split
  · -- All digits before the point, with zeros filled up to it.
    refine List.forall_mem_append.2 ⟨List.forall_mem_append.2 ⟨digits, isNumeric_zeros _⟩, ?_⟩
    split
    · exact List.forall_mem_cons.2 ⟨rfl, isNumeric_zeros 1⟩
    · exact List.forall_mem_nil _
  · split
    · -- The point within the digits.
      refine List.forall_mem_append.2 ⟨fun c hc => digits c (List.mem_of_mem_take hc), ?_⟩
      exact List.forall_mem_cons.2 ⟨rfl, fun c hc => digits c (List.mem_of_mem_drop hc)⟩
    · refine List.forall_mem_append.2 ⟨?_, digits⟩
      exact List.forall_mem_cons.2 ⟨rfl,
        List.forall_mem_cons.2 ⟨rfl, isNumeric_zeros _⟩⟩

theorem isNumeric_scientific (plus : Bool) (lead : Int) :
    ∀ c ∈ Binary64.scientific plus ds lead, isNumeric c = true := by
  unfold Binary64.scientific
  refine List.forall_mem_append.2 ⟨List.forall_mem_append.2 ⟨?_, ?_⟩, isNumeric_intDigits lead⟩
  · split
    · obtain ⟨first, others⟩ := List.forall_mem_cons.1 digits
      exact List.forall_mem_cons.2 ⟨first, List.forall_mem_cons.2 ⟨rfl, others⟩⟩
    · exact digits
  · refine List.forall_mem_cons.2 ⟨rfl, ?_⟩
    split
    · exact List.forall_mem_cons.2 ⟨rfl, List.forall_mem_nil _⟩
    · exact List.forall_mem_nil _

end

/-- A finite number is written in numeric characters. -/
theorem isNumeric_finite (layout : Binary64.Layout) (x : Binary64.Finite) :
    ∀ c ∈ layout.finite x, isNumeric c = true := by
  have digits := isNumeric_natDigits (Binary64.shortest layout.tie x).digits
  unfold Binary64.Layout.finite
  extract_lets d ds lead plain size
  have numeric : ∀ c ∈ size, isNumeric c = true := by
    unfold size
    split
    · exact isNumeric_positional digits _ _
    · exact isNumeric_scientific digits _ _
  split
  · exact List.forall_mem_cons.2 ⟨rfl, numeric⟩
  · exact numeric

theorem isNumeric_chars (n : Number) : ∀ c ∈ n.chars, isNumeric c = true := by
  cases n with
  | int i lower upper => exact isNumeric_intDigits i
  | float x => exact isNumeric_finite numberLayout x

end Reader

open Reader in
/-- **The number is read back** from its own text. -/
def Number.IsReadBack (n : Number) : Prop := parse? (num n).text = some (num n)

namespace Reader

/-- Without spaces there is nothing to skip. -/
theorem skipSpace_of_no_space {cs : List Char} (solid : ∀ c ∈ cs, isSpace c = false) :
    skipSpace cs = cs := by
  cases cs with
  | nil => rfl
  | cons c cs =>
    have first := solid c List.mem_cons_self
    exact List.dropWhile_cons_of_neg (by simp [first])

/-- **A value that is a number** is read as a number. -/
theorem number?_of_value? {fuel room : Nat} {cs rest : List Char} {n : Number}
    (h : value? fuel room cs = some (num n, rest)) : number? cs = some (num n, rest) := by
  cases fuel with
  | zero => cases h
  | succ fuel =>
    rcases value?_cases h with ⟨_, _, -, -, kind⟩ | ⟨_, _, -, -, kind, -⟩ | ⟨_, _, -, -, kind, -⟩ |
      number
    · rcases kind with kind | ⟨b, kind⟩ | ⟨s, kind⟩ <;> cases kind
    · cases kind
    · cases kind
    · exact number

/-- A number that is read back is read to its end. -/
theorem number?_chars_of_isReadBack {n : Number} (back : n.IsReadBack) :
    number? n.chars = some (num n, []) := by
  have solid : ∀ c ∈ n.chars, isSpace c = false :=
    fun c hc => isSpace_of_isNumeric (isNumeric_chars n c hc)
  unfold Number.IsReadBack parse? ofChars? text at back
  rw [String.toList_ofList, chars, skipSpace_of_no_space solid] at back
  split at back
  · rename_i value rest read
    split at back
    · rename_i nothing
      cases back
      -- The value was read as a number, and nothing was left but what has no blank.
      have number := number?_of_value? read
      have left : skipSpace rest = rest := skipSpace_of_no_space fun c hc =>
        solid c ((suffix_of_number? number).subset hc)
      rw [left, List.isEmpty_iff] at nothing
      rw [number, nothing]
    · cases back
  · cases back

end Reader

end Sift.Json
