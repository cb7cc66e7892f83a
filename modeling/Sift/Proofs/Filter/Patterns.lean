/-
  Sift.Proofs.Filter.Patterns
  ───────────────────────────
  **Patterns kept compiled and patterns kept as texts.**

  A comparison with a pattern takes two forms of operand.  The form of patterns compiles the text
  when a criterion is read, and refuses what does not compile; the form of texts keeps the text,
  which is compiled whenever the criterion is asked.  A text that compiles gives the same either
  way; one that does not is never found, so that

      matches          admits nothing
      does not match   admits everything

  A third way leads to a compiled pattern: a value `is` a pattern when the pattern is found in it
  (`holds_is_pattern`).

  Main result: `Criterion.compiled_and_kept_patterns_agree`.
-/
import Sift.Proofs.Comparison.Laws
import Sift.Proofs.Filter.Checks
import Sift.Proofs.Operand.Inhabitants

namespace Sift

open Outcome

/-! ## §1. Verdicts -/

namespace Comparison

/-- **A value is a pattern** exactly when it matches it, whatever the value and where there is
none. -/
theorem holds_is_pattern (q : Pattern) (value : Option Json) :
    holds is value (some (.pattern q)) = holds matchesPattern value (some (.pattern q)) := by
  cases value with
  | none => rfl
  | some value =>
    show Operand.equals (.pattern q) value = foundBy (.pattern q) value
    -- Only in a text can a pattern be found.
    cases value <;> rfl

/-- The two comparisons with a pattern. -/
def WithPattern (k : Comparison) : Prop := k = matchesPattern ∨ k = doesNotMatchPattern

theorem holds_doesNotMatchPattern (value : Option Json) (o : Option Operand) :
    holds doesNotMatchPattern value o = !holds matchesPattern value o :=
  holds_of_positive? rfl value o

section
variable {k : Comparison} (patterns : k.WithPattern) (value : Option Json) {p : String}

include patterns

/-- Operands that are found in the same texts have the same verdicts. -/
theorem WithPattern.holds_congr {o o' : Operand} (same : ∀ v, foundBy o v = foundBy o' v) :
    k.holds value (some o) = k.holds value (some o') := by
  have positive : holds matchesPattern value (some o) = holds matchesPattern value (some o') := by
    cases value with
    | none => rfl
    | some v => exact same v
  obtain rfl | rfl := patterns
  · exact positive
  · rw [holds_doesNotMatchPattern, holds_doesNotMatchPattern, positive]

/-- **A text that compiles** has the verdicts of the pattern. -/
theorem WithPattern.holds_text_of_compiles {q : Pattern} (compiles : Pattern.ofText? p = some q) :
    k.holds value (some (.text p)) = k.holds value (some (.pattern q)) := by
  apply patterns.holds_congr
  intro v
  cases v with
  | str s =>
    show (Pattern.ofText? p).any (·.foundIn s) = q.foundIn s
    rw [compiles]
    rfl
  | _ => rfl

/-- **A text that does not compile** is found nowhere. -/
theorem WithPattern.holds_text_of_broken (broken : Pattern.ofText? p = none) :
    k.holds value (some (.text p)) = decide (k = doesNotMatchPattern) := by
  -- A text that is no pattern is compiled at each test, and found in nothing.
  have nowhere : holds matchesPattern value (some (.text p)) = false := by
    cases value with
    | none => rfl
    | some v =>
      cases v with
      | str s =>
        show (Pattern.ofText? p).any (·.foundIn s) = false
        rw [broken]
        rfl
      | _ => rfl
  obtain rfl | rfl := patterns
  · exact nowhere
  · rw [holds_doesNotMatchPattern, nowhere]
    rfl

end

/-! ## §2. Operators under a form -/

/-- The operator of a comparison with operands of a form, under an identifier. -/
def operatorOn (k : Comparison) (id : String) (form : Form) : Operator :=
  (((StandardOperator.of k).withId id).withCodec (some form.codec)).toOperator

end Comparison

namespace Criterion

section
variable {resolver : Resolver} {fragment raw : Json} {subject : Subject} {position : Option Nat}

/-- **Once subject and operator are found**, a fragment is read as what the codec reads. -/
theorem outcome_read_of_finds {operator : Operator} {codec : Codec}
    (found : FindsSubject resolver fragment subject)
    (finds : FindsOperator resolver fragment operator) (takes : operator.codec = some codec)
    (given : fragment.get? "value" = some raw) :
    (read resolver fragment position).outcome =
      ((codec.read raw).mapError (·.withPosition position)).map fun operand =>
        withRaw subject operator (some operand) (some raw) := by
  obtain ⟨subjectId, operatorId, reads⟩ := exists_outcome_of_finds found finds position
  rw [reads, given, outcome_readValue_some takes]

variable (subject) (k : Comparison) (id : String) (form : Form) (o : Operand)

/-- The criterion of a comparison under a form has the verdict of the comparison. -/
theorem admits_operatorOn (data : Json) :
    (withRaw subject (k.operatorOn id form) (some o) (some raw)).admits data =
      k.holds (subject.value data) (some o) := by
  unfold admits
  rw [operator_withRaw, subject_withRaw, operand_withRaw]
  rfl

/-- It is written with what the form writes. -/
theorem toJson_operatorOn :
    (withRaw subject (k.operatorOn id form) (some o) (some raw)).toJson =
      .object [("choice", .str subject.id), ("op", .str id), ("value", form.write o)] := by
  unfold toJson
  rw [operator_withRaw, subject_withRaw, operand_withRaw]
  rfl

end

/-! ## §3. The two forms of patterns -/

section
variable {k : Comparison} {resolver : Resolver} {fragment : Json} {subject : Subject}
  {id p : String} {position : Option Nat}
  (found : FindsSubject resolver fragment subject)
  (given : fragment.get? "value" = some (.str p))

include found given

/-- The form of texts keeps every text. -/
theorem outcome_read_kept (finds : FindsOperator resolver fragment (k.operatorOn id .text)) :
    (read resolver fragment position).outcome =
      .ok (withRaw subject (k.operatorOn id .text) (some (.text p)) (some (.str p))) :=
  outcome_read_of_finds found finds rfl given

/-- The form of patterns compiles the text. -/
theorem outcome_read_compiled {q : Pattern}
    (finds : FindsOperator resolver fragment (k.operatorOn id .pattern))
    (compiles : Pattern.ofText? p = some q) :
    (read resolver fragment position).outcome =
      .ok (withRaw subject (k.operatorOn id .pattern) (some (.pattern q)) (some (.str p))) := by
  have read : Form.pattern.codec.read (.str p) = .ok (.pattern q) := by
    apply Form.codec_read_eq_ok_iff.2
    simp only [Form.read, Form.required, Form.readPattern, compiles]
  rw [outcome_read_of_finds found finds rfl given, read]
  rfl

/-- It refuses a text that does not compile. -/
theorem outcome_read_broken (finds : FindsOperator resolver fragment (k.operatorOn id .pattern))
    (broken : Pattern.ofText? p = none) :
    (read resolver fragment position).outcome =
      .error ((Error.rejected (.invalidPattern p)).withPosition position) := by
  have refused : Form.pattern.codec.read (.str p) = .error (.rejected (.invalidPattern p)) := by
    simp only [Form.codec, Form.read, Form.required, Form.readPattern, broken]
    rfl
  rw [outcome_read_of_finds found finds rfl given, refused]
  rfl

end

/-! ## §4. Agreement -/

/-- **COMPILED AND KEPT PATTERNS AGREE.**  Let two subjects of one identifier take the same value
from the data, and let a fragment lead to a comparison with a pattern under one identifier, of the
one subject for patterns and of the other for texts.  For every text `p` as the value of the
fragment:

* the fragment is always read for texts, and for patterns exactly when `p` compiles; otherwise it
  is refused for an invalid pattern;
* when it is read for patterns, the two criteria are written alike and admit the same data;
* when `p` does not compile, the criterion for texts admits nothing if it asks for a match, and
  everything if it asks for none.

And a value, or none, is a pattern exactly when it matches the pattern. -/
theorem compiled_and_kept_patterns_agree {k : Comparison} (patterns : k.WithPattern)
    {resolver resolver' : Resolver} {fragment : Json} {subject subject' : Subject} {id p : String}
    (found : FindsSubject resolver fragment subject)
    (found' : FindsSubject resolver' fragment subject')
    (forPatterns : FindsOperator resolver fragment (k.operatorOn id .pattern))
    (forTexts : FindsOperator resolver' fragment (k.operatorOn id .text))
    (sameId : subject.id = subject'.id)
    (sameValue : ∀ data, subject.value data = subject'.value data)
    (given : fragment.get? "value" = some (.str p)) (position : Option Nat) :
    (∃ kept, (read resolver' fragment position).outcome = .ok kept
      ∧ ((∃ compiled, (read resolver fragment position).outcome = .ok compiled) ↔
          ∃ q, Pattern.ofText? p = some q)
      ∧ (∀ compiled, (read resolver fragment position).outcome = .ok compiled →
          compiled.toJson = kept.toJson ∧ ∀ data, compiled.admits data = kept.admits data)
      ∧ (Pattern.ofText? p = none →
          (∃ message, (read resolver fragment position).outcome =
            .error (.invalidOperand message (some "invalid_regex") position))
          ∧ ∀ data, kept.admits data = decide (k = .doesNotMatchPattern)))
    ∧ ∀ q value, Comparison.is.holds value (some (.pattern q)) =
        Comparison.matchesPattern.holds value (some (.pattern q)) := by
  refine ⟨⟨_, outcome_read_kept found' given forTexts, ?_, ?_, ?_⟩,
    fun q value => Comparison.holds_is_pattern q value⟩
  · constructor
    · rintro ⟨compiled, accepted⟩
      apply Option.ne_none_iff_exists'.1
      intro broken
      rw [outcome_read_broken found given forPatterns broken] at accepted
      cases accepted
    · rintro ⟨q, compiles⟩
      exact ⟨_, outcome_read_compiled found given forPatterns compiles⟩
  · intro compiled accepted
    cases compiles : Pattern.ofText? p with
    | none =>
      rw [outcome_read_broken found given forPatterns compiles] at accepted
      cases accepted
    | some q =>
      rw [outcome_read_compiled found given forPatterns compiles, Except.ok.injEq] at accepted
      subst accepted
      constructor
      · -- A pattern is written as its text.
        have written : Form.pattern.write (.pattern q) = Form.text.write (.text p) :=
          congrArg Json.str (Form.source_of_ofText? compiles)
        rw [toJson_operatorOn, toJson_operatorOn, sameId, written]
      · intro data
        rw [admits_operatorOn, admits_operatorOn, sameValue,
          patterns.holds_text_of_compiles _ compiles]
  · intro broken
    constructor
    · exact ⟨_, outcome_read_broken found given forPatterns broken⟩
    · intro data
      rw [admits_operatorOn, patterns.holds_text_of_broken _ broken]

/-- A field that is compared with a pattern of a form. -/
def patternField (form : Form) : FieldSubject :=
  (FieldSubject.of "title").withOperator
    (Comparison.doesNotMatchPattern.operatorOn "avoids" form)

/-- The fragment that asks for it with a text. -/
def patternFragment (p : String) : Json :=
  .object [("choice", .str "title"), ("op", .str "avoids"), ("value", .str p)]

/-- A group that is not closed is refused as a pattern; kept as a text, it keeps nothing out. -/
theorem compiled_and_kept_patterns_agree_open_group :
    ∃ kept, (read (fun _ => .ok (patternField .text).toSubject) (patternFragment "(")
        none).outcome = .ok kept
      ∧ (∃ message, (read (fun _ => .ok (patternField .pattern).toSubject) (patternFragment "(")
        none).outcome = .error (.invalidOperand message (some "invalid_regex") none))
      ∧ ∀ data, kept.admits data = true := by
  have asksSubject : Asks (patternFragment "(") "choice" "title" := Or.inl (by decide)
  have asksOperator : Asks (patternFragment "(") "op" "avoids" := Or.inl (by decide)
  have broken : Pattern.ofText? "(" = none := by decide +kernel
  obtain ⟨⟨kept, accepted, -, -, refused⟩, -⟩ :=
    @compiled_and_kept_patterns_agree .doesNotMatchPattern (Or.inr rfl)
      (fun _ => .ok (patternField .pattern).toSubject) (fun _ => .ok (patternField .text).toSubject)
      (patternFragment "(") (patternField .pattern).toSubject (patternField .text).toSubject
      "avoids" "(" ⟨_, asksSubject, rfl⟩ ⟨_, asksSubject, rfl⟩
      ⟨_, _, ⟨_, asksSubject, rfl⟩, asksOperator, rfl⟩
      ⟨_, _, ⟨_, asksSubject, rfl⟩, asksOperator, rfl⟩ rfl (fun _ => rfl) (by decide) none
  obtain ⟨rejected, everything⟩ := refused broken
  exact ⟨kept, accepted, rejected, everything⟩

end Criterion

end Sift
