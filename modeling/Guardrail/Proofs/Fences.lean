import Guardrail.Detect.Validation
import Guardrail.Proofs.DoubleSums
import Guardrail.Proofs.Matches
import Guardrail.Proofs.Verdicts

/-!
What a code fence around an answer changes.

An answer is held against a schema without the code fence around it and without the line on which the fence begins. So
putting an answer into a fence changes neither its risk nor what is said against it, whatever stands in the answer. The
risk itself tells answers that satisfy the schema from those that do not, however many violations there are.
-/

namespace Guardrail

namespace Text

lemma startsWith_iff {cs start : List Char} : startsWith cs start = true ↔ start <+: cs := by
  induction cs, start using startsWith.induct with
  | case1 cs => simp [startsWith]
  | case2 c cs => simp [startsWith]
  | case3 c cs d ds ih =>
    rw [startsWith, Bool.and_eq_true, beq_iff_eq, ih, List.cons_prefix_cons, eq_comm]

end Text

namespace Detect

variable {body tag text : List Char}

/-! ### What is held against a schema -/

/-- An answer in a code fence that begins and ends on lines of its own. -/
def fenced (tag body : List Char) : List Char := fence ++ (tag ++ '\n' :: (body ++ ['\n'])) ++ fence

lemma dropSuffix_append (cs suffix : List Char) : dropSuffix suffix (cs ++ suffix) = cs := by
  have hends : Text.startsWith (cs ++ suffix).reverse suffix.reverse = true := by
    rw [Text.startsWith_iff, List.reverse_prefix]
    exact List.suffix_append cs suffix
  rw [dropSuffix, if_pos hends, List.reverse_append, List.drop_left' List.length_reverse, List.reverse_reverse]

/-- A fence has no white space at its ends. -/
lemma trim_fenced (tag body : List Char) : Text.trim (fenced tag body) = fenced tag body := by
  refine Text.trim_eq_self ?_ ?_
  · intro c hc
    obtain rfl : '`' = c := Option.some.inj hc
    decide
  · intro c hc
    rw [fenced, List.getLast?_append] at hc
    obtain rfl : '`' = c := Option.some.inj hc
    decide

lemma unfenced_bare (h : ¬ fence <+: Text.trim text) : unfenced text = Text.trim text := by
  rw [unfenced]
  exact if_neg (by rwa [Text.startsWith_iff])

/-- Of a fence only its first line is lost, whatever stands in it. -/
lemma unfenced_fenced (htag : '\n' ∉ tag) (body : List Char) : unfenced (fenced tag body) = Text.trim body := by
  have hinner : dropSuffix fence ((fenced tag body).drop 3) = tag ++ '\n' :: (body ++ ['\n']) :=
    dropSuffix_append _ fence
  have hline : (tag ++ '\n' :: (body ++ ['\n'])).dropWhile (· != '\n') = '\n' :: (body ++ ['\n']) := by
    rw [List.dropWhile_append_of_pos fun c hc => bne_iff_ne.mpr (ne_of_mem_of_not_mem hc htag)]
    rfl
  have hstart : Text.startsWith (fenced tag body) fence = true := by
    rw [Text.startsWith_iff, fenced, List.append_assoc]
    exact List.prefix_append _ _
  simp only [unfenced, trim_fenced, hstart, hinner, hline, if_true]
  rw [if_pos (by simp), List.drop_one, List.tail_cons]
  exact Text.trim_append (show ∀ c ∈ [], Unicode.isSpace c = true from nofun) body (by simp; decide)

/-! ### What the risk says -/

/-- Violations never risk less than one half. -/
lemma half_le_violationRisk {n : ℕ} (h : n ≠ 0) : 0.5 ≤ (violationRisk n : Float) := by
  have hlow : (0.5 : Float) ≤ 0.5 + 0.1 * Float.ofNat n :=
    Double.half_le_half_add (Double.zero_le_tenth_mul (Double.zero_le_ofNat n))
  have hmin : (violationRisk n : Float) = Scalar.min (0.5 + 0.1 * Float.ofNat n) 1 := if_neg h
  have hnan : Scalar.isNaN (0.5 + 0.1 * Float.ofNat n) = false := (Scalar.Ordered.isNaN_of_le hlow).2
  have hone : Scalar.isNaN (1 : Float) = false := rfl
  simp only [hmin, Scalar.min, hnan, hone, Bool.false_eq_true, if_false]
  split
  · decide
  · exact hlow

/-- How far a risk tells what is wrong with a text that is to satisfy a schema. -/
structure Measures (judge : Json → List Schema.Violation) (text : String) (risk : Float) : Prop where
  eq_zero_iff : risk = 0 ↔ ∃ value, Json.parse? text = some value ∧ judge value = []
  of_unparsed : Json.parse? text = none → risk = 1
  of_violated : ∀ value, Json.parse? text = some value → judge value ≠ [] →
    risk = Scalar.min (0.5 + 0.1 * Float.ofNat (judge value).length) 1

section

variable {complaint : String → String} {judge : Json → List Schema.Violation} {value : Json}

lemma risk_of_unparsed (h : Json.parse? (String.ofList (unfenced text)) = none) :
    (conform complaint judge text).risk = 1 := by
  simp only [conform, h]
  rfl

lemma risk_of_satisfied (h : Json.parse? (String.ofList (unfenced text)) = some value) (hfound : judge value = []) :
    (conform complaint judge text).risk = 0 := by
  simp only [conform, h, hfound]
  rfl

lemma risk_of_violated (h : Json.parse? (String.ofList (unfenced text)) = some value) (hfound : judge value ≠ []) :
    (conform complaint judge text).risk = violationRisk (judge value).length := by
  obtain ⟨p, found, hcons⟩ := List.exists_cons_of_ne_nil hfound
  simp only [conform, h, hcons]
  rfl

end

lemma measures_conform (complaint : String → String) (judge : Json → List Schema.Violation) (text : List Char) :
    Measures judge (String.ofList (unfenced text)) (conform complaint judge text).risk := by
  cases hread : Json.parse? (String.ofList (unfenced text)) with
  | none =>
    have hone : (1 : Float) ≠ 0 := by decide
    constructor <;> simp [hread, risk_of_unparsed hread, hone]
  | some value =>
    by_cases hfound : judge value = []
    · constructor <;> simp [hread, risk_of_satisfied hread hfound, hfound]
    · have hcount : (judge value).length ≠ 0 := by simpa using hfound
      have hne : (violationRisk (judge value).length : Float) ≠ 0 := by
        intro hzero
        have hhalf := half_le_violationRisk hcount
        rw [hzero] at hhalf
        exact absurd hhalf (by decide)
      refine ⟨?_, by simp [hread], fun value' hvalue' _ => ?_⟩
      · simp [hread, risk_of_violated hread hfound, hfound, hne]
      · obtain rfl : value = value' := Option.some.inj (hread.symm.trans hvalue')
        rw [risk_of_violated hread hfound]
        exact if_neg hcount

/-! ### Answers in a fence -/

/-- What a verdict says, apart from the places it names. -/
def Verdict.outcome (v : Verdict) : Float × List String := (v.risk, v.errors)

variable {limit : ℕ}

lemma validate_of_ne_nil (checker : Schema.Checker) (hlen : Text.byteLength text ≤ limit)
    (hblank : Text.trim text ≠ []) (emptyRisk : Float) (schema : Json) :
    validate checker emptyRisk limit text (some schema) =
      match checker.compile schema with
      | .error message => .error (.invalidSchema message)
      | .ok judge => .ok (conform checker.complaint judge text) := by
  have hfull : (Text.trim text).isEmpty = false := by simpa using hblank
  simp only [validate, checkSize_ok hlen, hfull, bind, Except.bind]
  cases checker.compile schema <;> rfl

/-- What is held against a schema decides the risk and the errors. -/
lemma outcome_conform (complaint : String → String) (judge : Json → List Schema.Violation) {text text' : List Char}
    (h : unfenced text = unfenced text') :
    (conform complaint judge text).outcome = (conform complaint judge text').outcome := by
  simp only [conform, h]
  cases Json.parse? (String.ofList (unfenced text')) with
  | none => rfl
  | some value => dsimp only; split <;> rfl

/-- **Answers in a fence.** For an answer that is not blank and does not begin with a fence itself, and for the same
answer in a fence with a tag of one line: the same text is held against the schema, with the same risk and the same
errors, whatever the checker says. If it can make the schema ready, the risk measures the trimmed answer. -/
theorem validate_fenced (checker : Schema.Checker) (hblank : Text.trim body ≠ []) (hbare : ¬ fence <+: Text.trim body)
    (htag : '\n' ∉ tag) (hlen : Text.byteLength (fenced tag body) ≤ limit) (emptyRisk : Float) (schema : Json) :
    (unfenced (fenced tag body) = Text.trim body ∧ unfenced body = Text.trim body) ∧
    (validate checker emptyRisk limit (fenced tag body) (some schema)).map Verdict.outcome =
      (validate checker emptyRisk limit body (some schema)).map Verdict.outcome ∧
    ∀ judge, checker.compile schema = .ok judge → ∃ v, validate checker emptyRisk limit body (some schema) = .ok v ∧
      Measures judge (String.ofList (Text.trim body)) v.risk := by
  have hbody : Text.byteLength body ≤ limit := by
    simp only [fenced, Text.byteLength_append, Text.byteLength_cons] at hlen
    omega
  have hfull : Text.trim (fenced tag body) ≠ [] := by
    rw [trim_fenced]
    simp [fenced, fence]
  -- both texts come down to the trimmed answer
  have hsame : unfenced (fenced tag body) = unfenced body := by
    rw [unfenced_fenced htag, unfenced_bare hbare]
  rw [validate_of_ne_nil checker hlen hfull, validate_of_ne_nil checker hbody hblank]
  refine ⟨⟨unfenced_fenced htag body, unfenced_bare hbare⟩, ?_, fun judge hjudge => ?_⟩
  · cases checker.compile schema with
    | error message => rfl
    | ok judge => exact congrArg Except.ok (outcome_conform checker.complaint judge hsame)
  · rw [hjudge]
    exact ⟨_, rfl, unfenced_bare hbare ▸ measures_conform checker.complaint judge body⟩

/-- A checker that asks for a text, in whatever way a schema says so. -/
def textChecker : Schema.Checker where
  compile _ := .ok fun value =>
    match value with
    | .str _ => []
    | value => [⟨s!"{value.compact} is not of type \"string\"", ""⟩]
  complaint _ := "expected value at line 1 column 1"

/-- A number where a text is asked for. -/
theorem validate_fenced_number :
    (validate textChecker 0.4 64 (fenced "json".toList "7".toList) (some (.obj [("type", .str "string")]))).map
      Verdict.outcome = .ok (0.6, ["7 is not of type \"string\" at "]) := by
  obtain ⟨hblank, hbare, htag, hlen⟩ :
      Text.trim "7".toList ≠ [] ∧ ¬ fence <+: Text.trim "7".toList ∧ '\n' ∉ "json".toList ∧
        Text.byteLength (fenced "json".toList "7".toList) ≤ 64 := by decide +kernel
  rw [(validate_fenced textChecker hblank hbare htag hlen 0.4 (.obj [("type", .str "string")])).2.1]
  decide +kernel

end Detect

end Guardrail
