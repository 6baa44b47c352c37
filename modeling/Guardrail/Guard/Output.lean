import Guardrail.Detect.Pii
import Guardrail.Detect.Leak
import Guardrail.Detect.Validation
import Guardrail.Finding.Risk
import Guardrail.Guard.Assessment

/-!
The output guard: leaks, form, and personal data that the agent brings in.

Personal data that stands in the input too is not new and does not count.
-/

namespace Guardrail.OutputGuard

/-- What the detectors of the output guard report. -/
structure Reports where
  leak : Except Failure (List Finding)
  /-- Present where there is a system prompt. -/
  echo : Option (Except Failure (List Finding))
  pii : Except Failure (List Finding)
  validation : Except Failure Detect.Verdict

/-- Whether the text of a finding is missing from the input. -/
def isNew (text input : List Char) (f : Finding) : Bool :=
  match Text.slice? f.span.start f.span.stop text with
  | some matched => !Text.contains input matched
  | none => true

def signals {ν : Type} [Scalar ν] (w : OutputWeights ν) (leak validation newPii : ν) : List (Signal ν) :=
  [.make "leak_risk" w.leak leak, .make "validation_risk" w.validation validation,
    .make "new_pii_risk" w.newPii newPii]

def score {ν : Type} [Scalar ν] (config : OutputGuardConfig ν) (thresholds : Thresholds ν)
    (leak validation newPii : ν) (failed : List String) : RiskScore ν :=
  Signal.combine .outputGuard (signals config.weights leak validation newPii) "leak_risk"
    config.dominantFloor failed thresholds

def assemble (config : OutputGuardConfig) (thresholds : Thresholds) (answer : OutputPayload) (reports : Reports) :
    Assessment :=
  let (leak, leakFault) := Detect.guarded "leak" [] reports.leak
  let (echo, echoFault) := match reports.echo with
    | some report => Detect.guarded "prompt_echo" [] report
    | none => ([], none)
  let (pii, piiFault) := Detect.guarded "pii" [] reports.pii
  let (validation, validationFault) := Detect.guarded "validation" Detect.Verdict.clean reports.validation
  let leaks := leak ++ echo
  let newPii := pii.filter (isNew answer.text.toList (answer.inputText.getD "").toList)
  let faults := leakFault.toList ++ echoFault.toList ++ piiFault.toList ++ validationFault.toList
  { score := score config thresholds (Finding.leakRisk leaks) validation.risk
      (Finding.piiRisk newPii config.piiNormalization) (faults.map (·.detector))
    findings := Assessment.merge [leaks, newPii, validation.findings]
    redacted := none
    faults }

/-- Assesses an answer by rules; with it the memo of card numbers afterwards. -/
def assess (rules : Rules.CompiledLibrary) (checker : Schema.Checker) (config : OutputGuardConfig)
    (thresholds : Thresholds) (limit : Nat) (memo : Luhn.Memo) (answer : OutputPayload) : Assessment × Luhn.Memo :=
  let text := answer.text.toList
  let (pii, memo) := Detect.pii rules.pii limit memo text
  let reports : Reports :=
    { leak := (Detect.leak rules.leak limit text).mapError .refused
      echo := answer.systemPrompt.map fun prompt =>
        (Detect.promptEcho prompt.toList config.promptNgram limit text).mapError .refused
      pii := pii.mapError .refused
      validation := (Detect.validate checker config.emptyRisk limit text answer.expectedSchema).mapError .refused }
  (assemble config thresholds answer reports, memo)

end Guardrail.OutputGuard
