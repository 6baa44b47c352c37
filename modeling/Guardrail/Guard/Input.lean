import Guardrail.Detect.Pii
import Guardrail.Detect.Injection
import Guardrail.Finding.Redact
import Guardrail.Finding.Risk
import Guardrail.Guard.Assessment

/-!
The input guard: personal data and attempts to take the agent over.
-/

namespace Guardrail.InputGuard

/-- What the detectors of the input guard report. -/
structure Reports where
  pii : Except Failure (List Finding)
  injection : Except Failure (List Finding)

def signals {ν : Type} [Scalar ν] (w : InputWeights ν) (pii injection : ν) : List (Signal ν) :=
  [.make "pii_risk" w.pii pii, .make "injection_risk" w.injection injection]

def score {ν : Type} [Scalar ν] (config : InputGuardConfig ν) (thresholds : Thresholds ν) (pii injection : ν)
    (failed : List String) : RiskScore ν :=
  Signal.combine .inputGuard (signals config.weights pii injection) "injection_risk" config.dominantFloor
    failed thresholds

def assemble (config : InputGuardConfig) (thresholds : Thresholds) (text : List Char) (reports : Reports) :
    Assessment :=
  let (pii, piiFault) := Detect.guarded "pii" [] reports.pii
  let (injection, injectionFault) := Detect.guarded "injection" [] reports.injection
  let faults := piiFault.toList ++ injectionFault.toList
  { score := score config thresholds (Finding.piiRisk pii config.piiNormalization)
      (Finding.injectionRisk injection) (faults.map (·.detector))
    findings := Assessment.merge [pii, injection]
    redacted := if config.redact then some (String.ofList (Finding.redact text pii)) else none
    faults }

/-- Assesses an input by rules; with it the memo of card numbers afterwards. -/
def assess (rules : Rules.CompiledLibrary) (config : InputGuardConfig) (thresholds : Thresholds) (limit : Nat)
    (memo : Luhn.Memo) (text : List Char) : Assessment × Luhn.Memo :=
  let (pii, memo) := Detect.pii rules.pii limit memo text
  let injection := Detect.injection rules.injection limit text
  (assemble config thresholds text ⟨pii.mapError .refused, injection.mapError .refused⟩, memo)

end Guardrail.InputGuard
