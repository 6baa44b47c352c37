import Guardrail.Finding.Basic

/-!
What findings are worth as a risk.

Personal data adds up, relative to an amount that counts as full risk. Attempts to take the agent over
count by the surest one, and leaks by the weightiest one.
-/

namespace Guardrail.Finding

/-- The risk of personal data: its summed weight relative to `full`. -/
def piiRisk (findings : List Finding) (full : Float) : Float :=
  if full ≤ 0 then 0
  else Scalar.clampUnit (Scalar.sum ((findings.filter (·.category.isPii)).map weight) / full)

def injectionRisk (findings : List Finding) : Float :=
  ((findings.filter (·.category.isInjection)).map (·.confidence)).foldl Scalar.max 0

def isLeak (f : Finding) : Bool :=
  match f.category with
  | .dataLeak | .systemPromptLeak => true
  | _ => false

def leakRisk (findings : List Finding) : Float :=
  ((findings.filter isLeak).map weight).foldl Scalar.max 0

end Guardrail.Finding
