import Guardrail.Shadow.Verdict
import Guardrail.Shadow.Breaker

/-!
What becomes of a second opinion.

That there is none is no error of the request: the score of the rules stands, and the result says why.
-/

namespace Guardrail.Shadow

/-- What one agent contributes to a request. -/
inductive Outcome where
  /-- A fresh opinion. -/
  | analysed (result : Result)
  /-- A remembered opinion. -/
  | remembered (result : Result)
  /-- No opinion. -/
  | fallback (reason : FallbackReason) (detail : String)
deriving Repr

namespace Outcome

def reason : AgentError → FallbackReason
  | .invalid _ => .invalidResponse
  | .timeout _ => .timeout
  | .provider (.timeout _) => .timeout
  | _ => .providerError

def ofCall : Except (CallError AgentError) Result → Outcome
  | .ok r => .analysed r
  | .error .rejected => .fallback .circuitOpen "circuit open"
  | .error (.timeout after) => .fallback .timeout s!"timed out after {after.text}"
  | .error (.failed e) => .fallback (reason e) e.message

/-- The agent was given up when the deadline of the request was reached. -/
def late : Outcome := .fallback .deadlineExceeded "escalation deadline reached"

def isFallback : Outcome → Bool
  | .fallback .. => true
  | _ => false

/-- The result to report, given the score of the rules. -/
def result (agent : Stage) (rule : RiskScore) : Outcome → Result
  | .analysed r => r
  | .remembered r => { r with cached := true, fallbackUsed := false, fallbackReason := none }
  | .fallback reason _ => .fallback agent rule reason

end Outcome

end Guardrail.Shadow
