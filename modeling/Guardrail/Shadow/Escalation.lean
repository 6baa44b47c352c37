import Guardrail.Engine
import Guardrail.Shadow.Panel

/-!
Escalation: second opinions on every stage of a request, and the overall risk that they make.

All agents begin at once and work side by side under one deadline, which is never later than the sum of
their own. An opinion takes the place of the score of its stage; where there is none the score stands.
-/

namespace Guardrail.Shadow

/-- What an agent is to be told of a stage. Of the input it gets to see the redacted text, if there is
one. -/
def inquiry (e : Engine) (v : Evaluation) (context : RequestContext) (s : StageResult) : Inquiry :=
  { agent := s.assessment.score.layer.stage
    payload := match s.payload, v.redactedInput with
      | .input _, some redacted => .input redacted
      | payload, _ => payload
    score := s.assessment.score, findings := s.assessment.findings, context
    thresholds := e.config.thresholds, ruleVersion := e.version }

def inquiries (e : Engine) (v : Evaluation) (context : RequestContext) : List Inquiry :=
  v.stages.map (inquiry e v context)

def budget (parts : List Part) : Duration := (parts.map (·.agent.timeout)).foldl (· + ·) .zero

def limit (parts : List Part) (start deadline : Nat) : Nat := Nat.min deadline (start + (budget parts).ticks)

/-- Ends parts one after another. They do not share anything, so that this is what they come to side by
side. The time of each agent runs from a tick of its own. -/
def finishAll (p : Panel) (began : Stage → Nat) (deadline : Nat) (replies : Stage → Reply) :
    List Part → List (Contribution × Nat) × Panel
  | [] => ([], p)
  | x :: xs =>
    let (c, p) := x.finish p (began x.inquiry.agent) deadline (replies x.inquiry.agent)
    let (cs, p) := finishAll p began deadline replies xs
    (c :: cs, p)

/-- The overall risk with second opinions. That one was asked for, and why, stays on record. -/
def reaggregate (a : Aggregator) (before : Aggregate) (scores : List RiskScore) (context : RequestContext)
    (results : List Result) : Aggregate :=
  let opinions := (results.filter (!·.fallbackUsed)).map (·.toScore a.thresholds)
  let after := if opinions.isEmpty then before else a.aggregate (scores ++ opinions) context false
  { after with
    escalates := before.escalates
    reason := before.reason
    breakdown := { after.breakdown with shadow := results.map Result.detail } }

/-- What an escalation comes to. -/
structure Escalation where
  aggregated : Aggregate
  results : List Result
  usage : Provider.Usage
  finished : Nat

def conclude (a : Aggregator) (before : Aggregate) (scores : List RiskScore) (context : RequestContext)
    (start : Nat) (cs : List (Contribution × Nat)) : Escalation :=
  let results := cs.map (·.1.result)
  { aggregated := reaggregate a before scores context results
    results
    usage := (cs.map (·.1.usage)).foldl .merge .zero
    finished := (cs.map (·.2)).foldl Nat.max start }

end Guardrail.Shadow
