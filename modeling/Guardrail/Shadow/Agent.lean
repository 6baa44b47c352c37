import Guardrail.Shadow.Verdict
import Guardrail.Shadow.Prompt
import Guardrail.Shadow.Breaker
import Guardrail.Provider.Usage
import Guardrail.Finding.Basic
import Guardrail.Json.Printer

/-!
Agents that give second opinions.

An agent sees one stage: its payload, what the rules say about it and a little about who asks. Most agents
put that before a model; an agent may also decide by itself. A model is told what to do by two system
messages; the third message holds the stage as a document with sorted keys.
-/

namespace Guardrail.Shadow

/-- What an agent sees of a stage. -/
structure Inquiry where
  agent : Stage
  payload : Payload
  score : RiskScore
  findings : List Finding
  context : RequestContext
  thresholds : Thresholds
  ruleVersion : String
deriving Repr

/-- An opinion and what it took. -/
structure Opinion where
  result : Result
  tokens : Provider.Tokens
deriving Repr, DecidableEq

namespace Inquiry

def findingJson (f : Finding) : Json :=
  .obj [("category", .str f.category.text), ("rule_id", .str f.rule), ("confidence", .ofFloat f.confidence)]

def document (q : Inquiry) : Json :=
  .sortKeys <| .obj
    [("stage", .str q.agent.text),
      ("payload", q.payload.toJson),
      ("rule_assessment", .obj
        [("risk_score", .ofFloat q.score.value), ("risk_level", .str q.score.level.text),
          ("risk_factors", factorsToJson q.score.factors), ("findings", .arr (q.findings.map findingJson))]),
      ("context", .obj
        [("user_role", .ofOption .str q.context.userRole), ("trust_score", .ofFloat q.context.trust),
          ("prior_violations", .ofNat q.context.violations), ("strict_mode", .bool q.context.strict)])]

def messages (q : Inquiry) : List Provider.Message :=
  [⟨.system, Prompt.base⟩, ⟨.system, Prompt.ofStage q.agent⟩, ⟨.user, q.document.pretty⟩]

/-- The opinion in a model's answer, which came from a provider after a time. -/
def opinion (q : Inquiry) (provider : String) (latency : Nat) (c : Provider.Completion) :
    Except AgentError Opinion := do
  let v ← Verdict.ofAnswer c.content
  pure
    { result :=
        { agent := q.agent, layer := q.agent.shadowLayer, score := v.score
          level := q.thresholds.classify v.score, confidence := v.confidence, threats := v.threats
          reasoning := v.reasoning, provider, model := c.model, tokens := c.tokens.total, latency
          fallbackUsed := false, fallbackReason := none, cached := false }
      tokens := c.tokens }

end Inquiry

/-- What a provider does with a request: how many ticks it takes, if it ever ends, and what comes of it. -/
abbrev Reply := Operation Provider.Error Provider.Completion

def silence : Reply := ⟨none, .error (.http "")⟩

/-- How an agent comes to an opinion. -/
inductive Conduct where
  /-- It asks a model of a provider. -/
  | asks (provider : String) (settings : Provider.Settings)
  /-- It decides at once. -/
  | decides (f : Inquiry → Except AgentError Opinion)

/-- An agent for one stage. -/
structure Agent where
  stage : Stage
  /-- So long it may take. -/
  timeout : Duration
  conduct : Conduct

namespace Agent

/-- One agent for every stage, all of which ask one provider. -/
def forAll (provider : String) (settings : Provider.Settings) (timeout : Duration) : List Agent :=
  Stage.all.map fun stage => ⟨stage, timeout, .asks provider settings⟩

def asksModel (a : Agent) : Bool :=
  match a.conduct with
  | .asks .. => true
  | .decides _ => false

/-- What an agent does with an inquiry, given what the provider will do if it is asked. -/
def analyse (a : Agent) (q : Inquiry) (reply : Reply) : Operation AgentError Opinion :=
  match a.conduct with
  | .asks provider _ =>
    { takes := reply.takes
      outcome := match reply.outcome with
        | .ok c => q.opinion provider (reply.takes.getD 0) c
        | .error e => .error (.provider e) }
  | .decides f => ⟨some 0, f q⟩

end Agent

end Guardrail.Shadow
