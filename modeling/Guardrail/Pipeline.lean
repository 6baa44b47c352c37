import Guardrail.Shadow.Escalation
import Guardrail.Audit.Record

/-!
Requests from beginning to end.

A request is evaluated by the rules, then escalated if they ask for it and there is somebody to ask, then
decided and put on record. `Pipeline.begin` goes as far as the agents' work, `Pipeline.finish` does the rest;
in between other requests may begin and finish, and the rules may be exchanged. A request keeps the rules
that it began with. Nothing that happens to agents, opinions or records makes a request fail; only a deadline
beyond the end of the clock does, and `begin?` says when.
-/

namespace Guardrail

structure Request where
  stages : StageInputs
  context : RequestContext
  /-- So long it may take, where it is not for the pipeline to say. -/
  deadline : Option Duration

/-- Why a request is blocked. -/
inductive BlockReason where
  | hardBlock (category : Category)
  | critical
deriving Repr, DecidableEq

def BlockReason.text : BlockReason → String
  | .hardBlock category => s!"hard_block:{category.text}"
  | .critical => "critical_risk_level"

/-- What is decided about a request. -/
structure Decision where
  requestId : String
  reason : Option BlockReason
  scores : List RiskScore
  /-- Absent where a finding blocked the request whatever its score. -/
  aggregated : Option Aggregate
  escalated : Bool
  results : List Shadow.Result
  redactedInput : Option String
  ruleVersion : String
  usage : Provider.Usage
  latency : Nat

namespace Decision

def blocked (d : Decision) : Bool := d.reason.isSome

def toJson (d : Decision) : Json :=
  .obj [("request_id", .str d.requestId), ("blocked", .bool d.blocked),
    ("block_reason", .ofOption (fun r => .str r.text) d.reason),
    ("risk_scores", .arr (d.scores.map RiskScore.toJson)),
    ("aggregated_risk", .ofOption Aggregate.toJson d.aggregated),
    ("shadow_agent_escalated", .bool d.escalated),
    ("shadow_agent_analyses", .arr (d.results.map Shadow.Result.toJson)),
    ("redacted_input", .ofOption .str d.redactedInput), ("rule_version", .str d.ruleVersion),
    ("llm_usage", d.usage.toJson), ("latency_ms", .ofNat d.latency)]

end Decision

structure Pipeline where
  engine : Engine
  /-- The card numbers that the engine has met. -/
  memo : Luhn.Memo
  panel : Option Shadow.Panel
  sink : Audit.Sink
  usage : Provider.Usage
  deadline : Duration

/-- A request that has begun. -/
structure Pending where
  engine : Engine
  context : RequestContext
  evaluation : Evaluation
  /-- The parts of the agents, if the request was escalated. -/
  parts : Option (List Shadow.Part)
  start : Nat
  deadline : Nat

namespace Pipeline

def ofEngine (engine : Engine) : Pipeline := ⟨engine, [], none, .trace, .zero, .ofSeconds 10⟩

/-- The pipeline with other rules; with it the version of the rules before. -/
def swap (p : Pipeline) (engine : Engine) : String × Pipeline := (p.engine.version, { p with engine, memo := [] })

/-- The pipeline with other rules, if they are acceptable. -/
def load [Pattern.Dialect] (p : Pipeline) (rules : Rules.RuleSet) : Except ConfigError (String × Pipeline) := do
  let engine ← Engine.ofRules rules
  pure (p.swap engine)

/-- Begins a request: evaluates it, and lets the agents begin if it is escalated. -/
def begin (p : Pipeline) (now : Nat) (r : Request) : Pending × Pipeline :=
  let (evaluation, memo) := p.engine.evaluate p.memo r.stages r.context
  let p := { p with memo }
  let deadline := now + (r.deadline.getD p.deadline).ticks
  -- a finding that blocks leaves nothing to be decided
  let escalates := match evaluation.hardBlock, evaluation.aggregated with
    | none, some a => a.escalates
    | _, _ => false
  match p.panel, escalates with
  | some panel, true =>
    let (parts, panel) := panel.seatAll now (Shadow.inquiries p.engine evaluation r.context)
    (⟨p.engine, r.context, evaluation, some parts, now, Shadow.limit parts now deadline⟩,
      { p with panel := some panel })
  | _, _ => (⟨p.engine, r.context, evaluation, none, now, deadline⟩, p)

/-- Begins a request if the clock goes as far as its deadline and, where agents are asked, as far as the time
that they may take together. A request for which it does not breaks off. -/
def begin? (p : Pipeline) (now : Nat) (r : Request) : Option (Pending × Pipeline) :=
  let (x, q) := p.begin now r
  if (r.deadline.getD p.deadline).onClock now && x.parts.all fun parts => (Shadow.budget parts).onClock now then
    some (x, q)
  else none

end Pipeline

namespace Pending

/-- The parts for which a provider is asked, in the order in which that happens. -/
def calls (x : Pending) : List Shadow.Part := (x.parts.getD []).filter (·.asksModel)

/-- The decision about a request that took until a tick. `aggregated` is its overall risk in the end. -/
def decide (x : Pending) (aggregated : Option Aggregate) (results : List Shadow.Result)
    (usage : Provider.Usage) (finished : Nat) : Decision :=
  { requestId := x.context.requestId
    reason := match x.evaluation.hardBlock, aggregated with
      | some block, _ => some (.hardBlock block.category)
      | none, some a => if a.level = .critical then some .critical else none
      | none, none => none
    scores := x.evaluation.scores
    aggregated := if x.evaluation.hardBlock.isSome then none else aggregated
    escalated := x.parts.isSome
    results, redactedInput := x.evaluation.redactedInput, ruleVersion := x.engine.version, usage
    latency := finished - x.start }

def record (x : Pending) (d : Decision) (breakers : List Shadow.BreakerView) : Audit.Record :=
  { requestId := d.requestId, ruleVersion := d.ruleVersion
    ruling := if d.blocked then .block else .allow
    reason := d.reason.map (·.text), hardBlock := x.evaluation.hardBlock, scores := d.scores
    aggregated := d.aggregated, escalated := d.escalated, results := d.results, usage := d.usage
    breakers, context := x.context, latency := d.latency }

end Pending

namespace Pipeline

def audit (p : Pipeline) (x : Pending) (d : Decision) (now : Nat) : Pipeline :=
  -- the record shows breakers as they are when it is made
  let panel := p.panel.map (·.refresh now)
  { p with panel, sink := p.sink.add (x.record d ((panel.map (·.views)).getD [])) }

/-- Finishes a request, given what the provider does if it is asked; with the decision the tick at which it
is made. -/
def finish (p : Pipeline) (x : Pending) (replies : Stage → Shadow.Reply) :
    (Decision × Nat) × Pipeline :=
  match x.parts, p.panel, x.evaluation.aggregated with
  | some parts, some panel, some before =>
    -- the rules take no time, so that every agent begins when the request does
    let (cs, panel) := Shadow.finishAll panel (fun _ => x.start) x.deadline replies parts
    let done := Shadow.conclude x.engine.aggregator before x.evaluation.scores x.context x.start cs
    let d := x.decide (some done.aggregated) done.results done.usage done.finished
    let p := { p with panel := some panel, usage := p.usage.meter done.usage }
    ((d, done.finished), p.audit x d done.finished)
  | _, _, _ =>
    let d := x.decide x.evaluation.aggregated [] .zero x.start
    ((d, x.start), p.audit x d x.start)

/-- A request with nothing else going on. -/
def evaluate (p : Pipeline) (now : Nat) (r : Request) (replies : Stage → Shadow.Reply) :
    (Decision × Nat) × Pipeline :=
  let (x, p) := p.begin now r
  p.finish x replies

/-- The same on a clock that need not go far enough for the request. -/
def evaluate? (p : Pipeline) (now : Nat) (r : Request) (replies : Stage → Shadow.Reply) :
    Option ((Decision × Nat) × Pipeline) :=
  (p.begin? now r).map fun (x, p) => p.finish x replies

end Pipeline

end Guardrail
