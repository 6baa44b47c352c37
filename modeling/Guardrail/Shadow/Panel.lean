import Guardrail.Shadow.Agent
import Guardrail.Shadow.Outcome
import Guardrail.Shadow.Cache
import Guardrail.Shadow.Config

/-!
The agents that are asked for second opinions, each behind a breaker of its own, and what they remember.

An agent's part in a request has two steps. `Panel.seat` looks for a remembered opinion and, if there is
none, asks the breaker for a permit; `Panel.settle` hears how the permitted call ended. Other requests may
take their steps in between. Neither step touches another agent's breaker or the opinions that another agent
remembers.
-/

namespace Guardrail.Shadow

/-- Why a panel cannot be put together. -/
inductive PanelError where
  | config (error : ConfigError)
  | provider (error : Provider.Error)
  | duplicate (agent : Stage)
  | noAgents
deriving Repr, DecidableEq

def PanelError.kind : PanelError → String
  | .config e => e.kind
  | .provider e => e.kind
  | .duplicate _ => "duplicate_agent"
  | .noAgents => "no_agents"

def PanelError.message : PanelError → String
  | .config e => e.message
  | .provider e => e.message
  | .duplicate s => s!"Shadow agent registered twice: {s.text}"
  | .noAgents => "No shadow agents enabled"

/-- An agent behind its breaker. -/
structure Slot where
  agent : Agent
  breaker : Breaker

/-- The agents, and their remembered opinions if they remember any. -/
structure Panel where
  slots : Keyed Stage Slot
  cache : Option Cache

/-- How an agent's part in a request begins. -/
inductive Seat where
  /-- It has had this opinion before. -/
  | remembered (result : Result)
  /-- Its breaker refuses. -/
  | refused
  /-- It is at work. -/
  | working (permit : Permit)
deriving Repr

/-- An agent's part in a request that has begun. -/
structure Part where
  inquiry : Inquiry
  agent : Agent
  seat : Seat

/-- What an agent contributes to a request. -/
structure Contribution where
  result : Result
  usage : Provider.Usage
  /-- What its breaker was told. -/
  report : Report
deriving Repr

def Inquiry.key (q : Inquiry) : CacheKey := ⟨q.ruleVersion, q.agent, q.payload⟩

/-- What a part comes to, without having cost anything. -/
def Inquiry.contribution (q : Inquiry) (o : Outcome) (report : Report) : Contribution :=
  ⟨o.result q.agent q.score, .zero, report⟩

namespace Panel

/-- Puts agents behind breakers. Those that are not enabled are left out. -/
def slotsOf (c : Config) (slots : Keyed Stage Slot) : List Agent → Except PanelError (Keyed Stage Slot)
  | [] => .ok slots
  | a :: rest =>
    if !c.agents.enabled.contains a.stage then slotsOf c slots rest
    else if (slots.get? a.stage).isSome then .error (.duplicate a.stage)
    else slotsOf c (slots.set a.stage ⟨a, .fresh s!"shadow_{a.stage.text}" c.breaker⟩) rest

def ofAgents (c : Config) (agents : List Agent) : Except PanelError Panel := do
  c.validate.mapError .config
  let slots ← slotsOf c [] agents
  if slots.isEmpty then throw .noAgents
  pure ⟨slots, if c.cache.enabled then some .empty else none⟩

def stages (p : Panel) : List Stage := p.slots.map (·.1)

def breaker? (p : Panel) (s : Stage) : Option Breaker := (p.slots.get? s).map (·.breaker)

def updateBreaker (p : Panel) (s : Stage) (f : Breaker → Breaker) : Panel :=
  match p.slots.get? s with
  | some slot => { p with slots := p.slots.set s { slot with breaker := f slot.breaker } }
  | none => p

def refresh (p : Panel) (now : Nat) : Panel :=
  { p with slots := p.slots.mapValues fun s => { s with breaker := s.breaker.refresh now } }

def views (p : Panel) : List BreakerView := p.slots.map fun (_, s) => s.breaker.view

def forget (p : Panel) : Panel := { p with cache := p.cache.map fun _ => .empty }

def remembered? (p : Panel) (q : Inquiry) : Option Result := p.cache.bind (·.get? q.key.hash)

/-- Begins an agent's part in a request, if there is such an agent. -/
def seat (p : Panel) (now : Nat) (q : Inquiry) : Option Part × Panel :=
  match p.slots.get? q.agent with
  | none => (none, p)
  | some slot =>
    match p.remembered? q with
    | some r => (some ⟨q, slot.agent, .remembered r⟩, p)
    | none =>
      let (permit, b) := slot.breaker.acquire now
      let p := p.updateBreaker q.agent fun _ => b
      match permit with
      | some permit => (some ⟨q, slot.agent, .working permit⟩, p)
      | none => (some ⟨q, slot.agent, .refused⟩, p)

def seatAll (p : Panel) (now : Nat) : List Inquiry → List Part × Panel
  | [] => ([], p)
  | q :: qs =>
    let (part, p) := p.seat now q
    let (parts, p) := seatAll p now qs
    (part.toList ++ parts, p)

def remember (p : Panel) (q : Inquiry) (r : Result) : Panel :=
  { p with cache := p.cache.map (·.insert q.key.hash r) }

/-- Ends the part of an agent that was at work. -/
def settle (p : Panel) (q : Inquiry) (permit : Permit) (timeout : Duration) (now : Nat)
    (ending : Ending AgentError Opinion) : Contribution × Panel :=
  match p.slots.get? q.agent with
  | none => (q.contribution .late .released, p)
  | some slot =>
    let settled := slot.breaker.settle now permit timeout ending
    let p := p.updateBreaker q.agent fun _ => settled.breaker
    match settled.result with
    | none => (q.contribution .late settled.report, p)
    | some (.error e) => (q.contribution (.ofCall (.error e)) settled.report, p)
    | some (.ok o) =>
      (⟨o.result, Provider.Usage.zero.add o.tokens o.result.model, settled.report⟩, p.remember q o.result)

end Panel

namespace Part

def asksModel (x : Part) : Bool :=
  match x.seat with
  | .working _ => x.agent.asksModel
  | _ => false

/-- What a part comes to, and when, given what the provider does if it is asked. -/
def finish (x : Part) (p : Panel) (start deadline : Nat) (reply : Reply) : (Contribution × Nat) × Panel :=
  match x.seat with
  | .remembered r => ((⟨Outcome.result x.inquiry.agent x.inquiry.score (.remembered r),
      Provider.Usage.zero.hit, .nothing⟩, start), p)
  | .refused => ((x.inquiry.contribution (.ofCall (.error .rejected)) .nothing, start), p)
  | .working permit =>
    let (ending, now) := (x.agent.analyse x.inquiry reply).ending start x.agent.timeout deadline
    let (c, p) := p.settle x.inquiry permit x.agent.timeout now ending
    ((c, now), p)

end Part

end Guardrail.Shadow
