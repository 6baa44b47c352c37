import Guardrail.Command.Invocation
import Guardrail.Command.Report
import Guardrail.Provider.Endpoint

/-!
Running the program, given what there is to read.

An evaluation is put together before it runs: rules, parameters, input and advisor are read in this order, and
the first of them that is missing or refused ends the run. Putting it together touches nothing; its log is
opened afterwards.
-/

namespace Guardrail.Command

/-- What there is to read. -/
structure Sources where
  /-- The text of a file, or why it cannot be read. -/
  file : String → Except String String
  /-- The value of an environment variable, if it is set. -/
  setting : String → Option String
  /-- The standard input, or why it cannot be read. -/
  input : Except String String

/-- Why a run cannot be finished. -/
inductive Trouble where
  | rules (path : String) (cause : ConfigError)
  | config (path : String) (cause : ConfigError)
  | unreadable (path cause : String)
  | input (cause : String)
  | trust (value : String)
  | snapshot (cause : Decode.Fault)
  | provider (error : Provider.Error)
  | panel (error : Shadow.PanelError)
  | log (path cause : String)
deriving Repr, DecidableEq

def Trouble.message : Trouble → String
  | .rules path _ => s!"Failed to load rules from {path}"
  | .config path _ => s!"Failed to load runtime config from {path}"
  | .unreadable path _ => s!"Failed to read {path}"
  | .input _ => "Failed to read input from stdin"
  | .trust value => s!"--trust must be in [0, 1], got {value}"
  | .snapshot _ => "Invalid agent state snapshot"
  | .provider e => e.message
  | .panel e => e.message
  | .log path _ => s!"Failed to open audit log {path}"

/-- What a trouble comes from, from the nearest cause to the last. -/
def Trouble.causes : Trouble → List String
  | .rules _ e | .config _ e => e.causes
  | .unreadable _ cause | .input cause => [cause]
  | .snapshot fault => [fault.message]
  | .panel (.config e) => e.source?.toList
  | .log _ cause => [s!"Failed to write audit record: {cause}", cause]
  | .trust _ | .provider _ | .panel _ => []

def Trouble.report (t : Trouble) : Report := .ofTrouble t.message t.causes

def localUrl : String := "http://localhost:11434/v1"

def Advisor.model? : Advisor → Option String
  | .openAi => some "gpt-4o-mini"
  | .keyless => some "llama3.1"
  | .anthropic | .nobody => none

namespace Sources

def read (s : Sources) (path : String) : Except Trouble String := (s.file path).mapError (.unreadable path)

def rules [Pattern.Dialect] (s : Sources) : Option String → Except Trouble Rules.RuleSet
  | none => .ok .builtin
  | some path =>
    match s.file path with
    | .error cause => .error (.rules path (.unreadable cause))
    | .ok text => (Rules.RuleSet.ofFile path text).mapError (.rules path)

/-- The parameters of second opinions. A model that is named counts; one that goes with the advisor only where
no file of parameters is given. -/
def config (s : Sources) (e : Evaluate) : Except Trouble Shadow.Config := do
  let c ← match e.config with
    | none => pure .standard
    | some path =>
      match s.file path with
      | .error cause => throw (.config path (.unreadable cause))
      | .ok text => (Shadow.Config.ofYaml text).mapError (.config path)
  let model := e.model <|> if e.config.isNone then e.advisor.model? else none
  pure <| match model with
    | some model => { c with settings := { c.settings with model } }
    | none => c

/-- The text to evaluate: the one that is given, that of a file, or the standard input. -/
def text (s : Sources) (e : Evaluate) : Except Trouble String :=
  match e.text, e.file with
  | some text, _ => .ok text
  | none, some path => s.read path
  | none, none => s.input.mapError .input

def request (s : Sources) (name : String) (e : Evaluate) (input : String) : Except Trouble Request := do
  if !(0 ≤ e.trust && e.trust ≤ 1) then throw (.trust (Scalar.text e.trust))
  let context : RequestContext :=
    { RequestContext.anonymous name with userId := e.user, userRole := e.role, strict := e.strict }
  let state ← e.state.mapM fun path => do
    (ofJsonText Snapshot.decoder (← s.read path)).mapError .snapshot
  pure
    { stages := ⟨input, state, e.outputText.map OutputPayload.plain⟩
      context := context.withTrust e.trust, deadline := e.deadline }

/-- How the advisor is reached, if there is one. -/
def endpoint (s : Sources) (e : Evaluate) : Except Trouble (Option Provider.Endpoint) := do
  let key (entry name : String) : Except Trouble Provider.Credential :=
    (Provider.Credential.ofEnvironment entry name (s.setting entry)).mapError .provider
  let placed (p : Provider.Endpoint) : Provider.Endpoint := (e.baseUrl.map p.withUrl).getD p
  match e.advisor with
  | .nobody => pure none
  | .anthropic =>
    return some (placed (.anthropic (← key Provider.Endpoint.anthropicVariable Provider.Endpoint.anthropicKey)))
  | .openAi => return some (placed (.openAi (← key Provider.Endpoint.openAiVariable Provider.Endpoint.openAiKey)))
  | .keyless => pure (some (.keyless (e.baseUrl.getD localUrl)))

end Sources

/-- An evaluation that is ready to run. -/
structure Prepared where
  pipeline : Pipeline
  request : Request
  endpoint : Option Provider.Endpoint
  settings : Provider.Settings
  /-- The file that records are added to. -/
  log : Option String

/-- Puts an evaluation together, under a name for the request. -/
def Sources.prepare [Pattern.Dialect] (s : Sources) (name : String) (rules : Option String) (e : Evaluate) :
    Except Trouble Prepared := do
  let engine ← (Engine.ofRules (← s.rules rules)).mapError fun error => .panel (.config error)
  let config ← s.config e
  let request ← s.request name e (← s.text e)
  let endpoint ← s.endpoint e
  let panel ← endpoint.mapM fun p =>
    let agents := Shadow.Agent.forAll p.name config.settings config.agents.agentTimeout
    (Shadow.Panel.ofAgents config agents).mapError .panel
  -- the file is opened once everything else is ready
  let sink : Audit.Sink := if e.auditLog.isSome then .lines "" else .trace
  pure
    { pipeline := { Pipeline.ofEngine engine with panel, sink, deadline := config.agents.requestDeadline }
      request, endpoint, settings := config.settings, log := e.auditLog }

/-- What a provider does when messages are put before it, given what comes of a request over HTTP and after how
many ticks. -/
def replyOf (p : Provider.Endpoint) (settings : Provider.Settings)
    (exchange : Provider.HttpRequest → Provider.Exchange × Nat) (messages : List Provider.Message) : Shadow.Reply :=
  match p.request messages settings with
  | .error e => ⟨some 0, .error e⟩
  | .ok r =>
    let (result, ticks) := exchange r
    ⟨some ticks, p.conclude settings result⟩

/-- Evaluates the request, if the clock goes far enough; with the decision the lines for the log. -/
def Prepared.run (x : Prepared) (exchange : Provider.HttpRequest → Provider.Exchange × Nat) :
    Option (Decision × String) := do
  let (pending, pipeline) ← x.pipeline.begin? 0 x.request
  let reply (part : Shadow.Part) : Stage × Shadow.Reply :=
    (part.inquiry.agent, match x.endpoint with
      | some p => replyOf p x.settings exchange part.inquiry.messages
      | none => Shadow.silence)
  let replies := pending.calls.map reply
  let ((d, _), pipeline) := pipeline.finish pending fun stage => (replies.lookup stage).getD Shadow.silence
  pure (d, pipeline.sink.log)

/-- What an evaluation comes to, given whether its log can be opened; with the report the lines for the log. -/
def Prepared.report (x : Prepared) (json : Bool) (opened : Except String Unit)
    (exchange : Provider.HttpRequest → Provider.Exchange × Nat) : Report × String :=
  match x.log, opened with
  | some path, .error cause => ((Trouble.log path cause).report, "")
  | _, _ =>
    match x.run exchange with
    | some (d, log) => (.ofDecision json d, log)
    | none => (.brokenOff, "")

def Sources.validateRules [Pattern.Dialect] (s : Sources) (json : Bool) (path : String) : Report :=
  match s.rules (some path) with
  | .error t => t.report
  | .ok r => .ofRules json r ((Engine.ofRules r).map fun _ => ())

def Defaults.text : Defaults → String
  | .rules => Rules.RuleSet.builtin.toText .yaml
  | .runtime => Shadow.Config.standard.toYaml

def versionLine : String := "riskgate 0.1.0"

def usage : String :=
  "Usage: riskgate [--json] [--rules <path>] <action>\n\n"
    ++ "  evaluate [text]                 evaluate one request and print the decision\n"
    ++ "  validate-rules <path>           load, validate and compile a rule set file\n"
    ++ "  print-defaults [rules|runtime]  print a default configuration as YAML\n"

/-- The report where there is nothing to run. -/
def Stop.report : Stop → Report
  | .help => .ofText usage
  | .version => .ofText (Report.line versionLine)
  | .misuse => ⟨"", some usage, Report.refusal⟩

/-- What a call of the program comes to. -/
inductive Course where
  /-- It is over. -/
  | ended (r : Report)
  /-- An evaluation is to be run. -/
  | evaluates (json : Bool) (x : Prepared)
  /-- It goes on with the standard input, which cannot be read so far. -/
  | lacksInput (cause : String)

/-- What a call comes to; an evaluation has a name for its request. -/
def Sources.course [Pattern.Dialect] (s : Sources) (name : String) (i : Invocation) : Course :=
  match i.action with
  | .evaluate e =>
    match s.prepare name i.common.rules e with
    | .error (.input cause) => .lacksInput cause
    | .error t => .ended t.report
    | .ok x => .evaluates i.common.json x
  | .validateRules path => .ended (s.validateRules i.common.json path)
  | .printDefaults which => .ended (.ofText which.text)

end Guardrail.Command
