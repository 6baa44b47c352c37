import Guardrail.Guard.Input
import Guardrail.Guard.State
import Guardrail.Guard.Output
import Guardrail.Risk.Aggregate

/-!
The evaluation of a request by rules alone.

The stages run in order. A stage with a finding in a blocking category ends the evaluation; otherwise the
scores of all stages make the overall risk.
-/

namespace Guardrail

/-- Rules made ready, with their parameters. -/
structure Engine where
  version : String
  config : ScoringConfig
  rules : Rules.CompiledLibrary
  /-- What answers are held against their schemas by. -/
  checker : Schema.Checker

/-- A finding that blocks a request whatever its score. -/
structure HardBlock where
  category : Category
  layer : Layer
  rule : String
deriving Repr, DecidableEq

def HardBlock.reason (b : HardBlock) : String := s!"hard_block:{b.category.text}"

def HardBlock.decoder : Decode.Decoder HardBlock :=
  Decode.record "struct HardBlock" <|
    HardBlock.mk <$> .required "category" Category.decoder <*> .required "layer" Layer.decoder
      <*> .required "rule_id" Decode.string

def HardBlock.toJson (b : HardBlock) : Json :=
  .obj [("category", .str b.category.text), ("layer", .str b.layer.text), ("rule_id", .str b.rule)]

/-- A stage that ran: what it saw and what came of it. -/
structure StageResult where
  payload : Payload
  assessment : Assessment
deriving Repr

/-- The evaluation of a request. -/
structure Evaluation where
  stages : List StageResult
  /-- Absent where a block ended the evaluation. -/
  aggregated : Option Aggregate
  hardBlock : Option HardBlock
  redactedInput : Option String
deriving Repr

namespace Evaluation

def scores (e : Evaluation) : List RiskScore := e.stages.map (·.assessment.score)

def stage? (e : Evaluation) (layer : Layer) : Option StageResult :=
  e.stages.find? (·.assessment.score.layer == layer)

end Evaluation

namespace Engine

/-- Makes a rule set ready, if it is acceptable. -/
def ofRules [Pattern.Dialect] (r : Rules.RuleSet) : Except ConfigError Engine := do
  r.validate
  let rules ← r.patterns.compile
  pure ⟨r.version, r.scoring, rules, .byDrafts⟩

def aggregator (e : Engine) : Aggregator :=
  ⟨e.config.aggregation, e.config.escalation, e.config.thresholds⟩

/-- Assesses a payload by the rules of a stage; with it the memo of card numbers afterwards. -/
def assessAs (e : Engine) (stage : Stage) (memo : Luhn.Memo) (payload : Payload) : Assessment × Luhn.Memo :=
  match stage, payload with
  | .input, .input text =>
    InputGuard.assess e.rules e.config.inputGuard e.config.thresholds e.config.maxTextBytes memo text.toList
  | .state, .state snapshot => (StateMonitor.assess e.config.stateMonitor e.config.thresholds snapshot, memo)
  | .output, .output answer =>
    OutputGuard.assess e.rules e.checker e.config.outputGuard e.config.thresholds e.config.maxTextBytes memo answer
  | stage, payload => (.misplaced stage.ruleLayer payload, memo)

def assess (e : Engine) (memo : Luhn.Memo) (payload : Payload) : Assessment × Luhn.Memo :=
  e.assessAs payload.stage memo payload

/-- The first finding in a blocking category. -/
def hardBlock (e : Engine) (layer : Layer) (findings : List Finding) : Option HardBlock :=
  (findings.find? fun f => e.config.hardBlock.contains f.category).map fun f => ⟨f.category, layer, f.rule⟩

/-- Runs stages in order, until one blocks. Each payload may depend on what the input stage redacted. -/
def runStages (e : Engine) (memo : Luhn.Memo) (redacted : Option String) :
    List (Option String → Payload) → (List StageResult × Option HardBlock × Option String) × Luhn.Memo
  | [] => (([], none, redacted), memo)
  | next :: rest =>
    let payload := next redacted
    let (a, memo) := e.assess memo payload
    let redacted := if a.score.layer = .inputGuard then a.redacted else redacted
    match e.hardBlock a.score.layer a.findings with
    | some block => (([⟨payload, a⟩], some block, redacted), memo)
    | none =>
      let ((results, block, redacted), memo) := runStages e memo redacted rest
      ((⟨payload, a⟩ :: results, block, redacted), memo)

/-- The payloads of a request, in the order of their stages. The output is compared with the redacted
input, unless the request says with what. -/
def payloads (stages : StageInputs) : List (Option String → Payload) :=
  [fun _ => .input stages.input]
    ++ (stages.state.map fun s => fun (_ : Option String) => Payload.state s).toList
    ++ (stages.output.map fun o => fun (redacted : Option String) =>
        Payload.output { o with inputText := some (o.inputText.getD (redacted.getD stages.input)) }).toList

/-- Evaluates a request; with it the memo of card numbers afterwards. -/
def evaluate (e : Engine) (memo : Luhn.Memo) (stages : StageInputs) (context : RequestContext) :
    Evaluation × Luhn.Memo :=
  let ((results, block, redacted), memo) := e.runStages memo none (payloads stages)
  let aggregated := match block with
    | some _ => none
    | none => some (e.aggregator.aggregate (results.map (·.assessment.score)) context false)
  (⟨results, aggregated, block, redacted⟩, memo)

end Engine

end Guardrail
