import Guardrail.Config.Scoring
import Guardrail.Risk.Score
import Guardrail.Request

/-!
The overall risk of a request.

Each stage counts with one score, that of the shadow layer where there is one. The scores are added with
weights that are brought to sum to one over the stages present. Little trust and strict mode raise the sum,
which is then classified; within a band a second opinion is asked for.
-/

namespace Guardrail

/-- A second opinion in short. -/
structure ShadowDetail (ν : Type := Float) where
  agent : Stage
  layer : Layer
  score : ν
  confidence : ν
  fallbackUsed : Bool
  fallbackReason : Option String
  cached : Bool
  threats : Nat
deriving Repr

/-- How one stage contributes to the overall risk. -/
structure LayerDetail (ν : Type := Float) where
  /-- The layer that the score was taken from. -/
  source : Layer
  score : ν
  level : RiskLevel
  weight : ν
  contribution : ν
  factors : Keyed String ν
deriving Repr

/-- How the overall risk came about. -/
structure Breakdown (ν : Type := Float) where
  base : ν
  weights : Keyed Layer ν
  trustMultiplier : ν
  strictMultiplier : ν
  layers : Keyed Layer (LayerDetail ν)
  shadow : List (ShadowDetail ν)
deriving Repr

/-- The overall risk of a request. -/
structure Aggregate (ν : Type := Float) where
  score : ν
  level : RiskLevel
  layerScores : Keyed Layer ν
  breakdown : Breakdown ν
  /-- A second opinion is asked for. -/
  escalates : Bool
  reason : Option String
deriving Repr

/-- What the overall risk is computed by. -/
structure Aggregator (ν : Type := Float) where
  aggregation : AggregationConfig ν
  escalation : EscalationConfig ν
  thresholds : Thresholds ν

/-- A score after adjustment, with the multipliers that made it. -/
structure Adjustment (ν : Type := Float) where
  score : ν
  trustMultiplier : ν
  strictMultiplier : ν
deriving Repr

namespace Aggregate

variable {ν : Type} [Scalar ν]

/-- Lets a score count for its stage, unless a shadow score does already and it is none. -/
def choose (chosen : Keyed Layer (RiskScore ν)) (s : RiskScore ν) : Keyed Layer (RiskScore ν) :=
  match chosen.get? s.layer.base with
  | some before => if before.layer.isShadow && !s.layer.isShadow then chosen else chosen.set s.layer.base s
  | none => chosen.set s.layer.base s

/-- The score that counts for each stage, under the rule layer of the stage. -/
def select (scores : List (RiskScore ν)) : Keyed Layer (RiskScore ν) := scores.foldl choose []

/-- The weights of layers, brought to sum to one; equal weights if all are zero. -/
def effectiveWeights (w : LayerWeights ν) (layers : List Layer) : Keyed Layer ν :=
  let total := Scalar.sum (layers.map w.weight)
  layers.map fun l => (l, if 0 < total then w.weight l / total else 1 / Scalar.ofNat layers.length)

/-- The layer with the largest contribution, the earlier one of equals. -/
def driving (layers : Keyed Layer (LayerDetail ν)) : Option Layer :=
  (layers.foldl (fun (best : Option (LayerDetail ν)) d =>
    match best with
    | some b => if d.2.contribution ≤ b.contribution then some b else some d.2
    | none => some d.2) none).map (·.source)

end Aggregate

namespace Aggregator

variable {ν : Type} [Scalar ν]

def neutralTrust : ν := Scalar.decimal 5 1

/-- Raises a score for little trust, then for strict mode. -/
def adjust (a : Aggregator ν) (base : ν) (context : RequestContext ν) : Adjustment ν :=
  let trust := Scalar.clampUnit context.trust
  let trustMultiplier :=
    if a.aggregation.trustAdjustment && decide (trust < neutralTrust) then
      1 + (1 - trust) * a.aggregation.trustFactor
    else 1
  let raised := Scalar.clampUnit (Scalar.clampUnit base * trustMultiplier)
  let strictMultiplier :=
    if a.aggregation.strictAdjustment && context.strict then a.aggregation.strictMultiplier else 1
  ⟨Scalar.clampUnit (raised * strictMultiplier), trustMultiplier, strictMultiplier⟩

/-- Whether a score lies in the band in which a second opinion is asked for. -/
def inBand (a : Aggregator ν) (score : ν) : Bool :=
  decide (a.escalation.shadowThreshold ≤ score) && decide (score < a.escalation.criticalThreshold)

/-- The overall risk of scores. A request that is blocked already asks for no second opinion. -/
def aggregate (a : Aggregator ν) (scores : List (RiskScore ν)) (context : RequestContext ν)
    (blocked : Bool) : Aggregate ν :=
  let selected := Aggregate.select scores
  let weights := Aggregate.effectiveWeights a.aggregation.layerWeights (selected.map (·.1))
  let layers : Keyed Layer (LayerDetail ν) := (selected.zip weights).map fun ((l, s), (_, w)) =>
    (l, ⟨s.layer, s.value, s.level, w, w * s.value, s.factors⟩)
  -- contributions are added in the order of the layers, as rounding depends on it
  let base := Scalar.clampUnit ((layers.map fun d => d.2.contribution).foldl (· + ·) 0)
  let adjusted := a.adjust base context
  let escalates := a.escalation.enabled && !blocked && a.inBand adjusted.score
  { score := adjusted.score
    level := a.thresholds.classify adjusted.score
    layerScores := Keyed.ofList (selected.map fun (_, s) => (s.layer, s.value))
    breakdown := ⟨base, weights, adjusted.trustMultiplier, adjusted.strictMultiplier, layers, []⟩
    escalates
    reason := if escalates then (Aggregate.driving layers).map fun l => s!"{l.text}_above_shadow_threshold" else none }

end Aggregator

def layersDecoder {α : Type} (item : Decode.Decoder α) : Decode.Decoder (Keyed Layer α) := fun o d =>
  (Decode.members Layer.ofText item o d).map Keyed.ofList

def ShadowDetail.decoder : Decode.Decoder ShadowDetail :=
  Decode.record "struct ShadowDetail" <|
    ShadowDetail.mk <$> .required "agent_type" Stage.decoder <*> .required "layer" Layer.decoder
      <*> .required "risk_score" Decode.number <*> .required "confidence" Decode.number
      <*> .required "fallback_used" Decode.boolean <*> .nullable "fallback_reason" Decode.string
      <*> .required "cached" Decode.boolean <*> .required "threat_count" Decode.size

def LayerDetail.decoder : Decode.Decoder LayerDetail :=
  Decode.record "struct LayerDetail" <|
    LayerDetail.mk <$> .required "source_layer" Layer.decoder <*> .required "risk_score" Decode.number
      <*> .required "risk_level" RiskLevel.decoder <*> .required "weight" Decode.number
      <*> .required "contribution" Decode.number <*> .required "risk_factors" factorsDecoder

def Breakdown.decoder : Decode.Decoder Breakdown :=
  Decode.record "struct RiskBreakdown" <|
    Breakdown.mk <$> .required "base_score" Decode.number
      <*> .required "effective_weights" (layersDecoder Decode.number)
      <*> .required "trust_multiplier" Decode.number <*> .required "strict_multiplier" Decode.number
      <*> .required "layers" (layersDecoder LayerDetail.decoder)
      <*> .required "shadow" (Decode.list ShadowDetail.decoder)

def Aggregate.fields : Decode.Fields Aggregate :=
  Aggregate.mk <$> .required "overall_risk_score" Decode.number
    <*> .required "overall_risk_level" RiskLevel.decoder
    <*> .required "layer_scores" (layersDecoder Decode.number)
    <*> .required "risk_breakdown" Breakdown.decoder <*> .required "should_escalate" Decode.boolean
    <*> .nullable "escalation_reason" Decode.string

def Aggregate.decoder : Decode.Decoder Aggregate := Decode.record "struct AggregatedRiskScore" fields

def ShadowDetail.toJson (d : ShadowDetail) : Json :=
  .obj [("agent_type", .str d.agent.text), ("layer", .str d.layer.text), ("risk_score", .ofFloat d.score),
    ("confidence", .ofFloat d.confidence), ("fallback_used", .bool d.fallbackUsed),
    ("fallback_reason", .ofOption .str d.fallbackReason), ("cached", .bool d.cached),
    ("threat_count", .ofNat d.threats)]

def LayerDetail.toJson (d : LayerDetail) : Json :=
  .obj [("source_layer", .str d.source.text), ("risk_score", .ofFloat d.score), ("risk_level", .str d.level.text),
    ("weight", .ofFloat d.weight), ("contribution", .ofFloat d.contribution),
    ("risk_factors", factorsToJson d.factors)]

def layersToJson {α : Type} (f : α → Json) (m : Keyed Layer α) : Json := .obj (m.map fun (l, a) => (l.text, f a))

def Breakdown.toJson (b : Breakdown) : Json :=
  .obj [("base_score", .ofFloat b.base), ("effective_weights", layersToJson .ofFloat b.weights),
    ("trust_multiplier", .ofFloat b.trustMultiplier), ("strict_multiplier", .ofFloat b.strictMultiplier),
    ("layers", layersToJson LayerDetail.toJson b.layers), ("shadow", .arr (b.shadow.map ShadowDetail.toJson))]

def Aggregate.members (a : Aggregate) : List (String × Json) :=
  [("overall_risk_score", .ofFloat a.score), ("overall_risk_level", .str a.level.text),
    ("layer_scores", layersToJson .ofFloat a.layerScores), ("risk_breakdown", a.breakdown.toJson),
    ("should_escalate", .bool a.escalates), ("escalation_reason", .ofOption .str a.reason)]

def Aggregate.toJson (a : Aggregate) : Json := .obj a.members

end Guardrail
