import Guardrail.Risk.Aggregate

/-!
The result of a second opinion.

Where there is none, a fallback repeats the score that the rules gave, under the layer of the rules, so
that it replaces nothing.
-/

namespace Guardrail.Shadow

/-- Why the rules had the last word. -/
inductive FallbackReason where
  | circuitOpen
  | timeout
  | providerError
  | invalidResponse
  | deadlineExceeded
deriving Repr, DecidableEq

namespace FallbackReason

def all : List FallbackReason := [.circuitOpen, .timeout, .providerError, .invalidResponse, .deadlineExceeded]

def text : FallbackReason → String
  | .circuitOpen => "circuit_open"
  | .timeout => "timeout"
  | .providerError => "provider_error"
  | .invalidResponse => "invalid_response"
  | .deadlineExceeded => "deadline_exceeded"

def decoder : Decode.Decoder FallbackReason := Decode.choice (all.map fun r => (r.text, r))

end FallbackReason

/-- A threat that a second opinion names. -/
structure Threat where
  category : String
  description : String
  severity : Float
deriving Repr, DecidableEq

namespace Threat

def decoder : Decode.Decoder Threat :=
  Decode.record "struct Threat" <|
    Threat.mk <$> .required "category" Decode.string <*> .required "description" Decode.string
      <*> .withDefault "severity" Decode.number 0.0

def toJson (t : Threat) : Json :=
  .obj [("category", .str t.category), ("description", .str t.description), ("severity", .ofFloat t.severity)]

end Threat

/-- The result of a second opinion, or its fallback. -/
structure Result where
  agent : Stage
  layer : Layer
  score : Float
  level : RiskLevel
  confidence : Float
  threats : List Threat
  reasoning : String
  provider : String
  model : String
  tokens : Nat
  /-- How long it took, in milliseconds. -/
  latency : Nat
  fallbackUsed : Bool
  fallbackReason : Option FallbackReason
  cached : Bool
deriving Repr, DecidableEq

namespace Result

/-- What stands in for a second opinion that is not to be had. -/
def fallback (agent : Stage) (rule : RiskScore) (reason : FallbackReason) : Result :=
  { agent, layer := agent.shadowLayer, score := rule.value, level := rule.level, confidence := 1, threats := []
    reasoning :=
      s!"Shadow analysis unavailable ({reason.text}); using rule-based {rule.layer.text} score"
    provider := "rules", model := "rules", tokens := 0, latency := 0
    fallbackUsed := true, fallbackReason := some reason, cached := false }

/-- The score that a result contributes to the overall risk. -/
def toScore (r : Result) (thresholds : Thresholds) : RiskScore :=
  .make (if r.fallbackUsed then r.agent.ruleLayer else r.layer) r.score
    (Keyed.ofList [("shadow_risk", r.score), ("shadow_confidence", r.confidence)]) r.reasoning thresholds

def detail (r : Result) : ShadowDetail :=
  ⟨r.agent, r.layer, r.score, r.confidence, r.fallbackUsed, r.fallbackReason.map (·.text), r.cached, r.threats.length⟩

def decoder : Decode.Decoder Result :=
  Decode.record "struct ShadowAgentResult" <|
    Result.mk <$> .required "agent_type" Stage.decoder <*> .required "layer" Layer.decoder
      <*> .required "risk_score" Decode.number <*> .required "risk_level" RiskLevel.decoder
      <*> .required "confidence" Decode.number <*> .required "threats" (Decode.list Threat.decoder)
      <*> .required "reasoning" Decode.string <*> .required "provider" Decode.string
      <*> .required "model" Decode.string <*> .required "tokens_used" Decode.word32
      <*> .required "latency_ms" Decode.word64 <*> .required "fallback_used" Decode.boolean
      <*> .nullable "fallback_reason" FallbackReason.decoder <*> .withDefault "cached" Decode.boolean false

def toJson (r : Result) : Json :=
  .obj [("agent_type", .str r.agent.text), ("layer", .str r.layer.text), ("risk_score", .ofFloat r.score),
    ("risk_level", .str r.level.text), ("confidence", .ofFloat r.confidence),
    ("threats", .arr (r.threats.map Threat.toJson)), ("reasoning", .str r.reasoning),
    ("provider", .str r.provider), ("model", .str r.model), ("tokens_used", .ofNat r.tokens),
    ("latency_ms", .ofNat r.latency), ("fallback_used", .bool r.fallbackUsed),
    ("fallback_reason", .ofOption (fun x => .str x.text) r.fallbackReason), ("cached", .bool r.cached)]

end Result

end Guardrail.Shadow
