import Guardrail.Keyed
import Guardrail.Risk.Level
import Guardrail.Risk.Layer

/-!
The risk of one stage, and how its signals make it.

A stage has a few named signals, each brought into `[0, 1]` and given a weight. Its score is their weighted
sum; with a floor it is never below the dominant signal.
-/

namespace Guardrail

/-- The risk of one stage. -/
structure RiskScore (ν : Type := Float) where
  layer : Layer
  value : ν
  level : RiskLevel
  factors : Keyed String ν
  explanation : String
deriving Repr

namespace RiskScore

variable {ν : Type} [Scalar ν]

/-- A score with its value and all factors brought into `[0, 1]`. -/
def make (layer : Layer) (value : ν) (factors : Keyed String ν) (explanation : String)
    (thresholds : Thresholds ν) : RiskScore ν :=
  let value := Scalar.clampUnit value
  ⟨layer, value, thresholds.classify value, factors.mapValues Scalar.clampUnit, explanation⟩

def zero (layer : Layer) (factor explanation : String) : RiskScore ν := ⟨layer, 0, .none, [(factor, 0)], explanation⟩

/-- The value of a factor, zero if there is none of the name. -/
def factor (s : RiskScore ν) (name : String) : ν := (s.factors.get? name).getD 0

end RiskScore

def factorsToJson (factors : Keyed String Float) : Json := .obj (factors.map fun (k, v) => (k, .ofFloat v))

def factorsDecoder : Decode.Decoder (Keyed String Float) := fun o d =>
  (Decode.members .ok Decode.number o d).map Keyed.ofList

def RiskScore.fields : Decode.Fields RiskScore :=
  RiskScore.mk <$> .required "layer" Layer.decoder <*> .required "risk_score" Decode.number
    <*> .required "risk_level" RiskLevel.decoder <*> .required "risk_factors" factorsDecoder
    <*> .required "explanation" Decode.string

def RiskScore.decoder : Decode.Decoder RiskScore := Decode.record "struct RiskScore" fields

def RiskScore.members (s : RiskScore) : List (String × Json) :=
  [("layer", .str s.layer.text), ("risk_score", .ofFloat s.value), ("risk_level", .str s.level.text),
    ("risk_factors", factorsToJson s.factors), ("explanation", .str s.explanation)]

def RiskScore.toJson (s : RiskScore) : Json := .obj s.members

/-- A named part of the risk of a stage. -/
structure Signal (ν : Type := Float) where
  name : String
  weight : ν
  value : ν
deriving Repr

/-- A signal with its value brought into `[0, 1]`. -/
def Signal.make {ν : Type} [Scalar ν] (name : String) (weight value : ν) : Signal ν :=
  ⟨name, weight, Scalar.clampUnit value⟩

namespace Signal

variable {ν : Type} [Scalar ν]

def weighted (signals : List (Signal ν)) : ν := Scalar.sum (signals.map fun s => s.weight * s.value)

def valueOf (name : String) (signals : List (Signal ν)) : ν :=
  match signals.find? (·.name == name) with
  | some s => s.value
  | none => 0

/-- The weighted sum, raised to the dominant signal where there is a floor. -/
def combined (signals : List (Signal ν)) (dominant : String) (floor : Bool) : ν :=
  if floor then Scalar.max (weighted signals) (valueOf dominant signals) else weighted signals

/-- The signals above zero in words, then the detectors that failed. -/
def explain (signals : List (Signal ν)) (failed : List String) : String :=
  let parts := (signals.filter fun s => 0 < s.value).map fun s => s!"{s.name}={Scalar.brief s.value}"
  let parts := if parts.isEmpty then ["no risk signals"] else parts
  ", ".intercalate parts
    ++ (if failed.isEmpty then "" else "; faulted detectors: " ++ ", ".intercalate failed)

def faultFactor (detector : String) : String := s!"detector_fault:{detector}"

/-- The score of a stage. Detectors that failed are factors of value zero. -/
def combine (layer : Layer) (signals : List (Signal ν)) (dominant : String) (floor : Bool)
    (failed : List String) (thresholds : Thresholds ν) : RiskScore ν :=
  let factors := Keyed.ofList <|
    signals.map (fun s => (s.name, s.value)) ++ failed.map (fun d => (faultFactor d, 0))
  .make layer (combined signals dominant floor) factors (explain signals failed) thresholds

end Signal

end Guardrail
