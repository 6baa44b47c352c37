import Guardrail.Config.Error
import Guardrail.Risk.Level
import Guardrail.Risk.Layer
import Guardrail.Finding.Basic

/-!
The parameters of scoring and what makes them acceptable.

`ScoringConfig.validate` goes through the sections in order and reports the first fault. The sets of
weights that it accepts lie in `[0, 1]` and sum to one within a billionth.
-/

namespace Guardrail

/-- Weights of the input guard. -/
structure InputWeights (ν : Type := Float) where
  pii : ν
  injection : ν
deriving Repr

structure InputGuardConfig (ν : Type := Float) where
  weights : InputWeights ν
  /-- The summed weight of personal data that counts as full risk. -/
  piiNormalization : ν
  /-- The score is never below the injection risk. -/
  dominantFloor : Bool
  /-- Personal data is written over before later stages see the text. -/
  redact : Bool
  /-- How many checksum answers are remembered. -/
  luhnCapacity : Nat
deriving Repr

/-- Weights of the state monitor. -/
structure StateWeights (ν : Type := Float) where
  looping : ν
  cost : ν
  progress : ν
deriving Repr

/-- How the state of an agent is scored. -/
structure StateMonitorConfig (ν : Type := Float) where
  weights : StateWeights ν
  /-- How many of the latest actions are looked at for repetition. -/
  loopWindow : Nat
  /-- How many equal actions among them are a loop. -/
  loopRepeats : Nat
  /-- How many of the latest actions must all lack progress. -/
  progressWindow : Nat
  /-- The risk of no progress. -/
  progressFlag : ν
  /-- The score is never below the loop risk. -/
  dominantFloor : Bool
deriving Repr

/-- Weights of the output guard. -/
structure OutputWeights (ν : Type := Float) where
  leak : ν
  validation : ν
  newPii : ν
deriving Repr

structure OutputGuardConfig (ν : Type := Float) where
  weights : OutputWeights ν
  piiNormalization : ν
  /-- How many words in a row betray the system prompt. -/
  promptNgram : Nat
  /-- The risk of an empty output. -/
  emptyRisk : ν
  /-- The score is never below the leak risk. -/
  dominantFloor : Bool
deriving Repr

/-- The weight of each stage in the overall score. -/
structure LayerWeights (ν : Type := Float) where
  inputGuard : ν
  stateMonitor : ν
  outputGuard : ν
deriving Repr

/-- How the stages are combined. -/
structure AggregationConfig (ν : Type := Float) where
  layerWeights : LayerWeights ν
  trustAdjustment : Bool
  /-- How much full distrust adds. -/
  trustFactor : ν
  strictAdjustment : Bool
  strictMultiplier : ν
deriving Repr

/-- When a second opinion is asked for. -/
structure EscalationConfig (ν : Type := Float) where
  enabled : Bool
  /-- From here on, inclusive. -/
  shadowThreshold : ν
  /-- Up to here, exclusive. -/
  criticalThreshold : ν
deriving Repr

structure ScoringConfig (ν : Type := Float) where
  thresholds : Thresholds ν
  inputGuard : InputGuardConfig ν
  stateMonitor : StateMonitorConfig ν
  outputGuard : OutputGuardConfig ν
  aggregation : AggregationConfig ν
  escalation : EscalationConfig ν
  /-- Categories that block a request whatever its score. -/
  hardBlock : List Category
  /-- Longer texts are not inspected. -/
  maxTextBytes : Nat
deriving Repr

section Standard

variable {ν : Type} [Scalar ν]

/-- The weight of a layer; a shadow layer has that of the layer it stands for. -/
def LayerWeights.weight (w : LayerWeights ν) (l : Layer) : ν :=
  match l.stage with
  | .input => w.inputGuard
  | .state => w.stateMonitor
  | .output => w.outputGuard

def InputGuardConfig.standard : InputGuardConfig ν :=
  ⟨⟨Scalar.decimal 5 1, Scalar.decimal 5 1⟩, 1, true, true, 10000⟩

def StateMonitorConfig.standard : StateMonitorConfig ν :=
  ⟨⟨Scalar.decimal 6 1, Scalar.decimal 3 1, Scalar.decimal 1 1⟩, 10, 3, 5, Scalar.decimal 3 1, true⟩

def OutputGuardConfig.standard : OutputGuardConfig ν :=
  ⟨⟨Scalar.decimal 5 1, Scalar.decimal 3 1, Scalar.decimal 2 1⟩, 1, 8, Scalar.decimal 5 1, true⟩

def LayerWeights.standard : LayerWeights ν := ⟨Scalar.decimal 4 1, Scalar.decimal 2 1, Scalar.decimal 4 1⟩

def AggregationConfig.standard : AggregationConfig ν :=
  ⟨.standard, true, Scalar.decimal 2 1, true, Scalar.decimal 12 1⟩

def EscalationConfig.standard : EscalationConfig ν := ⟨true, Scalar.decimal 5 1, Scalar.decimal 95 2⟩

def ScoringConfig.standard : ScoringConfig ν :=
  ⟨.standard, .standard, .standard, .standard, .standard, .standard, [.creditCard], 1024 * 1024⟩

end Standard

section Validate

variable {ν : Type} [Scalar ν]

/-- How far a set of weights may be from summing to one. -/
def weightTolerance : ν := Scalar.decimal 1 9

def checkUnit (field : String) (value : ν) : Except ConfigError Unit :=
  if 0 ≤ value ∧ value ≤ 1 then .ok () else .error (.outOfRange field (Scalar.text value))

def checkPositive (field : String) (value : ν) : Except ConfigError Unit :=
  if 0 < value ∧ Scalar.isFinite value then .ok ()
  else .error (.invalidValue field s!"must be a positive number, got {Scalar.text value}")

/-- Weights in `[0, 1]` that sum to one. -/
def checkWeights (stage : String) (weights : List (String × ν)) : Except ConfigError Unit := do
  weights.forM fun (name, value) => checkUnit s!"{stage}.{name}" value
  let sum := Scalar.sum (weights.map (·.2))
  if weightTolerance < Scalar.abs (sum - 1) then throw (.invalidWeights stage (Scalar.text sum))

def checkValue (field : String) (holds : Bool) (reason : String) : Except ConfigError Unit :=
  if holds then .ok () else .error (.invalidValue field reason)

namespace Thresholds

def validate (t : Thresholds ν) : Except ConfigError Unit :=
  if t.ordered then .ok ()
  else .error (.notIncreasing
    s!"low={Scalar.text t.low}, medium={Scalar.text t.medium}, high={Scalar.text t.high}, critical={Scalar.text t.critical}")

end Thresholds

def InputGuardConfig.validate (c : InputGuardConfig ν) : Except ConfigError Unit := do
  checkWeights "input_guard" [("pii", c.weights.pii), ("injection", c.weights.injection)]
  checkPositive "input_guard.pii_normalization" c.piiNormalization
  checkValue "input_guard.luhn_cache_capacity" (c.luhnCapacity != 0) "must be at least 1"

def StateMonitorConfig.validate (c : StateMonitorConfig ν) : Except ConfigError Unit := do
  checkWeights "state_monitor"
    [("loop", c.weights.looping), ("cost", c.weights.cost), ("progress", c.weights.progress)]
  checkValue "state_monitor.loop_repeat_threshold" (2 ≤ c.loopRepeats && c.loopRepeats ≤ c.loopWindow)
    s!"must be >= 2 and <= loop_window ({c.loopWindow}), got {c.loopRepeats}"
  checkValue "state_monitor.progress_window" (c.progressWindow != 0) "must be at least 1"
  checkUnit "state_monitor.progress_flag_value" c.progressFlag

def OutputGuardConfig.validate (c : OutputGuardConfig ν) : Except ConfigError Unit := do
  checkWeights "output_guard"
    [("leak", c.weights.leak), ("validation", c.weights.validation), ("new_pii", c.weights.newPii)]
  checkPositive "output_guard.pii_normalization" c.piiNormalization
  checkUnit "output_guard.empty_output_risk" c.emptyRisk
  checkValue "output_guard.prompt_leak_ngram" (3 ≤ c.promptNgram) s!"must be at least 3, got {c.promptNgram}"

def AggregationConfig.validate (c : AggregationConfig ν) : Except ConfigError Unit := do
  checkWeights "aggregation.layer_weights"
    [("input_guard", c.layerWeights.inputGuard), ("state_monitor", c.layerWeights.stateMonitor),
      ("output_guard", c.layerWeights.outputGuard)]
  checkValue "aggregation.trust_factor" (decide (0 ≤ c.trustFactor) && Scalar.isFinite c.trustFactor)
    s!"must be a non-negative number, got {Scalar.text c.trustFactor}"
  checkPositive "aggregation.strict_multiplier" c.strictMultiplier

def EscalationConfig.validate (c : EscalationConfig ν) : Except ConfigError Unit := do
  checkUnit "escalation.shadow_threshold" c.shadowThreshold
  checkUnit "escalation.critical_threshold" c.criticalThreshold
  if c.criticalThreshold ≤ c.shadowThreshold then
    throw (.notIncreasing
      s!"escalation.shadow_threshold ({Scalar.text c.shadowThreshold}) must be below escalation.critical_threshold ({Scalar.text c.criticalThreshold})")

def ScoringConfig.validate (c : ScoringConfig ν) : Except ConfigError Unit := do
  c.thresholds.validate
  c.inputGuard.validate
  c.stateMonitor.validate
  c.outputGuard.validate
  c.aggregation.validate
  c.escalation.validate
  checkValue "max_text_bytes" (c.maxTextBytes != 0) "must be at least 1"

end Validate

section Documents

open Decode

def InputWeights.decoder : Decoder InputWeights :=
  let d : InputWeights := InputGuardConfig.standard.weights
  record "struct InputWeights" <|
    InputWeights.mk <$> .withDefault "pii" number d.pii <*> .withDefault "injection" number d.injection

def InputGuardConfig.decoder : Decoder InputGuardConfig :=
  let d : InputGuardConfig := .standard
  record "struct InputGuardConfig" <|
    InputGuardConfig.mk <$> .withDefault "weights" InputWeights.decoder d.weights
      <*> .withDefault "pii_normalization" number d.piiNormalization
      <*> .withDefault "dominant_floor" boolean d.dominantFloor
      <*> .withDefault "redact" boolean d.redact
      <*> .withDefault "luhn_cache_capacity" word64 d.luhnCapacity

def StateWeights.decoder : Decoder StateWeights :=
  let d : StateWeights := StateMonitorConfig.standard.weights
  record "struct StateWeights" <|
    StateWeights.mk <$> .withDefault "loop" number d.looping <*> .withDefault "cost" number d.cost
      <*> .withDefault "progress" number d.progress

def StateMonitorConfig.decoder : Decoder StateMonitorConfig :=
  let d : StateMonitorConfig := .standard
  record "struct StateMonitorConfig" <|
    StateMonitorConfig.mk <$> .withDefault "weights" StateWeights.decoder d.weights
      <*> .withDefault "loop_window" size d.loopWindow
      <*> .withDefault "loop_repeat_threshold" size d.loopRepeats
      <*> .withDefault "progress_window" size d.progressWindow
      <*> .withDefault "progress_flag_value" number d.progressFlag
      <*> .withDefault "dominant_floor" boolean d.dominantFloor

def OutputWeights.decoder : Decoder OutputWeights :=
  let d : OutputWeights := OutputGuardConfig.standard.weights
  record "struct OutputWeights" <|
    OutputWeights.mk <$> .withDefault "leak" number d.leak
      <*> .withDefault "validation" number d.validation <*> .withDefault "new_pii" number d.newPii

def OutputGuardConfig.decoder : Decoder OutputGuardConfig :=
  let d : OutputGuardConfig := .standard
  record "struct OutputGuardConfig" <|
    OutputGuardConfig.mk <$> .withDefault "weights" OutputWeights.decoder d.weights
      <*> .withDefault "pii_normalization" number d.piiNormalization
      <*> .withDefault "prompt_leak_ngram" size d.promptNgram
      <*> .withDefault "empty_output_risk" number d.emptyRisk
      <*> .withDefault "dominant_floor" boolean d.dominantFloor

def LayerWeights.decoder : Decoder LayerWeights :=
  let d : LayerWeights := .standard
  record "struct LayerWeights" <|
    LayerWeights.mk <$> .withDefault "input_guard" number d.inputGuard
      <*> .withDefault "state_monitor" number d.stateMonitor
      <*> .withDefault "output_guard" number d.outputGuard

def AggregationConfig.decoder : Decoder AggregationConfig :=
  let d : AggregationConfig := .standard
  record "struct AggregationConfig" <|
    AggregationConfig.mk <$> .withDefault "layer_weights" LayerWeights.decoder d.layerWeights
      <*> .withDefault "trust_adjustment" boolean d.trustAdjustment
      <*> .withDefault "trust_factor" number d.trustFactor
      <*> .withDefault "strict_adjustment" boolean d.strictAdjustment
      <*> .withDefault "strict_multiplier" number d.strictMultiplier

def EscalationConfig.decoder : Decoder EscalationConfig :=
  let d : EscalationConfig := .standard
  record "struct EscalationConfig" <|
    EscalationConfig.mk <$> .withDefault "enabled" boolean d.enabled
      <*> .withDefault "shadow_threshold" number d.shadowThreshold
      <*> .withDefault "critical_threshold" number d.criticalThreshold

def ScoringConfig.decoder : Decoder ScoringConfig :=
  let d : ScoringConfig := .standard
  record "struct ScoringConfig" <|
    ScoringConfig.mk <$> .withDefault "thresholds" Thresholds.decoder d.thresholds
      <*> .withDefault "input_guard" InputGuardConfig.decoder d.inputGuard
      <*> .withDefault "state_monitor" StateMonitorConfig.decoder d.stateMonitor
      <*> .withDefault "output_guard" OutputGuardConfig.decoder d.outputGuard
      <*> .withDefault "aggregation" AggregationConfig.decoder d.aggregation
      <*> .withDefault "escalation" EscalationConfig.decoder d.escalation
      <*> .withDefault "hard_block" (list Category.decoder) d.hardBlock
      <*> .withDefault "max_text_bytes" size d.maxTextBytes

def InputGuardConfig.toJson (c : InputGuardConfig) : Json :=
  .obj [("weights", .obj [("pii", .ofFloat c.weights.pii), ("injection", .ofFloat c.weights.injection)]),
    ("pii_normalization", .ofFloat c.piiNormalization), ("dominant_floor", .bool c.dominantFloor),
    ("redact", .bool c.redact), ("luhn_cache_capacity", .ofNat c.luhnCapacity)]

def StateMonitorConfig.toJson (c : StateMonitorConfig) : Json :=
  .obj [("weights", .obj [("loop", .ofFloat c.weights.looping), ("cost", .ofFloat c.weights.cost),
      ("progress", .ofFloat c.weights.progress)]),
    ("loop_window", .ofNat c.loopWindow), ("loop_repeat_threshold", .ofNat c.loopRepeats),
    ("progress_window", .ofNat c.progressWindow), ("progress_flag_value", .ofFloat c.progressFlag),
    ("dominant_floor", .bool c.dominantFloor)]

def OutputGuardConfig.toJson (c : OutputGuardConfig) : Json :=
  .obj [("weights", .obj [("leak", .ofFloat c.weights.leak), ("validation", .ofFloat c.weights.validation),
      ("new_pii", .ofFloat c.weights.newPii)]),
    ("pii_normalization", .ofFloat c.piiNormalization), ("prompt_leak_ngram", .ofNat c.promptNgram),
    ("empty_output_risk", .ofFloat c.emptyRisk), ("dominant_floor", .bool c.dominantFloor)]

def AggregationConfig.toJson (c : AggregationConfig) : Json :=
  .obj [("layer_weights", .obj [("input_guard", .ofFloat c.layerWeights.inputGuard),
      ("state_monitor", .ofFloat c.layerWeights.stateMonitor),
      ("output_guard", .ofFloat c.layerWeights.outputGuard)]),
    ("trust_adjustment", .bool c.trustAdjustment), ("trust_factor", .ofFloat c.trustFactor),
    ("strict_adjustment", .bool c.strictAdjustment), ("strict_multiplier", .ofFloat c.strictMultiplier)]

def EscalationConfig.toJson (c : EscalationConfig) : Json :=
  .obj [("enabled", .bool c.enabled), ("shadow_threshold", .ofFloat c.shadowThreshold),
    ("critical_threshold", .ofFloat c.criticalThreshold)]

def ScoringConfig.toJson (c : ScoringConfig) : Json :=
  .obj [("thresholds", c.thresholds.toJson), ("input_guard", c.inputGuard.toJson),
    ("state_monitor", c.stateMonitor.toJson), ("output_guard", c.outputGuard.toJson),
    ("aggregation", c.aggregation.toJson), ("escalation", c.escalation.toJson),
    ("hard_block", .arr (c.hardBlock.map fun k => .str k.text)), ("max_text_bytes", .ofNat c.maxTextBytes)]

end Documents

end Guardrail
