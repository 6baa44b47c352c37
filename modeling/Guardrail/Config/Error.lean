import Guardrail.Decode.Fault

/-!
Why a configuration or a rule set is refused.
-/

namespace Guardrail

/-- Why a configuration or a rule set is refused. Numbers are given by their texts. -/
inductive ConfigError where
  | invalidWeights (stage sum : String)
  | outOfRange (field value : String)
  | notIncreasing (detail : String)
  | invalidValue (field reason : String)
  | invalidPattern (id reason : String)
  | duplicatePattern (id : String)
  /-- The file could not be read. -/
  | unreadable (cause : String)
  | badYaml (fault : String)
  | badJson (fault : Decode.Fault)
deriving Repr, BEq, DecidableEq

def ConfigError.kind : ConfigError → String
  | .invalidWeights .. => "invalid_weights"
  | .outOfRange .. => "out_of_range"
  | .notIncreasing .. => "non_monotonic_thresholds"
  | .invalidValue .. => "invalid_value"
  | .invalidPattern .. => "invalid_pattern"
  | .duplicatePattern .. => "duplicate_pattern_id"
  | .unreadable .. => "io"
  | .badYaml _ => "yaml"
  | .badJson _ => "json"

def ConfigError.message : ConfigError → String
  | .invalidWeights stage sum => s!"{stage} weights must sum to 1.0, got {sum}"
  | .outOfRange field value => s!"{field} must be in [0, 1], got {value}"
  | .notIncreasing detail => s!"Risk thresholds must be strictly increasing within (0, 1]: {detail}"
  | .invalidValue field reason => s!"Invalid value for {field}: {reason}"
  | .invalidPattern id reason => s!"Pattern '{id}' failed to compile: {reason}"
  | .duplicatePattern id => s!"Duplicate pattern id: {id}"
  | .unreadable cause => s!"Failed to read rule set: {cause}"
  | .badYaml fault => s!"Failed to parse YAML: {fault}"
  | .badJson fault => s!"Failed to parse JSON: {fault.message}"

/-- The error behind an error, if there is one. -/
def ConfigError.source? : ConfigError → Option String
  | .invalidPattern _ reason => some reason
  | .unreadable cause => some cause
  | .badYaml fault => some fault
  | .badJson fault => some fault.message
  | _ => none

/-- What an error is put down to: itself and the one behind it. -/
def ConfigError.causes (e : ConfigError) : List String := e.message :: e.source?.toList

end Guardrail
