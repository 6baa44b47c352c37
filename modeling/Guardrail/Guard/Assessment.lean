import Guardrail.Detect.Basic
import Guardrail.Risk.Score
import Guardrail.Request

/-!
What a stage is found to be.

The findings of several detectors are merged in an order that does not depend on which detector was first.
-/

namespace Guardrail

/-- The outcome of a stage. -/
structure Assessment where
  score : RiskScore
  findings : List Finding
  /-- The text with personal data written over, where that is asked for. -/
  redacted : Option String
  faults : List DetectorFault
deriving Repr

namespace Assessment

def mergeOrder (a b : Finding) : Ordering :=
  (compare a.category.rank b.category.rank).then <|
  (compare a.span.start b.span.start).then <|
  (compare a.span.stop b.span.stop).then <|
  compare a.rule b.rule

/-- All findings of several detectors, in merged order. -/
def merge (groups : List (List Finding)) : List Finding :=
  groups.flatten.mergeSort fun a b => (mergeOrder a b).isLE

/-- The outcome where a stage is given the payload of another. -/
def misplaced (expected : Layer) (payload : Payload) : Assessment :=
  ⟨.zero expected "malformed_input" s!"Expected a {expected.text} payload, got {payload.stage.ruleLayer.text}",
    [], none, []⟩

/-- The categories of the findings, in their order. -/
def categories (a : Assessment) : List Category := a.findings.map (·.category)

def toJson (a : Assessment) : Json :=
  .obj [("score", a.score.toJson), ("entities", .arr (a.findings.map Finding.toJson)),
    ("redacted_text", .ofOption .str a.redacted), ("faults", .arr (a.faults.map DetectorFault.toJson)),
    ("categories", .arr (a.categories.map fun c => .str c.text))]

end Assessment

end Guardrail
