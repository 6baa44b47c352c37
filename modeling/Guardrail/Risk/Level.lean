import Guardrail.Scalar
import Guardrail.Decode.Basic
import Guardrail.Json.Printer

/-!
Risk levels and the bands that define them.

Four thresholds cut `[0, 1]` into five bands. `Thresholds.classify` compares from the top down, and
`Thresholds.band` gives the band of a level; both speak of the same partition when the thresholds rise
strictly.
-/

namespace Guardrail

/-- The level of a risk. -/
inductive RiskLevel where
  | none
  | low
  | medium
  | high
  | critical
deriving Repr, DecidableEq, Inhabited

namespace RiskLevel

def all : List RiskLevel := [.none, .low, .medium, .high, .critical]

def text : RiskLevel → String
  | .none => "none"
  | .low => "low"
  | .medium => "medium"
  | .high => "high"
  | .critical => "critical"

def rank : RiskLevel → Nat
  | .none => 0
  | .low => 1
  | .medium => 2
  | .high => 3
  | .critical => 4

instance : LE RiskLevel := ⟨fun a b => a.rank ≤ b.rank⟩
instance : DecidableLE RiskLevel := fun a b => inferInstanceAs (Decidable (a.rank ≤ b.rank))

def decoder : Decode.Decoder RiskLevel := Decode.choice (all.map fun l => (l.text, l))

end RiskLevel

/-- The lower bounds of the four upper bands. -/
structure Thresholds (ν : Type := Float) where
  low : ν
  medium : ν
  high : ν
  critical : ν
deriving Repr

namespace Thresholds

variable {ν : Type} [Scalar ν]

def standard : Thresholds ν :=
  ⟨Scalar.decimal 2 1, Scalar.decimal 5 1, Scalar.decimal 8 1, Scalar.decimal 95 2⟩

instance : Inhabited (Thresholds ν) := ⟨standard⟩

/-- The level of a score, after bringing it into `[0, 1]`. -/
def classify (t : Thresholds ν) (score : ν) : RiskLevel :=
  let x := Scalar.clampUnit score
  if t.critical ≤ x then .critical
  else if t.high ≤ x then .high
  else if t.medium ≤ x then .medium
  else if t.low ≤ x then .low
  else .none

/-- The bounds of a band. The upper one is outside, but for the top band. -/
def band (t : Thresholds ν) : RiskLevel → ν × ν
  | .none => (0, t.low)
  | .low => (t.low, t.medium)
  | .medium => (t.medium, t.high)
  | .high => (t.high, t.critical)
  | .critical => (t.critical, 1)

def InBand (t : Thresholds ν) (level : RiskLevel) (score : ν) : Prop :=
  (t.band level).1 ≤ score ∧ (score < (t.band level).2 ∨ level = .critical ∧ score ≤ (t.band level).2)

/-- Whether the bounds rise strictly from above zero to at most one. -/
def ordered (t : Thresholds ν) : Bool :=
  decide (0 < t.low) && decide (t.low < t.medium) && decide (t.medium < t.high)
    && decide (t.high < t.critical) && decide (t.critical ≤ 1)

def decoder : Decode.Decoder Thresholds :=
  let d : Thresholds := standard
  Decode.record "struct RiskThresholds" <|
    Thresholds.mk <$> .withDefault "low" Decode.number d.low
      <*> .withDefault "medium" Decode.number d.medium
      <*> .withDefault "high" Decode.number d.high
      <*> .withDefault "critical" Decode.number d.critical

def toJson (t : Thresholds) : Json :=
  .obj [("low", .ofFloat t.low), ("medium", .ofFloat t.medium), ("high", .ofFloat t.high),
    ("critical", .ofFloat t.critical)]

end Thresholds

end Guardrail
