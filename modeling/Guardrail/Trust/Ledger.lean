import Guardrail.Config.Error
import Guardrail.Config.Scoring
import Guardrail.Request

/-!
What is known about users between their requests.

Each user has a record of their own. A user without one counts as new; only updates make a record.
-/

namespace Guardrail

structure TrustConfig (ν : Type := Float) where
  initial : ν
  violationStep : ν
  cleanStep : ν
  escalationStep : ν
deriving Repr

namespace TrustConfig

variable {ν : Type} [Scalar ν]

def standard : TrustConfig ν :=
  ⟨Scalar.decimal 5 1, Scalar.decimal 1 1, Scalar.decimal 1 2, Scalar.decimal 2 2⟩

def validate (c : TrustConfig ν) : Except ConfigError Unit :=
  [("trust.initial_trust", c.initial), ("trust.violation_step", c.violationStep),
    ("trust.clean_step", c.cleanStep), ("trust.escalation_step", c.escalationStep)].forM
    fun (field, value) => checkUnit field value

def decoder : Decode.Decoder TrustConfig :=
  let d : TrustConfig := standard
  Decode.record "struct TrustConfig" <|
    TrustConfig.mk <$> .withDefault "initial_trust" Decode.number d.initial
      <*> .withDefault "violation_step" Decode.number d.violationStep
      <*> .withDefault "clean_step" Decode.number d.cleanStep
      <*> .withDefault "escalation_step" Decode.number d.escalationStep

end TrustConfig

/-- What is known about a user. -/
structure TrustRecord (ν : Type := Float) where
  trust : ν
  violations : Nat
  escalations : Nat
  clean : Nat
deriving Repr, DecidableEq

def TrustRecord.toJson (r : TrustRecord) : Json :=
  .obj [("trust_score", .ofFloat r.trust), ("violations", .ofNat r.violations),
    ("escalations", .ofNat r.escalations), ("clean_requests", .ofNat r.clean)]

inductive TrustEvent (ν : Type := Float) where
  | violation
  | clean
  | escalation
  | set (trust : ν)
deriving Repr

namespace TrustRecord

variable {ν : Type} [Scalar ν]

def fresh (c : TrustConfig ν) : TrustRecord ν := ⟨Scalar.clampUnit c.initial, 0, 0, 0⟩

/-- A record after an event; trust is brought into `[0, 1]`. -/
def apply (c : TrustConfig ν) (r : TrustRecord ν) : TrustEvent ν → TrustRecord ν
  | .violation =>
    { r with violations := r.violations + 1, trust := Scalar.clampUnit (r.trust - c.violationStep) }
  | .clean => { r with clean := r.clean + 1, trust := Scalar.clampUnit (r.trust + c.cleanStep) }
  | .escalation =>
    { r with escalations := r.escalations + 1, trust := Scalar.clampUnit (r.trust - c.escalationStep) }
  | .set trust => { r with trust := Scalar.clampUnit trust }

end TrustRecord

/-- The records of all users. -/
structure TrustLedger (ν : Type := Float) where
  config : TrustConfig ν
  records : Keyed String (TrustRecord ν)
deriving Repr

namespace TrustLedger

variable {ν : Type} [Scalar ν]

def empty (c : TrustConfig ν) : TrustLedger ν := ⟨c, []⟩

def record (l : TrustLedger ν) (user : String) : TrustRecord ν :=
  (l.records.get? user).getD (.fresh l.config)

def update (l : TrustLedger ν) (user : String) (event : TrustEvent ν) : TrustLedger ν :=
  { l with records := l.records.set user ((l.record user).apply l.config event) }

/-- A request of a user, with what is known about them. -/
def contextFor (l : TrustLedger ν) (requestId user : String) : RequestContext ν :=
  let r := l.record user
  let nobody : RequestContext ν := .anonymous requestId
  { nobody with
    userId := some user, trust := r.trust, violations := r.violations, escalations := r.escalations }

end TrustLedger

end Guardrail
