import Guardrail.Audit.Record

/-!
Entries of a log: records with the times at which they came about.

A record is kept with a time, and so is every score, every overall risk and every view of a breaker in it. How times are
written and read is up to a clock.
-/

namespace Guardrail.Audit

open Decode

/-- How times are written and read. What is no time is refused in words. -/
structure Clock (τ : Type) where
  text : τ → String
  read : String → Except String τ

namespace Clock

variable {τ : Type}

def decoder (clock : Clock τ) : Decoder τ
  | _, .str s => (clock.read s).mapError .refused
  | _, .plain s => (clock.read s).mapError .refused
  | _, d => .error (mismatch d "an RFC 3339 formatted date and time string")

def toJson (clock : Clock τ) (t : τ) : Json := .str (clock.text t)

end Clock

/-- A value and the time at which it came about. -/
structure Dated (τ α : Type) where
  value : α
  time : τ
deriving Repr

namespace Dated

variable {τ α : Type}

/-- The fields of a value and of its time, which is kept under a key. -/
def fields (clock : Clock τ) (key : String) (fields : Fields α) : Fields (Dated τ α) :=
  Dated.mk <$> fields <*> .required key clock.decoder

def toJson (clock : Clock τ) (key : String) (members : α → List (String × Json)) (d : Dated τ α) : Json :=
  .obj (members d.value ++ [(key, clock.toJson d.time)])

end Dated

/-- A record in which all is kept with a time. -/
abbrev DatedRecord (τ : Type) := Record (Dated τ RiskScore) (Dated τ Aggregate) (Dated τ Shadow.BreakerView)

namespace DatedRecord

variable {τ : Type}

def fields (clock : Clock τ) : Fields (DatedRecord τ) :=
  Record.fields (record "struct RiskScore" (Dated.fields clock "timestamp" RiskScore.fields))
    (record "struct AggregatedRiskScore" (Dated.fields clock "timestamp" Aggregate.fields))
    (record "struct CircuitSnapshot" (Dated.fields clock "last_state_change" Shadow.BreakerView.fields))

def members (clock : Clock τ) : DatedRecord τ → List (String × Json) :=
  Record.members (Dated.toJson clock "timestamp" RiskScore.members) (Dated.toJson clock "timestamp" Aggregate.members)
    (Dated.toJson clock "last_state_change" Shadow.BreakerView.members)

end DatedRecord

abbrev Entry (τ : Type) := Dated τ (DatedRecord τ)

namespace Entry

variable {τ : Type}

def decoder (clock : Clock τ) : Decoder (Entry τ) :=
  record "struct AuditRecord" (Dated.fields clock "timestamp" (DatedRecord.fields clock))

/-- The members of the document of an entry. Its time stands behind the name of the request. -/
def members (clock : Clock τ) (e : Entry τ) : List (String × Json) :=
  (DatedRecord.members clock e.value).insertIdx 1 ("timestamp", clock.toJson e.time)

def toJson (clock : Clock τ) (e : Entry τ) : Json := .obj (members clock e)

/-- The record of an entry, without times. -/
def plain (e : Entry τ) : Record := e.value.map Dated.value Dated.value Dated.value

/-- The line of an entry, with the line break that ends it. -/
def line (clock : Clock τ) (e : Entry τ) : List Char := (toJson clock e).chars ++ ['\n']

end Entry

end Guardrail.Audit
