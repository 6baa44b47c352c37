import Guardrail.Finding.Basic
import Guardrail.Rules.RuleSet
import Guardrail.Text.Bytes

/-!
Running detectors.

A detector reports findings or fails. `guarded` turns a failure into a fault beside the empty report, so
that one detector never takes the others with it.
-/

namespace Guardrail

/-- Why a detector refuses to work. -/
inductive DetectorError where
  | inputTooLarge (length limit : Nat)
  | invalidSchema (message : String)
  | failed (message : String)
deriving Repr, DecidableEq

def DetectorError.kind : DetectorError → String
  | .inputTooLarge .. => "input_too_large"
  | .invalidSchema _ => "invalid_schema"
  | .failed _ => "internal"

def DetectorError.message : DetectorError → String
  | .inputTooLarge length limit => s!"Input of {length} bytes exceeds limit of {limit} bytes"
  | .invalidSchema message => s!"Invalid schema: {message}"
  | .failed message => s!"Detector failed: {message}"

/-- How a detector ends without a report. -/
inductive Failure where
  | refused (error : DetectorError)
  /-- It broke down, perhaps leaving a message. -/
  | brokeDown (message : Option String)
deriving Repr, DecidableEq

def Failure.message : Failure → String
  | .refused error => error.message
  | .brokeDown message => message.getD "panic"

/-- The record of a detector that failed. -/
structure DetectorFault where
  detector : String
  message : String
deriving Repr, DecidableEq

def DetectorFault.factor (f : DetectorFault) : String := s!"detector_fault:{f.detector}"

def DetectorFault.toJson (f : DetectorFault) : Json :=
  .obj [("detector", .str f.detector), ("factor", .str f.factor), ("message", .str f.message)]

namespace Detect

def guarded {α : Type} (detector : String) (empty : α) : Except Failure α → α × Option DetectorFault
  | .ok report => (report, none)
  | .error failure => (empty, some ⟨detector, failure.message⟩)

def checkSize (limit : Nat) (text : List Char) : Except DetectorError Unit :=
  let length := Text.byteLength text
  if limit < length then .error (.inputTooLarge length limit) else .ok ()

end Detect

def Rules.Compiled.finding (r : Rules.Compiled) (span : Span) : Finding :=
  .make r.category span r.confidence r.severity r.id

/-- The findings of a rule in a text, from left to right. -/
def Rules.Compiled.findings (r : Rules.Compiled) (text : List Char) : List Finding :=
  (r.find text).map r.finding

end Guardrail
