import Guardrail.Shadow.Result
import Guardrail.Provider.Basic
import Guardrail.Config.Source
import Guardrail.Text.Trim

/-!
Verdicts: what a model has to answer.

An answer is one JSON object, possibly in one code fence. Text around it, numbers outside `[0, 1]` and
whatever else does not fit make the answer invalid; nothing is repaired or guessed.
-/

namespace Guardrail.Shadow

open Decode

/-- Why an agent has no opinion. -/
inductive AgentError where
  | provider (error : Provider.Error)
  /-- The model answered something else than a verdict. -/
  | invalid (message : String)
  | timeout (after : Duration)
  | internal (message : String)
deriving Repr, DecidableEq

def AgentError.kind : AgentError → String
  | .provider e => e.kind
  | .invalid _ => "invalid_response"
  | .timeout _ => "timeout"
  | .internal _ => "internal"

def AgentError.message : AgentError → String
  | .provider e => s!"Provider call failed: {e.message}"
  | .invalid m => s!"Invalid verdict: {m}"
  | .timeout after => s!"Timeout after {after.text}"
  | .internal m => s!"Internal error: {m}"

/-- A verdict of a model. -/
structure Verdict where
  score : Float
  confidence : Float
  threats : List Threat
  reasoning : String
deriving Repr

namespace Verdict

def fence : List Char := "```".toList

/-- What follows a prefix, if the text begins with it. -/
def after? (start : List Char) (cs : List Char) : Option (List Char) :=
  if start.isPrefixOf cs then some (cs.drop start.length) else none

/-- What stands in front of an ending, if the text ends with it. -/
def before? (stop : List Char) (cs : List Char) : Option (List Char) :=
  if stop.isSuffixOf cs then some (cs.take (cs.length - stop.length)) else none

/-- The inside of a code fence that goes around the whole text. -/
def fenced? (cs : List Char) : Option (List Char) := do
  let inner ← after? fence cs
  let inner := (after? "json".toList inner).getD inner
  let inner ← before? fence inner
  pure (Text.trim inner)

def body (cs : List Char) : List Char :=
  let cs := Text.trim cs
  (fenced? cs).getD cs

def decoder : Decoder Verdict :=
  record "struct Verdict" <|
    Verdict.mk <$> .required "risk_score" number <*> .required "confidence" number
      <*> .withDefault "threats" (list Threat.decoder) [] <*> .withDefault "reasoning" string ""

def checkUnit (field : String) (value : Float) : Except AgentError Unit :=
  if value.isFinite ∧ 0 ≤ value ∧ value ≤ 1 then .ok ()
  else .error (.invalid s!"{field} out of range: {Scalar.text value}")

def validate (v : Verdict) : Except AgentError Unit := do
  checkUnit "risk_score" v.score
  checkUnit "confidence" v.confidence
  v.threats.forM fun t => checkUnit "threats.severity" t.severity

def ofAnswer (answer : String) : Except AgentError Verdict := do
  let text := body answer.toList
  if text.head? != some '\x7b' then throw (.invalid "verdict is not a JSON object")
  match ofJsonText decoder (String.ofList text) with
  | .error fault => throw (.invalid s!"malformed verdict: {fault.message}")
  | .ok v =>
    v.validate
    pure v

def toJson (v : Verdict) : Json :=
  .obj [("risk_score", .ofFloat v.score), ("confidence", .ofFloat v.confidence),
    ("threats", .arr (v.threats.map Threat.toJson)), ("reasoning", .str v.reasoning)]

end Verdict

end Guardrail.Shadow
