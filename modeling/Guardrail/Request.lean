import Guardrail.Keyed
import Guardrail.Risk.Level
import Guardrail.Risk.Layer
import Guardrail.Text.Trim

/-!
Requests: who asks, and what the stages get to see.
-/

namespace Guardrail

open Decode

/-- Who asks, and what is known about them. -/
structure RequestContext (ν : Type := Float) where
  requestId : String
  userId : Option String
  userRole : Option String
  sessionId : Option String
  /-- From zero, no trust, to one. -/
  trust : ν
  violations : Nat
  escalations : Nat
  strict : Bool
  metadata : Keyed String String
deriving Repr

namespace RequestContext

variable {ν : Type} [Scalar ν]

/-- The trust in someone of whom nothing is known. -/
def standardTrust : ν := Scalar.decimal 5 1

/-- A request of which only the name is known. -/
def anonymous (requestId : String) : RequestContext ν :=
  ⟨requestId, none, none, none, standardTrust, 0, 0, false, []⟩

/-- The same request with another trust, brought into `[0, 1]`. -/
def withTrust (c : RequestContext ν) (trust : ν) : RequestContext ν := { c with trust := Scalar.clampUnit trust }

def withNote (c : RequestContext ν) (key value : String) : RequestContext ν :=
  { c with metadata := c.metadata.set key value }

/-- Reads a context; `requestId` stands in for a missing name if there is one. -/
def decoder (requestId : Option String) : Decoder RequestContext :=
  record "struct RequestContext" <|
    RequestContext.mk <$> .field "request_id" string requestId requestId
      <*> .nullableDefault "user_id" string <*> .nullableDefault "user_role" string
      <*> .nullableDefault "session_id" string <*> .withDefault "trust_score" number standardTrust
      <*> .withDefault "prior_violations" word32 0 <*> .withDefault "prior_escalations" word32 0
      <*> .withDefault "strict_mode" boolean false
      <*> .withDefault "metadata" (fun o d => (members .ok string o d).map Keyed.ofList) []

def toJson (c : RequestContext) : Json :=
  .obj [("request_id", .str c.requestId), ("user_id", .ofOption .str c.userId),
    ("user_role", .ofOption .str c.userRole), ("session_id", .ofOption .str c.sessionId),
    ("trust_score", .ofFloat c.trust), ("prior_violations", .ofNat c.violations),
    ("prior_escalations", .ofNat c.escalations), ("strict_mode", .bool c.strict),
    ("metadata", .obj (c.metadata.map fun (k, v) => (k, .str v)))]

end RequestContext

/-- One step of an agent. -/
structure AgentAction where
  tool : String
  arguments : String
  madeProgress : Bool
deriving Repr, DecidableEq

namespace AgentAction

def signature (a : AgentAction) : String :=
  a.tool ++ "(" ++ String.ofList (Text.trim a.arguments.toList) ++ ")"

def decoder : Decoder AgentAction :=
  record "struct AgentAction" <|
    AgentAction.mk <$> .required "tool" string <*> .withDefault "arguments" string ""
      <*> .withDefault "made_progress" boolean false

def toJson (a : AgentAction) : Json :=
  .obj [("tool", .str a.tool), ("arguments", .str a.arguments), ("made_progress", .bool a.madeProgress)]

end AgentAction

/-- What an agent has done and used up so far. -/
structure Snapshot where
  actions : List AgentAction
  tokensUsed : Nat
  tokenBudget : Option Nat
  costUsd : Float
  costBudgetUsd : Option Float
  iterations : Nat
deriving Repr

namespace Snapshot

def fields : Fields Snapshot :=
  Snapshot.mk <$> .withDefault "actions" (list AgentAction.decoder) []
    <*> .withDefault "tokens_used" word64 0 <*> .nullableDefault "token_budget" word64
    <*> .withDefault "cost_usd" number 0.0 <*> .nullableDefault "cost_budget_usd" number
    <*> .withDefault "iterations" word32 0

def decoder : Decoder Snapshot := record "struct AgentStateSnapshot" fields

def toMembers (s : Snapshot) : List (String × Json) :=
  [("actions", .arr (s.actions.map AgentAction.toJson)), ("tokens_used", .ofNat s.tokensUsed),
    ("token_budget", .ofOption .ofNat s.tokenBudget), ("cost_usd", .ofFloat s.costUsd),
    ("cost_budget_usd", .ofOption .ofFloat s.costBudgetUsd), ("iterations", .ofNat s.iterations)]

end Snapshot

/-- What an agent answered, and what to compare it with. -/
structure OutputPayload where
  text : String
  /-- The input that was answered, possibly redacted. -/
  inputText : Option String
  expectedSchema : Option Json
  systemPrompt : Option String
deriving Repr

namespace OutputPayload

/-- An answer with nothing to compare it with. -/
def plain (text : String) : OutputPayload := ⟨text, none, none, none⟩

def decoder : Decoder OutputPayload :=
  record "struct OutputPayload" <|
    OutputPayload.mk <$> .required "text" string <*> .nullableDefault "input_text" string
      <*> .nullableDefault "expected_schema" (json 127) <*> .nullableDefault "system_prompt" string

def toMembers (p : OutputPayload) : List (String × Json) :=
  [("text", .str p.text), ("input_text", .ofOption .str p.inputText),
    ("expected_schema", .ofOption id p.expectedSchema), ("system_prompt", .ofOption .str p.systemPrompt)]

end OutputPayload

/-- What one stage gets to see. -/
inductive Payload where
  | input (text : String)
  | state (snapshot : Snapshot)
  | output (answer : OutputPayload)
deriving Repr

namespace Payload

def stage : Payload → Stage
  | .input _ => .input
  | .state _ => .state
  | .output _ => .output

def toJson : Payload → Json
  | .input text => .obj [("stage", .str "input"), ("text", .str text)]
  | .state s => .obj (("stage", .str "state") :: s.toMembers)
  | .output p => .obj (("stage", .str "output") :: p.toMembers)

def content (stage : Stage) (o : Origin) (d : Json.Document) : Except Fault Payload :=
  match stage with
  | .input => (record "struct variant StagePayload::Input" (.required "text" string) o d).map .input
  | .state => (Snapshot.decoder o d).map .state
  | .output => (OutputPayload.decoder o d).map .output

def tag (d : Json.Document) : Except Fault Stage :=
  match d with
  | .str s => variant (Stage.all.map fun s => (s.text, s)) s
  | d => .error (mismatch d "variant identifier")

/-- Reads a payload. The stage stands under `stage`, anywhere among the members, or first in an array. -/
def decoder : Decoder Payload
  | _, .obj ms closed =>
    match Fields.duplicate? ["stage"] [] 0 ms with
    | some _ => .error (.duplicateField "stage")
    | none =>
      match ms.lookup "stage" with
      | none => .error (if closed then .missingField "stage" else .malformed)
      | some d => do
        let stage ← tag d
        if !closed then throw .malformed
        content stage .tagged (.obj (ms.filter (·.1 != "stage")) true)
  | _, .arr ds closed =>
    match ds with
    | [] => .error (if closed then .missingField "stage" else .malformed)
    | d :: rest => do
      let stage ← tag d
      if !closed then throw .malformed
      content stage .tagged (.arr rest true)
  | _, d => .error (mismatch d "internally tagged enum StagePayload")

end Payload

/-- The stages of one request. -/
structure StageInputs where
  input : String
  state : Option Snapshot
  output : Option OutputPayload
deriving Repr

namespace StageInputs

def decoder : Decoder StageInputs :=
  record "struct StageInputs" <|
    StageInputs.mk <$> .required "input" string <*> .nullableDefault "state" Snapshot.decoder
      <*> .nullableDefault "output" OutputPayload.decoder

end StageInputs

end Guardrail
