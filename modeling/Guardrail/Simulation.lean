import Guardrail.Pipeline

/-!
A pipeline on a clock of its own, with a provider that follows a script.

The script has one reply for every call, in the order in which the calls are made; when it has run out, its
last reply repeats. Time passes when a request waits for its agents and when the simulation is told so.
-/

namespace Guardrail

open Decode

def Provider.Error.decoder : Decoder Provider.Error :=
  let build (kind message : String) (retry : Option Nat) (status ms : Nat) : Provider.Error :=
    match kind with
    | "http" => .http message
    | "rate_limited" => .rateLimited (retry.map .ofMillis)
    | "api" => .api status message
    | "parse" => .parse message
    | "auth" => .auth
    | "timeout" => .timeout (.ofMillis ms)
    | _ => .notConfigured message
  record "provider error" <|
    build <$> .withDefault "kind" string "" <*> .withDefault "message" string ""
      <*> .nullableDefault "retry_ms" word64 <*> .withDefault "status" word32 0
      <*> .withDefault "ms" word64 0

/-- A reply of a script. -/
structure ScriptedReply where
  text : String
  /-- How many ticks it takes. -/
  delay : Nat
  /-- The model that answers, where it is not the one that was asked for. -/
  model : Option String
  tokens : Provider.Tokens
  error : Option Provider.Error
deriving Repr

namespace ScriptedReply

def empty : ScriptedReply := ⟨"", 0, none, ⟨400, 60, 0⟩, none⟩

def counts : Decoder Provider.Tokens := fun o d => do
  match ← list word32 o d with
  | [prompt, completion, kept] => pure ⟨prompt, completion, kept⟩
  | ns => throw (.invalidLength ns.length "three counts")

def decoder : Decoder ScriptedReply :=
  record "scripted reply" <|
    ScriptedReply.mk <$> .withDefault "text" string "" <*> .withDefault "delay_ms" word64 0
      <*> .nullableDefault "model" string <*> .withDefault "tokens" counts empty.tokens
      <*> .nullableDefault "error" Provider.Error.decoder

/-- What the provider does with a request for a model. -/
def reply (r : ScriptedReply) (model : String) : Shadow.Reply :=
  { takes := some r.delay
    outcome := match r.error with
      | some e => .error e
      | none => .ok ⟨r.text, r.tokens, r.model.getD model, some "end_turn"⟩ }

end ScriptedReply

def Shadow.Agent.constant (stage : Stage) (score : Float) : Shadow.Agent :=
  { stage, timeout := .ofSeconds 5
    conduct := .decides fun q => .ok
      { result :=
          { Shadow.Result.fallback stage q.score .timeout with
            score, level := q.thresholds.classify score, reasoning := s!"fixed for {q.ruleVersion}"
            fallbackUsed := false, fallbackReason := none }
        tokens := .none } }

/-- A pipeline, the time, and how much of the script has been played. -/
structure Simulation where
  pipeline : Pipeline
  now : Nat
  script : List ScriptedReply
  calls : Nat

namespace Simulation

def start (pipeline : Pipeline) (script : List ScriptedReply) : Simulation := ⟨pipeline, 0, script, 0⟩

def scripted (s : Simulation) (call : Nat) : ScriptedReply :=
  (s.script[Nat.min call (s.script.length - 1)]?).getD .empty

/-- The replies to calls, the first of which has a number. -/
def replies (s : Simulation) : Nat → List Shadow.Part → List (Stage × Shadow.Reply)
  | _, [] => []
  | n, x :: xs =>
    let model := match x.agent.conduct with
      | .asks _ settings => settings.model
      | .decides _ => ""
    (x.inquiry.agent, (s.scripted n).reply model) :: replies s (n + 1) xs

/-- Takes a request through the pipeline; with the decision what the provider was asked. -/
def evaluate (s : Simulation) (r : Request) : Option ((Decision × List Shadow.Inquiry) × Simulation) := do
  let (x, pipeline) ← s.pipeline.begin? s.now r
  let replies := s.replies s.calls x.calls
  let ((d, now), pipeline) := pipeline.finish x fun stage => (replies.lookup stage).getD Shadow.silence
  pure ((d, x.calls.map (·.inquiry)), { s with pipeline, now, calls := s.calls + x.calls.length })

def advance (s : Simulation) (ticks : Nat) : Simulation := { s with now := s.now + ticks }

end Simulation

end Guardrail
