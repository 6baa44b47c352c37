import Guardrail.Duration

/-!
Providers of language models: what they are asked, what they answer and how they fail.
-/

namespace Guardrail.Provider

open Decode

/-- Why a provider gave no answer. -/
inductive Error where
  /-- The request did not get through. -/
  | http (message : String)
  | rateLimited (retryAfter : Option Duration)
  | api (status : Nat) (message : String)
  /-- The answer could not be read. -/
  | parse (message : String)
  | auth
  | timeout (after : Duration)
  | notConfigured (message : String)
deriving Repr, DecidableEq

namespace Error

/-- A length of time that may be missing, as messages give it. -/
def optionalText : Option Duration → String
  | some d => s!"Some({d.text})"
  | none => "None"

def kind : Error → String
  | .http _ => "http"
  | .rateLimited _ => "rate_limited"
  | .api .. => "api"
  | .parse _ => "parse"
  | .auth => "auth"
  | .timeout _ => "timeout"
  | .notConfigured _ => "not_configured"

def message : Error → String
  | .http m => s!"HTTP request failed: {m}"
  | .rateLimited after => s!"Rate limit exceeded, retry after {optionalText after}"
  | .api status m => s!"API error: {status} - {m}"
  | .parse m => s!"JSON parse error: {m}"
  | .auth => "Authentication failed"
  | .timeout after => s!"Timeout after {after.text}"
  | .notConfigured m => s!"Provider not configured: {m}"

end Error

/-- Who speaks in a conversation. -/
inductive Role where
  | system
  | user
  | assistant
deriving Repr, DecidableEq

namespace Role

def all : List Role := [.system, .user, .assistant]

def text : Role → String
  | .system => "system"
  | .user => "user"
  | .assistant => "assistant"

def decoder : Decoder Role := choice (all.map fun r => (r.text, r))

end Role

/-- One message of a conversation. -/
structure Message where
  role : Role
  content : String
deriving Repr, DecidableEq

namespace Message

def decoder : Decoder Message :=
  record "struct ChatMessage" <|
    Message.mk <$> .required "role" Role.decoder <*> .required "content" string

def toJson (m : Message) : Json := .obj [("role", .str m.role.text), ("content", .str m.content)]

end Message

/-- How an answer is asked for. -/
structure Settings where
  model : String
  /-- An answer is cut off there. -/
  maxTokens : Nat
  temperature : Float32
  /-- The provider may keep the system messages for later requests. -/
  promptCaching : Bool
deriving Repr

namespace Settings

def standard : Settings := ⟨"claude-haiku-4-5", 600, 0, true⟩

def ofModel (model : String) : Settings := { standard with model }

def decoder : Decoder Settings :=
  record "struct CompletionConfig" <|
    Settings.mk <$> .withDefault "model" string standard.model
      <*> .withDefault "max_tokens" word32 standard.maxTokens
      <*> .withDefault "temperature" single standard.temperature
      <*> .withDefault "prompt_caching" boolean standard.promptCaching

def temperatureJson (s : Settings) : Json := .ofFloat (Decimal.ofSingle s.temperature)

def toJson (s : Settings) : Json :=
  .obj [("model", .str s.model), ("max_tokens", .ofNat s.maxTokens), ("temperature", s.temperatureJson),
    ("prompt_caching", .bool s.promptCaching)]

end Settings

/-- How many tokens a request took. -/
structure Tokens where
  prompt : Nat
  completion : Nat
  /-- Those of the prompt that the provider had kept. -/
  kept : Nat
deriving Repr, DecidableEq

namespace Tokens

def none : Tokens := ⟨0, 0, 0⟩

def total (t : Tokens) : Nat := t.prompt + t.completion

end Tokens

/-- An answer of a model. -/
structure Completion where
  content : String
  tokens : Tokens
  /-- The model that gave the answer. -/
  model : String
  stopReason : Option String
deriving Repr, DecidableEq

/-- The system messages, joined by blank lines, and the rest of a conversation. -/
def splitSystem (messages : List Message) : Option String × List Message :=
  let system := (messages.filter (·.role == .system)).map (·.content)
  (if system.isEmpty then none else some ("\n\n".intercalate system), messages.filter (·.role != .system))

end Guardrail.Provider
