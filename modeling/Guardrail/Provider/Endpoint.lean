import Guardrail.Provider.Credential
import Guardrail.Config.Source

/-!
Providers that are reached over HTTP.

An endpoint turns a conversation into a request and the response into an answer. Two interfaces are spoken:
one keeps the system messages apart from the conversation, the other does not and also serves models that
need no key.
-/

namespace Guardrail.Provider

open Decode

/-- A request over HTTP, whose body is JSON. -/
structure HttpRequest where
  method : String
  url : String
  headers : List (String × String)
  body : Json

/-- A response over HTTP. The names of headers are in lower case. -/
structure HttpResponse where
  status : Nat
  headers : List (String × String)
  body : String

/-- What comes of a request over HTTP. -/
inductive Exchange where
  | response (r : HttpResponse)
  /-- There was no response in time. -/
  | timedOut
  /-- There was no response. -/
  | failed (message : String)

inductive Interface where
  /-- The system messages are kept apart. -/
  | messages
  /-- All messages are in one list. -/
  | chat
deriving Repr, DecidableEq

/-- How a provider is reached. -/
structure Endpoint where
  interface : Interface
  credential : Option Credential
  baseUrl : String
  timeout : Duration

namespace Endpoint

def standardTimeout : Duration := .ofSeconds 30

def trimSlashes (url : String) : String := String.ofList (url.toList.reverse.dropWhile (· == '/')).reverse

def withUrl (e : Endpoint) (url : String) : Endpoint := { e with baseUrl := trimSlashes url }

def anthropicVariable : String := "ANTHROPIC_API_KEY"
def openAiVariable : String := "OPENAI_API_KEY"
def anthropicKey : String := "Anthropic API key"
def openAiKey : String := "OpenAI API key"

def anthropic (c : Credential) : Endpoint := ⟨.messages, some c, "https://api.anthropic.com/v1", standardTimeout⟩
def openAi (c : Credential) : Endpoint := ⟨.chat, some c, "https://api.openai.com/v1", standardTimeout⟩
def keyless (url : String) : Endpoint := ⟨.chat, none, trimSlashes url, standardTimeout⟩

def name (e : Endpoint) : String :=
  match e.interface, e.credential with
  | .messages, _ => "anthropic"
  | .chat, some _ => "openai"
  | .chat, none => "openai-compatible"

def usable (e : Endpoint) : Bool :=
  match e.credential with
  | some c => !c.isEmpty
  | none => true

def isHeaderChar (c : Char) : Bool := c == '\t' || (32 ≤ c.toNat && c.toNat != 127)

def keyHeaders (e : Endpoint) : List (String × String) :=
  match e.interface, e.credential with
  | .messages, c => [("x-api-key", (c.map (·.value)).getD ""), ("anthropic-version", "2023-06-01")]
  | .chat, some c => [("authorization", s!"Bearer {c.value}")]
  | .chat, none => []

def systemBlock (text : String) (keep : Bool) : Json :=
  .obj ([("type", .str "text"), ("text", .str text)]
    ++ if keep then [("cache_control", .obj [("type", .str "ephemeral")])] else [])

def body (e : Endpoint) (messages : List Message) (s : Settings) : Json :=
  match e.interface with
  | .messages =>
    let (system, rest) := splitSystem messages
    let role (m : Message) := if m.role = .assistant then "assistant" else "user"
    .obj ([("model", .str s.model), ("max_tokens", .ofNat s.maxTokens)]
      ++ (system.map fun text => ("system", Json.arr [systemBlock text s.promptCaching])).toList
      ++ [("messages", .arr (rest.map fun m => .obj [("role", .str (role m)), ("content", .str m.content)])),
        ("temperature", s.temperatureJson)])
  | .chat =>
    .obj [("model", .str s.model), ("messages", .arr (messages.map Message.toJson)),
      ("max_tokens", .ofNat s.maxTokens), ("temperature", s.temperatureJson)]

/-- The request for an answer, if the key can be sent. -/
def request (e : Endpoint) (messages : List Message) (s : Settings) : Except Error HttpRequest :=
  let path := match e.interface with
    | .messages => "/messages"
    | .chat => "/chat/completions"
  if e.keyHeaders.all fun h => h.2.toList.all isHeaderChar then
    .ok ⟨"POST", e.baseUrl ++ path, e.keyHeaders ++ [("content-type", "application/json")], e.body messages s⟩
  else .error (.http "builder error")

def seconds? (s : String) : Option Duration := do
  let digits := match s.toList with
    | '+' :: rest => rest
    | cs => cs
  guard (!digits.isEmpty && digits.all Char.isDigit)
  let n := digits.foldl (fun n c => 10 * n + (c.toNat - 48)) 0
  if n < Nat.pow 2 64 then some (.ofSeconds n) else none

def errorMessage (body : String) : String :=
  let detail : Decoder String := record "struct ErrorDetail" (.required "message" string)
  match ofJsonText (record "struct ErrorBody" (.required "error" detail)) body with
  | .ok message => message
  | .error _ => body

/-- Reads the answer of the interface that keeps system messages apart. -/
def messagesDecoder : Decoder Completion :=
  let block : Decoder (Option String) := record "struct ResponseBlock" (.nullableDefault "text" string)
  let tokens (input output created kept : Nat) : Tokens := ⟨input + created + kept, output, kept⟩
  let usage : Decoder Tokens := record "struct Usage" <|
    tokens <$> .required "input_tokens" word32 <*> .required "output_tokens" word32
      <*> .withDefault "cache_creation_input_tokens" word32 0
      <*> .withDefault "cache_read_input_tokens" word32 0
  let build (content : List (Option String)) (model : String) (stop : Option String) (usage : Tokens) :
      Completion := ⟨String.join (content.filterMap id), usage, model, stop⟩
  record "struct MessagesResponse" <|
    build <$> .required "content" (list block) <*> .required "model" string
      <*> .nullable "stop_reason" string <*> .required "usage" usage

/-- Reads the answer of the other interface: a list of choices, the model and the tokens. -/
def chatDecoder : Decoder (List (Option String × Option String) × String × Option Tokens) :=
  let message : Decoder (Option String) := record "struct ResponseMessage" (.nullableDefault "content" string)
  let choice : Decoder (Option String × Option String) := record "struct Choice" <|
    Prod.mk <$> .required "message" message <*> .nullableDefault "finish_reason" string
  let details : Decoder Nat := record "struct PromptDetails" (.withDefault "cached_tokens" word32 0)
  let tokens (prompt completion : Nat) (kept : Option Nat) : Tokens := ⟨prompt, completion, kept.getD 0⟩
  let usage : Decoder Tokens := record "struct Usage" <|
    tokens <$> .required "prompt_tokens" word32 <*> .required "completion_tokens" word32
      <*> .nullableDefault "prompt_tokens_details" details
  record "struct ChatResponse" <|
    (fun choices model usage => (choices, model, usage)) <$> .required "choices" (list choice)
      <*> .withDefault "model" string "" <*> .nullableDefault "usage" usage

def completion (e : Endpoint) (s : Settings) (body : String) : Except Error Completion :=
  let unreadable : Error := .parse "error decoding response body"
  match e.interface with
  | .messages => (ofJsonText messagesDecoder body).mapError fun _ => unreadable
  | .chat =>
    match ofJsonText chatDecoder body with
    | .error _ => .error unreadable
    | .ok ([], _) => .error (.parse "response has no choices")
    | .ok ((content, stop) :: _, model, usage) =>
      .ok ⟨content.getD "", usage.getD .none, if model == "" then s.model else model, stop⟩

def interpret (e : Endpoint) (s : Settings) (r : HttpResponse) : Except Error Completion :=
  if r.status = 429 then .error (.rateLimited ((r.headers.lookup "retry-after").bind seconds?))
  else if r.status = 401 || (r.status = 403 && e.interface = .messages) then .error .auth
  else if 200 ≤ r.status && r.status < 300 then e.completion s r.body
  else .error (.api r.status (errorMessage r.body))

def conclude (e : Endpoint) (s : Settings) : Exchange → Except Error Completion
  | .response r => e.interpret s r
  | .timedOut => .error (.timeout e.timeout)
  | .failed message => .error (.http message)

end Endpoint

end Guardrail.Provider
