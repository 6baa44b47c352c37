import Guardrail.Engine
import Guardrail.Shadow.Result
import Guardrail.Shadow.Breaker
import Guardrail.Provider.Usage
import Guardrail.Config.Source
import Guardrail.Json.Printer

/-!
Audit records: what was decided about a request, and on what grounds.

A record holds scores and what was found where, and no text of the request. In a log every record is one
line of JSON; `Record.ofLines` reads a log back.
-/

namespace Guardrail.Audit

open Decode

inductive Ruling where
  | allow
  | block
deriving Repr, DecidableEq

def Ruling.text : Ruling → String
  | .allow => "allow"
  | .block => "block"

def Ruling.decoder : Decoder Ruling := choice [("allow", .allow), ("block", .block)]

/-- What is kept of a request. Scores, overall risks and breakers are of the types given. -/
structure Record (σ : Type := RiskScore) (α : Type := Aggregate) (β : Type := Shadow.BreakerView) where
  requestId : String
  ruleVersion : String
  ruling : Ruling
  reason : Option String
  hardBlock : Option HardBlock
  scores : List σ
  aggregated : Option α
  escalated : Bool
  results : List Shadow.Result
  usage : Provider.Usage
  breakers : List β
  context : RequestContext
  /-- How long the request took, in milliseconds. -/
  latency : Nat
deriving Repr

namespace Record

section

variable {σ α β σ' α' β' : Type}

/-- The same record with scores, overall risks and breakers of other types. -/
def map (score : σ → σ') (risk : α → α') (breaker : β → β') (r : Record σ α β) : Record σ' α' β' :=
  { r with
    scores := r.scores.map score, aggregated := r.aggregated.map risk, breakers := r.breakers.map breaker }

def fields (score : Decoder σ) (risk : Decoder α) (breaker : Decoder β) : Fields (Record σ α β) :=
  Record.mk <$> .required "request_id" string <*> .required "rule_version" string
    <*> .required "decision" Ruling.decoder <*> .nullable "block_reason" string
    <*> .nullable "hard_block" HardBlock.decoder <*> .required "risk_scores" (list score)
    <*> .nullable "aggregated_risk" risk <*> .required "shadow_escalated" boolean
    <*> .required "shadow_results" (list Shadow.Result.decoder)
    <*> .required "llm_usage" Provider.Usage.decoder
    <*> .required "circuit_breakers" (list breaker)
    <*> .required "context" (RequestContext.decoder none) <*> .required "latency_ms" word64

def members (score : σ → Json) (risk : α → Json) (breaker : β → Json) (r : Record σ α β) : List (String × Json) :=
  [("request_id", .str r.requestId), ("rule_version", .str r.ruleVersion), ("decision", .str r.ruling.text),
    ("block_reason", .ofOption .str r.reason), ("hard_block", .ofOption HardBlock.toJson r.hardBlock),
    ("risk_scores", .arr (r.scores.map score)), ("aggregated_risk", .ofOption risk r.aggregated),
    ("shadow_escalated", .bool r.escalated), ("shadow_results", .arr (r.results.map Shadow.Result.toJson)),
    ("llm_usage", r.usage.toJson), ("circuit_breakers", .arr (r.breakers.map breaker)),
    ("context", r.context.toJson), ("latency_ms", .ofNat r.latency)]

end

def decoder : Decoder Record :=
  record "struct AuditRecord" (fields RiskScore.decoder Aggregate.decoder Shadow.BreakerView.decoder)

def toJson (r : Record) : Json := .obj (r.members RiskScore.toJson Aggregate.toJson Shadow.BreakerView.toJson)

/-- The line of a record, with the line break that ends it. -/
def line (r : Record) : List Char := r.toJson.chars ++ ['\n']

/-- The lines of a text, each of which a line break ends. What follows the last one is a line if it is not
empty. -/
def splitLines (line : List Char) : List Char → List (List Char)
  | [] => if line.isEmpty then [] else [line.reverse]
  | c :: cs => if c = '\n' then line.reverse :: splitLines [] cs else splitLines (c :: line) cs

def ofLines (log : String) : Except Fault (List Record) :=
  (splitLines [] log.toList).mapM fun line => ofJsonText decoder (String.ofList line)

end Record

inductive Sink where
  /-- They are kept, the earliest first. -/
  | memory (records : List Record)
  /-- They are written to a log. -/
  | lines (log : String)
  /-- They are reported and not kept. -/
  | trace
  /-- They cannot be kept. -/
  | broken
  /-- They go to somebody else, whose answer to a record depends on all that were handed over up to it. -/
  | other (answers : List Record → Except String Unit) (handed : List Record)

namespace Sink

/-- Hands a record over: whether it could be kept, and the sink afterwards. -/
def hand (r : Record) : Sink → Except String Unit × Sink
  | .memory records => (.ok (), .memory (records ++ [r]))
  | .lines log => (.ok (), .lines (log ++ String.ofList r.line))
  | .trace => (.ok (), .trace)
  | .broken => (.error "Failed to write audit record", .broken)
  | .other answers handed => (answers (handed ++ [r]), .other answers (handed ++ [r]))

/-- Takes a record. That it cannot be kept is no error of the request. -/
def add (r : Record) (sink : Sink) : Sink := (sink.hand r).2

def records : Sink → List Record
  | .memory records => records
  | _ => []

def log : Sink → String
  | .lines log => log
  | _ => ""

def clear : Sink → Sink
  | .memory _ => .memory []
  | s => s

end Sink

end Guardrail.Audit
