import Guardrail.Provider.Basic
import Guardrail.Text.Bytes

/-!
What second opinions cost.

A tally is kept per request and over the lifetime of a pipeline. Its integer fields add up exactly, in any
order.
-/

namespace Guardrail.Provider

open Decode

/-- Prices in dollars for a million tokens. -/
structure Prices where
  input : Float
  output : Float
  /-- For tokens that the provider had kept. -/
  kept : Float
deriving Repr

namespace Prices

/-- The prices of models, by a part of their names; the first that fits counts. -/
def table : List (String × Prices) :=
  [("haiku", ⟨1.0, 5.0, 0.1⟩), ("opus", ⟨5.0, 25.0, 0.5⟩), ("sonnet", ⟨3.0, 15.0, 0.3⟩),
    ("gpt-4o-mini", ⟨0.15, 0.6, 0.075⟩), ("gpt-4o", ⟨2.5, 10.0, 1.25⟩)]

/-- The prices of a model; one that is not listed costs nothing. -/
def ofModel (model : String) : Prices :=
  match table.find? fun p => Text.contains model.toList p.1.toList with
  | some p => p.2
  | none => ⟨0.0, 0.0, 0.0⟩

end Prices

def Tokens.cost (t : Tokens) (model : String) : Float :=
  let prices := Prices.ofModel model
  let part (n : Nat) (price : Float) : Float := n.toFloat / 1000000.0 * price
  part (t.prompt - t.kept) prices.input + part t.completion prices.output + part t.kept prices.kept

structure Usage where
  total : Nat
  prompt : Nat
  completion : Nat
  /-- How many requests a provider answered. -/
  calls : Nat
  cost : Float
  /-- How many opinions were remembered ones. -/
  cacheHits : Nat
  kept : Nat
deriving Repr, DecidableEq

namespace Usage

def zero : Usage := ⟨0, 0, 0, 0, 0.0, 0, 0⟩

def add (u : Usage) (t : Tokens) (model : String) : Usage :=
  { u with
    prompt := u.prompt + t.prompt
    completion := u.completion + t.completion
    total := u.total + t.total
    kept := u.kept + t.kept
    calls := u.calls + 1
    cost := u.cost + t.cost model }

def hit (u : Usage) : Usage := { u with cacheHits := u.cacheHits + 1 }

def merge (u v : Usage) : Usage :=
  ⟨u.total + v.total, u.prompt + v.prompt, u.completion + v.completion, u.calls + v.calls, u.cost + v.cost,
    u.cacheHits + v.cacheHits, u.kept + v.kept⟩

def isEmpty (u : Usage) : Bool := u.calls == 0 && u.cacheHits == 0

/-- Adds a tally to a running total, which one of nothing leaves as it is. -/
def meter (total u : Usage) : Usage := if u.isEmpty then total else total.merge u

def decoder : Decoder Usage :=
  Decode.record "struct LlmUsage" <|
    Usage.mk <$> .required "total_tokens" word32 <*> .required "prompt_tokens" word32
      <*> .required "completion_tokens" word32 <*> .required "llm_calls" word32
      <*> .required "estimated_cost" number <*> .required "cache_hits" word32
      <*> .required "cache_read_tokens" word32

def toJson (u : Usage) : Json :=
  .obj [("total_tokens", .ofNat u.total), ("prompt_tokens", .ofNat u.prompt),
    ("completion_tokens", .ofNat u.completion), ("llm_calls", .ofNat u.calls),
    ("estimated_cost", .ofFloat u.cost), ("cache_hits", .ofNat u.cacheHits),
    ("cache_read_tokens", .ofNat u.kept)]

end Usage

end Guardrail.Provider
