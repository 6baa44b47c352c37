import Guardrail.Config.Scoring
import Guardrail.Json.Printer
import Guardrail.Json.Reader
import Guardrail.Yaml.Node
import Guardrail.Yaml.Printer

/-!
Configurations as texts.

A text is decoded first and judged afterwards. What follows the value in a text is looked at after the value itself.
-/

namespace Guardrail

/-- A form of texts: how values are written, and what is read of a text. -/
structure Format where
  /-- Where its documents come from. -/
  origin : Decode.Origin
  write : Json → String
  /-- The document that a text begins with, and whether it is the whole text. -/
  read : String → Json.Document × Bool
  /-- What is said of a text that cannot be decoded. -/
  refusal : String → Decode.Fault → ConfigError

namespace Format

variable {α : Type}

def decode (form : Format) (decoder : Decode.Decoder α) (text : String) : Except Decode.Fault α := do
  let (d, whole) := form.read text
  let a ← decoder form.origin d
  if whole then pure a else throw .malformed

def parse (form : Format) (decoder : Decode.Decoder α) (text : String) : Except ConfigError α :=
  (form.decode decoder text).mapError (form.refusal text)

def json : Format where
  origin := .text
  write := Json.compact
  read text := Json.Document.read text.toList
  refusal _ fault := .badJson fault

def prettyJson : Format := { json with write := Json.pretty }

def yaml : Format where
  origin := .yaml
  write := Yaml.write
  read text :=
    match Yaml.document? text with
    | some d => (d, true)
    | none => (.broken, false)
  refusal _ fault := .badYaml fault.message

end Format

def ofYaml {α : Type} : Decode.Decoder α → String → Except ConfigError α := Format.yaml.parse

def ofJsonText {α : Type} : Decode.Decoder α → String → Except Decode.Fault α := Format.json.decode

def ScoringConfig.ofYaml (text : String) : Except ConfigError ScoringConfig := do
  let c ← Guardrail.ofYaml ScoringConfig.decoder text
  c.validate
  pure c

end Guardrail
