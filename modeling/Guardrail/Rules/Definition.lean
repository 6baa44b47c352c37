import Guardrail.Config.Scoring

/-!
Rules as they are written down.

A definition says what to look for and what a match is worth. A rule set is a version, three families of
definitions and the parameters of scoring.
-/

namespace Guardrail.Rules

/-- A rule: what to look for and what a match is worth. -/
structure Definition where
  /-- Unique in a rule set. -/
  id : String
  category : Category
  /-- The text of a regular expression. -/
  pattern : String
  confidence : Float
  severity : Float
deriving Repr, DecidableEq, Inhabited

/-- The families of rules, by the detector that runs them. -/
structure Library where
  pii : List Definition
  injection : List Definition
  leak : List Definition
deriving Repr, DecidableEq

def Library.all (l : Library) : List Definition := l.pii ++ l.injection ++ l.leak

/-- Rules and parameters under a version. -/
structure RuleSet where
  version : String
  patterns : Library
  scoring : ScoringConfig
deriving Repr

open Decode

def Definition.decoder : Decoder Definition :=
  record "struct PatternDef" <|
    Definition.mk <$> .required "id" string <*> .required "category" Category.decoder
      <*> .required "pattern" string <*> .required "confidence" number
      <*> .withDefault "severity" number 1.0

def Definition.toJson (d : Definition) : Json :=
  .obj [("id", .str d.id), ("category", .str d.category.text), ("pattern", .str d.pattern),
    ("confidence", .ofFloat d.confidence), ("severity", .ofFloat d.severity)]

def Library.toJson (l : Library) : Json :=
  .obj [("pii", .arr (l.pii.map Definition.toJson)), ("injection", .arr (l.injection.map Definition.toJson)),
    ("leak", .arr (l.leak.map Definition.toJson))]

def RuleSet.toJson (r : RuleSet) : Json :=
  .obj [("version", .str r.version), ("patterns", r.patterns.toJson), ("scoring", r.scoring.toJson)]

end Guardrail.Rules
