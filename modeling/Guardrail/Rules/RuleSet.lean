import Guardrail.Rules.Builtin
import Guardrail.Pattern.Dialect
import Guardrail.Config.Source
import Guardrail.Text.Trim

/-!
Rule sets: reading them, judging them and making them ready to run.

Families that a document leaves out are the built-in ones. `RuleSet.validate` refuses a set whose version
is blank, whose parameters are refused, in which an id occurs twice or whose patterns cannot be read; of
several faults it reports the first in that order, rule by rule.
-/

namespace Guardrail.Rules

open Decode

def Library.decoder : Decoder Library :=
  record "struct PatternLibrary" <|
    Library.mk <$> .withDefault "pii" (list Definition.decoder) Library.builtin.pii
      <*> .withDefault "injection" (list Definition.decoder) Library.builtin.injection
      <*> .withDefault "leak" (list Definition.decoder) Library.builtin.leak

def RuleSet.decoder : Decoder RuleSet :=
  record "struct RuleSet" <|
    RuleSet.mk <$> .required "version" string <*> .withDefault "patterns" Library.decoder .builtin
      <*> .withDefault "scoring" ScoringConfig.decoder .standard

/-- A rule ready to run: where in a text it applies and what that is worth. -/
structure Compiled where
  id : String
  category : Category
  confidence : Float
  severity : Float
  /-- The spans of a text that the rule applies to, from left to right. -/
  find : List Char → List Span

/-- The three families made ready. -/
structure CompiledLibrary where
  pii : List Compiled
  injection : List Compiled
  leak : List Compiled

section

variable [Pattern.Dialect]

/-- Makes a rule ready, if its worth is in range and its pattern can be read. -/
def Definition.compile (d : Definition) : Except ConfigError Compiled := do
  checkUnit s!"{d.id}.confidence" d.confidence
  checkUnit s!"{d.id}.severity" d.severity
  match Pattern.Dialect.search d.pattern with
  | .error reason => throw (.invalidPattern d.id reason)
  | .ok find => pure ⟨d.id, d.category, d.confidence, d.severity, find⟩

def compileAll (ds : List Definition) : Except ConfigError (List Compiled) := ds.mapM Definition.compile

/-- Judges rules one by one, given the ids before them. -/
def validateFrom (seen : List String) : List Definition → Except ConfigError Unit
  | [] => .ok ()
  | d :: rest => do
    if seen.contains d.id then throw (.duplicatePattern d.id)
    let _ ← d.compile
    validateFrom (d.id :: seen) rest

def RuleSet.validate (r : RuleSet) : Except ConfigError Unit := do
  checkValue "version" (!(Text.trim r.version.toList).isEmpty) "must not be empty"
  r.scoring.validate
  validateFrom [] r.patterns.all

def RuleSet.ofText (form : Format) (text : String) : Except ConfigError RuleSet := do
  let rules ← form.parse RuleSet.decoder text
  rules.validate
  pure rules

/-- The rule set of a file; the ending of its name says in which form it is. -/
def RuleSet.ofFile (name text : String) : Except ConfigError RuleSet :=
  ofText (if extension? name == some "json" then .json else .yaml) text
where
  /-- What follows the last point in the last part of a path, if something stands in front of the point. -/
  extension? (path : String) : Option String :=
    let file := (path.toList.reverse.dropWhile (· == '/')).takeWhile (· != '/')
    let ending := file.takeWhile (· != '.')
    let stem := file.drop (ending.length + 1)
    if ending.length < file.length && !stem.isEmpty then some (String.ofList ending.reverse) else none

def Library.compile (l : Library) : Except ConfigError CompiledLibrary := do
  let pii ← compileAll l.pii
  let injection ← compileAll l.injection
  let leak ← compileAll l.leak
  pure ⟨pii, injection, leak⟩

end

def RuleSet.toText (form : Format) (r : RuleSet) : String := form.write r.toJson

end Guardrail.Rules
