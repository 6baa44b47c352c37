import Guardrail.Provider.Basic
import Guardrail.Text.Trim

/-!
Keys for providers.

A key shows its name and where it comes from; its value is shown nowhere but in the request that it is for.
-/

namespace Guardrail.Provider

/-- Where a key comes from. -/
inductive KeySource where
  | config
  | environment
  | programmatic
deriving Repr, DecidableEq

def KeySource.text : KeySource → String
  | .config => "config"
  | .environment => "environment"
  | .programmatic => "programmatic"

def KeySource.label : KeySource → String
  | .config => "Config"
  | .environment => "Environment"
  | .programmatic => "Programmatic"

/-- A key for a provider. -/
structure Credential where
  value : String
  source : KeySource
  name : String

namespace Credential

/-- Whether a text has nothing but white space. -/
def isBlank (s : String) : Bool := (Text.trim s.toList).isEmpty

/-- The key in an environment variable, whose value is given if it is set. -/
def ofEnvironment (entry name : String) (value : Option String) : Except Error Credential :=
  match value with
  | some v =>
    if isBlank v then throw missing else pure ⟨v, .environment, name⟩
  | none => throw missing
where
  /-- There is no key. -/
  missing : Error := .notConfigured s!"{name} not set: configure '{entry}' environment variable"

/-- The configured key, or the one in the environment if there is none. -/
def ofConfig (configured : Option String) (entry name : String) (value : Option String) :
    Except Error Credential :=
  match configured with
  | some v => if isBlank v then ofEnvironment entry name value else pure ⟨v, .config, name⟩
  | none => ofEnvironment entry name value

def isEmpty (c : Credential) : Bool := c.value == ""

def text (c : Credential) : String := s!"{c.name} (from {c.source.text}): [REDACTED]"

def fields (c : Credential) : String :=
  s!"ApiCredential \x7b name: {Text.quoted c.name}, source: {c.source.label}, value: \"[REDACTED]\" \x7d"

end Credential

end Guardrail.Provider
