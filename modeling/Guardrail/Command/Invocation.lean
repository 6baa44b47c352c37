import Guardrail.Command.Switch
import Guardrail.Duration
import Guardrail.Decode.Plain

/-!
What the command line can ask for.

The switches for JSON output and for a file of rules may stand before and after the name of the action; of two
files of rules the later one counts.
-/

namespace Guardrail.Command

/-- Who is asked for second opinions. -/
inductive Advisor where
  /-- Nobody; what the rules say stands. -/
  | nobody
  | anthropic
  | openAi
  /-- A server that needs no key. -/
  | keyless
deriving Repr, DecidableEq

namespace Advisor

def all : List Advisor := [.nobody, .anthropic, .openAi, .keyless]

def text : Advisor → String
  | .nobody => "none"
  | .anthropic => "anthropic"
  | .openAi => "openai"
  | .keyless => "local"

def ofText? (s : String) : Option Advisor := all.find? (·.text == s)

end Advisor

/-- The configurations that have defaults. -/
inductive Defaults where
  | rules
  | runtime
deriving Repr, DecidableEq

/-- The switches of every action. -/
structure Common where
  json : Bool
  rules : Option String

def Common.none : Common := ⟨false, Option.none⟩

/-- The switches before and after the name of an action. -/
def Common.within (outer inner : Common) : Common := ⟨outer.json || inner.json, inner.rules <|> outer.rules⟩

/-- How a request is to be evaluated. -/
structure Evaluate where
  text : Option String
  file : Option String
  outputText : Option String
  state : Option String
  user : Option String
  role : Option String
  trust : Float
  strict : Bool
  advisor : Advisor
  baseUrl : Option String
  model : Option String
  config : Option String
  deadline : Option Duration
  auditLog : Option String

def Evaluate.standard : Evaluate :=
  ⟨none, none, none, none, none, none, 0.5, false, .nobody, none, none, none, none, none⟩

/-- What is to be done. -/
inductive Action where
  | evaluate (e : Evaluate)
  | validateRules (path : String)
  | printDefaults (which : Defaults)

/-- A call of the program. -/
structure Invocation where
  common : Common
  action : Action

/-- The path in an argument, which is never empty. -/
def path? (s : String) : Option String := if s == "" then none else some s

/-- The number in an argument: decimal, or a word for infinity or for what is not a number. -/
def number? (s : String) : Option Float :=
  let (negative, cs) := match s.toList with
    | '-' :: rest => (true, rest)
    | '+' :: rest => (false, rest)
    | cs => (false, cs)
  let word := String.ofList (cs.map Char.toLower)
  let x :=
    if word == "inf" || word == "infinity" then some (1.0 / 0.0)
    else if word == "nan" then some (0.0 / 0.0)
    else Decode.Plain.magnitude? cs
  x.map fun x => if negative then -x else x

section Switches

variable {σ : Type}

def valued {α : Type} (name : String) (read : String → Option α) (set : α → σ → σ) : Switch σ :=
  ⟨name, none, .take fun s v => (read s).map fun a => set a v⟩

def texted (name : String) (set : String → σ → σ) : Switch σ := valued name some set

/-- The switches of every action, and the one that asks for help. -/
def commonSwitches (on : (Common → Common) → σ → σ) : List (Switch σ) :=
  [⟨"json", none, .mark (on fun c => { c with json := true })⟩,
    valued "rules" path? fun p => on fun c => { c with rules := some p },
    ⟨"help", some 'h', .stop .help⟩]

def outerLevel : Level Common := ⟨commonSwitches id ++ [⟨"version", some 'V', .stop .version⟩], none⟩

/-- Applies a function to what belongs to the action itself. -/
def onAction {α : Type} (f : α → α) (v : Common × α) : Common × α := (v.1, f v.2)

def evaluateLevel : Level (Common × Evaluate) :=
  { switches := commonSwitches (fun f v => (f v.1, v.2)) ++
      [ { valued "file" path? (fun p => onAction fun e => { e with file := some p }) with letter := some 'f' },
        texted "output-text" fun t => onAction fun e => { e with outputText := some t },
        valued "state" path? fun p => onAction fun e => { e with state := some p },
        texted "user" fun t => onAction fun e => { e with user := some t },
        texted "role" fun t => onAction fun e => { e with role := some t },
        valued "trust" number? fun x => onAction fun e => { e with trust := x },
        ⟨"strict", none, .mark (onAction fun e => { e with strict := true })⟩,
        valued "provider" Advisor.ofText? fun a => onAction fun e => { e with advisor := a },
        texted "base-url" fun t => onAction fun e => { e with baseUrl := some t },
        texted "model" fun t => onAction fun e => { e with model := some t },
        valued "config" path? fun p => onAction fun e => { e with config := some p },
        valued "deadline" Duration.ofSpelled? fun d => onAction fun e => { e with deadline := some d },
        valued "audit-log" path? fun p => onAction fun e => { e with auditLog := some p } ]
    operand := some fun t v => if v.2.text.isNone then some (onAction (fun e => { e with text := some t }) v) else none }

/-- The arguments of an action that has at most one operand and no switches of its own. -/
def operandLevel {α : Type} (read : String → Option α) : Level (Common × Option α) :=
  { switches := commonSwitches fun f v => (f v.1, v.2)
    operand := some fun t v => if v.2.isNone then (read t).map fun a => (v.1, some a) else none }

end Switches

namespace Invocation

def paths (i : Invocation) : List String :=
  match i.action with
  | .evaluate e => [i.common.rules, e.config, e.file, e.state].filterMap id
  | .validateRules path => [path]
  | .printDefaults _ => []

/-- The names of the actions, and of the one that shows help. -/
def names : List String := ["evaluate", "validate-rules", "print-defaults", "help"]

def ofArguments (args : List String) : Except Stop Invocation := do
  let (outer, rest) ← outerLevel.read (.start .none) args
  match rest with
  | "evaluate" :: rest => do
    let ((inner, e), _) ← evaluateLevel.read (.start (.none, .standard)) rest
    if e.text.isSome && e.file.isSome then throw .misuse
    pure ⟨outer.within inner, .evaluate e⟩
  | "validate-rules" :: rest => do
    let ((inner, path), _) ← (operandLevel path?).read (.start (.none, none)) rest
    match path with
    | some path => pure ⟨outer.within inner, .validateRules path⟩
    | none => throw .misuse
  | "print-defaults" :: rest => do
    let kind (s : String) : Option Defaults :=
      if s == "rules" then some .rules else if s == "runtime" then some .runtime else none
    let ((inner, which), _) ← (operandLevel kind).read (.start (.none, none)) rest
    pure ⟨outer.within inner, .printDefaults (which.getD .rules)⟩
  | ["help"] => throw .help
  | ["help", name] => throw (if names.contains name then .help else .misuse)
  | _ => throw .misuse

end Invocation

end Guardrail.Command
