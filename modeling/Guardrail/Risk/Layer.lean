import Guardrail.Decode.Basic

/-!
The layers at which risk is assessed.

Three layers score by rules, one for each stage of a request. Each has a shadow layer, under which a
language model's second opinion on the same stage is reported.
-/

namespace Guardrail

/-- A stage of a request. -/
inductive Stage where
  | input
  | state
  | output
deriving Repr, DecidableEq, Inhabited

namespace Stage

def all : List Stage := [.input, .state, .output]

def text : Stage → String
  | .input => "input"
  | .state => "state"
  | .output => "output"

def rank : Stage → Nat
  | .input => 0
  | .state => 1
  | .output => 2

instance : Ord Stage := ⟨fun a b => compare a.rank b.rank⟩

def decoder : Decode.Decoder Stage := Decode.choice (all.map fun s => (s.text, s))

end Stage

/-- A layer: a stage, scored by rules or by its shadow. -/
structure Layer where
  stage : Stage
  isShadow : Bool
deriving Repr, DecidableEq, Inhabited

namespace Layer

def inputGuard : Layer := ⟨.input, false⟩
def stateMonitor : Layer := ⟨.state, false⟩
def outputGuard : Layer := ⟨.output, false⟩

def all : List Layer := Stage.all.map (⟨·, false⟩) ++ Stage.all.map (⟨·, true⟩)

def text : Layer → String
  | ⟨.input, false⟩ => "input_guard"
  | ⟨.state, false⟩ => "state_monitor"
  | ⟨.output, false⟩ => "output_guard"
  | ⟨.input, true⟩ => "shadow_input"
  | ⟨.state, true⟩ => "shadow_state"
  | ⟨.output, true⟩ => "shadow_output"

def rank (l : Layer) : Nat := l.stage.rank + if l.isShadow then 3 else 0

instance : Ord Layer := ⟨fun a b => compare a.rank b.rank⟩

def base (l : Layer) : Layer := ⟨l.stage, false⟩
def shadow (l : Layer) : Layer := ⟨l.stage, true⟩

def ofText (s : String) : Except Decode.Fault Layer := Decode.variant (all.map fun l => (l.text, l)) s

def decoder : Decode.Decoder Layer := Decode.choice (all.map fun l => (l.text, l))

end Layer

namespace Stage

def ruleLayer (s : Stage) : Layer := ⟨s, false⟩
def shadowLayer (s : Stage) : Layer := ⟨s, true⟩

end Stage

end Guardrail
