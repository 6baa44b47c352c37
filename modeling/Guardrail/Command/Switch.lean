/-!
Reading the arguments of a command.

Arguments are switches and operands. A switch begins with two dashes and a name, or with one dash and a letter;
several letters may share a dash. A switch that takes a value finds it behind an equals sign, behind its letter
or in the next argument, which then must not begin with a dash, a single dash apart. Each switch is given once
at most. Behind a lone pair of dashes all arguments are operands.
-/

namespace Guardrail.Command

/-- Why there is nothing to run. -/
inductive Stop where
  /-- Help is asked for. -/
  | help
  /-- The version is asked for. -/
  | version
  /-- The arguments are not those of a command. -/
  | misuse
deriving Repr, DecidableEq

/-- What a switch does to what has been read so far. -/
inductive Effect (σ : Type) where
  | mark (f : σ → σ)
  /-- It takes a value, which may be refused. -/
  | take (f : String → σ → Option σ)
  | stop (reason : Stop)

structure Switch (σ : Type) where
  name : String
  letter : Option Char
  effect : Effect σ

/-- What is read at one place of the command line. -/
structure Level (σ : Type) where
  switches : List (Switch σ)
  /-- What becomes of an operand. Where there is no such function, the first one ends the level. -/
  operand : Option (String → σ → Option σ)

/-- What has been read, and the switches that were given. -/
structure Progress (σ : Type) where
  value : σ
  given : List String

/-- An argument by its form. -/
inductive Form where
  | separator
  | name (text : String) (value : Option String)
  | letters (cs : List Char)
  | operand (text : String)
deriving Repr, DecidableEq

def Form.of (arg : String) : Form :=
  match arg.toList with
  | ['-', '-'] => .separator
  | '-' :: '-' :: cs =>
    .name (String.ofList (cs.takeWhile (· != '='))) <|
      match cs.dropWhile (· != '=') with
      | [] => none
      | _ :: value => some (String.ofList value)
  | '-' :: c :: cs => .letters (c :: cs)
  | _ => .operand arg

/-- What a switch leaves to be done: nothing, or to take the next argument as its value. -/
inductive Step (σ : Type) where
  | done (p : Progress σ)
  | awaits (f : String → σ → Option σ) (p : Progress σ)

namespace Progress

variable {σ : Type}

def start (value : σ) : Progress σ := ⟨value, []⟩

/-- Notes that a switch was given, which must not have been before. -/
def give (p : Progress σ) (s : Switch σ) : Except Stop (Progress σ) :=
  if p.given.contains s.name then .error .misuse else .ok { p with given := s.name :: p.given }

def take (p : Progress σ) (f : String → σ → Option σ) (value : String) : Except Stop (Progress σ) :=
  match f value p.value with
  | some v => .ok { p with value := v }
  | none => .error .misuse

end Progress

namespace Level

variable {σ : Type}

/-- A switch that is given by its name, perhaps with a value. -/
def named (l : Level σ) (p : Progress σ) (name : String) (value : Option String) : Except Stop (Step σ) :=
  match l.switches.find? (·.name == name) with
  | none => .error .misuse
  | some s =>
    match s.effect, value with
    | .stop reason, none => .error reason
    | .mark f, none => do
      let p ← p.give s
      pure (.done { p with value := f p.value })
    | .take f, none => do pure (.awaits f (← p.give s))
    | .take f, some v => do pure (.done (← (← p.give s).take f v))
    | _, some _ => .error .misuse

/-- Switches that are given by their letters. What follows the letter of a switch that takes a value is that
value. -/
def lettered (l : Level σ) (p : Progress σ) : List Char → Except Stop (Step σ)
  | [] => .ok (.done p)
  | c :: cs =>
    match l.switches.find? (·.letter == some c) with
    | none => .error .misuse
    | some s =>
      match s.effect with
      | .stop reason => .error reason
      | .mark f => do
        let p ← p.give s
        l.lettered { p with value := f p.value } cs
      | .take f => do
        let p ← p.give s
        match cs with
        | [] => pure (.awaits f p)
        | '=' :: value => pure (.done (← p.take f (String.ofList value)))
        | value => pure (.done (← p.take f (String.ofList value)))

def operate (l : Level σ) (p : Progress σ) (text : String) : Except Stop (Progress σ) :=
  match l.operand with
  | some f => p.take f text
  | none => .error .misuse

mutual
/-- Reads arguments; with what was read come the arguments from the operand on that ended the level. -/
def read (l : Level σ) (p : Progress σ) : List String → Except Stop (σ × List String)
  | [] => .ok (p.value, [])
  | arg :: rest => do
    match Form.of arg with
    | .separator => return ((← rest.foldlM l.operate p).value, [])
    | .operand text =>
      if l.operand.isNone then return (p.value, arg :: rest)
      l.read (← l.operate p text) rest
    | .name text value =>
      match ← l.named p text value with
      | .done p => l.read p rest
      | .awaits f p => l.readValue f p rest
    | .letters cs =>
      match ← l.lettered p cs with
      | .done p => l.read p rest
      | .awaits f p => l.readValue f p rest
/-- Reads the value of a switch and the arguments after it. -/
def readValue (l : Level σ) (f : String → σ → Option σ) (p : Progress σ) :
    List String → Except Stop (σ × List String)
  | [] => .error .misuse
  | arg :: rest => do
    match Form.of arg with
    | .operand text => l.read (← p.take f text) rest
    | _ => .error .misuse
end

end Level

end Guardrail.Command
