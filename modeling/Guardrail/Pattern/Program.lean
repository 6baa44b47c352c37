import Guardrail.Pattern.Syntax

/-!
Patterns as programs.

A program is an array of instructions, each of which names the ones that may follow. `Regex.emit` writes
the instructions of an expression in front of a given continuation and returns where they start.
-/

namespace Guardrail.Pattern

inductive Instr where
  /-- Consume one character of a set and go on. -/
  | eat (set : CharClass) (next : Nat)
  /-- Go on where a condition holds. -/
  | look (condition : Look) (ascii : Bool) (next : Nat)
  /-- Go on at the first, and failing that at the second. -/
  | fork (first second : Nat)
  /-- A match ends here. -/
  | accept
deriving Repr, Inhabited

/-- A pattern ready to run. -/
structure Program where
  code : Array Instr
  start : Nat
deriving Repr, Inhabited

/-- Repeats a way of writing code in front of a continuation. -/
def emitCopies (emit : Nat → Array Instr → Nat × Array Instr) : Nat → Nat → Array Instr → Nat × Array Instr
  | 0, next, code => (next, code)
  | n + 1, next, code =>
    let (entry, code) := emit next code
    emitCopies emit n entry code

/-- Which of two continuations a repetition tries first. -/
def prefer (greedy : Bool) (onward leave : Nat) : Instr := if greedy then .fork onward leave else .fork leave onward

/-- Code for up to so many further copies, each of which may be left out together with those after it. -/
def emitOptional (emit : Nat → Array Instr → Nat × Array Instr) (greedy : Bool) (leave : Nat) :
    Nat → Array Instr → Nat × Array Instr
  | 0, code => (leave, code)
  | n + 1, code =>
    let (next, code) := emitOptional emit greedy leave n code
    let (entry, code) := emit next code
    (code.size, code.push (prefer greedy entry leave))

/-- Code for one copy and any number more. The fork behind the copy goes back to it. -/
def emitMany (emit : Nat → Array Instr → Nat × Array Instr) (greedy : Bool) (leave : Nat)
    (code : Array Instr) : Nat × Nat × Array Instr :=
  let again := code.size
  let (entry, code) := emit again (code.push .accept)
  (entry, again, code.setIfInBounds again (prefer greedy entry leave))

/-- Writes the code of an expression in front of `next`. -/
def Regex.emit : Regex → Nat → Array Instr → Nat × Array Instr
  | .empty, next, code => (next, code)
  | .one set, next, code => (code.size, code.push (.eat set next))
  | .look condition ascii, next, code => (code.size, code.push (.look condition ascii next))
  | .seq a b, next, code =>
    let (middle, code) := b.emit next code
    a.emit middle code
  | .alt a b, next, code =>
    let (first, code) := a.emit next code
    let (second, code) := b.emit next code
    (code.size, code.push (.fork first second))
  | .loop r least (some most) greedy, next, code =>
    let (entry, code) := emitOptional (fun k c => r.emit k c) greedy next (most - least) code
    emitCopies (fun k c => r.emit k c) least entry code
  | .loop r 0 none greedy, next, code =>
    let (entry, again, code) := emitMany (fun k c => r.emit k c) greedy next code
    -- where a copy may be empty, the choice to enter is kept apart from the choice to go on
    if r.leastLength = 0 then (code.size, code.push (prefer greedy entry next)) else (again, code)
  | .loop r (least + 1) none greedy, next, code =>
    let (entry, _, code) := emitMany (fun k c => r.emit k c) greedy next code
    emitCopies (fun k c => r.emit k c) least entry code

def Program.ofRegex (r : Regex) : Program :=
  let (start, code) := r.emit 0 #[.accept]
  ⟨code, start⟩

end Guardrail.Pattern
