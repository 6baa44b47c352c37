import Guardrail.Config.Scoring
import Guardrail.Keyed
import Guardrail.Request

/-!
What the steps of an agent show: repetition, spending and standstill.

Findings about steps have spans over their positions in the list of steps, not over bytes.
-/

namespace Guardrail.Detect

/-- What the steps of an agent show. -/
structure Activity where
  looping : Float
  cost : Float
  progress : Float
  findings : List Finding
deriving Repr

namespace Activity

def quiet : Activity := ⟨0, 0, 0, []⟩

/-- How often an item occurs in a list, and where first. -/
structure Tally where
  count : Nat
  first : Nat
deriving Repr, DecidableEq

def Tally.add (place : Nat) : Option Tally → Tally
  | some t => { t with count := t.count + 1 }
  | none => ⟨1, place⟩

/-- By the number of occurrences; of items that occur equally often the one met first is the greater. -/
def Tally.order (a b : Tally) : Ordering := (compare a.count b.count).then (compare b.first a.first)

def tallies {κ : Type} [Ord κ] (xs : List κ) : Keyed κ Tally :=
  xs.zipIdx.foldl (fun m x => m.set x.1 (Tally.add x.2 (m.get? x.1))) []

/-- The entry with the greatest tally; of equal ones the last. -/
def mostFrequent? {κ : Type} (entries : List (κ × Tally)) : Option (κ × Tally) :=
  entries.foldl (fun best entry =>
    match best with
    | some b => if Tally.order b.2 entry.2 = .gt then some b else some entry
    | none => some entry) none

/-- The risk of a step that occurs `count` times among the latest `window`. -/
def loopRisk {ν : Type} [Scalar ν] (count window : Nat) : ν :=
  Scalar.clampUnit (Scalar.max (Scalar.ofNat count / Scalar.ofNat window) (Scalar.decimal 6 1))

/-- The most frequent of the steps after the first `skipped`, if that makes a loop: where it first occurs in the
whole list, and how often it does. The entries may come in any order. -/
def loopAmong? (repeats skipped : Nat) (entries : List (String × Tally)) : Option (Nat × Nat) := do
  let (_, tally) ← mostFrequent? entries
  if tally.count < repeats then none else some (skipped + tally.first, tally.count)

/-- The loop that the latest `window` steps make, if any. -/
def loop? (window repeats : Nat) (signatures : List String) : Option (Nat × Nat) :=
  let skipped := signatures.length - window
  loopAmong? repeats skipped (tallies (signatures.drop skipped))

def share {ν : Type} [Scalar ν] (used budget : ν) : ν :=
  let used := Scalar.max used 0
  if budget ≤ 0 then (if 0 < used then 1 else 0) else used / budget

/-- The larger share of the two budgets that is used up, if there is one. -/
def utilisation (s : Snapshot) : Option Float :=
  let tokens := s.tokenBudget.map fun budget => share (Float.ofNat s.tokensUsed) (Float.ofNat budget)
  let cost := s.costBudgetUsd.map fun budget => share s.costUsd budget
  match tokens, cost with
  | none, none => none
  | a, b => some (Scalar.max (a.getD 0) (b.getD 0))

/-- Where the latest steps begin, if there are `window` of them and none made progress. -/
def standstill? (window : Nat) (actions : List AgentAction) : Option Nat :=
  let start := actions.length - window
  if actions.length < window || (actions.drop start).any (·.madeProgress) then none else some start

def observe (config : StateMonitorConfig) (s : Snapshot) : Activity :=
  let length := s.actions.length
  let looping := loop? config.loopWindow config.loopRepeats (s.actions.map AgentAction.signature)
  let loopRisk : Float := match looping with
    | some (_, count) => Activity.loopRisk count config.loopWindow
    | none => 0
  let used := utilisation s
  let standstill := standstill? config.progressWindow s.actions
  let findings :=
    (match looping with
      | some (first, _) => [Finding.make .loopDetected ⟨first, length⟩ loopRisk 1 "state.loop"]
      | none => [])
    ++ (match used with
      | some u => if 1 ≤ u then [Finding.make .costOverrun ⟨0, length⟩ 1 1 "state.cost_overrun"] else []
      | none => [])
    ++ (match standstill with
      | some start => [Finding.make .noProgress ⟨start, length⟩ 1 config.progressFlag "state.no_progress"]
      | none => [])
  ⟨loopRisk, Scalar.clampUnit (used.getD 0), if standstill.isSome then config.progressFlag else 0, findings⟩

end Activity

end Guardrail.Detect
