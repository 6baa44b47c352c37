/-!
Finite maps as lists of pairs in ascending order of their keys.
-/

namespace Guardrail

/-- A finite map: pairs in ascending order of their keys, each key once. -/
abbrev Keyed (κ α : Type) := List (κ × α)

namespace Keyed

variable {κ α β : Type} [Ord κ]

def set (key : κ) (value : α) : Keyed κ α → Keyed κ α
  | [] => [(key, value)]
  | (k, v) :: rest =>
    match compare key k with
    | .lt => (key, value) :: (k, v) :: rest
    | .eq => (key, value) :: rest
    | .gt => (k, v) :: set key value rest

def get? (key : κ) : Keyed κ α → Option α
  | [] => none
  | (k, v) :: rest => if compare key k == .eq then some v else get? key rest

/-- The map of a list of pairs; of two with one key the later counts. -/
def ofList (pairs : List (κ × α)) : Keyed κ α := pairs.foldl (fun m p => m.set p.1 p.2) []

def mapValues {κ : Type} (f : α → β) (m : Keyed κ α) : Keyed κ β := List.map (fun p => (p.1, f p.2)) m

end Keyed

end Guardrail
