import Guardrail.Schema.Violation

/-!
What holds values against schemas.

The guards know of a checker only that it makes a schema ready, and what it says is wrong.
-/

namespace Guardrail.Schema

/-- A violation: what is wrong, and the place in the value. -/
structure Violation where
  message : String
  place : String

def Violation.text (v : Violation) : String := s!"{v.message} at {v.place}"

/-- A checker, by what it answers. -/
structure Checker where
  /-- The violations of each value, or what is wrong with the schema. -/
  compile : Json → Except String (Json → List Violation)
  /-- What is wrong with a text that is not JSON. -/
  complaint : String → String

/-- The checker by the drafts of JSON Schema. It says where a value is wrong, but not in which way. -/
def Checker.byDrafts : Checker where
  compile schema :=
    match Scope.of? schema with
    | some scope => .ok fun value => (violations scope value).map fun p => ⟨"not allowed", p.text⟩
    | none => .error "not a schema"
  complaint _ := "not a JSON text"

end Guardrail.Schema
