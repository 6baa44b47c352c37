import Guardrail.Text.Quoted
import Guardrail.Decimal.Text
import Guardrail.Json.Document

/-!
Why a document does not fit a type, and how that is said.
-/

namespace Guardrail.Decode

/-- Why a document does not fit. -/
inductive Fault where
  | missingField (name : String)
  | duplicateField (name : String)
  | invalidType (found expected : String)
  | invalidValue (found expected : String)
  | invalidLength (length : Nat) (expected : String)
  | unknownVariant (found : String) (known : List String)
  /-- The text is not well formed. -/
  | malformed
  /-- A rule of the type itself, in its own words. -/
  | refused (message : String)
deriving Repr, BEq, DecidableEq

def alternatives : List String → String
  | [] => "there are no variants"
  | [a] => s!"expected `{a}`"
  | [a, b] => s!"expected `{a}` or `{b}`"
  | names => "expected one of " ++ ", ".intercalate (names.map fun n => s!"`{n}`")

def Fault.message : Fault → String
  | .missingField name => s!"missing field `{name}`"
  | .duplicateField name => s!"duplicate field `{name}`"
  | .invalidType found expected => s!"invalid type: {found}, expected {expected}"
  | .invalidValue found expected => s!"invalid value: {found}, expected {expected}"
  | .invalidLength n expected => s!"invalid length {n}, expected {expected}"
  | .unknownVariant found known => s!"unknown variant `{found}`, {alternatives known}"
  | .malformed => "syntax"
  | .refused message => message

def describeNumber : Json.Number → String
  | .nat n => s!"integer `{n}`"
  | .neg n => s!"integer `-{n + 1}`"
  | .float x => s!"floating point `{Decimal.Style.json.write x}`"

/-- How a document is referred to, unless there is none. -/
def describe? : Json.Document → Option String
  | .null => some "null"
  | .bool b => some s!"boolean `{b}`"
  | .num n => some (describeNumber n)
  | .str s => some s!"string {Text.quoted s}"
  | .plain s => some s!"string {Text.quoted s}"
  | .arr _ _ => some "sequence"
  | .obj _ _ => some "map"
  | .unreadable => none
  | .broken => none

/-- The document is of another kind than the one expected. -/
def mismatch (d : Json.Document) (expected : String) : Fault :=
  match describe? d with
  | some found => .invalidType found expected
  | none => .malformed

end Guardrail.Decode
