import Guardrail.Detect.Basic
import Guardrail.Schema.Checker
import Guardrail.Json.Reader

/-!
Whether an answer has the form that was asked for.

An empty answer is a fault by itself. Where a schema is given, the answer has to be JSON that satisfies it;
one code fence around the JSON is taken off first.
-/

namespace Guardrail.Detect

structure Verdict where
  risk : Float
  errors : List String
  findings : List Finding
deriving Repr

namespace Verdict

def clean : Verdict := ⟨0, [], []⟩

def failure (risk : Float) (rule : String) (text : List Char) (errors : List String) : Verdict :=
  ⟨risk, errors, [.make .validationFailure ⟨0, Text.byteLength text⟩ 1 risk rule]⟩

end Verdict

def fence : List Char := "```".toList

/-- A text without a suffix, if it has it. -/
def dropSuffix (suffix cs : List Char) : List Char :=
  if Text.startsWith cs.reverse suffix.reverse then (cs.reverse.drop suffix.length).reverse else cs

/-- What stands inside a code fence, its first line left out; a text without a fence as it is. White space
at the ends is dropped. -/
def unfenced (text : List Char) : List Char :=
  let trimmed := Text.trim text
  if Text.startsWith trimmed fence then
    let rest := dropSuffix fence (trimmed.drop 3)
    if rest.contains '\n' then Text.trim ((rest.dropWhile (· != '\n')).drop 1) else Text.trim rest
  else trimmed

def violationRisk {ν : Type} [Scalar ν] (n : Nat) : ν :=
  if n = 0 then 0 else Scalar.min (Scalar.decimal 5 1 + Scalar.decimal 1 1 * Scalar.ofNat n) 1

/-- Judges a text that is not blank by a schema made ready. -/
def conform (complaint : String → String) (judge : Json → List Schema.Violation) (text : List Char) : Verdict :=
  let body := String.ofList (unfenced text)
  match Json.parse? body with
  | none => .failure 1 "validation.unparseable" text [s!"output is not valid JSON: {complaint body}"]
  | some value =>
    match judge value with
    | [] => .clean
    | found => .failure (violationRisk found.length) "validation.schema" text (found.map (·.text))

def validate (checker : Schema.Checker) (emptyRisk : Float) (limit : Nat) (text : List Char) (schema : Option Json) :
    Except DetectorError Verdict := do
  checkSize limit text
  if (Text.trim text).isEmpty then
    pure (.failure emptyRisk "validation.empty" text ["output is empty"])
  else match schema with
    | none => pure .clean
    | some schema =>
      match checker.compile schema with
      | .error message => throw (.invalidSchema message)
      | .ok judge => pure (conform checker.complaint judge text)

end Guardrail.Detect
