import Guardrail.Pattern.Reader
import Guardrail.Pattern.Search

/-!
Patterns inside schemas.

There the classes of digits, word characters and blanks are the narrow ones, and `\c` with a letter stands
for a control character. All else is read as elsewhere.
-/

namespace Guardrail.Schema

def blanks : List Char :=
  [' ', '\t', '\n', '\r', '\x0b', '\x0c', '\u00a0', '\ufeff', '\u2003', '\u2029']

def narrow : List Char → List Char
  | '\\' :: 'd' :: rest => "[0-9]".toList ++ narrow rest
  | '\\' :: 'D' :: rest => "[^0-9]".toList ++ narrow rest
  | '\\' :: 'w' :: rest => "[A-Za-z0-9_]".toList ++ narrow rest
  | '\\' :: 'W' :: rest => "[^A-Za-z0-9_]".toList ++ narrow rest
  | '\\' :: 's' :: rest => '[' :: blanks ++ ']' :: narrow rest
  | '\\' :: 'S' :: rest => '[' :: '^' :: blanks ++ ']' :: narrow rest
  | '\\' :: 'c' :: l :: rest =>
    if l.isAlpha then Char.ofNat (l.toNat % 32) :: narrow rest else '\\' :: 'c' :: l :: narrow rest
  | '\\' :: c :: rest => '\\' :: c :: narrow rest
  | c :: rest => c :: narrow rest
  | [] => []

/-- The test of a pattern, if it can be read. -/
def pattern? (text : String) : Option (String → Bool) :=
  match Pattern.read (String.ofList (narrow text.toList)) with
  | .ok regex =>
    let program := Pattern.Program.ofRegex regex
    some fun s => program.isMatch s.toList
  | .error _ => none

/-- Whether a text matches a pattern; none matches a pattern that cannot be read. -/
def matchesPattern (text s : String) : Bool :=
  match pattern? text with
  | some test => test s
  | none => false

end Guardrail.Schema
