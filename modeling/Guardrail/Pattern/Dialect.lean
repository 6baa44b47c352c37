import Guardrail.Pattern.Reader
import Guardrail.Pattern.Search

/-!
What rules search with.

Rules know of a dialect of patterns only what it finds and which patterns it refuses.
-/

namespace Guardrail.Pattern

class Dialect where
  /-- The spans of a text that a pattern applies to, from left to right, or what is wrong with the pattern. -/
  search : String → Except String (List Char → List Span)

instance Dialect.ofReader : Dialect where
  search pattern :=
    match read pattern with
    | .ok r => .ok (Program.ofRegex r).occurrences
    | .error fault => .error fault.message

end Guardrail.Pattern
