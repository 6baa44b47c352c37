import Guardrail.Unicode.Class

/-!
Trimming white space off the ends of a text.
-/

namespace Guardrail.Text

def trimStart (cs : List Char) : List Char := cs.dropWhile Unicode.isSpace

def trimEnd (cs : List Char) : List Char := (cs.reverse.dropWhile Unicode.isSpace).reverse

def trim (cs : List Char) : List Char := trimEnd (trimStart cs)

/-- The number of bytes that characters take in UTF-8. -/
def byteLength (cs : List Char) : Nat := cs.foldl (fun n c => n + c.utf8Size) 0

end Guardrail.Text
