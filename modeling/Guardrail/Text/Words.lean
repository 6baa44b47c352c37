import Guardrail.Unicode.Class
import Guardrail.Unicode.Case

/-!
The words of a text.

A word is a run of word characters that cannot be made longer. Words are compared in lower case.
-/

namespace Guardrail.Text

/-- A word in lower case and where it stands, in bytes. -/
structure Word where
  start : Nat
  stop : Nat
  letters : List Char
deriving Repr, DecidableEq

/-- Collects words from the place `pos` on. `pending` holds the characters of a word that has begun, the
latest first; `done` the words before it, the latest first. -/
def wordsFrom (pos : Nat) (pending : List Char) (since : Nat) (done : List Word) : List Char → List Word
  | [] => (if pending.isEmpty then done else ⟨since, pos, Unicode.Case.toLower pending.reverse⟩ :: done).reverse
  | c :: cs =>
    if Unicode.isWord c then
      wordsFrom (pos + c.utf8Size) (c :: pending) (if pending.isEmpty then pos else since) done cs
    else
      wordsFrom (pos + c.utf8Size) [] since
        (if pending.isEmpty then done else ⟨since, pos, Unicode.Case.toLower pending.reverse⟩ :: done) cs

def words (cs : List Char) : List Word := wordsFrom 0 [] 0 [] cs

/-- All runs of `n` neighbours in a list, from left to right. -/
def windows {α : Type} (n : Nat) : List α → List (List α)
  | [] => []
  | x :: xs =>
    let w := (x :: xs).take n
    if w.length = n then w :: windows n xs else []

end Guardrail.Text
