import Guardrail.Unicode.Class

/-!
The check of international bank account numbers: with the first four characters moved to the end and
letters read as the numbers from ten, the whole leaves the remainder one modulo ninety-seven.
-/

namespace Guardrail.Iban

def value (c : Char) : Nat := if c.isDigit then c.toNat - 48 else c.toNat - 55

/-- The remainder after one more character; a letter takes two places. -/
def step (remainder : Nat) (c : Char) : Nat :=
  if 10 ≤ value c then (remainder * 100 + value c) % 97 else (remainder * 10 + value c) % 97

def compact (cs : List Char) : List Char := (cs.filter fun c => !Unicode.isSpace c).map Char.toUpper

/-- Whether a text is an account number with the right check digits. -/
def valid (cs : List Char) : Bool :=
  let cs := compact cs
  15 ≤ cs.length && cs.length ≤ 34 && cs.all Char.isAlphanum
    && (cs.drop 4 ++ cs.take 4).foldl step 0 == 1

end Guardrail.Iban
