import Guardrail.Unicode.Case
import Guardrail.Unicode.Script

/-!
Patterns as trees.

A `CharClass` is a set of characters, a `Regex` a regular expression with preferences: of the two sides of
an alternation the first is preferred, a greedy repetition prefers to go on and a lazy one to stop.
-/

namespace Guardrail.Pattern

inductive CharClass where
  /-- The characters from one to another. -/
  | range (first last : Char)
  /-- White space. -/
  | space
  /-- Decimal digits of all scripts. -/
  | digit
  /-- Characters of words. -/
  | word
  /-- Characters with a property given by a table. -/
  | table (ranges : Unicode.Ranges)
  | empty
  | union (a b : CharClass)
  | inter (a b : CharClass)
  | complement (a : CharClass)
  /-- All characters that differ from one in the set by case alone. -/
  | anyCase (a : CharClass)
deriving Repr, Inhabited

namespace CharClass

def single (c : Char) : CharClass := .range c c
def all : CharClass := .complement .empty
/-- The characters of the first set that are not in the second. -/
def minus (a b : CharClass) : CharClass := .inter a (.complement b)
def xor (a b : CharClass) : CharClass := .union (minus a b) (minus b a)
def unions : List CharClass → CharClass
  | [] => .empty
  | [a] => a
  | a :: rest => .union a (unions rest)

/-- The other characters that equal `c` when case is disregarded. Letters of ASCII need no table. -/
def caseVariants (c : Char) : List Char :=
  let n := c.toNat
  if n < 0x80 then
    if c.isAlpha then
      let both := [c.toLower, c.toUpper]
      if c.toLower == 'k' then Char.ofNat 0x212A :: both
      else if c.toLower == 's' then Char.ofNat 0x17F :: both
      else both
    else []
  else (Unicode.Case.variants n).map Char.ofNat

def contains : CharClass → Char → Bool
  | .range first last, c => first ≤ c && c ≤ last
  | .space, c => Unicode.isSpace c
  | .digit, c => Unicode.isDigit c
  | .word, c => Unicode.isWord c
  | .table ranges, c => ranges.has c
  | .empty, _ => false
  | .union a b, c => a.contains c || b.contains c
  | .inter a b, c => a.contains c && b.contains c
  | .complement a, c => !a.contains c
  | .anyCase a, c => a.contains c || (caseVariants c).any a.contains

end CharClass

/-- A condition on a place in the text. -/
inductive Look where
  | textStart
  | textEnd
  | lineStart
  | lineEnd
  /-- Start of a line, where a carriage return with its line feed counts as one break. -/
  | breakStart
  /-- End of a line, where a carriage return with its line feed counts as one break. -/
  | breakEnd
  | wordBoundary
  | notWordBoundary
  | wordStart
  | wordEnd
  /-- No character of a word precedes. -/
  | wordStartHalf
  /-- No character of a word follows. -/
  | wordEndHalf
deriving Repr, DecidableEq, Inhabited

/-- Whether a condition holds between two characters. `isWord` says what words are made of. -/
def Look.holds (isWord : Char → Bool) (before after : Option Char) : Look → Bool
  | .textStart => before.isNone
  | .textEnd => after.isNone
  | .lineStart => before.isNone || before == some '\n'
  | .lineEnd => after.isNone || after == some '\n'
  | .breakStart => before.isNone || before == some '\n' || (before == some '\r' && after != some '\n')
  | .breakEnd => after.isNone || after == some '\r' || (after == some '\n' && before != some '\r')
  | .wordBoundary => before.any isWord != after.any isWord
  | .notWordBoundary => before.any isWord == after.any isWord
  | .wordStart => !before.any isWord && after.any isWord
  | .wordEnd => before.any isWord && !after.any isWord
  | .wordStartHalf => !before.any isWord
  | .wordEndHalf => !after.any isWord

inductive Regex where
  /-- The empty text. -/
  | empty
  /-- One character of a set. -/
  | one (set : CharClass)
  /-- The empty text where a condition holds; `ascii` restricts words to ASCII. -/
  | look (condition : Look) (ascii : Bool)
  | seq (a b : Regex)
  /-- Either, the first preferred. -/
  | alt (a b : Regex)
  /-- From `least` to `most` times, or any number from `least` on. -/
  | loop (body : Regex) (least : Nat) (most : Option Nat) (greedy : Bool)
deriving Repr, Inhabited

namespace Regex

def sequence : List Regex → Regex
  | [] => .empty
  | [r] => r
  | r :: rest => .seq r (sequence rest)

/-- The least number of characters that a match takes. -/
def leastLength : Regex → Nat
  | .empty => 0
  | .one _ => 1
  | .look _ _ => 0
  | .seq a b => a.leastLength + b.leastLength
  | .alt a b => min a.leastLength b.leastLength
  | .loop r least _ _ => r.leastLength * least

/-- The bytes of memory that a set of characters takes in a compiled pattern, roughly. -/
def classCost : CharClass → Nat
  | .range _ last => if last.toNat < 0x80 then 32 else 128
  | .space => 400
  | .digit => 4000
  | .word => 47000
  | .table t => 60 * t.toArray.size
  | .empty => 32
  | .union a b => classCost a + classCost b
  | .inter a b => max (classCost a) (classCost b)
  | .complement a => 400 + classCost a
  | .anyCase a => 2 * classCost a

/-- The bytes of memory that a compiled pattern takes, roughly. -/
def cost : Regex → Nat
  | .empty => 32
  | .one set => classCost set
  | .look _ _ => 32
  | .seq a b => a.cost + b.cost
  | .alt a b => 32 + a.cost + b.cost
  | .loop r least most _ => (32 + r.cost) * max 1 (match most with | some m => m | none => least)

def maxCost : Nat := 10 * 1024 * 1024

end Regex

end Guardrail.Pattern
