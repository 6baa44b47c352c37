/-!
Sets of code points, written as ranges in hexadecimal.

A `Ranges` holds disjoint closed ranges in ascending order. Membership is a binary search.
-/

namespace Guardrail.Unicode

/-- Disjoint closed ranges of code points in ascending order. -/
structure Ranges where
  toArray : Array (Nat × Nat)
deriving Repr, Inhabited

namespace Ranges

def hexValue (cs : List Char) : Nat :=
  cs.foldl (fun n c => 16 * n + (if c.isDigit then c.toNat - 48 else c.toNat - 55)) 0

/-- One range, such as `41-5A`, or one code point, such as `AA`. -/
def rangeOf (cs : List Char) : Nat × Nat :=
  let first := cs.takeWhile (· != '-')
  let last := cs.drop (first.length + 1)
  (hexValue first, if last.isEmpty then hexValue first else hexValue last)

def wordsFrom (word : List Char) (out : Array (List Char)) : List Char → Array (List Char)
  | [] => if word.isEmpty then out else out.push word.reverse
  | ' ' :: rest => wordsFrom [] (if word.isEmpty then out else out.push word.reverse) rest
  | c :: rest => wordsFrom (c :: word) out rest

def ofText (lines : List String) : Ranges :=
  ⟨(lines.toArray.flatMap fun line => wordsFrom [] #[] line.toList).map rangeOf⟩

def search (a : Array (Nat × Nat)) (n : Nat) : Nat → Nat → Nat → Bool
  | 0, _, _ => false
  | fuel + 1, low, high =>
    if low ≥ high then false
    else
      let mid := (low + high) / 2
      match a[mid]? with
      | none => false
      | some (first, last) =>
        if n < first then search a n fuel low mid
        else if last < n then search a n fuel (mid + 1) high
        else true

def contains (r : Ranges) (n : Nat) : Bool := search r.toArray n (r.toArray.size + 1) 0 r.toArray.size

def has (r : Ranges) (c : Char) : Bool := r.contains c.toNat

end Ranges

end Guardrail.Unicode
