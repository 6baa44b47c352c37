import Guardrail.Json.Basic
import Guardrail.Decimal.Shortest

/-!
Comparing JSON values by what they stand for.

Numbers are compared by their exact values, whatever they were written as.
-/

namespace Guardrail.Json

/-- The exact value of a number, as `(m, q)` for `m * 2 ^ q`. -/
def Number.exact : Number → Int × Int
  | .nat n => (n, 0)
  | .neg n => (-((n + 1 : Nat) : Int), 0)
  | .float x =>
    match Decimal.Parts.ofFloat x with
    | .finite negative v => (if negative then -(v.m : Int) else v.m, v.q)
    | _ => (0, 0)

def Number.order (a b : Number) : Ordering :=
  let (m, q) := a.exact
  let (n, r) := b.exact
  compare (m * Int.pow 2 (q - r).toNat) (n * Int.pow 2 (r - q).toNat)

/-- The value as a whole number, if it is one. -/
def Number.whole? (a : Number) : Option Int :=
  let (m, q) := a.exact
  if 0 ≤ q then some (m * Int.pow 2 q.toNat)
  else if m % Int.pow 2 (-q).toNat = 0 then some (m / Int.pow 2 (-q).toNat)
  else none

mutual
/-- Whether two values stand for the same thing. Objects have their keys in ascending order. -/
def same : Json → Json → Bool
  | .null, .null => true
  | .bool a, .bool b => a == b
  | .num a, .num b => a.order b == .eq
  | .str a, .str b => a == b
  | .arr as, .arr bs => sameItems as bs
  | .obj as, .obj bs => sameMembers as bs
  | _, _ => false
/-- Whether two lists of items stand for the same thing. -/
def sameItems : List Json → List Json → Bool
  | [], [] => true
  | a :: as, b :: bs => same a b && sameItems as bs
  | _, _ => false
/-- Whether two lists of members stand for the same thing. -/
def sameMembers : List (String × Json) → List (String × Json) → Bool
  | [], [] => true
  | (k, a) :: as, (l, b) :: bs => k == l && same a b && sameMembers as bs
  | _, _ => false
end

mutual
def nodes : Json → Nat
  | .arr items => itemNodes items + 1
  | .obj members => memberNodes members + 1
  | _ => 1
def itemNodes : List Json → Nat
  | [] => 0
  | j :: rest => nodes j + itemNodes rest
def memberNodes : List (String × Json) → Nat
  | [] => 0
  | (_, j) :: rest => nodes j + memberNodes rest
end

end Guardrail.Json
