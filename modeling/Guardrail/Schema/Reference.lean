import Guardrail.Json.Exact
import Guardrail.Schema.Shape

/-!
References inside a schema.

A reference is `#` for the whole schema, `#` with a path of keys, or `#` with the name of an anchor; in
front of the mark may stand the id of a schema inside.
-/

namespace Guardrail.Schema

def splitPath (cs : List Char) : List (List Char) := cs.splitOn '/'

def hexDigit? (c : Char) : Option Nat :=
  if c.isDigit then some (c.toNat - 48)
  else if 'a' ≤ c ∧ c ≤ 'f' then some (c.toNat - 87)
  else if 'A' ≤ c ∧ c ≤ 'F' then some (c.toNat - 55)
  else none

/-- The bytes of a text in which `%` and two hexadecimal digits stand for a byte. -/
def percentBytes : List Char → List UInt8
  | '%' :: a :: b :: rest =>
    match hexDigit? a, hexDigit? b with
    | some x, some y => (x * 16 + y).toUInt8 :: percentBytes rest
    | _, _ => (String.singleton '%').toUTF8.toList ++ percentBytes (a :: b :: rest)
  | c :: rest => (String.singleton c).toUTF8.toList ++ percentBytes rest
  | [] => []

/-- A text with its percent signs resolved; one that is no text after that stays as it is. -/
def percentDecoded (s : String) : String := (String.fromUTF8? ⟨(percentBytes s.toList).toArray⟩).getD s

/-- A key of a path: `~1` stands for a slash and `~0` for a tilde. -/
def pathKey : List Char → List Char
  | '~' :: '1' :: rest => '/' :: pathKey rest
  | '~' :: '0' :: rest => '~' :: pathKey rest
  | c :: rest => c :: pathKey rest
  | [] => []

def follow? : Json → List (List Char) → Option Json
  | j, [] => some j
  | .obj members, k :: rest => do follow? (← members.lookup (String.ofList (pathKey k))) rest
  | .arr items, k :: rest => do
    let n ← (String.ofList k).toNat?
    follow? (← items[n]?) rest
  | _, _ :: _ => none

mutual
/-- The first object inside a value that passes a test. -/
def find? (test : List (String × Json) → Bool) : Json → Option Json
  | .obj members => if test members then some (.obj members) else findMembers? test members
  | .arr items => findItems? test items
  | _ => none
/-- The first object inside items that passes a test. -/
def findItems? (test : List (String × Json) → Bool) : List Json → Option Json
  | [] => none
  | j :: rest => (find? test j).or (findItems? test rest)
/-- The first object inside members that passes a test. -/
def findMembers? (test : List (String × Json) → Bool) : List (String × Json) → Option Json
  | [] => none
  | (_, j) :: rest => (find? test j).or (findMembers? test rest)
end

def holdsText (key text : String) (members : List (String × Json)) : Bool :=
  match members.lookup key with
  | some (.str s) => s == text
  | _ => false

/-- What a reference inside `root` stands for. -/
def resolve? (root : Json) (reference : String) : Option Json := do
  let cs := reference.toList
  let address := String.ofList (cs.takeWhile (· != '#'))
  let fragment := percentDecoded (String.ofList ((cs.dropWhile (· != '#')).drop 1))
  let base ← if address.isEmpty then some root
    else find? (fun ms => holdsText "$id" address ms || holdsText "id" address ms) root
  match fragment.toList with
  | [] => some base
  | '/' :: path => follow? base (splitPath path)
  | _ => find? (fun ms =>
      holdsText "$anchor" fragment ms || holdsText "$dynamicAnchor" fragment ms
        || holdsText "$id" ("#" ++ fragment) ms || holdsText "id" ("#" ++ fragment) ms) base

end Guardrail.Schema
