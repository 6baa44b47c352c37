/-!
JSON values.

A number keeps whether it was written as a whole number: whole numbers of sixty-four bits stay exact, all
others are doubles. An object lists its members in the order in which they are written; one that was read
has them in ascending order of their keys, each key once, which `ofMembers` brings about.
-/

namespace Guardrail

inductive Json.Number where
  /-- A whole number from zero to `2 ^ 64 - 1`. -/
  | nat (n : Nat)
  /-- The negative whole number `-(n + 1)`, down to `-2 ^ 63`. -/
  | neg (n : Nat)
  | float (x : Float)
deriving Repr, BEq, DecidableEq

inductive Json where
  | null
  | bool (b : Bool)
  | num (n : Json.Number)
  | str (s : String)
  | arr (items : List Json)
  | obj (members : List (String × Json))
deriving Repr, BEq, Inhabited

namespace Json

def Number.toFloat : Number → Float
  | .nat n => n.toUInt64.toFloat
  | .neg n => -((n + 1).toUInt64.toFloat)
  | .float x => x

def setMember (key : String) (value : Json) : List (String × Json) → List (String × Json)
  | [] => [(key, value)]
  | (k, v) :: rest =>
    if key < k then (key, value) :: (k, v) :: rest
    else if key = k then (key, value) :: rest
    else (k, v) :: setMember key value rest

/-- The object of a list of members in any order. Of two members with one key the later counts. -/
def ofMembers (members : List (String × Json)) : Json :=
  .obj (members.foldl (fun acc m => setMember m.1 m.2 acc) [])

def get? (key : String) : Json → Option Json
  | .obj members => members.lookup key
  | _ => none

mutual
/-- The same value with the members of every object in ascending order of their keys. -/
def sortKeys : Json → Json
  | .arr items => .arr (sortItems items)
  | .obj members => .ofMembers (sortMembers members)
  | j => j
/-- The items of an array, each with its keys in order. -/
def sortItems : List Json → List Json
  | [] => []
  | j :: rest => sortKeys j :: sortItems rest
/-- The members of an object, each with its keys in order. -/
def sortMembers : List (String × Json) → List (String × Json)
  | [] => []
  | (k, j) :: rest => (k, sortKeys j) :: sortMembers rest
end

def ofOption {α : Type} (f : α → Json) : Option α → Json
  | some a => f a
  | none => .null

def ofNat (n : Nat) : Json := .num (.nat n)
def ofFloat (x : Float) : Json := .num (.float x)

end Json

end Guardrail
