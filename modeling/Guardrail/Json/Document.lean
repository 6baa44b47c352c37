import Guardrail.Json.Basic

/-!
JSON text as a reader meets it.

A `Document` keeps the members of an object in the order of the text, repeated keys included, and says
where the text stops being JSON. A decoder that walks it in order therefore reports a member of the wrong
type before a syntax fault that stands further right, and the other way round.
-/

namespace Guardrail.Json

/-- What was read of a text, up to the first fault. -/
inductive Document where
  | null
  | bool (b : Bool)
  | num (n : Number)
  | str (s : String)
  /-- A word that stands for what is asked for: a text, a number, a truth value or nothing. -/
  | plain (s : String)
  | arr (items : List Document) (closed : Bool)
  | obj (members : List (String × Document)) (closed : Bool)
  /-- A literal that is well formed and has no value: a number out of range, half a surrogate pair. It
  may be skipped and not be read. -/
  | unreadable
  /-- The text is not JSON from here on. -/
  | broken
deriving Repr, BEq, Inhabited

mutual
def toDocument : Json → Document
  | .null => .null
  | .bool b => .bool b
  | .num n => .num n
  | .str s => .str s
  | .arr items => .arr (toDocuments items) true
  | .obj members => .obj (memberDocuments members) true
def toDocuments : List Json → List Document
  | [] => []
  | j :: rest => toDocument j :: toDocuments rest
def memberDocuments : List (String × Json) → List (String × Document)
  | [] => []
  | (k, j) :: rest => (k, toDocument j) :: memberDocuments rest
end

namespace Document

mutual
/-- The value of a document that is JSON throughout and nests at most `depth` arrays and objects. -/
def toJson? (depth : Nat) : Document → Option Json
  | .null => some .null
  | .bool b => some (.bool b)
  | .num n => some (.num n)
  | .str s => some (.str s)
  | .plain s => some (.str s)
  | .arr items closed =>
    if depth = 0 then none
    else (itemsToJson? (depth - 1) items).bind fun js => if closed then some (.arr js) else none
  | .obj members closed =>
    if depth = 0 then none
    else (membersToJson? (depth - 1) members).bind fun ms => if closed then some (.ofMembers ms) else none
  | .unreadable => none
  | .broken => none
def itemsToJson? (depth : Nat) : List Document → Option (List Json)
  | [] => some []
  | d :: rest => (toJson? depth d).bind fun j => (itemsToJson? depth rest).map (j :: ·)
def membersToJson? (depth : Nat) : List (String × Document) → Option (List (String × Json))
  | [] => some []
  | (k, d) :: rest => (toJson? depth d).bind fun j => (membersToJson? depth rest).map ((k, j) :: ·)
end

mutual
/-- Whether a document is JSON throughout, whatever its literals stand for. -/
def sound : Document → Bool
  | .arr items closed => itemsSound items && closed
  | .obj members closed => membersSound members && closed
  | .broken => false
  | _ => true
def itemsSound : List Document → Bool
  | [] => true
  | d :: rest => sound d && itemsSound rest
def membersSound : List (String × Document) → Bool
  | [] => true
  | (_, d) :: rest => sound d && membersSound rest
end

end Document

end Guardrail.Json
