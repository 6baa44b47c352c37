import Guardrail.Text.Trim

/-!
Places in a text, counted in bytes of UTF-8.

A place is usable only between two characters. Everything here goes through `dropBytes?`, which has an
answer exactly at such places.
-/

namespace Guardrail.Text

/-- What follows the first `n` bytes, if that place lies between two characters. -/
def dropBytes? : Nat → List Char → Option (List Char)
  | 0, cs => some cs
  | _ + 1, [] => none
  | n + 1, c :: cs => if c.utf8Size ≤ n + 1 then dropBytes? (n + 1 - c.utf8Size) cs else none

/-- The characters that begin within the first `n` bytes, put in reverse before `seen`. -/
def takeBytesOnto (seen : List Char) : Nat → List Char → List Char
  | 0, _ => seen
  | _ + 1, [] => seen
  | n + 1, c :: cs => takeBytesOnto (c :: seen) (n + 1 - c.utf8Size) cs

/-- The characters that begin within the first `n` bytes. -/
def takeBytes (n : Nat) (cs : List Char) : List Char := (takeBytesOnto [] n cs).reverse

/-- Whether a place lies between two characters of a text. -/
def isBoundary (n : Nat) (cs : List Char) : Bool := (dropBytes? n cs).isSome

/-- The characters from one place up to another, if both lie between characters in this order. -/
def slice? (start stop : Nat) (cs : List Char) : Option (List Char) :=
  if start ≤ stop ∧ isBoundary stop cs then (dropBytes? start cs).map (takeBytes (stop - start)) else none

def startsWith : List Char → List Char → Bool
  | _, [] => true
  | [], _ :: _ => false
  | c :: cs, d :: ds => c == d && startsWith cs ds

def contains (cs word : List Char) : Bool :=
  startsWith cs word || match cs with
    | [] => false
    | _ :: rest => contains rest word

end Guardrail.Text
