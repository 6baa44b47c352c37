import Guardrail.Json.Basic
import Guardrail.Decimal.Text

/-!
Writing JSON text.

`compact` writes a value without blanks, `pretty` with one member or item on a line and two blanks of
indentation a level. Both escape quotes, backslashes and control characters and nothing else.
-/

namespace Guardrail.Json

def hexChar (n : Nat) : Char := if n < 10 then Char.ofNat (48 + n) else Char.ofNat (87 + n)

def escapeChar (c : Char) : List Char :=
  match c with
  | '"' => ['\\', '"']
  | '\\' => ['\\', '\\']
  | '\n' => ['\\', 'n']
  | '\r' => ['\\', 'r']
  | '\t' => ['\\', 't']
  | '\x08' => ['\\', 'b']
  | '\x0c' => ['\\', 'f']
  | c => if c.toNat < 0x20 then ['\\', 'u', '0', '0', hexChar (c.toNat / 16), hexChar (c.toNat % 16)] else [c]

def quote (s : String) : List Char := '"' :: s.toList.flatMap escapeChar ++ ['"']

def Number.text : Number → String
  | .nat n => toString n
  | .neg n => "-" ++ toString (n + 1)
  | .float x => Decimal.Style.json.write x

def separated (sep : List Char) : List (List Char) → List Char
  | [] => []
  | [x] => x
  | x :: rest => x ++ sep ++ separated sep rest

mutual
/-- The characters of a value without blanks. -/
def chars : Json → List Char
  | .null => "null".toList
  | .bool b => (if b then "true" else "false").toList
  | .num n => n.text.toList
  | .str s => quote s
  | .arr items => '[' :: separated [','] (itemChars items) ++ [']']
  | .obj members => '\x7b' :: separated [','] (memberChars members) ++ ['\x7d']
def itemChars : List Json → List (List Char)
  | [] => []
  | j :: rest => chars j :: itemChars rest
def memberChars : List (String × Json) → List (List Char)
  | [] => []
  | (k, j) :: rest => (quote k ++ ':' :: chars j) :: memberChars rest
end

def compact (j : Json) : String := String.ofList j.chars

def newline (level : Nat) : List Char := '\n' :: List.replicate (2 * level) ' '

mutual
/-- The characters of a value at a level of indentation. -/
def prettyChars (level : Nat) : Json → List Char
  | .arr [] => ['[', ']']
  | .arr items =>
    '[' :: newline (level + 1) ++ separated (',' :: newline (level + 1)) (prettyItems (level + 1) items)
      ++ newline level ++ [']']
  | .obj [] => ['\x7b', '\x7d']
  | .obj members =>
    '\x7b' :: newline (level + 1) ++ separated (',' :: newline (level + 1)) (prettyMembers (level + 1) members)
      ++ newline level ++ ['\x7d']
  | .null => "null".toList
  | .bool b => (if b then "true" else "false").toList
  | .num n => n.text.toList
  | .str s => quote s
def prettyItems (level : Nat) : List Json → List (List Char)
  | [] => []
  | j :: rest => prettyChars level j :: prettyItems level rest
def prettyMembers (level : Nat) : List (String × Json) → List (List Char)
  | [] => []
  | (k, j) :: rest => (quote k ++ ':' :: ' ' :: prettyChars level j) :: prettyMembers level rest
end

def pretty (j : Json) : String := String.ofList (j.prettyChars 0)

end Guardrail.Json
