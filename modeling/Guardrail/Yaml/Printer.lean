import Guardrail.Json.Printer
import Guardrail.Decode.Plain

/-!
Writing documents as YAML.

A value is a list of lines: nesting shifts lines to the right and puts a key or a dash in front of the first.
A text takes one line. It has no quotes where it reads as itself without, single quotes where it would read
as something else or break the line's structure, and double quotes where it holds characters that need an
escape.
-/

namespace Guardrail.Yaml

open Decode (Plain.isNull Plain.boolean? Plain.digits? Plain.digit? Plain.number? Plain.natural?)

/-- The quotes around a text. -/
inductive Quotes where
  | none
  | single
  | double
deriving Repr, DecidableEq

def endsLine (c : Char) : Bool := ['\n', '\r', '\u0085', '\u2028', '\u2029'].contains c

def standsAlone (c : Char) : Bool :=
  let n := c.toNat
  !endsLine c && ((0x20 ≤ n && n ≤ 0x7e) || (0xa0 ≤ n && n ≤ 0xfffd && n != 0xfeff))

/-- The words for truth values, and those that other readers take for some. -/
def truthWords : List String :=
  ["y", "Y", "yes", "Yes", "YES", "n", "N", "no", "No", "NO", "true", "True", "TRUE", "false", "False", "FALSE",
    "on", "On", "ON", "off", "Off", "OFF"]

/-- Whether a text is a run of digits with a zero in front, after a sign or none. -/
def hasLeadingZero (s : String) : Bool :=
  let digits := match s.toList with
    | '-' :: rest => rest
    | '+' :: rest => rest
    | cs => cs
  match digits with
  | '0' :: d :: rest => (d :: rest).all Char.isDigit
  | _ => false

/-- Whether a word would be read as something else than a text. -/
def hasOtherMeaning (s : String) : Bool :=
  let unsigned := match s.toList with
    | '-' :: rest => String.ofList rest
    | _ => s
  truthWords.contains s || Plain.isNull s || (Plain.boolean? s).isSome || (Plain.natural? unsigned).isSome
    || hasLeadingZero s || (Plain.number? s).isSome

def leadingMarks : List Char := [
  '#', ',', '[', ']', '\x7b', '\x7d', '&', '*', '!', '|', '>', '\'', '"', '%', '@', '\x60']

def beginsWord : List Char → Bool
  | [] => false
  | '-' :: '-' :: '-' :: _ => false
  | '.' :: '.' :: '.' :: _ => false
  | c :: rest =>
    !(leadingMarks.contains c || c == ' ' || (['?', ':', '-'].contains c && (rest.isEmpty || rest.head? == some ' ')))

/-- Whether a word may go on so after a character: no colon before a blank or the end, no hash after a blank
and no blank at the end. -/
def continuesWord (before : Char) : List Char → Bool
  | [] => before != ' '
  | c :: rest =>
    !(c == ':' && (rest.isEmpty || rest.head? == some ' ')) && !(c == '#' && before == ' ') && continuesWord c rest

def quotesFor (s : String) : Quotes :=
  if !s.toList.all standsAlone then .double
  else if hasOtherMeaning s then .single
  else match s.toList with
    | [] => .single
    | c :: rest => if beginsWord (c :: rest) && continuesWord c rest then .none else .single

def hexDigit (n : Nat) : Char := if n < 10 then Char.ofNat (48 + n) else Char.ofNat (55 + n)

/-- The last digits of a number in base sixteen, so many of them. -/
def hexDigits : Nat → Nat → List Char
  | 0, _ => []
  | places + 1, n => hexDigits places (n / 16) ++ [hexDigit (n % 16)]

def escape (c : Char) : List Char :=
  match c with
  | '"' => ['\\', '"']
  | '\\' => ['\\', '\\']
  | '\x00' => ['\\', '0']
  | '\x07' => ['\\', 'a']
  | '\x08' => ['\\', 'b']
  | '\t' => ['\\', 't']
  | '\n' => ['\\', 'n']
  | '\x0b' => ['\\', 'v']
  | '\x0c' => ['\\', 'f']
  | '\r' => ['\\', 'r']
  | '\x1b' => ['\\', 'e']
  | '\u0085' => ['\\', 'N']
  | '\u2028' => ['\\', 'L']
  | '\u2029' => ['\\', 'P']
  | c =>
    if standsAlone c then [c]
    else if c.toNat < 0x100 then '\\' :: 'x' :: hexDigits 2 c.toNat
    else if c.toNat < 0x10000 then '\\' :: 'u' :: hexDigits 4 c.toNat
    else '\\' :: 'U' :: hexDigits 8 c.toNat

def doubleQuote (c : Char) : List Char := if c = '\'' then ['\'', '\''] else [c]

def textChars (s : String) : List Char :=
  match quotesFor s with
  | .none => s.toList
  | .single => '\'' :: s.toList.flatMap doubleQuote ++ ['\'']
  | .double => '"' :: s.toList.flatMap escape ++ ['"']

def numberChars : Json.Number → List Char
  | .float x => (Decimal.Style.yaml.write x).toList
  | n => n.text.toList

/-- Puts a dash in front of the lines of an item. -/
def dashed : List (List Char) → List (List Char)
  | [] => []
  | first :: rest => ('-' :: ' ' :: first) :: rest.map fun line => ' ' :: ' ' :: line

/-- Puts a key in front of the lines of a value. The lines of a mapping are shifted, those of a list are not. -/
def keyed (key : String) (value : Json) (lines : List (List Char)) : List (List Char) :=
  let key := textChars key ++ [':']
  match value with
  | .obj (_ :: _) => key :: lines.map fun line => ' ' :: ' ' :: line
  | .arr (_ :: _) => key :: lines
  | _ => match lines with
    | [] => [key]
    | first :: rest => (key ++ ' ' :: first) :: rest

mutual
def block : Json → List (List Char)
  | .null => ["null".toList]
  | .bool b => [(if b then "true" else "false").toList]
  | .num n => [numberChars n]
  | .str s => [textChars s]
  | .arr [] => [['[', ']']]
  | .arr (j :: rest) => itemBlocks (j :: rest)
  | .obj [] => [['\x7b', '\x7d']]
  | .obj (m :: rest) => memberBlocks (m :: rest)
def itemBlocks : List Json → List (List Char)
  | [] => []
  | j :: rest => dashed (block j) ++ itemBlocks rest
def memberBlocks : List (String × Json) → List (List Char)
  | [] => []
  | (k, j) :: rest => keyed k j (block j) ++ memberBlocks rest
end

/-- A document, every line of which a line break ends. -/
def write (j : Json) : String := String.ofList ((block j).flatMap (· ++ ['\n']))

end Guardrail.Yaml
