import Guardrail.Json.Document

/-!
Reading JSON text.

`Document.read` consumes one value and returns what is left, or nothing where the text broke off.
`Json.parse?` asks for exactly one value, nested at most one hundred and twenty-seven deep.
-/

namespace Guardrail.Json

def isBlank (c : Char) : Bool := c == ' ' || c == '\n' || c == '\t' || c == '\r'

def skipBlanks (cs : List Char) : List Char := cs.dropWhile isBlank

def hexDigit? (c : Char) : Option Nat :=
  if c.isDigit then some (c.toNat - 48)
  else if 'a' ≤ c ∧ c ≤ 'f' then some (c.toNat - 87)
  else if 'A' ≤ c ∧ c ≤ 'F' then some (c.toNat - 55)
  else none

def codeUnit? : List Char → Option (Nat × List Char)
  | a :: b :: c :: d :: rest => do
    let a ← hexDigit? a
    let b ← hexDigit? b
    let c ← hexDigit? c
    let d ← hexDigit? d
    pure (((a * 16 + b) * 16 + c) * 16 + d, rest)
  | _ => none

def simpleEscape? : Char → Option Char
  | '"' => some '"'
  | '\\' => some '\\'
  | '/' => some '/'
  | 'b' => some '\x08'
  | 'f' => some '\x0c'
  | 'n' => some '\n'
  | 'r' => some '\r'
  | 't' => some '\t'
  | _ => none

/-- What stands between two quotes. -/
inductive Quoted where
  /-- The characters and the text after the closing quote. -/
  | text (cs : List Char) (rest : List Char)
  /-- Closed, but half of a surrogate pair stands in it. -/
  | halved (rest : List Char)
  | broken
deriving Repr, BEq

/-- Reads a string after its opening quote. The characters so far are kept in reverse; `half` notes a
lone surrogate. Every step consumes a character, and the fuel is the length of the text. -/
def quotedFrom (acc : List Char) (half : Bool) : Nat → List Char → Quoted
  | 0, _ => .broken
  | _ + 1, [] => .broken
  | _ + 1, '"' :: rest => if half then .halved rest else .text acc.reverse rest
  | fuel + 1, '\\' :: 'u' :: rest =>
    match codeUnit? rest with
    | none => .broken
    | some (u, rest) =>
      if 0xDC00 ≤ u ∧ u < 0xE000 then quotedFrom acc true fuel rest
      else if 0xD800 ≤ u ∧ u < 0xDC00 then
        match rest with
        | '\\' :: 'u' :: more =>
          match codeUnit? more with
          | none => .broken
          | some (v, more) =>
            if 0xDC00 ≤ v ∧ v < 0xE000 then
              quotedFrom (Char.ofNat (0x10000 + (u - 0xD800) * 0x400 + (v - 0xDC00)) :: acc) half fuel more
            else quotedFrom acc true fuel more
        | _ => quotedFrom acc true fuel rest
      else quotedFrom (Char.ofNat u :: acc) half fuel rest
  | fuel + 1, '\\' :: c :: rest =>
    match simpleEscape? c with
    | some d => quotedFrom (d :: acc) half fuel rest
    | none => .broken
  | fuel + 1, c :: rest => if c.toNat < 0x20 then .broken else quotedFrom (c :: acc) half fuel rest

def quoted (cs : List Char) : Quoted := quotedFrom [] false (cs.length + 1) cs

def digitsValue (ds : List Char) : Nat := ds.foldl (fun n c => 10 * n + (c.toNat - 48)) 0

/-- A number literal by its parts. -/
structure Literal where
  negative : Bool
  whole : List Char
  fraction : Option (List Char)
  exponent : Option (Bool × List Char)

def signPart : List Char → Bool × List Char
  | '-' :: rest => (true, rest)
  | cs => (false, cs)

/-- The digits after a point, if there is one, and what follows them. -/
def fractionPart? : List Char → Option (Option (List Char) × List Char)
  | '.' :: rest =>
    let ds := rest.takeWhile Char.isDigit
    if ds = [] then none else some (some ds, rest.dropWhile Char.isDigit)
  | cs => some (none, cs)

def exponentSign : List Char → Bool × List Char
  | '-' :: rest => (true, rest)
  | '+' :: rest => (false, rest)
  | cs => (false, cs)

/-- The exponent, if there is one, and what follows it. -/
def exponentPart? : List Char → Option (Option (Bool × List Char) × List Char)
  | [] => some (none, [])
  | c :: cs =>
    if c = 'e' ∨ c = 'E' then
      let (minus, cs) := exponentSign cs
      let ds := cs.takeWhile Char.isDigit
      if ds = [] then none else some (some (minus, ds), cs.dropWhile Char.isDigit)
    else some (none, c :: cs)

/-- Reads the longest number literal, and nothing where the text begins like a number and is none. -/
def literal? (cs : List Char) : Option (Literal × List Char) :=
  let (negative, cs) := signPart cs
  let whole := cs.takeWhile Char.isDigit
  if whole = [] ∨ (1 < whole.length ∧ whole.head? = some '0') then none
  else
    (fractionPart? (cs.dropWhile Char.isDigit)).bind fun (fraction, cs) =>
      (exponentPart? cs).map fun (exponent, cs) => (⟨negative, whole, fraction, exponent⟩, cs)

/-- Appends digits to a number as long as it stays below `2 ^ 64`, and gives the digits left over. -/
def accumulate (n : Nat) : List Char → Nat × List Char
  | [] => (n, [])
  | c :: cs =>
    let m := 10 * n + (c.toNat - 48)
    if m < Nat.pow 2 64 then accumulate m cs else (n, c :: cs)

def powerOfTen (n : Nat) : Float := Float.ofScientific (Nat.pow 10 n) false 0

/-- Divides by a power of ten, in steps that a double can hold. -/
def shrunk (x : Float) : Nat → Nat → Float
  | 0, _ => 0.0
  | fuel + 1, n => if n ≤ 308 then x / powerOfTen n else if x == 0.0 then x else shrunk (x / powerOfTen 308) fuel (n - 308)

/-- A double times a power of ten, unless that is too large for a double. The five steps allowed for bring
any double down to zero. -/
def scaled? (x : Float) (exponent : Int) : Option Float :=
  if x == 0.0 then some x
  else if exponent < 0 then some (shrunk x 5 exponent.natAbs)
  else if 308 < exponent then none
  else
    let y := x * powerOfTen exponent.natAbs
    if y.isInf then none else some y

/-- The number of a literal. Whole numbers of sixty-four bits are kept exact; minus zero is a double. Of
all others the digits that fit in sixty-four bits are taken as a double and moved by a power of ten. -/
def Literal.number? (l : Literal) : Option Number :=
  let (n, surplus) := accumulate 0 l.whole
  let sign (x : Float) : Number := .float (if l.negative then -x else x)
  match l.fraction, l.exponent, surplus with
  | none, none, [] =>
    if l.negative then
      if 0 < n ∧ n ≤ Nat.pow 2 63 then some (.neg (n - 1)) else some (sign n.toUInt64.toFloat)
    else some (.nat n)
  | fraction, exponent, surplus =>
    let ds := fraction.getD []
    let (n, rest) := accumulate n ds
    let shift : Int := (surplus.length : Int) - ((ds.length - rest.length : Nat) : Int)
    let e : Int := match exponent with
      | none => 0
      | some (minus, es) => if minus then -(digitsValue es : Int) else digitsValue es
    (scaled? n.toUInt64.toFloat (shift + e)).map sign

def keyword? (word : List Char) (cs : List Char) : Option (List Char) :=
  if word.isPrefixOf cs then some (cs.drop word.length) else none

namespace Document

mutual
/-- Reads one value and returns what is left of the text, nothing where it broke off. -/
def value : Nat → List Char → Document × Option (List Char)
  | 0, _ => (.broken, none)
  | fuel + 1, cs =>
    match skipBlanks cs with
    | '\x7b' :: rest =>
      match skipBlanks rest with
      | '\x7d' :: rest => (.obj [] true, some rest)
      | rest => let (ms, more) := members fuel rest; (.obj ms more.isSome, more)
    | '[' :: rest =>
      match skipBlanks rest with
      | ']' :: rest => (.arr [] true, some rest)
      | rest => let (ds, more) := items fuel rest; (.arr ds more.isSome, more)
    | '"' :: rest =>
      match quoted rest with
      | .text cs rest => (.str (String.ofList cs), some rest)
      -- half of a surrogate pair: the text goes on, but it has no value
      | .halved rest => (.unreadable, some rest)
      | .broken => (.broken, none)
    | 't' :: rest =>
      match keyword? "rue".toList rest with
      | some rest => (.bool true, some rest)
      | none => (.broken, none)
    | 'f' :: rest =>
      match keyword? "alse".toList rest with
      | some rest => (.bool false, some rest)
      | none => (.broken, none)
    | 'n' :: rest =>
      match keyword? "ull".toList rest with
      | some rest => (.null, some rest)
      | none => (.broken, none)
    | cs =>
      match literal? cs with
      | none => (.broken, none)
      | some (l, rest) =>
        match l.number? with
        | some n => (.num n, some rest)
        | none => (.unreadable, some rest)
/-- The items of an array up to its closing bracket. -/
def items : Nat → List Char → List Document × Option (List Char)
  | 0, _ => ([], none)
  | fuel + 1, cs =>
    match value fuel cs with
    | (d, none) => ([d], none)
    | (d, some rest) =>
      match skipBlanks rest with
      | ']' :: rest => ([d], some rest)
      | ',' :: rest => let (ds, more) := items fuel rest; (d :: ds, more)
      | _ => ([d], none)
def members : Nat → List Char → List (String × Document) × Option (List Char)
  | 0, _ => ([], none)
  | fuel + 1, cs =>
    match skipBlanks cs with
    | '"' :: rest =>
      match quoted rest with
      | .text key rest =>
        let key := String.ofList key
        match skipBlanks rest with
        | ':' :: rest =>
          match value fuel rest with
          | (d, none) => ([(key, d)], none)
          | (d, some rest) =>
            match skipBlanks rest with
            | '\x7d' :: rest => ([(key, d)], some rest)
            | ',' :: rest => let (ms, more) := members fuel rest; ((key, d) :: ms, more)
            | _ => ([(key, d)], none)
        | _ => ([(key, .broken)], none)
      | _ => ([], none)
    | _ => ([], none)
end

/-- Reads the first value of a text. The flag says that nothing but blanks follows it. -/
def read (cs : List Char) : Document × Bool :=
  match value (2 * cs.length + 2) cs with
  | (d, none) => (d, false)
  | (d, some rest) => (d, skipBlanks rest == [])

end Document

/-- How many arrays and objects may stand inside one another. -/
def maxDepth : Nat := 127

def parse? (text : String) : Option Json :=
  match Document.read text.toList with
  | (d, true) => d.toJson? maxDepth
  | (_, false) => none

end Guardrail.Json
