import Guardrail.Json.Document

/-!
Words without quotes, read as what is asked for.
-/

namespace Guardrail.Decode.Plain

def isNull (s : String) : Bool := ["", "~", "null", "Null", "NULL"].contains s

def boolean? (s : String) : Option Bool :=
  if ["true", "True", "TRUE"].contains s then some true
  else if ["false", "False", "FALSE"].contains s then some false
  else none

def digit? (base : Nat) (c : Char) : Option Nat :=
  let n := if c.isDigit then c.toNat - 48
    else if 'a' ≤ c && c ≤ 'z' then c.toNat - 87
    else if 'A' ≤ c && c ≤ 'Z' then c.toNat - 55
    else base
  if n < base then some n else none

/-- The value of a run of digits, which has to have one at least. -/
def digits? (base : Nat) (cs : List Char) : Option Nat :=
  if cs.isEmpty then none else cs.foldlM (fun n c => (digit? base c).map (base * n + ·)) 0

def unplussed : List Char → List Char
  | '+' :: rest => rest
  | cs => cs

/-- A whole number from zero on: decimal without a zero in front, or in base sixteen, eight or two. -/
def natural? (s : String) : Option Nat :=
  let cs := unplussed s.toList
  match cs with
  | '0' :: 'x' :: rest => digits? 16 rest
  | '0' :: 'o' :: rest => digits? 8 rest
  | '0' :: 'b' :: rest => digits? 2 rest
  | '0' :: _ :: _ => none
  | cs => digits? 10 cs

/-- A decimal number without sign: digits with a point, and an exponent. One that is too large for a double is
infinite. -/
def magnitude? (cs : List Char) : Option Float := do
  let whole := cs.takeWhile Char.isDigit
  let cs := cs.dropWhile Char.isDigit
  let (fraction, cs) := match cs with
    | '.' :: rest => (rest.takeWhile Char.isDigit, rest.dropWhile Char.isDigit)
    | cs => ([], cs)
  guard (!(whole.isEmpty && fraction.isEmpty))
  let exponent : Int ← match cs with
    | [] => some 0
    | c :: rest =>
      if c == 'e' || c == 'E' then
        match rest with
        | '-' :: ds => (digits? 10 ds).map fun n => -(n : Int)
        | '+' :: ds => (digits? 10 ds).map Int.ofNat
        | ds => (digits? 10 ds).map Int.ofNat
      else none
  let digits ← digits? 10 (whole ++ fraction)
  let exponent := exponent - fraction.length
  pure <|
    if digits = 0 || exponent + (Nat.toDigits 10 digits).length < -400 then 0.0
    else if 400 < exponent then 1.0 / 0.0
    else if 0 ≤ exponent then Float.ofScientific (digits * Nat.pow 10 exponent.toNat) false 0
    else Float.ofScientific digits true (-exponent).toNat

/-- A decimal number without sign that a double can hold. -/
def decimal? (cs : List Char) : Option Float := (magnitude? cs).filter fun x => !x.isInf

/-- A number; infinity and what is not a number have words of their own. -/
def number? (s : String) : Option Float :=
  if [".inf", ".Inf", ".INF", "+.inf", "+.Inf", "+.INF"].contains s then some (1.0 / 0.0)
  else if ["-.inf", "-.Inf", "-.INF"].contains s then some (-1.0 / 0.0)
  else if [".nan", ".NaN", ".NAN"].contains s then some (0.0 / 0.0)
  else match s.toList with
    | '-' :: rest => (decimal? rest).map fun x => -x
    | cs => decimal? (unplussed cs)

end Guardrail.Decode.Plain
