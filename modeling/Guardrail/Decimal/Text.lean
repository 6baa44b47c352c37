import Guardrail.Decimal.Shortest

/-!
Writing floating-point numbers.

Three written forms occur: `plain` in messages, `exact` in documents, and a fixed number of places in
explanations. The first two write the shortest digits and differ in when an exponent is used; the third
rounds the exact value, a half going to the even neighbour.
-/

namespace Guardrail.Decimal

/-- How the shortest digits are laid out. -/
structure Style where
  /-- Leading-digit exponents below this one are written with an exponent. -/
  least : Option Int
  /-- Leading-digit exponents from this one on are written with an exponent. -/
  limit : Option Int
  /-- Whole numbers keep `.0`. -/
  point : Bool
  /-- The mark in front of a positive exponent. -/
  plus : String
  /-- The word for not-a-number. -/
  nan : String
  /-- The word for infinity. -/
  infinity : String

/-- Messages never use an exponent and write whole numbers without a point. -/
def Style.plain : Style := ⟨none, none, false, "", "NaN", "inf"⟩

/-- JSON documents write every number so that it stays a fraction, from `0.00001` up to ten to the
sixteenth positionally. A number that is not finite is `null`. -/
def Style.json : Style := ⟨some (-5), some 16, true, "+", "null", "null"⟩

/-- YAML documents lay numbers out like JSON, but for the sign of the exponent and the numbers that are
not finite. -/
def Style.yaml : Style := ⟨some (-5), some 16, true, "", ".nan", ".inf"⟩

/-- `digits * 10 ^ exponent` without an exponent mark. -/
def positional (point : Bool) (s : Scientific) : String :=
  let ds := Nat.toDigits 10 s.digits
  if 0 ≤ s.exponent then
    String.ofList (ds ++ List.replicate s.exponent.toNat '0') ++ (if point then ".0" else "")
  else
    let places := (-s.exponent).toNat
    if places < ds.length then
      String.ofList (ds.take (ds.length - places)) ++ "." ++ String.ofList (ds.drop (ds.length - places))
    else
      "0." ++ String.ofList (List.replicate (places - ds.length) '0' ++ ds)

/-- One digit, the others after a point, and the exponent of the first. -/
def scientific (plus : String) (s : Scientific) : String :=
  let ds := Nat.toDigits 10 s.digits
  let e := s.exponent + (ds.length - 1 : Nat)
  let head := String.ofList (ds.take 1)
  let tail := if ds.length ≤ 1 then "" else "." ++ String.ofList (ds.drop 1)
  let sign := if e < 0 then "-" else plus
  head ++ tail ++ "e" ++ sign ++ toString e.natAbs

/-- The digits in a style, without sign. -/
def Style.digits (st : Style) (s : Scientific) : String :=
  let s := s.normalize
  let lead := s.exponent + ((Nat.toDigits 10 s.digits).length - 1 : Nat)
  let small := match st.least with | some b => lead < b | none => false
  let large := match st.limit with | some b => b ≤ lead | none => false
  if small || large then scientific st.plus s else positional st.point s

def Style.parts (st : Style) : Parts → String
  | .nan => st.nan
  | .infinite neg => if neg && st.infinity != "null" then "-" ++ st.infinity else st.infinity
  | .zero neg => (if neg then "-" else "") ++ (if st.point then "0.0" else "0")
  | .finite neg v => (if neg then "-" else "") ++ st.digits v.shortest

def Style.write (st : Style) (x : Float) : String := st.parts (.ofFloat x)

def ofSingle (x : Float32) : Float :=
  match Parts.ofFloat32 x with
  | .finite negative v =>
    let s := v.shortest
    let y := if 0 ≤ s.exponent then Float.ofScientific (s.digits * Nat.pow 10 s.exponent.toNat) false 0
      else Float.ofScientific s.digits true (-s.exponent).toNat
    if negative then -y else y
  | _ => x.toFloat

/-- `num / den` to the nearest natural number, a half to the even one. -/
def roundDiv (num den : Nat) : Nat :=
  let low := num / den
  let twice := 2 * (num % den)
  if twice < den then low
  else if twice = den then (if low % 2 = 0 then low else low + 1)
  else low + 1

/-- `n / 10 ^ places`, written with that many places. -/
def withPlaces (places n : Nat) : String :=
  if places = 0 then toString n
  else
    let ds := Nat.toDigits 10 n
    let ds := List.replicate (places + 1 - ds.length) '0' ++ ds
    String.ofList (ds.take (ds.length - places)) ++ "." ++ String.ofList (ds.drop (ds.length - places))

def fixed (places : Nat) (x : Float) : String :=
  match Parts.ofFloat x with
  | .nan => "NaN"
  | .infinite neg => if neg then "-inf" else "inf"
  | .zero neg => (if neg then "-" else "") ++ withPlaces places 0
  | .finite neg v =>
    (if neg then "-" else "") ++ withPlaces places (roundDiv (v.numerator * Nat.pow 10 places) v.denominator)

end Guardrail.Decimal
