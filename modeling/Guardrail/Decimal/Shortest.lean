/-!
The fewest decimal digits that read back as a given binary floating-point number.

A positive finite number is `m * 2 ^ q`. The reals that round to it form an interval around it, whose
ends belong to it when `m` is even. `Dyadic.shortest` tries one digit, two digits and so on; for each
count it looks at the two neighbours of the number on the decimal grid of that count and takes the first
grid on which one of them lies in the interval.
-/

namespace Guardrail.Decimal

/-- A decimal `digits * 10 ^ exponent`. -/
structure Scientific where
  digits : Nat
  exponent : Int
deriving Repr, DecidableEq

/-- A positive binary number `m * 2 ^ q`. At `narrow` the next number below is half as far away as the
next one above, which happens at the bottom of a binade. -/
structure Dyadic where
  m : Nat
  q : Int
  narrow : Bool
deriving Repr, DecidableEq

namespace Dyadic

def numerator (x : Dyadic) : Nat := x.m * Nat.pow 2 x.q.toNat
def denominator (x : Dyadic) : Nat := Nat.pow 2 (-x.q).toNat

/-- The exponent of the leading decimal digit. The scale keeps every binary64 number above one. -/
def leading (x : Dyadic) : Int :=
  ((Nat.toDigits 10 (x.numerator * Nat.pow 10 400 / x.denominator)).length : Int) - 401

/-- Whether the decimal `d * 10 ^ k` rounds to the number, by comparing four times the distance with
four times the half gap on that side. -/
def covers (x : Dyadic) (d : Nat) (k : Int) : Bool :=
  let scale := Nat.pow 10 k.toNat
  let unscale := Nat.pow 10 (-k).toNat
  let point := d * scale * x.denominator
  let value := x.numerator * unscale
  -- one unit in the last binary place, over the common denominator
  let unit := Nat.pow 2 x.q.toNat * unscale
  let above := point > value
  let distance := 4 * (if above then point - value else value - point)
  let halfGap := if above then 2 * unit else if x.narrow then unit else 2 * unit
  if x.m % 2 = 0 then distance ≤ halfGap else distance < halfGap

/-- The better of the two neighbours on the grid of step `10 ^ k`, if one of them reads back. Of two
that do the nearer is taken, and of two equally near the upper one. -/
def onGrid? (x : Dyadic) (k : Int) : Option Scientific :=
  let den := x.denominator * Nat.pow 10 k.toNat
  let num := x.numerator * Nat.pow 10 (-k).toNat
  let low := num / den
  let lowOk := low ≠ 0 ∧ x.covers low k
  let highOk := x.covers (low + 1) k
  let lowNearer := 2 * (num % den) < den
  if lowOk ∧ (lowNearer ∨ ¬ highOk) then some ⟨low, k⟩
  else if highOk then some ⟨low + 1, k⟩
  else none

/-- The first grid, from one digit on, that holds a decimal which reads back. -/
def search (x : Dyadic) (top : Int) : Nat → Nat → Scientific
  | 0, _ => ⟨0, 0⟩
  | fuel + 1, n =>
    match x.onGrid? (top - n) with
    | some s => s
    | none => search x top fuel (n + 1)

def shortest (x : Dyadic) : Scientific := x.search x.leading 20 0

end Dyadic

namespace Scientific

def strip (s : Scientific) : Nat → Scientific
  | 0 => s
  | fuel + 1 => if s.digits ≠ 0 ∧ s.digits % 10 = 0 then strip ⟨s.digits / 10, s.exponent + 1⟩ fuel else s

def normalize (s : Scientific) : Scientific := s.strip (Nat.toDigits 10 s.digits).length

end Scientific

/-- What a floating-point number is, for writing it. -/
inductive Parts where
  | nan
  | infinite (negative : Bool)
  | zero (negative : Bool)
  | finite (negative : Bool) (value : Dyadic)
deriving Repr, DecidableEq

/-- Splits a bit pattern with `mantissa` fraction bits and `width` exponent bits. -/
def Parts.ofBits (mantissa width : Nat) (bits : Nat) : Parts :=
  let fraction := bits % Nat.pow 2 mantissa
  let power := bits / Nat.pow 2 mantissa % Nat.pow 2 width
  let negative := bits / Nat.pow 2 (mantissa + width) % 2 = 1
  let low : Int := 2 - Nat.pow 2 (width - 1) - mantissa
  if power = Nat.pow 2 width - 1 then
    if fraction = 0 then .infinite negative else .nan
  else if power = 0 then
    if fraction = 0 then .zero negative else .finite negative ⟨fraction, low, false⟩
  else .finite negative ⟨Nat.pow 2 mantissa + fraction, low + (power - 1 : Nat), fraction = 0 && power > 1⟩

def Parts.ofFloat (x : Float) : Parts := .ofBits 52 11 x.toBits.toNat
def Parts.ofFloat32 (x : Float32) : Parts := .ofBits 23 8 x.toBits.toNat

end Guardrail.Decimal
