import Guardrail.Decimal.Text

/-!
The numbers that risk is computed in.

All arithmetic on risk is written once over `Scalar`. It runs on doubles; read over the rationals, the same
definitions obey the exact laws of arithmetic.
-/

namespace Guardrail

/-- A type of numbers with the operations that risk arithmetic uses. -/
class Scalar (ν : Type) extends Add ν, Sub ν, Mul ν, Div ν, Neg ν, LT ν, LE ν, BEq ν where
  /-- Whole numbers. -/
  ofNat : Nat → ν
  /-- `m / 10 ^ e`. -/
  decimal : (m e : Nat) → ν
  decLt : DecidableLT ν
  decLe : DecidableLE ν
  /-- Not a number at all. -/
  isNaN : ν → Bool
  /-- Neither infinite nor not a number. -/
  isFinite : ν → Bool
  /-- How messages write it. -/
  text : ν → String
  /-- How explanations write it, with two places. -/
  brief : ν → String

namespace Scalar

variable {ν : Type} [Scalar ν]

instance (n : Nat) : OfNat ν n := ⟨Scalar.ofNat n⟩
instance : DecidableLT ν := Scalar.decLt
instance : DecidableLE ν := Scalar.decLe

def sum (xs : List ν) : ν := xs.foldl (· + ·) (-0)

/-- The larger of two numbers; one that is not a number loses. -/
def max (a b : ν) : ν := if isNaN a then b else if isNaN b then a else if a < b then b else a

/-- The smaller of two numbers; one that is not a number loses. -/
def min (a b : ν) : ν := if isNaN a then b else if isNaN b then a else if b < a then b else a

def abs (a : ν) : ν := if a < 0 then -a else a

/-- Brings a number into `[0, 1]`; what is not a number becomes zero. -/
def clampUnit (x : ν) : ν := if isNaN x then 0 else if x < 0 then 0 else if 1 < x then 1 else x

end Scalar

instance : Scalar Float where
  ofNat := Float.ofNat
  decimal m e := Float.ofScientific m true e
  decLt := inferInstance
  decLe := inferInstance
  isNaN := Float.isNaN
  isFinite := Float.isFinite
  text := Decimal.Style.plain.write
  brief := Decimal.fixed 2

end Guardrail
