import Guardrail.Proofs.Acceptance

/-!
Risk in exact numbers.

The arithmetic of risk is written for any `Scalar`. Over the rationals nothing is rounded, and every
operation is that of the ordered field.
-/

namespace Guardrail

/-- Exact numbers. Each is finite; messages write it as a fraction. -/
instance : Scalar ℚ where
  ofNat n := n
  decimal m e := m / 10 ^ e
  decLt := inferInstance
  decLe := inferInstance
  isNaN _ := false
  isFinite _ := true
  text := toString
  brief := toString

instance : Scalar.Ordered ℚ where
  le_trans := le_trans
  le_or_le := fun _ _ => le_total _ _
  lt_iff := lt_iff_le_not_ge
  isNaN_of_le := fun _ => ⟨rfl, rfl⟩
  zero_lt_one := by decide +kernel

namespace Scalar

lemma sum_exact (xs : List ℚ) : Scalar.sum xs = xs.sum := by
  rw [List.sum_eq_foldl]
  exact congrArg (fun start : ℚ => xs.foldl (· + ·) start) neg_zero

lemma clampUnit_exact (x : ℚ) : clampUnit x = 0 ⊔ x ⊓ 1 := by
  calc clampUnit x = if x < 0 then 0 else if 1 < x then 1 else x := rfl
    _ = 0 ⊔ x ⊓ 1 := by
      split_ifs with h0 h1
      · rw [sup_eq_left.mpr (inf_le_left.trans h0.le)]
      · rw [inf_eq_right.mpr h1.le, sup_eq_right.mpr zero_le_one]
      · rw [inf_eq_left.mpr (not_lt.mp h1), sup_eq_right.mpr (not_lt.mp h0)]

lemma clampUnit_mono {x y : ℚ} (h : x ≤ y) : clampUnit x ≤ clampUnit y := by
  rw [clampUnit_exact, clampUnit_exact]
  exact sup_le_sup_left (inf_le_inf_right 1 h) 0

end Scalar

end Guardrail
