import Guardrail.Scalar
import Mathlib

/-!
The order of the numbers that risk is computed in.

Numbers that are not NaN are compared by a key, so that they form a linear preorder; NaN compares
with nothing. What follows from this for `Scalar.clampUnit` holds of every such type of numbers.
-/

namespace Guardrail

/-- The laws of order that scores rely on. -/
class Scalar.Ordered (ν : Type) [Scalar ν] : Prop where
  le_trans : ∀ {a b c : ν}, a ≤ b → b ≤ c → a ≤ c
  le_or_le : ∀ {a b : ν}, Scalar.isNaN a = false → Scalar.isNaN b = false → a ≤ b ∨ b ≤ a
  lt_iff : ∀ {a b : ν}, a < b ↔ a ≤ b ∧ ¬ b ≤ a
  isNaN_of_le : ∀ {a b : ν}, a ≤ b → Scalar.isNaN a = false ∧ Scalar.isNaN b = false
  zero_lt_one : (0 : ν) < 1

namespace Scalar

open Ordered

variable {ν : Type} [Scalar ν] [Ordered ν] {a b c x : ν}

lemma le_of_lt (h : a < b) : a ≤ b := (lt_iff.mp h).1

lemma not_lt_of_le (h : a ≤ b) : ¬ b < a := fun hlt => (lt_iff.mp hlt).2 h

lemma lt_of_lt_of_le (hab : a < b) (hbc : b ≤ c) : a < c := by
  obtain ⟨hle, hnot⟩ := lt_iff.mp hab
  exact lt_iff.mpr ⟨le_trans hle hbc, fun hca => hnot (le_trans hbc hca)⟩

lemma lt_of_le_of_lt (hab : a ≤ b) (hbc : b < c) : a < c := by
  obtain ⟨hle, hnot⟩ := lt_iff.mp hbc
  exact lt_iff.mpr ⟨le_trans hab hle, fun hca => hnot (le_trans hca hab)⟩

lemma lt_trans (hab : a < b) (hbc : b < c) : a < c := lt_of_lt_of_le hab (le_of_lt hbc)

lemma le_of_not_lt (ha : isNaN a = false) (hb : isNaN b = false) (h : ¬ a < b) : b ≤ a := by
  rcases le_or_le ha hb with hab | hba
  · by_contra hba
    exact h (lt_iff.mpr ⟨hab, hba⟩)
  · exact hba

/-- A number lies on one side of a bound. -/
lemma lt_iff_not_le (ha : isNaN a = false) (hb : isNaN b = false) : a < b ↔ ¬ b ≤ a :=
  ⟨fun h hle => not_lt_of_le hle h, fun h => by_contra fun hlt => h (le_of_not_lt ha hb hlt)⟩

lemma le_refl (h : isNaN a = false) : a ≤ a := (le_or_le h h).elim id id

lemma zero_le_one : (0 : ν) ≤ 1 := le_of_lt zero_lt_one

/-- Whatever goes in, a clamped number lies in `[0, 1]`. -/
lemma clampUnit_mem (x : ν) : 0 ≤ clampUnit x ∧ clampUnit x ≤ 1 := by
  obtain ⟨h0, h1⟩ := isNaN_of_le (zero_le_one (ν := ν))
  unfold clampUnit
  split
  · exact ⟨le_refl h0, zero_le_one⟩
  · next hx =>
    simp only [Bool.not_eq_true] at hx
    split
    · exact ⟨le_refl h0, zero_le_one⟩
    · next hlow =>
      split
      · exact ⟨zero_le_one, le_refl h1⟩
      · next hhigh => exact ⟨le_of_not_lt hx h0 hlow, le_of_not_lt h1 hx hhigh⟩

lemma clampUnit_of_mem (h0 : 0 ≤ x) (h1 : x ≤ 1) : clampUnit x = x := by
  simp [clampUnit, (isNaN_of_le h0).2, not_lt_of_le h0, not_lt_of_le h1]

@[simp] lemma clampUnit_clampUnit (x : ν) : clampUnit (clampUnit x) = clampUnit x :=
  clampUnit_of_mem (clampUnit_mem x).1 (clampUnit_mem x).2

end Scalar

/-! ### Doubles -/

namespace Double

open Float.Model

/-- What numbers are compared by: sign and kind, then exponent, then mantissa. -/
def key : UnpackedFloat → Option (ℤ ×ₗ ℤ ×ₗ ℤ)
  | .notANumber => none
  | .infinity .negative => some (toLex (-2, toLex (0, 0)))
  | .finite .negative m e _ => some (toLex (-1, toLex (-e, -(m : ℤ))))
  | .zero _ => some (toLex (0, toLex (0, 0)))
  | .finite .positive m e _ => some (toLex (1, toLex (e, (m : ℤ))))
  | .infinity .positive => some (toLex (2, toLex (0, 0)))

lemma compare_toLex {α β : Type} [LinearOrder α] [LinearOrder β] (a c : α) (b d : β) :
    compare (toLex (a, b)) (toLex (c, d)) = (compare a c).then (compare b d) := by
  simp [Prod.Lex.compare_def, compareLex, compareOn]

lemma compare_neg (a b : ℤ) : compare (-a) (-b) = (compare a b).swap := by
  rw [Std.OrientedOrd.eq_swap (a := -a)]
  congr 1
  rcases lt_trichotomy a b with h | rfl | h
  · rw [compare_lt_iff_lt.mpr h, compare_lt_iff_lt.mpr (by omega)]
  · simp
  · rw [compare_gt_iff_gt.mpr h, compare_gt_iff_gt.mpr (by omega)]

lemma compare_cast (m n : ℕ) : compare (m : ℤ) (n : ℤ) = compare m n := by
  rcases lt_trichotomy m n with h | rfl | h
  · rw [compare_lt_iff_lt.mpr h, compare_lt_iff_lt.mpr (by omega)]
  · simp
  · rw [compare_gt_iff_gt.mpr h, compare_gt_iff_gt.mpr (by omega)]

/-- The comparison of doubles is that of their keys. -/
lemma compare_eq (u v : UnpackedFloat) :
    u.compare v = (key u).bind fun x => (key v).map fun y => compare x y := by
  -- only two finite numbers of one sign are told apart by more than sign and kind
  rcases u with (_ | _) | _ | _ | ⟨_ | _, m, e, hm⟩ <;>
    rcases v with (_ | _) | _ | _ | ⟨_ | _, n, f, hn⟩ <;>
    first
    | rfl
    | simp [key, UnpackedFloat.compare, compare_toLex, compare_neg, compare_cast,
        Ordering.swap_then]

lemma le_iff {a b : Float} : a ≤ b ↔
    ∃ x y, key a.toModel.unpack = some x ∧ key b.toModel.unpack = some y ∧ x ≤ y := by
  have hdef : a ≤ b ↔ (a.toModel.unpack.compare b.toModel.unpack).any Ordering.isLE = true :=
    decide_eq_true_iff
  rw [hdef, compare_eq]
  cases key a.toModel.unpack <;> cases key b.toModel.unpack <;>
    simp [Ordering.isLE_iff_ne_gt, compare_le_iff_le]

lemma lt_iff {a b : Float} : a < b ↔
    ∃ x y, key a.toModel.unpack = some x ∧ key b.toModel.unpack = some y ∧ x < y := by
  have hdef : a < b ↔ (a.toModel.unpack.compare b.toModel.unpack == some .lt) = true :=
    decide_eq_true_iff
  rw [hdef, compare_eq]
  cases key a.toModel.unpack <;> cases key b.toModel.unpack <;> simp [compare_lt_iff_lt]

lemma isNaN_iff {a : Float} : a.isNaN = false ↔ ∃ x, key a.toModel.unpack = some x := by
  change a.toModel.unpack.isNaN = false ↔ _
  rcases a.toModel.unpack with (_ | _) | _ | _ | ⟨_ | _, m, e, hm⟩ <;>
    simp [key, UnpackedFloat.isNaN]

/-- What lies between finite bounds is finite. -/
lemma isFinite_of_mem_unit {x : Float} (h0 : 0 ≤ x) (h1 : x ≤ 1) : x.isFinite = true := by
  obtain ⟨z, k, hz, hk, hzk⟩ := le_iff.mp h0
  obtain ⟨k', o, hk', ho, hko⟩ := le_iff.mp h1
  obtain rfl : k = k' := Option.some.inj (hk.symm.trans hk')
  obtain rfl : toLex (0, toLex (0, 0)) = z := Option.some.inj hz
  obtain rfl : toLex (1, toLex (-52, 4503599627370496)) = o := Option.some.inj ho
  change x.toModel.unpack.isFinite = true
  revert hk
  rcases x.toModel.unpack with (_ | _) | _ | _ | ⟨_ | _, m, e, hm⟩ <;> rintro ⟨⟩
  · exact absurd hzk (by decide)
  · exact absurd hko (by decide)
  all_goals rfl

end Double

instance : Scalar.Ordered Float where
  le_trans := by
    intro a b c hab hbc
    obtain ⟨x, y, hx, hy, hxy⟩ := Double.le_iff.mp hab
    obtain ⟨y', z, hy', hz, hyz⟩ := Double.le_iff.mp hbc
    obtain rfl : y = y' := Option.some.inj (hy.symm.trans hy')
    exact Double.le_iff.mpr ⟨x, z, hx, hz, hxy.trans hyz⟩
  le_or_le := by
    intro a b ha hb
    obtain ⟨x, hx⟩ := Double.isNaN_iff.mp ha
    obtain ⟨y, hy⟩ := Double.isNaN_iff.mp hb
    exact (le_total x y).imp (fun h => Double.le_iff.mpr ⟨x, y, hx, hy, h⟩)
      fun h => Double.le_iff.mpr ⟨y, x, hy, hx, h⟩
  lt_iff := by
    intro a b
    rw [Double.lt_iff, Double.le_iff, Double.le_iff]
    constructor
    · rintro ⟨x, y, hx, hy, hxy⟩
      refine ⟨⟨x, y, hx, hy, hxy.le⟩, ?_⟩
      rintro ⟨y', x', hy', hx', hyx⟩
      obtain rfl : y = y' := Option.some.inj (hy.symm.trans hy')
      obtain rfl : x = x' := Option.some.inj (hx.symm.trans hx')
      exact absurd hxy hyx.not_gt
    · rintro ⟨⟨x, y, hx, hy, -⟩, hnot⟩
      exact ⟨x, y, hx, hy, lt_of_not_ge fun h => hnot ⟨y, x, hy, hx, h⟩⟩
  isNaN_of_le := by
    intro a b hab
    obtain ⟨x, y, hx, hy, -⟩ := Double.le_iff.mp hab
    exact ⟨Double.isNaN_iff.mpr ⟨x, hx⟩, Double.isNaN_iff.mpr ⟨y, hy⟩⟩
  zero_lt_one := by decide +kernel

end Guardrail
