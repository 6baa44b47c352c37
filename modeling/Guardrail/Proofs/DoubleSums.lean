import Guardrail.Proofs.DoubleOrder

/-!
Sums and products of doubles that are not negative.

Rounding changes a result, but not its sign; and what is at least one half before it is rounded is so afterwards.
Hence a sum that begins with one half never falls below it, whatever is added that is not negative.
-/

namespace Guardrail.Double

open Float.Model
open UnpackedFloat (Sign Accuracy ExtendedMantissa decreaseExponent shiftToExponent shiftToTargetExponent
  roundWithAccuracy packComponents unpackMantissa_packComponents unpackExponent_packComponents unpackSign_packComponents)

/-! ### Two lower bounds -/

/-- Not below zero. -/
inductive NonNeg : UnpackedFloat → Prop
  | zero (s : Sign) : NonNeg (.zero s)
  | finite (m : ℕ) (e : ℤ) (h : 0 < m) : NonNeg (.finite .positive m e h)
  | infinity : NonNeg (.infinity .positive)

/-- Not below one half, with a mantissa of full length. -/
inductive FromHalf : UnpackedFloat → Prop
  | finite (m : ℕ) (e : ℤ) (h : 0 < m) (hm : m.log2 = 52) (he : -53 ≤ e) : FromHalf (.finite .positive m e h)
  | infinity : FromHalf (.infinity .positive)

lemma zero_le_iff {x : Float} : 0 ≤ x ↔ NonNeg x.toModel.unpack := by
  have hzero : key (0 : Float).toModel.unpack = some (toLex (0, toLex (0, 0))) := rfl
  rw [le_iff, hzero]
  generalize x.toModel.unpack = u
  constructor
  · rintro ⟨z, k, hz, hk, hzk⟩
    obtain rfl := Option.some.inj hz
    rcases u with (_ | _) | _ | _ | ⟨_ | _, m, e, hm⟩ <;> cases hk
    · exact absurd hzk (by decide)
    · exact .infinity
    · exact .zero _
    · exact absurd hzk (by simp [Prod.Lex.toLex_le_toLex])
    · exact .finite m e hm
  · intro h
    cases h <;> exact ⟨_, _, rfl, rfl, by simp [Prod.Lex.toLex_le_toLex]⟩

lemma half_le_of_fromHalf {x : Float} (h : FromHalf x.toModel.unpack) : 0.5 ≤ x := by
  have hhalf : key (0.5 : Float).toModel.unpack = some (toLex (1, toLex (-53, 4503599627370496))) := rfl
  rw [le_iff, hhalf]
  generalize x.toModel.unpack = u at h
  cases h with
  | infinity => exact ⟨_, _, rfl, rfl, by decide⟩
  | finite m e h hm he =>
    refine ⟨_, _, rfl, rfl, ?_⟩
    have hlow : 4503599627370496 ≤ m := (Nat.le_log2 h.ne').mp hm.ge
    simp only [Prod.Lex.toLex_le_toLex, true_and]
    omega

/-! ### Rounding -/

section

variable {u : UnpackedFloat}

/-- An exponent that is in range is not the one kept for what is not finite. -/
lemma ofNat_ne_allOnes {b : ℕ} (h : ¬ 2 ^ 11 ≤ b + 1) : BitVec.ofNat 11 b ≠ -1#11 := by
  intro heq
  have hnat := congrArg BitVec.toNat heq
  simp only [BitVec.toNat_ofNat, BitVec.toNat_neg] at hnat
  omega

lemma nonNeg_unpack_packComponents (e : BitVec 11) (m : BitVec 52) (he : e ≠ -1#11) :
    NonNeg (UnpackedFloat.unpack .binary64 (packComponents .binary64 .positive e m)) := by
  unfold UnpackedFloat.unpack
  simp only [unpackMantissa_packComponents, unpackExponent_packComponents, unpackSign_packComponents,
    Sign.ofBitVec_toBitVec]
  rw [if_neg he]
  split_ifs <;> constructor

lemma fromHalf_unpack_packComponents (e : BitVec 11) (m : BitVec 52) (he : e ≠ -1#11) (hlow : 1022 ≤ e.toNat) :
    FromHalf (UnpackedFloat.unpack .binary64 (packComponents .binary64 .positive e m)) := by
  have hzero : e ≠ 0#11 := by
    rintro rfl
    simp at hlow
  have hmantissa : (1#1 ++ m).toNat = 2 ^ 52 + m.toNat := by
    rw [BitVec.toNat_append, ← Nat.shiftLeft_add_eq_or_of_lt m.isLt]
    rfl
  unfold UnpackedFloat.unpack
  simp only [unpackMantissa_packComponents, unpackExponent_packComponents, unpackSign_packComponents,
    Sign.ofBitVec_toBitVec]
  rw [if_neg he, if_neg hzero]
  refine .finite _ _ _ ?_ ?_
  · rw [hmantissa, Nat.log2_eq_iff (by omega)]
    omega
  · simp only [Format.exponentBias]
    omega

lemma NonNeg.unpack_pack (h : NonNeg u) : NonNeg (UnpackedFloat.unpack .binary64 (UnpackedFloat.pack .binary64 u)) := by
  cases h with
  | infinity => exact .infinity
  | zero s => cases s <;> exact .zero _
  | finite m e h =>
    unfold UnpackedFloat.pack
    dsimp only
    split_ifs with hlarge
    · exact .infinity
    · exact nonNeg_unpack_packComponents _ _ (ofNat_ne_allOnes hlarge)
    · exact nonNeg_unpack_packComponents _ _ (by decide)

lemma FromHalf.unpack_pack (h : FromHalf u) :
    FromHalf (UnpackedFloat.unpack .binary64 (UnpackedFloat.pack .binary64 u)) := by
  cases h with
  | infinity => exact .infinity
  | finite m e h hm he =>
    unfold UnpackedFloat.pack
    dsimp only
    split_ifs with hlarge hfull
    · exact .infinity
    · refine fromHalf_unpack_packComponents _ _ (ofNat_ne_allOnes hlarge) ?_
      change ¬ 2 ^ 11 ≤ (e + 1023 + 52).toNat + 1 at hlarge
      change 1022 ≤ (e + 1023 + 52).toNat % 2 ^ 11
      omega
    · exact absurd (congrArg (· + 1) hm) hfull

/-! ### Rounding -/

lemma nonNeg_roundWithAccuracy (m : ℕ) (e : ℤ) (a : Accuracy) :
    NonNeg (roundWithAccuracy .binary64 .positive m e a) := by
  unfold roundWithAccuracy
  dsimp only
  split_ifs <;> constructor

lemma nonNeg_normalize {m : ℤ} (h : 0 ≤ m) (e : ℤ) : NonNeg (UnpackedFloat.normalize .binary64 m e .positive) := by
  unfold UnpackedFloat.normalize
  split
  · next hneg => exact absurd (Int.compare_eq_lt.mp hneg) (by omega)
  · exact .zero _
  · exact nonNeg_roundWithAccuracy _ _ _

lemma mantissa_shiftRight (x : ExtendedMantissa) (n : ℕ) : (x >>> n).mantissa = x.mantissa / 2 ^ n := by
  change (n.repeat ExtendedMantissa.shiftRightOne x).mantissa = _
  induction n with
  | zero => simp [Nat.repeat]
  | succ n ih => rw [Nat.repeat, pow_succ, ← Nat.div_div_eq_div_mul, ← ih]; rfl

lemma le_roundedMantissa (x : ExtendedMantissa) : x.mantissa ≤ x.roundedMantissa := by
  unfold ExtendedMantissa.roundedMantissa Accuracy.roundToNearestEven
  split <;> omega

lemma log2_shiftLeft {m : ℕ} (h : 0 < m) (k : ℕ) : (m <<< k).log2 = m.log2 + k := by
  induction k with
  | zero => rfl
  | succ k ih => rw [Nat.shiftLeft_succ, Nat.log2_two_mul (by simp [Nat.shiftLeft_eq]; omega), ih, Nat.add_assoc]

lemma targetExponent_eq {t : ℤ} (h : 0 ≤ t) : Format.targetExponent .binary64 t = t - 53 := by
  change max (t - 53) (-1074) = t - 53
  omega

/-- Shortening the mantissa of a number from one half on leaves its full length. -/
lemma log2_shiftToTargetExponent {m : ℕ} {e : ℤ} (hhalf : 0 ≤ totalExponent m e) (hlong : 52 ≤ m.log2) (a : Accuracy) :
    (shiftToTargetExponent .binary64 m e a).1.mantissa.log2 = 52 ∧
    (shiftToTargetExponent .binary64 m e a).2 = totalExponent m e - 53 := by
  have hshift : (totalExponent m e - 53 - e).toNat = m.log2 - 52 := by
    unfold totalExponent
    omega
  have hstart : (ExtendedMantissa.ofMantissaAndAccuracy m a).mantissa = m := by
    unfold ExtendedMantissa.ofMantissaAndAccuracy
    split <;> rfl
  unfold shiftToTargetExponent shiftToExponent
  simp only [targetExponent_eq hhalf, hshift, mantissa_shiftRight, hstart]
  constructor
  · rw [Nat.log2_eq_log_two, Nat.log_div_base_pow, ← Nat.log2_eq_log_two]
    omega
  · unfold totalExponent
    omega

lemma fromHalf_roundWithAccuracy {m : ℕ} {e : ℤ} (hhalf : 0 ≤ totalExponent m e) (hlong : 52 ≤ m.log2) (a : Accuracy) :
    FromHalf (roundWithAccuracy .binary64 .positive m e a) := by
  obtain ⟨hlog, hexp⟩ := log2_shiftToTargetExponent hhalf hlong a
  generalize hfirst : shiftToTargetExponent .binary64 m e a = first at hlog hexp
  -- rounding up may carry, so that the mantissa is shortened once more
  have hrounded : 52 ≤ first.1.roundedMantissa.log2 := by
    rw [← hlog, Nat.log2_eq_log_two, Nat.log2_eq_log_two]
    exact Nat.log_mono_right (le_roundedMantissa _)
  have hhalf' : 0 ≤ totalExponent first.1.roundedMantissa first.2 := by
    rw [hexp, totalExponent]
    omega
  obtain ⟨hlog', hexp'⟩ := log2_shiftToTargetExponent hhalf' hrounded .exact
  unfold roundWithAccuracy
  simp only [hfirst]
  rw [dif_neg]
  · refine .finite _ _ _ hlog' ?_
    rw [hexp']
    omega
  · intro hzero
    rw [hzero] at hlog'
    exact absurd hlog' (by decide)

lemma fromHalf_normalize {m e : ℤ} (hpos : 0 < m) (hhalf : 0 ≤ totalExponent m.toNat e) :
    FromHalf (UnpackedFloat.normalize .binary64 m e .positive) := by
  have hlog := log2_shiftLeft (m := m.toNat) (by omega)
    (e - (totalExponent m.toNat e - 53)).toNat
  unfold UnpackedFloat.normalize
  rw [Int.compare_eq_gt.mpr hpos]
  simp only [UnpackedFloat.round, targetExponent_eq hhalf, decreaseExponent]
  unfold totalExponent at *
  refine fromHalf_roundWithAccuracy ?_ ?_ _
  · unfold totalExponent
    omega
  · omega

/-! ### Sums and products -/

lemma NonNeg.finite_mul (h : NonNeg u) {m : ℕ} {e : ℤ} (hm : 0 < m) :
    NonNeg (UnpackedFloat.mul .binary64 (.finite .positive m e hm) u) := by
  cases h with
  | zero s => exact .zero _
  | infinity => exact .infinity
  | finite _ _ _ => exact nonNeg_roundWithAccuracy _ _ _

lemma NonNeg.mul_finite (h : NonNeg u) {m : ℕ} {e : ℤ} (hm : 0 < m) :
    NonNeg (UnpackedFloat.mul .binary64 u (.finite .positive m e hm)) := by
  cases h with
  | zero s => exact .zero _
  | infinity => exact .infinity
  | finite _ _ _ => exact nonNeg_roundWithAccuracy _ _ _

lemma FromHalf.add {v : UnpackedFloat} (hu : FromHalf u) (hv : NonNeg v) :
    FromHalf (UnpackedFloat.add .binary64 u v) := by
  cases hu with
  | infinity => cases hv <;> exact .infinity
  | finite m e h hm he =>
    cases hv with
    | zero s => exact .finite m e h hm he
    | infinity => exact .infinity
    | finite m' e' h' =>
      have hlog := log2_shiftLeft h (e - min e e').toNat
      have hmono : (m <<< (e - min e e').toNat).log2 ≤
          (m <<< (e - min e e').toNat + m' <<< (e' - min e e').toNat).log2 := by
        rw [Nat.log2_eq_log_two, Nat.log2_eq_log_two]
        exact Nat.log_mono_right (Nat.le_add_right _ _)
      have hpos : 0 < m <<< (e - min e e').toNat := by
        rw [Nat.shiftLeft_eq]
        positivity
      simp only [UnpackedFloat.add, decreaseExponent, Sign.apply, ← Nat.cast_add]
      refine fromHalf_normalize (Int.natCast_pos.mpr (Nat.add_pos_left hpos _)) ?_
      unfold totalExponent
      rw [Int.toNat_natCast]
      omega

end

/-- One half is not undercut by adding what is not negative. -/
lemma half_le_half_add {y : Float} (h : 0 ≤ y) : 0.5 ≤ 0.5 + y := by
  refine half_le_of_fromHalf (FromHalf.unpack_pack (FromHalf.add ?_ (zero_le_iff.mp h)))
  exact .finite 4503599627370496 (-53) (by decide) (by decide) (by decide)

lemma nonNeg_ofScientific (n : ℕ) {e : ℤ} (he : 0 ≤ e) : NonNeg (UnpackedFloat.ofScientific .binary64 n e) := by
  unfold UnpackedFloat.ofScientific
  split_ifs
  · exact .zero _
  · exact .infinity
  · exact .zero _
  · exact NonNeg.mul_finite (.finite _ _ _) _

lemma zero_le_ofNat (n : ℕ) : 0 ≤ Float.ofNat n := by
  rw [zero_le_iff]
  change NonNeg (Float.ofScientific n false 0).toModel.unpack
  unfold Float.ofScientific
  split
  · have hone : (Float.exactlyRepresentablePowersOfTen[0]).toModel.unpack =
      .finite .positive 4503599627370496 (-52) (by decide) := rfl
    have hint : NonNeg (n.toUInt64.toFloat).toModel.unpack :=
      (nonNeg_normalize (Int.natCast_nonneg _) 0).unpack_pack
    refine NonNeg.unpack_pack ?_
    rw [hone]
    exact hint.mul_finite _
  · exact (nonNeg_ofScientific n (Int.natCast_nonneg 0)).unpack_pack

lemma zero_le_tenth_mul {y : Float} (h : 0 ≤ y) : 0 ≤ 0.1 * y := by
  have htenth : (0.1 : Float).toModel.unpack = .finite .positive 7205759403792794 (-56) (by decide) := rfl
  refine zero_le_iff.mpr (NonNeg.unpack_pack ?_)
  rw [htenth]
  exact (zero_le_iff.mp h).finite_mul _

end Guardrail.Double
