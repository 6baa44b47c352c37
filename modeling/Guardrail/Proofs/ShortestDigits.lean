import Guardrail.Decimal.Shortest
import Mathlib

/-!
Shortest digits read back.

The rationals that round to a double form an interval around it, and the intervals of different doubles
have no number in common. The digits that `Dyadic.shortest` finds lie in the interval of the double they
are for, so they are the digits of no other one.
-/

namespace Guardrail.Decimal

lemma zpow_toNat {b : ℚ} (hb : b ≠ 0) (k : ℤ) : b ^ k.toNat = b ^ k * b ^ (-k).toNat := by
  rw [← zpow_natCast, ← zpow_natCast, ← zpow_add₀ hb]
  congr 1
  omega

/-- Whole numbers compare as the fractions over one scale that they are. -/
lemma over_scale {m n : ℕ} {a b scale : ℚ} (hscale : 0 < scale) (hm : (m : ℚ) = a * scale)
    (hn : (n : ℚ) = b * scale) : (m ≤ n ↔ a ≤ b) ∧ (m = n ↔ a = b) := by
  constructor
  · rw [← Nat.cast_le (α := ℚ), hm, hn, mul_le_mul_iff_left₀ hscale]
  · rw [← Nat.cast_inj (R := ℚ), hm, hn, mul_left_inj' hscale.ne']

/-- The number that a decimal is. -/
def Scientific.value (s : Scientific) : ℚ := s.digits * 10 ^ s.exponent

namespace Dyadic

variable {x y : Dyadic} {v : ℚ} {d : ℕ} {k : ℤ}

/-- The number itself. -/
def value (x : Dyadic) : ℚ := x.m * 2 ^ x.q

/-- Half the gap to the next number below. -/
def below (x : Dyadic) : ℚ := if x.narrow then 2 ^ x.q / 4 else 2 ^ x.q / 2

/-- Half the gap to the next number above. -/
def above (x : Dyadic) : ℚ := 2 ^ x.q / 2

/-- A number in the interval of those that round to `x`, whose ends count when `x.m` is even. -/
structure Rounds (x : Dyadic) (v : ℚ) : Prop where
  ge : x.value - x.below ≤ v
  le : v ≤ x.value + x.above
  inner : x.m % 2 ≠ 0 → v ≠ x.value - x.below ∧ v ≠ x.value + x.above

/-- A double: fifty-three bits, of which the first is set unless the exponent is the least one. -/
structure Canonical (x : Dyadic) : Prop where
  pos : 0 < x.m
  lt : x.m < 2 ^ 53
  least : -1074 ≤ x.q
  normal : -1074 < x.q → 2 ^ 52 ≤ x.m
  narrow : x.narrow = true ↔ x.m = 2 ^ 52 ∧ -1074 < x.q

/-! ### The interval of a number -/

lemma value_eq (x : Dyadic) : x.value * x.denominator = x.numerator := by
  have htwo : ((Nat.pow 2 x.q.toNat : ℕ) : ℚ) = 2 ^ x.q * (Nat.pow 2 (-x.q).toNat : ℕ) := by
    push_cast [Nat.pow_eq]
    exact zpow_toNat (by norm_num) x.q
  simp only [value, numerator, denominator]
  rw [Nat.cast_mul, htwo]
  ring

/-- The comparison in whole numbers, each side of the interval by itself. -/
lemma covers_eq (x : Dyadic) (d : ℕ) (k : ℤ) :
    x.covers d k = true ↔
      let point := 4 * (d * 10 ^ k.toNat * x.denominator)
      let value := 4 * (x.numerator * 10 ^ (-k).toNat)
      let unit := 2 ^ x.q.toNat * 10 ^ (-k).toNat
      let low := if x.narrow then unit else 2 * unit
      value ≤ point + low ∧ point ≤ value + 2 * unit ∧
        (x.m % 2 ≠ 0 → value ≠ point + low ∧ point ≠ value + 2 * unit) := by
  have hunit : 0 < 2 ^ x.q.toNat * 10 ^ (-k).toNat := by positivity
  simp only [covers, Nat.pow_eq]
  generalize d * 10 ^ k.toNat * x.denominator = point
  generalize x.numerator * 10 ^ (-k).toNat = value
  generalize 2 ^ x.q.toNat * 10 ^ (-k).toNat = unit at hunit ⊢
  by_cases habove : point > value <;> by_cases heven : x.m % 2 = 0 <;> cases x.narrow <;>
    simp [habove, heven] <;> omega

lemma covers_iff : x.covers d k = true ↔ x.Rounds (d * 10 ^ k) := by
  -- everything over one denominator
  let scale : ℚ := x.denominator * 10 ^ (-k).toNat
  have hscale : 0 < scale := by
    have : 0 < x.denominator := Nat.pow_pos (by norm_num)
    positivity
  have hpoint : ((4 * (d * 10 ^ k.toNat * x.denominator) : ℕ) : ℚ) = 4 * (d * 10 ^ k) * scale := by
    push_cast
    rw [zpow_toNat (by norm_num) k]
    ring
  have hvalue : ((4 * (x.numerator * 10 ^ (-k).toNat) : ℕ) : ℚ) = 4 * x.value * scale := by
    push_cast
    rw [← x.value_eq]
    ring
  have hunit : ((2 ^ x.q.toNat * 10 ^ (-k).toNat : ℕ) : ℚ) = 2 ^ x.q * scale := by
    push_cast [denominator, scale, Nat.pow_eq]
    rw [zpow_toNat (by norm_num) x.q]
    ring
  rw [covers_eq]
  dsimp only
  generalize 4 * (d * 10 ^ k.toNat * x.denominator) = point at hpoint ⊢
  generalize 4 * (x.numerator * 10 ^ (-k).toNat) = value at hvalue ⊢
  generalize 2 ^ x.q.toNat * 10 ^ (-k).toNat = unit at hunit ⊢
  have hlow : ((point + if x.narrow then unit else 2 * unit : ℕ) : ℚ)
      = 4 * (d * 10 ^ k + x.below) * scale := by
    simp only [below]
    split <;> push_cast [hpoint, hunit] <;> ring
  have hhigh : ((value + 2 * unit : ℕ) : ℚ) = 4 * (x.value + x.above) * scale := by
    push_cast [hvalue, hunit, above]
    ring
  obtain ⟨hge, hgt⟩ := over_scale hscale hvalue hlow
  obtain ⟨hle, hlt⟩ := over_scale hscale hpoint hhigh
  simp only [hge, hle, hgt, hlt, ne_eq]
  constructor
  · rintro ⟨hge, hle, hinner⟩
    refine ⟨by linarith, by linarith, fun hodd => ?_⟩
    obtain ⟨hlow, hhigh⟩ := hinner hodd
    exact ⟨fun h => hlow (by linarith), fun h => hhigh (by linarith)⟩
  · rintro ⟨hge, hle, hinner⟩
    refine ⟨by linarith, by linarith, fun hodd => ?_⟩
    obtain ⟨hlow, hhigh⟩ := hinner hodd
    exact ⟨fun h => hlow (by linarith), fun h => hhigh (by linarith)⟩

/-! ### The intervals of different numbers -/

lemma Canonical.below_eq (hx : x.Canonical) :
    x.below = if x.m = 2 ^ 52 ∧ -1074 < x.q then 2 ^ x.q / 4 else 2 ^ x.q / 2 := by
  simp only [below, hx.narrow]

/-- Of two doubles with one exponent the one with the larger mantissa begins where the other one ends, at
the earliest. -/
lemma Rounds.mantissa_le (hx : x.Rounds v) (hy : y.Rounds v) (hq : x.q = y.q) : y.m ≤ x.m := by
  by_contra hlt
  have hunit : (0 : ℚ) < 2 ^ y.q := by positivity
  have hsucc : (x.m : ℚ) + 1 ≤ y.m := by exact_mod_cast (by omega : x.m + 1 ≤ y.m)
  have hbelow : y.below ≤ 2 ^ y.q / 2 := by
    simp only [below]
    split <;> linarith
  have hge := hy.ge
  have hle := hx.le
  simp only [value, above, hq] at hge hle
  have hmul : ((x.m : ℚ) + 1) * 2 ^ y.q ≤ y.m * 2 ^ y.q := by gcongr
  -- both ends are `v`, so that the mantissas are neighbours, and one of them is odd
  have hv : v = x.value + x.above := by
    simp only [value, above, hq]
    linarith
  have hv' : v = y.value - y.below := by
    simp only [value]
    linarith
  have hm : y.m = x.m + 1 := by
    have : (y.m : ℚ) * 2 ^ y.q = (x.m + 1) * 2 ^ y.q := by linarith
    exact_mod_cast mul_right_cancel₀ hunit.ne' this
  by_cases hodd : x.m % 2 = 0
  · exact (hy.inner (by omega)).1 hv'
  · exact (hx.inner hodd).2 hv

/-- A double with a larger exponent begins where all those with a smaller one have ended. -/
lemma Rounds.exponent_le (hx : x.Canonical) (hy : y.Canonical) (hxv : x.Rounds v) (hyv : y.Rounds v) :
    y.q ≤ x.q := by
  by_contra hlt
  have hunit : (0 : ℚ) < 2 ^ x.q := by positivity
  have htwice : (2 : ℚ) * 2 ^ x.q ≤ 2 ^ y.q := by
    rw [← zpow_one_add₀ (by norm_num)]
    exact zpow_le_zpow_right₀ (by norm_num) (by omega)
  have hm : (x.m : ℚ) ≤ 2 ^ 53 - 1 := by
    have := hx.lt
    exact_mod_cast (by omega : (x.m : ℤ) ≤ 2 ^ 53 - 1)
  have hle := hxv.le
  have hge := hyv.ge
  have hmul : (x.m : ℚ) * 2 ^ x.q ≤ (2 ^ 53 - 1) * 2 ^ x.q := by gcongr
  have hnormal := hy.normal (by have := hx.least; omega)
  simp only [value, above, hy.below_eq] at hge hle
  by_cases hbottom : y.m = 2 ^ 52
  · -- the two touch if `x` is the largest of its exponent, and that one is odd
    have hleast := hx.least
    rw [if_pos ⟨hbottom, by omega⟩, hbottom] at hge
    push_cast at hge
    have hv : v = x.value + x.above := by
      simp only [value, above]
      linarith
    have hm' : (x.m : ℚ) * 2 ^ x.q = (2 ^ 53 - 1) * 2 ^ x.q := by linarith
    have hlast : x.m = 2 ^ 53 - 1 := by
      have : (x.m : ℚ) = 2 ^ 53 - 1 := mul_right_cancel₀ hunit.ne' hm'
      have : (x.m : ℤ) = 2 ^ 53 - 1 := by exact_mod_cast this
      omega
    exact (hxv.inner (by omega)).2 hv
  · rw [if_neg (by tauto)] at hge
    have hsucc : (2 : ℚ) ^ 52 + 1 ≤ y.m := by exact_mod_cast (by omega : 2 ^ 52 + 1 ≤ y.m)
    have hmul' : ((2 : ℚ) ^ 52 + 1) * 2 ^ y.q ≤ y.m * 2 ^ y.q := by gcongr
    linarith

/-- **One double.** A number rounds to one double at most. -/
theorem Rounds.eq (hx : x.Canonical) (hy : y.Canonical) (hxv : x.Rounds v) (hyv : y.Rounds v) : x = y := by
  have hq : x.q = y.q := le_antisymm (exponent_le hy hx hyv hxv) (exponent_le hx hy hxv hyv)
  have hm : x.m = y.m := le_antisymm (mantissa_le hyv hxv hq.symm) (mantissa_le hxv hyv hq)
  have hnarrow : x.narrow = y.narrow := by
    rw [Bool.eq_iff_iff, hx.narrow, hy.narrow, hq, hm]
  cases x
  cases y
  simp_all

/-! ### The search -/

lemma onGrid?_rounds {s : Scientific} (h : x.onGrid? k = some s) : s.digits ≠ 0 ∧ x.Rounds s.value := by
  simp only [onGrid?] at h
  split at h
  · next hlow =>
    cases h
    exact ⟨hlow.1.1, covers_iff.mp hlow.1.2⟩
  · split at h
    · next hhigh =>
      cases h
      exact ⟨Nat.succ_ne_zero _, covers_iff.mp hhigh⟩
    · cases h

lemma Canonical.value_pos (hx : x.Canonical) : 0 < x.value := by
  have := hx.pos
  unfold value
  positivity

/-- Half a gap is a certain part of the number, so that enough digits always suffice. -/
lemma Canonical.gap (hx : x.Canonical) : x.value / 2 ^ 54 ≤ x.below ∧ x.value / 2 ^ 54 ≤ x.above := by
  have hunit : (0 : ℚ) < 2 ^ x.q := by positivity
  have hm : (x.m : ℚ) ≤ 2 ^ 53 := by exact_mod_cast hx.lt.le
  have hhalf : x.value / 2 ^ 54 ≤ 2 ^ x.q / 2 := by
    have : (x.m : ℚ) * 2 ^ x.q ≤ 2 ^ 53 * 2 ^ x.q := by gcongr
    simp only [value]
    linarith
  refine ⟨?_, hhalf⟩
  rw [hx.below_eq]
  split
  · next hbottom =>
    rw [value, hbottom.1]
    push_cast
    linarith
  · exact hhalf

/-- The two neighbours on a grid have the number between them. -/
lemma lt_next (x : Dyadic) (k : ℤ) :
    let low := x.numerator * Nat.pow 10 (-k).toNat / (x.denominator * Nat.pow 10 k.toNat)
    x.value < (low + 1 : ℕ) * 10 ^ k ∧ (low + 1 : ℕ) * 10 ^ k ≤ x.value + 10 ^ k := by
  dsimp only
  have hstep : (0 : ℚ) < 10 ^ k := by positivity
  have hden : 0 < x.denominator * Nat.pow 10 k.toNat :=
    Nat.mul_pos (Nat.pow_pos (by norm_num)) (Nat.pow_pos (by norm_num))
  have hvalue : ((x.denominator * Nat.pow 10 k.toNat : ℕ) : ℚ) * x.value
      = (x.numerator * Nat.pow 10 (-k).toNat : ℕ) * 10 ^ k := by
    push_cast [Nat.pow_eq]
    rw [zpow_toNat (by norm_num) k, ← x.value_eq]
    ring
  generalize x.denominator * Nat.pow 10 k.toNat = den at hden hvalue ⊢
  generalize x.numerator * Nat.pow 10 (-k).toNat = num at hvalue ⊢
  have hden' : (0 : ℚ) < den := by exact_mod_cast hden
  have hle : ((num / den : ℕ) : ℚ) * den ≤ num := by exact_mod_cast Nat.div_mul_le_self num den
  have hlt : (num : ℚ) < (num / den + 1 : ℕ) * den := by
    exact_mod_cast Nat.lt_mul_of_div_lt (Nat.lt_succ_self (num / den)) hden
  have hle' := mul_le_mul_of_nonneg_right hle hstep.le
  have hlt' := mul_lt_mul_of_pos_right hlt hstep
  constructor
  · refine lt_of_mul_lt_mul_left ?_ hden'.le
    rw [hvalue]
    linarith
  · refine le_of_mul_le_mul_left ?_ hden'
    rw [mul_add, hvalue]
    push_cast
    linarith

lemma onGrid?_isSome (hbelow : 10 ^ k < x.below) (habove : 10 ^ k < x.above) : (x.onGrid? k).isSome := by
  have hstep : (0 : ℚ) < 10 ^ k := by positivity
  obtain ⟨hlt, hle⟩ := x.lt_next k
  have hnext : x.covers (x.numerator * Nat.pow 10 (-k).toNat / (x.denominator * Nat.pow 10 k.toNat) + 1) k := by
    rw [covers_iff]
    constructor
    · linarith
    · linarith
    · exact fun _ => ⟨by linarith, by linarith⟩
  simp only [onGrid?, hnext]
  split <;> simp

lemma search_mem {top : ℤ} : ∀ {fuel n i : ℕ}, i < fuel → (x.onGrid? (top - (n + i : ℕ))).isSome →
    ∃ k, x.onGrid? k = some (x.search top fuel n)
  | fuel + 1, n, i, hi, h => by
    rw [search]
    cases hgrid : x.onGrid? (top - n) with
    | some s => exact ⟨_, hgrid⟩
    | none =>
      -- the grid that serves is a later one
      cases i with
      | zero => simp [hgrid] at h
      | succ i => exact search_mem (n := n + 1) (i := i) (by omega) (by rwa [Nat.add_right_comm n 1 i])

lemma pow_length_le {n : ℕ} (hn : 0 < n) : 10 ^ ((Nat.toDigits 10 n).length - 1) ≤ n := by
  have hlength := Nat.length_toDigits_pos (b := 10) (n := n)
  by_contra hlt
  rcases Nat.eq_zero_or_pos ((Nat.toDigits 10 n).length - 1) with hone | hmany
  · rw [hone] at hlt
    omega
  · have := (Nat.length_toDigits_le_iff (by norm_num) hmany).mpr (not_le.mp hlt)
    omega

/-- The first digit stands at or below the place that the number begins at. -/
lemma Canonical.leading_le (hx : x.Canonical) : 10 ^ x.leading ≤ x.value := by
  obtain ⟨e, he⟩ : ∃ e : ℕ, 400 = e := ⟨_, rfl⟩
  have hden : (0 : ℚ) < x.denominator := by
    exact_mod_cast (Nat.pow_pos (by norm_num) : 0 < x.denominator)
  have hnum : 0 < x.numerator := Nat.mul_pos hx.pos (Nat.pow_pos (by norm_num))
  have hsmall : x.denominator ≤ Nat.pow 10 e := by
    have hleast := hx.least
    calc x.denominator ≤ 2 ^ (3 * e) := Nat.pow_le_pow_right (by norm_num) (by omega)
      _ = (2 ^ 3) ^ e := Nat.pow_mul 2 3 e
      _ ≤ Nat.pow 10 e := Nat.pow_le_pow_left (by norm_num) e
  have hpos : 0 < x.numerator * Nat.pow 10 e / x.denominator :=
    Nat.div_pos (hsmall.trans (Nat.le_mul_of_pos_left _ hnum)) (Nat.pow_pos (by norm_num))
  have hscaled : (x.numerator * Nat.pow 10 e / x.denominator : ℕ) ≤ x.value * 10 ^ e := by
    refine le_trans Nat.cast_div_le ?_
    rw [div_le_iff₀ hden, mul_right_comm, x.value_eq]
    push_cast [Nat.pow_eq]
    exact le_rfl
  unfold leading
  rw [he]
  generalize x.numerator * Nat.pow 10 e / x.denominator = n at hpos hscaled ⊢
  have hlength := Nat.length_toDigits_pos (b := 10) (n := n)
  have hsplit : (10 : ℚ) ^ (((Nat.toDigits 10 n).length : ℤ) - 401) * 10 ^ e
      = (10 ^ ((Nat.toDigits 10 n).length - 1) : ℕ) := by
    push_cast
    rw [← zpow_natCast (10 : ℚ) ((Nat.toDigits 10 n).length - 1), ← zpow_natCast (10 : ℚ) e,
      ← zpow_add₀ (by norm_num)]
    congr 1
    omega
  refine le_of_mul_le_mul_right ?_ (by positivity : (0 : ℚ) < 10 ^ e)
  rw [hsplit]
  exact le_trans (by exact_mod_cast pow_length_le hpos) hscaled

/-- **Shortest digits.** What is written for a double rounds to it: eighteen digits are a finer grid than
the gaps between doubles, so that the search comes to an end. -/
theorem Canonical.shortest_rounds (hx : x.Canonical) : x.shortest.digits ≠ 0 ∧ x.Rounds x.shortest.value := by
  have hpos := hx.value_pos
  have hstep : (10 : ℚ) ^ (x.leading - (0 + 17 : ℕ)) < x.value / 2 ^ 54 := by
    rw [zpow_sub₀ (by norm_num), zpow_natCast, div_lt_div_iff₀ (by positivity) (by positivity)]
    have hleading := hx.leading_le
    norm_num
    linarith
  obtain ⟨hbelow, habove⟩ := hx.gap
  have hlate : 17 < 20 := by norm_num
  obtain ⟨k, hk⟩ := search_mem hlate (onGrid?_isSome (hstep.trans_le hbelow) (hstep.trans_le habove))
  exact onGrid?_rounds hk

end Dyadic

/-! ### The parts of a double -/

lemma exponent_ne_of_isFinite {x : Float} (hx : x.isFinite = true) :
    x.toBits.toNat / 2 ^ 52 % 2 ^ 11 ≠ 2 ^ 11 - 1 := by
  intro hall
  have hexponent : @Float.Model.UnpackedFloat.unpackExponent .binary64 x.toModel.toBits.toBitVec
      = -1#11 := by
    apply BitVec.eq_of_toNat_eq
    simp only [Float.Model.UnpackedFloat.unpackExponent, BitVec.toNat_cast, BitVec.extractLsb_toNat,
      Nat.shiftRight_eq_div_pow]
    exact hall
  have hbad : x.isFinite = false := by
    unfold Float.isFinite Float.Model.isFinite Float.Model.unpack Float.Model.UnpackedFloat.unpack
    simp only []
    rw [if_pos hexponent]
    split <;> rfl
  rw [hx] at hbad
  cases hbad

lemma finite_cases {x : Float} (hx : x.isFinite = true) :
    (∃ negative, Parts.ofFloat x = .zero negative) ∨
      ∃ negative v, Parts.ofFloat x = .finite negative v ∧ v.Canonical := by
  have hexponent := exponent_ne_of_isFinite hx
  have hfraction : x.toBits.toNat % 2 ^ 52 < 2 ^ 52 := Nat.mod_lt _ (by norm_num)
  simp only [Parts.ofFloat, Parts.ofBits, Nat.pow_eq, if_neg hexponent]
  generalize x.toBits.toNat / 2 ^ 52 % 2 ^ 11 = power at hexponent ⊢
  generalize x.toBits.toNat % 2 ^ 52 = fraction at hfraction ⊢
  split
  · split
    · exact .inl ⟨_, rfl⟩
    · next hzero =>
      refine .inr ⟨_, _, rfl, ?_⟩
      constructor <;> simp <;> omega
  · refine .inr ⟨_, _, rfl, ?_⟩
    constructor <;> simp
    omega

/-- The sign, the exponent and the fraction of the word that parts come from. -/
def Parts.fields : Parts → Bool × ℕ × ℕ
  | .zero negative => (negative, 0, 0)
  | .finite negative v => (negative, if v.m < 2 ^ 52 then 0 else (v.q + 1075).toNat, v.m % 2 ^ 52)
  | .infinite negative => (negative, 2 ^ 11 - 1, 0)
  | .nan => (false, 2 ^ 11 - 1, 1)

lemma fields_ofBits {bits : ℕ} (hfinite : bits / 2 ^ 52 % 2 ^ 11 ≠ 2 ^ 11 - 1) :
    (Parts.ofBits 52 11 bits).fields
      = (decide (bits / 2 ^ 63 % 2 = 1), bits / 2 ^ 52 % 2 ^ 11, bits % 2 ^ 52) := by
  have hfraction : bits % 2 ^ 52 < 2 ^ 52 := Nat.mod_lt _ (by norm_num)
  simp only [Parts.ofBits, Nat.pow_eq, if_neg hfinite]
  generalize bits / 2 ^ 52 % 2 ^ 11 = power
  generalize bits % 2 ^ 52 = fraction at hfraction ⊢
  by_cases hpower : power = 0
  · rw [if_pos hpower]
    split
    · next hzero => rw [Parts.fields, hpower, hzero]
    · rw [Parts.fields, if_pos hfraction, Nat.mod_eq_of_lt hfraction, hpower]
  · have hnormal : ¬ 2 ^ 52 + fraction < 2 ^ 52 := by omega
    have hexponent : (2 - (2 ^ (11 - 1) : ℕ) - (52 : ℕ) + (power - 1 : ℕ) + 1075 : ℤ).toNat = power := by
      norm_num
      omega
    rw [if_neg hpower, Parts.fields, if_neg hnormal, hexponent, Nat.add_mod_left, Nat.mod_eq_of_lt hfraction]

lemma ofBits_inj {m n : ℕ} (hm : m < 2 ^ 64) (hn : n < 2 ^ 64) (hme : m / 2 ^ 52 % 2 ^ 11 ≠ 2 ^ 11 - 1)
    (hne : n / 2 ^ 52 % 2 ^ 11 ≠ 2 ^ 11 - 1) (h : Parts.ofBits 52 11 m = Parts.ofBits 52 11 n) : m = n := by
  have hfields := congrArg Parts.fields h
  rw [fields_ofBits hme, fields_ofBits hne, Prod.mk.injEq, Prod.mk.injEq, decide_eq_decide] at hfields
  obtain ⟨hsign, hexponent, hfraction⟩ := hfields
  omega

/-- The parts of a finite double are those of no other one. -/
theorem ofFloat_inj {x y : Float} (hx : x.isFinite = true) (hy : y.isFinite = true)
    (h : Parts.ofFloat x = Parts.ofFloat y) : x = y := by
  have hbits : x.toBits.toNat = y.toBits.toNat :=
    ofBits_inj (UInt64.toNat_lt _) (UInt64.toNat_lt _) (exponent_ne_of_isFinite hx)
      (exponent_ne_of_isFinite hy) h
  rcases x with ⟨⟨m, hm⟩⟩
  rcases y with ⟨⟨n, hn⟩⟩
  obtain rfl : m = n := UInt64.toNat_inj.mp hbits
  rfl

end Guardrail.Decimal
