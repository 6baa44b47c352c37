import Guardrail.Proofs.Raising

/-!
Thresholds that are accepted cut the unit interval into bands.

Thresholds are accepted exactly if all five bands have something in them and none reaches out of the unit interval. Then
every score, brought into that interval, lies in one band, and its level is that of the band.
-/

namespace Guardrail.Thresholds

open Scalar Scalar.Ordered

section

variable {ν : Type} [Scalar ν] [Scalar.Ordered ν] {t : Thresholds ν} {x : ν} {l : RiskLevel}

/-- A level is that of a score exactly if the score lies in its band. -/
lemma inBand_iff (ht : t.ordered = true) : t.InBand l (clampUnit x) ↔ t.classify x = l := by
  obtain ⟨hlow, hmedium, hhigh, hcritical, hone⟩ := ordered_iff.mp ht
  obtain ⟨h0, h1⟩ := clampUnit_mem x
  simp only [classify, InBand]
  generalize clampUnit x = y at h0 h1
  have hy := (isNaN_of_le h0).2
  -- a bound that is not reached lies above, and with it all that lie above it
  have hside {c d : ν} (h : c < d) : (y < c ↔ ¬ c ≤ y) ∧ (y < d ↔ ¬ d ≤ y) ∧ (d ≤ y → c ≤ y) := by
    obtain ⟨hc, hd⟩ := isNaN_of_le (le_of_lt h)
    exact ⟨lt_iff_not_le hy hc, lt_iff_not_le hy hd, le_trans (le_of_lt h)⟩
  obtain ⟨hl, hm, hml⟩ := hside hmedium
  obtain ⟨hh, hc, hch⟩ := hside hcritical
  obtain ⟨-, -, hhm⟩ := hside hhigh
  cases l <;> simp only [band, hl, hm, hh, hc, h0, h1, true_and] <;> split_ifs <;> simp_all

/-- The bounds rise exactly if no band is empty. -/
lemma ordered_iff_exists_inBand : t.ordered = true ↔ ∀ l, ∃ x, t.InBand l x := by
  rw [ordered_iff]
  constructor
  · rintro ⟨hlow, hmedium, hhigh, hcritical, hone⟩ l
    have hstart {a b : ν} (h : a < b) : a ≤ a := le_refl (isNaN_of_le (le_of_lt h)).1
    cases l with
    | none => exact ⟨0, hstart hlow, .inl hlow⟩
    | low => exact ⟨t.low, hstart hmedium, .inl hmedium⟩
    | medium => exact ⟨t.medium, hstart hhigh, .inl hhigh⟩
    | high => exact ⟨t.high, hstart hcritical, .inl hcritical⟩
    | critical => exact ⟨t.critical, le_refl (isNaN_of_le hone).1, .inr ⟨rfl, hone⟩⟩
  · intro h
    have hrise {l : RiskLevel} (hl : l ≠ .critical) : (t.band l).1 < (t.band l).2 := by
      obtain ⟨x, hfrom, hto⟩ := h l
      exact lt_of_le_of_lt hfrom (hto.resolve_right fun htop => hl htop.1)
    obtain ⟨x, hfrom, hto⟩ := h .critical
    exact ⟨hrise (l := .none) (by decide), hrise (l := .low) (by decide), hrise (l := .medium) (by decide),
      hrise (l := .high) (by decide), le_trans hfrom (hto.elim le_of_lt And.right)⟩

lemma mem_unit_of_inBand (ht : t.ordered = true) (h : t.InBand l x) : 0 ≤ x ∧ x ≤ 1 := by
  obtain ⟨hlow, hmedium, hhigh, hcritical, hone⟩ := ordered_iff.mp ht
  obtain ⟨hfrom, hto⟩ := h
  have h0 : 0 ≤ (t.band l).1 := by
    cases l with
    | none => exact le_refl (isNaN_of_le (le_of_lt hlow)).1
    | low => exact le_of_lt hlow
    | medium => exact le_of_lt (lt_trans hlow hmedium)
    | high => exact le_of_lt (lt_trans hlow (lt_trans hmedium hhigh))
    | critical => exact le_of_lt (lt_trans hlow (lt_trans hmedium (lt_trans hhigh hcritical)))
  have h1 : (t.band l).2 ≤ 1 := by
    have hhigh1 := le_trans (le_of_lt hcritical) hone
    cases l with
    | none => exact le_trans (le_of_lt hmedium) (le_trans (le_of_lt hhigh) hhigh1)
    | low => exact le_trans (le_of_lt hhigh) hhigh1
    | medium => exact hhigh1
    | high => exact hone
    | critical => exact le_refl (isNaN_of_le hone).2
  exact ⟨le_trans h0 hfrom, le_trans (hto.elim le_of_lt And.right) h1⟩

lemma not_ordered_of_isNaN (h : isNaN t.low = true ∨ isNaN t.medium = true ∨ isNaN t.high = true ∨
    isNaN t.critical = true) : t.ordered = false := by
  rw [← Bool.not_eq_true, ordered_iff]
  rintro ⟨-, hmedium, hhigh, hcritical, -⟩
  have hm := isNaN_of_le (le_of_lt hmedium)
  have hh := isNaN_of_le (le_of_lt hhigh)
  have hc := isNaN_of_le (le_of_lt hcritical)
  simp [hm, hh, hc] at h

omit [Scalar.Ordered ν] in
/-- The bands stand side by side from zero to one. -/
lemma bands_contiguous (t : Thresholds ν) : (t.band .none).1 = 0 ∧ (t.band .critical).2 = 1 ∧
    (RiskLevel.all.map t.band).IsChain fun a b => a.2 = b.1 := by
  simp [band, RiskLevel.all]

end

/-- **The bands.** Thresholds are accepted exactly if each of the five bands has something in it and lies within the
unit interval; with a field that is not a number they are refused. The bands of accepted thresholds stand side by side
from zero to one, and every number from zero to one lies in one of them. Whatever the score is, brought into that
interval it lies in the band of its level and in no other, and a higher score has no lower level. -/
theorem bands_partition (t : Thresholds) :
    (t.validate = .ok () ↔ ∀ l, (∃ x, t.InBand l x) ∧ ∀ x, t.InBand l x → 0 ≤ x ∧ x ≤ 1) ∧
    (t.low.isNaN = true ∨ t.medium.isNaN = true ∨ t.high.isNaN = true ∨ t.critical.isNaN = true →
      ∃ e, t.validate = .error e) ∧
    (t.validate = .ok () →
      ((t.band .none).1 = 0 ∧ (t.band .critical).2 = 1 ∧
        (RiskLevel.all.map t.band).IsChain fun a b => a.2 = b.1) ∧
      (∀ x, 0 ≤ x → x ≤ 1 → ∃ l, t.InBand l x) ∧
      (∀ x, t.InBand (t.classify x) (clampUnit x) ∧ ∀ l, t.InBand l (clampUnit x) → l = t.classify x) ∧
      ∀ x y, clampUnit x ≤ clampUnit y → t.classify x ≤ t.classify y) := by
  rw [validate_ok]
  refine ⟨⟨fun ht l => ?_, fun h => ?_⟩, fun hnan => ?_,
    fun ht => ⟨t.bands_contiguous, fun x h0 h1 => ?_, fun x => ?_, ?_⟩⟩
  · exact ⟨ordered_iff_exists_inBand.mp ht l, fun x => mem_unit_of_inBand ht⟩
  · exact ordered_iff_exists_inBand.mpr fun l => (h l).1
  · exact ⟨_, if_neg (by simp [not_ordered_of_isNaN (t := t) hnan])⟩
  · have hband := (inBand_iff ht).mpr (rfl : t.classify x = _)
    rw [clampUnit_of_mem h0 h1] at hband
    exact ⟨_, hband⟩
  · exact ⟨(inBand_iff ht).mpr rfl, fun l hl => ((inBand_iff ht).mp hl).symm⟩
  · exact fun x y => t.classify_mono

/-- A top band of one number, a score on a bound, and one that is not a number. -/
theorem bands_partition_narrow :
    let t : Thresholds := ⟨0.25, 0.5, 0.75, 1⟩
    t.validate = .ok () ∧ (∃ x, t.InBand .critical x) ∧ t.InBand .high (clampUnit 0.75) ∧
      t.InBand .none (clampUnit (0 / 0)) ∧ t.classify 0.75 ≤ t.classify (1 / 0) ∧
      ∃ e, (⟨0.25, 0 / 0, 0.75, 1⟩ : Thresholds).validate = .error e := by
  intro t
  have hvalid : t.validate = .ok () := by decide +kernel
  obtain ⟨hbands, -, hpartition⟩ := bands_partition t
  obtain ⟨-, hrefused, -⟩ := bands_partition ⟨0.25, 0 / 0, 0.75, 1⟩
  obtain ⟨-, -, hlevel, hmono⟩ := hpartition hvalid
  have hhigh : t.classify 0.75 = .high := by decide +kernel
  have hnone : t.classify (0 / 0) = .none := by decide +kernel
  exact ⟨hvalid, (hbands.mp hvalid .critical).1, hhigh ▸ (hlevel 0.75).1, hnone ▸ (hlevel (0 / 0)).1,
    hmono _ _ (by decide +kernel), hrefused (by decide +kernel)⟩

end Guardrail.Thresholds
