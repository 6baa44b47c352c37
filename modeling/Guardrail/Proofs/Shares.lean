import Guardrail.Proofs.Exact
import Guardrail.Proofs.ScoreOrder

/-!
What each stage counts with in the overall risk.

The stages for which there are scores share the overall risk among them, in the proportion of their
weights, or evenly if these are all zero. So in exact numbers its base is a mean of the scores that count
for them, and lies between the smallest and the largest of these.
-/

namespace Guardrail

/-! ### Means -/

section

variable {α : Type} {xs : List α} {w v : α → ℚ}

lemma mean_le (hw : ∀ x ∈ xs, 0 ≤ w x) (hsum : (xs.map w).sum = 1) {high : ℚ} (h : ∀ x ∈ xs, v x ≤ high) :
    (xs.map fun x => w x * v x).sum ≤ high := by
  calc (xs.map fun x => w x * v x).sum
      ≤ (xs.map fun x => w x * high).sum :=
        List.sum_le_sum fun x hx => mul_le_mul_of_nonneg_left (h x hx) (hw x hx)
    _ = high := by rw [List.sum_map_mul_right, hsum, one_mul]

lemma le_mean (hw : ∀ x ∈ xs, 0 ≤ w x) (hsum : (xs.map w).sum = 1) {low : ℚ} (h : ∀ x ∈ xs, low ≤ v x) :
    low ≤ (xs.map fun x => w x * v x).sum := by
  calc low = (xs.map fun x => w x * low).sum := by rw [List.sum_map_mul_right, hsum, one_mul]
    _ ≤ (xs.map fun x => w x * v x).sum :=
        List.sum_le_sum fun x hx => mul_le_mul_of_nonneg_left (h x hx) (hw x hx)

lemma ne_nil_of_sum (hsum : (xs.map w).sum = 1) : xs ≠ [] := by
  rintro rfl
  simp at hsum

lemma exists_le_mean (hw : ∀ x ∈ xs, 0 ≤ w x) (hsum : (xs.map w).sum = 1) :
    ∃ x ∈ xs, v x ≤ (xs.map fun x => w x * v x).sum := by
  obtain ⟨m, hm⟩ : ∃ m, xs.argmin v = some m :=
    Option.ne_none_iff_exists'.mp (mt List.argmin_eq_none.mp (ne_nil_of_sum hsum))
  exact ⟨m, List.argmin_mem hm, le_mean hw hsum fun x hx => List.le_of_mem_argmin hx hm⟩

lemma exists_mean_le (hw : ∀ x ∈ xs, 0 ≤ w x) (hsum : (xs.map w).sum = 1) :
    ∃ x ∈ xs, (xs.map fun x => w x * v x).sum ≤ v x := by
  obtain ⟨m, hm⟩ : ∃ m, xs.argmax v = some m :=
    Option.ne_none_iff_exists'.mp (mt List.argmax_eq_none.mp (ne_nil_of_sum hsum))
  exact ⟨m, List.argmax_mem hm, mean_le hw hsum fun x hx => List.le_of_mem_argmax hx hm⟩

end

namespace Aggregate

/-- The weights are shares of one, and the base is the mean of the scores that count, at these shares. -/
structure IsMean (scores : List (RiskScore ℚ)) (b : Breakdown ℚ) : Prop where
  weights_nonneg : ∀ x ∈ b.weights, 0 ≤ x.2
  weights_sum : (b.weights.map (·.2)).sum = 1
  /-- Each stage that there is a score for has one weight, and no other has. -/
  weights_nodup : (b.weights.map (·.1)).Nodup
  mem_weights : ∀ l, l ∈ b.weights.map (·.1) ↔ ∃ s ∈ scores, s.layer.base = l
  layers_keys : b.layers.map (·.1) = b.weights.map (·.1)
  /-- What is on record for a stage is the score that counts for it, at the weight of the stage. -/
  recorded : ∀ l d, (l, d) ∈ b.layers → (l, d.weight) ∈ b.weights ∧ d.contribution = d.weight * d.score ∧
    ∃ s, standing scores l.stage = some s ∧ d.source = s.layer ∧ d.score = s.value
  base_eq : b.base = (b.layers.map (·.2.contribution)).sum
  smallest : ∃ x ∈ b.layers, x.2.score ≤ b.base
  largest : ∃ x ∈ b.layers, b.base ≤ x.2.score
  /-- A stage alone has all of it. -/
  alone : ∀ stage, (∀ s ∈ scores, s.layer.stage = stage) → ∃ s, standing scores stage = some s ∧ b.base = s.value

end Aggregate

namespace Aggregator

open Aggregate

variable (a : Aggregator ℚ) {scores : List (RiskScore ℚ)}

/-! ### Shares -/

/-- The weights of the stages there are scores for, added up. -/
def totalWeight (scores : List (RiskScore ℚ)) : ℚ :=
  ((select scores).map fun x => a.aggregation.layerWeights.weight x.1).sum

lemma share_exact (l : Layer) : a.share scores l =
    if 0 < a.totalWeight scores then a.aggregation.layerWeights.weight l / a.totalWeight scores
    else 1 / (select scores).length := by
  have hshare : a.share scores l =
      if 0 < Scalar.sum (((select scores).map (·.1)).map a.aggregation.layerWeights.weight) then
        a.aggregation.layerWeights.weight l
          / Scalar.sum (((select scores).map (·.1)).map a.aggregation.layerWeights.weight)
      else 1 / (((select scores).map (·.1)).length : ℚ) := rfl
  rw [hshare, Scalar.sum_exact, List.map_map, List.length_map]
  rfl

lemma weight_nonneg {w : LayerWeights ℚ} {name : String} (h : checkWeights name w.named = .ok ()) (l : Layer) :
    0 ≤ w.weight l := by
  obtain ⟨⟨_, x⟩, hx, hweight⟩ := List.mem_map.mp (w.weight_mem_named l)
  rw [← hweight]
  exact ((checkWeights_ok.mp h).1 _ hx).1

lemma share_nonneg {name : String} (h : checkWeights name a.aggregation.layerWeights.named = .ok ()) (l : Layer) :
    0 ≤ a.share scores l := by
  rw [share_exact]
  split
  · next hpos => exact div_nonneg (weight_nonneg h l) hpos.le
  · positivity

lemma sum_share (hne : scores ≠ []) : ((select scores).map fun x => a.share scores x.1).sum = 1 := by
  simp only [share_exact]
  -- in proportion to the weights, or evenly where no stage has one
  split
  · next hpos =>
    simp only [div_eq_mul_inv]
    rw [List.sum_map_mul_right]
    exact mul_inv_cancel₀ hpos.ne'
  · have hlength : ((select scores).length : ℚ) ≠ 0 := by
      simpa using select_ne_nil hne
    rw [List.map_const', List.sum_replicate, nsmul_eq_mul, mul_one_div_cancel hlength]

/-! ### The base -/

/-- The base before it is brought into `[0, 1]`. -/
lemma base_eq_clampUnit (context : RequestContext ℚ) (blocked : Bool) :
    (a.aggregate scores context blocked).breakdown.base
      = Scalar.clampUnit ((select scores).map fun x => a.share scores x.1 * x.2.value).sum := by
  have hbase : (a.aggregate scores context blocked).breakdown.base = Scalar.clampUnit
      (((a.aggregate scores context blocked).breakdown.layers.map fun d => d.2.contribution).foldl (· + ·) 0) := rfl
  rw [hbase, aggregate_layers, List.map_map, List.sum_eq_foldl]
  rfl

/-- **The base of the overall risk is a mean.** With weights that are accepted and scores in `[0, 1]`, at least one
of them, the effective weights are shares of one among the stages that there are scores for, each with one share and
no other with any, also if their weights are all zero. The base is what the scores that count contribute at these
shares, no less than the smallest of them and no more than the largest; a stage alone has its score for the base. -/
theorem base_isMean {name : String} (hw : checkWeights name a.aggregation.layerWeights.named = .ok ())
    (hne : scores ≠ []) (hunit : ∀ s ∈ scores, 0 ≤ s.value ∧ s.value ≤ 1) (context : RequestContext ℚ)
    (blocked : Bool) : IsMean scores (a.aggregate scores context blocked).breakdown := by
  have hnonneg : ∀ x ∈ select scores, 0 ≤ a.share scores x.1 := fun x _ => a.share_nonneg hw x.1
  have hsum := a.sum_share hne
  have hvalue : ∀ x ∈ select scores, 0 ≤ x.2.value ∧ x.2.value ≤ 1 := fun x hx =>
    hunit x.2 (mem_of_standing (mem_select.mp hx).2).1
  have hbase : (a.aggregate scores context blocked).breakdown.base
      = ((select scores).map fun x => a.share scores x.1 * x.2.value).sum := by
    rw [base_eq_clampUnit]
    exact Scalar.clampUnit_of_mem (le_mean hnonneg hsum fun x hx => (hvalue x hx).1)
      (mean_le hnonneg hsum fun x hx => (hvalue x hx).2)
  have hweights : (a.aggregate scores context blocked).breakdown.weights
      = (select scores).map fun x => (x.1, a.share scores x.1) := a.effectiveWeights_select scores
  have hlayers := a.aggregate_layers scores context blocked
  obtain ⟨least, hleast, hbelow⟩ := exists_le_mean (v := fun x => x.2.value) hnonneg hsum
  obtain ⟨most, hmost, habove⟩ := exists_mean_le (v := fun x => x.2.value) hnonneg hsum
  refine {
    weights_nonneg := ?_
    weights_sum := ?_
    weights_nodup := ?_
    mem_weights := fun l => ?_
    layers_keys := ?_
    recorded := ?_
    base_eq := ?_
    smallest := ?_
    largest := ?_
    alone := ?_ }
  · rw [hweights]
    exact List.forall_mem_map.mpr hnonneg
  · rw [hweights, List.map_map]
    exact hsum
  · rw [hweights, List.map_map]
    exact (ascending_select scores).nodup_keys
  · rw [hweights, List.map_map]
    exact mem_keys_select
  · rw [hweights, hlayers, List.map_map, List.map_map]
    rfl
  · intro l d hd
    rw [hlayers] at hd
    obtain ⟨⟨l, s⟩, hs, heq⟩ := List.mem_map.mp hd
    obtain ⟨rfl, rfl⟩ := Prod.mk.inj heq
    rw [hweights]
    exact ⟨List.mem_map.mpr ⟨(l, s), hs, rfl⟩, rfl, s, (mem_select.mp hs).2, rfl, rfl⟩
  · rw [hbase, hlayers, List.map_map]
    rfl
  · rw [hbase, hlayers]
    exact ⟨_, List.mem_map_of_mem hleast, hbelow⟩
  · rw [hbase, hlayers]
    exact ⟨_, List.mem_map_of_mem hmost, habove⟩
  · intro stage hstage
    -- the smallest and the largest of what counts are one score
    have hstanding := standing_of_alone hstage
    have heq : most.2 = least.2 :=
      Option.some.inj ((hstanding most hmost).symm.trans (hstanding least hleast))
    exact ⟨least.2, hstanding least hleast, hbase.trans (le_antisymm (heq ▸ habove) hbelow)⟩

/-- Only outputs have a weight. -/
def outputOnly : Aggregator ℚ :=
  ⟨{ AggregationConfig.standard with layerWeights := ⟨0, 0, 1⟩ }, .standard, .standard⟩

/-- Scores of the two other stages, one of them with a shadow. -/
def weightless : List (RiskScore ℚ) :=
  [⟨Stage.input.shadowLayer, 3 / 4, .medium, [], "override attempt"⟩, ⟨.inputGuard, 1 / 2, .medium, [], "pii=0.500"⟩,
    ⟨.stateMonitor, 1 / 4, .low, [], "loop=0.250"⟩]

/-- Stages without a weight share evenly. -/
theorem base_isMean_weightless :
    checkWeights "aggregation.layer_weights" outputOnly.aggregation.layerWeights.named = .ok () ∧
      weightless ≠ [] ∧ (∀ s ∈ weightless, 0 ≤ s.value ∧ s.value ≤ 1) ∧
      IsMean weightless (outputOnly.aggregate weightless (.anonymous "r") false).breakdown ∧
      (outputOnly.aggregate weightless (.anonymous "r") false).breakdown.base = 1 / 2 := by
  have hw : checkWeights "aggregation.layer_weights" outputOnly.aggregation.layerWeights.named = .ok () := by
    decide +kernel
  have hunit : ∀ s ∈ weightless, 0 ≤ s.value ∧ s.value ≤ 1 := by decide +kernel
  have hmean := outputOnly.base_isMean hw (List.cons_ne_nil _ _) hunit (.anonymous "r") false
  exact ⟨hw, List.cons_ne_nil _ _, hunit, hmean, by decide +kernel⟩

end Aggregator

end Guardrail
