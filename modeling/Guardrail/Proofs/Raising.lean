import Guardrail.Proofs.Shares

/-!
What raises the overall risk.

In exact numbers higher scores and less trust never lower it, step by step: the base is a sum at fixed
shares, trust multiplies it by a number that falls as trust grows, strict mode by one that does not depend
on either, and bringing into `[0, 1]` and finding the level keep the order. Only the number of strict mode
can be below one.
-/

namespace Guardrail

/-! ### Levels -/

lemma Thresholds.classify_mono {ν : Type} [Scalar ν] [Scalar.Ordered ν] (t : Thresholds ν) {x y : ν}
    (h : Scalar.clampUnit x ≤ Scalar.clampUnit y) : t.classify x ≤ t.classify y := by
  -- a bound that is reached stays reached, which leaves no pair of levels that falls
  have hreach {c : ν} (hc : c ≤ Scalar.clampUnit x) : c ≤ Scalar.clampUnit y := Scalar.Ordered.le_trans hc h
  simp only [classify]
  split_ifs <;> first | decide | simp_all

namespace Aggregate

/-! ### Higher scores -/

/-- A score of the same layer that is no lower. -/
def NoLower (s t : RiskScore ℚ) : Prop := t.layer = s.layer ∧ s.value ≤ t.value

/-- Scores of the same layers in the same order, none of them lower than before. -/
def Raised (scores raised : List (RiskScore ℚ)) : Prop := List.Forall₂ NoLower scores raised

variable {chosen chosen' : Keyed Layer (RiskScore ℚ)} {s t : RiskScore ℚ} {scores raised : List (RiskScore ℚ)}

lemma related_choose (h : chosen.Related NoLower chosen') (hst : NoLower s t) :
    (choose chosen s).Related NoLower (choose chosen' t) := by
  have hget := h.get? s.layer.base
  have hset := h.set s.layer.base hst
  unfold choose
  -- whether a score counts depends on layers only, and these are the same
  rw [hst.1]
  generalize chosen.get? s.layer.base = b, chosen'.get? s.layer.base = b' at hget
  cases hget with
  | none => exact hset
  | some hb =>
    simp only [hb.1]
    split
    · exact h
    · exact hset

lemma related_foldl_choose (h : chosen.Related NoLower chosen') (hraised : Raised scores raised) :
    (scores.foldl choose chosen).Related NoLower (raised.foldl choose chosen') := by
  induction hraised generalizing chosen chosen' with
  | nil => exact h
  | cons hst _ ih => exact ih (related_choose h hst)

lemma related_select (hraised : Raised scores raised) :
    (select scores).Related NoLower (select raised) :=
  related_foldl_choose .nil hraised

end Aggregate

namespace Aggregator

open Aggregate

variable (a : Aggregator ℚ)

/-- The stages being the same, higher scores make a higher base. -/
lemma base_mono {scores raised : List (RiskScore ℚ)} {name : String}
    (hw : checkWeights name a.aggregation.layerWeights.named = .ok ()) (hraised : Raised scores raised)
    (context context' : RequestContext ℚ) (blocked blocked' : Bool) :
    (a.aggregate scores context blocked).breakdown.base ≤ (a.aggregate raised context' blocked').breakdown.base := by
  have hrel := related_select hraised
  have hshare : a.share raised = a.share scores := by
    funext l
    simp only [share, hrel.keys]
  rw [base_eq_clampUnit, base_eq_clampUnit, hshare]
  -- both sums are over the same stages, and one is below the other term by term
  refine Scalar.clampUnit_mono (List.Forall₂.sum_le_sum ?_)
  refine List.forall₂_map_left_iff.mpr (List.forall₂_map_right_iff.mpr (hrel.imp fun x y hxy => ?_))
  rw [hxy.1]
  exact mul_le_mul_of_nonneg_left hxy.2.2 (a.share_nonneg hw x.1)

/-! ### Trust and strict mode -/

/-- What a score is multiplied by for little trust. -/
def trustMultiplier (trust : ℚ) : ℚ :=
  if a.aggregation.trustAdjustment = true ∧ Scalar.clampUnit trust < 1 / 2 then
    1 + (1 - Scalar.clampUnit trust) * a.aggregation.trustFactor
  else 1

/-- What a score is multiplied by in strict mode. -/
def strictMultiplier (strict : Bool) : ℚ :=
  if a.aggregation.strictAdjustment = true ∧ strict = true then a.aggregation.strictMultiplier else 1

lemma adjust_trustMultiplier (base : ℚ) (context : RequestContext ℚ) :
    (a.adjust base context).trustMultiplier = a.trustMultiplier context.trust := by
  have hneutral : (neutralTrust : ℚ) = 1 / 2 := by norm_num [neutralTrust, Scalar.decimal]
  have hdef : (a.adjust base context).trustMultiplier =
      if (a.aggregation.trustAdjustment && decide (Scalar.clampUnit context.trust < neutralTrust)) = true then
        1 + (1 - Scalar.clampUnit context.trust) * a.aggregation.trustFactor
      else 1 := rfl
  rw [hdef, hneutral]
  simp [trustMultiplier]

lemma adjust_strictMultiplier (base : ℚ) (context : RequestContext ℚ) :
    (a.adjust base context).strictMultiplier = a.strictMultiplier context.strict := by
  have hdef : (a.adjust base context).strictMultiplier =
      if (a.aggregation.strictAdjustment && context.strict) = true then a.aggregation.strictMultiplier else 1 := rfl
  rw [hdef]
  simp [strictMultiplier]

/-- A score after little trust, in `[0, 1]`. -/
def distrusted (base trust : ℚ) : ℚ := Scalar.clampUnit (Scalar.clampUnit base * a.trustMultiplier trust)

lemma adjust_score (base : ℚ) (context : RequestContext ℚ) : (a.adjust base context).score
    = Scalar.clampUnit (a.distrusted base context.trust * a.strictMultiplier context.strict) := by
  rw [distrusted, ← adjust_trustMultiplier a base, ← adjust_strictMultiplier a base]
  rfl

section

variable {a}

lemma one_le_trustMultiplier (h : 0 ≤ a.aggregation.trustFactor) (trust : ℚ) : 1 ≤ a.trustMultiplier trust := by
  unfold trustMultiplier
  split
  · have hgap : 0 ≤ 1 - Scalar.clampUnit trust := sub_nonneg.mpr (Scalar.clampUnit_mem trust).2
    exact le_add_of_nonneg_right (mul_nonneg hgap h)
  · exact le_rfl

lemma trustMultiplier_anti (h : 0 ≤ a.aggregation.trustFactor) {trust trust' : ℚ} (hle : trust' ≤ trust) :
    a.trustMultiplier trust ≤ a.trustMultiplier trust' := by
  have hclamp := Scalar.clampUnit_mono hle
  by_cases hlow : a.aggregation.trustAdjustment = true ∧ Scalar.clampUnit trust < 1 / 2
  · have hlow' : a.aggregation.trustAdjustment = true ∧ Scalar.clampUnit trust' < 1 / 2 :=
      ⟨hlow.1, hclamp.trans_lt hlow.2⟩
    rw [trustMultiplier, trustMultiplier, if_pos hlow, if_pos hlow']
    gcongr
  · -- enough trust before: it multiplied by one, which is the least there is
    rw [trustMultiplier, if_neg hlow]
    exact one_le_trustMultiplier h trust'

lemma strictMultiplier_pos (h : 0 < a.aggregation.strictMultiplier) (strict : Bool) :
    0 < a.strictMultiplier strict := by
  unfold strictMultiplier
  split
  · exact h
  · exact one_pos

lemma distrusted_mono (h : 0 ≤ a.aggregation.trustFactor) {base base' trust trust' : ℚ} (hbase : base ≤ base')
    (htrust : trust' ≤ trust) : a.distrusted base trust ≤ a.distrusted base' trust' := by
  refine Scalar.clampUnit_mono ?_
  have hpos : 0 ≤ a.trustMultiplier trust := zero_le_one.trans (one_le_trustMultiplier h trust)
  exact mul_le_mul (Scalar.clampUnit_mono hbase) (trustMultiplier_anti h htrust) hpos (Scalar.clampUnit_mem base').1

lemma le_distrusted (h : 0 ≤ a.aggregation.trustFactor) {base : ℚ} (h0 : 0 ≤ base) (h1 : base ≤ 1) (trust : ℚ) :
    base ≤ a.distrusted base trust := by
  unfold distrusted
  rw [Scalar.clampUnit_of_mem h0 h1]
  calc base = Scalar.clampUnit base := (Scalar.clampUnit_of_mem h0 h1).symm
    _ ≤ Scalar.clampUnit (base * a.trustMultiplier trust) :=
      Scalar.clampUnit_mono (le_mul_of_one_le_right h0 (one_le_trustMultiplier h trust))

end

/-- **Higher scores and less trust never lower the overall risk.** Under accepted parameters, if each score of a
list stays or grows, the layers being the same, and trust stays or shrinks, strict mode being as before, then
neither the overall score nor its level gets lower. -/
theorem aggregate_monotone {c : ScoringConfig ℚ} (hc : c.validate = .ok ()) {scores raised : List (RiskScore ℚ)}
    (hraised : Raised scores raised) {context context' : RequestContext ℚ} (hstrict : context'.strict = context.strict)
    (htrust : context'.trust ≤ context.trust) (blocked : Bool) :
    let a : Aggregator ℚ := ⟨c.aggregation, c.escalation, c.thresholds⟩
    (a.aggregate scores context blocked).score ≤ (a.aggregate raised context' blocked).score ∧
      (a.aggregate scores context blocked).level ≤ (a.aggregate raised context' blocked).level := by
  intro a
  obtain ⟨-, -, -, -, haggregation, -, -⟩ := ScoringConfig.validate_ok.mp hc
  obtain ⟨hw, ⟨hfactor, -⟩, hpos, -⟩ := AggregationConfig.validate_ok.mp haggregation
  have hbase := a.base_mono hw hraised context context' blocked blocked
  have hscore : (a.aggregate scores context blocked).score ≤ (a.aggregate raised context' blocked).score := by
    have hdef (scores : List (RiskScore ℚ)) (context : RequestContext ℚ) : (a.aggregate scores context blocked).score
        = (a.adjust (a.aggregate scores context blocked).breakdown.base context).score := rfl
    rw [hdef, hdef, adjust_score, adjust_score, hstrict]
    exact Scalar.clampUnit_mono (mul_le_mul_of_nonneg_right (distrusted_mono hfactor hbase htrust)
      (strictMultiplier_pos hpos context.strict).le)
  exact ⟨hscore, c.thresholds.classify_mono (Scalar.clampUnit_mono hscore)⟩

/-- Three scores, one of them with a shadow. -/
def calmScores : List (RiskScore ℚ) :=
  [⟨.inputGuard, 3 / 4, .medium, [], "pii=0.750"⟩, ⟨Stage.input.shadowLayer, 1 / 4, .low, [], "a test number"⟩,
    ⟨.outputGuard, 1 / 2, .medium, [], "leak=0.500"⟩]

/-- The same with a shadow that finds more. -/
def warnedScores : List (RiskScore ℚ) :=
  [⟨.inputGuard, 3 / 4, .medium, [], "pii=0.750"⟩, ⟨Stage.input.shadowLayer, 1, .critical, [], "a real number"⟩,
    ⟨.outputGuard, 1 / 2, .medium, [], "leak=0.500"⟩]

/-- Someone who is not trusted at all. -/
def distrustedContext : RequestContext ℚ := { (RequestContext.anonymous "r" : RequestContext ℚ) with trust := 0 }

/-- A worse second opinion about someone less trusted takes the risk from low to high. -/
theorem aggregate_monotone_warned :
    (ScoringConfig.standard : ScoringConfig ℚ).validate = .ok () ∧ Raised calmScores warnedScores ∧
      distrustedContext.strict = (RequestContext.anonymous "r" : RequestContext ℚ).strict ∧
      distrustedContext.trust ≤ (RequestContext.anonymous "r" : RequestContext ℚ).trust ∧
      let a : Aggregator ℚ := ⟨.standard, .standard, .standard⟩
      let calm := a.aggregate calmScores (.anonymous "r") false
      let warned := a.aggregate warnedScores distrustedContext false
      (calm.score ≤ warned.score ∧ calm.level ≤ warned.level) ∧ (calm.score, calm.level) = (3 / 8, .low) ∧
        (warned.score, warned.level) = (9 / 10, .high) := by
  have hc : (ScoringConfig.standard : ScoringConfig ℚ).validate = .ok () := by decide +kernel
  have hraised : Raised calmScores warnedScores :=
    .cons ⟨rfl, le_rfl⟩ (.cons ⟨rfl, by decide +kernel⟩ (.cons ⟨rfl, le_rfl⟩ .nil))
  have hstrict : distrustedContext.strict = (RequestContext.anonymous "r" : RequestContext ℚ).strict := rfl
  have htrust : distrustedContext.trust ≤ (RequestContext.anonymous "r" : RequestContext ℚ).trust := by decide +kernel
  exact ⟨hc, hraised, hstrict, htrust, aggregate_monotone hc hraised hstrict htrust false, by decide +kernel,
    by decide +kernel⟩

/-! ### What strict mode may take away -/

lemma le_clampUnit_iff {x y : ℚ} (hpos : 0 < x) (hone : x ≤ 1) : x ≤ Scalar.clampUnit y ↔ x ≤ y := by
  rw [Scalar.clampUnit_exact, le_sup_iff, le_inf_iff]
  exact ⟨fun h => h.elim (fun h0 => absurd h0 hpos.not_ge) And.left, fun h => .inr ⟨h, hone⟩⟩

lemma adjust_strict {base : ℚ} {context : RequestContext ℚ} (h : a.aggregation.strictAdjustment = true) :
    (a.adjust base { context with strict := true }).score
      = Scalar.clampUnit (a.distrusted base context.trust * a.aggregation.strictMultiplier) := by
  rw [adjust_score, strictMultiplier, if_pos ⟨h, rfl⟩]

/-- Without strict mode, or where it changes nothing, trust has the last word. -/
lemma adjust_not_strict {base : ℚ} {context : RequestContext ℚ} {strict : Bool}
    (h : ¬ (a.aggregation.strictAdjustment = true ∧ strict = true)) :
    (a.adjust base { context with strict }).score = a.distrusted base context.trust := by
  rw [adjust_score, strictMultiplier, if_neg h, mul_one]
  exact Scalar.clampUnit_clampUnit _

/-- Strict mode undoes no more than trust has added. -/
lemma le_distrusted_mul_iff (h : 0 ≤ a.aggregation.trustFactor) {base trust m : ℚ} (hm : 0 < m) (hpos : 0 < base)
    (h1 : base ≤ 1) : base ≤ a.distrusted base trust * m ↔ base ≤ m ∧ 1 ≤ a.trustMultiplier trust * m := by
  have hmultiplier : 0 ≤ a.trustMultiplier trust := zero_le_one.trans (one_le_trustMultiplier h trust)
  have hdistrusted : a.distrusted base trust = base * a.trustMultiplier trust ⊓ 1 := by
    rw [distrusted, Scalar.clampUnit_of_mem hpos.le h1, Scalar.clampUnit_exact]
    exact sup_eq_right.mpr (le_inf (mul_nonneg hpos.le hmultiplier) zero_le_one)
  calc base ≤ a.distrusted base trust * m
      ↔ base ≤ base * (a.trustMultiplier trust * m) ∧ base ≤ m := by
        rw [hdistrusted, min_mul_of_nonneg _ _ hm.le, one_mul, mul_assoc, le_min_iff]
    _ ↔ base ≤ m ∧ 1 ≤ a.trustMultiplier trust * m := by
        rw [le_mul_iff_one_le_right hpos, and_comm]

/-- **Of the context only strict mode ever lowers a score.** Under accepted parameters a score in `[0, 1]` is
adjusted to one no smaller when strict mode is off, whatever the trust. Strict mode gives no smaller score than that
exactly if the score is zero or strict mode, as far as it counts, multiplies by one at least; and no smaller one
than the score itself exactly if that is zero or strict mode does not count, or what it multiplies by is no smaller
than the score and takes back no more than trust has added. -/
theorem adjust_lowers_only_strict {c : ScoringConfig ℚ} (hc : c.validate = .ok ()) {base : ℚ} (h0 : 0 ≤ base)
    (h1 : base ≤ 1) (context : RequestContext ℚ) :
    let a : Aggregator ℚ := ⟨c.aggregation, c.escalation, c.thresholds⟩
    let score (strict : Bool) := (a.adjust base { context with strict }).score
    base ≤ score false ∧
      (score false ≤ score true ↔
        base = 0 ∨ (c.aggregation.strictAdjustment = true → 1 ≤ c.aggregation.strictMultiplier)) ∧
      (base ≤ score true ↔ base = 0 ∨ (c.aggregation.strictAdjustment = true →
        base ≤ c.aggregation.strictMultiplier ∧
          1 ≤ (a.adjust base context).trustMultiplier * c.aggregation.strictMultiplier)) := by
  intro a score
  obtain ⟨-, -, -, -, haggregation, -, -⟩ := ScoringConfig.validate_ok.mp hc
  obtain ⟨-, ⟨hfactor, -⟩, hpos, -⟩ := AggregationConfig.validate_ok.mp haggregation
  have hcalm : score false = a.distrusted base context.trust := a.adjust_not_strict (by simp)
  have hlow : base ≤ a.distrusted base context.trust := le_distrusted hfactor h0 h1 context.trust
  have hhigh : a.distrusted base context.trust ≤ 1 := (Scalar.clampUnit_mem _).2
  refine ⟨hcalm ▸ hlow, ?_⟩
  rcases h0.eq_or_lt with rfl | hbase
  · -- zero stays zero, whatever it is multiplied by
    have hstrict : 0 ≤ score true := (Scalar.clampUnit_mem _).1
    have hnone : score false = 0 := by
      rw [hcalm, distrusted, Scalar.clampUnit_of_mem h0 h1, zero_mul, Scalar.clampUnit_of_mem h0 h1]
    simp [hnone, hstrict]
  cases hon : c.aggregation.strictAdjustment with
  | false =>
    have hsame : score true = a.distrusted base context.trust := a.adjust_not_strict (by simp [a, hon])
    simp [hsame, hcalm, hlow]
  | true =>
    have hstrict : score true = Scalar.clampUnit (a.distrusted base context.trust * c.aggregation.strictMultiplier) :=
      a.adjust_strict hon
    rw [hstrict, hcalm, le_clampUnit_iff (hbase.trans_le hlow) hhigh, le_clampUnit_iff hbase h1,
      le_mul_iff_one_le_right (hbase.trans_le hlow), a.le_distrusted_mul_iff hfactor hpos hbase h1,
      adjust_trustMultiplier]
    simp [hbase.ne']

/-- Standard parameters but for what strict mode multiplies by. -/
def strictBy (multiplier : ℚ) : ScoringConfig ℚ :=
  { ScoringConfig.standard with aggregation := { AggregationConfig.standard with strictMultiplier := multiplier } }

/-- Strict mode takes back some of what distrust has added, but not all of it. -/
theorem adjust_lowers_only_strict_nearly : (strictBy (9 / 10)).validate = .ok () ∧ (0 : ℚ) ≤ 1 / 2 ∧ (1 : ℚ) / 2 ≤ 1 ∧
    let a : Aggregator ℚ := ⟨(strictBy (9 / 10)).aggregation, .standard, .standard⟩
    let score (strict : Bool) := (a.adjust (1 / 2) { distrustedContext with strict }).score
    1 / 2 ≤ score false ∧ ¬ score false ≤ score true ∧ 1 / 2 ≤ score true := by
  have hc : (strictBy (9 / 10)).validate = .ok () := by decide +kernel
  have h0 : (0 : ℚ) ≤ 1 / 2 := by norm_num
  have h1 : (1 : ℚ) / 2 ≤ 1 := by norm_num
  obtain ⟨hcalm, hstrict, hbase⟩ := adjust_lowers_only_strict hc h0 h1 distrustedContext
  refine ⟨hc, h0, h1, hcalm, fun h => ?_, hbase.mpr (.inr fun _ => ?_)⟩
  · rcases hstrict.mp h with hzero | hmore
    · norm_num at hzero
    · exact absurd (hmore rfl) (by decide +kernel)
  · decide +kernel

/-- Strict mode may multiply by less than one, and then it lowers a score. -/
theorem strict_mode_lowers : (strictBy (1 / 2)).validate = .ok () ∧
    let a : Aggregator ℚ := ⟨(strictBy (1 / 2)).aggregation, .standard, .standard⟩
    let score (strict : Bool) := (a.adjust (3 / 5) { RequestContext.anonymous "r" with strict }).score
    score true = 3 / 10 ∧ ¬ 3 / 5 ≤ score true ∧ ¬ score false ≤ score true :=
  ⟨by decide +kernel, by decide +kernel, by decide +kernel, by decide +kernel⟩

end Aggregator

end Guardrail
