import Guardrail.Proofs.Selection
import Mathlib.Data.List.Perm.Basic
import Mathlib.Data.List.Nodup
import Mathlib.Data.List.Find
import Mathlib.Data.List.Forall2
import Mathlib.Data.List.Induction

/-!
In which order scores come, and shadows put for what they stand for.

The score that counts for a stage is read off the list: the last one of its shadow, or else the last one by rules.
With at most one score to a layer that does not depend on the order. What a score counts with is its stage and its
value, so a shadow and the score it stands for may be written as one score by rules.
-/

namespace Guardrail

attribute [ext] Layer

/-! ### Maps with the same values -/

namespace Keyed

variable {κ α β : Type} [Ord κ] [Std.LawfulEqOrd κ] {m m' : Keyed κ α}

lemma Ascending.nodup_keys (h : m.Ascending) : (m.map (·.1)).Nodup := by
  refine List.pairwise_map.mpr (h.imp fun {x y} hlt heq => ?_)
  rw [heq, @Std.ReflCmp.compare_self _ compare] at hlt
  cases hlt

lemma Ascending.mem_iff (h : m.Ascending) {k : κ} {v : α} : (k, v) ∈ m ↔ m.get? k = some v :=
  ⟨get?_of_mem h.nodup_keys, mem_of_get?⟩

/-- Ascending maps that read alike are one. -/
lemma Ascending.ext [Std.TransOrd κ] (h : m.Ascending) (h' : m'.Ascending) (hget : ∀ k, m.get? k = m'.get? k) : m = m' := by
  have hperm : m.Perm m' := by
    refine (List.perm_ext_iff_of_nodup h.nodup_keys.of_map h'.nodup_keys.of_map).mpr fun ⟨k, v⟩ => ?_
    rw [h.mem_iff, h'.mem_iff, hget]
  refine hperm.eq_of_pairwise (fun x y _ _ hxy hyx => ?_) h h'
  rw [Std.OrientedCmp.gt_of_lt hxy] at hyx
  cases hyx

omit [Std.LawfulEqOrd κ] in
lemma Ascending.mapValues (h : m.Ascending) (f : α → β) : (m.mapValues f).Ascending :=
  List.pairwise_map.mpr h

end Keyed

namespace Aggregate

variable {ν : Type} {chosen : Keyed Layer (RiskScore ν)} {s : RiskScore ν} {scores merged : List (RiskScore ν)}

/-! ### The score that counts -/

/-- The last score of a layer. -/
def lastOf (scores : List (RiskScore ν)) (l : Layer) : Option (RiskScore ν) :=
  scores.reverse.find? fun s => s.layer == l

/-- The score that counts for a stage: the last one of its shadow, or else the last one by rules. -/
def standing (scores : List (RiskScore ν)) (stage : Stage) : Option (RiskScore ν) :=
  (lastOf scores stage.shadowLayer).or (lastOf scores stage.ruleLayer)

lemma lastOf_append (scores : List (RiskScore ν)) (s : RiskScore ν) (l : Layer) :
    lastOf (scores ++ [s]) l = if s.layer = l then some s else lastOf scores l := by
  by_cases h : s.layer = l <;> simp [lastOf, h]

lemma layer_of_lastOf {l : Layer} (h : lastOf scores l = some s) : s.layer = l := by
  simpa using List.find?_some h

lemma lastOf_eq_some_iff (hone : (scores.map (·.layer)).Nodup) {l : Layer} :
    lastOf scores l = some s ↔ s ∈ scores ∧ s.layer = l := by
  constructor
  · exact fun h => ⟨List.mem_reverse.mp (List.mem_of_find?_eq_some h), layer_of_lastOf h⟩
  · rintro ⟨hs, rfl⟩
    obtain ⟨t, ht⟩ : ∃ t, lastOf scores s.layer = some t :=
      Option.isSome_iff_exists.mp (List.find?_isSome.mpr ⟨s, List.mem_reverse.mpr hs, by simp⟩)
    have hmem : t ∈ scores := List.mem_reverse.mp (List.mem_of_find?_eq_some ht)
    rw [ht, List.inj_on_of_nodup_map hone hmem hs (layer_of_lastOf ht)]

lemma lastOf_of_perm (hone : (scores.map (·.layer)).Nodup) (hperm : scores.Perm merged) (l : Layer) :
    lastOf merged l = lastOf scores l := by
  have hone' : (merged.map (·.layer)).Nodup := (hperm.map _).nodup_iff.mp hone
  refine Option.ext fun s => ?_
  rw [lastOf_eq_some_iff hone, lastOf_eq_some_iff hone', hperm.mem_iff]

/-- Of what counts, a shadow is what the layer of the shadow has. -/
lemma filter_isShadow_standing (scores : List (RiskScore ν)) (stage : Stage) :
    (standing scores stage).filter (·.layer.isShadow) = lastOf scores stage.shadowLayer := by
  unfold standing
  cases hshadow : lastOf scores stage.shadowLayer with
  | some s => simp [layer_of_lastOf hshadow, Stage.shadowLayer]
  | none =>
    cases hrule : lastOf scores stage.ruleLayer with
    | some s => simp [layer_of_lastOf hrule, Stage.ruleLayer]
    | none => rfl

/-- A score by rules counts from where it comes, unless a shadow does already. -/
lemma get?_choose_rule (h : s.layer.isShadow = false) : (choose chosen s).get? s.layer.base
    = ((chosen.get? s.layer.base).filter (·.layer.isShadow)).or (some s) := by
  unfold choose
  cases hbefore : chosen.get? s.layer.base with
  | none => simp [Keyed.get?_set_self]
  | some b =>
    cases hb : b.layer.isShadow <;> simp [h, hb, hbefore, Keyed.get?_set_self, Option.filter]

/-- What counts for a stage stays what is read off the list, one score on. -/
lemma get?_choose_standing {stage : Stage} (h : chosen.get? stage.ruleLayer = standing scores stage) :
    (choose chosen s).get? stage.ruleLayer = standing (scores ++ [s]) stage := by
  unfold standing
  rw [lastOf_append, lastOf_append]
  by_cases hshadow : s.layer = stage.shadowLayer
  · have hbase : s.layer.base = stage.ruleLayer := by rw [hshadow]; rfl
    rw [if_pos hshadow, Option.some_or, ← hbase, get?_choose_self (.inl (by rw [hshadow]; rfl))]
  by_cases hrule : s.layer = stage.ruleLayer
  · have hbase : s.layer.base = stage.ruleLayer := by rw [hrule]; rfl
    rw [if_neg hshadow, if_pos hrule, ← hbase, get?_choose_rule (by rw [hrule]; rfl), hbase, h,
      filter_isShadow_standing]
  · have hbase : s.layer.base ≠ stage.ruleLayer := by
      intro hbase
      obtain ⟨⟨st, _ | _⟩, _⟩ := s
      · exact hrule hbase
      · exact hshadow (congrArg (fun l => l.stage.shadowLayer) hbase)
    rw [if_neg hshadow, if_neg hrule, get?_choose_of_ne hbase, h, standing]

lemma get?_select_ruleLayer (scores : List (RiskScore ν)) (stage : Stage) :
    (select scores).get? stage.ruleLayer = standing scores stage := by
  induction scores using List.reverseRecOn with
  | nil => rfl
  | append_singleton scores s ih =>
    rw [select_append]
    exact get?_choose_standing ih

lemma get?_select_eq (scores : List (RiskScore ν)) (l : Layer) :
    (select scores).get? l = if l.isShadow then none else standing scores l.stage := by
  obtain ⟨stage, _ | _⟩ := l
  · exact get?_select_ruleLayer scores stage
  · exact get?_foldl_choose_of_ne fun _ _ h => Bool.false_ne_true (congrArg Layer.isShadow h)

lemma ascending_select (scores : List (RiskScore ν)) : (select scores).Ascending :=
  ascending_foldl_choose .nil scores

/-- Of one score to a layer the order says nothing about which count. -/
lemma select_of_perm (hone : (scores.map (·.layer)).Nodup) (hperm : scores.Perm merged) :
    select merged = select scores := by
  refine (ascending_select merged).ext (ascending_select scores) fun l => ?_
  rw [get?_select_eq, get?_select_eq, standing, standing, lastOf_of_perm hone hperm, lastOf_of_perm hone hperm]

/-! ### The stages there are scores for -/

lemma mem_select {l : Layer} :
    (l, s) ∈ select scores ↔ l.isShadow = false ∧ standing scores l.stage = some s := by
  rw [(ascending_select scores).mem_iff, get?_select_eq]
  cases l.isShadow <;> simp

lemma mem_of_standing {stage : Stage} (h : standing scores stage = some s) :
    s ∈ scores ∧ s.layer.stage = stage := by
  have hlast (l : Layer) (hl : lastOf scores l = some s) : s ∈ scores ∧ s.layer.stage = l.stage :=
    ⟨List.mem_reverse.mp (List.mem_of_find?_eq_some hl), congrArg Layer.stage (layer_of_lastOf hl)⟩
  rcases Option.or_eq_some_iff.mp h with hshadow | ⟨-, hrule⟩
  · exact hlast stage.shadowLayer hshadow
  · exact hlast stage.ruleLayer hrule

lemma exists_standing (hs : s ∈ scores) : ∃ t, standing scores s.layer.stage = some t := by
  have hlast : (lastOf scores s.layer).isSome = true :=
    List.isSome_find?.trans (List.any_eq_true.mpr ⟨s, List.mem_reverse.mpr hs, beq_self_eq_true _⟩)
  refine Option.isSome_iff_exists.mp (Option.isSome_or.trans ?_)
  obtain ⟨⟨stage, _ | _⟩, _⟩ := s
  · exact Bool.or_eq_true_iff.mpr (.inr hlast)
  · exact Bool.or_eq_true_iff.mpr (.inl hlast)

/-- There is a score for a stage exactly if one counts for it. -/
lemma mem_keys_select {l : Layer} :
    l ∈ (select scores).map (·.1) ↔ ∃ s ∈ scores, s.layer.base = l := by
  constructor
  · intro hl
    obtain ⟨⟨l, s⟩, hs, rfl⟩ := List.mem_map.mp hl
    obtain ⟨hrule, hstanding⟩ := mem_select.mp hs
    obtain ⟨hmem, hstage⟩ := mem_of_standing hstanding
    exact ⟨s, hmem, Layer.ext hstage hrule.symm⟩
  · rintro ⟨s, hs, rfl⟩
    obtain ⟨t, ht⟩ := exists_standing hs
    exact List.mem_map.mpr ⟨(s.layer.base, t), mem_select.mpr ⟨rfl, ht⟩, rfl⟩

lemma select_ne_nil (h : scores ≠ []) : select scores ≠ [] := by
  obtain ⟨s, hs⟩ := List.exists_mem_of_ne_nil scores h
  intro hnil
  have hkey := mem_keys_select.mpr ⟨s, hs, rfl⟩
  rw [hnil] at hkey
  cases hkey

/-- Where all scores are of one stage, nothing else counts than the one that counts for it. -/
lemma standing_of_alone {stage : Stage} (h : ∀ s ∈ scores, s.layer.stage = stage) :
    ∀ x ∈ select scores, standing scores stage = some x.2 := by
  intro x hx
  obtain ⟨-, hstanding⟩ := mem_select.mp hx
  obtain ⟨hmem, hstage⟩ := mem_of_standing hstanding
  rwa [← hstage, h _ hmem] at hstanding

/-! ### Shadows as scores by rules -/

/-- A score by rules where the shadow of its stage has one. -/
def overruled (scores : List (RiskScore ν)) (s : RiskScore ν) : Bool :=
  !s.layer.isShadow && scores.any (·.layer == s.layer.shadow)

/-- One score by rules in the place of each shadow and the score it stands for, of the value of the shadow.
Other scores keep their value; of the rest of a score nothing is asked. -/
def Merged (scores merged : List (RiskScore ν)) : Prop :=
  List.Forall₂ (fun s m => m.layer = s.layer.base ∧ m.value = s.value)
    (scores.filter fun s => !overruled scores s) merged

/-- Scores that correspond in stage and value have last ones that do. -/
lemma value_lastOf_of_forall₂ {kept : List (RiskScore ν)}
    (h : List.Forall₂ (fun s m => m.layer = s.layer.base ∧ m.value = s.value) kept merged) (l : Layer) :
    (lastOf merged l).map (·.value) = (kept.reverse.find? (·.layer.base == l)).map (·.value) := by
  unfold lastOf
  have hreverse := List.forall₂_reverse_iff.mpr h
  generalize merged.reverse = ms at hreverse
  generalize kept.reverse = ks at hreverse
  induction hreverse with
  | nil => rfl
  | @cons s m _ _ hm _ ih =>
    rw [List.find?_cons, List.find?_cons, hm.1]
    split
    · simp [hm.2]
    · exact ih

/-- Where a stage has a shadow only its scores are left, and elsewhere those by rules are. -/
lemma not_overruled_of_stage (hs : s ∈ scores) (stage : Stage) :
    (!overruled scores s && s.layer.base == stage.ruleLayer)
      = (s.layer == if scores.any (·.layer == stage.shadowLayer) then stage.shadowLayer else stage.ruleLayer) := by
  by_cases hst : s.layer.stage = stage
  · subst hst
    cases hshadow : s.layer.isShadow with
    | true =>
      have hself : s.layer = s.layer.stage.shadowLayer := Layer.ext rfl hshadow
      have hany : scores.any (·.layer == s.layer.stage.shadowLayer) = true :=
        List.any_eq_true.mpr ⟨s, hs, beq_iff_eq.mpr hself⟩
      rw [hany, if_pos rfl, ← hself]
      simp [overruled, hshadow, Layer.base, Stage.ruleLayer]
    | false =>
      have hself : s.layer = s.layer.stage.ruleLayer := Layer.ext rfl hshadow
      have hover : overruled scores s = scores.any (·.layer == s.layer.stage.shadowLayer) := by
        simp [overruled, hshadow, Layer.shadow, Stage.shadowLayer]
      rw [hover]
      split
      · next hany =>
        have hne : s.layer ≠ s.layer.stage.shadowLayer := fun h => by
          rw [h] at hshadow
          cases hshadow
        rw [hany, beq_false_of_ne hne, Bool.not_true, Bool.false_and]
      · next hany => simpa [hany, Layer.base, Stage.ruleLayer] using hself
  · have hbase : s.layer.base ≠ stage.ruleLayer := fun h => hst (congrArg Layer.stage h)
    have hchosen : s.layer ≠ if scores.any (·.layer == stage.shadowLayer) then stage.shadowLayer
        else stage.ruleLayer := by
      split <;> exact fun h => hst (congrArg Layer.stage h)
    rw [beq_false_of_ne hbase, beq_false_of_ne hchosen, Bool.and_false]

/-- Of the scores that are not overruled the last of a stage is the one that counts. -/
lemma find?_not_overruled (scores : List (RiskScore ν)) (stage : Stage) :
    (scores.filter fun s => !overruled scores s).reverse.find? (·.layer.base == stage.ruleLayer)
      = standing scores stage := by
  have hany : (lastOf scores stage.shadowLayer).isSome = scores.any (·.layer == stage.shadowLayer) := by
    rw [lastOf, List.isSome_find?, List.any_reverse]
  rw [← List.filter_reverse, List.find?_filter, standing]
  calc scores.reverse.find? (fun s => !overruled scores s ∧ s.layer.base == stage.ruleLayer)
      = lastOf scores (if (lastOf scores stage.shadowLayer).isSome then stage.shadowLayer else stage.ruleLayer) := by
        refine List.find?_congr fun s hs => ?_
        rw [hany, ← not_overruled_of_stage (List.mem_reverse.mp hs), Bool.decide_and, Bool.decide_coe, Bool.decide_coe]
    _ = (lastOf scores stage.shadowLayer).or (lastOf scores stage.ruleLayer) := by
        cases hshadow : lastOf scores stage.shadowLayer <;> simp [hshadow]

/-- Merged scores count with the values that those they were merged from count with. -/
lemma value_standing_of_merged (h : Merged scores merged) (stage : Stage) :
    (standing merged stage).map (·.value) = (standing scores stage).map (·.value) := by
  have hrule := value_lastOf_of_forall₂ h stage.ruleLayer
  rw [find?_not_overruled] at hrule
  have hshadow : lastOf merged stage.shadowLayer = none := by
    rw [← Option.map_eq_none_iff (f := (·.value)), value_lastOf_of_forall₂ h, Option.map_eq_none_iff]
    exact List.find?_eq_none.mpr fun s _ hs =>
      Bool.false_ne_true (congrArg Layer.isShadow (eq_of_beq hs))
  rw [standing, hshadow, Option.none_or, hrule]

lemma values_select_of_merged (h : Merged scores merged) :
    (select merged).mapValues (·.value) = (select scores).mapValues (·.value) := by
  refine ((ascending_select merged).mapValues _).ext ((ascending_select scores).mapValues _) fun l => ?_
  rw [Keyed.get?_mapValues, Keyed.get?_mapValues, get?_select_eq, get?_select_eq]
  split
  · rfl
  · exact value_standing_of_merged h l.stage

/-- Two scores of a stage that are not overruled are of one layer. -/
lemma layer_eq_of_base {t : RiskScore ν} (hs : s ∈ scores.filter fun s => !overruled scores s)
    (ht : t ∈ scores.filter fun s => !overruled scores s) (hbase : s.layer.base = t.layer.base) :
    s.layer = t.layer := by
  have hstage : s.layer.stage = t.layer.stage := (congrArg Layer.stage hbase :)
  have hrule : ∀ {s t : RiskScore ν}, s ∈ scores.filter (fun s => !overruled scores s) → t ∈ scores →
      s.layer.stage = t.layer.stage → t.layer.isShadow = true → s.layer.isShadow = true := by
    intro s t hs ht hstage hshadow
    by_contra hnot
    have hover : overruled scores s = true := by
      refine Bool.and_eq_true_iff.mpr ⟨by simpa using hnot, List.any_eq_true.mpr ⟨t, ht, ?_⟩⟩
      exact beq_iff_eq.mpr (Layer.ext hstage.symm hshadow)
    simp [hover] at hs
  refine Layer.ext hstage (Bool.eq_iff_iff.mpr ⟨fun h => ?_, fun h => ?_⟩)
  · exact hrule ht (List.mem_of_mem_filter hs) hstage.symm h
  · exact hrule hs (List.mem_of_mem_filter ht) hstage h

lemma nodup_of_merged (hone : (scores.map (·.layer)).Nodup) (h : Merged scores merged) :
    (merged.map (·.layer)).Nodup := by
  have hlayers : merged.map (·.layer)
      = (scores.filter fun s => !overruled scores s).map (·.layer.base) := by
    refine (List.forall₂_eq_eq_eq ▸ List.forall₂_map_left_iff.mpr (List.forall₂_map_right_iff.mpr ?_))
    exact h.flip.imp fun _ _ hm => hm.1
  rw [hlayers]
  refine List.Nodup.map_on (fun s hs t ht hbase => ?_) (hone.of_map.filter _)
  exact List.inj_on_of_nodup_map hone (List.mem_of_mem_filter hs) (List.mem_of_mem_filter ht)
    (layer_eq_of_base hs ht hbase)

/-- Two overall risks are one number, come about with one set of weights and multipliers and ask alike for a
second opinion. -/
structure SameRisk (before after : Aggregate ν) : Prop where
  score : after.score = before.score
  level : after.level = before.level
  base : after.breakdown.base = before.breakdown.base
  weights : after.breakdown.weights = before.breakdown.weights
  trustMultiplier : after.breakdown.trustMultiplier = before.breakdown.trustMultiplier
  strictMultiplier : after.breakdown.strictMultiplier = before.breakdown.strictMultiplier
  escalates : after.escalates = before.escalates

end Aggregate

/-! ### The overall risk -/

namespace Aggregator

variable {ν : Type} [Scalar ν] (a : Aggregator ν) {scores merged : List (RiskScore ν)}
  (context : RequestContext ν) (blocked : Bool)

/-- The weighted sum of values, in the order of their stages. -/
def baseOf (values : Keyed Layer ν) : ν :=
  let weights := Aggregate.effectiveWeights a.aggregation.layerWeights (values.map (·.1))
  Scalar.clampUnit ((values.zipWith (fun v w => w.2 * v.2) weights).foldl (· + ·) 0)

/-- Scores go into the weighted sum with their stages and values only. -/
lemma aggregate_base (scores : List (RiskScore ν)) : (a.aggregate scores context blocked).breakdown.base
    = a.baseOf ((Aggregate.select scores).mapValues (·.value)) := by
  simp [aggregate, baseOf, Keyed.mapValues, List.zipWith_map_left, List.zip, List.map_zipWith,
    Function.comp_def]

/-- All else in which risks are compared follows from the base and the weights. -/
lemma sameRisk_of_base
    (hweights : (a.aggregate merged context blocked).breakdown.weights
      = (a.aggregate scores context blocked).breakdown.weights)
    (hbase : (a.aggregate merged context blocked).breakdown.base
      = (a.aggregate scores context blocked).breakdown.base) :
    (a.aggregate scores context blocked).SameRisk (a.aggregate merged context blocked) := by
  have hadjust := congrArg (a.adjust · context) hbase
  exact {
    score := congrArg Adjustment.score hadjust
    level := congrArg (fun x : Adjustment ν => a.thresholds.classify x.score) hadjust
    base := hbase
    weights := hweights
    trustMultiplier := congrArg Adjustment.trustMultiplier hadjust
    strictMultiplier := congrArg Adjustment.strictMultiplier hadjust
    escalates :=
      congrArg (fun x : Adjustment ν => a.escalation.enabled && !blocked && a.inBand x.score) hadjust }

lemma aggregate_of_perm (hone : (scores.map (·.layer)).Nodup) (hperm : scores.Perm merged) :
    a.aggregate merged context blocked = a.aggregate scores context blocked := by
  simp only [aggregate, Aggregate.select_of_perm hone hperm]

lemma sameRisk_of_merged (h : Aggregate.Merged scores merged) :
    (a.aggregate scores context blocked).SameRisk (a.aggregate merged context blocked) := by
  have hvalues := Aggregate.values_select_of_merged h
  have hkeys : (Aggregate.select merged).map (·.1) = (Aggregate.select scores).map (·.1) := by
    simpa [Keyed.mapValues, Function.comp_def] using congrArg (List.map (·.1)) hvalues
  refine a.sameRisk_of_base context blocked ?_ ?_
  · rw [aggregate_weights, aggregate_weights, hkeys]
  · rw [aggregate_base, aggregate_base, hvalues]

/-- **The overall risk is that of a set of scores, a shadow counting in the place of what it stands for.** Of scores
with one to a layer at most any order gives the same overall risk, field for field. Written as one score by rules of
the value of the shadow, each shadow and the score it stands for give the same number, level, base, weights and
multipliers and the same answer whether to ask for a second opinion, again in any order. -/
theorem aggregate_perm_and_merged (hone : (scores.map (·.layer)).Nodup) :
    (∀ others, scores.Perm others →
      a.aggregate others context blocked = a.aggregate scores context blocked) ∧
    ∀ merged others, Aggregate.Merged scores merged → merged.Perm others →
      (a.aggregate scores context blocked).SameRisk (a.aggregate others context blocked) := by
  constructor
  · intro others hperm
    exact a.aggregate_of_perm context blocked hone hperm
  · intro merged others h hperm
    rw [a.aggregate_of_perm context blocked (Aggregate.nodup_of_merged hone h) hperm]
    exact a.sameRisk_of_merged context blocked h

/-- Scores of two stages, the first of them with a shadow. -/
def shadowedScores : List RiskScore :=
  [⟨.outputGuard, 0.25, .low, [], "no risk signals"⟩, ⟨Stage.input.shadowLayer, 0.75, .high, [], "override attempt"⟩,
    ⟨.inputGuard, 0.5, .medium, [("pii", 0.5)], "pii=0.500"⟩]

/-- The same with the shadow as a score by rules. -/
def mergedScores : List RiskScore :=
  [⟨.outputGuard, 0.25, .low, [], "no risk signals"⟩, ⟨.inputGuard, 0.75, .high, [], "override attempt"⟩]

/-- A score by rules that comes after the shadow of its stage leaves it in place. -/
theorem aggregate_shadowedScores : (shadowedScores.map (·.layer)).Nodup ∧
    aggregate ⟨.standard, .standard, .standard⟩ shadowedScores.reverse (.anonymous "r") false
      = aggregate ⟨.standard, .standard, .standard⟩ shadowedScores (.anonymous "r") false ∧
    (aggregate ⟨.standard, .standard, .standard⟩ shadowedScores (.anonymous "r") false).SameRisk
      (aggregate ⟨.standard, .standard, .standard⟩ mergedScores (.anonymous "r") false) := by
  have hone : (shadowedScores.map (·.layer)).Nodup := by decide
  have hmerged : Aggregate.Merged shadowedScores mergedScores :=
    .cons ⟨rfl, rfl⟩ (.cons ⟨rfl, rfl⟩ .nil)
  obtain ⟨hperm, hsame⟩ :=
    aggregate_perm_and_merged ⟨.standard, .standard, .standard⟩ (.anonymous "r") false hone
  exact ⟨hone, hperm _ (List.reverse_perm _).symm, hsame _ _ hmerged (.refl _)⟩

end Aggregator

end Guardrail
