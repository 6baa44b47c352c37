import Guardrail.Risk.Aggregate
import Guardrail.Proofs.Maps

/-!
Which score counts for each stage.

Later scores take the place of earlier ones of the same stage, but a score by rules never takes that
of a shadow. Scores of stages that are there already change no weights.
-/

namespace Guardrail

namespace Aggregate

variable {ν : Type} {chosen : Keyed Layer (RiskScore ν)} {s : RiskScore ν} {scores : List (RiskScore ν)}

lemma choose_eq (chosen : Keyed Layer (RiskScore ν)) (s : RiskScore ν) :
    choose chosen s = chosen.set s.layer.base s ∨ choose chosen s = chosen ∧
      s.layer.isShadow = false ∧ ∃ b, chosen.get? s.layer.base = some b := by
  unfold choose
  split
  · next b hb =>
    split
    · next h => exact .inr ⟨rfl, by simp_all, b, hb⟩
    · exact .inl rfl
  · exact .inl rfl

lemma get?_choose_self (h : s.layer.isShadow = true ∨ chosen.get? s.layer.base = none) :
    (choose chosen s).get? s.layer.base = some s := by
  rcases choose_eq chosen s with hset | ⟨-, hrule, b, hb⟩
  · rw [hset, Keyed.get?_set_self]
  · simp [hrule, hb] at h

lemma get?_choose_of_ne {l : Layer} (h : s.layer.base ≠ l) :
    (choose chosen s).get? l = chosen.get? l := by
  rcases choose_eq chosen s with hset | ⟨hsame, -⟩
  · rw [hset, Keyed.get?_set_of_ne h.symm]
  · rw [hsame]

lemma ascending_choose (h : chosen.Ascending) (s : RiskScore ν) : (choose chosen s).Ascending := by
  rcases choose_eq chosen s with hset | ⟨hsame, -⟩
  · rw [hset]
    exact h.set ..
  · rwa [hsame]

lemma keys_choose (h : chosen.Ascending) (hs : s.layer.base ∈ chosen.map (·.1)) :
    (choose chosen s).map (·.1) = chosen.map (·.1) := by
  rcases choose_eq chosen s with hset | ⟨hsame, -⟩
  · rw [hset, Keyed.keys_set_of_mem h hs]
  · rw [hsame]

lemma get?_foldl_choose_of_ne {l : Layer} (h : ∀ s ∈ scores, s.layer.base ≠ l) :
    (scores.foldl choose chosen).get? l = chosen.get? l := by
  induction scores generalizing chosen with
  | nil => rfl
  | cons s scores ih =>
    obtain ⟨hs, hscores⟩ := List.forall_mem_cons.mp h
    rw [List.foldl_cons, ih hscores, get?_choose_of_ne hs]

/-- Of scores of different stages each counts, but for one by rules where something counts already. -/
lemma get?_foldl_choose (hne : scores.Pairwise fun s t => s.layer.base ≠ t.layer.base)
    (hs : s ∈ scores) (h : s.layer.isShadow = true ∨ chosen.get? s.layer.base = none) :
    (scores.foldl choose chosen).get? s.layer.base = some s := by
  induction scores generalizing chosen with
  | nil => cases hs
  | cons t scores ih =>
    obtain ⟨hfirst, hne⟩ := List.pairwise_cons.mp hne
    rw [List.foldl_cons]
    rcases List.mem_cons.mp hs with rfl | hs
    · rw [get?_foldl_choose_of_ne fun u hu => (hfirst u hu).symm, get?_choose_self h]
    · refine ih hne hs ?_
      rwa [get?_choose_of_ne (hfirst s hs)]

lemma ascending_foldl_choose (h : chosen.Ascending) (scores : List (RiskScore ν)) :
    (scores.foldl choose chosen).Ascending := by
  induction scores generalizing chosen with
  | nil => exact h
  | cons s scores ih => exact ih (ascending_choose h s)

lemma keys_foldl_choose (h : chosen.Ascending)
    (hs : ∀ s ∈ scores, s.layer.base ∈ chosen.map (·.1)) :
    (scores.foldl choose chosen).map (·.1) = chosen.map (·.1) := by
  induction scores generalizing chosen with
  | nil => rfl
  | cons s scores ih =>
    obtain ⟨hfirst, hrest⟩ := List.forall_mem_cons.mp hs
    have hkeys := keys_choose h hfirst
    rw [List.foldl_cons, ih (ascending_choose h s) (by rwa [hkeys]), hkeys]

/-! ### Opinions on stages that ran -/

variable {opinions : List (RiskScore ν)}

lemma select_append (scores opinions : List (RiskScore ν)) :
    select (scores ++ opinions) = opinions.foldl choose (select scores) :=
  List.foldl_append ..

lemma get?_select (hne : scores.Pairwise fun s t => s.layer.base ≠ t.layer.base) (hs : s ∈ scores) :
    (select scores).get? s.layer.base = some s :=
  get?_foldl_choose hne hs (.inr rfl)

lemma keys_select_append (hscores : scores.Pairwise fun s t => s.layer.base ≠ t.layer.base)
    (h : ∀ o ∈ opinions, ∃ s ∈ scores, s.layer.base = o.layer.base) :
    (select (scores ++ opinions)).map (·.1) = (select scores).map (·.1) := by
  rw [select_append]
  refine keys_foldl_choose (ascending_foldl_choose .nil _) fun o ho => ?_
  obtain ⟨s, hs, hbase⟩ := h o ho
  exact List.mem_map.mpr ⟨_, Keyed.mem_of_get? (get?_select hscores hs), hbase⟩

end Aggregate

namespace Aggregator

variable {ν : Type} [Scalar ν] (a : Aggregator ν) (scores : List (RiskScore ν)) (context : RequestContext ν)

/-- What a score contributes at a weight. -/
def detailOf (weight : ν) (s : RiskScore ν) : LayerDetail ν :=
  ⟨s.layer, s.value, s.level, weight, weight * s.value, s.factors⟩

/-- What a stage counts with among those for which there are scores. -/
def share (l : Layer) : ν :=
  let present := (Aggregate.select scores).map (·.1)
  let total := Scalar.sum (present.map a.aggregation.layerWeights.weight)
  if 0 < total then a.aggregation.layerWeights.weight l / total else 1 / Scalar.ofNat present.length

lemma aggregate_weights (blocked : Bool) : (a.aggregate scores context blocked).breakdown.weights
    = Aggregate.effectiveWeights a.aggregation.layerWeights ((Aggregate.select scores).map (·.1)) :=
  rfl

lemma effectiveWeights_select :
    Aggregate.effectiveWeights a.aggregation.layerWeights ((Aggregate.select scores).map (·.1))
      = (Aggregate.select scores).map fun x => (x.1, a.share scores x.1) := by
  simp [Aggregate.effectiveWeights, share, Function.comp_def]

/-- Every score that counts is on record at the share of its stage. -/
lemma aggregate_layers (blocked : Bool) : (a.aggregate scores context blocked).breakdown.layers
    = (Aggregate.select scores).map fun x => (x.1, detailOf (a.share scores x.1) x.2) := by
  have hzip (selected : Keyed Layer (RiskScore ν)) :
      selected.zip (selected.map fun x => (x.1, a.share scores x.1))
        = selected.map fun x => (x, x.1, a.share scores x.1) := by
    calc selected.zip (selected.map fun x => (x.1, a.share scores x.1))
        = (selected.map id).zip (selected.map fun x => (x.1, a.share scores x.1)) := by rw [List.map_id]
      _ = selected.map fun x => (x, x.1, a.share scores x.1) := List.zip_map'
  simp only [aggregate]
  rw [effectiveWeights_select, hzip, List.map_map]
  rfl

/-- Every stage is on record with the score that counts for it. -/
lemma get?_aggregate_layers (blocked : Bool) (l : Layer) : ∃ weight,
    (a.aggregate scores context blocked).breakdown.layers.get? l
      = ((Aggregate.select scores).get? l).map (detailOf weight) :=
  ⟨a.share scores l, by rw [aggregate_layers, Keyed.get?_map fun l => detailOf (a.share scores l)]⟩

end Aggregator

end Guardrail
