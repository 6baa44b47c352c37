import Guardrail.Proofs.Raising

/-!
What the sub-signals of a stage make of its score.

In exact numbers the weights of a stage are shares of about one, so that their weighted sum stays within a billionth of
the largest sub-signal, and the dominant one never lifts it above that. Weights are not negative and the dominant
sub-signal is looked up by its name, so that nothing that is raised lowers a score.
-/

namespace Guardrail

namespace Scalar

lemma max_exact (x y : ℚ) : Scalar.max x y = x ⊔ y := by
  calc Scalar.max x y = if x < y then y else x := rfl
    _ = x ⊔ y := by
      split_ifs with h
      · exact (sup_eq_right.mpr h.le).symm
      · exact (sup_eq_left.mpr (not_lt.mp h)).symm

end Scalar

/-- Accepted weights sum to no more than a billionth above one. -/
lemma sum_weights_le {stage : String} {weights : List (String × ℚ)} (h : checkWeights stage weights = .ok ()) :
    (weights.map (·.2)).sum ≤ 1 + 1 / 10 ^ 9 := by
  obtain ⟨-, hclose⟩ := checkWeights_ok.mp h
  rw [Scalar.sum_exact] at hclose
  have habs : Scalar.abs ((weights.map (·.2)).sum - 1) ≤ 1 / 10 ^ 9 := by
    simpa [weightTolerance, Scalar.decimal] using not_lt.mp hclose
  have hle : (weights.map (·.2)).sum - 1 ≤ Scalar.abs ((weights.map (·.2)).sum - 1) := by
    unfold Scalar.abs
    split_ifs with hneg
    · change (weights.map (·.2)).sum - 1 < 0 at hneg
      linarith
    · exact le_rfl
  linarith

namespace Signal

variable {signals raised : List (Signal ℚ)}

/-! ### Bounds -/

lemma weighted_exact (signals : List (Signal ℚ)) :
    weighted signals = (signals.map fun s => s.weight * s.value).sum := Scalar.sum_exact _

lemma valueOf_cons (name : String) (s : Signal ℚ) (signals : List (Signal ℚ)) :
    valueOf name (s :: signals) = if s.name = name then s.value else valueOf name signals := by
  by_cases h : s.name = name <;> simp [valueOf, h]

/-- Sub-signals in `[0, 1]` at weights that are not negative and sum to about one. -/
structure Weighed (signals : List (Signal ℚ)) : Prop where
  ne_nil : signals ≠ []
  weight_nonneg : ∀ s ∈ signals, 0 ≤ s.weight
  weight_sum : (signals.map (·.weight)).sum ≤ 1 + 1 / 10 ^ 9
  value_nonneg : ∀ s ∈ signals, 0 ≤ s.value

lemma Weighed.of_checkWeights {stage : String} {weights : List (String × ℚ)} (hw : checkWeights stage weights = .ok ())
    (hne : signals ≠ []) (hweights : signals.map (·.weight) = weights.map (·.2))
    (hvalues : ∀ s ∈ signals, 0 ≤ s.value) : Weighed signals := by
  refine ⟨hne, fun s hs => ?_, hweights ▸ sum_weights_le hw, hvalues⟩
  have hmem : s.weight ∈ weights.map (·.2) := hweights ▸ List.mem_map_of_mem hs
  obtain ⟨w, hmem, heq⟩ := List.mem_map.mp hmem
  exact heq ▸ ((checkWeights_ok.mp hw).1 w hmem).1

namespace Weighed

variable {top : ℚ}

lemma top_nonneg (h : Weighed signals) (htop : ∀ s ∈ signals, s.value ≤ top) : 0 ≤ top := by
  obtain ⟨s, hs⟩ := List.exists_mem_of_ne_nil signals h.ne_nil
  exact (h.value_nonneg s hs).trans (htop s hs)

lemma weighted_nonneg (h : Weighed signals) : 0 ≤ weighted signals := by
  rw [weighted_exact]
  refine List.sum_nonneg fun x hx => ?_
  obtain ⟨s, hs, rfl⟩ := List.mem_map.mp hx
  exact mul_nonneg (h.weight_nonneg s hs) (h.value_nonneg s hs)

lemma weighted_le (h : Weighed signals) (htop : ∀ s ∈ signals, s.value ≤ top) :
    weighted signals ≤ (1 + 1 / 10 ^ 9) * top := by
  calc weighted signals = (signals.map fun s => s.weight * s.value).sum := weighted_exact signals
    _ ≤ (signals.map fun s => s.weight * top).sum :=
        List.sum_le_sum fun s hs => mul_le_mul_of_nonneg_left (htop s hs) (h.weight_nonneg s hs)
    _ = (signals.map (·.weight)).sum * top := by rw [List.sum_map_mul_right]
    _ ≤ (1 + 1 / 10 ^ 9) * top := mul_le_mul_of_nonneg_right h.weight_sum (h.top_nonneg htop)

lemma valueOf_le (name : String) (h0 : 0 ≤ top) (htop : ∀ s ∈ signals, s.value ≤ top) :
    valueOf name signals ≤ top := by
  induction signals with
  | nil => exact h0
  | cons s signals ih =>
    obtain ⟨hfirst, hrest⟩ := List.forall_mem_cons.mp htop
    rw [valueOf_cons]
    split
    · exact hfirst
    · exact ih hrest

lemma combined_le (h : Weighed signals) (htop : ∀ s ∈ signals, s.value ≤ top) (dominant : String) (floor : Bool) :
    combined signals dominant floor ≤ (1 + 1 / 10 ^ 9) * top := by
  have h0 := h.top_nonneg htop
  unfold combined
  split
  · rw [Scalar.max_exact]
    have hdominant := valueOf_le dominant h0 htop
    exact sup_le (h.weighted_le htop) (by nlinarith)
  · exact h.weighted_le htop

lemma combined_nonneg (h : Weighed signals) (dominant : String) (floor : Bool) :
    0 ≤ combined signals dominant floor := by
  unfold combined
  split
  · rw [Scalar.max_exact]
    exact le_sup_of_le_left h.weighted_nonneg
  · exact h.weighted_nonneg

end Weighed

/-! ### Raising -/

/-- The same sub-signal with a value that is no lower. -/
structure Raises (s t : Signal ℚ) : Prop where
  name : t.name = s.name
  weight : t.weight = s.weight
  value : s.value ≤ t.value

lemma weighted_mono (h : List.Forall₂ Raises signals raised) (hnonneg : ∀ s ∈ signals, 0 ≤ s.weight) :
    weighted signals ≤ weighted raised := by
  rw [weighted_exact, weighted_exact]
  induction h with
  | nil => exact le_rfl
  | @cons s t signals raised hst _ ih =>
    obtain ⟨hfirst, hrest⟩ := List.forall_mem_cons.mp hnonneg
    rw [List.map_cons, List.map_cons, List.sum_cons, List.sum_cons, hst.weight]
    exact add_le_add (mul_le_mul_of_nonneg_left hst.value hfirst) (ih hrest)

lemma valueOf_mono (name : String) (h : List.Forall₂ Raises signals raised) :
    valueOf name signals ≤ valueOf name raised := by
  induction h with
  | nil => exact le_rfl
  | cons hst _ ih =>
    rw [valueOf_cons, valueOf_cons, hst.name]
    split
    · exact hst.value
    · exact ih

lemma combined_mono (h : List.Forall₂ Raises signals raised) (hnonneg : ∀ s ∈ signals, 0 ≤ s.weight)
    (dominant : String) (floor : Bool) : combined signals dominant floor ≤ combined raised dominant floor := by
  unfold combined
  split
  · rw [Scalar.max_exact, Scalar.max_exact]
    exact sup_le_sup (weighted_mono h hnonneg) (valueOf_mono dominant h)
  · exact weighted_mono h hnonneg

end Signal

/-! ### Scores -/

namespace RiskScore

/-- How a score goes with the sub-signals that it is made of, one of which is dominant. -/
structure Follows (floor : Bool) (dominant : ℚ) (values : List ℚ) (s : RiskScore ℚ) : Prop where
  floored : floor = true → dominant ≤ s.value
  bounded : ∃ top, IsGreatest {v | v ∈ values} top ∧ s.value ≤ min 1 ((1 + 1 / 10 ^ 9) * top)
  silent : (∀ v ∈ values, v = 0) → s.value = 0

/-- A score that is no higher, nor is its level. -/
def NoHigher (s t : RiskScore ℚ) : Prop := s.value ≤ t.value ∧ s.level ≤ t.level

end RiskScore

namespace Signal

open RiskScore

variable {signals raised : List (Signal ℚ)} (layer : Layer) (dominant : String) (floor : Bool) (t : Thresholds ℚ)

lemma follows_combine (h : Weighed signals) {x : ℚ} (hx : valueOf dominant signals = Scalar.clampUnit x)
    (failed : List String) : Follows floor (Scalar.clampUnit x) (signals.map (·.value))
      (combine layer signals dominant floor failed t) := by
  have hvalue : (combine layer signals dominant floor failed t).value
      = Scalar.clampUnit (combined signals dominant floor) := rfl
  have h0 := h.combined_nonneg dominant floor
  have hle {top : ℚ} (htop : ∀ s ∈ signals, s.value ≤ top) :
      (combine layer signals dominant floor failed t).value ≤ min 1 ((1 + 1 / 10 ^ 9) * top) := by
    have hcombined := h.combined_le htop dominant floor
    rw [hvalue, Scalar.clampUnit_exact, sup_eq_right.mpr (le_inf h0 zero_le_one), inf_comm]
    exact inf_le_inf_left 1 hcombined
  refine ⟨fun hfloor => ?_, ?_, fun hzero => ?_⟩
  · rw [hvalue, Scalar.clampUnit_exact (combined _ _ _), combined, if_pos hfloor, Scalar.max_exact, hx]
    exact le_sup_of_le_right (le_inf le_sup_right (Scalar.clampUnit_mem x).2)
  · obtain ⟨s, hs⟩ : ∃ s, signals.argmax (·.value) = some s :=
      Option.ne_none_iff_exists'.mp (mt List.argmax_eq_none.mp h.ne_nil)
    have htop : ∀ v ∈ signals, v.value ≤ s.value := fun v hv => List.le_of_mem_argmax hv hs
    refine ⟨s.value, ⟨List.mem_map_of_mem (List.argmax_mem hs), ?_⟩, hle htop⟩
    rintro _ hmem
    obtain ⟨v, hv, rfl⟩ := List.mem_map.mp hmem
    exact htop v hv
  · have hnone : ∀ s ∈ signals, s.value ≤ 0 := fun s hs => (hzero _ (List.mem_map_of_mem hs)).le
    have hlow : (combine layer signals dominant floor failed t).value ≤ 0 := by simpa using hle hnone
    exact hlow.antisymm (hvalue ▸ (Scalar.clampUnit_mem _).1)

lemma combine_mono (h : Weighed signals) (hraised : List.Forall₂ Raises signals raised) (failed failed' : List String) :
    (combine layer signals dominant floor failed t).NoHigher (combine layer raised dominant floor failed' t) := by
  have hvalue := Scalar.clampUnit_mono (combined_mono hraised h.weight_nonneg dominant floor)
  exact ⟨hvalue, t.classify_mono (Scalar.clampUnit_mono hvalue)⟩

end Signal

open RiskScore Scalar Signal

/-! ### Stages -/

lemma InputGuard.weighed {c : InputGuardConfig ℚ} (h : c.validate = .ok ()) (pii injection : ℚ) :
    Weighed (signals c.weights pii injection) := by
  obtain ⟨hw, -⟩ := InputGuardConfig.validate_ok.mp h
  exact .of_checkWeights hw (List.cons_ne_nil _ _) rfl (by simp [signals, Signal.make, (clampUnit_mem _).1])

lemma StateMonitor.weighed {c : StateMonitorConfig ℚ} (h : c.validate = .ok ()) (looping cost progress : ℚ) :
    Weighed (signals c.weights looping cost progress) := by
  obtain ⟨hw, -⟩ := StateMonitorConfig.validate_ok.mp h
  exact .of_checkWeights hw (List.cons_ne_nil _ _) rfl (by simp [signals, Signal.make, (clampUnit_mem _).1])

lemma OutputGuard.weighed {c : OutputGuardConfig ℚ} (h : c.validate = .ok ()) (leak validation newPii : ℚ) :
    Weighed (signals c.weights leak validation newPii) := by
  obtain ⟨hw, -⟩ := OutputGuardConfig.validate_ok.mp h
  exact .of_checkWeights hw (List.cons_ne_nil _ _) rfl (by simp [signals, Signal.make, (clampUnit_mem _).1])

namespace ScoringConfig

/-- **Scores follow their sub-signals.** Under accepted parameters, and whatever the sub-signals of a stage are before
they are brought into `[0, 1]`, its score is no lower than the dominant one where there is a floor, no higher than one
or than the largest of them and a billionth of it, and zero if all of them are; and no sub-signal that is raised lowers
the score or its level. Dominant are the risk of injection, of a loop and of a leak. -/
theorem scores_follow_signals {c : ScoringConfig ℚ} (hc : c.validate = .ok ()) (failed failed' : List String) :
    (∀ pii injection pii' injection' : ℚ,
      let score := InputGuard.score c.inputGuard c.thresholds
      Follows c.inputGuard.dominantFloor (clampUnit injection) [clampUnit pii, clampUnit injection]
        (score pii injection failed) ∧
      (clampUnit pii ≤ clampUnit pii' → clampUnit injection ≤ clampUnit injection' →
        (score pii injection failed).NoHigher (score pii' injection' failed'))) ∧
    (∀ looping cost progress looping' cost' progress' : ℚ,
      let score := StateMonitor.score c.stateMonitor c.thresholds
      Follows c.stateMonitor.dominantFloor (clampUnit looping) [clampUnit looping, clampUnit cost, clampUnit progress]
        (score looping cost progress failed) ∧
      (clampUnit looping ≤ clampUnit looping' → clampUnit cost ≤ clampUnit cost' →
        clampUnit progress ≤ clampUnit progress' →
          (score looping cost progress failed).NoHigher (score looping' cost' progress' failed'))) ∧
    (∀ leak validation newPii leak' validation' newPii' : ℚ,
      let score := OutputGuard.score c.outputGuard c.thresholds
      Follows c.outputGuard.dominantFloor (clampUnit leak) [clampUnit leak, clampUnit validation, clampUnit newPii]
        (score leak validation newPii failed) ∧
      (clampUnit leak ≤ clampUnit leak' → clampUnit validation ≤ clampUnit validation' →
        clampUnit newPii ≤ clampUnit newPii' →
          (score leak validation newPii failed).NoHigher (score leak' validation' newPii' failed'))) := by
  obtain ⟨-, hinput, hstate, houtput, -⟩ := ScoringConfig.validate_ok.mp hc
  refine ⟨fun pii injection pii' injection' => ?_, fun looping cost progress looping' cost' progress' => ?_,
    fun leak validation newPii leak' validation' newPii' => ?_⟩
  · have hweighed := InputGuard.weighed hinput pii injection
    have hdominant : valueOf "injection_risk" (InputGuard.signals c.inputGuard.weights pii injection)
        = clampUnit injection := by simp [InputGuard.signals, valueOf_cons, Signal.make]
    refine ⟨follows_combine _ _ _ _ hweighed hdominant failed, fun hpii hinjection => ?_⟩
    have hraised : List.Forall₂ Raises (InputGuard.signals c.inputGuard.weights pii injection)
        (InputGuard.signals c.inputGuard.weights pii' injection') :=
      .cons ⟨rfl, rfl, hpii⟩ (.cons ⟨rfl, rfl, hinjection⟩ .nil)
    exact combine_mono _ _ _ _ hweighed hraised failed failed'
  · have hweighed := StateMonitor.weighed hstate looping cost progress
    have hdominant : valueOf "loop_risk" (StateMonitor.signals c.stateMonitor.weights looping cost progress)
        = clampUnit looping := by simp [StateMonitor.signals, valueOf_cons, Signal.make]
    refine ⟨follows_combine _ _ _ _ hweighed hdominant failed, fun hlooping hcost hprogress => ?_⟩
    have hraised : List.Forall₂ Raises (StateMonitor.signals c.stateMonitor.weights looping cost progress)
        (StateMonitor.signals c.stateMonitor.weights looping' cost' progress') :=
      .cons ⟨rfl, rfl, hlooping⟩ (.cons ⟨rfl, rfl, hcost⟩ (.cons ⟨rfl, rfl, hprogress⟩ .nil))
    exact combine_mono _ _ _ _ hweighed hraised failed failed'
  · have hweighed := OutputGuard.weighed houtput leak validation newPii
    have hdominant : valueOf "leak_risk" (OutputGuard.signals c.outputGuard.weights leak validation newPii)
        = clampUnit leak := by simp [OutputGuard.signals, valueOf_cons, Signal.make]
    refine ⟨follows_combine _ _ _ _ hweighed hdominant failed, fun hleak hvalidation hnewPii => ?_⟩
    have hraised : List.Forall₂ Raises (OutputGuard.signals c.outputGuard.weights leak validation newPii)
        (OutputGuard.signals c.outputGuard.weights leak' validation' newPii') :=
      .cons ⟨rfl, rfl, hleak⟩ (.cons ⟨rfl, rfl, hvalidation⟩ (.cons ⟨rfl, rfl, hnewPii⟩ .nil))
    exact combine_mono _ _ _ _ hweighed hraised failed failed'

/-- Standard parameters but for the input guard, which has no floor and weights that sum to a little more than one. -/
def overweight : ScoringConfig ℚ :=
  { ScoringConfig.standard with
    inputGuard := { InputGuardConfig.standard with
      weights := ⟨1 / 2, 1 / 2 + 1 / (2 * 10 ^ 9)⟩
      dominantFloor := false } }

/-- Two sub-signals of the same size make a score that is larger than either by less than a billionth of it. -/
theorem scores_follow_signals_overweight :
    let score := InputGuard.score overweight.inputGuard overweight.thresholds
    overweight.validate = .ok () ∧
      Follows false (clampUnit (3 / 5)) [clampUnit (3 / 5), clampUnit (3 / 5)] (score (3 / 5) (3 / 5) []) ∧
      3 / 5 < (score (3 / 5) (3 / 5) []).value ∧
      (score (3 / 5) (3 / 5) []).NoHigher (score (3 / 5) 2 ["pii"]) ∧
      ((score (3 / 5) (3 / 5) []).level, (score (3 / 5) 2 ["pii"]).level) = (.medium, .high) := by
  intro score
  have hc : overweight.validate = .ok () := by decide +kernel
  obtain ⟨hinput, -, -⟩ := scores_follow_signals hc [] ["pii"]
  obtain ⟨hfollows, hmono⟩ := hinput (3 / 5) (3 / 5) (3 / 5) 2
  exact ⟨hc, hfollows, by decide +kernel, hmono le_rfl (by decide +kernel), by decide +kernel⟩

end ScoringConfig

end Guardrail
