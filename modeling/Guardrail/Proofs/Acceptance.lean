import Guardrail.Engine
import Guardrail.Proofs.DoubleOrder
import Mathlib.Data.List.Forall2

/-!
What is known of a rule set that is accepted.

Acceptance checks the parameters of scoring section by section and makes every rule ready once; what
it has made ready once can be made ready again, so that an accepted rule set always makes an engine.
-/

namespace Guardrail

/-! ### Checks that pass -/

lemma bind_ok {ε α β : Type} {x : Except ε α} {f : α → Except ε β} {b : β} :
    (x >>= f) = .ok b ↔ ∃ a, x = .ok a ∧ f a = .ok b := by
  cases x with
  | error e => simp [bind, Except.bind]
  | ok a => simp [bind, Except.bind]

lemma bind_error {ε α β : Type} {x : Except ε α} {f : α → Except ε β} {e : ε} :
    (x >>= f) = .error e ↔ x = .error e ∨ ∃ a, x = .ok a ∧ f a = .error e := by
  cases x with
  | error e => simp [bind, Except.bind]
  | ok a => simp [bind, Except.bind]

lemma map_ok {ε α β : Type} {f : α → β} {x : Except ε α} {b : β} (h : x.map f = .ok b) :
    ∃ a, x = .ok a ∧ f a = b := by
  cases x with
  | error e => cases h
  | ok a => exact ⟨a, rfl, Except.ok.inj h⟩

lemma mapError_ok {ε ε' α : Type} {f : ε → ε'} {x : Except ε α} {a : α} (h : x.mapError f = .ok a) : x = .ok a := by
  cases x with
  | error e => cases h
  | ok b => rw [Except.ok.inj h]

/-- A closed computation that succeeds is found out by running it. -/
lemma exists_ok {ε α : Type} {x : Except ε α} {P : α → Prop} [DecidablePred P]
    (h : x.toOption.any (fun a => decide (P a)) = true) : ∃ a, x = .ok a ∧ P a := by
  cases x with
  | error e => cases h
  | ok a => exact ⟨a, rfl, of_decide_eq_true h⟩

lemma ok_toOption_get {ε α : Type} {x : Except ε α} (h : x.toOption.isSome = true) : x = .ok (x.toOption.get h) := by
  cases x with
  | error e => cases h
  | ok a => rfl

lemma of_ok {ε α : Type} {x : Except ε α} {P : α → Prop} [DecidablePred P]
    (h : x.toOption.any (fun a => decide (P a)) = true) {a : α} (ha : x = .ok a) : P a := by
  obtain ⟨b, hb, hP⟩ := exists_ok h
  obtain rfl : a = b := Except.ok.inj (ha.symm.trans hb)
  exact hP

lemma check_ok {ε β : Type} {x : Except ε Unit} {f : Unit → Except ε β} {b : β} :
    (x >>= f) = .ok b ↔ x = .ok () ∧ f () = .ok b := by
  rw [bind_ok]
  exact ⟨fun ⟨_, hx, hf⟩ => ⟨hx, hf⟩, fun ⟨hx, hf⟩ => ⟨(), hx, hf⟩⟩

lemma forM_ok {ε α : Type} {f : α → Except ε Unit} {xs : List α} :
    xs.forM f = .ok () ↔ ∀ x ∈ xs, f x = .ok () := by
  induction xs with
  | nil => simp [pure, Except.pure]
  | cons x xs ih =>
    rw [List.forM_eq_forM, List.forM_cons, check_ok, List.forall_mem_cons, ← ih, List.forM_eq_forM]

lemma mapM_ok {ε α β : Type} {f : α → Except ε β} {xs : List α} {ys : List β} :
    xs.mapM f = .ok ys ↔ List.Forall₂ (fun x y => f x = .ok y) xs ys := by
  induction xs generalizing ys with
  | nil => simp [pure, Except.pure, eq_comm]
  | cons x xs ih =>
    rw [List.mapM_cons, bind_ok, List.forall₂_cons_left_iff]
    constructor
    · rintro ⟨y, hy, h⟩
      obtain ⟨ys', hys, h⟩ := bind_ok.mp h
      exact ⟨y, ys', hy, ih.mp hys, (Except.ok.inj h).symm⟩
    · rintro ⟨y, ys', hy, hys, rfl⟩
      exact ⟨y, hy, bind_ok.mpr ⟨ys', ih.mpr hys, rfl⟩⟩

/-- Each is made into one of the results, and each result is made from one of them. -/
lemma exists_of_mapM_ok {ε α β : Type} {f : α → Except ε β} {xs : List α} {ys : List β} (h : xs.mapM f = .ok ys) :
    (∀ x ∈ xs, ∃ y ∈ ys, f x = .ok y) ∧ ∀ y ∈ ys, ∃ x ∈ xs, f x = .ok y := by
  rw [mapM_ok] at h
  induction h with
  | nil => exact ⟨by simp, by simp⟩
  | @cons x y xs ys hxy _ ih =>
    obtain ⟨hxs, hys⟩ := ih
    refine ⟨fun x' hx' => ?_, fun y' hy' => ?_⟩
    · rcases List.mem_cons.mp hx' with rfl | hx'
      · exact ⟨y, List.mem_cons_self, hxy⟩
      · obtain ⟨y', hy', hf⟩ := hxs x' hx'
        exact ⟨y', List.mem_cons_of_mem y hy', hf⟩
    · rcases List.mem_cons.mp hy' with rfl | hy'
      · exact ⟨x, List.mem_cons_self, hxy⟩
      · obtain ⟨x', hx', hf⟩ := hys y' hy'
        exact ⟨x', List.mem_cons_of_mem x hx', hf⟩

lemma checkValue_ok {field reason : String} {holds : Bool} :
    checkValue field holds reason = .ok () ↔ holds = true := by
  cases holds <;> simp [checkValue]

section

variable {ν : Type} [Scalar ν]

lemma checkUnit_ok {field : String} {x : ν} : checkUnit field x = .ok () ↔ 0 ≤ x ∧ x ≤ 1 := by
  unfold checkUnit
  split <;> simp_all

lemma checkPositive_ok {field : String} {x : ν} :
    checkPositive field x = .ok () ↔ 0 < x ∧ Scalar.isFinite x = true := by
  unfold checkPositive
  split <;> simp_all

lemma checkWeights_ok {stage : String} {weights : List (String × ν)} :
    checkWeights stage weights = .ok () ↔ (∀ w ∈ weights, 0 ≤ w.2 ∧ w.2 ≤ 1) ∧
      ¬ weightTolerance < Scalar.abs (Scalar.sum (weights.map (·.2)) - 1) := by
  unfold checkWeights
  simp only [check_ok, forM_ok, checkUnit_ok]
  split <;> simp_all [pure, Except.pure, throw, throwThe, MonadExceptOf.throw]

lemma Thresholds.validate_ok {t : Thresholds ν} : t.validate = .ok () ↔ t.ordered = true := by
  unfold Thresholds.validate
  split <;> simp_all

/-- Ordered thresholds rise strictly from above zero to at most one. -/
lemma Thresholds.ordered_iff {t : Thresholds ν} : t.ordered = true ↔
    0 < t.low ∧ t.low < t.medium ∧ t.medium < t.high ∧ t.high < t.critical ∧ t.critical ≤ 1 := by
  simp [Thresholds.ordered, and_assoc]

/-- The weights of the layers under the names by which they are checked. -/
def LayerWeights.named (w : LayerWeights ν) : List (String × ν) :=
  [("input_guard", w.inputGuard), ("state_monitor", w.stateMonitor), ("output_guard", w.outputGuard)]

omit [Scalar ν] in
lemma LayerWeights.weight_mem_named (w : LayerWeights ν) (l : Layer) : w.weight l ∈ w.named.map (·.2) := by
  obtain ⟨_ | _ | _, _⟩ := l <;> simp [weight, named]

lemma InputGuardConfig.validate_ok {c : InputGuardConfig ν} : c.validate = .ok () ↔
    checkWeights "input_guard" [("pii", c.weights.pii), ("injection", c.weights.injection)] = .ok ()
      ∧ (0 < c.piiNormalization ∧ Scalar.isFinite c.piiNormalization = true) ∧ c.luhnCapacity ≠ 0 := by
  unfold InputGuardConfig.validate
  simp [check_ok, checkValue_ok, checkPositive_ok]

lemma StateMonitorConfig.validate_ok {c : StateMonitorConfig ν} : c.validate = .ok () ↔
    checkWeights "state_monitor"
        [("loop", c.weights.looping), ("cost", c.weights.cost), ("progress", c.weights.progress)] = .ok ()
      ∧ (2 ≤ c.loopRepeats ∧ c.loopRepeats ≤ c.loopWindow) ∧ c.progressWindow ≠ 0
      ∧ 0 ≤ c.progressFlag ∧ c.progressFlag ≤ 1 := by
  unfold StateMonitorConfig.validate
  simp [check_ok, checkValue_ok, checkUnit_ok]

lemma OutputGuardConfig.validate_ok {c : OutputGuardConfig ν} : c.validate = .ok () ↔
    checkWeights "output_guard"
        [("leak", c.weights.leak), ("validation", c.weights.validation), ("new_pii", c.weights.newPii)] = .ok ()
      ∧ (0 < c.piiNormalization ∧ Scalar.isFinite c.piiNormalization = true)
      ∧ (0 ≤ c.emptyRisk ∧ c.emptyRisk ≤ 1) ∧ 3 ≤ c.promptNgram := by
  unfold OutputGuardConfig.validate
  simp [check_ok, checkValue_ok, checkPositive_ok, checkUnit_ok]

lemma AggregationConfig.validate_ok {c : AggregationConfig ν} : c.validate = .ok () ↔
    checkWeights "aggregation.layer_weights" c.layerWeights.named = .ok ()
      ∧ (0 ≤ c.trustFactor ∧ Scalar.isFinite c.trustFactor = true)
      ∧ 0 < c.strictMultiplier ∧ Scalar.isFinite c.strictMultiplier = true := by
  unfold AggregationConfig.validate
  simp [check_ok, checkValue_ok, checkPositive_ok, LayerWeights.named]

lemma EscalationConfig.validate_ok {c : EscalationConfig ν} : c.validate = .ok () ↔
    (0 ≤ c.shadowThreshold ∧ c.shadowThreshold ≤ 1)
      ∧ (0 ≤ c.criticalThreshold ∧ c.criticalThreshold ≤ 1)
      ∧ ¬ c.criticalThreshold ≤ c.shadowThreshold := by
  unfold EscalationConfig.validate
  simp only [check_ok, checkUnit_ok]
  split <;> simp_all [pure, Except.pure, throw, throwThe, MonadExceptOf.throw]

lemma ScoringConfig.validate_ok {c : ScoringConfig ν} : c.validate = .ok () ↔
    c.thresholds.validate = .ok () ∧ c.inputGuard.validate = .ok ()
      ∧ c.stateMonitor.validate = .ok () ∧ c.outputGuard.validate = .ok ()
      ∧ c.aggregation.validate = .ok () ∧ c.escalation.validate = .ok () ∧ c.maxTextBytes ≠ 0 := by
  unfold ScoringConfig.validate
  simp [check_ok, checkValue_ok]

end

/-! ### Rules that are ready -/

variable [Pattern.Dialect]

namespace Rules

lemma Definition.compile_ok {d : Definition} {c : Compiled} : d.compile = .ok c ↔
    (0 ≤ d.confidence ∧ d.confidence ≤ 1) ∧ (0 ≤ d.severity ∧ d.severity ≤ 1) ∧
      ∃ find, Pattern.Dialect.search d.pattern = .ok find ∧
        c = ⟨d.id, d.category, d.confidence, d.severity, find⟩ := by
  unfold Definition.compile
  rw [check_ok, checkUnit_ok, check_ok, checkUnit_ok]
  cases Pattern.Dialect.search d.pattern with
  | error e => simp [throw, throwThe, MonadExceptOf.throw]
  | ok find => simp [pure, Except.pure, eq_comm]

lemma compileAll_of_each {ds : List Definition} (h : ∀ d ∈ ds, ∃ c, d.compile = .ok c) :
    ∃ cs, compileAll ds = .ok cs := by
  simp only [compileAll, mapM_ok]
  induction ds with
  | nil => exact ⟨[], .nil⟩
  | cons d ds ih =>
    obtain ⟨c, hc⟩ := h d List.mem_cons_self
    obtain ⟨cs, hcs⟩ := ih fun d' hd' => h d' (List.mem_cons_of_mem d hd')
    exact ⟨c :: cs, .cons hc hcs⟩

lemma Library.compile_ok {l : Library} {c : CompiledLibrary} : l.compile = .ok c ↔
    compileAll l.pii = .ok c.pii ∧ compileAll l.injection = .ok c.injection ∧ compileAll l.leak = .ok c.leak := by
  simp only [Library.compile, bind_ok]
  constructor
  · rintro ⟨pii, hpii, injection, hinjection, leak, hleak, h⟩
    obtain rfl : (⟨pii, injection, leak⟩ : CompiledLibrary) = c := Except.ok.inj h
    exact ⟨hpii, hinjection, hleak⟩
  · rintro ⟨hpii, hinjection, hleak⟩
    exact ⟨_, hpii, _, hinjection, _, hleak, rfl⟩

/-- Rules pass one by one if each can be made ready and no id occurs twice. -/
lemma validateFrom_ok {seen : List String} {ds : List Definition} : validateFrom seen ds = .ok () ↔
    (∀ d ∈ ds, d.id ∉ seen ∧ ∃ c, d.compile = .ok c) ∧ (ds.map (·.id)).Nodup := by
  induction ds generalizing seen with
  | nil => simp [validateFrom]
  | cons d ds ih =>
    by_cases hseen : d.id ∈ seen
    · simp [validateFrom, hseen, throw, throwThe, MonadExceptOf.throw, bind, Except.bind]
    · have hstep : validateFrom seen (d :: ds) = .ok () ↔
          (∃ c, d.compile = .ok c) ∧ validateFrom (d.id :: seen) ds = .ok () := by
        rw [validateFrom, if_neg (by simpa using hseen), bind_ok]
        exact exists_and_right
      rw [hstep, ih]
      simp only [List.map_cons, List.nodup_cons, List.mem_cons, List.mem_map, not_or]
      grind

lemma compile_of_validateFrom {seen : List String} {ds : List Definition}
    (h : validateFrom seen ds = .ok ()) : ∀ d ∈ ds, ∃ c, d.compile = .ok c :=
  fun d hd => ((validateFrom_ok.mp h).1 d hd).2

lemma RuleSet.validate_ok {r : RuleSet} : r.validate = .ok () ↔
    (Text.trim r.version.toList).isEmpty = false ∧ r.scoring.validate = .ok ()
      ∧ validateFrom [] r.patterns.all = .ok () := by
  unfold RuleSet.validate
  simp [check_ok, checkValue_ok]

lemma Library.compile_of_validateFrom {l : Library} {seen : List String}
    (h : validateFrom seen l.all = .ok ()) : ∃ c, l.compile = .ok c := by
  have hall := Rules.compile_of_validateFrom h
  simp only [Library.all, List.mem_append] at hall
  obtain ⟨pii, hpii⟩ := compileAll_of_each fun d hd => hall d (.inl (.inl hd))
  obtain ⟨injection, hinjection⟩ := compileAll_of_each fun d hd => hall d (.inl (.inr hd))
  obtain ⟨leak, hleak⟩ := compileAll_of_each fun d hd => hall d (.inr hd)
  exact ⟨⟨pii, injection, leak⟩, Library.compile_ok.mpr ⟨hpii, hinjection, hleak⟩⟩

end Rules

/-- An accepted rule set makes an engine, with its own parameters and rules. -/
lemma Engine.ofRules_of_validate {r : Rules.RuleSet} (h : r.validate = .ok ()) :
    ∃ e, Engine.ofRules r = .ok e ∧ e.config = r.scoring ∧ r.patterns.compile = .ok e.rules := by
  obtain ⟨-, -, hp⟩ := Rules.RuleSet.validate_ok.mp h
  obtain ⟨rules, hrules⟩ := Rules.Library.compile_of_validateFrom hp
  refine ⟨⟨r.version, r.scoring, rules, .byDrafts⟩, ?_, rfl, hrules⟩
  rw [Engine.ofRules, check_ok, bind_ok]
  exact ⟨h, rules, hrules, rfl⟩

end Guardrail
