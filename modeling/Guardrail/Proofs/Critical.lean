import Guardrail.Simulation
import Guardrail.Proofs.Acceptance

/-!
What becomes of requests whose overall risk is critical.

Two numbers decide about them: the critical threshold of scoring says what is critical, that of
escalation says up to where a second opinion is asked for. A second opinion can take a request out
of the critical band only where the second number is above the first.
-/

namespace Guardrail

open Scalar.Ordered

section

variable {ν : Type} [Scalar ν]

lemma Thresholds.classify_eq_critical {t : Thresholds ν} {x : ν} :
    t.classify x = .critical ↔ t.critical ≤ Scalar.clampUnit x := by
  simp only [Thresholds.classify]
  split_ifs <;> simp_all

namespace Aggregator

lemma aggregate_level (a : Aggregator ν) (scores : List (RiskScore ν)) (context : RequestContext ν)
    (blocked : Bool) : (a.aggregate scores context blocked).level
      = a.thresholds.classify (a.aggregate scores context blocked).score := rfl

lemma aggregate_escalates (a : Aggregator ν) (scores : List (RiskScore ν))
    (context : RequestContext ν) :
    (a.aggregate scores context false).escalates = true ↔ a.escalation.enabled = true ∧
      a.escalation.shadowThreshold ≤ (a.aggregate scores context false).score ∧
        (a.aggregate scores context false).score < a.escalation.criticalThreshold := by
  simp [aggregate, inBand]

variable [Scalar.Ordered ν]

lemma clampUnit_score (a : Aggregator ν) (scores : List (RiskScore ν)) (context : RequestContext ν)
    (blocked : Bool) : Scalar.clampUnit (a.aggregate scores context blocked).score
      = (a.aggregate scores context blocked).score :=
  Scalar.clampUnit_clampUnit _

/-- Where escalation ends below the critical band, what is critical asks for no second opinion. -/
lemma not_escalates_of_critical {a : Aggregator ν} {scores : List (RiskScore ν)}
    {context : RequestContext ν}
    (h : a.escalation.enabled = true → a.escalation.criticalThreshold ≤ a.thresholds.critical)
    (hl : (a.aggregate scores context false).level = .critical) :
    (a.aggregate scores context false).escalates = false := by
  rw [aggregate_level, Thresholds.classify_eq_critical, clampUnit_score] at hl
  rw [← Bool.not_eq_true, aggregate_escalates]
  rintro ⟨hon, -, hlt⟩
  exact Scalar.not_lt_of_le (le_trans (h hon) hl) hlt

/-- The two thresholds have to be in order for that: otherwise some critical score lies in the band
in which a second opinion is asked for. -/
lemma inBand_of_critical_iff {a : Aggregator ν} (ht : a.thresholds.ordered = true)
    (he : a.escalation.validate = .ok ()) :
    (∀ x, a.thresholds.classify x = .critical → a.inBand (Scalar.clampUnit x) = false) ↔
      a.escalation.criticalThreshold ≤ a.thresholds.critical := by
  obtain ⟨hlow, hmedium, hhigh, hcritical, hone⟩ := Thresholds.ordered_iff.mp ht
  obtain ⟨⟨hs0, hs1⟩, ⟨hc0, hc1⟩, hsc⟩ := EscalationConfig.validate_ok.mp he
  have hpos : 0 ≤ a.thresholds.critical :=
    Scalar.le_of_lt <|
      Scalar.lt_trans (Scalar.lt_trans hlow hmedium) (Scalar.lt_trans hhigh hcritical)
  have hnc := (isNaN_of_le hone).1
  have hns := (isNaN_of_le hs1).1
  have hne := (isNaN_of_le hc1).1
  constructor
  · intro h
    rcases le_or_le hns hnc with hle | hle
    · -- the critical threshold itself
      have hx := h a.thresholds.critical
      rw [Thresholds.classify_eq_critical, Scalar.clampUnit_of_mem hpos hone] at hx
      have hb := hx (Scalar.le_refl hnc)
      simp only [inBand, hle, decide_true, Bool.true_and, decide_eq_false_iff_not] at hb
      exact Scalar.le_of_not_lt hnc hne hb
    · -- the start of the band, which is critical then
      have hx := h a.escalation.shadowThreshold
      rw [Thresholds.classify_eq_critical, Scalar.clampUnit_of_mem hs0 hs1] at hx
      have hb := hx hle
      simp only [inBand, Scalar.le_refl hns, decide_true, Bool.true_and,
        decide_eq_false_iff_not] at hb
      exact absurd (Scalar.le_of_not_lt hns hne hb) hsc
  · intro h x hx
    rw [Thresholds.classify_eq_critical] at hx
    simp [inBand, Scalar.not_lt_of_le (le_trans h hx)]

end Aggregator

end

/-- Escalation ends no higher than where scores become critical, or is off. -/
def ScoringConfig.BandsApart (c : ScoringConfig) : Prop :=
  c.escalation.enabled = true → c.escalation.criticalThreshold ≤ c.thresholds.critical

/-! ### Requests -/

lemma Engine.evaluate_aggregated {e : Engine} {memo : Luhn.Memo} {stages : StageInputs}
    {context : RequestContext} {a : Aggregate}
    (h : (e.evaluate memo stages context).1.aggregated = some a) :
    (e.evaluate memo stages context).1.hardBlock = none ∧
      a = e.aggregator.aggregate (e.evaluate memo stages context).1.scores context false := by
  simp only [evaluate] at h ⊢
  split at h
  · cases h
  · next hb => exact ⟨hb, (Option.some.inj h).symm⟩

lemma Pending.blocked_decide {x : Pending} {aggregated : Option Aggregate}
    {results : List Shadow.Result} {usage : Provider.Usage} {finished : ℕ} :
    (x.decide aggregated results usage finished).blocked = true ↔
      x.evaluation.hardBlock ≠ none ∨ ∃ a, aggregated = some a ∧ a.level = .critical := by
  simp only [decide, Decision.blocked]
  cases x.evaluation.hardBlock with
  | some b => simp
  | none =>
    cases aggregated with
    | none => simp
    | some a => by_cases hl : a.level = .critical <;> simp [hl]

namespace Pipeline

lemma begin_evaluation (p : Pipeline) (now : ℕ) (r : Request) :
    (p.begin now r).1.evaluation = (p.engine.evaluate p.memo r.stages r.context).1 := by
  simp only [begin]
  split <;> rfl

lemma begin_aggregated {p : Pipeline} {now : ℕ} {r : Request} {a : Aggregate}
    (h : (p.begin now r).1.evaluation.aggregated = some a) :
    (p.begin now r).1.evaluation.hardBlock = none ∧
      ∃ scores, a = p.engine.aggregator.aggregate scores r.context false := by
  rw [begin_evaluation] at h ⊢
  obtain ⟨hb, ha⟩ := Engine.evaluate_aggregated h
  exact ⟨hb, _, ha⟩

lemma not_escalates {p : Pipeline} {now : ℕ} {r : Request} {a : Aggregate}
    (hapart : p.engine.config.BandsApart) (h : (p.begin now r).1.evaluation.aggregated = some a)
    (hl : a.level = .critical) : a.escalates = false := by
  obtain ⟨-, scores, rfl⟩ := begin_aggregated h
  exact Aggregator.not_escalates_of_critical hapart hl

/-- Who asks for no second opinion gets none. -/
lemma begin_parts {p : Pipeline} {now : ℕ} {r : Request}
    (h : (p.begin now r).1.evaluation.hardBlock ≠ none ∨
      ∃ a, (p.begin now r).1.evaluation.aggregated = some a ∧ a.escalates = false) :
    (p.begin now r).1.parts = none := by
  rw [begin_evaluation] at h
  simp only [begin]
  split
  · next hp he =>
    split at he
    · next a hb ha =>
      rcases h with h | ⟨a', ha', hoff⟩
      · exact absurd hb h
      · rw [ha] at ha'
        rw [Option.some.inj ha', hoff] at he
        cases he
    · cases he
  · rfl

lemma finish_of_parts {q : Pipeline} {x : Pending} {replies : Stage → Shadow.Reply}
    (h : x.parts = none) :
    (q.finish x replies).1.1 = x.decide x.evaluation.aggregated [] .zero x.start := by
  simp only [finish]
  split
  · next hx _ _ => rw [h] at hx; cases hx
  · rfl

/-- A request without second opinions is decided as it is by rules alone. -/
lemma evaluate_of_parts {p : Pipeline} {now : ℕ} {r : Request} {replies : Stage → Shadow.Reply}
    (h : (p.begin now r).1.parts = none) :
    (p.evaluate now r replies).1.1.blocked = true ↔ (p.begin now r).1.evaluation.hardBlock ≠ none ∨
      ∃ a, (p.begin now r).1.evaluation.aggregated = some a ∧ a.level = .critical := by
  have hfin : (p.evaluate now r replies).1.1 = (p.begin now r).1.decide
      (p.begin now r).1.evaluation.aggregated [] .zero (p.begin now r).1.start := finish_of_parts h
  rw [hfin, Pending.blocked_decide]

/-- **A critical request is blocked, unless a second opinion is asked for.** Under accepted rules a
request that the rules find critical asks for a second opinion exactly if its score lies in the band
of escalation. That never happens if the two bands are apart, and otherwise some critical score does
lie in it. A critical request that asks for none is blocked, whatever happens to the pipeline
meanwhile; so with the bands apart no panel of agents lets through what the rules alone block. -/
theorem blocked_of_critical [Pattern.Dialect] {rules : Rules.RuleSet} (hv : rules.validate = .ok ()) :
    ∃ e, Engine.ofRules rules = .ok e ∧
      (rules.scoring.escalation.criticalThreshold ≤ rules.scoring.thresholds.critical ↔
        ∀ x, rules.scoring.thresholds.classify x = .critical →
          e.aggregator.inBand (Scalar.clampUnit x) = false) ∧
      ∀ (p : Pipeline) (now : ℕ) (r : Request), p.engine = e →
        (∀ a, (p.begin now r).1.evaluation.aggregated = some a → a.level = .critical →
          (a.escalates = true ↔ rules.scoring.escalation.enabled = true ∧
            rules.scoring.escalation.shadowThreshold ≤ a.score ∧
              a.score < rules.scoring.escalation.criticalThreshold) ∧
          (rules.scoring.BandsApart → a.escalates = false) ∧
          (a.escalates = false →
            ∀ q replies, (finish q (p.begin now r).1 replies).1.1.blocked = true)) ∧
        (rules.scoring.BandsApart → ∀ replies,
          (evaluate { p with panel := none } now r replies).1.1.blocked = true →
            (p.evaluate now r replies).1.1.blocked = true) := by
  obtain ⟨-, hs, -⟩ := Rules.RuleSet.validate_ok.mp hv
  obtain ⟨ht, -, -, -, -, he, -⟩ := ScoringConfig.validate_ok.mp hs
  obtain ⟨e, hofRules, hconfig, -⟩ := Engine.ofRules_of_validate hv
  rw [← hconfig] at ht he ⊢
  rw [Thresholds.validate_ok] at ht
  have hiff := Aggregator.inBand_of_critical_iff (a := e.aggregator) ht he
  refine ⟨e, hofRules, hiff.symm, ?_⟩
  rintro p now r rfl
  refine ⟨fun a ha hl => ⟨?_, (not_escalates · ha hl), fun hoff q replies => ?_⟩, ?_⟩
  · obtain ⟨-, scores, rfl⟩ := begin_aggregated ha
    exact Aggregator.aggregate_escalates ..
  · rw [finish_of_parts (begin_parts (.inr ⟨a, ha, hoff⟩)), Pending.blocked_decide]
    exact .inr ⟨a, ha, hl⟩
  · intro hapart replies hblocked
    have halone : (begin { p with panel := none } now r).1.evaluation
        = (p.begin now r).1.evaluation := by
      rw [begin_evaluation, begin_evaluation]
    -- without a panel nobody is asked, and the rules alone decide
    have hnone : (begin { p with panel := none } now r).1.parts = none := rfl
    rw [evaluate_of_parts hnone, halone] at hblocked
    have hquiet : (p.begin now r).1.parts = none :=
      begin_parts (hblocked.imp id fun ⟨a, ha, hl⟩ => ⟨a, ha, not_escalates hapart ha hl⟩)
    exact (evaluate_of_parts hquiet).mpr hblocked

/-- One rule, a score that is the confidence of its match, and a critical threshold of scoring. -/
def sureRules (confidence critical : Float) : Rules.RuleSet where
  version := "1"
  patterns := ⟨[], [⟨"x", .injectionDirect, "x", confidence, 1⟩], []⟩
  scoring := { ScoringConfig.standard with
    thresholds := { Thresholds.standard with critical }
    inputGuard := { InputGuardConfig.standard with weights := ⟨0, 1⟩ } }

/-- A request that the rule matches. -/
def sureRequest : Request := ⟨⟨"x", none, none⟩, .anonymous "r", none⟩

theorem blocked_of_critical_standard :
    (sureRules 1 0.95).validate = .ok () ∧ (sureRules 1 0.95).scoring.BandsApart ∧
      ∃ e a, Engine.ofRules (sureRules 1 0.95) = .ok e ∧
        ((ofEngine e).begin 0 sureRequest).1.evaluation.aggregated = some a ∧ a.level = .critical ∧
          ∀ panel replies,
            (evaluate { ofEngine e with panel } 0 sureRequest replies).1.1.blocked = true := by
  have hv : (sureRules 1 0.95).validate = .ok () := by decide +kernel
  have hapart : (sureRules 1 0.95).scoring.BandsApart := fun _ => by decide +kernel
  obtain ⟨e, he, -, h⟩ := blocked_of_critical hv
  have hlevel :
      ((ofEngine e).begin 0 sureRequest).1.evaluation.aggregated.map (·.level) = some .critical :=
    of_ok (P := fun e : Engine => ((ofEngine e).begin 0 _).1.evaluation.aggregated.map _ = _)
      (by decide +kernel) he
  obtain ⟨a, ha, hl⟩ := Option.map_eq_some_iff.mp hlevel
  refine ⟨hv, hapart, e, a, he, ha, hl, fun panel replies => ?_⟩
  obtain ⟨hcritical, -⟩ := h { ofEngine e with panel } 0 sureRequest rfl
  have ha' : (begin { ofEngine e with panel } 0 sureRequest).1.evaluation.aggregated = some a := by
    rw [begin_evaluation] at ha ⊢
    exact ha
  obtain ⟨-, hcalm, hblocked⟩ := hcritical a ha' hl
  exact hblocked (hcalm hapart) _ replies

/-- One agent, which finds nothing wrong with any input. -/
def calmPanel : Shadow.Panel :=
  ⟨[(.input, ⟨.constant .input 0, .fresh "shadow_input" .standard⟩)], none⟩

/-- An agent that finds nothing wrong with an input lets a critical request through. -/
theorem critical_allowed_by_opinion :
    (sureRules 0.9 0.85).validate = .ok () ∧ ∃ e, Engine.ofRules (sureRules 0.9 0.85) = .ok e ∧
      ((ofEngine e).begin 0 sureRequest).1.evaluation.aggregated.map
          (fun a => (a.level, a.escalates)) = some (.critical, true) ∧
        ((ofEngine e).evaluate 0 sureRequest fun _ => Shadow.silence).1.1.blocked = true ∧
        (evaluate { ofEngine e with panel := some calmPanel } 0 sureRequest
          fun _ => Shadow.silence).1.1.blocked = false :=
  ⟨by decide +kernel, exists_ok (by decide +kernel)⟩

end Pipeline

end Guardrail
