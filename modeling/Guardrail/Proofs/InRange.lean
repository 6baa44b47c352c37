import Guardrail.Proofs.Critical
import Guardrail.Proofs.ScoreOrder
import Guardrail.Proofs.Stages

/-!
What is reported lies in range.

Whatever comes in, every value, factor, confidence and severity is brought into `[0, 1]` before it is reported, and
every level is that of the value beside it. Only the score of a payload given to the wrong stage is written down as it
is; it is zero, which accepted thresholds put at the bottom.
-/

namespace Guardrail

/-! ### Numbers in range -/

section

variable {ν : Type} [Scalar ν]

/-- A number, and one in `[0, 1]`. -/
structure Scalar.InUnit (x : ν) : Prop where
  number : Scalar.isNaN x = false
  nonneg : 0 ≤ x
  le_one : x ≤ 1

/-- A value with a level and factors: value and factors are in range, and the level is that of the value. -/
structure Thresholds.Rates (t : Thresholds ν) (x : ν) (l : RiskLevel) (parts : Keyed String ν) : Prop where
  value : Scalar.InUnit x
  level : l = t.classify x
  factors : ∀ part ∈ parts, Scalar.InUnit part.2

def RiskScore.InRange (t : Thresholds ν) (s : RiskScore ν) : Prop := t.Rates s.value s.level s.factors

def LayerDetail.InRange (t : Thresholds ν) (d : LayerDetail ν) : Prop := t.Rates d.score d.level d.factors

/-- The overall risk, its base and all that it is made of are in range, and levels are those of the values. -/
structure Aggregate.InRange (t : Thresholds ν) (a : Aggregate ν) : Prop where
  score : Scalar.InUnit a.score
  level : a.level = t.classify a.score
  base : Scalar.InUnit a.breakdown.base
  layerScores : ∀ x ∈ a.layerScores, Scalar.InUnit x.2
  layers : ∀ x ∈ a.breakdown.layers, x.2.InRange t

end

structure Finding.InRange (f : Finding) : Prop where
  confidence : Scalar.InUnit f.confidence
  severity : Scalar.InUnit f.severity

/-- The score and all findings of a stage are in range. -/
structure Assessment.InRange (t : Thresholds) (a : Assessment) : Prop where
  score : a.score.InRange t
  findings : ∀ f ∈ a.findings, f.InRange

/-- All stages that ran are in range, and so is the overall risk, if there is one. -/
structure Evaluation.InRange (t : Thresholds) (v : Evaluation) : Prop where
  stages : ∀ s ∈ v.stages, s.assessment.InRange t
  aggregated : ∀ a ∈ v.aggregated, a.InRange t

/-! ### Scores -/

section

variable {ν : Type} [Scalar ν] [Scalar.Ordered ν] {t : Thresholds ν}

open Scalar

lemma Scalar.inUnit_clampUnit (x : ν) : InUnit (clampUnit x) := by
  obtain ⟨h0, h1⟩ := clampUnit_mem x
  exact ⟨(Ordered.isNaN_of_le h0).2, h0, h1⟩

lemma Scalar.inUnit_zero : InUnit (0 : ν) := by
  have hnumber : isNaN (0 : ν) = false := (Ordered.isNaN_of_le zero_le_one).1
  exact ⟨hnumber, le_refl hnumber, zero_le_one⟩

lemma Thresholds.classify_zero (ht : t.ordered = true) : t.classify 0 = .none := by
  obtain ⟨hlow, hmedium, hhigh, hcritical, -⟩ := ordered_iff.mp ht
  have hzero : clampUnit (0 : ν) = 0 := clampUnit_of_mem inUnit_zero.nonneg inUnit_zero.le_one
  -- every bound lies above zero, so none is reached
  have hbelow {c : ν} (h : 0 < c) : ¬ c ≤ 0 := fun hc => not_lt_of_le hc h
  have hmedium := lt_trans hlow hmedium
  have hhigh := lt_trans hmedium hhigh
  have hcritical := lt_trans hhigh hcritical
  simp only [classify]
  rw [hzero, if_neg (hbelow hcritical), if_neg (hbelow hhigh), if_neg (hbelow hmedium), if_neg (hbelow hlow)]

namespace RiskScore

lemma inRange_make (layer : Layer) (value : ν) (factors : Keyed String ν) (explanation : String)
    (t : Thresholds ν) : (make layer value factors explanation t).InRange t where
  value := inUnit_clampUnit value
  level := rfl
  factors := List.forall_mem_map.mpr fun x _ => inUnit_clampUnit x.2

lemma inRange_zero (ht : t.ordered = true) (layer : Layer) (factor explanation : String) :
    (zero layer factor explanation : RiskScore ν).InRange t where
  value := inUnit_zero
  level := (t.classify_zero ht).symm
  factors := List.forall_mem_singleton.mpr inUnit_zero

end RiskScore

/-- Scores in range make an overall risk in range, whatever the weights, the trust and the multipliers. -/
lemma Aggregator.inRange_aggregate (a : Aggregator ν) {scores : List (RiskScore ν)}
    (h : ∀ s ∈ scores, s.InRange a.thresholds) (context : RequestContext ν) (blocked : Bool) :
    (a.aggregate scores context blocked).InRange a.thresholds := by
  -- what counts for a stage is one of the scores as it came
  have hselect : ∀ x ∈ Aggregate.select scores, x.2.InRange a.thresholds := fun x hx =>
    h x.2 (Aggregate.mem_of_standing (Aggregate.mem_select.mp hx).2).1
  refine {
    score := inUnit_clampUnit _
    level := rfl
    base := inUnit_clampUnit _
    layerScores := fun x hx => ?_
    layers := ?_ }
  · obtain ⟨y, hy, rfl⟩ := List.mem_map.mp (Keyed.mem_ofList hx)
    exact (hselect y hy).value
  · rw [aggregate_layers]
    exact List.forall_mem_map.mpr hselect

end

/-! ### Findings -/

lemma Finding.inRange_make (category : Category) (span : Span) (confidence severity : Float) (rule : String) :
    (make category span confidence severity rule).InRange :=
  ⟨Scalar.inUnit_clampUnit confidence, Scalar.inUnit_clampUnit severity⟩

lemma Rules.Compiled.inRange_finding (r : Compiled) (span : Span) : (r.finding span).InRange :=
  Finding.inRange_make ..

namespace Detect

def AllInRange (found : List Finding) : Prop := ∀ f ∈ found, f.InRange

/-- What is reported, if anything is, has a property. -/
def Gives {ε α : Type} (P : α → Prop) (report : Except ε α) : Prop := ∀ a, report = .ok a → P a

section

variable {ε α : Type} {P : α → Prop} {report : Except ε α}

lemma Gives.mapError {ε' : Type} (h : Gives P report) (f : ε → ε') : Gives P (report.mapError f) :=
  fun a ha => h a (mapError_ok ha)

/-- The empty report stands in for one that is missing. -/
lemma Gives.guarded {report : Except Failure α} (h : Gives P report) {empty : α} (hempty : P empty)
    (detector : String) : P (guarded detector empty report).1 := by
  cases report with
  | ok a => exact h a rfl
  | error failure => exact hempty

/-- Texts that are too long are refused before anything is looked for. -/
lemma gives_checkSize {limit : ℕ} {text : List Char} {rest : Unit → Except DetectorError α} (h : Gives P (rest ())) :
    Gives P (checkSize limit text >>= rest) :=
  fun a ha => h a (check_ok.mp ha).2

lemma gives_ok {a : α} (h : P a) : Gives P (.ok a : Except ε α) := by
  rintro _ ⟨⟩
  exact h

end

lemma allInRange_nil : AllInRange [] := List.forall_mem_nil _

lemma allInRange_of_rules {rules : List Rules.Compiled} {found : List Finding}
    (h : ∀ f ∈ found, FoundBy rules f) : AllInRange found := by
  intro f hf
  obtain ⟨r, -, span, rfl⟩ := h f hf
  exact r.inRange_finding span

section

variable {rules : List Rules.Compiled} {limit : ℕ} {text : List Char}

lemma gives_pii {memo : Luhn.Memo} :
    Gives AllInRange (pii rules limit memo text).1 := by
  unfold pii
  split
  · exact fun _ h => nomatch h
  · exact gives_ok (allInRange_of_rules fun f hf => (matchedBy_of_candidates (Finding.mem_of_mem_resolve hf)).foundBy)

lemma gives_injection : Gives AllInRange (injection rules limit text) :=
  gives_checkSize (gives_ok (allInRange_of_rules fun _ hf => foundBy_of_revealed (List.mem_mergeSort.mp hf)))

lemma gives_leak : Gives AllInRange (leak rules limit text) :=
  gives_checkSize (gives_ok (allInRange_of_rules fun _ hf => (matchedBy_of_scan (List.mem_mergeSort.mp hf)).foundBy))

lemma gives_promptEcho {prompt : List Char} {n : ℕ} : Gives AllInRange (promptEcho prompt n limit text) := by
  refine gives_checkSize ?_
  dsimp only
  split
  · exact gives_ok allInRange_nil
  · exact gives_ok (List.forall_mem_singleton.mpr (Finding.inRange_make ..))

end

namespace Verdict

structure InRange (v : Verdict) : Prop where
  findings : AllInRange v.findings

lemma inRange_clean : clean.InRange := ⟨allInRange_nil⟩

lemma inRange_failure (risk : Float) (rule : String) (text : List Char) (errors : List String) :
    (failure risk rule text errors).InRange :=
  ⟨List.forall_mem_singleton.mpr (Finding.inRange_make ..)⟩

end Verdict

lemma inRange_conform (complaint : String → String) (judge : Json → List Schema.Violation) (text : List Char) :
    (conform complaint judge text).InRange := by
  simp only [conform]
  split
  · exact Verdict.inRange_failure ..
  · split
    · exact Verdict.inRange_clean
    · exact Verdict.inRange_failure ..

lemma gives_validate {checker : Schema.Checker} {emptyRisk : Float} {limit : ℕ} {text : List Char}
    {schema : Option Json} : Gives Verdict.InRange (validate checker emptyRisk limit text schema) := by
  refine gives_checkSize ?_
  split
  · exact gives_ok (Verdict.inRange_failure ..)
  · split
    · exact gives_ok Verdict.inRange_clean
    · split
      · exact fun _ h => nomatch h
      · exact gives_ok (inRange_conform ..)

lemma inRange_observe (config : StateMonitorConfig) (s : Snapshot) :
    AllInRange (Activity.observe config s).findings := by
  have hone {category : Category} {span : Span} {confidence severity : Float} {rule : String} :
      AllInRange [.make category span confidence severity rule] :=
    List.forall_mem_singleton.mpr (Finding.inRange_make ..)
  simp only [Activity.observe]
  refine List.forall_mem_append.mpr ⟨List.forall_mem_append.mpr ⟨?_, ?_⟩, ?_⟩
  · split
    · exact hone
    · exact allInRange_nil
  · split
    · split
      · exact hone
      · exact allInRange_nil
    · exact allInRange_nil
  · split
    · exact hone
    · exact allInRange_nil

end Detect

/-! ### Stages -/

lemma Assessment.inRange_merge {groups : List (List Finding)} (h : ∀ g ∈ groups, Detect.AllInRange g) :
    Detect.AllInRange (merge groups) := by
  intro f hf
  obtain ⟨g, hg, hf⟩ := List.mem_flatten.mp (List.mem_mergeSort.mp hf)
  exact h g hg f hf

lemma Assessment.inRange_misplaced {t : Thresholds} (ht : t.ordered = true) (expected : Layer) (payload : Payload) :
    (misplaced expected payload).InRange t :=
  ⟨RiskScore.inRange_zero ht .., Detect.allInRange_nil⟩

open Detect

/-! Detectors may fail; what those report that do not is in range. -/

lemma InputGuard.inRange_assemble {reports : Reports} (hpii : Gives AllInRange reports.pii)
    (hinjection : Gives AllInRange reports.injection) (config : InputGuardConfig) (t : Thresholds)
    (text : List Char) : (assemble config t text reports).InRange t where
  score := RiskScore.inRange_make ..
  findings := by
    refine Assessment.inRange_merge (List.forall_mem_cons.mpr ⟨?_, List.forall_mem_singleton.mpr ?_⟩)
    · exact hpii.guarded allInRange_nil "pii"
    · exact hinjection.guarded allInRange_nil "injection"

lemma StateMonitor.inRange_assemble {report : Except Failure Activity}
    (h : Gives (fun a => AllInRange a.findings) report) (config : StateMonitorConfig) (t : Thresholds) :
    (assemble config t report).InRange t where
  score := RiskScore.inRange_make ..
  findings := by
    refine Assessment.inRange_merge (List.forall_mem_singleton.mpr ?_)
    exact h.guarded allInRange_nil "state"

lemma OutputGuard.inRange_assemble {reports : Reports} (hleak : Gives AllInRange reports.leak)
    (hecho : ∀ report ∈ reports.echo, Gives AllInRange report) (hpii : Gives AllInRange reports.pii)
    (hvalidation : Gives Verdict.InRange reports.validation) (config : OutputGuardConfig) (t : Thresholds)
    (answer : OutputPayload) : (assemble config t answer reports).InRange t where
  score := RiskScore.inRange_make ..
  findings := by
    refine Assessment.inRange_merge (List.forall_mem_cons.mpr ⟨List.forall_mem_append.mpr ⟨?_, ?_⟩,
      List.forall_mem_cons.mpr ⟨fun f hf => ?_, List.forall_mem_singleton.mpr ?_⟩⟩)
    · exact hleak.guarded allInRange_nil "leak"
    · split
      · next report hreport => exact (hecho report hreport).guarded allInRange_nil "prompt_echo"
      · exact allInRange_nil
    · exact hpii.guarded allInRange_nil "pii" f (List.mem_filter.mp hf).1
    · exact (hvalidation.guarded Verdict.inRange_clean "validation").findings

lemma InputGuard.inRange_assess (rules : Rules.CompiledLibrary) (config : InputGuardConfig) (t : Thresholds)
    (limit : ℕ) (memo : Luhn.Memo) (text : List Char) : (assess rules config t limit memo text).1.InRange t :=
  inRange_assemble (gives_pii.mapError _) (gives_injection.mapError _) config t text

lemma StateMonitor.inRange_assess (config : StateMonitorConfig) (t : Thresholds) (snapshot : Snapshot) :
    (assess config t snapshot).InRange t :=
  inRange_assemble (gives_ok (inRange_observe config snapshot)) config t

lemma OutputGuard.inRange_assess (rules : Rules.CompiledLibrary) (checker : Schema.Checker)
    (config : OutputGuardConfig) (t : Thresholds) (limit : ℕ) (memo : Luhn.Memo) (answer : OutputPayload) :
    (assess rules checker config t limit memo answer).1.InRange t := by
  refine inRange_assemble (gives_leak.mapError _) (fun report hreport => ?_) (gives_pii.mapError _)
    (gives_validate.mapError _) config t answer
  obtain ⟨prompt, -, rfl⟩ := Option.map_eq_some_iff.mp hreport
  exact gives_promptEcho.mapError _

namespace Engine

variable {e : Engine}

/-- Whatever a scorer is given, its own kind of payload or not. -/
lemma inRange_assessAs (ht : e.config.thresholds.ordered = true) (stage : Stage) (memo : Luhn.Memo)
    (payload : Payload) : (e.assessAs stage memo payload).1.InRange e.config.thresholds := by
  unfold assessAs
  split
  · exact InputGuard.inRange_assess ..
  · exact StateMonitor.inRange_assess ..
  · exact OutputGuard.inRange_assess ..
  · exact Assessment.inRange_misplaced ht ..

lemma inRange_evaluate (ht : e.config.thresholds.ordered = true) (memo : Luhn.Memo) (stages : StageInputs)
    (context : RequestContext) : (e.evaluate memo stages context).1.InRange e.config.thresholds := by
  obtain ⟨hruns, -, -⟩ := e.runs_evaluate memo stages context
  have hstages : ∀ s ∈ (e.evaluate memo stages context).1.stages, s.assessment.InRange e.config.thresholds := by
    intro s hs
    obtain ⟨memo', hassessed⟩ := hruns.assessed s hs
    rw [hassessed]
    exact inRange_assessAs ht s.payload.stage memo' s.payload
  refine ⟨hstages, fun a ha => ?_⟩
  -- an overall risk is made of the scores of the stages that ran
  obtain ⟨-, rfl⟩ := evaluate_aggregated ha
  exact e.aggregator.inRange_aggregate (List.forall_mem_map.mpr fun s hs => (hstages s hs).score) context false

/-- **Scoring always comes to an end, and in range.** Under accepted rules there is an engine. Each of its scorers
reports under its own layer whatever it is given, a payload of its own stage or of another, and whatever card
numbers were met before. A request that nothing blocks runs through all its stages and has an overall risk, whoever
asks. Every value, factor, confidence and severity in this is a number in `[0, 1]`, and every level is that of the
value beside it under the thresholds of the rules. For the overall risk nothing else is needed than that scores are
so, second opinions among them. -/
theorem scores_in_range [Pattern.Dialect] {r : Rules.RuleSet} (h : r.validate = .ok ()) : ∃ e, ofRules r = .ok e ∧
    (∀ (stage : Stage) (memo : Luhn.Memo) (payload : Payload),
      (e.assessAs stage memo payload).1.score.layer = stage.ruleLayer ∧
        (e.assessAs stage memo payload).1.InRange r.scoring.thresholds) ∧
    (∀ (memo : Luhn.Memo) (stages : StageInputs) (context : RequestContext),
      let v := (e.evaluate memo stages context).1
      v.InRange r.scoring.thresholds ∧ (v.hardBlock = none →
        v.stages.map (·.payload) = stages.seen v.redactedInput ∧ v.aggregated.isSome = true)) ∧
    ∀ (scores : List RiskScore) (context : RequestContext) (blocked : Bool),
      (∀ s ∈ scores, s.InRange r.scoring.thresholds) →
        (e.aggregator.aggregate scores context blocked).InRange r.scoring.thresholds := by
  obtain ⟨-, hs, -⟩ := Rules.RuleSet.validate_ok.mp h
  obtain ⟨ht, -⟩ := ScoringConfig.validate_ok.mp hs
  obtain ⟨e, hofRules, hconfig, -⟩ := ofRules_of_validate h
  rw [← hconfig] at ht ⊢
  rw [Thresholds.validate_ok] at ht
  refine ⟨e, hofRules, fun stage memo payload => ⟨e.assessAs_layer stage memo payload, inRange_assessAs ht ..⟩,
    fun memo stages context => ⟨inRange_evaluate ht memo stages context, fun hnone => ?_⟩,
    fun scores context blocked hscores => e.aggregator.inRange_aggregate hscores context blocked⟩
  obtain ⟨hruns, -, heither⟩ := e.runs_evaluate memo stages context
  rw [hnone] at hruns
  refine ⟨hruns.complete.1, Option.isSome_iff_ne_none.mpr fun hnorisk => ?_⟩
  simpa [hnone] using heither.mpr hnorisk

/-- Numbers that make no sense: a cost that is none against a budget below zero, and a token of a budget of none. -/
def senseless : Snapshot := ⟨[], 1, some 0, 0 / 0, some (-1), 0⟩

/-- Someone whose trust is not a number. -/
def unknown : RequestContext := { (RequestContext.anonymous "r" : RequestContext) with trust := 0 / 0 }

/-- The token is an overrun, which is low risk. -/
theorem scores_in_range_senseless : (Pipeline.sureRules 1 0.95).validate = .ok () ∧
    ∃ e, ofRules (Pipeline.sureRules 1 0.95) = .ok e ∧
      (e.assessAs .input [] (.state senseless)).1.InRange (Pipeline.sureRules 1 0.95).scoring.thresholds ∧
      let v := (e.evaluate [] ⟨"y", some senseless, none⟩ unknown).1
      v.InRange (Pipeline.sureRules 1 0.95).scoring.thresholds ∧
        v.stages.map (·.assessment.score.level) = [.none, .low] ∧ v.aggregated.map (·.level) = some .none := by
  have hv : (Pipeline.sureRules 1 0.95).validate = .ok () := by decide +kernel
  obtain ⟨e, he, hassess, hevaluate, -⟩ := scores_in_range hv
  have hrun : (e.evaluate [] ⟨"y", some senseless, none⟩ unknown).1.stages.map (·.assessment.score.level)
        = [.none, .low] ∧
      (e.evaluate [] ⟨"y", some senseless, none⟩ unknown).1.aggregated.map (·.level) = some .none :=
    of_ok (P := fun e : Engine => (e.evaluate [] _ _).1.stages.map _ = _ ∧ (e.evaluate [] _ _).1.aggregated.map _ = _)
      (by decide +kernel) he
  exact ⟨hv, e, he, (hassess .input [] (.state senseless)).2, (hevaluate [] _ unknown).1, hrun⟩

end Engine

end Guardrail
