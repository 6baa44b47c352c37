import Guardrail.Simulation
import Guardrail.Proofs.Critical
import Guardrail.Proofs.InputStage
import Guardrail.Proofs.Panels
import Guardrail.Proofs.Selection

/-!
What an escalation makes of the overall risk.

Each stage that ran counts with the verdict on it if there is one, and with its score by rules
otherwise. Nothing else that an agent does shows: the weights, and that a second opinion was asked
for, stay as they are, and without any verdict so does the whole overall risk.
-/

namespace Guardrail

namespace Engine

/-! ### Stages that ran -/

lemma layers_runStages (e : Engine) (memo : Luhn.Memo) (redacted : Option String)
    {nexts : List (Option String → Payload)} {ss : List Stage}
    (h : List.Forall₂ (fun next s => ∀ r, (next r).stage = s) nexts ss) :
    (e.runStages memo redacted nexts).1.1.map (·.assessment.score.layer)
      <+: ss.map Stage.ruleLayer := by
  induction h generalizing memo redacted with
  | nil => exact List.prefix_rfl
  | @cons next s nexts ss hnext _ ih =>
    have hlayer : (e.assess memo (next redacted)).1.score.layer = s.ruleLayer := by
      rw [assess_layer, hnext]
    simp only [runStages]
    split
    · simp [hlayer]
    · simp only [List.map_cons, hlayer]
      exact List.cons_prefix_cons.mpr ⟨rfl, ih _ _⟩

/-- The stages of a request that ran are different stages, each scored by rules. -/
lemma layers_evaluate (e : Engine) (memo : Luhn.Memo) (stages : StageInputs)
    (context : RequestContext) : ∃ ss : List Stage, ss.Nodup ∧
      (e.evaluate memo stages context).1.scores.map (·.layer) = ss.map Stage.ruleLayer := by
  let there : List Stage := .input :: ((stages.state.map fun _ => Stage.state).toList
    ++ (stages.output.map fun _ => Stage.output).toList)
  have hstages : List.Forall₂ (fun next s => ∀ r, Payload.stage (next r) = s)
      (payloads stages) there := by
    refine .cons (fun _ => rfl) ?_
    cases stages.state <;> cases stages.output <;> simp [Payload.stage]
  have hnodup : there.Nodup := by
    simp only [there]
    cases stages.state <;> cases stages.output <;> simp
  have hprefix := layers_runStages e memo none hstages
  refine ⟨there.take (e.runStages memo none (payloads stages)).1.1.length,
    (List.take_sublist ..).nodup hnodup, ?_⟩
  rw [List.prefix_iff_eq_take, List.length_map] at hprefix
  rw [List.map_take, ← hprefix]
  simp [evaluate, Evaluation.scores, Function.comp_def]

end Engine

namespace Shadow

/-! ### Verdicts on stages -/

/-- The layer and the value that a stage counts with, given what was answered for each stage: the verdict's
if there is one, and those of the rules otherwise. -/
def standing (answers : Keyed Stage Result) (s : RiskScore) : Layer × Float :=
  match answers.get? s.layer.stage with
  | some v => if v.fallbackUsed then (s.layer, s.value) else (s.layer.shadow, Scalar.clampUnit v.score)
  | none => (s.layer, s.value)

/-- What was answered speaks of different stages, of which each was scored by rules, and under the layer
of its own. -/
structure Answered (scores : List RiskScore) (answers : Keyed Stage Result) : Prop where
  rules : ∃ ss : List Stage, ss.Nodup ∧ scores.map (·.layer) = ss.map Stage.ruleLayer
  distinct : (answers.map (·.1)).Nodup
  scored : ∀ y ∈ answers, y.1.ruleLayer ∈ scores.map (·.layer)
  own : ∀ y ∈ answers, y.2.layer = y.1.shadowLayer

/-- The verdicts among answers. -/
def opinions (thresholds : Thresholds) (answers : Keyed Stage Result) : List RiskScore :=
  ((answers.map (·.2)).filter (!·.fallbackUsed)).map (·.toScore thresholds)

variable {scores : List RiskScore} {answers : Keyed Stage Result} {thresholds : Thresholds}

lemma mem_opinions {o : RiskScore} : o ∈ opinions thresholds answers ↔
    ∃ y ∈ answers, y.2.fallbackUsed = false ∧ y.2.toScore thresholds = o := by
  simp only [opinions, List.mem_map, List.mem_filter]
  constructor
  · rintro ⟨r, ⟨⟨y, hy, rfl⟩, hr⟩, ho⟩
    exact ⟨y, hy, by simpa using hr, ho⟩
  · rintro ⟨y, hy, hr, ho⟩
    exact ⟨y.2, ⟨⟨y, hy, rfl⟩, by simpa using hr⟩, ho⟩

namespace Answered

lemma pairwise_scores (h : Answered scores answers) :
    scores.Pairwise fun s t => s.layer.base ≠ t.layer.base := by
  obtain ⟨ss, hnodup, hlayers⟩ := h.rules
  have hbase : scores.map (·.layer.base) = ss.map Stage.ruleLayer := by
    calc scores.map (·.layer.base) = (scores.map (·.layer)).map Layer.base := by simp
      _ = ss.map Stage.ruleLayer := by simp [hlayers, Function.comp_def, Layer.base, Stage.ruleLayer]
  have hmap : (scores.map (·.layer.base)).Nodup := by
    rw [hbase]
    exact hnodup.map fun s t hst => congrArg Layer.stage hst
  exact List.pairwise_map.mp hmap

lemma base_layer (h : Answered scores answers) {s : RiskScore} (hs : s ∈ scores) :
    s.layer.stage.ruleLayer = s.layer := by
  obtain ⟨ss, -, hlayers⟩ := h.rules
  have hmem : s.layer ∈ ss.map Stage.ruleLayer := by
    rw [← hlayers]
    exact List.mem_map_of_mem hs
  obtain ⟨t, -, ht⟩ := List.mem_map.mp hmem
  rw [← ht]
  rfl

lemma layer_toScore (h : Answered scores answers) {y : Stage × Result} (hy : y ∈ answers)
    (hv : y.2.fallbackUsed = false) : (y.2.toScore thresholds).layer = y.1.shadowLayer := by
  simp [Result.toScore, RiskScore.make, hv, h.own y hy]

lemma pairwise_opinions (h : Answered scores answers) :
    (opinions thresholds answers).Pairwise fun s t => s.layer.base ≠ t.layer.base := by
  have hstages : answers.Pairwise fun y z => y.1 ≠ z.1 := List.pairwise_map.mp h.distinct
  have heq : opinions thresholds answers
      = (answers.filter fun y => !y.2.fallbackUsed).map fun y => y.2.toScore thresholds := by
    simp [opinions, List.filter_map, Function.comp_def]
  rw [heq, List.pairwise_map]
  refine (hstages.filter _).imp_of_mem fun {y z} hy hz hne => ?_
  obtain ⟨hy, hyv⟩ := List.mem_filter.mp hy
  obtain ⟨hz, hzv⟩ := List.mem_filter.mp hz
  rw [h.layer_toScore hy (by simpa using hyv), h.layer_toScore hz (by simpa using hzv)]
  exact fun hbase => hne (congrArg Layer.stage hbase)

lemma opinion_scored (h : Answered scores answers) {o : RiskScore}
    (ho : o ∈ opinions thresholds answers) : ∃ s ∈ scores, s.layer.base = o.layer.base := by
  obtain ⟨y, hy, hv, rfl⟩ := mem_opinions.mp ho
  obtain ⟨s, hs, hlayer⟩ := List.mem_map.mp (h.scored y hy)
  refine ⟨s, hs, ?_⟩
  rw [hlayer, h.layer_toScore hy hv]
  rfl

/-- The score that counts for a stage. -/
lemma select_standing (h : Answered scores answers) {s : RiskScore} (hs : s ∈ scores) :
    ∃ t, (Aggregate.select (scores ++ opinions thresholds answers)).get? s.layer = some t ∧
      (t.layer, t.value) = standing answers s := by
  have hbase : s.layer.base = s.layer := h.base_layer hs
  -- without a verdict on the stage its own score counts
  have hrules (hno : ∀ y ∈ answers, y.1 = s.layer.stage → y.2.fallbackUsed = true) :
      (Aggregate.select (scores ++ opinions thresholds answers)).get? s.layer = some s := by
    rw [Aggregate.select_append, Aggregate.get?_foldl_choose_of_ne fun o ho hlayer => ?_]
    · have hown := Aggregate.get?_select h.pairwise_scores hs
      rwa [hbase] at hown
    · obtain ⟨y, hy, hv, rfl⟩ := mem_opinions.mp ho
      rw [h.layer_toScore hy hv] at hlayer
      have hfallback := hno y hy (congrArg Layer.stage hlayer)
      rw [hv] at hfallback
      cases hfallback
  cases hv : answers.get? s.layer.stage with
  | none =>
    refine ⟨s, hrules fun y hy hstage => ?_, by simp [standing, hv]⟩
    rw [← hstage, Keyed.get?_of_mem h.distinct hy] at hv
    cases hv
  | some v =>
    have hmem := Keyed.mem_of_get? hv
    cases hused : v.fallbackUsed with
    | true =>
      refine ⟨s, hrules fun y hy hstage => ?_, by simp [standing, hv, hused]⟩
      rw [← hstage, Keyed.get?_of_mem h.distinct hy] at hv
      rwa [Option.some.inj hv]
    | false =>
      have hlayer : (v.toScore thresholds).layer = s.layer.shadow := h.layer_toScore hmem hused
      have hopinion : v.toScore thresholds ∈ opinions thresholds answers :=
        mem_opinions.mpr ⟨_, hmem, hused, rfl⟩
      have hcounts : Keyed.get? (v.toScore thresholds).layer.base
          ((opinions thresholds answers).foldl Aggregate.choose (Aggregate.select scores))
            = some (v.toScore thresholds) :=
        Aggregate.get?_foldl_choose h.pairwise_opinions hopinion (.inl (by rw [hlayer]; rfl))
      refine ⟨v.toScore thresholds, ?_, by rw [hlayer]; simp [standing, hv, hused, Result.toScore,
        RiskScore.make]⟩
      rw [Aggregate.select_append]
      rwa [hlayer, show s.layer.shadow.base = s.layer from hbase] at hcounts

end Answered

/-! ### The overall risk with second opinions -/

section

variable {a : Aggregator} {before : Aggregate} {context : RequestContext}

/-- An overall risk with what stays on record of the one before it. -/
def recorded (before after : Aggregate) (results : List Result) : Aggregate :=
  { after with
    escalates := before.escalates
    reason := before.reason
    breakdown := { after.breakdown with shadow := results.map Result.detail } }

lemma reaggregate_eq (h : before = a.aggregate scores context false) :
    reaggregate a before scores context (answers.map (·.2)) = recorded before
      (a.aggregate (scores ++ opinions a.thresholds answers) context false) (answers.map (·.2)) := by
  have hafter : (if (opinions a.thresholds answers).isEmpty then before
        else a.aggregate (scores ++ opinions a.thresholds answers) context false)
      = a.aggregate (scores ++ opinions a.thresholds answers) context false := by
    split
    · next hnone => rw [List.isEmpty_iff.mp hnone, List.append_nil, h]
    · rfl
  rw [← hafter]
  rfl

/-- What answers make of an overall risk: each stage counts with what stands, the weights and that and why
a second opinion was asked for stay, and without a verdict all stays but for the list of answers. -/
structure Amends (scores : List RiskScore) (answers : Keyed Stage Result) (before after : Aggregate) :
    Prop where
  layers : ∀ s ∈ scores, ∃ d, after.breakdown.layers.get? s.layer = some d ∧
    (d.source, d.score) = standing answers s
  weights : after.breakdown.weights = before.breakdown.weights
  escalates : after.escalates = before.escalates
  reason : after.reason = before.reason
  fallbacks : (∀ y ∈ answers, y.2.fallbackUsed = true) →
    after = { before with
      breakdown := { before.breakdown with shadow := (answers.map (·.2)).map Result.detail } }

lemma Answered.amends (h : Answered scores answers)
    (hbefore : before = a.aggregate scores context false) :
    Amends scores answers before (reaggregate a before scores context (answers.map (·.2))) where
  layers s hs := by
    obtain ⟨t, ht, hstanding⟩ := h.select_standing hs
    obtain ⟨weight, hdetail⟩ := a.get?_aggregate_layers
      (scores ++ opinions a.thresholds answers) context false s.layer
    rw [reaggregate_eq hbefore]
    exact ⟨Aggregator.detailOf weight t, by rw [recorded, hdetail, ht]; rfl, hstanding⟩
  weights := by
    rw [reaggregate_eq hbefore]
    simp only [hbefore, recorded, Aggregator.aggregate_weights]
    rw [Aggregate.keys_select_append h.pairwise_scores fun o ho => h.opinion_scored ho]
  escalates := rfl
  reason := rfl
  fallbacks hall := by
    have hnone : (answers.map (·.2)).filter (!·.fallbackUsed) = [] := by
      simpa [List.filter_eq_nil_iff] using fun v s hv => hall (s, v) hv
    simp only [reaggregate, hnone]
    rfl

end

/-! ### Agents -/

/-- The stages of an evaluation that a panel has agents for. -/
def Panel.asked (p : Panel) (v : Evaluation) : List Stage :=
  (v.scores.map (·.layer.stage)).filter fun s => (p.agent? s).isSome

/-- To inquiries the agents of a panel answer under the layers of their own, and so is remembered what they
answered. -/
structure Panel.ReportsOwn (p : Panel) (qs : List Inquiry) : Prop where
  answered : ∀ q ∈ qs, ∀ a, p.agent? q.agent = some a → ∀ reply o,
    (a.analyse q reply).outcome = .ok o → o.result.layer = q.agent.shadowLayer
  remembered : ∀ q ∈ qs, ∀ r, p.remembered? q = some r → r.layer = q.agent.shadowLayer

lemma agents_seatAll (p : Panel) (now : ℕ) (e : Engine) (v : Evaluation) (context : RequestContext) :
    (p.seatAll now (inquiries e v context)).1.map (·.inquiry.agent) = p.asked v := by
  calc (p.seatAll now (inquiries e v context)).1.map (·.inquiry.agent)
      = ((p.seatAll now (inquiries e v context)).1.map (·.inquiry)).map (·.agent) := by simp
    _ = ((inquiries e v context).filter fun q => (p.agent? q.agent).isSome).map (·.agent) := by
        rw [p.inquiries_seatAll]
    _ = p.asked v := by
        simp [inquiries, Panel.asked, Evaluation.scores, List.filter_map, Function.comp_def, inquiry]

/-- Whatever a part comes to, it is reported under the layer of its agent. -/
lemma Part.Ends.layer {x : Part} {p : Panel} {start deadline : ℕ} {reply : Reply}
    {e : (Contribution × ℕ) × Panel} (h : x.Ends p start deadline reply e)
    (hanswered : ∀ o, (x.agent.analyse x.inquiry reply).outcome = .ok o →
      o.result.layer = x.inquiry.agent.shadowLayer)
    (hremembered : ∀ r, x.seat = .remembered r → r.layer = x.inquiry.agent.shadowLayer) :
    e.1.1.result.layer = x.inquiry.agent.shadowLayer := by
  cases h with
  | @remembered r seat => exact hremembered r seat
  | answered now seat outcome => exact hanswered _ outcome
  | refused | gone | dropped => rfl
  | @failed permit error => cases error <;> rfl

/-- What the agents of a panel come to answers for all stages that they were asked about. -/
lemma answered_finishAll (e : Engine) (memo : Luhn.Memo) (stages : StageInputs)
    (context : RequestContext) {p p' : Panel} {now : ℕ} {began : Stage → ℕ}
    {deadline : ℕ} {replies : Stage → Reply}
    (hown : p.ReportsOwn (inquiries e (e.evaluate memo stages context).1 context)) :
    let v := (e.evaluate memo stages context).1
    let results := (finishAll p' began deadline replies
      (p.seatAll now (inquiries e v context)).1).1.map (·.1.result)
    results.length = (p.asked v).length ∧ Answered v.scores ((p.asked v).zip results) := by
  intro v results
  have hlayers : List.Forall₂ (fun s (result : Result) => result.layer = s.shadowLayer)
      (p.asked v) results := by
    rw [← agents_seatAll p now e v context, List.forall₂_map_left_iff, List.forall₂_map_right_iff]
    refine finishAll_forall₂ fun x hx _ _ _ hends => ?_
    have hinquiry : x.inquiry ∈ inquiries e v context := by
      have hmem := List.mem_map_of_mem (f := Part.inquiry) hx
      rw [p.inquiries_seatAll] at hmem
      exact List.mem_of_mem_filter hmem
    exact hends.layer (hown.answered _ hinquiry _ (Panel.agent_seatAll hx) _)
      fun r hr => hown.remembered _ hinquiry r (Panel.remembered_seatAll hx hr)
  obtain ⟨ss, hnodup, hrules⟩ := e.layers_evaluate memo stages context
  have hstages : v.scores.map (·.layer.stage) = ss := by
    calc v.scores.map (·.layer.stage) = (v.scores.map (·.layer)).map (·.stage) := by simp
      _ = ss := by simp [v, hrules, Function.comp_def, Stage.ruleLayer]
  have hkeys : ((p.asked v).zip results).map (·.1) = p.asked v :=
    List.map_fst_zip hlayers.length_eq.le
  refine ⟨hlayers.length_eq.symm, ⟨ss, hnodup, hrules⟩, ?_, fun y hy => ?_, fun y hy => ?_⟩
  · rw [hkeys, Panel.asked, hstages]
    exact hnodup.filter _
  · have hmem : y.1 ∈ p.asked v := (List.of_mem_zip hy).1
    rw [Panel.asked, hstages] at hmem
    rw [hrules]
    exact List.mem_map_of_mem (List.mem_of_mem_filter hmem)
  · exact List.forall₂_zip hlayers hy

end Shadow

namespace Pipeline

open Shadow

/-! ### Requests that are escalated -/

/-- A request that asks for second opinions lets all agents begin. -/
lemma begin_of_escalates {p : Pipeline} {panel : Panel} {now : ℕ} {r : Request} {before : Aggregate}
    (hpanel : p.panel = some panel)
    (hrules : (p.engine.evaluate p.memo r.stages r.context).1.aggregated = some before)
    (hasks : before.escalates = true) :
    let v := (p.engine.evaluate p.memo r.stages r.context).1
    let seated := panel.seatAll now (inquiries p.engine v r.context)
    p.begin now r = (⟨p.engine, r.context, v, some seated.1, now,
        limit seated.1 now (now + (r.deadline.getD p.deadline).ticks)⟩,
      { p with
        memo := (p.engine.evaluate p.memo r.stages r.context).2
        panel := some seated.2 }) := by
  have hblock := (Engine.evaluate_aggregated hrules).1
  simp [begin, hblock, hrules, hasks, hpanel]

/-- Its decision puts together what their parts come to. -/
lemma finish_of_escalated {q : Pipeline} {panel : Panel} {x : Pending} {parts : List Part}
    {before : Aggregate} (hpanel : q.panel = some panel) (hparts : x.parts = some parts)
    (hrules : x.evaluation.aggregated = some before) (replies : Stage → Reply) :
    let done := conclude x.engine.aggregator before x.evaluation.scores x.context x.start
      (finishAll panel (fun _ => x.start) x.deadline replies parts).1
    (q.finish x replies).1.1 = x.decide (some done.aggregated) done.results done.usage done.finished := by
  simp [finish, hpanel, hparts, hrules]

section

variable {p : Pipeline} {panel : Panel} {now : ℕ} {r : Request} {before : Aggregate}

lemma decided_of_escalates (hpanel : p.panel = some panel)
    (hrules : (p.begin now r).1.evaluation.aggregated = some before) (hasks : before.escalates = true)
    (hown : panel.ReportsOwn (inquiries p.engine (p.begin now r).1.evaluation r.context))
    {q : Pipeline} {panel' : Panel} (hq : q.panel = some panel') (replies : Stage → Reply) :
    let x := (p.begin now r).1
    ∃ results usage finished, (q.finish x replies).1.1 = x.decide (some (reaggregate
        p.engine.aggregator before x.evaluation.scores r.context results)) results usage finished ∧
      results.length = (panel.asked x.evaluation).length ∧
      Answered x.evaluation.scores ((panel.asked x.evaluation).zip results) := by
  rw [begin_evaluation] at hrules hown
  rw [begin_of_escalates hpanel hrules hasks]
  exact ⟨_, _, _, finish_of_escalated hq rfl hrules replies,
    answered_finishAll p.engine p.memo r.stages r.context hown⟩

/-- **Fallbacks change nothing, stage by stage.** A request that asks for second opinions gets an answer
from every agent for a stage that ran. In the overall risk after that each stage that ran counts with the
verdict of its agent, if it answered with one, and with its score by rules otherwise; the weights, and
that and why a second opinion was asked for, are as before. Without any verdict the whole overall risk
is as before, but for the list of answers, and so is what is decided. -/
theorem fallbacks_neutral (hpanel : p.panel = some panel)
    (hrules : (p.begin now r).1.evaluation.aggregated = some before) (hasks : before.escalates = true)
    (hown : panel.ReportsOwn (inquiries p.engine (p.begin now r).1.evaluation r.context))
    {q : Pipeline} (hq : q.panel.isSome = true) (replies : Stage → Reply) :
    let v := (p.begin now r).1.evaluation
    let d := (q.finish (p.begin now r).1 replies).1.1
    d.results.length = (panel.asked v).length ∧ ∃ after, d.aggregated = some after ∧
      Amends v.scores ((panel.asked v).zip d.results) before after ∧
      ((∀ result ∈ d.results, result.fallbackUsed = true) →
        ∀ replies', d.reason = (evaluate { p with panel := none } now r replies').1.1.reason) := by
  obtain ⟨panel', hq⟩ := Option.isSome_iff_exists.mp hq
  obtain ⟨results, usage, finished, hd, hlength, hanswered⟩ :=
    decided_of_escalates hpanel hrules hasks hown hq replies
  have hblock := (begin_aggregated hrules).1
  have hbefore : before = p.engine.aggregator.aggregate (p.begin now r).1.evaluation.scores
      r.context false := by
    rw [begin_evaluation] at hrules ⊢
    exact (Engine.evaluate_aggregated hrules).2
  have hamends := hanswered.amends hbefore
  rw [List.map_snd_zip hlength.le] at hamends
  simp only [hd]
  refine ⟨hlength, _, by simp [Pending.decide, hblock], hamends, fun hall replies' => ?_⟩
  -- nothing but fallbacks: the overall risk is that of the rules
  have hlevel : (reaggregate p.engine.aggregator before (p.begin now r).1.evaluation.scores r.context
      results).level = before.level := by
    rw [hamends.fallbacks fun y hy => hall y.2 (List.of_mem_zip hy).2]
  have halone : (begin { p with panel := none } now r).1.evaluation
      = (p.begin now r).1.evaluation := by
    rw [begin_evaluation, begin_evaluation]
  have hrulesOnly : (evaluate { p with panel := none } now r replies').1.1
      = (begin { p with panel := none } now r).1.decide
        (begin { p with panel := none } now r).1.evaluation.aggregated [] .zero now :=
    finish_of_parts rfl
  rw [hrulesOnly]
  simp only [Pending.decide, halone, hblock, hrules, hlevel]

end

/-- An agent that gives every input a low score, and one that asks a model about outputs. -/
def pairPanel : Panel :=
  ⟨[(.input, ⟨.constant .input 0.25, .fresh "shadow_input" .standard⟩),
    (.output, ⟨⟨.output, .ofSeconds 5, .asks "p" .standard⟩, .fresh "shadow_output" .standard⟩)], none⟩

/-- A request with an output, whose input the rule matches. -/
def answeredRequest : Request := ⟨⟨"x", none, some (.plain "y")⟩, .anonymous "r", none⟩

lemma pairPanel_reportsOwn (qs : List Inquiry) : pairPanel.ReportsOwn qs where
  answered q _ a ha reply o ho := by
    cases hagent : q.agent with
    | input =>
      rw [hagent] at ha
      obtain rfl : Agent.constant .input 0.25 = a := Option.some.inj ha
      obtain rfl := Except.ok.inj ho
      rfl
    | state =>
      rw [hagent] at ha
      cases ha
    | output =>
      rw [hagent] at ha
      obtain rfl := Option.some.inj ha
      rw [← hagent]
      exact (Agent.fresh_of_asksModel rfl ho).1
  remembered q _ r hr := by cases hr

/-- The pipeline with these agents. -/
def pairPipeline (e : Engine) : Pipeline := { ofEngine e with panel := some pairPanel }

/-- The input counts with the verdict on it, the output with its score by rules. -/
theorem fallbacks_neutral_pair : ∃ e before after, Engine.ofRules (sureRules 1 0.95) = .ok e ∧
    let v := ((pairPipeline e).begin 0 answeredRequest).1.evaluation
    let d := ((pairPipeline e).evaluate 0 answeredRequest fun _ => silence).1.1
    v.aggregated = some before ∧ before.escalates = true ∧ d.aggregated = some after ∧
      pairPanel.asked v = [.input, .output] ∧ d.results.map (·.fallbackUsed) = [false, true] ∧
      v.scores.map (standing ((pairPanel.asked v).zip d.results))
        = [(Stage.input.shadowLayer, 0.25), (.outputGuard, 0)] ∧
      Amends v.scores ((pairPanel.asked v).zip d.results) before after := by
  obtain ⟨e, he, hpanel, hasks, hasked, hused, hstanding⟩ :
      ∃ e, Engine.ofRules (sureRules 1 0.95) = .ok e ∧
        let v := ((pairPipeline e).begin 0 answeredRequest).1.evaluation
        let d := ((pairPipeline e).evaluate 0 answeredRequest fun _ => silence).1.1
        ((pairPipeline e).begin 0 answeredRequest).2.panel.isSome = true ∧
          v.aggregated.map (·.escalates) = some true ∧ pairPanel.asked v = [.input, .output] ∧
          d.results.map (·.fallbackUsed) = [false, true] ∧
          v.scores.map (standing ((pairPanel.asked v).zip d.results))
            = [(Stage.input.shadowLayer, 0.25), (.outputGuard, 0)] :=
    exists_ok (by decide +kernel)
  obtain ⟨before, hbefore, hasks⟩ := Option.map_eq_some_iff.mp hasks
  obtain ⟨-, after, hafter, hamends, -⟩ := fallbacks_neutral rfl hbefore hasks
    (pairPanel_reportsOwn _) hpanel fun _ => silence
  exact ⟨e, before, after, he, hbefore, hasks, hafter, hasked, hused, hstanding, hamends⟩

end Pipeline

end Guardrail
