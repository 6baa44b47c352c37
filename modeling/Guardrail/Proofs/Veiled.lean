import Guardrail.Pipeline
import Guardrail.Proofs.InputStage
import Guardrail.Proofs.Panels

/-!
Where the raw input goes.

With redaction on, the text of an input is seen by the input stage alone. What the rest of a request sees
is its veiled evaluation: the redacted text in the place of the input, and findings without their places.
Veiling takes nothing from an inquiry that shows in its messages, its key or its answer, and nothing from
a request that shows in its decision or its record, so that requests alike under the veil are alike.
-/

namespace Guardrail

/-! ### The veil -/

deriving instance DecidableEq for RiskScore

/-- A finding without its place. -/
def Finding.veiled (f : Finding) : Finding := { f with span := default }

/-- A stage without its input, if there is a text in its place, and without the places of its findings and
the words of its faults. -/
def StageResult.veiled (redacted : Option String) (s : StageResult) : StageResult :=
  { payload := match s.payload, redacted with
      | .input _, some text => .input text
      | payload, _ => payload
    assessment := { s.assessment with
      findings := s.assessment.findings.map Finding.veiled
      faults := [] } }

/-- An evaluation with all its stages veiled. -/
def Evaluation.veiled (v : Evaluation) : Evaluation :=
  { v with stages := v.stages.map (StageResult.veiled v.redactedInput) }

namespace Shadow

/-- An inquiry without the places of its findings. -/
def Inquiry.veiled (q : Inquiry) : Inquiry := { q with findings := q.findings.map Finding.veiled }

/-- A part with its inquiry veiled. -/
def Part.veiled (x : Part) : Part := { x with inquiry := x.inquiry.veiled }

end Shadow

/-- A request that has begun, all of it veiled. -/
def Pending.veiled (x : Pending) : Pending :=
  { x with
    evaluation := x.evaluation.veiled
    parts := x.parts.map (·.map Shadow.Part.veiled) }

@[simp] lemma Evaluation.scores_veiled (v : Evaluation) : v.veiled.scores = v.scores := by
  simp [Evaluation.scores, Evaluation.veiled, StageResult.veiled, Function.comp_def]

namespace Engine

/-! ### Stages -/

variable (e : Engine)

@[simp] lemma hardBlock_veiled (layer : Layer) (findings : List Finding) :
    e.hardBlock layer (findings.map Finding.veiled) = e.hardBlock layer findings := by
  simp only [hardBlock, List.find?_map, Option.map_map]
  rfl

variable {e} {memo memo' : Luhn.Memo}

/-- What is remembered of card numbers does not show in a stage. -/
lemma pii_memo (rules : List Rules.Compiled) (limit : ℕ) (text : List Char) (h : memo.Sound)
    (h' : memo'.Sound) : (Detect.pii rules limit memo text).1 = (Detect.pii rules limit memo' text).1 := by
  unfold Detect.pii
  split
  · rfl
  · simp only [(Detect.candidates_eq rules text h).1, (Detect.candidates_eq rules text h').1]

lemma assess_memo (h : memo.Sound) (h' : memo'.Sound) (payload : Payload) :
    (e.assess memo payload).1 = (e.assess memo' payload).1 := by
  cases payload with
  | input text =>
    have hpii := pii_memo e.rules.pii e.config.maxTextBytes text.toList h h'
    simp only [assess, assessAs, Payload.stage, InputGuard.assess, hpii]
  | state snapshot => rfl
  | output answer =>
    have hpii := pii_memo e.rules.pii e.config.maxTextBytes answer.text.toList h h'
    simp only [assess, assessAs, Payload.stage, OutputGuard.assess, hpii]

/-- Later stages that see the same come to the same. -/
lemma runStages_congr {redacted : Option String} {nexts nexts' : List (Option String → Payload)}
    (hm : memo.Sound) (hm' : memo'.Sound) (h : List.Forall₂ (fun next next' =>
      next redacted = next' redacted ∧ (next redacted).stage ≠ .input) nexts nexts') :
    (e.runStages memo redacted nexts).1 = (e.runStages memo' redacted nexts').1 := by
  induction h generalizing memo memo' with
  | nil => rfl
  | @cons next next' nexts nexts' hnext _ ih =>
    obtain ⟨hsame, hstage⟩ := hnext
    have hassess := assess_memo (e := e) hm hm' (next redacted)
    have hlayer := e.layer_ne_inputGuard memo' hstage
    have hrest := ih (e.sound_assess hm (next redacted)) (e.sound_assess hm' (next redacted))
    simp only [runStages, ← hsame, hassess, if_neg hlayer]
    split
    · rfl
    · simp only [hrest]

/-- Two inputs of which the input stage makes the same, but for the places of findings. -/
structure AlikeInputs (e : Engine) (memo : Luhn.Memo) (input input' : String) : Prop where
  score : (e.assess memo (.input input')).1.score = (e.assess memo (.input input)).1.score
  redacted : (e.assess memo (.input input')).1.redacted = (e.assess memo (.input input)).1.redacted
  findings : (e.assess memo (.input input')).1.findings.map Finding.veiled
    = (e.assess memo (.input input)).1.findings.map Finding.veiled

instance (e : Engine) (memo : Luhn.Memo) (input input' : String) :
    Decidable (e.AlikeInputs memo input input') :=
  decidable_of_iff
    ((e.assess memo (.input input')).1.score = (e.assess memo (.input input)).1.score ∧
      (e.assess memo (.input input')).1.redacted = (e.assess memo (.input input)).1.redacted ∧
      (e.assess memo (.input input')).1.findings.map Finding.veiled
        = (e.assess memo (.input input)).1.findings.map Finding.veiled)
    ⟨fun h => ⟨h.1, h.2.1, h.2.2⟩, fun h => ⟨h.score, h.redacted, h.findings⟩⟩

lemma exists_redacted (hredact : e.config.inputGuard.redact = true) (memo : Luhn.Memo) (input : String) :
    ∃ text, (e.assess memo (.input input)).1.redacted = some text := by
  simp [assess, assessAs, Payload.stage, InputGuard.assess, InputGuard.assemble, hredact]

/-- The stages after the input stage see of the input what was redacted. -/
lemma later_payloads (stages : StageInputs) (input' text : String) :
    ∃ later later' : List (Option String → Payload),
      payloads stages = (fun _ => .input stages.input) :: later ∧
      payloads { stages with input := input' } = (fun _ => .input input') :: later' ∧
      (∀ next ∈ later, ∀ r, (next r).stage ≠ .input) ∧
      List.Forall₂ (fun next next' =>
        next (some text) = next' (some text) ∧ (next (some text)).stage ≠ .input) later later' := by
  refine ⟨_, _, rfl, rfl, ?_, ?_⟩ <;>
    cases stages.state <;> cases stages.output <;> simp [Payload.stage]

lemma AlikeInputs.veiled {input input' : String} (h : e.AlikeInputs memo input input') (text : String) :
    StageResult.veiled (some text) ⟨.input input', (e.assess memo (.input input')).1⟩
      = StageResult.veiled (some text) ⟨.input input, (e.assess memo (.input input)).1⟩ := by
  simp [StageResult.veiled, h.score, h.redacted, h.findings]

/-- Under the veil evaluations of alike inputs are the same. -/
lemma veiled_evaluate (hredact : e.config.inputGuard.redact = true) (hm : memo.Sound)
    {stages : StageInputs} {input' : String} (h : e.AlikeInputs memo stages.input input')
    (context : RequestContext) :
    (e.evaluate memo { stages with input := input' } context).1.veiled
      = (e.evaluate memo stages context).1.veiled := by
  obtain ⟨text, htext⟩ := exists_redacted hredact memo stages.input
  obtain ⟨later, later', hpayloads, hpayloads', hlater, hsame⟩ := later_payloads stages input' text
  have hsound (i : String) : (e.assess memo (.input i)).2.Sound := e.sound_assess hm (.input i)
  have hrest := @runStages_congr e _ _ _ _ _ (hsound stages.input) (hsound input') hsame
  obtain ⟨-, hredacted, -⟩ := @runStages_later e _ (some text) _ (hsound stages.input) hlater
  have hlayer (i : String) : (e.assess memo (.input i)).1.score.layer = .inputGuard := assess_layer ..
  have hblock : e.hardBlock .inputGuard (e.assess memo (.input input')).1.findings
      = e.hardBlock .inputGuard (e.assess memo (.input stages.input)).1.findings := by
    rw [← hardBlock_veiled, h.findings, hardBlock_veiled]
  simp only [evaluate, hpayloads, hpayloads', runStages, hlayer, if_true, hblock, h.redacted, htext]
  split
  · simp only [Evaluation.veiled, List.map_cons, List.map_nil, h.veiled text]
  · simp only [Evaluation.veiled, List.map_cons, ← hrest, hredacted, h.veiled text, h.score]

end Engine

namespace Shadow

/-! ### Agents -/

/-- An agent that does not look at the places of findings. -/
def Agent.Blind (a : Agent) : Prop := ∀ q reply, a.analyse q.veiled reply = a.analyse q reply

/-- A model is not told of places. -/
@[simp] lemma Inquiry.messages_veiled (q : Inquiry) : q.veiled.messages = q.messages := by
  have hfindings : (q.veiled.findings.map findingJson) = q.findings.map findingJson := by
    simp [veiled, findingJson, Finding.veiled, Function.comp_def]
  simp only [messages, document, hfindings]
  rfl

@[simp] lemma Inquiry.key_veiled (q : Inquiry) : q.veiled.key = q.key := rfl

lemma Agent.blind_of_asksModel {a : Agent} (h : a.asksModel = true) : a.Blind := by
  intro q reply
  cases hconduct : a.conduct with
  | asks provider settings =>
    simp only [analyse, hconduct]
    rfl
  | decides f => simp [asksModel, hconduct] at h

lemma inquiries_veiled (e : Engine) (v : Evaluation) (context : RequestContext) :
    inquiries e v.veiled context = (inquiries e v context).map Inquiry.veiled := by
  simp only [inquiries, Evaluation.veiled, List.map_map]
  refine List.map_congr_left fun s _ => ?_
  simp only [Function.comp_apply, inquiry, StageResult.veiled, Inquiry.veiled]
  cases s.payload <;> cases v.redactedInput <;> rfl

lemma Panel.seat_veiled (p : Panel) (now : ℕ) (q : Inquiry) :
    p.seat now q.veiled = ((p.seat now q).1.map Part.veiled, (p.seat now q).2) := by
  have hagent : q.veiled.agent = q.agent := rfl
  have hremembered : p.remembered? q.veiled = p.remembered? q := rfl
  simp only [seat, hagent, hremembered]
  split
  · rfl
  · next slot hs =>
    split
    · rfl
    · rcases slot.breaker.acquire now with ⟨_ | permit, b⟩ <;> rfl

lemma Panel.seatAll_veiled (p : Panel) (now : ℕ) (qs : List Inquiry) :
    p.seatAll now (qs.map Inquiry.veiled)
      = ((p.seatAll now qs).1.map Part.veiled, (p.seatAll now qs).2) := by
  induction qs generalizing p with
  | nil => rfl
  | cons q qs ih =>
    simp only [List.map_cons, seatAll, p.seat_veiled, ih, List.map_append]
    cases (p.seat now q).1 <;> rfl

lemma limit_veiled (parts : List Part) (start deadline : ℕ) :
    limit (parts.map Part.veiled) start deadline = limit parts start deadline := by
  simp [limit, budget, Part.veiled, Function.comp_def]

lemma Part.finish_veiled {x : Part} (h : x.agent.Blind) (p : Panel) (start deadline : ℕ) (reply : Reply) :
    x.veiled.finish p start deadline reply = x.finish p start deadline reply := by
  have hanalyse : x.veiled.agent.analyse x.veiled.inquiry reply = x.agent.analyse x.inquiry reply :=
    h x.inquiry reply
  simp only [finish, hanalyse]
  rfl

lemma finishAll_veiled {parts : List Part} (h : ∀ x ∈ parts, x.agent.Blind) (p : Panel)
    (began : Stage → ℕ) (deadline : ℕ) (replies : Stage → Reply) :
    finishAll p began deadline replies (parts.map Part.veiled)
      = finishAll p began deadline replies parts := by
  induction parts generalizing p with
  | nil => rfl
  | cons x parts ih =>
    obtain ⟨hx, hparts⟩ := List.forall_mem_cons.mp h
    have hagent : x.veiled.inquiry.agent = x.inquiry.agent := rfl
    simp only [List.map_cons, finishAll, hagent, x.finish_veiled hx, ih hparts]

end Shadow

/-! ### Requests -/

/-- Whether an evaluation asks for second opinions. -/
def Evaluation.escalates (v : Evaluation) : Bool :=
  match v.hardBlock, v.aggregated with
  | none, some a => a.escalates
  | _, _ => false

namespace Pipeline

open Shadow

/-- Begins a request whose evaluation is there. -/
def enter (p : Pipeline) (now : ℕ) (context : RequestContext) (deadline : ℕ) (v : Evaluation) :
    Pending × Pipeline :=
  match p.panel, v.escalates with
  | some panel, true =>
    let (parts, panel) := panel.seatAll now (inquiries p.engine v context)
    (⟨p.engine, context, v, some parts, now, limit parts now deadline⟩, { p with panel := some panel })
  | _, _ => (⟨p.engine, context, v, none, now, deadline⟩, p)

lemma begin_eq_enter (p : Pipeline) (now : ℕ) (r : Request) : p.begin now r
    = enter { p with memo := (p.engine.evaluate p.memo r.stages r.context).2 } now r.context
        (now + (r.deadline.getD p.deadline).ticks) (p.engine.evaluate p.memo r.stages r.context).1 := by
  unfold begin enter Evaluation.escalates
  generalize p.engine.evaluate p.memo r.stages r.context = evaluated
  rfl

lemma enter_veiled (p : Pipeline) (now : ℕ) (context : RequestContext) (deadline : ℕ) (v : Evaluation) :
    p.enter now context deadline v.veiled
      = ((p.enter now context deadline v).1.veiled, (p.enter now context deadline v).2) := by
  have hescalates : v.veiled.escalates = v.escalates := rfl
  simp only [enter, hescalates, inquiries_veiled, Panel.seatAll_veiled, limit_veiled]
  cases p.panel with
  | none => rfl
  | some panel => cases v.escalates <;> rfl

/-- What the pipeline remembers of card numbers plays no part in how a request goes on. -/
lemma enter_memo (p : Pipeline) (memo : Luhn.Memo) (now : ℕ) (context : RequestContext) (deadline : ℕ)
    (v : Evaluation) : enter { p with memo } now context deadline v
      = ((p.enter now context deadline v).1, { (p.enter now context deadline v).2 with memo }) := by
  simp only [enter]
  split <;> rfl

lemma finish_memo (q : Pipeline) (memo : Luhn.Memo) (x : Pending) (replies : Stage → Reply) :
    finish { q with memo } x replies = ((q.finish x replies).1, { (q.finish x replies).2 with memo }) := by
  simp only [finish, audit]
  split <;> rfl

lemma decide_veiled (x : Pending) (a : Option Aggregate) (results : List Result)
    (usage : Provider.Usage) (finished : ℕ) :
    x.veiled.decide a results usage finished = x.decide a results usage finished := by
  have hscores : x.veiled.evaluation.scores = x.evaluation.scores := x.evaluation.scores_veiled
  have hparts : x.veiled.parts.isSome = x.parts.isSome := by simp [Pending.veiled]
  simp only [Pending.decide, hscores, hparts]
  rfl

lemma audit_veiled (q : Pipeline) (x : Pending) (d : Decision) (now : ℕ) :
    q.audit x.veiled d now = q.audit x d now := rfl

/-- Nothing of a decision, of its record and of what opinions are remembered is behind the veil. -/
lemma finish_veiled (q : Pipeline) {x : Pending}
    (h : ∀ parts, x.parts = some parts → ∀ y ∈ parts, y.agent.Blind) (replies : Stage → Reply) :
    q.finish x.veiled replies = q.finish x replies := by
  have hscores : x.veiled.evaluation.scores = x.evaluation.scores := x.evaluation.scores_veiled
  have haggregated : x.veiled.evaluation.aggregated = x.evaluation.aggregated := rfl
  have hengine : x.veiled.engine = x.engine := rfl
  have hcontext : x.veiled.context = x.context := rfl
  have hstart : x.veiled.start = x.start := rfl
  have hdeadline : x.veiled.deadline = x.deadline := rfl
  cases hparts : x.parts with
  | none =>
    have hveiled : x.veiled.parts = none := by simp [Pending.veiled, hparts]
    simp only [finish, hparts, hveiled, decide_veiled, audit_veiled, haggregated, hstart]
  | some parts =>
    have hveiled : x.veiled.parts = some (parts.map Part.veiled) := by simp [Pending.veiled, hparts]
    simp only [finish, hparts, hveiled, decide_veiled, audit_veiled, haggregated, hstart, hdeadline,
      hengine, hcontext, hscores]
    cases q.panel with
    | none => rfl
    | some panel =>
      cases x.evaluation.aggregated with
      | none => rfl
      | some before => simp only [finishAll_veiled (h parts hparts)]

lemma calls_veiled (x : Pending) : x.veiled.calls = x.calls.map Part.veiled := by
  cases hparts : x.parts with
  | none => simp [Pending.calls, Pending.veiled, hparts]
  | some parts =>
    simp only [Pending.calls, Pending.veiled, hparts, Option.map_some, Option.getD_some]
    rw [List.filter_map]
    rfl

lemma messages_veiled (x : Pending) :
    x.veiled.calls.map (fun y => (y.inquiry.agent, y.inquiry.messages))
      = x.calls.map fun y => (y.inquiry.agent, y.inquiry.messages) := by
  rw [calls_veiled, List.map_map]
  refine List.map_congr_left fun y _ => ?_
  exact congrArg (y.inquiry.agent, ·) y.inquiry.messages_veiled

lemma keys_veiled (x : Pending) : x.veiled.parts.map (·.map (·.inquiry.key))
    = x.parts.map (·.map (·.inquiry.key)) := by
  simp [Pending.veiled, Part.veiled, Function.comp_def]

/-- Only agents of the panel have parts. -/
lemma agent_of_enter {p : Pipeline} {now : ℕ} {context : RequestContext} {deadline : ℕ} {v : Evaluation}
    {parts : List Part} (h : (p.enter now context deadline v).1.parts = some parts) :
    ∃ panel, p.panel = some panel ∧ ∀ y ∈ parts, panel.agent? y.inquiry.agent = some y.agent := by
  unfold enter at h
  split at h
  · next panel hpanel _ =>
    obtain rfl := Option.some.inj h
    exact ⟨panel, hpanel, fun y hy => Panel.agent_seatAll hy⟩
  · cases h

/-- Requests alike under the veil are finished alike. -/
lemma finish_congr {x x' : Pending} (hx : x'.veiled = x.veiled)
    (h : ∀ parts, x.parts = some parts → ∀ y ∈ parts, y.agent.Blind)
    (h' : ∀ parts, x'.parts = some parts → ∀ y ∈ parts, y.agent.Blind) (q : Pipeline)
    (replies : Stage → Reply) : q.finish x' replies = q.finish x replies := by
  rw [← q.finish_veiled h', hx, q.finish_veiled h]

/-- Evaluations alike under the veil go on alike. -/
lemma enter_congr (p : Pipeline) {now : ℕ} {context : RequestContext} {deadline : ℕ} {v v' : Evaluation}
    (h : v'.veiled = v.veiled) :
    (p.enter now context deadline v').1.veiled = (p.enter now context deadline v).1.veiled ∧
      (p.enter now context deadline v').2 = (p.enter now context deadline v).2 := by
  have henter := p.enter_veiled now context deadline v
  rw [← h, p.enter_veiled now context deadline v'] at henter
  exact Prod.mk.inj henter

/-- **Raw input stays at the input stage.** With redaction on, take a request and the same with another
input of which the input stage makes the same score, the same redacted text and, but for their places,
the same findings. Begun on one pipeline, whose agents do not look at places, both send the same messages
and look for opinions under the same keys, and leave the same pipeline behind but for what it remembers of
card numbers. Finished on one pipeline, whatever has become of it, and with the same replies, both get
the same decision at the same time, are put on record alike and leave the same opinions remembered. -/
theorem raw_input_stays {p : Pipeline} (hredact : p.engine.config.inputGuard.redact = true)
    (hmemo : p.memo.Sound)
    (hblind : ∀ panel, p.panel = some panel → ∀ s a, panel.agent? s = some a → a.Blind)
    (now : ℕ) (r : Request) {input' : String} (h : p.engine.AlikeInputs p.memo r.stages.input input') :
    let begun := p.begin now r
    let begun' := p.begin now { r with stages := { r.stages with input := input' } }
    begun'.1.calls.map (fun y => (y.inquiry.agent, y.inquiry.messages))
        = begun.1.calls.map (fun y => (y.inquiry.agent, y.inquiry.messages)) ∧
      begun'.1.parts.map (·.map (·.inquiry.key)) = begun.1.parts.map (·.map (·.inquiry.key)) ∧
      begun'.2 = { begun.2 with memo := begun'.2.memo } ∧
      (∀ (q : Pipeline) (memo : Luhn.Memo) (replies : Stage → Reply),
        finish { q with memo } begun'.1 replies
          = ((q.finish begun.1 replies).1, { (q.finish begun.1 replies).2 with memo })) ∧
      ∀ replies, p.evaluate now { r with stages := { r.stages with input := input' } } replies
        = ((p.evaluate now r replies).1,
          { (p.evaluate now r replies).2 with memo := begun'.2.memo }) := by
  set deadline := now + (r.deadline.getD p.deadline).ticks
  set v := (p.engine.evaluate p.memo r.stages r.context).1
  set v' := (p.engine.evaluate p.memo { r.stages with input := input' } r.context).1
  -- the evaluations agree on all that agents, decision and record see of them
  have hveiled : v'.veiled = v.veiled := Engine.veiled_evaluate hredact hmemo h r.context
  obtain ⟨hx, hq⟩ := @enter_congr p now r.context deadline v v' hveiled
  have hbegun : p.begin now r = ((p.enter now r.context deadline v).1, _) :=
    (p.begin_eq_enter now r).trans (p.enter_memo _ now r.context deadline v)
  have hbegun' : p.begin now { r with stages := { r.stages with input := input' } }
      = ((p.enter now r.context deadline v').1, _) :=
    (p.begin_eq_enter now _).trans (p.enter_memo _ now r.context deadline v')
  have hagents (v : Evaluation) (parts : List Part)
      (hparts : (p.enter now r.context deadline v).1.parts = some parts) (y : Part) (hy : y ∈ parts) :
      y.agent.Blind := by
    obtain ⟨panel, hpanel, hagent⟩ := agent_of_enter hparts
    exact hblind panel hpanel _ _ (hagent y hy)
  have hfinish (q : Pipeline) (replies : Stage → Reply) :
      q.finish (p.enter now r.context deadline v').1 replies
        = q.finish (p.enter now r.context deadline v).1 replies :=
    finish_congr hx (hagents v) (hagents v') q replies
  simp only [evaluate, hbegun, hbegun']
  refine ⟨?_, ?_, by rw [hq], fun q memo replies => by rw [finish_memo, hfinish], fun replies => ?_⟩
  · rw [← messages_veiled, hx, messages_veiled]
  · rw [← keys_veiled, hx, keys_veiled]
  · rw [hq, finish_memo _ (p.engine.evaluate p.memo r.stages r.context).2]
    exact (finish_memo ..).trans (by rw [hfinish])

/-- A rule for phone numbers of any length, which alone make the score. -/
def phoneRules : Rules.RuleSet where
  version := "1"
  patterns := ⟨[⟨"p", .phone, "ab+", 1, 0.7⟩], [], []⟩
  scoring := { (ScoringConfig.standard : ScoringConfig) with
    inputGuard := { (InputGuardConfig.standard : InputGuardConfig) with
      weights := ⟨1, 0⟩, piiNormalization := 1, redact := true } }

/-- A pipeline with one agent, which asks a model about inputs. -/
def askingPipeline (e : Engine) : Pipeline :=
  { ofEngine e with
    panel := some ⟨[(.input,
      ⟨⟨.input, .ofSeconds 5, .asks "p" .standard⟩, .fresh "shadow_input" .standard⟩)], none⟩ }

/-- A request with nothing but an input. -/
def inputRequest (input : String) : Request := ⟨⟨input, none, none⟩, .anonymous "r", none⟩

/-- Phone numbers of two lengths: a model is asked the same about both, and whatever it replies the
decision is the same. -/
theorem raw_input_stays_phone : ∃ e, Engine.ofRules phoneRules = .ok e ∧
    e.AlikeInputs [] "ab" "abb" ∧
    ((askingPipeline e).begin 0 (inputRequest "ab")).1.calls.length = 1 ∧
    ((askingPipeline e).begin 0 (inputRequest "abb")).1.calls.map
        (fun y => (y.inquiry.agent, y.inquiry.messages))
      = ((askingPipeline e).begin 0 (inputRequest "ab")).1.calls.map
        (fun y => (y.inquiry.agent, y.inquiry.messages)) ∧
    ∀ replies, ((askingPipeline e).evaluate 0 (inputRequest "abb") replies).1
      = ((askingPipeline e).evaluate 0 (inputRequest "ab") replies).1 := by
  obtain ⟨e, he, hredact, halike, hcalls⟩ : ∃ e, Engine.ofRules phoneRules = .ok e ∧
      e.config.inputGuard.redact = true ∧ e.AlikeInputs [] "ab" "abb" ∧
        ((askingPipeline e).begin 0 (inputRequest "ab")).1.calls.length = 1 :=
    exists_ok (by decide +kernel)
  have hblind : ∀ panel, (askingPipeline e).panel = some panel → ∀ s a, panel.agent? s = some a →
      a.Blind := by
    intro panel hpanel s a ha
    obtain rfl := Option.some.inj hpanel
    cases s with
    | input =>
      obtain rfl := Option.some.inj ha
      exact Agent.blind_of_asksModel rfl
    | state | output => cases ha
  obtain ⟨hmessages, -, -, -, hevaluate⟩ :=
    raw_input_stays hredact Luhn.Memo.sound_nil hblind 0 (inputRequest "ab") halike
  refine ⟨e, he, halike, hcalls, hmessages, fun replies => ?_⟩
  have hsame := congrArg Prod.fst (hevaluate replies)
  exact hsame

end Pipeline

end Guardrail
