import Guardrail.Proofs.Fallbacks
import Guardrail.Proofs.Stages

/-!
What is decided about a request, and what is put on record of it.

A request is blocked by a finding or by its overall risk, and only in the second case do agents have a
say. Whatever comes of it, one record is handed over, and the record says what the decision says, also
where it cannot be kept. Only a request whose deadline lies beyond the end of the clock comes to nothing.
-/

namespace Guardrail

/-- A decision about an evaluation, made where agents are at hand or not. -/
structure Decision.DecidesOn (d : Decision) (v : Evaluation) (agents : Bool) : Prop where
  /-- A request is blocked by a finding or by the overall risk in the end. -/
  blocked : d.blocked = true ↔
    v.hardBlock.isSome = true ∨ ∃ a, d.aggregated = some a ∧ a.level = .critical
  /-- The reason says by which of the two. -/
  reason : d.reason.map BlockReason.text = match v.hardBlock with
    | some b => some s!"hard_block:{b.category.text}"
    | none => if d.blocked then some "critical_risk_level" else none
  /-- There is an overall risk unless a finding blocks. -/
  aggregated : d.aggregated = none ↔ v.hardBlock.isSome = true
  /-- Agents are asked if the rules ask for it, nothing blocks and there are any. -/
  escalated : d.escalated = true ↔
    v.hardBlock = none ∧ agents = true ∧ ∃ a, v.aggregated = some a ∧ a.escalates = true
  /-- Where no agent is asked the overall risk is that of the rules. -/
  alone : d.escalated = false → d.results = [] ∧ d.usage = .zero ∧ d.aggregated = v.aggregated
  scores : d.scores = v.scores
  redactedInput : d.redactedInput = v.redactedInput

/-- A record that says what a decision says. -/
structure Audit.Record.Tells (record : Audit.Record) (d : Decision) : Prop where
  requestId : record.requestId = d.requestId
  ruling : record.ruling = if d.blocked then .block else .allow
  reason : record.reason = d.reason.map BlockReason.text
  scores : record.scores = d.scores
  aggregated : record.aggregated = d.aggregated
  escalated : record.escalated = d.escalated
  results : record.results = d.results
  usage : record.usage = d.usage
  ruleVersion : record.ruleVersion = d.ruleVersion
  latency : record.latency = d.latency

namespace Pipeline

variable (p : Pipeline) (now : ℕ) (r : Request)

/-! ### Beginning -/

lemma begin_engine : (p.begin now r).1.engine = p.engine ∧ (p.begin now r).1.context = r.context := by
  simp only [begin]
  split <;> exact ⟨rfl, rfl⟩

lemma panel_begin : (p.begin now r).2.panel.isSome = p.panel.isSome := by
  simp only [begin]
  split
  · next hpanel _ => simp [hpanel]
  · rfl

/-- Where records go plays no part in how a request begins. -/
lemma begin_sink (sink : Audit.Sink) :
    begin { p with sink } now r = ((p.begin now r).1, { (p.begin now r).2 with sink }) := by
  simp only [begin]
  split <;> rfl

lemma begin_parts_isSome : (p.begin now r).1.parts.isSome = true ↔
    (p.begin now r).1.evaluation.hardBlock = none ∧ p.panel.isSome = true ∧
      ∃ a, (p.begin now r).1.evaluation.aggregated = some a ∧ a.escalates = true := by
  rw [begin_evaluation]
  simp only [begin]
  split
  · next panel hpanel hasks =>
    split at hasks
    · next a hblock ha => exact ⟨fun _ => ⟨hblock, by rw [hpanel]; rfl, a, ha, hasks⟩, fun _ => rfl⟩
    · cases hasks
  · next hquiet =>
    refine ⟨fun h => absurd h Bool.false_ne_true, ?_⟩
    rintro ⟨hblock, hpanel, a, ha, hasks⟩
    obtain ⟨panel, hpanel⟩ := Option.isSome_iff_exists.mp hpanel
    exact (hquiet panel hpanel (by simp only [hblock, ha, hasks])).elim

/-! ### Ending -/

/-- One record is handed over, whatever becomes of it, and nothing else depends on what does. -/
lemma finish_sink (q : Pipeline) (x : Pending) (replies : Stage → Shadow.Reply) :
    ∃ breakers, ∀ sink, finish { q with sink } x replies = ((q.finish x replies).1,
      { (q.finish x replies).2 with
        sink := sink.add (x.record (q.finish x replies).1.1 breakers) }) := by
  simp only [finish, audit]
  split
  · exact ⟨_, fun _ => rfl⟩
  · exact ⟨_, fun _ => rfl⟩

end Pipeline

namespace Pending

variable {x : Pending} {aggregated : Option Aggregate} {results : List Shadow.Result}
  {usage : Provider.Usage} {finished : ℕ}

lemma tells_record (x : Pending) (d : Decision) (breakers : List Shadow.BreakerView) :
    (x.record d breakers).Tells d := ⟨rfl, rfl, rfl, rfl, rfl, rfl, rfl, rfl, rfl, rfl⟩

/-- Who blocks, and by what: the words for it name a finding or the overall risk. -/
lemma decidesOn_decide {agents : Bool}
    (heither : x.evaluation.hardBlock.isSome = true ↔ x.evaluation.aggregated = none)
    (hescalated : x.parts.isSome = true ↔ x.evaluation.hardBlock = none ∧ agents = true ∧
      ∃ a, x.evaluation.aggregated = some a ∧ a.escalates = true)
    (hrisk : x.evaluation.hardBlock = none → aggregated.isSome = true)
    (halone : x.parts = none → results = [] ∧ usage = .zero ∧ aggregated = x.evaluation.aggregated) :
    (x.decide aggregated results usage finished).DecidesOn x.evaluation agents := by
  -- a finding that blocks leaves no overall risk, so that the two ways to block exclude each other
  cases hblock : x.evaluation.hardBlock with
  | some b =>
    have hparts : x.parts = none := by
      rw [← Option.not_isSome_iff_eq_none, hescalated, hblock]
      rintro ⟨h, -⟩
      cases h
    obtain ⟨rfl, rfl, haggregated⟩ := halone hparts
    have hnone : x.evaluation.aggregated = none := heither.mp (by rw [hblock]; rfl)
    constructor <;>
      simp [decide, Decision.blocked, BlockReason.text, hblock, hparts, hnone]
  | none =>
    obtain ⟨after, rfl⟩ := Option.isSome_iff_exists.mp (hrisk hblock)
    have hreason : (x.decide (some after) results usage finished).reason
        = if after.level = .critical then some .critical else none := by
      simp only [decide, hblock]
    have haggregated : (x.decide (some after) results usage finished).aggregated = some after := by
      simp [decide, hblock]
    have hcritical : (x.decide (some after) results usage finished).blocked = true
        ↔ after.level = .critical := by
      rw [Decision.blocked, hreason]
      split <;> simp_all
    refine ⟨?_, ?_, ?_, ?_, fun h => ?_, rfl, rfl⟩
    · simp [hblock, haggregated, hcritical]
    · by_cases hlevel : after.level = .critical <;>
        simp [hblock, hreason, hcritical, hlevel, BlockReason.text]
    · simp [hblock, haggregated]
    · exact hescalated
    · have hnone : x.parts.isSome = false := h
      obtain ⟨hresults, husage, hafter⟩ := halone (by simpa using hnone)
      exact ⟨hresults, husage, by rw [haggregated, hafter]⟩

end Pending

namespace Pipeline

/-! ### Requests that begin -/

/-- The clock goes as far as the deadline of a request, and as far as the time of the agents that are asked. -/
structure OnClock (p : Pipeline) (now : ℕ) (r : Request) : Prop where
  deadline : (r.deadline.getD p.deadline).onClock now = true
  agents : ∀ parts ∈ (p.begin now r).1.parts, (Shadow.budget parts).onClock now = true

variable {p : Pipeline} {now : ℕ} {r : Request}

lemma begin?_eq_some {x : Pending} {p' : Pipeline} :
    p.begin? now r = some (x, p') ↔ p.OnClock now r ∧ p.begin now r = (x, p') := by
  have hclock : p.OnClock now r ↔ (r.deadline.getD p.deadline).onClock now = true ∧
      ∀ parts ∈ (p.begin now r).1.parts, (Shadow.budget parts).onClock now = true :=
    ⟨fun h => ⟨h.deadline, h.agents⟩, fun h => ⟨h.1, h.2⟩⟩
  rw [hclock]
  simp [begin?, Option.all_eq_true]

lemma begin?_eq_none : p.begin? now r = none ↔ ¬ p.OnClock now r := by
  rw [Option.eq_none_iff_forall_ne_some]
  exact ⟨fun h hclock => h _ (begin?_eq_some.mpr ⟨hclock, rfl⟩), fun h _ hx => h (begin?_eq_some.mp hx).1⟩

/-! ### Main statement -/

/-- What is decided follows from what the rules find and from the overall risk in the end. -/
lemma decidesOn_finish (now : ℕ) (r : Request) {q : Pipeline} (hq : q.panel.isSome = p.panel.isSome)
    (replies : Stage → Shadow.Reply) :
    (q.finish (p.begin now r).1 replies).1.1.DecidesOn (p.begin now r).1.evaluation p.panel.isSome ∧
      (q.finish (p.begin now r).1 replies).1.1.requestId = r.context.requestId ∧
      (q.finish (p.begin now r).1 replies).1.1.ruleVersion = p.engine.version := by
  obtain ⟨hengine, hcontext⟩ := p.begin_engine now r
  have hescalated := p.begin_parts_isSome now r
  have heither : (p.begin now r).1.evaluation.hardBlock.isSome = true ↔
      (p.begin now r).1.evaluation.aggregated = none := by
    rw [p.begin_evaluation now r]
    exact (p.engine.runs_evaluate p.memo r.stages r.context).2.2
  -- from here on only what the request has kept of its beginning is used
  generalize (p.begin now r).1 = x at *
  have hdecided : ∃ aggregated results usage finished,
      (q.finish x replies).1.1 = x.decide aggregated results usage finished ∧
      (x.evaluation.hardBlock = none → aggregated.isSome = true) ∧
      (x.parts = none → results = [] ∧ usage = .zero ∧ aggregated = x.evaluation.aggregated) := by
    cases hparts : x.parts with
    | none =>
      refine ⟨_, _, _, _, finish_of_parts hparts, fun hblock => ?_, fun _ => ⟨rfl, rfl, rfl⟩⟩
      rw [← Option.not_isSome_iff_eq_none, heither] at hblock
      exact Option.isSome_iff_ne_none.mpr hblock
    | some parts =>
      obtain ⟨-, hagents, a, ha, -⟩ := hescalated.mp (Option.isSome_iff_exists.mpr ⟨parts, hparts⟩)
      obtain ⟨panel, hpanel⟩ := Option.isSome_iff_exists.mp (hq.trans hagents)
      exact ⟨_, _, _, _, finish_of_escalated hpanel hparts ha replies, fun _ => rfl, nofun⟩
  obtain ⟨aggregated, results, usage, finished, hd, hrisk, halone⟩ := hdecided
  rw [hd]
  exact ⟨Pending.decidesOn_decide heither hescalated hrisk halone, congrArg RequestContext.requestId hcontext,
    congrArg Engine.version hengine⟩

end Pipeline

end Guardrail
