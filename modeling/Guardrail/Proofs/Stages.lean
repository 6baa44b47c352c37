import Guardrail.Proofs.InputStage
import Guardrail.Proofs.Overlaps

/-!
Which stages of a request run, and where it is blocked.

The stages run in their order, each on what there is for it to see, until one has a finding in a
blocking category. A block is always that of the last stage that ran, and there is an overall risk
exactly if there is none.
-/

namespace Guardrail

/-- What an answer is compared with: what the caller says, else the redacted input, else the input. -/
def StageInputs.comparison (stages : StageInputs) (redacted : Option String) (answer : OutputPayload) :
    String :=
  match answer.inputText, redacted with
  | some text, _ => text
  | none, some text => text
  | none, none => stages.input

/-- What the stages of a request see, in their order, given what is redacted. -/
def StageInputs.seen (stages : StageInputs) (redacted : Option String) : List Payload :=
  .input stages.input ::
    ((stages.state.map Payload.state).toList ++
      (stages.output.map fun answer =>
        .output { answer with inputText := some (stages.comparison redacted answer) }).toList)

namespace Assessment

/-! ### Findings in order -/

instance : Std.TransCmp mergeOrder :=
  inferInstanceAs <| Std.TransCmp <|
    compareLex (compareOn fun f : Finding => f.category.rank) <|
    compareLex (compareOn fun f : Finding => f.span.start) <|
    compareLex (compareOn fun f : Finding => f.span.stop) (compareOn fun f : Finding => f.rule)

/-- The findings stand in merged order. -/
def InOrder (a : Assessment) : Prop :=
  a.findings.Pairwise fun f g => (mergeOrder f g).isLE = true

end Assessment

namespace Engine

variable (e : Engine)

lemma inOrder_assess (memo : Luhn.Memo) (payload : Payload) : (e.assess memo payload).1.InOrder := by
  cases payload <;> exact Finding.pairwise_mergeSort _

/-- A finding in a blocking category. -/
def Forbids (f : Finding) : Prop := f.category ∈ e.config.hardBlock

/-- A stage with a finding in a blocking category. -/
def Stops (s : StageResult) : Prop := ∃ f ∈ s.assessment.findings, e.Forbids f

/-- The block of a stage: it names the layer of the stage and the first finding in a blocking
category. -/
def BlocksBy (s : StageResult) (b : HardBlock) : Prop :=
  ∃ before f after, s.assessment.findings = before ++ f :: after ∧
    (∀ g ∈ before, ¬ e.Forbids g) ∧ e.Forbids f ∧
    b = ⟨f.category, s.payload.stage.ruleLayer, f.rule⟩

/-- The stage is assessed by rules for what it sees. -/
def Assessed (s : StageResult) : Prop := ∃ memo, s.assessment = (e.assess memo s.payload).1

variable {e}

lemma Assessed.layer {s : StageResult} (h : e.Assessed s) :
    s.assessment.score.layer = s.payload.stage.ruleLayer := by
  obtain ⟨memo, hs⟩ := h
  rw [hs, assess_layer]

lemma Assessed.inOrder {s : StageResult} (h : e.Assessed s) : s.assessment.InOrder := by
  obtain ⟨memo, hs⟩ := h
  rw [hs]
  exact e.inOrder_assess memo s.payload

/-- The engine blocks by the first finding in a blocking category, if there is one. -/
lemma blocksBy_of_hardBlock {s : StageResult} {b : HardBlock} (hs : e.Assessed s)
    (h : e.hardBlock s.assessment.score.layer s.assessment.findings = some b) : e.BlocksBy s b := by
  obtain ⟨f, hf, rfl⟩ := Option.map_eq_some_iff.mp h
  obtain ⟨hforbids, before, after, hsplit, hbefore⟩ := List.find?_eq_some_iff_append.mp hf
  refine ⟨before, f, after, hsplit, fun g hg => ?_, by simpa [Forbids] using hforbids, ?_⟩
  · simpa [Forbids] using hbefore g hg
  · rw [hs.layer]

lemma BlocksBy.stops {s : StageResult} {b : HardBlock} (h : e.BlocksBy s b) : e.Stops s := by
  obtain ⟨before, f, after, hsplit, -, hforbids, -⟩ := h
  exact ⟨f, by simp [hsplit], hforbids⟩

lemma not_stops_of_hardBlock {s : StageResult} {layer : Layer}
    (h : e.hardBlock layer s.assessment.findings = none) : ¬ e.Stops s := by
  rintro ⟨f, hf, hforbids⟩
  obtain ⟨b, hb⟩ := exists_hardBlock_iff.mpr ⟨f, hf, hforbids⟩
  rw [h] at hb
  cases hb

/-! ### Runs -/

/-- Stages run on payloads: each is assessed for what it sees, and the first that has something to
block by ends the run. -/
inductive Runs (e : Engine) : List Payload → List StageResult → Option HardBlock → Prop
  | done : Runs e [] [] none
  | stopped {s : StageResult} {b : HardBlock} (rest : List Payload) (assessed : e.Assessed s)
    (block : e.BlocksBy s b) : Runs e (s.payload :: rest) [s] (some b)
  | passed {s : StageResult} {payloads : List Payload} {results : List StageResult}
    {block : Option HardBlock} (assessed : e.Assessed s) (quiet : ¬ e.Stops s)
    (rest : Runs e payloads results block) : Runs e (s.payload :: payloads) (s :: results) block

/-- Stages after the input stage run on what they see once it has redacted, and redact nothing. -/
lemma runs_runStages (memo : Luhn.Memo) (redacted : Option String)
    {nexts : List (Option String → Payload)} (h : ∀ next ∈ nexts, ∀ r, (next r).stage ≠ .input) :
    e.Runs (nexts.map fun next => next redacted) (e.runStages memo redacted nexts).1.1
        (e.runStages memo redacted nexts).1.2.1 ∧
      (e.runStages memo redacted nexts).1.2.2 = redacted := by
  induction nexts generalizing memo with
  | nil => exact ⟨.done, rfl⟩
  | cons next nexts ih =>
    obtain ⟨hnext, hnexts⟩ := List.forall_mem_cons.mp h
    have hlayer := e.layer_ne_inputGuard memo (hnext redacted)
    have hassessed : e.Assessed ⟨next redacted, (e.assess memo (next redacted)).1⟩ := ⟨memo, rfl⟩
    obtain ⟨hruns, hredacted⟩ := ih (e.assess memo (next redacted)).2 hnexts
    simp only [runStages, if_neg hlayer, List.map_cons]
    split
    · next b hb => exact ⟨.stopped _ hassessed (blocksBy_of_hardBlock hassessed hb), rfl⟩
    · next hb => exact ⟨.passed hassessed (not_stops_of_hardBlock hb) hruns, hredacted⟩

section

variable {payloads : List Payload} {results : List StageResult} {block : Option HardBlock}

lemma Runs.assessed (h : e.Runs payloads results block) : ∀ s ∈ results, e.Assessed s := by
  induction h with
  | done => simp
  | stopped rest hs hb => simpa using hs
  | passed hs hq _ ih => exact List.forall_mem_cons.mpr ⟨hs, ih⟩

lemma Runs.isPrefix (h : e.Runs payloads results block) :
    results.map (·.payload) <+: payloads := by
  induction h with
  | done => exact List.prefix_rfl
  | stopped rest hs hb => simp
  | passed hs hq _ ih => exact List.cons_prefix_cons.mpr ⟨rfl, ih⟩

/-- Without a block all stages run, and none has anything to block by. -/
lemma Runs.complete (h : e.Runs payloads results none) :
    results.map (·.payload) = payloads ∧ ∀ s ∈ results, ¬ e.Stops s := by
  generalize hnone : (none : Option HardBlock) = block at h
  induction h with
  | done => simp
  | stopped rest hs hb => cases hnone
  | passed hs hq _ ih =>
    obtain ⟨hpayloads, hquiet⟩ := ih hnone
    exact ⟨by rw [List.map_cons, hpayloads], List.forall_mem_cons.mpr ⟨hq, hquiet⟩⟩

/-- A block is that of the last stage, and the first there is. -/
lemma Runs.last {b : HardBlock} (h : e.Runs payloads results (some b)) :
    ∃ earlier last, results = earlier ++ [last] ∧ (∀ s ∈ earlier, ¬ e.Stops s) ∧
      e.BlocksBy last b := by
  generalize hsome : some b = block at h
  induction h with
  | done => cases hsome
  | @stopped s b' rest hs hb =>
    obtain rfl := Option.some.inj hsome
    exact ⟨[], s, rfl, by simp, hb⟩
  | @passed s payloads results block hs hq _ ih =>
    obtain ⟨earlier, last, rfl, hquiet, hb⟩ := ih hsome
    exact ⟨s :: earlier, last, rfl, List.forall_mem_cons.mpr ⟨hq, hquiet⟩, hb⟩

end

/-! ### Requests -/

lemma payloads_seen (stages : StageInputs) :
    ∃ later : List (Option String → Payload), payloads stages = (fun _ => .input stages.input) :: later ∧
      (∀ next ∈ later, ∀ r, (next r).stage ≠ .input) ∧
      ∀ redacted, stages.seen redacted
        = .input stages.input :: later.map fun next => next redacted := by
  obtain ⟨later, hpayloads, hlater⟩ := payloads_eq stages
  refine ⟨later, hpayloads, hlater, fun redacted => ?_⟩
  have hseen : stages.seen redacted = (payloads stages).map fun next => next redacted := by
    have hcomparison (answer : OutputPayload) : stages.comparison redacted answer
        = answer.inputText.getD (redacted.getD stages.input) := by
      unfold StageInputs.comparison
      cases answer.inputText <;> cases redacted <;> rfl
    obtain ⟨input, state, output⟩ := stages
    cases state <;> cases output <;> simp [StageInputs.seen, payloads, hcomparison]
  rw [hseen, hpayloads, List.map_cons]

lemma redacted_assess (memo : Luhn.Memo) (input : String) :
    (e.assess memo (.input input)).1.redacted.isSome = e.config.inputGuard.redact := by
  have hdef : (e.assess memo (.input input)).1.redacted.isSome
      = (if e.config.inputGuard.redact then some _ else none).isSome := rfl
  rw [hdef]
  cases e.config.inputGuard.redact <;> rfl

/-- The stages of a request run on what there is for them to see, the first of them on the input. -/
lemma runs_evaluate (e : Engine) (memo : Luhn.Memo) (stages : StageInputs) (context : RequestContext) :
    let v := (e.evaluate memo stages context).1
    e.Runs (stages.seen v.redactedInput) v.stages v.hardBlock ∧
      (∃ first, v.stages.head? = some first ∧ first.payload = .input stages.input ∧
        v.redactedInput = first.assessment.redacted) ∧
      (v.hardBlock.isSome = true ↔ v.aggregated = none) := by
  obtain ⟨later, hpayloads, hlater, hseen⟩ := payloads_seen stages
  have hlayer : (e.assess memo (.input stages.input)).1.score.layer = .inputGuard := assess_layer ..
  have hassessed : e.Assessed ⟨.input stages.input, (e.assess memo (.input stages.input)).1⟩ :=
    ⟨memo, rfl⟩
  obtain ⟨hruns, hredacted⟩ := runs_runStages (e := e) (e.assess memo (.input stages.input)).2
    (e.assess memo (.input stages.input)).1.redacted hlater
  simp only [evaluate, hpayloads, runStages, hlayer, if_true, hseen]
  split
  · next b hb =>
    exact ⟨.stopped _ hassessed (blocksBy_of_hardBlock hassessed hb), ⟨_, rfl, rfl, rfl⟩, by simp⟩
  · next hb =>
    refine ⟨?_, ⟨_, rfl, rfl, hredacted⟩, ?_⟩
    · simp only [hredacted]
      exact .passed hassessed (not_stops_of_hardBlock hb) hruns
    · simp only
      split <;> simp_all

/-- What an answer is compared with, once it is seen. -/
lemma mem_seen {stages : StageInputs} {redacted : Option String} {a : OutputPayload}
    (h : .output a ∈ stages.seen redacted) : ∃ answer, stages.output = some answer ∧
      a = { answer with inputText := some (stages.comparison redacted answer) } := by
  simp only [StageInputs.seen, List.mem_cons, List.mem_append, Option.mem_toList,
    Option.map_eq_some_iff, reduceCtorEq, false_or] at h
  rcases h with ⟨snapshot, -, h⟩ | ⟨answer, hanswer, h⟩
  · cases h
  · exact ⟨answer, hanswer, (Payload.output.inj h).symm⟩

/-- What the stages of a request come to by rules. -/
structure Accounts (e : Engine) (stages : StageInputs) (v : Evaluation) : Prop where
  /-- Every stage is assessed for what it sees, and its findings stand in merged order. -/
  assessed : ∀ s ∈ v.stages, e.Assessed s ∧ s.assessment.InOrder
  /-- The stages run in their order. -/
  order : v.stages.map (·.payload) <+: stages.seen v.redactedInput
  /-- Only a finding in a blocking category keeps the stages after it from running. -/
  early : v.stages.map (·.payload) ≠ stages.seen v.redactedInput →
    ∃ last, v.stages.getLast? = some last ∧ e.Stops last
  /-- There is a block or an overall risk. -/
  either : v.hardBlock.isSome = true ↔ v.aggregated = none
  /-- There is a block if a stage has a finding in a blocking category. -/
  stops : v.hardBlock.isSome = true ↔ ∃ s ∈ v.stages, e.Stops s
  /-- The block is that of the last stage that ran. -/
  block : ∀ b, v.hardBlock = some b → ∃ earlier last, v.stages = earlier ++ [last] ∧
    e.BlocksBy last b ∧ ∀ s ∈ earlier, ¬ e.Stops s
  /-- The redacted input is what the input stage redacts, which it does if redaction is on. -/
  redacts : v.redactedInput.isSome = e.config.inputGuard.redact ∧ ∃ first,
    v.stages.head? = some first ∧ v.redactedInput = first.assessment.redacted
  /-- An answer is compared with what the caller says, else with the redacted input if redaction is
  on, else with the input. -/
  compared : ∀ s ∈ v.stages, ∀ a, s.payload = .output a → ∃ answer,
    stages.output = some answer ∧ a = { answer with inputText := a.inputText } ∧
      a.inputText = match answer.inputText with
        | some text => some text
        | none => if e.config.inputGuard.redact then v.redactedInput else some stages.input

/-- **Which stages run, and where a request is blocked.** Whatever the rules, the request and the card
numbers met before, the stages run in their order up to the first with a finding in a blocking
category. That stage, if there is one, and its first such finding make the block; otherwise there is
an overall risk. -/
theorem stages_until_block (e : Engine) (memo : Luhn.Memo) (stages : StageInputs)
    (context : RequestContext) : e.Accounts stages (e.evaluate memo stages context).1 := by
  obtain ⟨hruns, ⟨first, hfirst, hinput, hredacted⟩, heither⟩ := e.runs_evaluate memo stages context
  -- from here on only what every run of the stages satisfies is used
  generalize (e.evaluate memo stages context).1 = v at hruns hfirst hredacted heither ⊢
  have hmem : first ∈ v.stages := List.mem_of_head? hfirst
  have hredact : v.redactedInput.isSome = e.config.inputGuard.redact := by
    obtain ⟨memo', hassessed⟩ := hruns.assessed first hmem
    rw [hredacted, hassessed, hinput, redacted_assess]
  refine ⟨fun s hs => ⟨hruns.assessed s hs, (hruns.assessed s hs).inOrder⟩, hruns.isPrefix, ?_, heither,
    ?_, fun b hb => ?_, ⟨hredact, first, hfirst, hredacted⟩, fun s hs a ha => ?_⟩
  · intro hearly
    cases hblock : v.hardBlock with
    | none =>
      rw [hblock] at hruns
      exact absurd hruns.complete.1 hearly
    | some b =>
      rw [hblock] at hruns
      obtain ⟨earlier, last, hstages, -, hb⟩ := hruns.last
      exact ⟨last, by simp [hstages], hb.stops⟩
  · cases hblock : v.hardBlock with
    | none =>
      rw [hblock] at hruns
      simpa using hruns.complete.2
    | some b =>
      rw [hblock] at hruns
      obtain ⟨earlier, last, hstages, -, hb⟩ := hruns.last
      simpa using ⟨last, by simp [hstages], hb.stops⟩
  · rw [hb] at hruns
    obtain ⟨earlier, last, hstages, hquiet, hblock⟩ := hruns.last
    exact ⟨earlier, last, hstages, hblock, hquiet⟩
  · have hseen : s.payload ∈ stages.seen v.redactedInput :=
      hruns.isPrefix.subset (List.mem_map_of_mem hs)
    rw [ha] at hseen
    obtain ⟨answer, hanswer, rfl⟩ := mem_seen hseen
    refine ⟨answer, hanswer, rfl, ?_⟩
    rw [← hredact]
    unfold StageInputs.comparison
    cases answer.inputText <;> cases v.redactedInput <;> rfl

end Engine

end Guardrail
