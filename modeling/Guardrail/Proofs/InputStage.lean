import Guardrail.Engine
import Guardrail.Proofs.Matches

/-!
The input stage of an evaluation.

It runs first, and only it reports under the layer of the input guard. What it blocks is blocked,
and the text that it redacts is what later stages, agents and the caller get, whatever the later
stages do.
-/

namespace Guardrail

namespace InputGuard

variable (config : InputGuardConfig) (thresholds : Thresholds) (text : List Char)
  (pii injection : List Finding)

lemma mem_findings_assemble {f : Finding} :
    f ∈ (assemble config thresholds text ⟨.ok pii, .ok injection⟩).findings ↔
      f ∈ pii ∨ f ∈ injection := by
  simp [assemble, Assessment.merge, Detect.guarded]

lemma redacted_assemble : (assemble config thresholds text ⟨.ok pii, .ok injection⟩).redacted
    = if config.redact then some (String.ofList (Finding.redact text pii)) else none := rfl

end InputGuard

namespace Engine

/-- The confirmed matches of the rules for personal data. -/
def confirmedMatches (e : Engine) (text : List Char) : List Finding :=
  Detect.confirmedFindings e.rules.pii text

/-- Of the confirmed matches, those that are left when overlaps are resolved. -/
def keptMatches (e : Engine) (text : List Char) : List Finding :=
  Finding.resolve (e.confirmedMatches text)

/-- The attempts to take the agent over that the rules find. -/
def takeovers (e : Engine) (text : List Char) : List Finding :=
  Detect.revealed e.rules.injection text

section

variable {e : Engine} {memo : Luhn.Memo} {text : String}

lemma assess_input (hm : memo.Sound) (hlen : Text.byteLength text.toList ≤ e.config.maxTextBytes) :
    (e.assess memo (.input text)).1 = InputGuard.assemble e.config.inputGuard e.config.thresholds
      text.toList ⟨.ok (e.keptMatches text.toList),
        .ok ((e.takeovers text.toList).mergeSort fun a b => (Detect.injectionOrder a b).isLE)⟩ := by
  have hdef : (e.assess memo (.input text)).1 = InputGuard.assemble e.config.inputGuard
      e.config.thresholds text.toList
      ⟨(Detect.pii e.rules.pii e.config.maxTextBytes memo text.toList).1.mapError .refused,
        (Detect.injection e.rules.injection e.config.maxTextBytes text.toList).mapError .refused⟩ :=
    rfl
  rw [hdef, Detect.pii_eq _ hm hlen, Detect.injection_eq _ hlen]
  rfl

lemma mem_findings_input (hm : memo.Sound)
    (hlen : Text.byteLength text.toList ≤ e.config.maxTextBytes) {f : Finding} :
    f ∈ (e.assess memo (.input text)).1.findings ↔
      f ∈ e.keptMatches text.toList ∨ f ∈ e.takeovers text.toList := by
  rw [assess_input hm hlen, InputGuard.mem_findings_assemble, List.mem_mergeSort]

end

/-! ### Stages -/

/-- A scorer reports under its own layer, whatever it is given. -/
lemma assessAs_layer (e : Engine) (stage : Stage) (memo : Luhn.Memo) (payload : Payload) :
    (e.assessAs stage memo payload).1.score.layer = stage.ruleLayer := by
  cases stage <;> cases payload <;> rfl

lemma assess_layer (e : Engine) (memo : Luhn.Memo) (payload : Payload) :
    (e.assess memo payload).1.score.layer = payload.stage.ruleLayer :=
  e.assessAs_layer payload.stage memo payload

/-- Only the input stage reports under the layer of the input guard. -/
lemma layer_ne_inputGuard (e : Engine) (memo : Luhn.Memo) {payload : Payload} (h : payload.stage ≠ .input) :
    (e.assess memo payload).1.score.layer ≠ .inputGuard := by
  rw [assess_layer]
  exact fun hl => h (congrArg Layer.stage hl)

lemma sound_assess (e : Engine) {memo : Luhn.Memo} (h : memo.Sound) (payload : Payload) :
    (e.assess memo payload).2.Sound := by
  cases payload with
  | input text => exact Detect.pii_sound _ _ _ h
  | state snapshot => exact h
  | output answer => exact Detect.pii_sound _ _ _ h

lemma layer_of_hardBlock {e : Engine} {layer : Layer} {findings : List Finding} {b : HardBlock}
    (h : e.hardBlock layer findings = some b) : b.layer = layer := by
  obtain ⟨f, -, rfl⟩ := Option.map_eq_some_iff.mp h
  rfl

/-- A stage blocks exactly if it has a finding in a blocking category. -/
lemma exists_hardBlock_iff {e : Engine} {layer : Layer} {findings : List Finding} :
    (∃ b, e.hardBlock layer findings = some b) ↔
      ∃ f ∈ findings, f.category ∈ e.config.hardBlock := by
  rw [← Option.isSome_iff_exists, hardBlock, Option.isSome_map, List.find?_isSome]
  simp

/-- Later stages block under their own layers, and leave the redacted text and the memo alone. -/
lemma runStages_later {e : Engine} {memo : Luhn.Memo} (redacted : Option String)
    {nexts : List (Option String → Payload)} (hm : memo.Sound)
    (h : ∀ next ∈ nexts, ∀ r, (next r).stage ≠ .input) :
    (∀ b, (e.runStages memo redacted nexts).1.2.1 = some b → b.layer ≠ .inputGuard) ∧
      (e.runStages memo redacted nexts).1.2.2 = redacted ∧
      (e.runStages memo redacted nexts).2.Sound := by
  induction nexts generalizing memo with
  | nil => exact ⟨by simp [runStages], rfl, hm⟩
  | cons next nexts ih =>
    obtain ⟨hnext, hnexts⟩ := List.forall_mem_cons.mp h
    have hlayer := e.layer_ne_inputGuard memo (hnext redacted)
    have hsound := e.sound_assess hm (next redacted)
    obtain ⟨hblock, hredacted, hmemo⟩ := ih hsound hnexts
    simp only [runStages, if_neg hlayer]
    split
    · next b hb =>
      refine ⟨fun b' hb' => ?_, rfl, hsound⟩
      obtain rfl := Option.some.inj hb'
      rwa [layer_of_hardBlock hb]
    · exact ⟨hblock, hredacted, hmemo⟩

/-! ### Requests -/

/-- The evaluation of a request reports a block at the input stage. -/
def BlocksInput (e : Engine) (memo : Luhn.Memo) (stages : StageInputs) (context : RequestContext) :
    Prop :=
  ∃ b, (e.evaluate memo stages context).1.hardBlock = some b ∧ b.layer = .inputGuard

lemma payloads_eq (stages : StageInputs) : ∃ later : List (Option String → Payload),
    payloads stages = (fun _ => .input stages.input) :: later ∧
      ∀ next ∈ later, ∀ r, (next r).stage ≠ .input := by
  refine ⟨_, rfl, ?_⟩
  cases stages.state <;> cases stages.output <;> simp [Payload.stage]

/-- What the input stage contributes to an evaluation: the redacted text, and every block under its
layer. -/
lemma evaluate_input (e : Engine) {memo : Luhn.Memo} (hm : memo.Sound) (stages : StageInputs)
    (context : RequestContext) :
    (e.evaluate memo stages context).1.redactedInput
        = (e.assess memo (.input stages.input)).1.redacted ∧
      (∀ b, (e.evaluate memo stages context).1.hardBlock = some b ∧ b.layer = .inputGuard ↔
        e.hardBlock .inputGuard (e.assess memo (.input stages.input)).1.findings = some b) ∧
      (e.evaluate memo stages context).2.Sound := by
  obtain ⟨later, hpayloads, hlater⟩ := payloads_eq stages
  have hlayer : (e.assess memo (.input stages.input)).1.score.layer = .inputGuard := assess_layer ..
  have hsound := e.sound_assess hm (.input stages.input)
  simp only [evaluate, hpayloads, runStages, hlayer, if_true]
  split
  · next b hb =>
    refine ⟨rfl, fun b' => ?_, hsound⟩
    rw [hb]
    exact ⟨fun h => h.1, fun h => ⟨h, Option.some.inj h ▸ layer_of_hardBlock hb⟩⟩
  · next hnone =>
    obtain ⟨hblock, hredacted, hmemo⟩ :=
      runStages_later (e.assess memo (.input stages.input)).1.redacted hsound hlater
    refine ⟨hredacted, fun b => ?_, hmemo⟩
    rw [hnone]
    exact ⟨fun h => absurd h.2 (hblock b h.1), fun h => nomatch h⟩

/-- An input is blocked exactly if some of the personal data that is kept, or some attempt to take
the agent over, is in a blocking category. -/
lemma blocks_input_iff {e : Engine} {memo : Luhn.Memo} {stages : StageInputs} (hm : memo.Sound)
    (hlen : Text.byteLength stages.input.toList ≤ e.config.maxTextBytes)
    (context : RequestContext) :
    e.BlocksInput memo stages context ↔
      ∃ f, (f ∈ e.keptMatches stages.input.toList ∨ f ∈ e.takeovers stages.input.toList)
        ∧ f.category ∈ e.config.hardBlock := by
  obtain ⟨-, hblock, -⟩ := e.evaluate_input hm stages context
  rw [BlocksInput, exists_congr hblock, exists_hardBlock_iff]
  simp only [mem_findings_input hm hlen]

/-! ### Two rules that overlap -/

/-- Two rules whose matches overlap in `abc`. Only matches of the one that ranks second block. -/
def overlappingRules : Rules.RuleSet where
  version := "1"
  patterns := ⟨[⟨"a", .phone, "ab", 1, 1⟩, ⟨"b", .email, "bc", 1, 0.5⟩], [], []⟩
  scoring := { ScoringConfig.standard with hardBlock := [.email] }

lemma validate_overlappingRules : overlappingRules.validate = .ok () := by decide +kernel

lemma confirmedMatches_overlappingRules {e : Engine} (he : ofRules overlappingRules = .ok e) :
    e.confirmedMatches "abc".toList = [⟨.phone, ⟨0, 2⟩, 1, 1, "a"⟩, ⟨.email, ⟨1, 3⟩, 1, 0.5, "b"⟩] :=
  of_ok (P := fun e : Engine => e.confirmedMatches _ = _) (by decide +kernel) he

lemma ofRules_overlappingRules : ∃ e, ofRules overlappingRules = .ok e ∧
    e.config = overlappingRules.scoring ∧
    e.confirmedMatches "abc".toList
      = [⟨.phone, ⟨0, 2⟩, 1, 1, "a"⟩, ⟨.email, ⟨1, 3⟩, 1, 0.5, "b"⟩] ∧
    e.keptMatches "abc".toList = [⟨.phone, ⟨0, 2⟩, 1, 1, "a"⟩] ∧ e.takeovers "abc".toList = [] := by
  obtain ⟨e, he, hconfig, -⟩ := ofRules_of_validate validate_overlappingRules
  have hfound := confirmedMatches_overlappingRules he
  have hquiet : e.takeovers "abc".toList = [] :=
    of_ok (P := fun e : Engine => e.takeovers _ = _) (by decide +kernel) he
  refine ⟨e, he, hconfig, hfound, ?_, hquiet⟩
  rw [keptMatches, hfound]
  exact Finding.resolve_of_pairwise (by decide +kernel) (by decide +kernel)

end Engine

end Guardrail
