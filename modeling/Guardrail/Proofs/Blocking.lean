import Guardrail.Proofs.InputStage

/-!
When personal data blocks a request.

Of confirmed matches that overlap one is kept, and only what is kept can block. So a match in a
blocking category can go unnoticed only behind another one that overlaps it, ranks no lower and does
not block.
-/

namespace Guardrail.Engine

/-- A confirmed match in a blocking category blocks, unless one that does not block ranks no lower
and overlaps it. -/
lemma exists_kept_blocking {e : Engine} {text : List Char} {m : Finding}
    (hm : m ∈ e.confirmedMatches text) (hcat : m.category ∈ e.config.hardBlock)
    (hrank : ∀ k ∈ e.confirmedMatches text, k.span.overlaps m.span = true → k.RanksBefore m →
      k.category ∈ e.config.hardBlock) :
    ∃ f ∈ e.keptMatches text, f.category ∈ e.config.hardBlock := by
  rcases Finding.mem_resolve_or hm with hkept | ⟨k, hk, hoverlaps, hbefore⟩
  · exact ⟨m, hkept, hcat⟩
  · exact ⟨k, hk, hrank k (Finding.mem_of_mem_resolve hk) hoverlaps hbefore⟩

/-- **When personal data blocks.** Under accepted rules an input of acceptable length is blocked
exactly if, overlaps resolved, a confirmed match or an attempt to take the agent over is in a
blocking category. A confirmed match in a blocking category is enough, unless another one that is in
none ranks no lower and overlaps it. The memo may come from any evaluations before. -/
theorem blocks_confirmed_match [Pattern.Dialect] {rules : Rules.RuleSet} (hv : rules.validate = .ok ()) :
    ∃ e, ofRules rules = .ok e ∧
      ∀ (memo : Luhn.Memo) (stages : StageInputs) (context : RequestContext), memo.Sound →
        Text.byteLength stages.input.toList ≤ rules.scoring.maxTextBytes →
          (e.evaluate memo stages context).2.Sound ∧
          (e.BlocksInput memo stages context ↔
            ∃ f, (f ∈ e.keptMatches stages.input.toList ∨ f ∈ e.takeovers stages.input.toList)
              ∧ f.category ∈ rules.scoring.hardBlock) ∧
          ∀ m ∈ e.confirmedMatches stages.input.toList, m.category ∈ rules.scoring.hardBlock →
            (∀ k ∈ e.confirmedMatches stages.input.toList, k.span.overlaps m.span = true →
              k.RanksBefore m → k.category ∈ rules.scoring.hardBlock) →
            e.BlocksInput memo stages context := by
  obtain ⟨e, hofRules, hconfig, -⟩ := ofRules_of_validate hv
  rw [← hconfig]
  refine ⟨e, hofRules, fun memo stages context hm hlen => ?_⟩
  obtain ⟨-, -, hsound⟩ := e.evaluate_input hm stages context
  have hiff := blocks_input_iff hm hlen context
  refine ⟨hsound, hiff, fun m hmem hcat hrank => ?_⟩
  obtain ⟨f, hf, hcat⟩ := exists_kept_blocking hmem hcat hrank
  exact hiff.mpr ⟨f, .inl hf, hcat⟩

/-- The same two rules where only matches of the one that ranks first block. -/
def firstBlockingRules : Rules.RuleSet :=
  { overlappingRules with scoring := { overlappingRules.scoring with hardBlock := [.phone] } }

/-- A match blocks though another one overlaps it, which ranks second and does not block. -/
theorem blocks_confirmed_match_first :
    firstBlockingRules.validate = .ok () ∧ ∃ e, ofRules firstBlockingRules = .ok e ∧
      e.confirmedMatches "abc".toList = [⟨.phone, ⟨0, 2⟩, 1, 1, "a"⟩, ⟨.email, ⟨1, 3⟩, 1, 0.5, "b"⟩] ∧
      e.BlocksInput [] ⟨"abc", none, none⟩ (.anonymous "r") := by
  have hv : firstBlockingRules.validate = .ok () := by decide +kernel
  obtain ⟨e, he, h⟩ := blocks_confirmed_match hv
  have hfound : e.confirmedMatches "abc".toList
      = [⟨.phone, ⟨0, 2⟩, 1, 1, "a"⟩, ⟨.email, ⟨1, 3⟩, 1, 0.5, "b"⟩] :=
    of_ok (P := fun e : Engine => e.confirmedMatches _ = _) (by decide +kernel) he
  obtain ⟨-, -, hblocks⟩ :=
    h [] ⟨"abc", none, none⟩ (.anonymous "r") Luhn.Memo.sound_nil (by decide +kernel)
  rw [hfound] at hblocks
  exact ⟨hv, e, he, hfound, hblocks _ List.mem_cons_self (by decide) (by decide +kernel)⟩

/-- A match in a blocking category goes unnoticed behind one that ranks first. -/
theorem allows_overlapped_match :
    overlappingRules.validate = .ok () ∧ ∃ e, ofRules overlappingRules = .ok e ∧
      (∃ m ∈ e.confirmedMatches "abc".toList, m.category ∈ overlappingRules.scoring.hardBlock) ∧
      ¬ e.BlocksInput [] ⟨"abc", none, none⟩ (.anonymous "r") := by
  obtain ⟨e, he, hconfig, hfound, hkept, hquiet⟩ := ofRules_overlappingRules
  refine ⟨validate_overlappingRules, e, he, ?_, ?_⟩
  · rw [hfound]
    decide
  · rw [blocks_input_iff Luhn.Memo.sound_nil (by rw [hconfig]; decide +kernel), hconfig]
    simp only [hkept, hquiet]
    simp [overlappingRules]

end Guardrail.Engine
