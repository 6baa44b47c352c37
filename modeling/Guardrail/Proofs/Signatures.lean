import Guardrail.Proofs.Repetition

/-!
What two steps with one signature have in common.

A signature writes the name of the tool, a bracket and the arguments one after the other. The bracket that it is read
at may stand in the name or in the arguments as well, so that two steps whose names part at different brackets may have
one signature. These are all that are mistaken for one another, and wherever there are two of them a loop is reported
of steps that were not repeated.
-/

namespace Guardrail

namespace AgentAction

/-- What a step does: a tool with arguments, white space around these aside. -/
def call (a : AgentAction) : String × List Char := (a.tool, Text.trim a.arguments.toList)

/-- The name of the other tool goes on with a bracket and some of the arguments, which the other step leaves out. -/
def RunsInto (a b : AgentAction) : Prop :=
  ∃ part, b.call.1.toList = a.call.1.toList ++ '(' :: part ∧ a.call.2 = part ++ '(' :: b.call.2

variable {a b : AgentAction}

lemma toList_signature (a : AgentAction) : a.signature.toList = (a.call.1.toList ++ '(' :: a.call.2) ++ [')'] := by
  simp [signature, call]

lemma signature_eq_of_call (h : a.call = b.call) : a.signature = b.signature := by
  rw [← String.toList_inj, toList_signature, toList_signature, h]

lemma RunsInto.signature_eq (h : a.RunsInto b) : a.signature = b.signature := by
  obtain ⟨part, htool, harguments⟩ := h
  rw [← String.toList_inj, toList_signature, toList_signature, htool, harguments]
  simp

lemma RunsInto.call_ne (h : a.RunsInto b) : a.call ≠ b.call := by
  obtain ⟨part, htool, -⟩ := h
  intro heq
  have hlength := congrArg List.length htool
  rw [heq] at hlength
  simp at hlength

/-- A name that is the longer one by `gap` hides a bracket in it, unless the names are the same. -/
lemma call_eq_or_runsInto {gap : List Char} (htool : b.call.1.toList = a.call.1.toList ++ gap)
    (hrest : '(' :: a.call.2 = gap ++ '(' :: b.call.2) : a.call = b.call ∨ a.RunsInto b := by
  cases gap with
  | nil =>
    have htools : a.call.1 = b.call.1 := String.toList_inj.mp (by simpa using htool.symm)
    have harguments : a.call.2 = b.call.2 := by simpa using hrest
    exact .inl (Prod.ext htools harguments)
  | cons bracket part =>
    simp only [List.cons_append, List.cons.injEq] at hrest
    obtain ⟨rfl, harguments⟩ := hrest
    exact .inr ⟨part, htool, harguments⟩

/-- Steps have one signature exactly if they do the same, or one runs into the other. -/
lemma signature_eq_iff : a.signature = b.signature ↔ a.call = b.call ∨ a.RunsInto b ∨ b.RunsInto a := by
  constructor
  · intro h
    rw [← String.toList_inj, toList_signature, toList_signature] at h
    rcases List.append_eq_append_iff.mp (List.append_cancel_right h) with ⟨gap, htool, hrest⟩ | ⟨gap, htool, hrest⟩
    · exact (call_eq_or_runsInto htool hrest).imp_right .inl
    · rcases call_eq_or_runsInto htool hrest with heq | hruns
      · exact .inl heq.symm
      · exact .inr (.inr hruns)
  · rintro (h | h | h)
    · exact signature_eq_of_call h
    · exact h.signature_eq
    · exact h.signature_eq.symm

/-- A step is repeated as often as its signature, if no other step among them has it. -/
lemma count_signature {latest : List AgentAction} (h : ∀ b ∈ latest, b.signature = a.signature → b.call = a.call) :
    (latest.map signature).count a.signature = (latest.map call).count a.call := by
  rw [List.count, List.count, List.countP_map, List.countP_map]
  refine List.countP_congr fun b hb => ?_
  simp only [Function.comp_apply, beq_iff_eq]
  exact ⟨h b hb, signature_eq_of_call⟩

end AgentAction

namespace Detect.Activity

open AgentAction

variable {config : StateMonitorConfig}

lemma rtake_map {α β : Type} (f : α → β) (xs : List α) (n : ℕ) : (xs.map f).rtake n = (xs.rtake n).map f := by
  simp [List.rtake, List.map_drop]

/-- Steps none of which runs into another are reported as a loop only where one is repeated. -/
lemma exists_repeated (hrepeats : 1 ≤ config.loopRepeats) {s : Snapshot}
    (h : ∀ a ∈ s.actions.rtake config.loopWindow, ∀ b ∈ s.actions.rtake config.loopWindow, ¬ a.RunsInto b)
    (hloops : (observe config s).loops ≠ []) :
    ∃ call, config.loopRepeats ≤ ((s.actions.rtake config.loopWindow).map AgentAction.call).count call := by
  obtain ⟨x, hx⟩ := (loops_ne_nil_iff hrepeats).mp hloops
  rw [rtake_map] at hx
  obtain ⟨a, ha, rfl⟩ := List.mem_map.mp (List.count_pos_iff.mp (hrepeats.trans hx))
  refine ⟨a.call, hx.trans_eq (count_signature fun b hb hsame => ?_)⟩
  rcases signature_eq_iff.mp hsame with heq | hruns | hruns
  · exact heq
  · exact absurd hruns (h b hb a ha)
  · exact absurd hruns (h a ha b hb)

/-- One step all but once, and then another that it runs into, make a loop in which nothing is repeated enough. -/
lemma exists_mistaken (htwo : 2 ≤ config.loopRepeats) (hwindow : config.loopRepeats ≤ config.loopWindow)
    {a b : AgentAction} (h : a.RunsInto b) : ∃ s : Snapshot, (∀ c ∈ s.actions, c = a ∨ c = b) ∧
      (observe config s).loops ≠ [] ∧
      ∀ call, ((s.actions.rtake config.loopWindow).map AgentAction.call).count call < config.loopRepeats := by
  have hwhole : (List.replicate (config.loopRepeats - 1) a ++ [b]).rtake config.loopWindow
      = List.replicate (config.loopRepeats - 1) a ++ [b] := by
    rw [List.rtake, List.length_append, List.length_replicate, List.length_singleton]
    rw [show config.loopRepeats - 1 + 1 - config.loopWindow = 0 by omega, List.drop_zero]
  refine ⟨doing (List.replicate (config.loopRepeats - 1) a ++ [b]), fun c hc => ?_, ?_, fun call => ?_⟩
  · rcases List.mem_append.mp hc with hc | hc
    · exact .inl (List.eq_of_mem_replicate hc)
    · exact .inr (List.mem_singleton.mp hc)
  · refine (loops_ne_nil_iff (by omega)).mpr ⟨a.signature, ?_⟩
    rw [rtake_map, doing, hwhole]
    simp [h.signature_eq]
    omega
  · rw [doing, hwhole]
    have hne := h.call_ne
    simp only [List.map_append, List.map_replicate, List.map_singleton, List.count_append, List.count_replicate,
      List.count_singleton, beq_iff_eq]
    split_ifs with hfirst hlast
    · exact absurd (hfirst.trans hlast.symm) hne
    all_goals omega

/-- **What counts as a repetition.** Two steps have one signature exactly if they use one tool with the same arguments,
white space around these aside, or one runs into the other. So under accepted parameters it is exactly among steps none
of which runs into another that a loop is only ever reported where one and the same call is repeated often enough among
the latest. -/
theorem loops_repeat_calls (hv : config.validate = .ok ()) (P : AgentAction → Prop) :
    (∀ a b : AgentAction, a.signature = b.signature ↔ a.call = b.call ∨ a.RunsInto b ∨ b.RunsInto a) ∧
    ((∀ s : Snapshot, (∀ a ∈ s.actions.rtake config.loopWindow, P a) → (observe config s).loops ≠ [] →
        ∃ call, config.loopRepeats ≤ ((s.actions.rtake config.loopWindow).map AgentAction.call).count call) ↔
      ∀ a b, P a → P b → ¬ a.RunsInto b) := by
  obtain ⟨-, ⟨htwo, hwindow⟩, -⟩ := StateMonitorConfig.validate_ok.mp hv
  refine ⟨fun a b => signature_eq_iff, fun h a b ha hb hruns => ?_, fun h s hs hloops => ?_⟩
  · obtain ⟨s, hsteps, hloops, hfew⟩ := exists_mistaken htwo hwindow hruns
    have hall : ∀ c ∈ s.actions.rtake config.loopWindow, P c := by
      intro c hc
      rcases hsteps c (List.mem_of_mem_drop hc) with rfl | rfl
      · exact ha
      · exact hb
    obtain ⟨call, hcall⟩ := h s hall hloops
    exact absurd (hfew call) (Nat.not_lt_of_le hcall)
  · exact exists_repeated (by omega) (fun a ha b hb => h a b (hs a ha) (hs b hb)) hloops

/-- Steps whose tools have no bracket in their names: three of them differ in white space only. -/
theorem loops_repeat_calls_plain :
    let s := doing [⟨"fetch", "a", true⟩, ⟨"fetch", " a", true⟩, ⟨"store", "(a)", true⟩, ⟨"fetch", "a\n", true⟩]
    (StateMonitorConfig.standard : StateMonitorConfig).validate = .ok () ∧ (observe .standard s).loops ≠ [] ∧
      ∃ call, 3 ≤ ((s.actions.rtake 10).map AgentAction.call).count call := by
  intro s
  have hv : (StateMonitorConfig.standard : StateMonitorConfig).validate = .ok () := by decide +kernel
  have hplain : ∀ a ∈ s.actions.rtake 10, '(' ∉ a.tool.toList := by decide +kernel
  have hloops : (observe .standard s).loops ≠ [] := by decide +kernel
  obtain ⟨-, hiff⟩ := loops_repeat_calls hv fun a => '(' ∉ a.tool.toList
  refine ⟨hv, hloops, hiff.mpr (fun a b _ hb hruns => ?_) s hplain hloops⟩
  obtain ⟨part, htool, -⟩ := hruns
  exact hb (by simp [show b.tool.toList = _ from htool])

/-- Three different steps that are read as one. -/
def bracketed : Snapshot :=
  doing [⟨"run", "a(b(c", true⟩, ⟨"run(a", "b(c", true⟩, ⟨"run(a(b", "c", true⟩]

/-- A loop is reported though no step is repeated. -/
theorem loops_without_repetition :
    (StateMonitorConfig.standard : StateMonitorConfig).validate = .ok () ∧ (observe .standard bracketed).loops ≠ [] ∧
      (bracketed.actions.map AgentAction.signature).eraseDups = ["run(a(b(c)"] ∧
      ∀ call, ((bracketed.actions.rtake 10).map AgentAction.call).count call < 3 := by
  refine ⟨by decide +kernel, by decide +kernel, by decide +kernel, fun call => ?_⟩
  have hnodup : ((bracketed.actions.rtake 10).map AgentAction.call).Nodup := by decide +kernel
  have hone := List.nodup_iff_count_le_one.mp hnodup call
  omega

end Detect.Activity

end Guardrail
