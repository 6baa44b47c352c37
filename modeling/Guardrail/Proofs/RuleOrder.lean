import Guardrail.Proofs.InputStage
import Guardrail.Proofs.Resolution
import Mathlib.Data.List.Forall2

/-!
The order of rules.

A rule set whose rules for personal data stand in another order is accepted like the one it comes from, and finds the
same: ids tell the rules apart, and with them the findings that nothing else tells apart.
-/

namespace Guardrail

namespace Rules

/-- The same families, but for that of personal data. -/
def RuleSet.withPii (r : RuleSet) (pii : List Definition) : RuleSet :=
  { r with patterns := { r.patterns with pii } }

variable [Pattern.Dialect] {ds ds' : List Definition} {cs : List Compiled}

/-- Rules in another order are made ready in that order. -/
lemma compileAll_perm (hperm : ds'.Perm ds) (h : compileAll ds = .ok cs) :
    ∃ cs', compileAll ds' = .ok cs' ∧ cs'.Perm cs := by
  have hpair := mapM_ok.mp h
  obtain ⟨cs', hpair', hperm'⟩ := List.perm_comp_forall₂ hperm hpair
  exact ⟨cs', mapM_ok.mpr hpair', hperm'⟩

lemma validateFrom_perm (hperm : ds'.Perm ds) (h : validateFrom [] ds = .ok ()) : validateFrom [] ds' = .ok () := by
  obtain ⟨heach, hids⟩ := validateFrom_ok.mp h
  refine validateFrom_ok.mpr ⟨fun d hd => heach d (hperm.mem_iff.mp hd), ?_⟩
  exact ((hperm.map _).nodup_iff).mpr hids

lemma validate_withPii {r : RuleSet} {pii : List Definition} (hperm : pii.Perm r.patterns.pii)
    (h : r.validate = .ok ()) : (r.withPii pii).validate = .ok () := by
  obtain ⟨hversion, hscoring, hrules⟩ := RuleSet.validate_ok.mp h
  refine RuleSet.validate_ok.mpr ⟨hversion, hscoring, validateFrom_perm ?_ hrules⟩
  exact (hperm.append_right _).append_right _

/-- Where no id occurs twice, it tells the category. -/
lemma category_of_id {l : Library} {c : CompiledLibrary} (h : l.compile = .ok c) (hids : (l.all.map (·.id)).Nodup)
    {a b : Compiled} (ha : a ∈ c.pii) (hb : b ∈ c.pii) (hid : a.id = b.id) : a.category = b.category := by
  obtain ⟨-, hcompiled⟩ := exists_of_mapM_ok (Library.compile_ok.mp h).1
  obtain ⟨d, hd, hda⟩ := hcompiled a ha
  obtain ⟨d', hd', hdb⟩ := hcompiled b hb
  obtain ⟨-, -, find, -, ha'⟩ := Definition.compile_ok.mp hda
  obtain ⟨-, -, find', -, hb'⟩ := Definition.compile_ok.mp hdb
  rw [ha', hb'] at hid ⊢
  have hall {d : Definition} (hd : d ∈ l.pii) : d ∈ l.all := List.mem_append_left _ (List.mem_append_left _ hd)
  have hsame : d = d' := List.inj_on_of_nodup_map hids (hall hd) (hall hd') hid
  rw [hsame]

end Rules

namespace Detect

/-- Whatever is remembered, what is found is the resolution of the confirmed matches, or the text is too long. -/
lemma pii_fst (rules : List Rules.Compiled) (limit : ℕ) {memo : Luhn.Memo} (h : memo.Sound) (text : List Char) :
    (pii rules limit memo text).1
      = (checkSize limit text).map fun _ => Finding.resolve (confirmedFindings rules text) := by
  cases hsize : checkSize limit text with
  | error e => simp [pii, hsize, Except.map]
  | ok => simp [pii, hsize, (candidates_eq rules text h).1, Except.map]

end Detect

namespace Finding

open Rules
open Engine (overlappingRules validate_overlappingRules)

/-- **The order plays no part.** Findings that are not reversed, and whose rules tell their categories, are resolved
alike in whatever order they are found. An accepted rule set with its rules for personal data in any other order is
accepted as well, and both find the same in every text, whatever they remember. -/
theorem resolve_order_free [Pattern.Dialect] [Pattern.Dialect.Fitting] :
    (∀ found found' : List Finding, found.Perm found' → (∀ f ∈ found, f.span.start ≤ f.span.stop) →
      (∀ f ∈ found, ∀ g ∈ found, f.rule = g.rule → f.category = g.category) → resolve found = resolve found') ∧
    ∀ (r : RuleSet) (pii : List Definition), r.validate = .ok () → pii.Perm r.patterns.pii →
      ∃ e e', Engine.ofRules r = .ok e ∧ Engine.ofRules (r.withPii pii) = .ok e' ∧
        ∀ (limit : ℕ) (memo memo' : Luhn.Memo) (text : List Char), memo.Sound → memo'.Sound →
          (Detect.pii e.rules.pii limit memo text).1 = (Detect.pii e'.rules.pii limit memo' text).1 := by
  refine ⟨fun found found' => resolve_perm, fun r pii hv hperm => ?_⟩
  obtain ⟨e, he, -, hcompile⟩ := Engine.ofRules_of_validate hv
  obtain ⟨e', he', -, hcompile'⟩ := Engine.ofRules_of_validate (validate_withPii hperm hv)
  refine ⟨e, e', he, he', fun limit memo memo' text hm hm' => ?_⟩
  obtain ⟨cs, hcs, hrules⟩ := compileAll_perm hperm (Library.compile_ok.mp hcompile).1
  obtain rfl : cs = e'.rules.pii := Except.ok.inj (hcs.symm.trans (Library.compile_ok.mp hcompile').1)
  obtain ⟨-, -, hvalid⟩ := RuleSet.validate_ok.mp hv
  have hids := (validateFrom_ok.mp hvalid).2
  have hsame : resolve (Detect.confirmedFindings e.rules.pii text)
      = resolve (Detect.confirmedFindings e'.rules.pii text) := by
    refine resolve_perm (hrules.symm.flatMap_right _) (fun f hf => ?_) fun f hf g hg hrule => ?_
    · exact (Detect.fits_of_mem_confirmedFindings hcompile hf).start_le_stop
    · obtain ⟨a, ha, s, -, -, rfl⟩ := Detect.mem_confirmedFindings.mp hf
      obtain ⟨b, hb, t, -, -, rfl⟩ := Detect.mem_confirmedFindings.mp hg
      exact category_of_id hcompile hids ha hb hrule
  rw [Detect.pii_fst _ _ hm, Detect.pii_fst _ _ hm', hsame]

/-- Two empty findings at one place and one over them, all of the same worth. -/
def crowded : List Finding :=
  [⟨.email, ⟨2, 2⟩, 0.5, 0.5, "b"⟩, ⟨.phone, ⟨2, 2⟩, 0.5, 0.5, "a"⟩, ⟨.ssn, ⟨1, 4⟩, 0.5, 0.5, "c"⟩]

theorem resolve_order_free_crowded :
    (∀ f ∈ crowded, f.span.start ≤ f.span.stop) ∧
      (∀ f ∈ crowded, ∀ g ∈ crowded, f.rule = g.rule → f.category = g.category) ∧
      resolve crowded = resolve crowded.reverse ∧ overlappingRules.validate = .ok () ∧
      ∃ e e', Engine.ofRules overlappingRules = .ok e ∧
        Engine.ofRules (overlappingRules.withPii overlappingRules.patterns.pii.reverse) = .ok e' ∧
        (Detect.pii e.rules.pii 8 [] "abc".toList).1 = (Detect.pii e'.rules.pii 8 [] "abc".toList).1 := by
  have hspan : ∀ f ∈ crowded, f.span.start ≤ f.span.stop := by decide
  have hrule : ∀ f ∈ crowded, ∀ g ∈ crowded, f.rule = g.rule → f.category = g.category := by decide
  obtain ⟨hresolve, hdetect⟩ := resolve_order_free
  obtain ⟨e, e', he, he', hsame⟩ := hdetect overlappingRules overlappingRules.patterns.pii.reverse
    validate_overlappingRules (List.reverse_perm _)
  exact ⟨hspan, hrule, hresolve crowded crowded.reverse (List.reverse_perm _).symm hspan hrule,
    validate_overlappingRules, e, e', he, he',
    hsame 8 [] [] "abc".toList Luhn.Memo.sound_nil Luhn.Memo.sound_nil⟩

end Finding

end Guardrail
