import Guardrail.Finding.Risk
import Guardrail.Proofs.Matches

/-!
Invisible characters hide nothing.

Invisible characters may be put into a text anywhere. What the rules find in the text as it was, they find in the text
without these characters, and each rule that does not show already is then reported for the whole text. So every rule
that had a finding keeps one, and the risk of an attempt to take the agent over does not fall.
-/

namespace Guardrail

namespace Scalar

/-! ### The largest of some numbers -/

variable {ν : Type} [Scalar ν]

lemma max_eq_or (a b : ν) : max a b = a ∨ max a b = b := by
  unfold max
  split
  · exact .inr rfl
  · split
    · exact .inl rfl
    · split
      · exact .inr rfl
      · exact .inl rfl

variable [Ordered ν] {a b : ν} {xs ys : List ν}

lemma le_max (ha : isNaN a = false) (hb : isNaN b = false) : a ≤ max a b ∧ b ≤ max a b := by
  rw [max, if_neg (by simp [ha]), if_neg (by simp [hb])]
  split
  · next h => exact ⟨le_of_lt h, le_refl hb⟩
  · next h => exact ⟨le_refl ha, le_of_not_lt ha hb h⟩

/-- The largest of some numbers is one of them, and none of them is larger. -/
lemma foldl_max (ha : isNaN a = false) (hxs : ∀ x ∈ xs, isNaN x = false) :
    xs.foldl max a ∈ a :: xs ∧ ∀ x ∈ a :: xs, x ≤ xs.foldl max a := by
  induction xs generalizing a with
  | nil => exact ⟨List.mem_singleton_self a, List.forall_mem_singleton.mpr (le_refl ha)⟩
  | cons x xs ih =>
    obtain ⟨hx, hxs⟩ := List.forall_mem_cons.mp hxs
    obtain ⟨hleft, hright⟩ := le_max ha hx
    have hmax : isNaN (max a x) = false := (Ordered.isNaN_of_le hleft).2
    obtain ⟨hmem, hle⟩ := ih hmax hxs
    obtain ⟨hfirst, hrest⟩ := List.forall_mem_cons.mp hle
    refine ⟨?_, List.forall_mem_cons.mpr ⟨Ordered.le_trans hleft hfirst,
      List.forall_mem_cons.mpr ⟨Ordered.le_trans hright hfirst, hrest⟩⟩⟩
    rw [List.foldl_cons]
    rcases List.mem_cons.mp hmem with heq | hmem
    · rw [heq]
      rcases max_eq_or a x with h | h <;> simp [h]
    · exact List.mem_cons_of_mem a (List.mem_cons_of_mem x hmem)

/-- The largest of more numbers is no smaller. -/
lemma foldl_max_mono (ha : isNaN a = false) (hys : ∀ y ∈ ys, isNaN y = false) (h : ∀ x ∈ xs, x ∈ ys) :
    xs.foldl max a ≤ ys.foldl max a := by
  obtain ⟨hmem, -⟩ := foldl_max ha fun x hx => hys x (h x hx)
  obtain ⟨-, hle⟩ := foldl_max ha hys
  rcases List.mem_cons.mp hmem with heq | hx
  · exact hle _ (List.mem_cons.mpr (.inl heq))
  · exact hle _ (List.mem_cons_of_mem a (h _ hx))

end Scalar

namespace Finding

/-- The same in all respects but the place. -/
structure Agrees (f g : Finding) : Prop where
  rule : f.rule = g.rule
  category : f.category = g.category
  confidence : f.confidence = g.confidence
  severity : f.severity = g.severity

/-- Where each finding has another that agrees with it, the risk is no smaller. -/
lemma injectionRisk_mono {fs gs : List Finding} (hgs : ∀ g ∈ gs, Scalar.isNaN g.confidence = false)
    (h : ∀ f ∈ fs, ∃ g ∈ gs, f.Agrees g) : injectionRisk fs ≤ injectionRisk gs := by
  refine Scalar.foldl_max_mono (Scalar.Ordered.isNaN_of_le (Scalar.zero_le_one (ν := Float))).1 ?_ ?_
  · intro y hy
    obtain ⟨g, hg, rfl⟩ := List.mem_map.mp hy
    exact hgs g (List.mem_of_mem_filter hg)
  · intro x hx
    obtain ⟨f, hf, rfl⟩ := List.mem_map.mp hx
    obtain ⟨hf, hkind⟩ := List.mem_filter.mp hf
    obtain ⟨g, hg, hfg⟩ := h f hf
    rw [hfg.category] at hkind
    exact List.mem_map.mpr ⟨g, List.mem_filter.mpr ⟨hg, hkind⟩, hfg.confidence.symm⟩

end Finding

namespace Detect

/-! ### Invisible characters -/

/-- A text, and the text with invisible characters put in at any places. -/
inductive Interspersed : List Char → List Char → Prop where
  | nil : Interspersed [] []
  | keep (c : Char) {text more : List Char} (h : Interspersed text more) : Interspersed (c :: text) (c :: more)
  | insert {c : Char} {text more : List Char} (hc : isInvisible c = true) (h : Interspersed text more) :
      Interspersed text (c :: more)

namespace Interspersed

variable {text more : List Char}

lemma byteLength_le (h : Interspersed text more) : Text.byteLength text ≤ Text.byteLength more := by
  induction h with
  | nil => exact Nat.le_refl _
  | keep c _ ih =>
    rw [Text.byteLength_cons, Text.byteLength_cons]
    omega
  | insert _ _ ih =>
    rw [Text.byteLength_cons]
    omega

/-- Without invisible characters a text is what it was. -/
lemma visible_eq (h : Interspersed text more) (htext : ∀ c ∈ text, isInvisible c = false) : visible more = text := by
  induction h with
  | nil => rfl
  | keep c _ ih =>
    obtain ⟨hc, htext⟩ := List.forall_mem_cons.mp htext
    rw [visible, List.filter_cons_of_pos (by rw [hc]; rfl)]
    exact congrArg (c :: ·) (ih htext)
  | insert hc _ ih =>
    rw [visible, List.filter_cons_of_neg (by rw [hc]; decide)]
    exact ih htext

end Interspersed

/-! ### Findings that are hidden -/

lemma revealed_of_visible {rules : List Rules.Compiled} {text : List Char} (h : ∀ c ∈ text, isInvisible c = false) :
    revealed rules text = scan rules text := by
  have hnone : text.any isInvisible = false := by simpa using h
  simp [revealed, hnone]

/-- The rule of every hidden finding shows in the end, and what showed before still does. -/
lemma shows_foldl_addHidden (whole : Span) (hidden found : List Finding) :
    found ⊆ hidden.foldl (addHidden whole) found ∧
      ∀ h ∈ hidden, ∃ g ∈ hidden.foldl (addHidden whole) found, g.rule = h.rule := by
  induction hidden generalizing found with
  | nil => exact ⟨List.Subset.refl found, by simp⟩
  | cons x hidden ih =>
    obtain ⟨hsub, hrules⟩ := ih (addHidden whole found x)
    have hadd : found ⊆ addHidden whole found x ∧ ∃ g ∈ addHidden whole found x, g.rule = x.rule := by
      unfold addHidden
      split
      · next hany => exact ⟨List.Subset.refl found, by simpa using hany⟩
      · exact ⟨List.subset_append_left .., _, List.mem_append_right found (List.mem_singleton_self _), rfl⟩
    obtain ⟨g, hg, hrule⟩ := hadd.2
    exact ⟨List.Subset.trans hadd.1 hsub, List.forall_mem_cons.mpr ⟨⟨g, hsub hg, hrule⟩, hrules⟩⟩

/-- Every rule that finds something in the visible text is reported. -/
lemma exists_revealed {rules : List Rules.Compiled} {text : List Char} {f : Finding}
    (hf : f ∈ scan rules (visible text)) : ∃ g ∈ revealed rules text, g.rule = f.rule := by
  unfold revealed
  split
  · exact (shows_foldl_addHidden _ _ _).2 f hf
  · next hnone =>
    have hvisible : visible text = text := by
      refine List.filter_eq_self.mpr fun c hc => ?_
      simp only [List.any_eq_true, not_exists, not_and] at hnone
      simpa using hnone c hc
    exact ⟨f, hvisible ▸ hf, rfl⟩

/-- Where no id occurs twice, findings of one rule agree in all but their places. -/
lemma agrees_of_foundBy {rules : List Rules.Compiled} (hids : (rules.map (·.id)).Nodup) {f g : Finding}
    (hf : FoundBy rules f) (hg : FoundBy rules g) (h : f.rule = g.rule) : f.Agrees g := by
  obtain ⟨r, hr, s, rfl⟩ := hf
  obtain ⟨r', hr', s', rfl⟩ := hg
  obtain rfl : r = r' := List.inj_on_of_nodup_map hids hr hr' h
  exact ⟨rfl, rfl, rfl, rfl⟩

lemma isNaN_confidence_of_foundBy {rules : List Rules.Compiled} {f : Finding} (h : FoundBy rules f) :
    Scalar.isNaN f.confidence = false := by
  obtain ⟨r, -, s, rfl⟩ := h
  exact (Scalar.Ordered.isNaN_of_le (Scalar.clampUnit_mem r.confidence).1).2

/-- **Invisible characters hide nothing.** Rules whose ids differ look at a text without invisible characters, and at
the text with such characters put in anywhere, which is still of acceptable length. Each finding in the first text has
one of the same rule in the second, of the same category, confidence and severity; and the risk is no smaller. -/
theorem invisible_hides_nothing {rules : List Rules.Compiled} {limit : ℕ} {text more : List Char}
    (hids : (rules.map (·.id)).Nodup) (htext : ∀ c ∈ text, isInvisible c = false)
    (hmore : Interspersed text more) (hlen : Text.byteLength more ≤ limit) :
    ∃ fs gs, injection rules limit text = .ok fs ∧ injection rules limit more = .ok gs ∧
      (∀ f ∈ fs, ∃ g ∈ gs, g.rule = f.rule ∧ g.category = f.category ∧ g.confidence = f.confidence ∧
        g.severity = f.severity) ∧
      Finding.injectionRisk fs ≤ Finding.injectionRisk gs := by
  refine ⟨_, _, injection_eq rules (hmore.byteLength_le.trans hlen), injection_eq rules hlen, ?_⟩
  have hagrees : ∀ f ∈ (revealed rules text).mergeSort fun a b => (injectionOrder a b).isLE,
      ∃ g ∈ (revealed rules more).mergeSort fun a b => (injectionOrder a b).isLE, f.Agrees g := by
    intro f hf
    have hf := List.mem_mergeSort.mp hf
    have hshown : f ∈ scan rules (visible more) := by
      rwa [hmore.visible_eq htext, ← revealed_of_visible htext]
    obtain ⟨g, hg, hrule⟩ := exists_revealed hshown
    exact ⟨g, List.mem_mergeSort.mpr hg,
      agrees_of_foundBy hids (foundBy_of_revealed hf) (foundBy_of_revealed hg) hrule.symm⟩
  refine ⟨fun f hf => ?_, Finding.injectionRisk_mono (fun g hg => ?_) hagrees⟩
  · obtain ⟨g, hg, hfg⟩ := hagrees f hf
    exact ⟨g, hg, hfg.rule.symm, hfg.category.symm, hfg.confidence.symm, hfg.severity.symm⟩
  · exact isNaN_confidence_of_foundBy (foundBy_of_revealed (List.mem_mergeSort.mp hg))

/-- Of two rules one finds its words also where an invisible character parts them, the other only without it. -/
theorem invisible_hides_nothing_parted :
    let search (r : Pattern.Regex) := (Pattern.Program.ofRegex r).occurrences
    let rules : List Rules.Compiled := [⟨"x", .injectionDirect, 0.9, 1, search (.one (.single 'b'))⟩,
      ⟨"y", .injectionJailbreak, 0.8, 1, search (.seq (.one (.single 'a')) (.one (.single 'b')))⟩]
    let text := ['a', 'b']
    let more := ['a', '\u200b', 'b', '\ufeff']
    (rules.map (·.id)).Nodup ∧ (∀ c ∈ text, isInvisible c = false) ∧ Interspersed text more ∧
      Text.byteLength more ≤ 8 ∧
      ∃ fs gs, injection rules 8 text = .ok fs ∧ injection rules 8 more = .ok gs ∧
        (∀ f ∈ fs, ∃ g ∈ gs, g.rule = f.rule ∧ g.category = f.category ∧ g.confidence = f.confidence ∧
          g.severity = f.severity) ∧
        Finding.injectionRisk fs ≤ Finding.injectionRisk gs := by
  intro search rules text more
  have hids : (rules.map (·.id)).Nodup := by simp [rules]
  have htext : ∀ c ∈ text, isInvisible c = false := by simp [text, isInvisible]
  have hspace : isInvisible '\u200b' = true := by simp [isInvisible]
  have hmark : isInvisible '\ufeff' = true := by simp [isInvisible]
  have hmore : Interspersed text more := .keep 'a' (.insert hspace (.keep 'b' (.insert hmark .nil)))
  have hlen : Text.byteLength more ≤ 8 := by decide
  exact ⟨hids, htext, hmore, hlen, invisible_hides_nothing hids htext hmore hlen⟩

end Detect

end Guardrail
