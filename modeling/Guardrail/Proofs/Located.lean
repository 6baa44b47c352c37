import Guardrail.Proofs.Boundaries
import Guardrail.Proofs.Echoes

/-!
Where findings lie.

Four detectors look for something in a text, each with places of its own: matches, matches that are left when overlaps
are resolved, the whole text for what invisible characters hide, and the words from the first echo of a prompt to the
last. All report findings in the order in which they start, and all places lie in the text, in order and between its
characters.
-/

namespace Guardrail

namespace Finding

/-- Findings in the order in which they start, each between two places of a text. -/
structure Located (text : List Char) (fs : List Finding) : Prop where
  ordered : fs.Pairwise fun a b => a.span.start ≤ b.span.start
  forward : ∀ f ∈ fs, f.span.start ≤ f.span.stop
  within : ∀ f ∈ fs, f.span.stop ≤ Text.byteLength text
  startsBetween : ∀ f ∈ fs, Text.isBoundary f.span.start text = true
  stopsBetween : ∀ f ∈ fs, Text.isBoundary f.span.stop text = true

lemma Located.of_fits {text : List Char} {fs : List Finding}
    (hordered : fs.Pairwise fun a b => a.span.start ≤ b.span.start) (hfits : ∀ f ∈ fs, f.span.Fits text) :
    Located text fs where
  ordered := hordered
  forward f hf := (hfits f hf).start_le_stop
  within f hf := Text.le_byteLength_of_isBoundary (Span.fits_iff.mp (hfits f hf)).2.2
  startsBetween f hf := (Span.fits_iff.mp (hfits f hf)).2.1
  stopsBetween f hf := (Span.fits_iff.mp (hfits f hf)).2.2

/-- Findings that are sorted by an order that looks at the starts first. -/
lemma located_mergeSort (cmp : Finding → Finding → Ordering) [Std.TransCmp cmp]
    (hcmp : ∀ a b, (cmp a b).isLE = true → a.span.start ≤ b.span.start) {text : List Char} {fs : List Finding}
    (hfits : ∀ f ∈ fs, f.span.Fits text) : Located text (fs.mergeSort fun a b => (cmp a b).isLE) :=
  .of_fits ((pairwise_mergeSort fs).imp (hcmp _ _)) fun f hf => hfits f (List.mem_mergeSort.mp hf)

/-- What is left of findings when overlaps are resolved. -/
lemma located_resolve {text : List Char} {fs : List Finding} (hfits : ∀ f ∈ fs, f.span.Fits text) :
    Located text (resolve fs) := by
  refine .of_fits ((pairwise_place_resolve fs).imp fun hplace => ?_) fun f hf => hfits f (mem_of_mem_resolve hf)
  exact (placeOrder_isLE.mp hplace).elim Nat.le_of_lt fun h => Nat.le_of_eq h.1

end Finding

namespace Detect

/-! ### The orders of reports -/

instance : Std.TransCmp injectionOrder :=
  inferInstanceAs <| Std.TransCmp <|
    compareLex (compareOn fun f : Finding => f.span.start) <|
    compareLex (compareOn fun f : Finding => f.span.stop) (compareOn fun f : Finding => f.rule)

instance : Std.TransCmp leakOrder :=
  inferInstanceAs <| Std.TransCmp <|
    compareLex (compareOn fun f : Finding => f.span.start) (compareOn fun f : Finding => f.rule)

/-- An order that compares starts first. -/
lemma start_le_of_isLE {a b : Finding} {rest : Ordering}
    (h : ((compare a.span.start b.span.start).then rest).isLE = true) : a.span.start ≤ b.span.start := by
  rw [Ordering.isLE_then_iff_and] at h
  exact Nat.isLE_compare.mp h.1

/-! ### The places of reports -/

section

variable {rules : List Rules.Compiled} {limit : ℕ} {text : List Char}

lemma MatchedBy.fits (hrules : ∀ r ∈ rules, ∀ s ∈ r.find text, s.Fits text) {f : Finding}
    (h : MatchedBy rules text f) : f.span.Fits text := by
  obtain ⟨r, hr, s, hs, rfl⟩ := h
  exact hrules r hr s hs

lemma fits_of_revealed (hrules : ∀ r ∈ rules, ∀ s ∈ r.find text, s.Fits text) {f : Finding}
    (h : f ∈ revealed rules text) : f.span.Fits text := by
  unfold revealed at h
  split at h
  · rcases mem_foldl_addHidden h with hfound | ⟨g, -, rfl⟩
    · exact (matchedBy_of_scan hfound).fits hrules
    · exact ⟨[], text, [], by simp, rfl, (Nat.zero_add _).symm⟩
  · exact (matchedBy_of_scan h).fits hrules

/-- Echoes lie from the start of a word to the end of one that is no earlier. -/
lemma fits_of_echoes {prompt : List Char} {n : ℕ} {span : Span}
    (hstart : IsLeast {i | ∃ run, Echo n prompt text run ∧ ∃ w ∈ run, w.start = i} span.start)
    (hstop : IsGreatest {i | ∃ run, Echo n prompt text run ∧ ∃ w ∈ run, w.stop = i} span.stop) : span.Fits text := by
  obtain ⟨⟨run, hrun, v, hv, hvstart⟩, hleast⟩ := hstart
  obtain ⟨⟨run', hrun', w, hw, hwstop⟩, -⟩ := hstop
  obtain ⟨-, hfirst, -⟩ := Span.fits_iff.mp (Text.words_fits v (hrun.inText.subset hv))
  obtain ⟨hle, -, hlast⟩ := Span.fits_iff.mp (Text.words_fits w (hrun'.inText.subset hw))
  have hbefore : span.start ≤ w.start := hleast ⟨run', hrun', w, hw, rfl⟩
  exact Span.fits_iff.mpr ⟨hwstop ▸ hbefore.trans hle, hvstart ▸ hfirst, hwstop ▸ hlast⟩

lemma exists_located_promptEcho (prompt : List Char) (n : ℕ) (hlen : Text.byteLength text ≤ limit) :
    ∃ fs, promptEcho prompt n limit text = .ok fs ∧ Finding.Located text fs := by
  have hn : 1 ≤ max n 1 := Nat.le_max_right n 1
  have hmax : promptEcho prompt n limit text = promptEcho prompt (max n 1) limit text := by
    rw [promptEcho, promptEcho, max_eq_left hn]
  rw [hmax]
  rcases promptEcho_eq hn hlen with ⟨-, heq⟩ | ⟨span, hstart, hstop, heq⟩
  · exact ⟨[], heq, .of_fits .nil (by simp)⟩
  · have hfits := fits_of_echoes hstart hstop
    exact ⟨_, heq, .of_fits (List.pairwise_singleton _ _) (List.forall_mem_singleton.mpr hfits)⟩

lemma leak_eq (rules : List Rules.Compiled) (hlen : Text.byteLength text ≤ limit) :
    leak rules limit text = .ok ((scan rules text).mergeSort fun a b => (leakOrder a b).isLE) := by
  simp [leak, checkSize_ok hlen, bind, Except.bind, pure, Except.pure, scan]

/-- **Where findings lie.** In a text of acceptable length, and under rules whose matches fit it, each of the detectors
of personal data, of attempts to take the agent over, of leaks and of echoes of a prompt reports findings in the order
in which they start, each from one place between characters of the text to another that is no earlier. -/
theorem findings_located (hrules : ∀ r ∈ rules, ∀ s ∈ r.find text, s.Fits text)
    (hlen : Text.byteLength text ≤ limit) :
    (∀ memo, ∃ fs, (pii rules limit memo text).1 = .ok fs ∧ Finding.Located text fs) ∧
    (∃ fs, injection rules limit text = .ok fs ∧ Finding.Located text fs) ∧
    (∃ fs, leak rules limit text = .ok fs ∧ Finding.Located text fs) ∧
    ∀ prompt n, ∃ fs, promptEcho prompt n limit text = .ok fs ∧ Finding.Located text fs := by
  refine ⟨fun memo => ⟨_, pii_of_le rules memo hlen, ?_⟩, ⟨_, injection_eq rules hlen, ?_⟩,
    ⟨_, leak_eq rules hlen, ?_⟩, fun prompt n => exists_located_promptEcho prompt n hlen⟩
  · exact Finding.located_resolve fun f hf => (matchedBy_of_candidates hf).fits hrules
  · exact Finding.located_mergeSort injectionOrder (fun a b => start_le_of_isLE) fun f hf => fits_of_revealed hrules hf
  · exact Finding.located_mergeSort leakOrder (fun a b => start_le_of_isLE) fun f hf =>
      (matchedBy_of_scan hf).fits hrules

end

/-- A letter of two bytes is found in its own place, a word that an invisible character parts in the whole text. -/
theorem findings_located_hidden :
    let search (r : Pattern.Regex) := (Pattern.Program.ofRegex r).occurrences
    let rules : List Rules.Compiled := [⟨"x", .injectionDirect, 1, 1, search (.one (.single 'é'))⟩,
      ⟨"y", .injectionJailbreak, 1, 1, search (.seq (.one (.single 'a')) (.one (.single 'b')))⟩]
    let text := ['é', 'a', '\u200b', 'b']
    let found : List Finding := [⟨.injectionDirect, ⟨0, 2⟩, 1, 1, "x"⟩, ⟨.injectionJailbreak, ⟨0, 7⟩, 1, 1, "y"⟩]
    (∀ r ∈ rules, ∀ s ∈ r.find text, s.Fits text) ∧ Text.byteLength text ≤ 7 ∧
      injection rules 7 text = .ok found ∧ Finding.Located text found ∧
      ∀ prompt n, ∃ fs, promptEcho prompt n 7 text = .ok fs ∧ Finding.Located text fs := by
  intro search rules text found
  have hrules : ∀ r ∈ rules, ∀ s ∈ r.find text, s.Fits text := by
    have hsearch (r : Pattern.Regex) : ∀ s ∈ search r text, s.Fits text := fun s hs =>
      Pattern.Program.occurrences_fits hs
    exact List.forall_mem_cons.mpr ⟨hsearch _, List.forall_mem_singleton.mpr (hsearch _)⟩
  have hlen : Text.byteLength text ≤ 7 := by decide
  have hfound : injection rules 7 text = .ok found := by
    have hrevealed : revealed rules text = found := by decide +kernel
    rw [injection_eq rules hlen, hrevealed, List.mergeSort_of_pairwise (by decide)]
  obtain ⟨-, ⟨fs, heq, hlocated⟩, -, hecho⟩ := findings_located hrules hlen
  obtain rfl : fs = found := Except.ok.inj (heq.symm.trans hfound)
  exact ⟨hrules, hlen, hfound, hlocated, hecho⟩

end Detect

end Guardrail
