import Guardrail.Detect.Pii
import Guardrail.Detect.Injection
import Guardrail.Proofs.Acceptance
import Guardrail.Proofs.Overlaps
import Guardrail.Proofs.Places

/-!
The confirmed matches of rules, and what detection makes of them.

The memo of card numbers never changes an answer, as long as every answer in it is right. That is so
at the beginning and stays so, so that detection depends on the rules and the text alone: it keeps,
of all confirmed matches, those that survive overlap resolution.
-/

namespace Guardrail

namespace Luhn

/-! ### The memo -/

/-- Every remembered answer is right. -/
def Memo.Sound (memo : Memo) : Prop :=
  ∀ digits answer, memo.lookup digits = some answer → answer = valid digits

lemma Memo.sound_nil : Memo.Sound [] := by simp [Memo.Sound]

lemma Memo.Sound.cons {memo : Memo} (h : memo.Sound) (digits : List Char) :
    Memo.Sound ((digits, valid digits) :: memo) := by
  intro digits' answer hlook
  rw [List.lookup_cons] at hlook
  split at hlook
  · next heq =>
    rw [eq_of_beq heq]
    exact (Option.some.inj hlook).symm
  · exact h digits' answer hlook

lemma check_eq {memo : Memo} (h : memo.Sound) (cs : List Char) :
    (check memo cs).1 = (hasCardLength (normalize cs) && valid (normalize cs))
      ∧ (check memo cs).2.Sound := by
  simp only [check]
  cases hlen : hasCardLength (normalize cs) with
  | false => exact ⟨rfl, h⟩
  | true =>
    cases hlook : memo.lookup (normalize cs) with
    | none => exact ⟨rfl, h.cons (normalize cs)⟩
    | some answer => exact ⟨h _ _ hlook, h⟩

end Luhn

namespace Detect

/-! ### Confirmed matches -/

/-- Whether a match of a rule is what its category says. -/
def confirms (r : Rules.Compiled) (text : List Char) (s : Span) : Bool :=
  confirmed r.category ((Text.slice? s.start s.stop text).getD [])

/-- The findings of all confirmed matches of rules. -/
def confirmedFindings (rules : List Rules.Compiled) (text : List Char) : List Finding :=
  rules.flatMap fun r => ((r.find text).filter (confirms r text)).map r.finding

lemma mem_confirmedFindings {rules : List Rules.Compiled} {text : List Char} {f : Finding} :
    f ∈ confirmedFindings rules text ↔
      ∃ r ∈ rules, ∃ s ∈ r.find text, confirms r text s = true ∧ r.finding s = f := by
  simp [confirmedFindings, and_assoc]

lemma confirm_eq {memo : Luhn.Memo} (h : memo.Sound) (category : Category) (matched : List Char) :
    (confirm memo category matched).1 = confirmed category matched
      ∧ (confirm memo category matched).2.Sound := by
  cases category
  case creditCard => exact Luhn.check_eq h matched
  all_goals exact ⟨rfl, h⟩

lemma confirmSpans_eq (r : Rules.Compiled) (text : List Char) (spans : List Span) {memo : Luhn.Memo}
    (h : memo.Sound) :
    (confirmSpans r text memo spans).1 = (spans.filter (confirms r text)).map r.finding
      ∧ (confirmSpans r text memo spans).2.Sound := by
  induction spans generalizing memo with
  | nil => exact ⟨rfl, h⟩
  | cons s spans ih =>
    obtain ⟨hholds, hmemo⟩ := confirm_eq h r.category ((Text.slice? s.start s.stop text).getD [])
    obtain ⟨hfound, hmore⟩ := ih hmemo
    refine ⟨?_, hmore⟩
    simp only [confirmSpans, hholds, hfound]
    rw [List.filter_cons, apply_ite (List.map r.finding), List.map_cons]
    rfl

lemma candidates_eq (rules : List Rules.Compiled) (text : List Char) {memo : Luhn.Memo}
    (h : memo.Sound) : (candidates text memo rules).1 = confirmedFindings rules text
      ∧ (candidates text memo rules).2.Sound := by
  induction rules generalizing memo with
  | nil => exact ⟨rfl, h⟩
  | cons r rules ih =>
    obtain ⟨hfound, hmemo⟩ := confirmSpans_eq r text (r.find text) h
    obtain ⟨hmore, hrest⟩ := ih hmemo
    refine ⟨?_, hrest⟩
    simp only [candidates, hfound, hmore, confirmedFindings, List.flatMap_cons]

lemma checkSize_ok {limit : ℕ} {text : List Char} (h : Text.byteLength text ≤ limit) :
    checkSize limit text = .ok () := by
  simp [checkSize, Nat.not_lt.mpr h]

/-- Whatever is remembered, what is reported are candidates that are left when overlaps are resolved. -/
lemma pii_ok {rules : List Rules.Compiled} {limit : ℕ} {memo : Luhn.Memo} {text : List Char} {fs : List Finding}
    (h : (pii rules limit memo text).1 = .ok fs) : fs = Finding.resolve (candidates text memo rules).1 := by
  unfold pii at h
  split at h
  · cases h
  · exact (Except.ok.inj h).symm

lemma pii_of_le (rules : List Rules.Compiled) {limit : ℕ} (memo : Luhn.Memo) {text : List Char}
    (hlen : Text.byteLength text ≤ limit) :
    (pii rules limit memo text).1 = .ok (Finding.resolve (candidates text memo rules).1) := by
  simp [pii, checkSize_ok hlen]

lemma pii_eq (rules : List Rules.Compiled) {limit : ℕ} {memo : Luhn.Memo} {text : List Char}
    (h : memo.Sound) (hlen : Text.byteLength text ≤ limit) :
    (pii rules limit memo text).1 = .ok (Finding.resolve (confirmedFindings rules text)) := by
  rw [pii_of_le rules memo hlen, (candidates_eq rules text h).1]

/-- Detection keeps the memo sound, also where the text is too long. -/
lemma pii_sound (rules : List Rules.Compiled) (limit : ℕ) {memo : Luhn.Memo} (text : List Char)
    (h : memo.Sound) : (pii rules limit memo text).2.Sound := by
  unfold pii
  split
  · exact h
  · exact (candidates_eq rules text h).2

lemma injection_eq (rules : List Rules.Compiled) {limit : ℕ} {text : List Char}
    (hlen : Text.byteLength text ≤ limit) : injection rules limit text
      = .ok ((revealed rules text).mergeSort fun a b => (injectionOrder a b).isLE) := by
  simp [injection, checkSize_ok hlen, bind, Except.bind, pure, Except.pure]

/-! ### What rules report -/

/-- The finding is that of a rule, at some place. -/
def FoundBy (rules : List Rules.Compiled) (f : Finding) : Prop := ∃ r ∈ rules, ∃ span, f = r.finding span

/-- The finding is that of a rule, at a place of a text that the rule applies to. -/
def MatchedBy (rules : List Rules.Compiled) (text : List Char) (f : Finding) : Prop :=
  ∃ r ∈ rules, ∃ s ∈ r.find text, f = r.finding s

section

variable {rules : List Rules.Compiled} {text : List Char} {f : Finding}

lemma MatchedBy.foundBy (h : MatchedBy rules text f) : FoundBy rules f := by
  obtain ⟨r, hr, s, -, hf⟩ := h
  exact ⟨r, hr, s, hf⟩

lemma exists_of_confirmSpans {r : Rules.Compiled} {memo : Luhn.Memo} {spans : List Span}
    (h : f ∈ (confirmSpans r text memo spans).1) : ∃ s ∈ spans, f = r.finding s := by
  induction spans generalizing memo with
  | nil => cases h
  | cons s spans ih =>
    have hlater {memo : Luhn.Memo} (h : f ∈ (confirmSpans r text memo spans).1) :
        ∃ s' ∈ s :: spans, f = r.finding s' := by
      obtain ⟨s', hs', hf⟩ := ih h
      exact ⟨s', List.mem_cons_of_mem s hs', hf⟩
    simp only [confirmSpans] at h
    split at h
    · exact (List.mem_cons.mp h).elim (fun hf => ⟨s, List.mem_cons_self, hf⟩) hlater
    · exact hlater h

/-- Whatever is remembered, a candidate is a match of a rule. -/
lemma matchedBy_of_candidates {memo : Luhn.Memo} (h : f ∈ (candidates text memo rules).1) :
    MatchedBy rules text f := by
  induction rules generalizing memo with
  | nil => cases h
  | cons r rules ih =>
    rcases List.mem_append.mp h with h | h
    · exact ⟨r, List.mem_cons_self, exists_of_confirmSpans h⟩
    · obtain ⟨r', hr', hspan⟩ := ih h
      exact ⟨r', List.mem_cons_of_mem r hr', hspan⟩

lemma matchedBy_of_scan (h : f ∈ scan rules text) : MatchedBy rules text f := by
  obtain ⟨r, hr, hf⟩ := List.mem_flatMap.mp h
  obtain ⟨s, hs, rfl⟩ := List.mem_map.mp hf
  exact ⟨r, hr, s, hs, rfl⟩

lemma mem_foldl_addHidden {whole : Span} {found hidden : List Finding}
    (h : f ∈ hidden.foldl (addHidden whole) found) : f ∈ found ∨ ∃ g ∈ hidden, f = { g with span := whole } := by
  induction hidden generalizing found with
  | nil => exact .inl h
  | cons x hidden ih =>
    rcases ih h with hfound | ⟨g, hg, hf⟩
    · unfold addHidden at hfound
      split at hfound
      · exact .inl hfound
      · rcases List.mem_append.mp hfound with hfound | hx
        · exact .inl hfound
        · exact .inr ⟨x, List.mem_cons_self, List.mem_singleton.mp hx⟩
    · exact .inr ⟨g, List.mem_cons_of_mem x hg, hf⟩

lemma foundBy_of_revealed (h : f ∈ revealed rules text) : FoundBy rules f := by
  unfold revealed at h
  split at h
  · rcases mem_foldl_addHidden h with hfound | ⟨g, hg, rfl⟩
    · exact (matchedBy_of_scan hfound).foundBy
    · obtain ⟨r, hr, s, -, rfl⟩ := matchedBy_of_scan hg
      exact ⟨r, hr, _, rfl⟩
  · exact (matchedBy_of_scan h).foundBy

end

end Detect

/-! ### Where they lie -/

variable [Pattern.Dialect] [Pattern.Dialect.Fitting]

namespace Rules

/-- The matches of a rule that was made ready fit the text. -/
lemma fits_of_compileAll {ds : List Definition} {rules : List Compiled} (h : compileAll ds = .ok rules)
    {r : Compiled} (hr : r ∈ rules) {text : List Char} {s : Span} (hs : s ∈ r.find text) : s.Fits text := by
  obtain ⟨d, -, hd⟩ := (exists_of_mapM_ok h).2 r hr
  obtain ⟨-, -, find, hfind, rfl⟩ := Definition.compile_ok.mp hd
  exact Pattern.Dialect.Fitting.fits hfind text s hs

end Rules

lemma Detect.fits_of_mem_confirmedFindings {l : Rules.Library} {c : Rules.CompiledLibrary}
    (h : l.compile = .ok c) {text : List Char} {f : Finding}
    (hf : f ∈ confirmedFindings c.pii text) : f.span.Fits text := by
  obtain ⟨r, hr, s, hs, -, rfl⟩ := mem_confirmedFindings.mp hf
  exact Rules.fits_of_compileAll (Rules.Library.compile_ok.mp h).1 hr hs

end Guardrail
