import Guardrail.Proofs.Boundaries
import Guardrail.Proofs.InputStage

/-!
What redaction leaves of a text.

A redacted text is made of pieces: characters that are copied, each from its place in the text, and
labels. Redaction copies exactly the characters that lie in none of the findings it is given. What
overlap resolution drops is not given to it, so that a match is wholly written over only where what
is kept covers it.
-/

namespace Guardrail

/-- A byte of a text lies in a span. -/
def Span.Covers (s : Span) (i : ℕ) : Prop := s.start ≤ i ∧ i < s.stop

/-- A piece of a redacted text. -/
inductive Piece where
  /-- A character that stands at a place of the text. -/
  | copied (place : ℕ) (c : Char)
  | label (category : Category)

namespace Piece

/-- What a piece looks like. -/
def chars : Piece → List Char
  | copied _ c => [c]
  | label category => category.label.toList

/-- The pieces of a text that is copied, given where it begins. -/
def copy (offset : ℕ) : List Char → List Piece
  | [] => []
  | c :: cs => copied offset c :: copy (offset + c.utf8Size) cs

@[simp] lemma flatMap_copy (offset : ℕ) (cs : List Char) : (copy offset cs).flatMap chars = cs := by
  induction cs generalizing offset with
  | nil => rfl
  | cons c cs ih => rw [copy, List.flatMap_cons, ih]; rfl

lemma copy_append (offset : ℕ) (a b : List Char) :
    copy offset (a ++ b) = copy offset a ++ copy (offset + Text.byteLength a) b := by
  induction a generalizing offset with
  | nil => simp [copy]
  | cons c a ih => simp [copy, ih, Nat.add_assoc]

/-- A character that is copied lies within the text, with all its bytes. -/
lemma bounds_of_mem_copy {offset i : ℕ} {cs : List Char} {c : Char}
    (h : copied i c ∈ copy offset cs) :
    offset ≤ i ∧ i + c.utf8Size ≤ offset + Text.byteLength cs := by
  induction cs generalizing offset with
  | nil => cases h
  | cons d cs ih =>
    rw [Text.byteLength_cons]
    rcases List.mem_cons.mp h with heq | h
    · obtain ⟨rfl, rfl⟩ := copied.inj heq
      omega
    · have := ih h
      omega

/-- Every byte of a text belongs to a character. -/
lemma exists_mem_copy {offset i : ℕ} {cs : List Char} (hi : offset ≤ i)
    (hlt : i < offset + Text.byteLength cs) :
    ∃ j c, copied j c ∈ copy offset cs ∧ j ≤ i ∧ i < j + c.utf8Size := by
  induction cs generalizing offset with
  | nil => simp at hlt; omega
  | cons d cs ih =>
    rw [Text.byteLength_cons] at hlt
    by_cases hd : i < offset + d.utf8Size
    · exact ⟨offset, d, List.mem_cons_self, hi, hd⟩
    · obtain ⟨j, c, hmem, hj⟩ := ih (Nat.not_lt.mp hd) (by omega)
      exact ⟨j, c, List.mem_cons_of_mem _ hmem, hj⟩

end Piece

open Piece

/-- A span that fits covers all bytes of a character or none. -/
lemma Span.Fits.covers_iff {s : Span} {text : List Char} {i j : ℕ} {c : Char} (h : s.Fits text)
    (hmem : copied j c ∈ copy 0 text) (hj : j ≤ i) (hi : i < j + c.utf8Size) :
    s.Covers j ↔ s.Covers i := by
  obtain ⟨a, b, d, rfl, hstart, hstop⟩ := h
  rw [copy_append, copy_append, List.mem_append, List.mem_append] at hmem
  simp only [Covers, Text.byteLength_append] at hmem ⊢
  rcases hmem with (hmem | hmem) | hmem <;> have := bounds_of_mem_copy hmem <;> omega

/-- What redaction makes of the rest of a text from the place `offset` on: up to each finding the
characters are copied, and a label stands for the finding itself. -/
inductive Redacts : ℕ → List Char → List Finding → List Piece → Prop where
  | done (offset : ℕ) (rest : List Char) : Redacts offset rest [] (copy offset rest)
  | next {offset : ℕ} {gap matched rest : List Char} {f : Finding} {fs : List Finding}
      {out : List Piece}
      (hstart : f.span.start = offset + Text.byteLength gap)
      (hstop : f.span.stop = f.span.start + Text.byteLength matched)
      (hrest : Redacts f.span.stop rest fs out) :
      Redacts offset (gap ++ matched ++ rest) (f :: fs) (copy offset gap ++ label f.category :: out)

namespace Redacts

variable {offset : ℕ} {rest : List Char} {fs : List Finding} {out : List Piece}

lemma le_start (h : Redacts offset rest fs out) : ∀ f ∈ fs, offset ≤ f.span.start := by
  induction h with
  | done => simp
  | next hstart hstop hrest ih =>
    intro g hg
    rcases List.mem_cons.mp hg with rfl | hg
    · omega
    · have := ih g hg
      omega

/-- Copied is what no finding covers. -/
lemma mem_copied_iff (h : Redacts offset rest fs out) {i : ℕ} {c : Char} :
    copied i c ∈ out ↔ copied i c ∈ copy offset rest ∧ ∀ f ∈ fs, ¬ f.span.Covers i := by
  induction h with
  | done => simp
  | @next offset gap matched rest f fs out hstart hstop hrest ih =>
    have hfs := hrest.le_start
    have hcopy : copied i c ∈ copy offset (gap ++ matched ++ rest) ↔ copied i c ∈ copy offset gap ∨
        copied i c ∈ copy f.span.start matched ∨ copied i c ∈ copy f.span.stop rest := by
      rw [List.append_assoc, copy_append, copy_append, ← hstart, ← hstop, List.mem_append,
        List.mem_append]
    have hpos := c.utf8Size_pos
    rw [hcopy, List.mem_append, List.mem_cons, ih, List.forall_mem_cons]
    simp only [Span.Covers, reduceCtorEq, false_or]
    constructor
    · rintro (hgap | ⟨hmem, hclear⟩)
      · have := bounds_of_mem_copy hgap
        refine ⟨.inl hgap, by omega, fun g hg => ?_⟩
        have := hfs g hg
        omega
      · have := bounds_of_mem_copy hmem
        exact ⟨.inr (.inr hmem), by omega, hclear⟩
    · rintro ⟨hgap | hmatched | hmem, hf, hclear⟩
      · exact .inl hgap
      · have := bounds_of_mem_copy hmatched
        omega
      · exact .inr ⟨hmem, hclear⟩

end Redacts

/-! ### The scan -/

namespace Finding

section

variable {text before rest : List Char} {cursor : ℕ} {f : Finding} {fs : List Finding}

/-- A scan that stands at a place passes over a finding that begins before that place, ends behind the text, or has
an end inside a character. -/
def PassesOver (text : List Char) (cursor : ℕ) (f : Finding) : Prop :=
  f.span.start < cursor ∨ Text.byteLength text < f.span.stop ∨ Text.isBoundary f.span.start text = false ∨
    Text.isBoundary f.span.stop text = false

instance (text : List Char) (cursor : ℕ) (f : Finding) : Decidable (PassesOver text cursor f) :=
  inferInstanceAs (Decidable (_ ∨ _))

/-- The findings that a scan writes over from the place `cursor` on. -/
def written (text : List Char) (cursor : ℕ) : List Finding → List Finding
  | [] => []
  | f :: fs => if PassesOver text cursor f then written text cursor fs else f :: written text f.span.stop fs

lemma not_passesOver_iff : ¬ PassesOver text cursor f ↔ cursor ≤ f.span.start ∧
    Text.isBoundary f.span.start text = true ∧ Text.isBoundary f.span.stop text = true := by
  simp only [PassesOver, not_or, Nat.not_lt, Bool.not_eq_false]
  constructor
  · rintro ⟨hle, -, hends⟩
    exact ⟨hle, hends⟩
  · rintro ⟨hle, hstart, hstop⟩
    exact ⟨hle, Text.le_byteLength_of_isBoundary hstop, hstart, hstop⟩

lemma written_sublist (text : List Char) (cursor : ℕ) (fs : List Finding) : (written text cursor fs).Sublist fs := by
  induction fs generalizing cursor with
  | nil => exact List.Sublist.refl []
  | cons f fs ih =>
    rw [written]
    split
    · exact (ih cursor).cons f
    · exact (ih f.span.stop).cons_cons f

/-- Findings that fit and lie side by side are all written over. -/
lemma written_eq_self (hfits : ∀ f ∈ fs, f.span.Fits text) (hle : ∀ f ∈ fs, cursor ≤ f.span.start)
    (hfs : fs.Pairwise fun a b => a.span.stop ≤ b.span.start) : written text cursor fs = fs := by
  induction fs generalizing cursor with
  | nil => rfl
  | cons f fs ih =>
    obtain ⟨hfit, hfits⟩ := List.forall_mem_cons.mp hfits
    obtain ⟨hlef, -⟩ := List.forall_mem_cons.mp hle
    obtain ⟨hnext, hfs⟩ := List.pairwise_cons.mp hfs
    have hf : ¬ PassesOver text cursor f := not_passesOver_iff.mpr ⟨hlef, (Span.fits_iff.mp hfit).2⟩
    rw [written, if_neg hf, ih hfits hnext hfs]

/-- Where the scan stands plays no part in what follows a place. -/
lemma seek_eq (htext : text = before ++ rest) (place : ℕ) :
    seek text (Text.byteLength before) rest place = Text.dropBytes? place text := by
  unfold seek
  split
  · next hle =>
    obtain ⟨n, rfl⟩ := Nat.exists_eq_add_of_le hle
    rw [Nat.add_sub_cancel_left, htext, Text.dropBytes?_add]
  · rfl

lemma redactFrom_of_passesOver (fs : List Finding) (htext : text = before ++ rest)
    (h : PassesOver text (Text.byteLength before) f) :
    redactFrom text (Text.byteLength before) rest (f :: fs) = redactFrom text (Text.byteLength before) rest fs := by
  rw [redactFrom]
  split
  · rfl
  · next hle =>
    simp only [seek_eq htext]
    split
    · next hstart hstop =>
      refine absurd h (not_passesOver_iff.mpr ⟨Nat.not_lt.mp hle, ?_, ?_⟩)
      · exact Option.isSome_of_eq_some hstart
      · exact Option.isSome_of_eq_some hstop
    · rfl

/-- A finding that is not passed over is written over: the text up to it is copied, and the scan goes on behind it,
or before it if the finding runs backwards. -/
lemma redactFrom_of_not_passesOver (fs : List Finding) (htext : text = before ++ rest)
    (h : ¬ PassesOver text (Text.byteLength before) f) :
    ∃ gap behind upTo after, text = before ++ gap ++ behind ∧ f.span.start = Text.byteLength (before ++ gap) ∧
      text = upTo ++ after ∧ f.span.stop = Text.byteLength upTo ∧
      redactFrom text (Text.byteLength before) rest (f :: fs)
        = gap ++ f.category.label.toList ++ redactFrom text f.span.stop after fs := by
  obtain ⟨hle, hstart, hstop⟩ := not_passesOver_iff.mp h
  obtain ⟨a, behind, hcut, ha⟩ := Text.isBoundary_iff.mp hstart
  obtain ⟨upTo, after, hcut', hupTo⟩ := Text.isBoundary_iff.mp hstop
  obtain ⟨gap, rfl, rfl⟩ := Text.exists_gap (htext.symm.trans hcut) (by omega)
  refine ⟨gap, behind, upTo, after, hcut, ha.symm, hcut', hupTo.symm, ?_⟩
  have hfirst : Text.dropBytes? f.span.start text = some behind := Text.dropBytes?_eq_some.mpr ⟨_, hcut, ha⟩
  have hlast : Text.dropBytes? f.span.stop text = some after := Text.dropBytes?_eq_some.mpr ⟨_, hcut', hupTo⟩
  rw [Text.byteLength_append] at ha
  rw [redactFrom, if_neg (by omega)]
  simp only [seek_eq htext, hfirst, hlast]
  rw [← ha, Nat.add_sub_cancel_left, Text.takeBytes_append]

/-- What redaction makes of findings that do not run backwards: it writes over those that it does not pass over. -/
lemma redactFrom_redacts (htext : text = before ++ rest) (hspan : ∀ f ∈ fs, f.span.start ≤ f.span.stop) :
    ∃ out, Redacts (Text.byteLength before) rest (written text (Text.byteLength before) fs) out ∧
      redactFrom text (Text.byteLength before) rest fs = out.flatMap chars := by
  induction fs generalizing before rest with
  | nil => exact ⟨_, .done _ _, by rw [flatMap_copy]; rfl⟩
  | cons f fs ih =>
    obtain ⟨hf, hspan⟩ := List.forall_mem_cons.mp hspan
    rw [written]
    split
    · next hpass =>
      rw [redactFrom_of_passesOver fs htext hpass]
      exact ih htext hspan
    · next hpass =>
      obtain ⟨gap, behind, upTo, after, hstart, hgap, hstop, hupTo, heq⟩ :=
        redactFrom_of_not_passesOver fs htext hpass
      -- what the finding covers lies between its two ends
      obtain ⟨matched, rfl, rfl⟩ := Text.exists_gap (hstart.symm.trans hstop) (by omega)
      obtain rfl : rest = gap ++ matched ++ after := by
        rw [htext, List.append_assoc] at hstart
        rw [List.append_cancel_left hstart, List.append_assoc]
      obtain ⟨out, hout, hrest⟩ := ih hstop hspan
      rw [← hupTo] at hout hrest
      have hmatched : f.span.stop = f.span.start + Text.byteLength matched := by
        rw [hupTo, Text.byteLength_append, hgap]
      rw [Text.byteLength_append] at hgap
      refine ⟨_, .next hgap hmatched hout, ?_⟩
      rw [heq, hrest, List.flatMap_append, flatMap_copy, List.flatMap_cons, chars, List.append_assoc]

end

/-- Findings that fit and lie side by side are all written over, and nothing else is. -/
lemma redact_redacts {text : List Char} {fs : List Finding} (hfits : ∀ f ∈ fs, f.span.Fits text)
    (hfs : fs.Pairwise fun a b => a.span.stop ≤ b.span.start) :
    ∃ out, Redacts 0 text fs out ∧ redact text fs = out.flatMap chars := by
  have hsorted : fs.Pairwise fun a b => decide (a.span.start ≤ b.span.start) = true := by
    refine hfs.imp_of_mem fun {a b} ha _ hab => ?_
    have := (hfits a ha).start_le_stop
    simp only [decide_eq_true_eq]
    omega
  rw [redact, List.mergeSort_of_pairwise hsorted]
  have htext : text = [] ++ text := rfl
  obtain ⟨out, hout, heq⟩ := redactFrom_redacts htext fun f hf => (hfits f hf).start_le_stop
  have hall : written text 0 fs = fs := written_eq_self hfits (by simp) hfs
  rw [Text.byteLength_nil, hall] at hout
  exact ⟨out, hout, heq⟩

end Finding

namespace Engine

open Detect

/-- Nothing of a match is copied exactly if what is kept covers all its bytes. -/
lemma no_copy_iff {text : List Char} {kept : List Finding} {out : List Piece} {m : Finding}
    (hout : Redacts 0 text kept out) (hkept : ∀ k ∈ kept, k.span.Fits text)
    (hm : m.span.Fits text) :
    (∀ i c, copied i c ∈ out → ¬ m.span.Covers i) ↔
      ∀ i, m.span.Covers i → ∃ k ∈ kept, k.span.Covers i := by
  constructor
  · intro h i hi
    by_contra hclear
    -- the character that byte `i` belongs to is copied
    have hlt : i < 0 + Text.byteLength text := by
      obtain ⟨a, b, c, rfl, hstart, hstop⟩ := hm
      have := hi.2
      simp only [Text.byteLength_append]
      omega
    obtain ⟨j, c, hmem, hj, hlast⟩ := exists_mem_copy (Nat.zero_le i) hlt
    refine h j c (hout.mem_copied_iff.mpr ⟨hmem, fun k hk hcovers => hclear ⟨k, hk, ?_⟩⟩) ?_
    · exact ((hkept k hk).covers_iff hmem hj hlast).mp hcovers
    · exact (hm.covers_iff hmem hj hlast).mpr hi
  · intro h i c hmem hi
    obtain ⟨k, hk, hcovers⟩ := h i hi
    exact (hout.mem_copied_iff.mp hmem).2 k hk hcovers

/-- A match that lies within everything that overlaps it and ranks no lower is covered by what is
kept. -/
lemma covered_of_within {found : List Finding} {m : Finding} (hm : m ∈ found)
    (h : ∀ k ∈ found, k.span.overlaps m.span = true → k.RanksBefore m →
      k.span.start ≤ m.span.start ∧ m.span.stop ≤ k.span.stop) :
    ∀ i, m.span.Covers i → ∃ k ∈ Finding.resolve found, k.span.Covers i := by
  intro i hi
  rcases Finding.mem_resolve_or hm with hkept | ⟨k, hk, hoverlaps, hbefore⟩
  · exact ⟨m, hkept, hi⟩
  · obtain ⟨hstart, hstop⟩ := h k (Finding.mem_of_mem_resolve hk) hoverlaps hbefore
    exact ⟨k, hk, hstart.trans hi.1, Nat.lt_of_lt_of_le hi.2 hstop⟩

/-- **What redaction leaves of personal data.** Under accepted rules that redact, the redacted text
of an input of acceptable length has a label in the place of every confirmed match that overlap
resolution keeps and is copied otherwise. Nothing of a confirmed match is copied exactly if the
matches that are kept cover all its bytes; that is so if it lies within each of those that overlap
it and rank no lower. -/
theorem redacted_input [Pattern.Dialect] [Pattern.Dialect.Fitting] {rules : Rules.RuleSet}
    (hv : rules.validate = .ok ()) (hredact : rules.scoring.inputGuard.redact = true) :
    ∃ e, ofRules rules = .ok e ∧
      ∀ (memo : Luhn.Memo) (stages : StageInputs) (context : RequestContext), memo.Sound →
        Text.byteLength stages.input.toList ≤ rules.scoring.maxTextBytes →
          ∃ out, (e.evaluate memo stages context).1.redactedInput
              = some (String.ofList (out.flatMap chars)) ∧
            Redacts 0 stages.input.toList (e.keptMatches stages.input.toList) out ∧
            ∀ m ∈ e.confirmedMatches stages.input.toList,
              ((∀ i c, copied i c ∈ out → ¬ m.span.Covers i) ↔
                ∀ i, m.span.Covers i → ∃ k ∈ e.keptMatches stages.input.toList, k.span.Covers i) ∧
              ((∀ k ∈ e.confirmedMatches stages.input.toList, k.span.overlaps m.span = true →
                  k.RanksBefore m → k.span.start ≤ m.span.start ∧ m.span.stop ≤ k.span.stop) →
                ∀ i c, copied i c ∈ out → ¬ m.span.Covers i) := by
  obtain ⟨e, hofRules, hconfig, hcompile⟩ := ofRules_of_validate hv
  rw [← hconfig] at hredact ⊢
  refine ⟨e, hofRules, fun memo stages context hm hlen => ?_⟩
  have hfits (f : Finding) (hf : f ∈ e.confirmedMatches stages.input.toList) :=
    fits_of_mem_confirmedFindings hcompile hf
  have hkept (f : Finding) (hf : f ∈ e.keptMatches stages.input.toList) :=
    hfits f (Finding.mem_of_mem_resolve hf)
  obtain ⟨out, hout, hchars⟩ := Finding.redact_redacts hkept
    (Finding.pairwise_resolve fun f hf => (hfits f hf).start_le_stop)
  obtain ⟨hredacted, -, -⟩ := e.evaluate_input hm stages context
  refine ⟨out, ?_, hout, fun m hmem => ?_⟩
  · rw [hredacted, assess_input hm hlen, InputGuard.redacted_assemble, if_pos hredact, hchars]
  · have hiff := no_copy_iff hout hkept (hfits m hmem)
    exact ⟨hiff, fun hwithin => hiff.mpr (covered_of_within hmem hwithin)⟩

/-- A match is written over though another one overlaps it, which ranks second. -/
theorem redacted_input_first :
    overlappingRules.validate = .ok () ∧ overlappingRules.scoring.inputGuard.redact = true ∧
      ∃ (e : Engine) (out : List Piece), ofRules overlappingRules = .ok e ∧
        e.confirmedMatches "abc".toList = [⟨.phone, ⟨0, 2⟩, 1, 1, "a"⟩, ⟨.email, ⟨1, 3⟩, 1, 0.5, "b"⟩] ∧
        (e.evaluate [] ⟨"abc", none, none⟩ (.anonymous "r")).1.redactedInput
          = some (String.ofList (out.flatMap chars)) ∧
        ∀ i c, copied i c ∈ out → ¬ Span.Covers ⟨0, 2⟩ i := by
  have hredact : overlappingRules.scoring.inputGuard.redact = true := rfl
  obtain ⟨e, he, h⟩ := redacted_input validate_overlappingRules hredact
  obtain ⟨out, hout, -, hclear⟩ :=
    h [] ⟨"abc", none, none⟩ (.anonymous "r") Luhn.Memo.sound_nil (by decide +kernel)
  have hfound := confirmedMatches_overlappingRules he
  rw [hfound] at hclear
  obtain ⟨-, hnone⟩ := hclear _ List.mem_cons_self
  exact ⟨validate_overlappingRules, hredact, e, out, he, hfound, hout, hnone (by decide +kernel)⟩

/-- The end of a match that overlaps one that ranks first is copied. -/
theorem copies_overlapped_match :
    overlappingRules.validate = .ok () ∧ overlappingRules.scoring.inputGuard.redact = true ∧
      ∃ e, ofRules overlappingRules = .ok e ∧
        (∃ m ∈ e.confirmedMatches "abc".toList, m.span.Covers 2) ∧
        (e.evaluate [] ⟨"abc", none, none⟩ (.anonymous "r")).1.redactedInput
          = some "[REDACTED_PHONE]c" := by
  obtain ⟨e, he, hconfig, hfound, hkept, -⟩ := ofRules_overlappingRules
  obtain ⟨hredacted, -, -⟩ :=
    e.evaluate_input Luhn.Memo.sound_nil ⟨"abc", none, none⟩ (.anonymous "r")
  have hlen : Text.byteLength "abc".toList ≤ e.config.maxTextBytes := by
    rw [hconfig]
    decide +kernel
  refine ⟨validate_overlappingRules, rfl, e, he, ?_, ?_⟩
  · rw [hfound]
    exact ⟨_, List.mem_cons_of_mem _ List.mem_cons_self, by decide, by decide⟩
  · rw [hredacted, assess_input Luhn.Memo.sound_nil hlen, InputGuard.redacted_assemble, hkept,
      hconfig]
    decide +kernel

end Engine

end Guardrail
