import Guardrail.Proofs.Matches
import Guardrail.Proofs.Redaction

/-!
Redaction of any findings.

Findings may overlap, lie outside the text, end inside a character or run backwards. Whatever they are, every part of
the text that redaction copies can be cut out of it: the part is in order and ends between characters. As long as no
finding runs backwards, the result is the text with labels over some of the findings, which lie side by side; of what
the detector of personal data reports on the text itself, labels are written over all.
-/

namespace Guardrail

/-- Findings that redaction writes over lie side by side, in the order of the text. -/
lemma Redacts.pairwise {offset : ℕ} {rest : List Char} {fs : List Finding} {out : List Piece}
    (h : Redacts offset rest fs out) : fs.Pairwise fun a b => a.span.stop ≤ b.span.start := by
  induction h with
  | done => exact .nil
  | next _ _ hrest ih => exact List.pairwise_cons.mpr ⟨hrest.le_start, ih⟩

namespace Finding

/-! ### Parts that are cut out -/

/-- Redaction from the place `cursor` on, put together from parts that are cut out of the text by their two ends. A
finding is passed over if it begins before that place or an end of it is no place of the text. There is no result if a
part runs backwards, over the end of the text or through a character. -/
def cutFrom? (text : List Char) (cursor : ℕ) : List Finding → Option (List Char)
  | [] => Text.slice? cursor (Text.byteLength text) text
  | f :: fs =>
    if PassesOver text cursor f then cutFrom? text cursor fs
    else do
      let gap ← Text.slice? cursor f.span.start text
      let after ← cutFrom? text f.span.stop fs
      pure (gap ++ f.category.label.toList ++ after)

/-- Every part can be cut out, and together they are what redaction gives. -/
lemma cutFrom?_eq {text before rest : List Char} (htext : text = before ++ rest) (fs : List Finding) :
    cutFrom? text (Text.byteLength before) fs = some (redactFrom text (Text.byteLength before) rest fs) := by
  induction fs generalizing before rest with
  | nil =>
    have hslice := Text.slice?_append before rest []
    rw [List.append_nil, ← htext] at hslice
    rw [cutFrom?, hslice, redactFrom]
  | cons f fs ih =>
    rw [cutFrom?]
    split
    · next hpass => rw [ih htext, redactFrom_of_passesOver fs htext hpass]
    · next hpass =>
      obtain ⟨gap, behind, upTo, after, hstart, hgap, hstop, hupTo, heq⟩ :=
        redactFrom_of_not_passesOver fs htext hpass
      have hslice : Text.slice? (Text.byteLength before) f.span.start text = some gap := by
        rw [hgap, hstart, Text.slice?_append]
      rw [heq, hslice, hupTo, ih hstop]
      rfl

/-! ### Any findings -/

/-- **Redaction of any findings.** Whatever the findings are, every part of the text that is copied can be cut out of
it. As long as none of them runs backwards, there are some of them, side by side in the order of the text, such that
the result is the text with a label in the place of each. Of what the detector of personal data reports on the text,
under rules whose matches fit it and whatever it remembers, these are all findings. -/
theorem redact_writes_labels (text : List Char) (fs : List Finding) :
    cutFrom? text 0 (fs.mergeSort fun a b => a.span.start ≤ b.span.start) = some (redact text fs) ∧
    ((∀ f ∈ fs, f.span.start ≤ f.span.stop) → ∃ chosen out, chosen.Subperm fs ∧
      (chosen.Pairwise fun a b => a.span.stop ≤ b.span.start) ∧
      Redacts 0 text chosen out ∧ redact text fs = out.flatMap Piece.chars) ∧
    ∀ (rules : List Rules.Compiled) (limit : ℕ) (memo : Luhn.Memo),
      (∀ r ∈ rules, ∀ s ∈ r.find text, s.Fits text) → (Detect.pii rules limit memo text).1 = .ok fs →
        ∃ out, Redacts 0 text fs out ∧ redact text fs = out.flatMap Piece.chars := by
  have htext : text = [] ++ text := rfl
  refine ⟨cutFrom?_eq htext _, fun hspan => ?_, fun rules limit memo hrules hfound => ?_⟩
  · have hperm := List.mergeSort_perm fs fun a b => a.span.start ≤ b.span.start
    obtain ⟨out, hout, heq⟩ := redactFrom_redacts htext fun f hf => hspan f (hperm.mem_iff.mp hf)
    exact ⟨_, out, (written_sublist text 0 _).subperm.trans hperm.subperm, hout.pairwise, hout, heq⟩
  · have hfits (f : Finding) (hf : f ∈ (Detect.candidates text memo rules).1) : f.span.Fits text := by
      obtain ⟨r, hr, s, hs, rfl⟩ := Detect.matchedBy_of_candidates hf
      exact hrules r hr s hs
    rw [Detect.pii_ok hfound]
    exact redact_redacts (fun f hf => hfits f (mem_of_mem_resolve hf))
      (pairwise_resolve fun f hf => (hfits f hf).start_le_stop)

/-- A rule for one letter. -/
def letterRule : Rules.Compiled :=
  ⟨"b", .phone, 1, 1, (Pattern.Program.ofRegex (.one (.single 'b'))).occurrences⟩

/-- Of five findings on a text one begins inside a character and one ends behind the text. -/
theorem redact_writes_labels_scattered :
    let text := "né: ab".toList
    let found : List Finding := [⟨.phone, ⟨2, 5⟩, 1, 1, "a"⟩, ⟨.ssn, ⟨6, 6⟩, 1, 1, "b"⟩, ⟨.email, ⟨1, 3⟩, 1, 1, "c"⟩,
      ⟨.iban, ⟨5, 9⟩, 1, 1, "d"⟩, ⟨.phone, ⟨5, 6⟩, 1, 1, "e"⟩]
    (∀ f ∈ found, f.span.start ≤ f.span.stop) ∧
      (∃ chosen out, chosen.Subperm found ∧ (chosen.Pairwise fun a b => a.span.stop ≤ b.span.start) ∧
        Redacts 0 text chosen out ∧ redact text found = out.flatMap Piece.chars) ∧
      (∀ r ∈ [letterRule], ∀ s ∈ r.find text, s.Fits text) ∧
      (Detect.pii [letterRule] 7 [] text).1 = .ok [letterRule.finding ⟨6, 7⟩] ∧
      ∃ out, Redacts 0 text [letterRule.finding ⟨6, 7⟩] out ∧
        redact text [letterRule.finding ⟨6, 7⟩] = out.flatMap Piece.chars := by
  intro text found
  have hspan : ∀ f ∈ found, f.span.start ≤ f.span.stop := by decide
  have hrules : ∀ r ∈ [letterRule], ∀ s ∈ r.find text, s.Fits text :=
    List.forall_mem_singleton.mpr fun _ hs => Pattern.Program.occurrences_fits hs
  have hfound : (Detect.pii [letterRule] 7 [] text).1 = .ok [letterRule.finding ⟨6, 7⟩] := by decide +kernel
  obtain ⟨-, hchosen, -⟩ := redact_writes_labels text found
  obtain ⟨-, -, hall⟩ := redact_writes_labels text [letterRule.finding ⟨6, 7⟩]
  exact ⟨hspan, hchosen hspan, hrules, hfound, hall [letterRule] 7 [] hrules hfound⟩

end Finding

end Guardrail
