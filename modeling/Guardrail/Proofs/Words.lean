import Guardrail.Text.Words
import Guardrail.Proofs.Places
import Mathlib

/-!
The words of a text.

A text is divided into words and what stands between them: a word is a run of word characters that nothing makes
longer. So words lie side by side in the order of the text, each begins and ends between characters, and, whatever lower
case makes of its letters, no word holds a blank.
-/

namespace Guardrail

/-! ### Lower case -/

namespace Unicode.Case

/-- Blank is no letter's lower case. -/
lemma mapped_ne_blank {rows : List (ℕ × ℕ × ℕ × Int)} (hrows : ∀ row ∈ rows, 32 < (row.1 : Int) + row.2.2.2) {n : ℕ}
    (hn : n ≠ 32) : mapped n rows ≠ 32 := by
  induction rows with
  | nil => exact hn
  | cons row rows ih =>
    obtain ⟨first, last, step, shift⟩ := row
    obtain ⟨hrow, hrows⟩ := List.forall_mem_cons.mp hrows
    rw [mapped]
    split
    · simp only at hrow
      omega
    · exact ih hrows

lemma blank_notMem_lower {c : Char} (hc : c ≠ ' ') : ' ' ∉ lower c := by
  have hne : c.toNat ≠ 32 := fun h => hc (Char.toNat_inj.mp h)
  unfold lower
  split
  · next hascii =>
    have hall : ∀ k < 128, Char.ofNat k ≠ ' ' → ' ' ∉ [(Char.ofNat k).toLower] := by decide +kernel
    simpa using hall c.toNat hascii (by simpa using hc)
  · split
    · decide
    · have hrows : ∀ row ∈ lowerRows, 32 < (row.1 : Int) + row.2.2.2 := by decide +kernel
      intro hmem
      have heq : (Char.ofNat (mapped c.toNat lowerRows)).toNat = 32 :=
        congrArg Char.toNat (List.mem_singleton.mp hmem).symm
      rw [Char.toNat_ofNat] at heq
      split at heq
      · exact mapped_ne_blank hrows hne heq
      · cases heq

lemma blank_notMem_lowerFrom {cs : List Char} (h : ' ' ∉ cs) (before : List Char) : ' ' ∉ lowerFrom before cs := by
  induction cs generalizing before with
  | nil => exact h
  | cons c cs ih =>
    obtain ⟨hc, hcs⟩ := not_or.mp (mt List.mem_cons.mpr h)
    rw [lowerFrom]
    split
    · refine fun hmem => (List.mem_cons.mp hmem).elim (fun heq => ?_) (ih hcs _)
      split at heq <;> revert heq <;> decide
    · refine fun hmem => (List.mem_append.mp hmem).elim (blank_notMem_lower (Ne.symm hc)) (ih hcs _)

end Unicode.Case

namespace Text

open Unicode (isWord)

/-! ### Words and gaps -/

/-- A text from the place `offset` on, divided into words and what stands between them. -/
inductive Divides : ℕ → List Char → List Word → Prop where
  | done {offset : ℕ} {gap : List Char} (hgap : ∀ c ∈ gap, isWord c = false) : Divides offset gap []
  | next {offset : ℕ} {gap run rest : List Char} {ws : List Word} (hgap : ∀ c ∈ gap, isWord c = false)
      (hne : run ≠ []) (hrun : ∀ c ∈ run, isWord c = true) (hedge : ∀ c ∈ rest.head?, isWord c = false)
      (hrest : Divides (offset + byteLength gap + byteLength run) rest ws) :
      Divides offset (gap ++ run ++ rest) (⟨offset + byteLength gap, offset + byteLength gap + byteLength run,
        Unicode.Case.toLower run⟩ :: ws)

namespace Divides

variable {offset : ℕ} {cs : List Char} {ws : List Word}

lemma cons {c : Char} (hc : isWord c = false) (h : Divides (offset + c.utf8Size) cs ws) :
    Divides offset (c :: cs) ws := by
  generalize hplace : offset + c.utf8Size = place at h
  cases h with
  | done hgap => exact .done (List.forall_mem_cons.mpr ⟨hc, hgap⟩)
  | @next _ gap run rest ws hgap hne hrun hedge hrest =>
    have hlength : place + byteLength gap = offset + byteLength (c :: gap) := by
      rw [byteLength_cons]
      omega
    rw [hlength] at hrest ⊢
    exact .next (List.forall_mem_cons.mpr ⟨hc, hgap⟩) hne hrun hedge hrest

lemma bounds (h : Divides offset cs ws) : ∀ w ∈ ws, offset ≤ w.start ∧ w.start ≤ w.stop := by
  induction h with
  | done => simp
  | next _ _ _ _ _ ih =>
    refine List.forall_mem_cons.mpr ⟨⟨Nat.le_add_right .., Nat.le_add_right ..⟩, fun w hw => ?_⟩
    have := ih w hw
    omega

/-- Words lie side by side in the order of the text. -/
lemma pairwise (h : Divides offset cs ws) : ws.Pairwise fun v w => v.stop ≤ w.start := by
  induction h with
  | done => exact .nil
  | next _ _ _ _ hrest ih => exact List.pairwise_cons.mpr ⟨fun w hw => (hrest.bounds w hw).1, ih⟩

lemma ordered (h : Divides offset cs ws) : ws.Pairwise fun v w => v.start ≤ w.start ∧ v.stop ≤ w.stop := by
  refine h.pairwise.imp_of_mem fun {v w} hv hw hvw => ?_
  have hv := (h.bounds v hv).2
  have hw := (h.bounds w hw).2
  omega

lemma fits {text before : List Char} (h : Divides (byteLength before) cs ws) (htext : text = before ++ cs) :
    ∀ w ∈ ws, (Span.mk w.start w.stop).Fits text := by
  generalize hoffset : byteLength before = offset at h
  induction h generalizing before with
  | done => simp
  | @next offset gap run rest ws _ _ _ _ _ ih =>
    have hbehind : text = before ++ gap ++ run ++ rest := by simp [htext]
    have hplace : byteLength (before ++ gap ++ run) = offset + byteLength gap + byteLength run := by
      rw [byteLength_append, byteLength_append, hoffset]
    refine List.forall_mem_cons.mpr ⟨⟨before ++ gap, run, rest, hbehind, ?_, rfl⟩, ih hbehind hplace⟩
    rw [byteLength_append, hoffset]

/-- No word holds a blank. -/
lemma blank_notMem_letters (h : Divides offset cs ws) : ∀ w ∈ ws, ' ' ∉ w.letters := by
  induction h with
  | done => simp
  | next _ _ hrun _ _ ih =>
    refine List.forall_mem_cons.mpr ⟨Unicode.Case.blank_notMem_lowerFrom (fun hmem => ?_) [], ih⟩
    exact absurd (hrun ' ' hmem) (by decide)

end Divides

/-- The scan divides what is left of a text. With a word begun, the characters that belong to it come first. -/
lemma wordsFrom_divides (pos since : ℕ) (done : List Word) (cs : List Char) :
    (∃ ws, Divides pos cs ws ∧ wordsFrom pos [] since done cs = done.reverse ++ ws) ∧
    ∀ pending ≠ [], ∃ run rest ws, cs = run ++ rest ∧ (∀ c ∈ run, isWord c = true) ∧
      (∀ c ∈ rest.head?, isWord c = false) ∧ Divides (pos + byteLength run) rest ws ∧
      wordsFrom pos pending since done cs = done.reverse ++
        ⟨since, pos + byteLength run, Unicode.Case.toLower (pending.reverse ++ run)⟩ :: ws := by
  -- both at once: between two words, and within a word that began at `since`
  induction cs generalizing pos since done with
  | nil =>
    refine ⟨⟨[], .done (by simp), by simp [wordsFrom]⟩, fun pending hne => ?_⟩
    exact ⟨[], [], [], rfl, by simp, by simp, .done (by simp), by simp [wordsFrom, hne]⟩
  | cons c cs ih =>
    have hplace (run : List Char) : pos + c.utf8Size + byteLength run = pos + byteLength (c :: run) := by
      rw [byteLength_cons, Nat.add_assoc]
    cases hc : isWord c with
    | true =>
      constructor
      · obtain ⟨-, hbegun⟩ := ih (pos + c.utf8Size) pos done
        obtain ⟨run, rest, ws, rfl, hrun, hedge, hrest, heq⟩ := hbegun [c] (by simp)
        rw [hplace] at hrest heq
        have hword : ∀ d ∈ c :: run, isWord d = true := List.forall_mem_cons.mpr ⟨hc, hrun⟩
        have hdivides : Divides pos ([] ++ c :: run ++ rest) _ := .next (by simp) (by simp) hword hedge hrest
        exact ⟨_, hdivides, by simpa [wordsFrom, hc] using heq⟩
      · intro pending hne
        obtain ⟨-, hbegun⟩ := ih (pos + c.utf8Size) since done
        obtain ⟨run, rest, ws, rfl, hrun, hedge, hrest, heq⟩ := hbegun (c :: pending) (by simp)
        rw [hplace] at hrest heq
        refine ⟨c :: run, rest, ws, rfl, List.forall_mem_cons.mpr ⟨hc, hrun⟩, hedge, hrest, ?_⟩
        simpa [wordsFrom, hc, hne] using heq
    | false =>
      constructor
      · obtain ⟨⟨ws, hws, heq⟩, -⟩ := ih (pos + c.utf8Size) since done
        exact ⟨ws, .cons hc hws, by simpa [wordsFrom, hc] using heq⟩
      · intro pending hne
        obtain ⟨⟨ws, hws, heq⟩, -⟩ :=
          ih (pos + c.utf8Size) since (⟨since, pos, Unicode.Case.toLower pending.reverse⟩ :: done)
        exact ⟨[], c :: cs, ws, rfl, by simp, by simpa using hc, .cons hc hws, by simpa [wordsFrom, hc, hne] using heq⟩

/-- The words of a text are what it is divided into. -/
lemma words_divides (cs : List Char) : Divides 0 cs (words cs) := by
  obtain ⟨⟨ws, hws, heq⟩, -⟩ := wordsFrom_divides 0 0 [] cs
  obtain rfl : words cs = ws := heq
  exact hws

lemma words_fits {cs : List Char} : ∀ w ∈ words cs, (Span.mk w.start w.stop).Fits cs := by
  have hdivides : Divides (byteLength []) cs (words cs) := words_divides cs
  exact hdivides.fits rfl

end Text

end Guardrail
