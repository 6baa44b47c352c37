import Guardrail.Detect.Leak
import Guardrail.Proofs.Exact
import Guardrail.Proofs.Matches
import Guardrail.Proofs.Words

/-!
Echoes of a prompt.

A text echoes a prompt where a run of its words is a run of words of the prompt. All such runs make one finding, over
the words of the first to those of the last; how sure it is tells the share of the phrases of the prompt that the text
repeats, where a phrase is a run of words written with blanks between them.
-/

namespace Guardrail

namespace Text

/-! ### Runs of neighbours -/

section

variable {α : Type} {n : ℕ} {xs w : List α}

lemma mem_windows (hn : 1 ≤ n) : w ∈ windows n xs ↔ w.length = n ∧ w <:+: xs := by
  induction xs with
  | nil =>
    simp only [windows, List.not_mem_nil, List.infix_nil, false_iff, not_and]
    rintro hlength rfl
    simp at hlength
    omega
  | cons x xs ih =>
    have hfirst : w.length = n ∧ w <+: x :: xs ↔ w.length = n ∧ w = (x :: xs).take n := by
      refine and_congr_right fun hlength => ?_
      rw [List.prefix_iff_eq_take, hlength]
    simp only [windows]
    split
    · next hfull =>
      rw [List.mem_cons, ih, List.infix_cons_iff, and_or_left, hfirst]
      exact or_congr_left ⟨fun h => ⟨h ▸ hfull, h⟩, And.right⟩
    · next hshort =>
      refine iff_of_false List.not_mem_nil fun ⟨hlength, hpart⟩ => ?_
      have := hpart.length_le
      rw [List.length_take] at hshort
      omega

lemma ne_nil_of_mem_windows (hn : 1 ≤ n) (h : w ∈ windows n xs) : w ≠ [] := by
  rintro rfl
  have hlength : 0 = n := ((mem_windows hn).mp h).1
  omega

variable {f : α → ℕ}

/-- Runs begin in the order of the list. -/
lemma pairwise_head_windows (hn : 1 ≤ n) (hxs : xs.Pairwise fun x y => f x ≤ f y) :
    (windows n xs).Pairwise fun v w => ∀ x ∈ v.head?, ∀ y ∈ w, f x ≤ f y := by
  induction xs with
  | nil => exact .nil
  | cons x xs ih =>
    obtain ⟨hx, hxs⟩ := List.pairwise_cons.mp hxs
    simp only [windows]
    split
    · refine List.pairwise_cons.mpr ⟨fun w hw z hz y hy => ?_, ih hxs⟩
      obtain ⟨k, rfl⟩ := Nat.exists_eq_add_of_le' hn
      obtain rfl : x = z := Option.some.inj hz
      exact hx y (((mem_windows hn).mp hw).2.subset hy)
    · exact .nil

/-- Runs end in the order of the list. -/
lemma pairwise_getLast_windows (hn : 1 ≤ n) (hxs : xs.Pairwise fun x y => f x ≤ f y) :
    (windows n xs).Pairwise fun v w => ∀ y ∈ w.getLast?, ∀ x ∈ v, f x ≤ f y := by
  induction xs with
  | nil => exact .nil
  | cons x xs ih =>
    simp only [windows]
    split
    · refine List.pairwise_cons.mpr ⟨fun w hw y hy z hz => ?_, ih (List.pairwise_cons.mp hxs).2⟩
      obtain ⟨hlength, before, after, rfl⟩ := (mem_windows hn).mp hw
      obtain ⟨u, rfl⟩ : ∃ u, w = u ++ [y] := ⟨_, (List.dropLast_append_getLast? y hy).symm⟩
      -- the first run ends before the last element of any other
      have hsplit : x :: (before ++ (u ++ [y]) ++ after) = (x :: before ++ u) ++ (y :: after) := by simp
      rw [hsplit] at hxs hz
      rw [List.length_append, List.length_singleton] at hlength
      rw [List.take_append_of_le_length (by simp; omega)] at hz
      exact (List.pairwise_append.mp hxs).2.2 z (List.mem_of_mem_take hz) y List.mem_cons_self
    · exact .nil

end

/-! ### Phrases -/

/-- The words of a text in lower case. -/
def letters (cs : List Char) : List (List Char) := (words cs).map (·.letters)

/-- A run of words as one text, with blanks between the words. -/
def phrase (run : List (List Char)) : List Char := [' '].intercalate run

/-- The phrases of `n` words that a text has. -/
def phrases (n : ℕ) (cs : List Char) : Finset (List Char) := (windows n (letters cs)).toFinset.image phrase

lemma blank_notMem_letters {cs w : List Char} (h : w ∈ letters cs) : ' ' ∉ w := by
  obtain ⟨v, hv, rfl⟩ := List.mem_map.mp h
  exact (words_divides cs).blank_notMem_letters v hv

/-- A phrase tells the words that it is made of. -/
lemma splitOn_phrase {n : ℕ} (hn : 1 ≤ n) {cs : List Char} {run : List (List Char)}
    (h : run ∈ windows n (letters cs)) : (phrase run).splitOn ' ' = run := by
  have hpart := ((mem_windows hn).mp h).2
  exact List.splitOn_intercalate ' ' (fun w hw => blank_notMem_letters (hpart.subset hw)) (ne_nil_of_mem_windows hn h)

/-- Different runs of one length make different phrases. -/
lemma injOn_phrase {n : ℕ} (hn : 1 ≤ n) (a b : List Char) : Set.InjOn phrase
    ((windows n (letters a)).toFinset ∪ (windows n (letters b)).toFinset : Set (List (List Char))) := by
  have hleft : Set.LeftInvOn (fun p => p.splitOn ' ') phrase
      ((windows n (letters a)).toFinset ∪ (windows n (letters b)).toFinset : Set (List (List Char))) := by
    rintro run (h | h) <;> exact splitOn_phrase hn (by simpa using h)
  exact hleft.injOn

lemma card_phrases {n : ℕ} (hn : 1 ≤ n) (cs : List Char) :
    (phrases n cs).card = (windows n (letters cs)).toFinset.card :=
  Finset.card_image_of_injOn ((injOn_phrase hn cs cs).mono Set.subset_union_left)

lemma card_phrases_inter {n : ℕ} (hn : 1 ≤ n) (a b : List Char) : (phrases n a ∩ phrases n b).card
    = ((windows n (letters a)).toFinset ∩ (windows n (letters b)).toFinset).card := by
  have hinj := injOn_phrase hn a b
  rw [phrases, phrases, ← Finset.image_inter_of_injOn _ _ hinj]
  refine Finset.card_image_of_injOn (hinj.mono fun run hrun => .inl ?_)
  exact Finset.mem_coe.mpr (Finset.mem_of_mem_inter_left hrun)

lemma nodup_eraseDups {α : Type} [BEq α] [LawfulBEq α] (xs : List α) : xs.eraseDups.Nodup := by
  induction hlength : xs.length using Nat.strong_induction_on generalizing xs with
  | h k ih =>
    cases xs with
    | nil => exact .nil
    | cons x xs =>
      subst hlength
      have hle := List.length_filter_le (fun b => !b == x) xs
      rw [List.eraseDups_cons, List.nodup_cons]
      refine ⟨by simp, ih _ ?_ _ rfl⟩
      rw [List.length_cons]
      omega

/-- Repetitions are counted once. -/
lemma length_eraseDups {α : Type} [DecidableEq α] [BEq α] [LawfulBEq α] (xs : List α) :
    xs.eraseDups.length = xs.toFinset.card := by
  rw [← List.toFinset_card_of_nodup (nodup_eraseDups xs)]
  congr 1
  ext x
  simp

end Text

namespace Detect

/-! ### Runs that a text echoes -/

/-- A run of `n` words of a text that is a run of words of a prompt. -/
structure Echo (n : ℕ) (prompt text : List Char) (run : List Text.Word) : Prop where
  length : run.length = n
  inText : run <:+: Text.words text
  inPrompt : run.map (·.letters) <:+: Text.letters prompt

section

variable {n : ℕ} {prompt text : List Char}

lemma mem_promptRuns {run : List (List Char)} :
    run ∈ promptRuns n prompt ↔ run ∈ Text.windows n (Text.letters prompt) := List.mem_eraseDups

lemma mem_echoes (hn : 1 ≤ n) {run : List Text.Word} :
    run ∈ echoes n (promptRuns n prompt) text ↔ Echo n prompt text run := by
  rw [echoes, List.mem_filter, List.contains_iff_mem, mem_promptRuns, Text.mem_windows hn, Text.mem_windows hn,
    List.length_map]
  constructor
  · rintro ⟨⟨hlength, htext⟩, -, hprompt⟩
    exact ⟨hlength, htext, hprompt⟩
  · rintro ⟨hlength, htext, hprompt⟩
    exact ⟨⟨hlength, htext⟩, hlength, hprompt⟩

/-- A run of words of the prompt that the text has too is echoed. -/
lemma exists_echo {run : List (List Char)} (hlength : run.length = n) (hprompt : run <:+: Text.letters prompt)
    (htext : run <:+: Text.letters text) : ∃ ws, Echo n prompt text ws ∧ ws.map (·.letters) = run := by
  obtain ⟨before, after, hcut⟩ := htext
  obtain ⟨upTo, ws₃, hwords, hupTo, -⟩ := List.map_eq_append_iff.mp hcut.symm
  obtain ⟨ws₁, ws₂, rfl, -, rfl⟩ := List.map_eq_append_iff.mp hupTo
  exact ⟨ws₂, ⟨by simpa using hlength, ⟨ws₁, ws₃, hwords.symm⟩, hprompt⟩, rfl⟩

lemma length_promptRuns (hn : 1 ≤ n) : (promptRuns n prompt).length = (Text.phrases n prompt).card := by
  rw [Text.card_phrases hn]
  exact Text.length_eraseDups _

/-- The runs that are echoed, each counted once, are the phrases that prompt and text share. -/
lemma length_echoed (hn : 1 ≤ n) :
    ((echoes n (promptRuns n prompt) text).map fun run => run.map (·.letters)).eraseDups.length
      = (Text.phrases n prompt ∩ Text.phrases n text).card := by
  rw [Text.length_eraseDups, Text.card_phrases_inter hn]
  congr 1
  ext run
  simp only [List.mem_toFinset, Finset.mem_inter, List.mem_map, mem_echoes hn, Text.mem_windows hn]
  constructor
  · rintro ⟨ws, hecho, rfl⟩
    have hlength : (ws.map (·.letters)).length = n := by rw [List.length_map, hecho.length]
    exact ⟨⟨hlength, hecho.inPrompt⟩, hlength, hecho.inText.map _⟩
  · rintro ⟨⟨hlength, hprompt⟩, -, htext⟩
    exact exists_echo hlength hprompt htext

section

variable {ws : List Text.Word}

/-- Of some runs the first word of the first begins first. -/
lemma isLeast_start (hn : 1 ≤ n) (hws : ws.Pairwise fun v w => v.start ≤ w.start) {first : Text.Word}
    {more : List Text.Word} {tail : List (List Text.Word)}
    (hfound : ((first :: more) :: tail).Sublist (Text.windows n ws)) :
    IsLeast {i | ∃ run ∈ (first :: more) :: tail, ∃ w ∈ run, w.start = i} first.start := by
  refine ⟨⟨_, List.mem_cons_self, first, List.mem_cons_self, rfl⟩, ?_⟩
  rintro i ⟨run, hmem, w, hw, rfl⟩
  rcases List.mem_cons.mp hmem with rfl | hmem
  · have hpart := ((Text.mem_windows hn).mp (hfound.subset List.mem_cons_self)).2
    have hwords := hws.sublist hpart.sublist
    rcases List.mem_cons.mp hw with rfl | hw
    · exact Nat.le_refl _
    · exact (List.pairwise_cons.mp hwords).1 w hw
  · have hheads := (Text.pairwise_head_windows hn hws).sublist hfound
    exact (List.pairwise_cons.mp hheads).1 run hmem first rfl w hw

/-- Of some runs the last word of the last ends last. -/
lemma isGreatest_stop (hn : 1 ≤ n) (hws : ws.Pairwise fun v w => v.stop ≤ w.stop) {final : Text.Word}
    {less : List Text.Word} {init : List (List Text.Word)}
    (hfound : (init ++ [less ++ [final]]).Sublist (Text.windows n ws)) :
    IsGreatest {i | ∃ run ∈ init ++ [less ++ [final]], ∃ w ∈ run, w.stop = i} final.stop := by
  have hlast : less ++ [final] ∈ init ++ [less ++ [final]] := List.mem_append_right init (List.mem_singleton_self _)
  refine ⟨⟨_, hlast, final, by simp, rfl⟩, ?_⟩
  rintro i ⟨run, hmem, w, hw, rfl⟩
  rcases List.mem_append.mp hmem with hmem | hmem
  · have hlasts := (Text.pairwise_getLast_windows hn hws).sublist hfound
    exact (List.pairwise_append.mp hlasts).2.2 run hmem _ (List.mem_singleton_self _) final (by simp) w hw
  · obtain rfl := List.mem_singleton.mp hmem
    have hpart := ((Text.mem_windows hn).mp (hfound.subset hlast)).2
    have hwords := hws.sublist hpart.sublist
    rcases List.mem_append.mp hw with hw | hw
    · exact (List.pairwise_append.mp hwords).2.2 w hw final (List.mem_singleton_self _)
    · exact (List.mem_singleton.mp hw).symm ▸ Nat.le_refl _

/-- The span of some runs goes from the first of their words to the last. -/
lemma echoSpan_eq (hn : 1 ≤ n) (hstart : ws.Pairwise fun v w => v.start ≤ w.start)
    (hstop : ws.Pairwise fun v w => v.stop ≤ w.stop) {found : List (List Text.Word)}
    (hfound : found.Sublist (Text.windows n ws)) (hne : found ≠ []) :
    ∃ span, echoSpan found = some span ∧ IsLeast {i | ∃ run ∈ found, ∃ w ∈ run, w.start = i} span.start ∧
      IsGreatest {i | ∃ run ∈ found, ∃ w ∈ run, w.stop = i} span.stop := by
  have hrun (run : List Text.Word) (h : run ∈ found) : run ≠ [] :=
    Text.ne_nil_of_mem_windows hn (hfound.subset h)
  obtain ⟨head, tail, hhead⟩ := List.exists_cons_of_ne_nil hne
  obtain ⟨first, more, rfl⟩ := List.exists_cons_of_ne_nil (hrun head (by simp [hhead]))
  obtain ⟨init, last, hlast⟩ : ∃ init last, found = init ++ [last] :=
    ⟨_, _, (List.dropLast_append_getLast hne).symm⟩
  obtain ⟨less, final, rfl⟩ : ∃ less final, last = less ++ [final] :=
    ⟨_, _, (List.dropLast_append_getLast (hrun last (by simp [hlast]))).symm⟩
  have hfirst : found.head? >>= List.head? = some first := by rw [hhead]; rfl
  have hfinal : found.getLast? >>= List.getLast? = some final := by
    rw [hlast, List.getLast?_concat]
    exact List.getLast?_concat
  refine ⟨⟨first.start, final.stop⟩, by simp only [echoSpan, hfirst, hfinal], ?_, ?_⟩
  · rw [hhead] at hfound ⊢
    exact isLeast_start hn hstart hfound
  · rw [hlast] at hfound ⊢
    exact isGreatest_stop hn hstop hfound

end

/-- What the detector reports: nothing, or one finding over all runs that are echoed. -/
lemma promptEcho_eq (hn : 1 ≤ n) {limit : ℕ} (hlen : Text.byteLength text ≤ limit) :
    (∀ run, ¬ Echo n prompt text run) ∧ promptEcho prompt n limit text = .ok [] ∨
    ∃ span, IsLeast {i | ∃ run, Echo n prompt text run ∧ ∃ w ∈ run, w.start = i} span.start ∧
      IsGreatest {i | ∃ run, Echo n prompt text run ∧ ∃ w ∈ run, w.stop = i} span.stop ∧
      promptEcho prompt n limit text = .ok [.make .systemPromptLeak span
        (echoConfidence (Text.phrases n prompt ∩ Text.phrases n text).card (Text.phrases n prompt).card) 1
        "leak.system_prompt_echo"] := by
  by_cases hnone : echoes n (promptRuns n prompt) text = []
  · refine .inl ⟨fun run hecho => ?_, ?_⟩
    · exact List.ne_nil_of_mem ((mem_echoes hn).mpr hecho) hnone
    · simp only [promptEcho, max_eq_left hn, checkSize_ok hlen, hnone]
      rfl
  · have hordered := (Text.words_divides text).ordered
    have hfound : (echoes n (promptRuns n prompt) text).Sublist (Text.windows n (Text.words text)) :=
      List.filter_sublist
    obtain ⟨span, hspan, hleast, hgreatest⟩ :=
      echoSpan_eq hn (hordered.imp And.left) (hordered.imp And.right) hfound hnone
    simp only [mem_echoes hn] at hleast hgreatest
    refine .inr ⟨span, hleast, hgreatest, ?_⟩
    rw [← length_echoed hn, ← length_promptRuns hn]
    simp only [promptEcho, max_eq_left hn, checkSize_ok hlen, hspan]
    rfl

end

/-! ### How sure an echo is -/

/-- How sure the detector is of what a text echoes of a prompt: `3 / 5`, and for all phrases of the prompt `2 / 5`
more. -/
def certainty {ν : Type} [Scalar ν] (n : ℕ) (prompt text : List Char) : ν :=
  Scalar.clampUnit (echoConfidence (Text.phrases n prompt ∩ Text.phrases n text).card (Text.phrases n prompt).card)

section

variable {n : ℕ} {prompt text : List Char}

/-- Without rounding, no bound is met before the share itself is at its end. -/
lemma certainty_exact : (certainty n prompt text : ℚ)
    = 3 / 5 + 2 / 5 * ((Text.phrases n prompt ∩ Text.phrases n text).card / (Text.phrases n prompt).card) := by
  have hle : ((Text.phrases n prompt ∩ Text.phrases n text).card : ℚ) / (Text.phrases n prompt).card ≤ 1 :=
    div_le_one_of_le₀ (mod_cast Finset.card_le_card Finset.inter_subset_left) (Nat.cast_nonneg _)
  have hnonneg : (0 : ℚ) ≤ (Text.phrases n prompt ∩ Text.phrases n text).card / (Text.phrases n prompt).card := by
    positivity
  have hconfidence (matched total : ℕ) : (echoConfidence matched total : ℚ)
      = 6 / 10 ^ 1 + 4 / 10 ^ 1 * (matched / total) := rfl
  rw [certainty, Scalar.clampUnit_exact, hconfidence, inf_eq_left.mpr (by linarith), sup_eq_right.mpr (by linarith)]
  norm_num

lemma phrases_inter_nonempty {run : List (List Char)} (hn : 1 ≤ n) (hlength : run.length = n)
    (hprompt : run <:+: Text.letters prompt) (htext : run <:+: Text.letters text) :
    (Text.phrases n prompt ∩ Text.phrases n text).Nonempty := by
  have hmem {cs : List Char} (h : run <:+: Text.letters cs) : Text.phrase run ∈ Text.phrases n cs :=
    Finset.mem_image_of_mem _ (List.mem_toFinset.mpr ((Text.mem_windows hn).mpr ⟨hlength, h⟩))
  exact ⟨Text.phrase run, Finset.mem_inter.mpr ⟨hmem hprompt, hmem htext⟩⟩

lemma phrases_subset (hn : 1 ≤ n) (h : Text.letters prompt <:+: Text.letters text) :
    Text.phrases n prompt ⊆ Text.phrases n text := by
  refine Finset.image_subset_image fun run hrun => ?_
  rw [List.mem_toFinset, Text.mem_windows hn] at hrun ⊢
  exact ⟨hrun.1, hrun.2.trans h⟩

/-- **What is reported of echoes.** The words of prompt and text are what these are divided into. A text of acceptable
length gets a finding exactly if some `n` words in a row of the prompt are `n` words in a row of the text, and then
one. Its span goes from the first word to the last of all runs that are echoed. Its confidence is computed from the
distinct phrases of the prompt and the share of them that the text repeats; read in exact arithmetic it is
`3 / 5 + 2 / 5 * share`, above `3 / 5` and at most `1`, and `1` if all words of the prompt stand in a row in the
text. -/
theorem promptEcho_finds_echoes (prompt text : List Char) {n limit : ℕ} (hn : 1 ≤ n)
    (hlen : Text.byteLength text ≤ limit) :
    Text.Divides 0 prompt (Text.words prompt) ∧ Text.Divides 0 text (Text.words text) ∧
    ∃ fs, promptEcho prompt n limit text = .ok fs ∧ fs.length ≤ 1 ∧
      (fs ≠ [] ↔ ∃ run, run.length = n ∧ run <:+: Text.letters prompt ∧ run <:+: Text.letters text) ∧
      ∀ f ∈ fs, f.category = .systemPromptLeak ∧
        IsLeast {i | ∃ run, Echo n prompt text run ∧ ∃ w ∈ run, w.start = i} f.span.start ∧
        IsGreatest {i | ∃ run, Echo n prompt text run ∧ ∃ w ∈ run, w.stop = i} f.span.stop ∧
        f.confidence = certainty n prompt text ∧
        (certainty n prompt text : ℚ) = 3 / 5 + 2 / 5 *
          ((Text.phrases n prompt ∩ Text.phrases n text).card / (Text.phrases n prompt).card) ∧
        3 / 5 < (certainty n prompt text : ℚ) ∧ (certainty n prompt text : ℚ) ≤ 1 ∧
        (n ≤ (Text.words prompt).length → Text.letters prompt <:+: Text.letters text →
          (certainty n prompt text : ℚ) = 1) := by
  refine ⟨Text.words_divides prompt, Text.words_divides text, ?_⟩
  rcases promptEcho_eq hn hlen with ⟨hnone, heq⟩ | ⟨span, hleast, hgreatest, heq⟩
  · refine ⟨[], heq, by simp, iff_of_false (by simp) ?_, by simp⟩
    rintro ⟨run, hlength, hprompt, htext⟩
    obtain ⟨ws, hecho, -⟩ := exists_echo hlength hprompt htext
    exact hnone ws hecho
  · obtain ⟨ws, hecho, -⟩ := hleast.1
    have hlength : (ws.map (·.letters)).length = n := by rw [List.length_map, hecho.length]
    have hrun : ws.map (·.letters) <:+: Text.letters text := hecho.inText.map _
    refine ⟨_, heq, by simp, iff_of_true (by simp) ⟨_, hlength, hecho.inPrompt, hrun⟩, ?_⟩
    have hshared : 0 < ((Text.phrases n prompt ∩ Text.phrases n text).card : ℚ) :=
      mod_cast Finset.card_pos.mpr (phrases_inter_nonempty hn hlength hecho.inPrompt hrun)
    have hle : ((Text.phrases n prompt ∩ Text.phrases n text).card : ℚ) ≤ (Text.phrases n prompt).card :=
      mod_cast Finset.card_le_card Finset.inter_subset_left
    have htotal := hshared.trans_le hle
    refine List.forall_mem_singleton.mpr ⟨rfl, hleast, hgreatest, rfl, certainty_exact, ?_, ?_, fun _ hall => ?_⟩
    · have := div_pos hshared htotal
      rw [certainty_exact]
      linarith
    · have := (div_le_one htotal).mpr hle
      rw [certainty_exact]
      linarith
    · rw [certainty_exact, Finset.inter_eq_left.mpr (phrases_subset hn hall), div_self htotal.ne']
      norm_num

/-- A prompt whose words stand in a text in a row, in other letters and twice. -/
theorem promptEcho_finds_echoes_repeated :
    let prompt := "Be kind, be kind!".toList
    let text := "So: be KIND be kind be".toList
    1 ≤ 2 ∧ Text.byteLength text ≤ 30 ∧ 2 ≤ (Text.words prompt).length ∧
      Text.letters prompt <:+: Text.letters text ∧
      ∃ f, promptEcho prompt 2 30 text = .ok [f] ∧ f.confidence = certainty 2 prompt text ∧
        (certainty 2 prompt text : ℚ) = 1 := by
  intro prompt text
  have hlen : Text.byteLength text ≤ 30 := by decide +kernel
  have hwords : 2 ≤ (Text.words prompt).length := by decide +kernel
  have hall : Text.letters prompt <:+: Text.letters text := by decide +kernel
  obtain ⟨-, -, fs, heq, hone, hiff, hfs⟩ := promptEcho_finds_echoes prompt text (by decide : 1 ≤ 2) hlen
  have hrun : (Text.letters prompt).take 2 <:+: Text.letters prompt := (List.take_prefix 2 _).isInfix
  have hlength : ((Text.letters prompt).take 2).length = 2 := by
    rw [List.length_take, Text.letters, List.length_map]
    omega
  have hne : fs ≠ [] := hiff.mpr ⟨_, hlength, hrun, hrun.trans hall⟩
  obtain ⟨f, rfl⟩ : ∃ f, fs = [f] := by
    rw [← List.length_eq_one_iff]
    have := List.length_pos_iff.mpr hne
    omega
  obtain ⟨-, -, -, hconfidence, -, -, -, hsure⟩ := hfs f List.mem_cons_self
  exact ⟨by decide, hlen, hwords, hall, f, heq, hconfidence, hsure hwords hall⟩

end

end Detect

end Guardrail
