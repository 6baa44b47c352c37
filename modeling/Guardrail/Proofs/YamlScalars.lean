import Guardrail.Yaml.Printer
import Guardrail.Yaml.Node
import Mathlib

/-!
Scalars are read back.

A text is written between double quotes, between single quotes or as a word. Between quotes it is read character by
character: one step of the reader takes all that is written for one character. A word is read up to the colon behind
it or over the end of its line.
-/

namespace Guardrail.Yaml

namespace Scan

@[simp] lemma skip_rest (n : ℕ) (s : Scan) : (s.skip n).rest = s.rest.drop n := rfl

@[simp] lemma skip_column (n : ℕ) (s : Scan) : (s.skip n).column = s.column + n := rfl

lemma skip_skip (m n : ℕ) (s : Scan) : (s.skip m).skip n = s.skip (m + n) := by
  simp [skip, List.drop_drop, add_assoc]

/-- No marker stands inside a line. -/
lemma atMarker_eq_false {s : Scan} (h : s.column ≠ 0) : s.atMarker = false := by
  simp [atMarker, h]

/-! ### Between quotes -/

/-- What has been read on one line, blanks included, in reverse. -/
def Pending.Holds (p : Pending) (read : List Char) : Prop := p.broken = false ∧ p.blanks ++ p.text = read

namespace Pending
variable {p : Pending} {read : List Char}

lemma holds_empty : empty.Holds [] := ⟨rfl, rfl⟩

lemma Holds.join_text (h : p.Holds read) : p.join.text = read := by
  simp [join, h.1, h.2]

lemma Holds.add (h : p.Holds read) (c : Char) :
    ({ p.join with text := c :: p.join.text } : Pending).Holds (c :: read) := by
  refine ⟨?_, ?_⟩
  · simp [join, h.1, empty]
  · simp [join, h.1, ← h.2, empty]

lemma Holds.blank (h : p.Holds read) (c : Char) : ({ p with blanks := c :: p.blanks } : Pending).Holds (c :: read) :=
  ⟨h.1, by simp [← h.2]⟩

end Pending

lemma hex?_hexDigit {n : ℕ} (h : n < 16) : hex? (hexDigit n) = some n := by
  interval_cases n <;> rfl

lemma length_hexDigits (places n : ℕ) : (hexDigits places n).length = places := by
  induction places generalizing n with
  | zero => rfl
  | succ places ih => simp [hexDigits, ih]

lemma foldlM_hexDigits {places n : ℕ} (h : n < 16 ^ places) :
    (hexDigits places n).foldlM (fun n c => (hex? c).map (16 * n + ·)) 0 = some n := by
  induction places generalizing n with
  | zero =>
    obtain rfl : n = 0 := by simpa using h
    rfl
  | succ places ih =>
    rw [pow_succ] at h
    rw [hexDigits, List.foldlM_append, ih (by omega)]
    simp [hex?_hexDigit (show n % 16 < 16 by omega)]
    omega

lemma toNat_lt (c : Char) : c.toNat < 0xD800 ∨ 0xDFFF < c.toNat ∧ c.toNat < 0x110000 := c.valid

lemma codePoint?_hexDigits (c : Char) {places : ℕ} (h : c.toNat < 16 ^ places) :
    codePoint? (hexDigits places c.toNat) places = some c := by
  have hvalid := toNat_lt c
  have hback : Char.ofNat c.toNat = c := Char.ofNat_toNat c
  rw [codePoint?, if_neg (by simp [length_hexDigits]), foldlM_hexDigits h]
  simp only [bind, Option.bind_some, hback]
  rw [if_neg]
  simp
  omega

/-- How a character stands between double quotes: behind a letter of its own, as it is, or by its number. -/
lemma escape_cases (c : Char) :
    (∃ d, escape c = ['\\', d] ∧ escape? d = some c ∧ isBreak d = false ∧ d ≠ 'x' ∧ d ≠ 'u' ∧ d ≠ 'U') ∨
      (escape c = [c] ∧ standsAlone c = true ∧ c ≠ '"' ∧ c ≠ '\\') ∨
      ∃ d places, escape c = '\\' :: d :: hexDigits places c.toNat ∧ c.toNat < 16 ^ places ∧
        (d = 'x' ∧ places = 2 ∨ d = 'u' ∧ places = 4 ∨ d = 'U' ∧ places = 8) := by
  unfold escape
  split
  case h_15 =>
    split
    · next halone => exact .inr (.inl ⟨rfl, halone, by assumption, by assumption⟩)
    · split
      · next hsmall => exact .inr (.inr ⟨'x', 2, rfl, by omega, .inl ⟨rfl, rfl⟩⟩)
      · split
        · next hmiddle => exact .inr (.inr ⟨'u', 4, rfl, by omega, .inr (.inl ⟨rfl, rfl⟩)⟩)
        · have hlimit := toNat_lt c
          exact .inr (.inr ⟨'U', 8, rfl, by omega, .inr (.inr ⟨rfl, rfl⟩)⟩)
  all_goals exact .inl ⟨_, rfl, rfl, rfl, by decide, by decide, by decide⟩

lemma isBlank_of_standsAlone {c : Char} (h : standsAlone c = true) : isBlank c = true ↔ c = ' ' := by
  simp only [isBlank, Bool.or_eq_true, beq_iff_eq, or_iff_left_iff_imp]
  rintro rfl
  cases h

lemma isBreak_of_standsAlone {c : Char} (h : standsAlone c = true) : isBreak c = false := by
  simp only [standsAlone, endsLine, Bool.and_eq_true, Bool.not_eq_true', List.contains_eq_mem, decide_eq_false_iff_not,
    List.mem_cons, List.not_mem_nil, or_false, not_or] at h
  simp [isBreak, h.1]

lemma quotedFrom_escape (c : Char) {fuel : ℕ} {p : Pending} {s : Scan} {rest read : List Char}
    (hs : s.rest = escape c ++ rest) (hcolumn : s.column ≠ 0) (hp : p.Holds read) :
    ∃ p', p'.Holds (c :: read) ∧
      quotedFrom true (fuel + 1) p s = quotedFrom true fuel p' (s.skip (escape c).length) := by
  have hstep := quotedFrom.eq_def true (fuel + 1) p s
  simp only [atMarker_eq_false hcolumn, hs, Bool.false_eq_true, if_false] at hstep
  rw [hstep]
  clear hstep
  -- a letter behind the backslash, the character itself, or a letter and the digits of its number
  rcases escape_cases c with
    ⟨d, hc, hd, hbreak, hx, hu, hU⟩ | ⟨hc, halone, hquote, hslash⟩ | ⟨d, places, hc, hsmall, hd⟩
  · refine ⟨_, hp.add c, ?_⟩
    simp [hc, hbreak, hd]
  · have hbreak := isBreak_of_standsAlone halone
    by_cases hblank : isBlank c = true
    · refine ⟨_, hp.blank c, ?_⟩
      simp [hc, hbreak, hblank, hquote, hslash, hp.1]
    · refine ⟨_, hp.add c, ?_⟩
      simp [hc, hbreak, hblank, hquote, hslash]
  · refine ⟨_, hp.add c, ?_⟩
    have hcode := codePoint?_hexDigits c hsmall
    rcases hd with ⟨rfl, rfl⟩ | ⟨rfl, rfl⟩ | ⟨rfl, rfl⟩ <;> simp [hc, isBreak, hcode, length_hexDigits]

lemma quotedFrom_doubleQuote {c : Char} (hc : standsAlone c = true) {fuel : ℕ} {p : Pending} {s : Scan}
    {rest read : List Char} (hs : s.rest = doubleQuote c ++ rest) (hcolumn : s.column ≠ 0) (hp : p.Holds read) :
    ∃ p', p'.Holds (c :: read) ∧
      quotedFrom false (fuel + 1) p s = quotedFrom false fuel p' (s.skip (doubleQuote c).length) := by
  have hstep := quotedFrom.eq_def false (fuel + 1) p s
  simp only [atMarker_eq_false hcolumn, hs, Bool.false_eq_true, if_false] at hstep
  rw [hstep]
  clear hstep
  by_cases hquote : c = '\''
  · refine ⟨_, hp.add c, ?_⟩
    simp [doubleQuote, hquote]
  · have hbreak := isBreak_of_standsAlone hc
    by_cases hblank : isBlank c = true
    · refine ⟨_, hp.blank c, ?_⟩
      simp [doubleQuote, hquote, hbreak, hblank, hp.1]
    · refine ⟨_, hp.add c, ?_⟩
      simp [doubleQuote, hquote, hbreak, hblank]

section Quoted

variable {double : Bool} {mark : Char} {written : Char → List Char} {rest : List Char}

/-- A text between quotes is read character by character, up to the closing quote. -/
lemma quotedFrom_flatMap {cs read : List Char} {fuel : ℕ} {p : Pending} {s : Scan}
    (hstep : ∀ c ∈ cs, ∀ {fuel : ℕ} {p : Pending} {s : Scan} {rest read : List Char}, s.rest = written c ++ rest →
      s.column ≠ 0 → p.Holds read → ∃ p', p'.Holds (c :: read) ∧
        quotedFrom double (fuel + 1) p s = quotedFrom double fuel p' (s.skip (written c).length))
    (hclose : ∀ {fuel : ℕ} {p : Pending} {s : Scan} {read : List Char}, s.rest = mark :: rest → s.column ≠ 0 →
      p.Holds read → quotedFrom double (fuel + 1) p s =
        some ((s.skip 1).emit (.scalar (String.ofList read.reverse) false)))
    (hs : s.rest = cs.flatMap written ++ mark :: rest) (hcolumn : s.column ≠ 0) (hp : p.Holds read)
    (hfuel : cs.length < fuel) : quotedFrom double fuel p s = some
      ((s.skip ((cs.flatMap written).length + 1)).emit (.scalar (String.ofList (read.reverse ++ cs)) false)) := by
  -- one unit of fuel for each character of the text, however long what is written for it
  induction cs generalizing fuel p s read with
  | nil =>
    obtain ⟨fuel, rfl⟩ : ∃ k, fuel = k + 1 := ⟨fuel - 1, by simp at hfuel; omega⟩
    rw [hclose (by simpa using hs) hcolumn hp]
    simp
  | cons c cs ih =>
    obtain ⟨fuel, rfl⟩ : ∃ k, fuel = k + 1 := ⟨fuel - 1, by simp at hfuel; omega⟩
    obtain ⟨hc, hcs⟩ := List.forall_mem_cons.mp hstep
    rw [List.flatMap_cons, List.append_assoc] at hs
    obtain ⟨p', hp', hone⟩ := hc hs hcolumn hp
    have hrest : (s.skip (written c).length).rest = cs.flatMap written ++ mark :: rest := by simp [hs]
    rw [hone, ih hcs hrest (by simp [hcolumn]) hp' (by simpa using hfuel), skip_skip]
    simp [add_assoc]

end Quoted

/-- A text between double quotes. -/
lemma quotedFrom_double {cs rest : List Char} {fuel : ℕ} {s : Scan}
    (hs : s.rest = cs.flatMap escape ++ '"' :: rest) (hcolumn : s.column ≠ 0) (hfuel : cs.length < fuel) :
    quotedFrom true fuel .empty s =
      some ((s.skip ((cs.flatMap escape).length + 1)).emit (.scalar (String.ofList cs) false)) := by
  refine quotedFrom_flatMap (fun c _ => quotedFrom_escape c) ?_ hs hcolumn Pending.holds_empty hfuel
  intro fuel p s read hs hcolumn hp
  have hstep := quotedFrom.eq_def true (fuel + 1) p s
  simp only [atMarker_eq_false hcolumn, hs, Bool.false_eq_true, if_false] at hstep
  simp [hstep, hp.join_text]

/-- A text between single quotes. -/
lemma quotedFrom_single {cs rest : List Char} {fuel : ℕ} {s : Scan} (hcs : cs.all standsAlone = true)
    (hs : s.rest = cs.flatMap doubleQuote ++ '\'' :: rest) (hrest : rest.head? ≠ some '\'') (hcolumn : s.column ≠ 0)
    (hfuel : cs.length < fuel) : quotedFrom false fuel .empty s =
      some ((s.skip ((cs.flatMap doubleQuote).length + 1)).emit (.scalar (String.ofList cs) false)) := by
  refine quotedFrom_flatMap (fun c hc => quotedFrom_doubleQuote (List.all_eq_true.mp hcs c hc)) ?_ hs hcolumn
    Pending.holds_empty hfuel
  intro fuel p s read hs hcolumn hp
  have hstep := quotedFrom.eq_def false (fuel + 1) p s
  simp only [atMarker_eq_false hcolumn, hs, Bool.false_eq_true, if_false] at hstep
  cases rest with
  | nil => simp [hstep, hp.join_text]
  | cons d rest =>
    have hd : d ≠ '\'' := by simpa using hrest
    simp [hstep, hp.join_text, hd]

/-! ### Words -/

/-- A word that reads as itself without quotes. -/
structure Word (cs : List Char) : Prop where
  begins : beginsWord cs = true
  continues : ∀ c rest, cs = c :: rest → continuesWord c rest = true
  alone : cs.all standsAlone = true

/-- What a word has been read to: text, and blanks after it if the last character is one. -/
structure Pending.Word (p : Pending) (read : List Char) : Prop where
  holds : p.Holds read
  text : p.text ≠ []
  blanks : p.blanks ≠ [] ↔ read.head? = some ' '

/-- A colon with a blank after it ends a word. -/
lemma atGap_cons {c : Char} (hc : standsAlone c = true) (rest : List Char) : atGap (c :: rest) = true ↔ c = ' ' := by
  simp [atGap, isBreak_of_standsAlone hc, isBlank_of_standsAlone hc]

/-- What is read after one more character of a word. -/
def Pending.step (p : Pending) (c : Char) : Pending :=
  if c = ' ' then { p with blanks := c :: p.blanks } else { p.join with text := c :: p.join.text }

lemma Pending.holds_step {p : Pending} {read : List Char} (h : p.Holds read) (c : Char) :
    (p.step c).Holds (c :: read) := by
  unfold step
  split
  · exact h.blank c
  · exact h.add c

lemma plainFrom_cons (fuel : ℕ) {least : ℤ} {p : Pending} {s : Scan} {c : Char} {rest : List Char}
    (hs : s.rest = c :: rest) (hc : standsAlone c = true) (hcolon : (c == ':' && atGap rest) = false)
    (hhash : c = '#' → p.blanks = [] ∧ p.text ≠ []) (hbroken : p.broken = false)
    (hleast : p.text ≠ [] → least ≤ s.column) (hmarker : s.atMarker = false) (hflow : s.inFlow = false) :
    plainFrom least (fuel + 1) p s = plainFrom least fuel (p.step c) (s.skip 1) := by
  have hstep := plainFrom.eq_def least (fuel + 1) p s
  have hfresh : (!p.blanks.isEmpty || p.text.isEmpty) = true → (c == '#') = false := by
    intro hfresh
    by_contra hc
    obtain ⟨hblanks, htext⟩ := hhash (by simpa using hc)
    simp [hblanks, htext] at hfresh
  have hnear : (!p.text.isEmpty && decide ((s.column : ℤ) < least)) = false := by
    by_contra hfar
    simp only [Bool.and_eq_false_iff, not_or, Bool.not_eq_false, Bool.not_eq_true', decide_eq_true_eq,
      List.isEmpty_eq_false_iff] at hfar
    have hbound := hleast hfar.1
    omega
  simp only [hmarker, hs, hbroken, hflow, Bool.and_false, Bool.false_and, Bool.false_or, Bool.or_false,
    Bool.false_eq_true, if_false, isBreak_of_standsAlone hc, hcolon, isBlank_of_standsAlone hc, Bool.not_false,
    Bool.and_true, Bool.and_assoc, hnear] at hstep
  rw [hstep, if_neg, Pending.step]
  · split
    · simp [hbroken]
    · rfl
  · simp only [Bool.and_eq_true]
    rintro ⟨hfirst, hmark⟩
    rw [hfresh hfirst] at hmark
    cases hmark

lemma atGap_append {c : Char} {cs rest : List Char} (hcs : (c :: cs).all standsAlone = true)
    (hcolon : (c == ':' && (cs.isEmpty || cs.head? == some ' ')) = false) :
    (c == ':' && atGap (cs ++ rest)) = false := by
  by_contra hgap
  simp only [Bool.and_eq_false_iff, not_or, Bool.not_eq_false, beq_iff_eq] at hgap hcolon
  obtain ⟨rfl, hgap⟩ := hgap
  cases cs with
  | nil => simp at hcolon
  | cons d cs =>
    have hd : standsAlone d = true := List.all_eq_true.mp hcs d (by simp)
    obtain rfl := (atGap_cons hd _).mp hgap
    simp at hcolon

/-- A word is read on up to its end. -/
lemma plainFrom_append (fuel : ℕ) {least : ℤ} {p : Pending} {s : Scan} {before : Char} {cs rest read : List Char}
    (hs : s.rest = cs ++ rest) (hcs : continuesWord before cs = true) (halone : cs.all standsAlone = true)
    (hp : p.Word (before :: read)) (hleast : least ≤ s.column) (hcolumn : s.column ≠ 0) (hflow : s.inFlow = false) :
    ∃ p', p'.Word (cs.reverse ++ before :: read) ∧ p'.blanks = [] ∧
      plainFrom least (fuel + cs.length) p s = plainFrom least fuel p' (s.skip cs.length) := by
  -- the invariant is that what is pending ends in a blank just when the last character read is one
  induction cs generalizing p s before read with
  | nil =>
    refine ⟨p, hp, ?_, by simp [skip]⟩
    by_contra hblanks
    have hblank := hp.blanks.mp hblanks
    simp only [List.head?_cons, Option.some.injEq] at hblank
    simp [continuesWord, hblank] at hcs
  | cons c cs ih =>
    have hc : standsAlone c = true := List.all_eq_true.mp halone c List.mem_cons_self
    simp only [continuesWord, Bool.and_eq_true, Bool.not_eq_true'] at hcs
    obtain ⟨⟨hcolon, hhash⟩, hcs⟩ := hcs
    have hstep := plainFrom_cons (fuel + cs.length) hs hc (atGap_append halone hcolon) ?_ hp.holds.1
      (fun _ => hleast) (atMarker_eq_false hcolumn) hflow
    · have hnext : (p.step c).Word (c :: before :: read) := by
        refine ⟨Pending.holds_step hp.holds c, ?_, ?_⟩
        · unfold Pending.step
          split
          · exact hp.text
          · exact List.cons_ne_nil _ _
        · unfold Pending.step
          split
          · next hspace => simp [hspace]
          · next hspace => simp [hspace, Pending.join, hp.holds.1, Pending.empty]
      have hrest : (s.skip 1).rest = cs ++ rest := by simp [hs]
      obtain ⟨p', hp', hblanks, hread⟩ := ih hrest hcs (by simp at halone ⊢; exact halone.2) hnext (by simp; omega)
        (by simp) hflow
      refine ⟨p', by simpa using hp', hblanks, ?_⟩
      rw [List.length_cons, ← add_assoc, hstep, hread, skip_skip, add_comm 1]
    · rintro rfl
      refine ⟨?_, hp.text⟩
      by_contra hblanks
      have hblank := hp.blanks.mp hblanks
      simp only [List.head?_cons, Option.some.injEq] at hblank
      simp [hblank] at hhash

/-- The first character of a word is no mark of something else. -/
lemma Word.first {c : Char} {cs : List Char} (h : Word (c :: cs)) :
    c ∉ leadingMarks ∧ c ≠ ' ' ∧ (c = '?' ∨ c = ':' ∨ c = '-' → cs ≠ [] ∧ cs.head? ≠ some ' ') := by
  have hbegins := h.begins
  unfold beginsWord at hbegins
  split at hbegins
  · cases hbegins
  · cases hbegins
  · cases hbegins
  · next heq =>
    cases heq
    simp only [Bool.not_eq_true', Bool.or_eq_false_iff, Bool.and_eq_false_iff, List.contains_eq_mem,
      decide_eq_false_iff_not, beq_eq_false_iff_ne, List.isEmpty_eq_false_iff, List.mem_cons, List.not_mem_nil,
      or_false] at hbegins
    obtain ⟨⟨hmark, hspace⟩, hsign⟩ := hbegins
    exact ⟨hmark, hspace, fun hc => hsign.resolve_left (not_not.mpr hc)⟩

/-- A word is read up to its end. -/
lemma plainFrom_word (least : ℤ) (fuel : ℕ) {s : Scan} {cs rest : List Char} (hs : s.rest = cs ++ rest) (hcs : Word cs)
    (hleast : least ≤ s.column + 1) (hmarker : s.atMarker = false) (hflow : s.inFlow = false) :
    ∃ p, p.Word cs.reverse ∧ p.blanks = [] ∧
      plainFrom least (fuel + cs.length) .empty s = plainFrom least fuel p (s.skip cs.length) := by
  cases cs with
  | nil => cases hcs.begins
  | cons c cs =>
    have hfirst := hcs.first
    obtain ⟨-, hcontinues, halone⟩ := hcs
    have hc : standsAlone c = true := List.all_eq_true.mp halone c List.mem_cons_self
    have hhash : c ≠ '#' := by
      rintro rfl
      exact hfirst.1 (by decide)
    have hspace := hfirst.2.1
    have hcolon : (c == ':' && (cs.isEmpty || cs.head? == some ' ')) = false := by
      by_cases hc : c = ':'
      · obtain ⟨hne, hhead⟩ := hfirst.2.2 (.inr (.inl hc))
        simp [hne, hhead]
      · simp [hc]
    have hstep : plainFrom least (fuel + cs.length + 1) .empty s =
        plainFrom least (fuel + cs.length) (Pending.empty.step c) (s.skip 1) :=
      plainFrom_cons _ hs hc (atGap_append halone hcolon) (fun h => absurd h hhash) rfl (fun h => (h rfl).elim)
        hmarker hflow
    have hnext : (Pending.empty.step c).Word [c] := by
      refine ⟨Pending.holds_step Pending.holds_empty c, ?_, ?_⟩ <;>
        simp [Pending.step, hspace, Pending.join, Pending.empty]
    have hrest : (s.skip 1).rest = cs ++ rest := by simp [hs]
    have hnear : least ≤ ((s.skip 1).column : ℤ) := by
      rw [skip_column]
      exact_mod_cast hleast
    obtain ⟨p, hp, hblanks, hread⟩ := plainFrom_append fuel hrest (hcontinues c cs rfl)
      (by simp at halone ⊢; exact halone.2) hnext hnear (by simp) hflow
    refine ⟨p, by simpa using hp, hblanks, ?_⟩
    rw [List.length_cons, ← add_assoc, hstep, hread, skip_skip, add_comm 1]

lemma plainFrom_colon (least : ℤ) (fuel : ℕ) {p : Pending} {s : Scan} {read rest : List Char} (hp : p.Word read)
    (hblanks : p.blanks = []) (hs : s.rest = ':' :: rest) (hgap : atGap rest = true) (hflow : s.inFlow = false) :
    plainFrom least (fuel + 1) p s = some (p, s) := by
  have hstep := plainFrom.eq_def least (fuel + 1) p s
  simpa [hs, hp.holds.1, hblanks, hp.text, hflow, hgap, isBreak, isBlank] using hstep

/-- The scan at the next line, behind its indentation. -/
def nextLine (indent : ℕ) (rest : List Char) (s : Scan) : Scan :=
  { s with rest, index := s.index + 1 + indent, line := s.line + 1, column := indent }

/-- The end of the text, or something that is neither a blank nor a line end nor a comment. -/
def Starts (rest : List Char) : Prop :=
  ∀ c ∈ rest.head?, isBreak c = false ∧ isBlank c = false ∧ c ≠ '#' ∧ c ≠ '\ufeff'

lemma atMarker_of_blank {s : Scan} {rest : List Char} (hs : s.rest = ' ' :: rest) : s.atMarker = false := by
  simp [atMarker, hs]

/-- After the end of a line the blanks of the next line are skipped, and a word does not go on there unless it is
indented far enough. -/
lemma plainFrom_blanks (fuel k : ℕ) {least : ℤ} {p : Pending} {s : Scan} {rest : List Char} (hbroken : p.broken = true)
    (htext : p.text ≠ []) (hs : s.rest = List.replicate k ' ' ++ rest) (hrest : Starts rest)
    (hleast : rest = [] ∨ ((s.column + k : ℕ) : ℤ) < least) (hflow : s.inFlow = false) :
    plainFrom least (fuel + k + 1) p s = some (p, s.skip k) := by
  induction k generalizing s with
  | zero =>
    have hstep := plainFrom.eq_def least (fuel + 1) p s
    simp only [List.replicate_zero, List.nil_append] at hs
    simp only [hbroken, hs, Bool.true_or, Bool.true_and] at hstep
    have hskip : s.skip 0 = s := by simp [skip]
    rw [add_zero, hstep, hskip]
    split
    · rfl
    · cases rest with
      | nil => rfl
      | cons c rest =>
        obtain ⟨hbreak, hblank, -, -⟩ := hrest c rfl
        have hfar : (s.column : ℤ) < least := by simpa using hleast
        simp [hbreak, hblank, htext, hflow, hfar]
  | succ k ih =>
    rw [List.replicate_succ, List.cons_append] at hs
    have hnext : (s.skip 1).rest = List.replicate k ' ' ++ rest := by simp [hs]
    have hleast' : rest = [] ∨ (((s.skip 1).column + k : ℕ) : ℤ) < least := by
      refine hleast.imp_right fun h => ?_
      rw [skip_column, add_assoc, add_comm 1]
      exact h
    have hread := ih hnext hleast' hflow
    have hstep := plainFrom.eq_def least (fuel + (k + 1) + 1) p s
    simp only [atMarker_of_blank hs, hs, hbroken] at hstep
    rw [hstep]
    rw [skip_skip, add_comm 1, add_assoc fuel k 1] at hread
    simpa [isBreak, isBlank] using hread

/-- A word at the end of a line: the line end is read too, and the indentation of the next line. -/
lemma plainFrom_newline (least : ℤ) (fuel k : ℕ) {p : Pending} {s : Scan} {read rest : List Char} (hp : p.Word read)
    (hblanks : p.blanks = []) (hs : s.rest = '\n' :: List.replicate k ' ' ++ rest) (hrest : Starts rest)
    (hleast : rest = [] ∨ (k : ℤ) < least) (hflow : s.inFlow = false) :
    ∃ p', p'.text = read ∧ p'.broken = true ∧
      plainFrom least (fuel + k + 2) p s = some (p', s.nextLine k rest) := by
  have hnext : s.skipBreak = (['\n'], s.nextLine 0 (List.replicate k ' ' ++ rest)) := by
    simp [skipBreak, hs, nextLine]
  have hp' : (p.addBreak ['\n']).text = read ∧ (p.addBreak ['\n']).broken = true := by
    have htext := hp.holds.2
    rw [hblanks, List.nil_append] at htext
    simp [Pending.addBreak, hp.holds.1, htext]
  have htext : read ≠ [] := by
    rw [← hp'.1]
    simpa [Pending.addBreak, hp.holds.1] using hp.text
  have hread := plainFrom_blanks fuel k hp'.2 (hp'.1 ▸ htext) (s := s.nextLine 0 (List.replicate k ' ' ++ rest)) rfl
    hrest (by simpa [nextLine] using hleast) hflow
  have hstep := plainFrom.eq_def least (fuel + k + 2) p s
  refine ⟨p.addBreak ['\n'], hp'.1, hp'.2, ?_⟩
  rw [hstep]
  have hskip : (s.nextLine 0 (List.replicate k ' ' ++ rest)).skip k = s.nextLine k rest := by
    simp [nextLine, skip]
  rw [hskip] at hread
  simp [hs, hp.holds.1, hblanks, hnext, hp.text, isBreak, hread]

/-! ### Written scalars -/

/-- How a scalar is written, and its token. -/
inductive Writes : List Char → Token → Prop
  | plain {cs : List Char} (h : Word cs) : Writes cs (.scalar (String.ofList cs) true)
  | single {cs : List Char} (h : cs.all standsAlone = true) :
    Writes ('\'' :: cs.flatMap doubleQuote ++ ['\'']) (.scalar (String.ofList cs) false)
  | double (cs : List Char) : Writes ('"' :: cs.flatMap escape ++ ['"']) (.scalar (String.ofList cs) false)

lemma word_of_quotesFor {s : String} (h : quotesFor s = .none) : Word s.toList := by
  unfold quotesFor at h
  split at h
  · cases h
  · next halone =>
    split at h
    · cases h
    · split at h
      · cases h
      · next c rest heq =>
        split at h
        · next hword =>
          rw [Bool.and_eq_true] at hword
          refine ⟨by rw [heq]; exact hword.1, ?_, by simpa using halone⟩
          intro d more hd
          rw [heq] at hd
          cases hd
          exact hword.2
        · cases h

lemma writes_textChars (s : String) : Writes (textChars s) (.scalar s (decide (quotesFor s = .none))) := by
  have hback : String.ofList s.toList = s := String.ofList_toList
  unfold textChars
  split
  · next h =>
    have hword := Writes.plain (word_of_quotesFor h)
    simpa [h, hback] using hword
  · next h =>
    have halone : s.toList.all standsAlone = true := by
      unfold quotesFor at h
      split at h
      · cases h
      · next halone => simpa using halone
    have hsingle := Writes.single halone
    simpa [h, hback] using hsingle
  · next h =>
    have hdouble := Writes.double s.toList
    simpa [h, hback] using hdouble

lemma length_flatMap_le {f : Char → List Char} {n : ℕ} (hf : ∀ c, (f c).length ≤ n) (cs : List Char) :
    (cs.flatMap f).length ≤ n * cs.length := by
  have hall : ∀ k ∈ cs.map fun c => (f c).length, k ≤ n := by simpa using fun c _ => hf c
  simpa [List.length_flatMap, mul_comm] using List.sum_le_card_nsmul _ n hall

/-- A written text is at most ten times as long as the text, but for the quotes. -/
lemma length_textChars_le (s : String) : (textChars s).length ≤ 10 * s.length + 2 := by
  have hdouble (c : Char) : (doubleQuote c).length ≤ 10 := by
    unfold doubleQuote
    split <;> simp
  have hescape (c : Char) : (escape c).length ≤ 10 := by
    rcases escape_cases c with ⟨d, h, -⟩ | ⟨h, -⟩ | ⟨d, places, h, -, hd⟩
    · simp [h]
    · simp [h]
    · simp [h, length_hexDigits]
      omega
  have hsingle' := length_flatMap_le hdouble s.toList
  have hdouble' := length_flatMap_le hescape s.toList
  rw [String.length_toList] at hsingle' hdouble'
  unfold textChars
  split
  · rw [String.length_toList]
    omega
  · simp only [List.length_append, List.length_cons, List.length_nil]
    omega
  · simp only [List.length_append, List.length_cons, List.length_nil]
    omega

end Scan

end Guardrail.Yaml
