import Guardrail.Proofs.Acceptance
import Guardrail.Proofs.Exploring

/-!
What the pattern for card numbers picks out of a text.

A candidate is thirteen to nineteen digits, of any script, with at most one blank or hyphen between two neighbours, that
begins and ends where words do. Every run of so many digits that is a word of its own lies within a candidate. The
candidate may reach further: over a blank or a hyphen to other digits.
-/

namespace Guardrail

deriving instance DecidableEq for Unicode.Ranges, Pattern.CharClass, Pattern.Regex

/-! ### Digits and separators -/

/-- A blank or a hyphen. -/
def isSeparator (c : Char) : Bool := c == ' ' || c == '-'

namespace Unicode

lemma isWord_of_isDigit {c : Char} (h : isDigit c = true) : isWord c = true := by
  unfold isDigit at h
  unfold isWord
  split at h
  · next hascii => rw [if_pos hascii, Char.isAlphanum, h, Bool.or_true, Bool.true_or]
  · next hascii => simp [hascii, h]

/-- The digits of ASCII are digits. -/
lemma isDigit_of_ascii {c : Char} (h : c.isDigit = true) : isDigit c = true := by
  have hle : c.toNat ≤ 57 := by
    simp [Char.isDigit] at h
    exact h.2
  rw [isDigit, if_pos (by omega), h]

end Unicode

/-- Digits with at most one separator between two neighbours. The number is that of the neighbours. -/
inductive Grouped : ℕ → List Char → Prop
  | one {d : Char} : Unicode.isDigit d = true → Grouped 0 [d]
  | next {n : ℕ} {d : Char} {w : List Char} : Unicode.isDigit d = true → Grouped n w → Grouped (n + 1) (d :: w)
  | apart {n : ℕ} {d s : Char} {w : List Char} : Unicode.isDigit d = true → isSeparator s = true → Grouped n w →
    Grouped (n + 1) (d :: s :: w)

namespace Grouped

variable {n : ℕ} {w u v : List Char} {c : Char}

lemma head (h : Grouped n w) : ∃ d rest, w = d :: rest ∧ Unicode.isDigit d = true := by
  cases h with
  | one hd => exact ⟨_, _, rfl, hd⟩
  | next hd _ => exact ⟨_, _, rfl, hd⟩
  | apart hd _ _ => exact ⟨_, _, rfl, hd⟩

lemma of_digits {d : Char} (h : ∀ c ∈ d :: w, Unicode.isDigit c = true) : Grouped w.length (d :: w) := by
  induction w generalizing d with
  | nil => exact .one (h d List.mem_cons_self)
  | cons c w ih =>
    obtain ⟨hd, hw⟩ := List.forall_mem_cons.mp h
    exact .next hd (ih hw)

/-- Each character is a digit, or a separator between two digits. -/
lemma digit_or (h : Grouped n (u ++ c :: v)) : Unicode.isDigit c = true ∨ isSeparator c = true ∧
    (∃ t d, u = t ++ [d] ∧ Unicode.isDigit d = true) ∧ ∃ d t, v = d :: t ∧ Unicode.isDigit d = true := by
  generalize hw : u ++ c :: v = w at h
  have hlonger (d : Char) {u' : List Char} (hu' : ∃ t d, u' = t ++ [d] ∧ Unicode.isDigit d = true) :
      ∃ t e, d :: u' = t ++ [e] ∧ Unicode.isDigit e = true := by
    obtain ⟨t, e, rfl, he⟩ := hu'
    exact ⟨d :: t, e, rfl, he⟩
  induction h generalizing u with
  | one hd =>
    rcases u with _ | ⟨e, u⟩ <;> simp at hw
    exact .inl (hw.1 ▸ hd)
  | @next n d w hd hrest ih =>
    rcases u with _ | ⟨e, u⟩
    · simp only [List.nil_append, List.cons.injEq] at hw
      exact .inl (hw.1 ▸ hd)
    · simp only [List.cons_append, List.cons.injEq] at hw
      exact (ih hw.2).imp_right fun ⟨hc, hu, hv⟩ => ⟨hc, hlonger e hu, hv⟩
  | @apart n d s w hd hs hrest ih =>
    rcases u with _ | ⟨e, _ | ⟨f, u⟩⟩
    · simp only [List.nil_append, List.cons.injEq] at hw
      exact .inl (hw.1 ▸ hd)
    · simp only [List.cons_append, List.nil_append, List.cons.injEq] at hw
      obtain ⟨rfl, rfl, rfl⟩ := hw
      exact .inr ⟨hs, ⟨[], e, rfl, hd⟩, hrest.head⟩
    · simp only [List.cons_append, List.cons.injEq] at hw
      exact (ih hw.2.2).imp_right fun ⟨hc, hu, hv⟩ => ⟨hc, hlonger e (hlonger f hu), hv⟩

end Grouped

namespace Pattern

/-! ### The pattern -/

/-- A digit and, perhaps, a separator behind it. -/
def digitGroup : Regex := .seq (.one .digit) (.loop (.one (.union (.single ' ') (.single '-'))) 0 (some 1) true)

/-- The pattern for card numbers. -/
def cardRegex : Regex :=
  .seq (.look .wordBoundary false)
    (.seq (.loop digitGroup 12 (some 18) true) (.seq (.one .digit) (.look .wordBoundary false)))

lemma read_card : read "\\b(?:\\d[ -]?)\x7b12,18\x7d\\d\\b" = .ok cardRegex := by
  obtain ⟨r, hread, rfl⟩ := exists_ok (P := (· = cardRegex))
    (show (read "\\b(?:\\d[ -]?)\x7b12,18\x7d\\d\\b").toOption.any (fun r => decide (r = cardRegex)) = true by
      decide +kernel)
  exact hread

/-- A word begins or ends between two parts of a text. -/
def Edge (a b : List Char) : Prop := a.getLast?.any Unicode.isWord ≠ b.head?.any Unicode.isWord

/-- A part of a text that the pattern for card numbers matches. -/
structure Candidate (a w c : List Char) : Prop where
  first : Edge a (w ++ c)
  grouped : ∃ n, 12 ≤ n ∧ n ≤ 18 ∧ Grouped n w
  last : Edge (a ++ w) c

section

open Place

variable {a b w c : List Char} {p q : Place}

lemma spans_one {set : CharClass} : (Regex.one set).Spans (between a b) q ↔
    ∃ d rest, b = d :: rest ∧ set.contains d = true ∧ q = between (a ++ [d]) rest := by
  have hpast (d : Char) (rest : List Char) : (between a b).past d rest = between (a ++ [d]) rest := by
    simp [past, between]
  simp only [Regex.Spans, hpast]
  rfl

lemma contains_separator (s : Char) :
    (CharClass.union (.single ' ') (.single '-')).contains s = isSeparator s := by
  have hsingle (x : Char) : (CharClass.single x).contains s = (s == x) := by
    rw [Bool.eq_iff_iff, CharClass.single, CharClass.contains, Bool.and_eq_true, decide_eq_true_eq, decide_eq_true_eq,
      beq_iff_eq]
    exact ⟨fun ⟨h, h'⟩ => Char.le_antisymm h' h, fun h => h ▸ ⟨Char.le_refl s, Char.le_refl s⟩⟩
  rw [CharClass.contains, hsingle, hsingle, isSeparator]

lemma spans_digitGroup : digitGroup.Spans (between a b) q ↔ ∃ d rest, b = d :: rest ∧ Unicode.isDigit d = true ∧
    (q = between (a ++ [d]) rest ∨
      ∃ s rest', rest = s :: rest' ∧ isSeparator s = true ∧ q = between (a ++ [d, s]) rest') := by
  have hmaybe : (Regex.loop (.one (.union (.single ' ') (.single '-'))) 0 (some 1) true).Spans
      = fun p q => (Regex.one (.union (.single ' ') (.single '-'))).Spans p q ∨ p = q := by
    rw [Regex.spans_loop_some, Copies, Relation.eq_comp, upTo_succ, upTo_zero, Relation.comp_eq]
  rw [digitGroup, Regex.Spans, hmaybe]
  constructor
  · rintro ⟨m, hm, hq⟩
    obtain ⟨d, rest, rfl, hd, rfl⟩ := spans_one.mp hm
    refine ⟨d, rest, rfl, hd, hq.symm.imp Eq.symm fun hs => ?_⟩
    obtain ⟨s, rest', rfl, hsep, rfl⟩ := spans_one.mp hs
    exact ⟨s, rest', rfl, (contains_separator s).symm.trans hsep, by rw [List.append_assoc]; rfl⟩
  · rintro ⟨d, rest, rfl, hd, hq⟩
    refine ⟨_, spans_one.mpr ⟨d, rest, rfl, hd, rfl⟩, hq.symm.imp (fun hs => ?_) Eq.symm⟩
    obtain ⟨s, rest', rfl, hs, rfl⟩ := hs
    exact spans_one.mpr ⟨s, rest', rfl, (contains_separator s).trans hs, by rw [List.append_assoc]; rfl⟩

lemma spans_groups (n : ℕ) : Relation.Comp (Copies digitGroup.Spans n) (Regex.one .digit).Spans (between a b) q ↔
    ∃ w rest, b = w ++ rest ∧ Grouped n w ∧ q = between (a ++ w) rest := by
  induction n generalizing a b with
  | zero =>
    rw [Copies, Relation.eq_comp, spans_one]
    constructor
    · rintro ⟨d, rest, rfl, hd, rfl⟩
      exact ⟨[d], rest, rfl, .one hd, rfl⟩
    · rintro ⟨w, rest, rfl, hw, rfl⟩
      cases hw with
      | @one d hd => exact ⟨d, rest, rfl, hd, rfl⟩
  | succ n ih =>
    rw [copies_succ, Relation.comp_assoc]
    constructor
    · rintro ⟨m, hm, hq⟩
      obtain ⟨d, rest, rfl, hd, rfl | ⟨s, rest', rfl, hs, rfl⟩⟩ := spans_digitGroup.mp hm
      · obtain ⟨w, end', rfl, hw, rfl⟩ := ih.mp hq
        exact ⟨d :: w, end', rfl, .next hd hw, by rw [List.append_assoc]; rfl⟩
      · obtain ⟨w, end', rfl, hw, rfl⟩ := ih.mp hq
        exact ⟨d :: s :: w, end', rfl, .apart hd hs hw, by rw [List.append_assoc]; rfl⟩
    · rintro ⟨w, rest, rfl, hw, rfl⟩
      cases hw with
      | @next _ d w hd hw =>
        refine ⟨_, spans_digitGroup.mpr ⟨d, w ++ rest, rfl, hd, .inl rfl⟩, ih.mpr ⟨w, rest, rfl, hw, ?_⟩⟩
        rw [List.append_assoc]
        rfl
      | @apart _ d s w hd hs hw =>
        refine ⟨_, spans_digitGroup.mpr ⟨d, s :: (w ++ rest), rfl, hd, .inr ⟨s, w ++ rest, rfl, hs, rfl⟩⟩,
          ih.mpr ⟨w, rest, rfl, hw, ?_⟩⟩
        rw [List.append_assoc]
        rfl

lemma spans_boundary : (Regex.look .wordBoundary false).Spans (between a b) q ↔ Edge a b ∧ q = between a b :=
  and_congr bne_iff_ne eq_comm

lemma spans_card : cardRegex.Spans (between a b) q ↔
    ∃ w c, b = w ++ c ∧ Candidate a w c ∧ q = between (a ++ w) c := by
  constructor
  · rintro ⟨m, hm, m', ⟨k, hleast, hmost, hgroups⟩, m'', hdigit, hq⟩
    obtain ⟨hfirst, rfl⟩ := spans_boundary.mp hm
    obtain ⟨w, c, rfl, hw, rfl⟩ := (spans_groups k).mp ⟨m', hgroups, hdigit⟩
    obtain ⟨hlast, rfl⟩ := spans_boundary.mp hq
    exact ⟨w, c, rfl, ⟨hfirst, ⟨k, hleast, hmost 18 rfl, hw⟩, hlast⟩, rfl⟩
  · rintro ⟨w, c, rfl, ⟨hfirst, ⟨k, hleast, hmost, hw⟩, hlast⟩, rfl⟩
    obtain ⟨m', hgroups, hdigit⟩ := (spans_groups k).mpr ⟨w, c, rfl, hw, rfl⟩
    refine ⟨_, spans_boundary.mpr ⟨hfirst, rfl⟩, m', ⟨k, hleast, ?_, hgroups⟩, _, hdigit,
      spans_boundary.mpr ⟨hlast, rfl⟩⟩
    rintro m ⟨⟩
    exact hmost

end

/-! ### Candidates in a text -/

/-- The program that looks for card numbers. -/
def cardProgram : Program := .ofRegex cardRegex

variable {a c w run : List Char} {s : Span}

/-- What stands around a part of a text does not go on with its words. -/
structure Delimited (a c : List Char) : Prop where
  before : a.getLast?.any Unicode.isWord = false
  after : c.head?.any Unicode.isWord = false

/-- A separator joins a part of a text to a digit in front of it or behind it. -/
def Joined (a c : List Char) : Prop :=
  (∃ u d s, a = u ++ [d, s] ∧ Unicode.isDigit d = true ∧ isSeparator s = true) ∨
    ∃ s d v, c = s :: d :: v ∧ isSeparator s = true ∧ Unicode.isDigit d = true

lemma matches_card {b : List Char} {q : Place} : cardProgram.Matches (Place.between a b) q ↔
    ∃ w c, b = w ++ c ∧ Candidate a w c ∧ q = Place.between (a ++ w) c :=
  (Program.accepts_ofRegex cardRegex).trans spans_card

lemma Candidate.ne_nil (h : Candidate a w c) : w ≠ [] := by
  obtain ⟨n, -, -, hw⟩ := h.grouped
  obtain ⟨d, rest, rfl, -⟩ := hw.head
  exact List.cons_ne_nil d rest

lemma candidate_of_mem {cs : List Char} (h : s ∈ cardProgram.occurrences cs) : ∃ a w c, cs = a ++ w ++ c ∧
    Candidate a w c ∧ s = ⟨Text.byteLength a, Text.byteLength (a ++ w)⟩ := by
  obtain ⟨p, q, ⟨a, b, rfl, rfl⟩, hmatches, rfl⟩ := Program.matches_of_mem_occurrences h
  obtain ⟨w, c, rfl, hw, rfl⟩ := matches_card.mp hmatches
  exact ⟨a, w, c, (List.append_assoc ..).symm, hw, rfl⟩

/-- No word begins or ends within a word. -/
lemma not_edge {x y : List Char} (hx : x ≠ []) (hy : y ≠ []) (h : ∀ d ∈ x ++ y, Unicode.isWord d = true) :
    ¬ Edge (a ++ x) (y ++ c) := by
  obtain ⟨x, e, rfl⟩ := (List.eq_nil_or_concat x).resolve_left hx
  obtain ⟨f, y, rfl⟩ := List.exists_cons_of_ne_nil hy
  have he : Unicode.isWord e = true := h e (by simp)
  have hf : Unicode.isWord f = true := h f (by simp)
  simp [Edge, ← List.append_assoc, he, hf]

/-- A word that stands by itself begins and ends at an edge. -/
lemma Delimited.edges (h : Delimited a c) (hrun : run ≠ []) (hword : ∀ d ∈ run, Unicode.isWord d = true) :
    Edge a (run ++ c) ∧ Edge (a ++ run) c := by
  refine ⟨?_, ?_⟩
  · obtain ⟨d, rest, rfl⟩ := List.exists_cons_of_ne_nil hrun
    simp [Edge, h.before, hword d List.mem_cons_self]
  · obtain ⟨rest, d, rfl⟩ := (List.eq_nil_or_concat run).resolve_left hrun
    simp [Edge, ← List.append_assoc, h.after, hword d (by simp)]

/-- A run of digits that is a word of its own is a candidate by itself. -/
lemma candidate_of_digits (hdigits : ∀ d ∈ run, Unicode.isDigit d = true) (hleast : 13 ≤ run.length)
    (hmost : run.length ≤ 19) (h : Delimited a c) : Candidate a run c := by
  have hrun : run ≠ [] := List.ne_nil_of_length_pos (by omega)
  obtain ⟨hfirst, hlast⟩ := h.edges hrun fun d hd => Unicode.isWord_of_isDigit (hdigits d hd)
  obtain ⟨d, rest, rfl⟩ := List.exists_cons_of_ne_nil hrun
  rw [List.length_cons] at hleast hmost
  exact ⟨hfirst, ⟨rest.length, by omega, by omega, .of_digits hdigits⟩, hlast⟩

/-- **Every run of thirteen to nineteen digits that is a word of its own is looked at.** It lies within a candidate that
is listed. -/
theorem exists_candidate (hdigits : ∀ d ∈ run, Unicode.isDigit d = true) (hleast : 13 ≤ run.length)
    (hmost : run.length ≤ 19) (h : Delimited a c) : ∃ u x y v, a = u ++ x ∧ c = y ++ v ∧ Candidate u (x ++ run ++ y) v ∧
    ⟨Text.byteLength u, Text.byteLength (u ++ (x ++ run ++ y))⟩ ∈ cardProgram.occurrences (a ++ run ++ c) := by
  have hpos (p q : Place) (hp : p.In (a ++ run ++ c)) (hmatches : cardProgram.Matches p q) : p.index < q.index := by
    obtain ⟨u, b, -, rfl⟩ := hp
    obtain ⟨w, v, -, hw, rfl⟩ := matches_card.mp hmatches
    have hlength := List.length_pos_iff.mpr hw.ne_nil
    simp only [Place.between, List.length_append]
    omega
  have hplace : (Place.between a (run ++ c)).In (a ++ run ++ c) := ⟨a, run ++ c, (List.append_assoc ..).symm, rfl⟩
  obtain ⟨p, q, ⟨u, b, hub, rfl⟩, hmatches, hbegun, hwithin, hmem⟩ :=
    Program.exists_mem_occurrences hpos hplace
      (matches_card.mpr ⟨run, c, rfl, candidate_of_digits hdigits hleast hmost h, rfl⟩)
  obtain ⟨w, v, rfl, hw, rfl⟩ := matches_card.mp hmatches
  simp only [Place.between] at hbegun hwithin hmem
  rw [← List.append_assoc] at hub
  have hu : u <+: a ++ run ++ c := ⟨w ++ v, by rw [← List.append_assoc, hub]⟩
  have ha : a <+: a ++ run ++ c := ⟨run ++ c, (List.append_assoc ..).symm⟩
  obtain ⟨x, rfl⟩ : u <+: a := List.prefix_of_prefix_length_le hu ha hbegun
  -- the candidate does not end within the run, where no word ends
  have hend : (u ++ x ++ run).length ≤ (u ++ w).length := by
    by_contra hshort
    obtain ⟨r, hr⟩ : u ++ x <+: u ++ w := List.prefix_of_prefix_length_le ha ⟨v, hub⟩ hwithin.le
    obtain ⟨r', hr'⟩ : u ++ w <+: u ++ x ++ run :=
      List.prefix_of_prefix_length_le ⟨v, hub⟩ ⟨c, rfl⟩ (Nat.not_le.mp hshort).le
    obtain rfl : r ++ r' = run := by simpa [← hr, List.append_assoc] using hr'
    obtain rfl : v = r' ++ c := by simpa [← hr, List.append_assoc] using hub
    have hlast := hw.last
    rw [← hr] at hlast hwithin hshort
    refine not_edge (a := u ++ x) ?_ ?_ (fun d hd => Unicode.isWord_of_isDigit (hdigits d hd)) hlast
    · rintro rfl
      simp at hwithin
    · rintro rfl
      simp at hshort
  obtain ⟨y, hy⟩ : u ++ x ++ run <+: u ++ w := List.prefix_of_prefix_length_le ⟨c, rfl⟩ ⟨v, hub⟩ hend
  obtain rfl : x ++ run ++ y = w := by simpa [List.append_assoc] using hy
  obtain rfl : y ++ v = c := by simpa [List.append_assoc] using hub
  exact ⟨u, x, y, v, rfl, rfl, hw, hmem⟩

/-- A candidate reaches beyond a run of digits that is a word of its own only over a separator to another digit. -/
lemma Candidate.alone {u x y v : List Char} (hw : Candidate u (x ++ run ++ y) v) (hdelimited : Delimited (u ++ x) (y ++ v))
    (halone : ¬ Joined (u ++ x) (y ++ v)) : x = [] ∧ y = [] := by
  obtain ⟨n, -, -, hgrouped⟩ := hw.grouped
  refine ⟨by_contra fun hx => halone (.inl ?_), by_contra fun hy => halone (.inr ?_)⟩
  · obtain ⟨x, s, rfl⟩ := (List.eq_nil_or_concat x).resolve_left hx
    have hsplit : Grouped n (x ++ s :: (run ++ y)) := by simpa [List.append_assoc] using hgrouped
    rcases hsplit.digit_or with hdigit | ⟨hs, ⟨t, d, rfl, hd⟩, -⟩
    · have hword := Unicode.isWord_of_isDigit hdigit
      have hbefore := hdelimited.before
      simp [← List.append_assoc, hword] at hbefore
    · exact ⟨u ++ t, d, s, by simp, hd, hs⟩
  · obtain ⟨s, y, rfl⟩ := List.exists_cons_of_ne_nil hy
    rcases hgrouped.digit_or with hdigit | ⟨hs, -, d, t, rfl, hd⟩
    · have hword := Unicode.isWord_of_isDigit hdigit
      have hafter := hdelimited.after
      simp [hword] at hafter
    · exact ⟨s, d, t ++ v, by simp, hs, hd⟩

end Pattern

end Guardrail
