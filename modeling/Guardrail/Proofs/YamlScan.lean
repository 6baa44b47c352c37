import Guardrail.Proofs.YamlScalars

/-!
From one token of a written text to the next.

Between two tokens of a written text the scanner is at a `Spot`: what is left of the text, the column, the open
collections, and whether a key may begin. Each piece of a written text, a scalar at the end of a line, a key and its
colon, a dash, an empty collection, leads from one spot to the next, whatever the position in the text.
-/

namespace Guardrail.Yaml

open Scan

namespace Scan

/-- A scan gets to another one by so many tokens. -/
def Runs (n : ℕ) (s s' : Scan) : Prop := ∀ fuel, all (n + fuel) s = all fuel s'

variable {m n : ℕ} {s s' s'' : Scan}

lemma Runs.trans (h : Runs m s s') (h' : Runs n s' s'') : Runs (m + n) s s'' := by
  intro fuel
  rw [add_assoc, h, h']

/-- Where the next token begins at the same place, nothing is left to do. -/
lemma runs_of_settle? (h : s.settle? = s'.settle?) : Runs 0 s s' := by
  intro fuel
  cases fuel with
  | zero => rfl
  | succ fuel => simp [all, next?, h]

lemma runs_token {settled : Scan} {c : Char} {rest : List Char} (h : s.settle? = some settled)
    (hrest : settled.rest = c :: rest) (htoken : settled.token? c rest = some s') : Runs 1 s s' := by
  intro fuel
  rw [add_comm]
  simp [all, next?, h, hrest, htoken]

end Scan

/-- Where the scanner stands between two tokens, but for the position in the text. -/
structure Spot where
  rest : List Char
  column : ℕ
  tokens : List Token
  indents : List ℤ
  allowed : Bool

namespace Spot

/-- The scan at a spot, behind so many characters and lines, with a pending key or none. -/
def scan (a : Spot) (index line : ℕ) (key : Option PendingKey) : Scan :=
  ⟨a.rest, index, line, a.column, a.tokens.toArray, a.indents, a.allowed, [key]⟩

/-- The column of the innermost block collection. -/
def indent (a : Spot) : ℤ := a.indents.headD (-1)

/-- The key that may begin at a spot. -/
def key (a : Spot) (index line : ℕ) : Option PendingKey :=
  if a.allowed then some ⟨a.tokens.length, index, line, a.column, a.indent == a.column⟩ else none

variable {a : Spot} {index line : ℕ}

@[simp] lemma scan_rest (key : Option PendingKey) : (a.scan index line key).rest = a.rest := rfl

lemma inFlow_scan (key : Option PendingKey) : (a.scan index line key).inFlow = false := rfl

lemma saveKey_scan : (a.scan index line none).saveKey = some (a.scan index line (a.key index line)) := by
  unfold saveKey key
  cases hallowed : a.allowed
  · simp [scan, hallowed]
  · simp [scan, dropKey, inFlow, Scan.indent, indent, hallowed]

/-- The spot after a scalar of a length. -/
def past (a : Spot) (length : ℕ) (t : Token) (rest : List Char) : Spot :=
  ⟨rest, a.column + length, a.tokens ++ [t], a.indents, false⟩

/-- The scan where a scalar begins: it may turn out to be a key, and no other key may begin before it ends. -/
def begun (a : Spot) (index line : ℕ) : Scan :=
  ({ a with allowed := false } : Spot).scan index line (a.key index line)

lemma scan_disallowed :
    { a.scan index line (a.key index line) with keyAllowed := false } = a.begun index line := rfl

lemma skip_emit (t : Token) {cs rest : List Char} (hrest : a.rest = cs ++ rest) :
    ((a.begun index line).skip cs.length).emit t =
      (a.past cs.length t rest).scan (index + cs.length) line (a.key index line) := by
  simp [Scan.skip, begun, scan, emit, past, hrest]

lemma text_reverse {p : Pending} {cs : List Char} (hp : p.Word cs.reverse) (hblanks : p.blanks = []) :
    p.text.reverse = cs := by
  have h := hp.holds.2
  simp only [hblanks, List.nil_append] at h
  simp [h]

/-- A word before a colon. -/
lemma plain?_colon {cs rest : List Char} (hrest : a.rest = cs ++ ':' :: rest) (hcs : Word cs) (hgap : atGap rest = true)
    (hindent : a.indent ≤ a.column) (hmarker : (a.scan index line none).atMarker = false) :
    (a.scan index line none).plain? = some ((a.past cs.length (.scalar (String.ofList cs) true) (':' :: rest)).scan
      (index + cs.length) line (a.key index line)) := by
  obtain ⟨p, hp, hblanks, hread⟩ := plainFrom_word (a.indent + 1) (rest.length + 1 + 1)
    (s := a.begun index line) hrest hcs (by simp [begun, scan, hindent]) hmarker rfl
  have hcolon := plainFrom_colon (a.indent + 1) (rest.length + 1) hp hblanks
    (s := (a.begun index line).skip cs.length) (by simp [begun, hrest]) hgap rfl
  have hlength : a.rest.length + 1 = rest.length + 1 + 1 + cs.length := by
    simp [hrest]
    omega
  unfold plain?
  simp only [saveKey_scan, bind, Option.bind_some, scan_disallowed]
  change (plainFrom (a.indent + 1) (a.rest.length + 1) _ _).bind _ = _
  rw [hlength, hread, hcolon, Option.bind_some]
  simp only [hp.holds.1, text_reverse hp hblanks, Bool.false_eq_true, if_false]
  exact congrArg some (skip_emit _ hrest)

/-- The spot at the next line. -/
def below (a : Spot) (k : ℕ) (t : Token) (rest : List Char) : Spot := ⟨rest, k, a.tokens ++ [t], a.indents, true⟩

/-- A word at the end of a line. -/
lemma plain?_newline {cs rest : List Char} {k : ℕ} (hrest : a.rest = cs ++ '\n' :: List.replicate k ' ' ++ rest)
    (hcs : Word cs) (hstarts : Starts rest) (hk : rest = [] ∨ (k : ℤ) ≤ a.indent) (hindent : a.indent ≤ a.column)
    (hmarker : (a.scan index line none).atMarker = false) :
    (a.scan index line none).plain? = some ((a.below k (.scalar (String.ofList cs) true) rest).scan
      (index + cs.length + 1 + k) (line + 1) (a.key index line)) := by
  rw [List.append_assoc] at hrest
  obtain ⟨p, hp, hblanks, hread⟩ := plainFrom_word (a.indent + 1) (rest.length + k + 2)
    (s := a.begun index line) hrest hcs (by simp [begun, scan, hindent]) hmarker rfl
  obtain ⟨p', htext, hbroken, hnewline⟩ := plainFrom_newline (a.indent + 1) rest.length k hp hblanks
    (s := (a.begun index line).skip cs.length) (by simp [begun, hrest]) hstarts (hk.imp_right (by omega)) rfl
  have hlength : a.rest.length + 1 = rest.length + k + 2 + cs.length := by
    simp [hrest]
    omega
  unfold plain?
  simp only [saveKey_scan, bind, Option.bind_some, scan_disallowed]
  change (plainFrom (a.indent + 1) (a.rest.length + 1) _ _).bind _ = _
  rw [hlength, hread, hnewline, Option.bind_some]
  simp only [hbroken, htext, List.reverse_reverse, if_true]
  simp [nextLine, begun, scan, emit, below, Scan.skip, pure]

/-- A word is no marker, whatever ends it. -/
lemma atMarker_word {s : Scan} {cs rest : List Char} (hs : s.rest = cs ++ rest) (hcs : Word cs)
    (hrest : ∃ d more, rest = d :: more ∧ d ≠ '-' ∧ d ≠ '.') : s.atMarker = false := by
  obtain ⟨d, more, rfl, hdash, hpoint⟩ := hrest
  have hbegins := hcs.begins
  unfold atMarker
  rw [hs]
  match cs, hbegins with
  | [c], _ => simp [hdash, hpoint]
  | [c, c'], _ => simp [hdash, hpoint]
  | c :: c' :: c'' :: cs, hbegins =>
    simp only [List.cons_append]
    split <;> simp_all [beginsWord]

/-- The scanner takes a word for one. -/
lemma token?_word {c : Char} {cs rest : List Char} (hrest : a.rest = c :: cs ++ rest) (hcs : Word (c :: cs))
    (hmarker : (a.scan index line none).atMarker = false) :
    (a.scan index line none).token? c (cs ++ rest) = (a.scan index line none).plain? := by
  obtain ⟨hmark, hspace, hsign⟩ := hcs.first
  have hother (d : Char) (hd : d ∈ leadingMarks) : c ≠ d := by
    rintro rfl
    exact hmark hd
  have hgap (hc : c = '?' ∨ c = ':' ∨ c = '-') : atGap (cs ++ rest) = false := by
    obtain ⟨hne, hhead⟩ := hsign hc
    obtain ⟨d, cs, rfl⟩ := List.exists_cons_of_ne_nil hne
    have hd : standsAlone d = true := List.all_eq_true.mp hcs.alone d (by simp)
    by_contra h
    rw [Bool.not_eq_false, List.cons_append, atGap_cons hd] at h
    simp [h] at hhead
  unfold token?
  rw [if_neg (by simp [hother '%' (by decide)]), if_neg (by simp [hmarker])]
  split
  all_goals try exact absurd (by decide) hmark
  have hplain : ("-?:".toList.contains c || !("#|>%@`".toList.contains c || isBlank c)) = true := by
    have hc : standsAlone c = true := List.all_eq_true.mp hcs.alone c List.mem_cons_self
    have hblank : isBlank c = false := by
      rw [← Bool.not_eq_true, isBlank_of_standsAlone hc]
      exact hspace
    simp [hblank, hother '#' (by decide), hother '|' (by decide), hother '>' (by decide), hother '%' (by decide),
      hother '@' (by decide), hother '\x60' (by decide)]
  rw [if_neg, if_neg, if_neg, if_neg, if_neg, if_pos hplain]
  · simp [hother '>' (by decide)]
  · simp [hother '|' (by decide)]
  · intro h
    simp only [Bool.and_eq_true, beq_iff_eq, inFlow_scan, Bool.false_or] at h
    rw [hgap (.inr (.inl h.1))] at h
    exact absurd h.2 (by decide)
  · intro h
    simp only [Bool.and_eq_true, beq_iff_eq, inFlow_scan, Bool.false_or] at h
    rw [hgap (.inl h.1)] at h
    exact absurd h.2 (by decide)
  · intro h
    simp only [Bool.and_eq_true, beq_iff_eq] at h
    rw [hgap (.inr (.inr h.1))] at h
    exact absurd h.2 (by decide)

lemma length_le_length_flatMap {f : Char → List Char} (hf : ∀ c, f c ≠ []) (cs : List Char) :
    cs.length ≤ (cs.flatMap f).length := by
  have hone : ∀ n ∈ cs.map fun c => (f c).length, 1 ≤ n := by
    simpa [Nat.one_le_iff_ne_zero] using fun c _ => hf c
  simpa [List.length_flatMap] using List.length_le_sum_of_one_le _ hone

lemma doubleQuote_ne_nil (c : Char) : doubleQuote c ≠ [] := by
  unfold doubleQuote
  split <;> exact List.cons_ne_nil _ _

lemma escape_ne_nil (c : Char) : escape c ≠ [] := by
  rcases escape_cases c with ⟨d, h, -⟩ | ⟨h, -⟩ | ⟨d, places, h, -⟩ <;> rw [h] <;> exact List.cons_ne_nil _ _

/-- The scan behind an opening quote. -/
def inside (a : Spot) (index line : ℕ) : Scan := (a.begun index line).skip 1

lemma skip_inside (n : ℕ) (t : Token) {written rest : List Char} (hrest : a.rest = written ++ rest)
    (hlength : n + 1 = written.length) : ((a.inside index line).skip n).emit t =
      (a.past written.length t rest).scan (index + written.length) line (a.key index line) := by
  rw [inside, skip_skip, add_comm, hlength, skip_emit t hrest]

/-- There is fuel for every character between quotes. -/
lemma length_lt_of_quoted {f : Char → List Char} (hf : ∀ c, f c ≠ []) {quote : Char} {cs rest : List Char}
    (hrest : a.rest = quote :: cs.flatMap f ++ [quote] ++ rest) : cs.length < a.rest.length + 1 := by
  have hlength := length_le_length_flatMap hf cs
  rw [hrest, List.length_append, List.length_append, List.length_cons]
  omega

/-- A scalar between single quotes, whatever follows it but another quote. -/
lemma token?_single (index line : ℕ) {cs rest : List Char} (hcs : cs.all standsAlone = true)
    (hrest : a.rest = '\'' :: cs.flatMap doubleQuote ++ ['\''] ++ rest) (hnext : rest.head? ≠ some '\'')
    (tail : List Char) : (a.scan index line none).token? '\'' tail =
      some ((a.past ('\'' :: cs.flatMap doubleQuote ++ ['\'']).length (.scalar (String.ofList cs) false) rest).scan
        (index + ('\'' :: cs.flatMap doubleQuote ++ ['\'']).length) line (a.key index line)) := by
  have hmarker : (a.scan index line none).atMarker = false := by simp [atMarker, scan, hrest]
  have hinside : (a.inside index line).rest = cs.flatMap doubleQuote ++ '\'' :: rest := by simp [inside, begun, hrest]
  have hfuel := length_lt_of_quoted doubleQuote_ne_nil hrest
  unfold token?
  rw [if_neg (by simp), if_neg (by simp [hmarker])]
  simp only [saveKey_scan, bind, Option.bind_some]
  change quotedFrom false (a.rest.length + 1) .empty (a.inside index line) = _
  rw [quotedFrom_single hcs hinside hnext (by simp [inside]) hfuel]
  exact congrArg some (skip_inside _ _ hrest (by simp))

/-- A scalar between double quotes. -/
lemma token?_double (index line : ℕ) {cs rest : List Char} (hrest : a.rest = '"' :: cs.flatMap escape ++ ['"'] ++ rest)
    (tail : List Char) : (a.scan index line none).token? '"' tail =
      some ((a.past ('"' :: cs.flatMap escape ++ ['"']).length (.scalar (String.ofList cs) false) rest).scan
        (index + ('"' :: cs.flatMap escape ++ ['"']).length) line (a.key index line)) := by
  have hmarker : (a.scan index line none).atMarker = false := by simp [atMarker, scan, hrest]
  have hinside : (a.inside index line).rest = cs.flatMap escape ++ '"' :: rest := by simp [inside, begun, hrest]
  have hfuel := length_lt_of_quoted escape_ne_nil hrest
  unfold token?
  rw [if_neg (by simp), if_neg (by simp [hmarker])]
  simp only [saveKey_scan, bind, Option.bind_some]
  change quotedFrom true (a.rest.length + 1) .empty (a.inside index line) = _
  rw [quotedFrom_double hinside (by simp [inside]) hfuel]
  exact congrArg some (skip_inside _ _ hrest (by simp))

/-! ### Between tokens -/

/-- The text begins with a token, or it is at its end. -/
lemma toToken_starts {s : Scan} (h : Starts s.rest) (n : ℕ) : toToken n s = s := by
  cases n with
  | zero => rfl
  | succ n =>
    have hstep := toToken.eq_def (n + 1) s
    cases hrest : s.rest with
    | nil => simpa [hrest] using hstep
    | cons c rest =>
      rw [hrest] at h
      obtain ⟨hbreak, hblank, hhash, hmark⟩ := h c rfl
      have hspace : c ≠ ' ' := by
        rintro rfl
        cases hblank
      have htab : c ≠ '\t' := by
        rintro rfl
        cases hblank
      simpa [hrest, hbreak, hspace, htab, hhash, hmark] using hstep

lemma unroll_of_le (h : a.indent ≤ a.column) (key : Option PendingKey) :
    (a.scan index line key).unroll a.column = a.scan index line key := by
  obtain ⟨rest, column, tokens, indents, allowed⟩ := a
  cases indents with
  | nil => rfl
  | cons i indents =>
    have hle : ¬ (column : ℤ) < i := not_lt.mpr h
    simp [Scan.unroll, scan, unrollFrom, hle]

lemma dropStale_none : (a.scan index line none).dropStale = some (a.scan index line none) := rfl

lemma mapM_eq_some_self {α : Type} {f : α → Option α} {as : List α} (h : ∀ a ∈ as, f a = some a) :
    as.mapM f = some as := by
  induction as with
  | nil => rfl
  | cons a as ih =>
    obtain ⟨ha, has⟩ := List.forall_mem_cons.mp h
    simp [List.mapM_cons, ha, ih has]

/-- Keys that began on this line, not too far back, are still pending. -/
lemma dropStale_of_fresh {s : Scan} (h : ∀ k, some k ∈ s.keys → k.line = s.line ∧ s.index ≤ k.index + 1024) :
    s.dropStale = some s := by
  unfold dropStale
  rw [mapM_eq_some_self]
  · rfl
  · intro k hk
    cases k with
    | none => rfl
    | some k =>
      obtain ⟨hline, hindex⟩ := h k hk
      simpa [hline] using hindex

/-- A key that began on an earlier line is given up, if something else may stand there. -/
lemma dropStale_stale {k : PendingKey} (hline : k.line < line) (hrequired : k.required = false) :
    (a.scan index line (some k)).dropStale = some (a.scan index line none) := by
  simp only [dropStale, scan, List.mapM_cons, List.mapM_nil, hline, hrequired, decide_true, Bool.true_or, if_true]
  rfl

lemma settle?_of_le (hstarts : Starts a.rest) (h : a.indent ≤ a.column) :
    (a.scan index line none).settle? = some (a.scan index line none) := by
  rw [settle?, toToken_starts hstarts, dropStale_none, Option.map_some]
  exact congrArg some (unroll_of_le h none)

lemma settle?_pending {k : PendingKey} (hstarts : Starts a.rest) (h : a.indent ≤ a.column) (hline : k.line = line)
    (hindex : index ≤ k.index + 1024) :
    (a.scan index line (some k)).settle? = some (a.scan index line (some k)) := by
  have hfresh : (a.scan index line (some k)).dropStale = some (a.scan index line (some k)) := by
    refine dropStale_of_fresh fun k' hk' => ?_
    obtain rfl : k' = k := by simpa [scan] using hk'
    exact ⟨hline, hindex⟩
  rw [settle?, toToken_starts hstarts, hfresh, Option.map_some]
  exact congrArg some (unroll_of_le h (some k))

lemma settle?_stale {k : PendingKey} (hstarts : Starts a.rest) (hline : k.line < line)
    (hrequired : k.required = false) : (a.scan index line (some k)).settle? = (a.scan index line none).settle? := by
  rw [settle?, settle?, toToken_starts hstarts, toToken_starts hstarts, dropStale_stale hline hrequired, dropStale_none]

lemma settle?_blank {rest : List Char} (hrest : a.rest = ' ' :: rest) (key : Option PendingKey) :
    (a.scan index line key).settle? =
      (({ a with rest, column := a.column + 1 } : Spot).scan (index + 1) line key).settle? := by
  obtain ⟨_, column, tokens, indents, allowed⟩ := a
  cases hrest
  rfl

lemma settle?_break {rest : List Char} (hrest : a.rest = '\n' :: rest) (key : Option PendingKey) :
    (a.scan index line key).settle? =
      (({ a with rest, column := 0, allowed := true } : Spot).scan (index + 1) (line + 1) key).settle? := by
  obtain ⟨_, column, tokens, indents, allowed⟩ := a
  cases hrest
  rfl

lemma settle?_blanks {rest : List Char} {k : ℕ} (hrest : a.rest = List.replicate k ' ' ++ rest)
    (key : Option PendingKey) : (a.scan index line key).settle? =
      (({ a with rest, column := a.column + k } : Spot).scan (index + k) line key).settle? := by
  induction k generalizing a index with
  | zero =>
    obtain ⟨_, column, tokens, indents, allowed⟩ := a
    cases hrest
    rfl
  | succ k ih =>
    rw [List.replicate_succ, List.cons_append] at hrest
    rw [settle?_blank hrest, ih rfl]
    simp [add_comm, add_left_comm]

/-- A block collection further right than the next token is closed. -/
lemma settle?_close {i : ℤ} {indents : List ℤ} (hstarts : Starts a.rest) (hindents : a.indents = i :: indents)
    (h : (a.column : ℤ) < i) : (a.scan index line none).settle? =
      (({ a with tokens := a.tokens ++ [.blockEnd], indents } : Spot).scan index line none).settle? := by
  obtain ⟨rest, column, tokens, _, allowed⟩ := a
  cases hindents
  rw [settle?, settle?, toToken_starts hstarts, toToken_starts hstarts]
  simp only [dropStale_none, Option.map_some]
  simp [Scan.unroll, inFlow, scan, unrollFrom, h]

/-! ### From spot to spot -/

variable {b : Spot}

/-- Wherever in the text the spot is, the scanner gets from there to another one, with at most one token for each
character. -/
def Leads (a b : Spot) : Prop :=
  ∀ index line, ∃ n index' line', n + b.rest.length ≤ a.rest.length ∧
    Runs n (a.scan index line none) (b.scan index' line' none)

lemma Leads.trans {c : Spot} (h : Leads a b) (h' : Leads b c) : Leads a c := by
  intro index line
  obtain ⟨m, index₁, line₁, hm, hrun⟩ := h index line
  obtain ⟨n, index₂, line₂, hn, hrun'⟩ := h' index₁ line₁
  exact ⟨m + n, index₂, line₂, by omega, hrun.trans hrun'⟩

/-- The blanks in front of a token. -/
lemma leads_blanks {rest : List Char} {k : ℕ} (hrest : a.rest = List.replicate k ' ' ++ rest) :
    Leads a { a with rest, column := a.column + k } := by
  intro index line
  exact ⟨0, index + k, line, by simp [hrest], runs_of_settle? (settle?_blanks hrest none)⟩

/-- The end of a line and the indentation of the next. -/
lemma leads_newline {rest : List Char} {k : ℕ} (hrest : a.rest = '\n' :: List.replicate k ' ' ++ rest) :
    Leads a { a with rest, column := k, allowed := true } := by
  intro index line
  refine ⟨0, index + 1 + k, line + 1, by simp [hrest]; omega, runs_of_settle? ?_⟩
  rw [settle?_break hrest, settle?_blanks rfl]
  simp

/-- A block collection further right than the next token. -/
lemma leads_close {i : ℤ} {indents : List ℤ} (hstarts : Starts a.rest) (hindents : a.indents = i :: indents)
    (h : (a.column : ℤ) < i) : Leads a { a with tokens := a.tokens ++ [.blockEnd], indents } :=
  fun index line => ⟨0, index, line, by simp, runs_of_settle? (settle?_close hstarts hindents h)⟩

/-- A key that may begin but not must is given up on the next line. -/
lemma settle?_key (h : a.indent < a.column) {b : Spot} (hstarts : Starts b.rest) (index index' line : ℕ) :
    (b.scan index (line + 1) (a.key index' line)).settle? = (b.scan index (line + 1) none).settle? := by
  rw [key]
  split
  · exact settle?_stale hstarts (Nat.lt_succ_self line) (by simpa using h.ne)
  · rfl

lemma settle?_below (h : a.indent < a.column) {rest : List Char} (hstarts : Starts rest) {k n : ℕ} (t : Token)
    (index index' line : ℕ) :
    ((a.past n t ('\n' :: List.replicate k ' ' ++ rest)).scan index line (a.key index' line)).settle? =
      ((a.below k t rest).scan (index + 1 + k) (line + 1) none).settle? := by
  rw [settle?_break rfl, settle?_blanks rfl, ← settle?_key h hstarts (index + 1 + k) index' line]
  simp [past, below]

/-- A scalar begins with none of the marks between tokens. -/
lemma starts_of_writes {w : List Char} {t : Token} (hw : Writes w t) :
    ∃ c cs, w = c :: cs ∧ Starts [c] := by
  cases hw with
  | plain h =>
    cases w with
    | nil => cases h.begins
    | cons c cs =>
      obtain ⟨hmark, hspace, -⟩ := h.first
      have hc : standsAlone c = true := List.all_eq_true.mp h.alone c List.mem_cons_self
      refine ⟨c, cs, rfl, ?_⟩
      rintro _ ⟨⟩
      refine ⟨isBreak_of_standsAlone hc, ?_, ?_, ?_⟩
      · rwa [← Bool.not_eq_true, isBlank_of_standsAlone hc]
      · rintro rfl
        exact hmark (by decide)
      · rintro rfl
        cases hc
  | single h => exact ⟨_, _, rfl, by rintro _ ⟨⟩; decide⟩
  | double cs => exact ⟨_, _, rfl, by rintro _ ⟨⟩; decide⟩

/-- A scalar at the end of a line. -/
lemma leads_scalar {w rest : List Char} {k : ℕ} {t : Token} (hw : Writes w t)
    (hrest : a.rest = w ++ '\n' :: List.replicate k ' ' ++ rest) (hstarts : Starts rest)
    (hk : (k : ℤ) ≤ a.indent) (h : a.indent < a.column) : Leads a (a.below k t rest) := by
  obtain ⟨c, cs, rfl, hbegins⟩ := starts_of_writes hw
  intro index line
  have hmarker : (a.scan index line none).atMarker = false := by
    apply atMarker_eq_false
    change a.column ≠ 0
    omega
  have hfirst : Starts a.rest := by
    rw [hrest]
    exact hbegins
  have hsettled : (a.scan index line none).settle? = some (a.scan index line none) := settle?_of_le hfirst h.le
  have hlength : 1 + (a.below k t rest).rest.length ≤ a.rest.length := by
    simp [hrest, below]
    omega
  cases hw with
  | plain hcs =>
    have htoken := token?_word (hrest.trans (List.append_assoc _ _ _)) hcs hmarker
    rw [plain?_newline hrest hcs hstarts (.inr hk) h.le hmarker] at htoken
    exact ⟨1 + 0, _, _, hlength, (runs_token hsettled (hrest.trans (List.append_assoc _ _ _)) htoken).trans
      (runs_of_settle? (settle?_key h hstarts _ _ _))⟩
  | single hcs =>
    rw [List.append_assoc] at hrest
    have htoken := token?_single index line hcs hrest (by simp)
    exact ⟨1 + 0, _, _, hlength, (runs_token hsettled hrest (htoken _)).trans
      (runs_of_settle? (settle?_below h hstarts _ _ _ _))⟩
  | double cs =>
    rw [List.append_assoc] at hrest
    have htoken := token?_double index line hrest
    exact ⟨1 + 0, _, _, hlength, (runs_token hsettled hrest (htoken _)).trans
      (runs_of_settle? (settle?_below h hstarts _ _ _ _))⟩

/-- A scalar before a colon. -/
lemma token?_colon {c : Char} {cs rest : List Char} {t : Token} (hw : Writes (c :: cs) t)
    (hrest : a.rest = c :: cs ++ ':' :: rest) (hgap : atGap rest = true) (h : a.indent ≤ a.column) :
    (a.scan index line none).token? c (cs ++ ':' :: rest) =
      some ((a.past (c :: cs).length t (':' :: rest)).scan (index + (c :: cs).length) line (a.key index line)) := by
  generalize hscalar : c :: cs = w at hw hrest
  cases hw with
  | plain hcs =>
    subst hscalar
    have hmarker : (a.scan index line none).atMarker = false :=
      atMarker_word (s := a.scan index line none) hrest hcs ⟨':', rest, rfl, by decide, by decide⟩
    rw [token?_word hrest hcs hmarker, plain?_colon hrest hcs hgap h hmarker]
  | single hcs =>
    cases hscalar
    exact token?_single index line hcs hrest (by simp) _
  | double cs =>
    cases hscalar
    exact token?_double index line hrest _

/-- The token for a collection that opens at a column, unless one is open there. -/
def opening (c : ℕ) (indents : List ℤ) (t : Token) : List Token := if (c : ℤ) ≤ indents.headD (-1) then [] else [t]

/-- The open collections then. -/
def opened (c : ℕ) (indents : List ℤ) : List ℤ := if (c : ℤ) ≤ indents.headD (-1) then indents else c :: indents

lemma insertIdx_length (ts us : List Token) (t : Token) :
    (ts ++ us).toArray.insertIdxIfInBounds ts.length t = (ts ++ t :: us).toArray := by
  rw [List.insertIdxIfInBounds_toArray]
  congr 1
  induction ts with
  | nil => rfl
  | cons u ts ih => simpa using ih

lemma token?_value {s : Scan} {rest : List Char} (hcolumn : s.column ≠ 0) (hgap : atGap rest = true) :
    s.token? ':' rest = s.value? := by
  simp [token?, atMarker_eq_false hcolumn, hgap]

lemma value?_scan (rest : List Char) (c n i l : ℕ) (ts : List Token) (indents : List ℤ) (t : Token) (required : Bool) :
    (Spot.scan ⟨':' :: rest, n, ts ++ [t], indents, false⟩ index line (some ⟨ts.length, i, l, c, required⟩)).value? =
      some (Spot.scan ⟨rest, n + 1, ts ++ opening c indents .blockMapping ++ [.key, t, .value], opened c indents, false⟩
        (index + 1) line none) := by
  unfold value? opening opened
  simp only [scan, insertIdx_length]
  unfold roll
  simp only [insertIdx_length]
  by_cases hopen : (c : ℤ) ≤ indents.headD (-1)
  · rw [if_pos hopen, if_pos hopen, if_pos (by simpa [Scan.indent, inFlow] using hopen)]
    simp [Scan.skip, emit]
  · rw [if_neg hopen, if_neg hopen, if_neg (by simpa [Scan.indent, inFlow] using hopen)]
    simp [Scan.skip, emit]

/-- The key of a member and its colon. -/
lemma leads_key (rest : List Char) (ts : List Token) {w : List Char} {c : ℕ} {indents : List ℤ} {t : Token}
    (hw : Writes w t) (hlength : w.length ≤ 1024) (hgap : atGap rest = true) (h : indents.headD (-1) ≤ c) :
    Leads ⟨w ++ ':' :: rest, c, ts, indents, true⟩ ⟨rest, c + w.length + 1,
      ts ++ opening c indents .blockMapping ++ [.key, t, .value], opened c indents, false⟩ := by
  obtain ⟨d, ds, rfl, hbegins⟩ := starts_of_writes hw
  intro index line
  set a : Spot := ⟨d :: ds ++ ':' :: rest, c, ts, indents, true⟩ with ha
  have hkey : a.key index line = some ⟨ts.length, index, line, c, a.indent == a.column⟩ := rfl
  have hfirst : Runs 1 (a.scan index line none) _ := runs_token (settle?_of_le hbegins h) rfl
    (token?_colon hw rfl hgap h)
  have hcolon : Runs 1
      ((a.past (d :: ds).length t (':' :: rest)).scan (index + (d :: ds).length) line (a.key index line))
      (Spot.scan ⟨rest, c + (d :: ds).length + 1, ts ++ opening c indents .blockMapping ++ [.key, t, .value],
        opened c indents, false⟩ (index + (d :: ds).length + 1) line none) := by
    rw [hkey]
    refine runs_token (settle?_pending ?_ ?_ rfl (Nat.add_le_add_left hlength index)) rfl ?_
    · rintro _ ⟨⟩
      decide
    · change indents.headD (-1) ≤ ((c + (d :: ds).length : ℕ) : ℤ)
      omega
    · exact (token?_value (by simp [past, scan]) hgap).trans
        (value?_scan rest c _ index line ts indents t (a.indent == a.column))
  exact ⟨1 + 1, _, _, by simp [ha]; omega, hfirst.trans hcolon⟩

lemma roll_scan (c : ℕ) (t : Token) (key : Option PendingKey) : (a.scan index line key).roll c none t =
    ({ a with tokens := a.tokens ++ opening c a.indents t, indents := opened c a.indents } : Spot).scan
      index line key := by
  unfold roll opening opened
  by_cases hopen : (c : ℤ) ≤ a.indents.headD (-1)
  · rw [if_pos hopen, if_pos hopen, if_pos (by simpa [Scan.indent, inFlow, scan] using hopen)]
    simp
  · rw [if_neg hopen, if_neg hopen, if_neg (by simpa [Scan.indent, inFlow, scan] using hopen)]
    simp [scan]

lemma token?_dash {s s' : Scan} {rest : List Char} (hs : s.rest = '-' :: ' ' :: rest) (hallowed : s.keyAllowed = true)
    (hroll : s.roll s.column none .blockSequence = s') (hkeys : s'.keys = [none]) :
    s.token? '-' (' ' :: rest) = some (({ s' with keyAllowed := true }.skip 1).emit .blockEntry) := by
  have hgap : atGap (' ' :: rest) = true := rfl
  simp [token?, atMarker, hs, hgap, hallowed, hroll, dropKey, hkeys]

/-- The dash of an item. -/
lemma leads_dash {rest : List Char} {c : ℕ} {ts : List Token} {indents : List ℤ} (h : indents.headD (-1) ≤ c) :
    Leads ⟨'-' :: ' ' :: rest, c, ts, indents, true⟩
      ⟨rest, c + 2, ts ++ opening c indents .blockSequence ++ [.blockEntry], opened c indents, true⟩ := by
  intro index line
  set a : Spot := ⟨'-' :: ' ' :: rest, c, ts, indents, true⟩ with ha
  have hstarts : Starts a.rest := by
    rintro _ ⟨⟩
    decide
  have hdash : Runs 1 (a.scan index line none) _ := runs_token (settle?_of_le hstarts h) rfl
    (token?_dash rfl rfl (roll_scan c .blockSequence none) rfl)
  have hblank : Runs 0 (Spot.scan ⟨' ' :: rest, c + 1, ts ++ opening c indents .blockSequence ++ [.blockEntry],
      opened c indents, true⟩ (index + 1) line none) _ := runs_of_settle? (settle?_blank rfl none)
  exact ⟨1 + 0, _, _, by simp [ha]; omega, hdash.trans (by simpa [scan, Scan.skip, emit, ha] using hblank)⟩

/-- The scan behind an opening bracket. -/
def bracketed (a : Spot) (index line : ℕ) (t : Token) : Scan :=
  (({ a.scan index line (a.key index line) with keys := [none, a.key index line], keyAllowed := true }).skip 1).emit t

lemma settle?_bracketed {t : Token} {c d : Char} {rest : List Char} (hrest : a.rest = d :: c :: rest)
    (hc : Starts [c]) : (a.bracketed index line t).settle? = some (a.bracketed index line t) := by
  have hinside : (a.bracketed index line t).rest = c :: rest := by simp [bracketed, scan, hrest, emit]
  have hstarts : Starts (a.bracketed index line t).rest := by
    rw [hinside]
    exact hc
  have hfresh : (a.bracketed index line t).dropStale = some (a.bracketed index line t) := by
    refine dropStale_of_fresh fun k hk => ?_
    by_cases hallowed : a.allowed = true
    · obtain rfl : k = ⟨a.tokens.length, index, line, a.column, a.indent == a.column⟩ := by
        simpa [bracketed, key, hallowed, Scan.skip, emit] using hk
      exact ⟨rfl, Nat.add_le_add_left (by decide) index⟩
    · simp [bracketed, key, hallowed, Scan.skip, emit] at hk
  rw [settle?, toToken_starts hstarts, hfresh]
  rfl

lemma openFlow_scan (t : Token) : (a.scan index line none).openFlow t = some (a.bracketed index line t) := by
  simp only [openFlow, saveKey_scan, bind, Option.bind_some]
  rfl

lemma closeFlow_bracketed {t : Token} (u : Token) {c d : Char} {rest : List Char} (hrest : a.rest = d :: c :: rest) :
    (a.bracketed index line t).closeFlow u = some (Spot.scan ⟨rest, a.column + 2, a.tokens ++ [t, u], a.indents, false⟩
      (index + 2) line (a.key index line)) := by
  simp [closeFlow, dropKey, bracketed, inFlow, scan, Scan.skip, emit, hrest]

/-- An empty collection at the end of a line. -/
lemma leads_brackets {c d : Char} {t u : Token} {rest : List Char} {k : ℕ}
    (hrest : a.rest = c :: d :: '\n' :: List.replicate k ' ' ++ rest) (hstarts : Starts rest) (h : a.indent < a.column)
    (hc : Starts [c]) (hd : Starts [d]) (hopen : ∀ (s : Scan) more, s.rest = c :: more → s.token? c more = s.openFlow t)
    (hclose : ∀ (s : Scan) more, s.rest = d :: more → s.token? d more = s.closeFlow u) :
    Leads a ⟨rest, k, a.tokens ++ [t, u], a.indents, true⟩ := by
  intro index line
  have hfirst : Starts a.rest := by
    rw [hrest]
    exact hc
  have hopened : Runs 1 (a.scan index line none) _ := runs_token (settle?_of_le hfirst h.le) hrest
    ((hopen _ _ hrest).trans (openFlow_scan t))
  have hinside : (a.bracketed index line t).rest = d :: ('\n' :: List.replicate k ' ' ++ rest) := by
    simp [bracketed, scan, hrest, emit]
  have hclosed : Runs 1 (a.bracketed index line t) _ := runs_token (settle?_bracketed hrest hd) hinside
    ((hclose _ _ hinside).trans (closeFlow_bracketed u hrest))
  have hnext : Runs 0
      (Spot.scan ⟨'\n' :: List.replicate k ' ' ++ rest, a.column + 2, a.tokens ++ [t, u], a.indents, false⟩
        (index + 2) line (a.key index line)) (Spot.scan ⟨rest, k, a.tokens ++ [t, u], a.indents, true⟩
        (index + 2 + 1 + k) (line + 1) none) := by
    refine runs_of_settle? ?_
    rw [settle?_break rfl, settle?_blanks rfl, ← settle?_key h hstarts (index + 2 + 1 + k) index line]
    simp
  exact ⟨1 + (1 + 0), _, _, by simp [hrest]; omega, hopened.trans (hclosed.trans hnext)⟩

end Spot
end Guardrail.Yaml
