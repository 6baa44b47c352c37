import Guardrail.Proofs.JsonLiterals

/-!
Values are told apart by their text.

Compact text is self-delimiting: from the text of a value and something after it both can be told, as long
as what follows could not belong to a number. Quoted text is read back by the reader, and arrays and objects
by their items. No control character stands in compact text.
-/

namespace Guardrail.Json

/-! ### Values -/

/-- What holds of an array or object because it holds of everything in it holds of every value. -/
@[elab_as_elim]
theorem forall_of_parts {P : Json → Prop} (null : P .null) (bool : ∀ b, P (.bool b)) (num : ∀ n, P (.num n))
    (str : ∀ s, P (.str s)) (arr : ∀ items, (∀ j ∈ items, P j) → P (.arr items))
    (obj : ∀ members, (∀ m ∈ members, P m.2) → P (.obj members)) : ∀ j, P j
  | .null => null
  | .bool b => bool b
  | .num n => num n
  | .str s => str s
  | .arr items => arr items fun j hj => by
    have := List.sizeOf_lt_of_mem hj
    exact forall_of_parts null bool num str arr obj j
  | .obj members => obj members fun (key, j) hm => by
    have := List.sizeOf_lt_of_mem hm
    exact forall_of_parts null bool num str arr obj j
decreasing_by all_goals simp_wf; simp_all; omega

/-- Every number in the value is finite. -/
inductive Finite : Json → Prop
  | null : Finite .null
  | bool (b : Bool) : Finite (.bool b)
  | num (n : Number) (h : n.Finite) : Finite (.num n)
  | str (s : String) : Finite (.str s)
  | arr (items : List Json) (h : ∀ j ∈ items, Finite j) : Finite (.arr items)
  | obj (members : List (String × Json)) (h : ∀ m ∈ members, Finite m.2) : Finite (.obj members)

lemma itemChars_eq (items : List Json) : itemChars items = items.map chars := by
  induction items with
  | nil => rfl
  | cons j items ih => rw [itemChars, ih, List.map_cons]

/-- A member as it is written. -/
def memberText (m : String × Json) : List Char := quote m.1 ++ ':' :: chars m.2

lemma memberChars_eq (members : List (String × Json)) : memberChars members = members.map memberText := by
  induction members with
  | nil => rfl
  | cons m members ih => rw [memberChars, ih, List.map_cons, memberText]

/-! ### Quoted text -/

lemma codeUnit?_hex {n : ℕ} (hn : n < 0x20) :
    codeUnit? ['0', '0', hexChar (n / 16), hexChar (n % 16)] = some (n, []) := by
  interval_cases n <;> rfl

/-- A character is written as one piece. -/
lemma spells_escapeChar (c : Char) {ps : List Piece} {cs : List Char} (h : SpellsPieces ps cs) :
    ∃ p, SpellsPieces (p :: ps) (escapeChar c ++ cs) ∧ pieceChars? (p :: ps) = (pieceChars? ps).map (c :: ·) := by
  unfold escapeChar
  split
  all_goals try exact ⟨_, .letter _ rfl h, rfl⟩
  next hquote hslash _ _ _ _ _ =>
  split
  · next hcontrol =>
    have hback : Char.ofNat c.toNat = c := Char.ofNat_toNat c
    refine ⟨_, .unit _ (codeUnit?_hex hcontrol) h, ?_⟩
    rw [pieceChars?_single (by omega) (by omega), hback]
  · next hplain => exact ⟨_, .plain c (by omega) hquote hslash h, rfl⟩

lemma quotes_quote (s : String) : Quotes s (quote s) := by
  have hpieces (cs : List Char) : ∃ ps, SpellsPieces ps (cs.flatMap escapeChar) ∧ pieceChars? ps = some cs := by
    induction cs with
    | nil => exact ⟨[], .nil, rfl⟩
    | cons c cs ih =>
      obtain ⟨ps, hps, hchars⟩ := ih
      obtain ⟨p, hp, hread⟩ := spells_escapeChar c hps
      exact ⟨p :: ps, hp, by rw [hread, hchars]; rfl⟩
  obtain ⟨ps, hps, hchars⟩ := hpieces s.toList
  exact ⟨ps, _, hps, hchars, rfl⟩

/-- **Quoted text is read back.** The reader recovers a text from what stands between the quotes. -/
theorem quoted_quote (s : String) (rest : List Char) :
    ∃ tail, quote s ++ rest = '"' :: tail ∧ quoted tail = .text s.toList rest := (quotes_quote s).quoted rest

lemma quote_append_inj {s t : String} {rest more : List Char} (h : quote s ++ rest = quote t ++ more) :
    s = t ∧ rest = more := by
  obtain ⟨tail, hs, hread⟩ := quoted_quote s rest
  obtain ⟨tail', ht, hread'⟩ := quoted_quote t more
  rw [hs, ht] at h
  obtain rfl : tail = tail' := (List.cons.inj h).2
  obtain ⟨htext, hrest⟩ := Quoted.text.inj (hread.symm.trans hread')
  exact ⟨String.toList_inj.mp htext, hrest⟩

/-! ### Lists of texts -/

/-- What stands after the first item of an array or the first member of an object. -/
def closing {α : Type} (text : α → List Char) (close : Char) : List α → List Char → List Char
  | [], rest => close :: rest
  | x :: xs, rest => ',' :: (text x ++ closing text close xs rest)

section Lists

variable {α : Type} {text : α → List Char} {close : Char} {xs ys : List α} {rest more : List Char}

lemma separated_cons (x : α) (xs : List α) (rest : List Char) :
    separated [','] ((x :: xs).map text) ++ close :: rest = text x ++ closing text close xs rest := by
  induction xs generalizing x with
  | nil => rfl
  | cons y ys ih =>
    have hcons := ih y
    simp only [List.map_cons] at hcons ⊢
    rw [separated, closing, ← hcons]
    · simp
    · exact nofun

lemma ends_closing (hclose : close = ']' ∨ close = '\x7d') (xs : List α) (rest : List Char) :
    Ends (closing text close xs rest) := by
  intro c hc
  cases xs with
  | nil =>
    cases hc
    rcases hclose with rfl | rfl <;> decide
  | cons x xs =>
    cases hc
    decide

/-- The items are told apart one after another, up to the closing character. -/
lemma closing_inj (hclose : close = ']' ∨ close = '\x7d')
    (hinj : ∀ x ∈ xs, ∀ y ∈ ys, ∀ rest more, Ends rest → Ends more → text x ++ rest = text y ++ more →
      x = y ∧ rest = more)
    (h : closing text close xs rest = closing text close ys more) : xs = ys ∧ rest = more := by
  have hcomma : close ≠ ',' := by rcases hclose with rfl | rfl <;> decide
  induction xs generalizing ys with
  | nil =>
    cases ys with
    | nil => exact ⟨rfl, (List.cons.inj h).2⟩
    | cons y ys => exact absurd (List.cons.inj h).1 hcomma
  | cons x xs ih =>
    cases ys with
    | nil => exact absurd (List.cons.inj h).1.symm hcomma
    | cons y ys =>
      obtain ⟨rfl, htail⟩ := hinj x (by simp) y (by simp) _ _ (ends_closing hclose xs rest)
        (ends_closing hclose ys more) (List.cons.inj h).2
      obtain ⟨rfl, hrest⟩ := ih (fun x hx y hy => hinj x (by simp [hx]) y (by simp [hy])) htail
      exact ⟨rfl, hrest⟩

/-- A list of texts, none of which begins with the closing character, can be told from what it is written
as. -/
lemma separated_append_inj (hclose : close = ']' ∨ close = '\x7d')
    (hhead : ∀ x, x ∈ xs ∨ x ∈ ys → ∃ c tail, text x = c :: tail ∧ c ≠ close)
    (hinj : ∀ x ∈ xs, ∀ y ∈ ys, ∀ rest more, Ends rest → Ends more → text x ++ rest = text y ++ more →
      x = y ∧ rest = more)
    (h : separated [','] (xs.map text) ++ close :: rest = separated [','] (ys.map text) ++ close :: more) :
    xs = ys ∧ rest = more := by
  cases xs with
  | nil =>
    cases ys with
    | nil => exact ⟨rfl, (List.cons.inj h).2⟩
    | cons y ys =>
      obtain ⟨c, tail, hc, hne⟩ := hhead y (by simp)
      rw [separated_cons, hc] at h
      exact absurd (List.cons.inj h).1.symm hne
  | cons x xs =>
    cases ys with
    | nil =>
      obtain ⟨c, tail, hc, hne⟩ := hhead x (by simp)
      rw [separated_cons, hc] at h
      exact absurd (List.cons.inj h).1 hne
    | cons y ys =>
      rw [separated_cons, separated_cons] at h
      obtain ⟨rfl, htail⟩ := hinj x (by simp) y (by simp) _ _ (ends_closing hclose xs rest)
        (ends_closing hclose ys more) h
      obtain ⟨rfl, hrest⟩ := closing_inj hclose
        (fun x hx y hy => hinj x (by simp [hx]) y (by simp [hy])) htail
      exact ⟨rfl, hrest⟩

end Lists

/-! ### Compact text -/

/-- The character that a value begins with, a zero standing for all that a number can begin with. -/
def opener : Json → Char
  | .null => 'n'
  | .bool b => if b then 't' else 'f'
  | .num _ => '0'
  | .str _ => '"'
  | .arr _ => '['
  | .obj _ => '\x7b'

/-- Digits and the sign are alike. -/
def opening (c : Char) : Char := if c.isDigit ∨ c = '-' then '0' else c

lemma exists_opener {j : Json} (hj : j.Finite) : ∃ c tail, j.chars = c :: tail ∧ opening c = j.opener := by
  cases hj with
  | null => exact ⟨_, _, rfl, rfl⟩
  | bool b => cases b <;> exact ⟨_, _, rfl, rfl⟩
  | num n h =>
    obtain ⟨l, hl, hchars, -⟩ := Number.exists_literal h
    obtain ⟨c, tail, hc, hdigit⟩ := hl.head (l.fractionChars ++ l.exponentChars)
    have htext : n.text.toList = (if l.negative then ['-'] else []) ++ c :: tail := by
      rw [← hchars, Literal.chars, List.append_assoc, List.append_assoc, hc]
    cases hsign : l.negative with
    | false => exact ⟨c, tail, by simp [chars, htext, hsign], by simp [opening, hdigit, opener]⟩
    | true => exact ⟨'-', c :: tail, by simp [chars, htext, hsign], rfl⟩
  | str s => exact ⟨_, _, rfl, rfl⟩
  | arr items h => exact ⟨_, _, rfl, rfl⟩
  | obj members h => exact ⟨_, _, rfl, rfl⟩

/-- An array that is closed at once is not taken for one with an item. -/
lemma exists_head_ne_bracket {j : Json} (hj : j.Finite) : ∃ c tail, j.chars = c :: tail ∧ c ≠ ']' := by
  obtain ⟨c, tail, hc, hopen⟩ := exists_opener hj
  refine ⟨c, tail, hc, ?_⟩
  rintro rfl
  have hopening : opening ']' = ']' := rfl
  cases j <;> simp [hopening, opener, eq_ite_iff] at hopen

lemma opener_eq {j k : Json} {rest more : List Char} (hj : j.Finite) (hk : k.Finite)
    (h : j.chars ++ rest = k.chars ++ more) : j.opener = k.opener := by
  obtain ⟨c, tail, hc, hopen⟩ := exists_opener hj
  obtain ⟨d, tail', hd, hopen'⟩ := exists_opener hk
  rw [hc, hd] at h
  rw [← hopen, ← hopen', (List.cons.inj h).1]

lemma memberText_append_inj {m m' : String × Json} {rest more : List Char}
    (h : memberText m ++ rest = memberText m' ++ more)
    (hvalue : m.2.chars ++ rest = m'.2.chars ++ more → m.2 = m'.2 ∧ rest = more) : m = m' ∧ rest = more := by
  simp only [memberText, List.append_assoc, List.cons_append] at h
  obtain ⟨hkey, htail⟩ := quote_append_inj h
  obtain ⟨hsame, hrest⟩ := hvalue (List.cons.inj htail).2
  exact ⟨Prod.ext hkey hsame, hrest⟩

/-- **Values by their text.** A finite value and what follows it can be told from the text that they make
up. -/
theorem chars_append_inj (j : Json) : ∀ {k : Json} {rest more : List Char}, j.Finite → k.Finite →
    Ends rest → Ends more → j.chars ++ rest = k.chars ++ more → j = k ∧ rest = more := by
  induction j using forall_of_parts with
  | null =>
    intro k rest more hj hk hrest hmore h
    have hopen := opener_eq hj hk h
    cases k <;> simp [opener, eq_ite_iff] at hopen
    · exact ⟨rfl, List.append_cancel_left h⟩
  | bool b =>
    intro k rest more hj hk hrest hmore h
    have hopen := opener_eq hj hk h
    cases b <;> cases k <;> simp [opener] at hopen
    · obtain rfl := hopen
      exact ⟨rfl, List.append_cancel_left h⟩
    · obtain rfl := hopen
      exact ⟨rfl, List.append_cancel_left h⟩
  -- only a number can go on with what follows it
  | num n =>
    intro k rest more hj hk hrest hmore h
    have hopen := opener_eq hj hk h
    cases hj with
    | num n hn =>
      cases hk <;> simp [opener, eq_ite_iff] at hopen
      · next m hm =>
        obtain ⟨rfl, htail⟩ := Number.text_append_inj hn hm hrest hmore h
        exact ⟨rfl, htail⟩
  | str s =>
    intro k rest more hj hk hrest hmore h
    have hopen := opener_eq hj hk h
    cases k <;> simp [opener, eq_ite_iff] at hopen
    · obtain ⟨rfl, htail⟩ := quote_append_inj h
      exact ⟨rfl, htail⟩
  | arr items ih =>
    intro k rest more hj hk hrest hmore h
    have hopen := opener_eq hj hk h
    cases hj with
    | arr items hitems =>
      cases hk <;> simp [opener, eq_ite_iff] at hopen
      · next items' hitems' =>
        simp only [chars, itemChars_eq, List.cons_append, List.append_assoc, List.cons.injEq, true_and,
          List.nil_append] at h
        have hhead : ∀ j, j ∈ items ∨ j ∈ items' → ∃ c tail, j.chars = c :: tail ∧ c ≠ ']' := fun j hj =>
          exists_head_ne_bracket (hj.elim (hitems j) (hitems' j))
        obtain ⟨rfl, htail⟩ := separated_append_inj (.inl rfl) hhead
          (fun j hj k hk _ _ hrest hmore h => ih j hj (hitems j hj) (hitems' k hk) hrest hmore h) h
        exact ⟨rfl, htail⟩
  | obj members ih =>
    intro k rest more hj hk hrest hmore h
    have hopen := opener_eq hj hk h
    cases hj with
    | obj members hmembers =>
      cases hk <;> simp [opener, eq_ite_iff] at hopen
      · next members' hmembers' =>
        simp only [chars, memberChars_eq, List.cons_append, List.append_assoc, List.cons.injEq, true_and,
          List.nil_append] at h
        have hhead : ∀ m, m ∈ members ∨ m ∈ members' → ∃ c tail, memberText m = c :: tail ∧ c ≠ '\x7d' :=
          fun m _ => ⟨_, _, rfl, by decide⟩
        obtain ⟨rfl, htail⟩ := separated_append_inj (.inr rfl) hhead
          (fun m hm m' hm' _ _ hrest hmore h => memberText_append_inj h
            (ih m hm (hmembers m hm) (hmembers' m' hm') hrest hmore)) h
        exact ⟨rfl, htail⟩

/-! ### Control characters -/

lemma printable_hexChar {n : ℕ} (hn : n < 16) : 0x20 ≤ (hexChar n).toNat := by
  interval_cases n <;> decide

lemma printable_escapeChar {c d : Char} (hd : d ∈ escapeChar c) : 0x20 ≤ d.toNat := by
  have hshort {x y : Char} (hx : 0x20 ≤ x.toNat) (hy : 0x20 ≤ y.toNat) (hd : d ∈ [x, y]) : 0x20 ≤ d.toNat := by
    simp only [List.mem_cons, List.not_mem_nil, or_false] at hd
    rcases hd with rfl | rfl <;> assumption
  unfold escapeChar at hd
  split at hd
  all_goals try exact hshort (by decide) (by decide) hd
  split at hd
  · next hcontrol =>
    have hhigh := printable_hexChar (show c.toNat / 16 < 16 by omega)
    have hlow := printable_hexChar (show c.toNat % 16 < 16 by omega)
    simp only [List.mem_cons, List.not_mem_nil, or_false] at hd
    rcases hd with rfl | rfl | rfl | rfl | rfl | rfl <;> first | decide | assumption
  · next hplain =>
    rw [List.mem_singleton.mp hd]
    omega

lemma printable_quote {s : String} {c : Char} (hc : c ∈ quote s) : 0x20 ≤ c.toNat := by
  simp only [quote, List.cons_append, List.mem_cons, List.mem_append, List.mem_flatMap, List.not_mem_nil,
    or_false] at hc
  rcases hc with rfl | ⟨d, -, hc⟩ | rfl
  · decide
  · exact printable_escapeChar hc
  · decide

lemma printable_digit {c : Char} (hc : c.isDigit = true) : 0x20 ≤ c.toNat := by
  simp only [Char.isDigit, Bool.and_eq_true, decide_eq_true_eq] at hc
  have := UInt32.le_iff_toNat_le.mp hc.1
  exact le_trans (by decide) this

lemma printable_literal {l : Literal} (hl : l.Formed) {c : Char} (hc : c ∈ l.chars) : 0x20 ≤ c.toNat := by
  have hfraction := hl.fraction
  have hexponent := hl.exponent
  simp only [Literal.chars, List.mem_append] at hc
  rcases hc with ((hc | hc) | hc) | hc
  · split at hc
    · rw [List.mem_singleton.mp hc]
      decide
    · cases hc
  · exact printable_digit (hl.whole c hc)
  · simp only [Literal.fractionChars] at hc
    split at hc
    · next ds hds =>
      rcases List.mem_cons.mp hc with rfl | hc
      · decide
      · exact printable_digit (hfraction ds hds c hc)
    · cases hc
  · simp only [Literal.exponentChars] at hc
    split at hc
    · next minus ds hds =>
      rcases List.mem_cons.mp hc with rfl | hc
      · decide
      rcases List.mem_cons.mp hc with rfl | hc
      · cases minus <;> decide
      · exact printable_digit (hexponent _ hds c hc)
    · cases hc

lemma mem_separated {sep : List Char} {texts : List (List Char)} {c : Char} (hc : c ∈ separated sep texts) :
    c ∈ sep ∨ ∃ text ∈ texts, c ∈ text := by
  induction texts using separated.induct with
  | case1 => cases hc
  | case2 text => exact .inr ⟨text, by simp, hc⟩
  | case3 text rest hrest ih =>
    rw [separated, List.mem_append, List.mem_append] at hc
    · rcases hc with (hc | hc) | hc
      · exact .inr ⟨text, by simp, hc⟩
      · exact .inl hc
      · exact (ih hc).imp id fun ⟨x, hx, hcx⟩ => ⟨x, by simp [hx], hcx⟩
    · exact hrest

/-- The parts of an array or object stand between brackets, with commas between them. -/
lemma printable_bracketed {opener closer : Char} {texts : List (List Char)} (hopener : 0x20 ≤ opener.toNat)
    (hcloser : 0x20 ≤ closer.toNat) (h : ∀ text ∈ texts, ∀ c ∈ text, 0x20 ≤ c.toNat) :
    ∀ c ∈ opener :: separated [','] texts ++ [closer], 0x20 ≤ c.toNat := by
  intro c hc
  rw [List.cons_append, List.mem_cons, List.mem_append, List.mem_singleton] at hc
  rcases hc with rfl | hc | rfl
  · exact hopener
  · rcases mem_separated hc with hc | ⟨text, htext, hc⟩
    · rw [List.mem_singleton.mp hc]
      decide
    · exact h text htext c hc
  · exact hcloser

lemma printable_word {word : String} (h : word.toList.all fun c => decide (0x20 ≤ c.toNat)) :
    ∀ c ∈ word.toList, 0x20 ≤ c.toNat := by
  intro c hc
  exact of_decide_eq_true (List.all_eq_true.mp h c hc)

lemma printable_number (n : Number) : ∀ c ∈ n.text.toList, 0x20 ≤ c.toNat := by
  have hliteral : n.text = "null" ∨ ∃ l : Literal, l.Formed ∧ l.chars = n.text.toList := by
    cases n with
    | float x => exact Json.parts_literal _
    | nat n =>
      obtain ⟨l, hl, hchars, -⟩ := Number.exists_literal (n := .nat n) trivial
      exact .inr ⟨l, hl, hchars⟩
    | neg n =>
      obtain ⟨l, hl, hchars, -⟩ := Number.exists_literal (n := .neg n) trivial
      exact .inr ⟨l, hl, hchars⟩
  rcases hliteral with h | ⟨l, hl, hchars⟩
  · rw [h]
    exact printable_word (by decide)
  · rw [← hchars]
    exact fun _ => printable_literal hl

/-- No control character stands in compact text. -/
theorem printable_chars (j : Json) : ∀ c ∈ j.chars, 0x20 ≤ c.toNat := by
  induction j using forall_of_parts with
  | null => exact printable_word (by decide)
  | bool b => cases b <;> exact printable_word (by decide)
  | num n => exact printable_number n
  | str s => exact fun c hc => printable_quote hc
  | arr items ih =>
    rw [chars, itemChars_eq]
    refine printable_bracketed (by decide) (by decide) fun text htext => ?_
    obtain ⟨j, hj, rfl⟩ := List.mem_map.mp htext
    exact ih j hj
  | obj members ih =>
    rw [chars, memberChars_eq]
    refine printable_bracketed (by decide) (by decide) fun text htext c hc => ?_
    obtain ⟨m, hm, rfl⟩ := List.mem_map.mp htext
    rw [memberText, List.mem_append, List.mem_cons] at hc
    rcases hc with hc | rfl | hc
    · exact printable_quote hc
    · decide
    · exact ih m hm c hc

/-- **Documents by their text.** No two finite values have the same compact text. -/
theorem compact_inj {j k : Json} (hj : j.Finite) (hk : k.Finite) (h : j.compact = k.compact) : j = k := by
  have hends : Ends [] := fun c hc => by cases hc
  have hchars : j.chars ++ [] = k.chars ++ [] := by
    simpa [compact] using congrArg String.toList h
  exact (chars_append_inj j hj hk hends hends hchars).1

end Guardrail.Json
