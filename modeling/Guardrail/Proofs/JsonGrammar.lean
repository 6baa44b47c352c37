import Guardrail.Proofs.JsonLiterals

/-!
JSON text and what stands in it.

The grammar of JSON text is a relation between documents and their texts, blanks included. The reader knows just these
texts: it gives the document of a text whatever stands behind it, and what it gets through is a text of what it gives.
-/

namespace Guardrail.Json

mutual

/-- The texts of a document, with blanks where blanks may stand. -/
inductive TextOf : Document → List Char → Prop
  | null : TextOf .null "null".toList
  | bool (b : Bool) : TextOf (.bool b) (if b then "true" else "false").toList
  | num {l : Literal} {n : Number} {cs : List Char} (h : l.Spells cs) (hn : l.number? = some n) : TextOf (.num n) cs
  /-- A number that is out of range. -/
  | excess {l : Literal} {cs : List Char} (h : l.Spells cs) (hn : l.number? = none) : TextOf .unreadable cs
  | str {s : String} {cs : List Char} (h : Quotes s cs) : TextOf (.str s) cs
  /-- A string in which half a surrogate pair stands alone. -/
  | halved {ps : List Piece} (cs : List Char) (h : SpellsPieces ps cs) (hchars : pieceChars? ps = none) :
    TextOf .unreadable ('"' :: cs ++ ['"'])
  | emptyArr (gap : List Char) (hgap : ∀ c ∈ gap, isBlank c = true) : TextOf (.arr [] true) ('[' :: gap ++ [']'])
  | arr {ds : List Document} {cs : List Char} (h : ItemsTextOf ds cs) : TextOf (.arr ds true) ('[' :: cs)
  | emptyObj (gap : List Char) (hgap : ∀ c ∈ gap, isBlank c = true) :
    TextOf (.obj [] true) ('\x7b' :: gap ++ ['\x7d'])
  | obj {ms : List (String × Document)} {cs : List Char} (h : MembersTextOf ms cs) :
    TextOf (.obj ms true) ('\x7b' :: cs)
  | after (gap : List Char) {d : Document} {cs : List Char} (hgap : ∀ c ∈ gap, isBlank c = true) (h : TextOf d cs) :
    TextOf d (gap ++ cs)
  | before (gap : List Char) {d : Document} {cs : List Char} (hgap : ∀ c ∈ gap, isBlank c = true) (h : TextOf d cs) :
    TextOf d (cs ++ gap)

/-- The items of an array up to its closing bracket. -/
inductive ItemsTextOf : List Document → List Char → Prop
  | last {d : Document} (cs : List Char) (h : TextOf d cs) : ItemsTextOf [d] (cs ++ [']'])
  | cons {d : Document} {ds : List Document} (cs more : List Char) (h : TextOf d cs) (hds : ItemsTextOf ds more) :
    ItemsTextOf (d :: ds) (cs ++ ',' :: more)

/-- The members of an object up to its closing brace. -/
inductive MembersTextOf : List (String × Document) → List Char → Prop
  | last {k : String} {d : Document} (gap key gap' cs : List Char) (hgap : ∀ c ∈ gap, isBlank c = true)
    (hkey : Quotes k key) (hgap' : ∀ c ∈ gap', isBlank c = true) (h : TextOf d cs) :
    MembersTextOf [(k, d)] (gap ++ key ++ gap' ++ ':' :: cs ++ ['\x7d'])
  | cons {k : String} {d : Document} {ms : List (String × Document)} (gap key gap' cs more : List Char)
    (hgap : ∀ c ∈ gap, isBlank c = true) (hkey : Quotes k key) (hgap' : ∀ c ∈ gap', isBlank c = true)
    (h : TextOf d cs) (hms : MembersTextOf ms more) :
    MembersTextOf ((k, d) :: ms) (gap ++ key ++ gap' ++ ':' :: cs ++ ',' :: more)

end

section Blanks

variable {gap cs : List Char}

lemma skipBlanks_append (hgap : ∀ c ∈ gap, isBlank c = true) (cs : List Char) :
    skipBlanks (gap ++ cs) = skipBlanks cs := List.dropWhile_append_of_pos hgap

lemma skipBlanks_skipBlanks (cs : List Char) : skipBlanks (skipBlanks cs) = skipBlanks cs :=
  List.dropWhile_idempotent _ _

lemma skipBlanks_cons {c : Char} (hc : isBlank c = false) (cs : List Char) : skipBlanks (c :: cs) = c :: cs := by
  simp [skipBlanks, hc]

lemma skipBlanks_append_cons {c : Char} {more : List Char} (h : skipBlanks cs = c :: more) (rest : List Char) :
    skipBlanks (cs ++ rest) = c :: (more ++ rest) := by
  unfold skipBlanks at h ⊢
  simp [List.dropWhile_append, h]

/-- What is skipped are blanks. -/
lemma exists_gap (cs : List Char) : ∃ gap, (∀ c ∈ gap, isBlank c = true) ∧ cs = gap ++ skipBlanks cs :=
  ⟨cs.takeWhile isBlank, fun _ hc => List.mem_takeWhile_imp hc, List.takeWhile_append_dropWhile.symm⟩

end Blanks

lemma not_blank {c : Char} (hc : ∀ d, d ≠ '-' ∧ d.isDigit = false → c ≠ d) : isBlank c = false := by
  simp only [isBlank, Bool.or_eq_false_iff, beq_eq_false_iff_ne]
  refine ⟨⟨⟨?_, ?_⟩, ?_⟩, ?_⟩ <;> exact hc _ (by decide)

lemma stops_of_blank {gap rest : List Char} (hgap : ∀ c ∈ gap, isBlank c = true) (hrest : Stops rest) :
    Stops (gap ++ rest) := by
  cases gap with
  | nil => exact hrest
  | cons c gap =>
    rintro _ ⟨⟩
    have hc := hgap c List.mem_cons_self
    simp only [isBlank, Bool.or_eq_true, beq_iff_eq] at hc
    rcases hc with ((rfl | rfl) | rfl) | rfl <;> decide

lemma stops_mark {c : Char} (hc : c = ',' ∨ c = ']' ∨ c = '\x7d') (rest : List Char) : Stops (c :: rest) := by
  rintro _ ⟨⟩
  rcases hc with rfl | rfl | rfl <;> decide

namespace Document

lemma value_skipBlanks (fuel : ℕ) (cs : List Char) : value fuel (skipBlanks cs) = value fuel cs := by
  cases fuel with
  | zero => rfl
  | succ fuel => rw [value, value, skipBlanks_skipBlanks]

lemma items_skipBlanks (fuel : ℕ) (cs : List Char) : items fuel (skipBlanks cs) = items fuel cs := by
  cases fuel with
  | zero => rfl
  | succ fuel => rw [items, items, value_skipBlanks]

lemma members_skipBlanks (fuel : ℕ) (cs : List Char) : members fuel (skipBlanks cs) = members fuel cs := by
  cases fuel with
  | zero => rfl
  | succ fuel => rw [members, members, skipBlanks_skipBlanks]

/-! ### Texts are read -/

lemma exists_succ {n fuel : ℕ} (h : 2 * (n + 1) ≤ fuel) : ∃ k, fuel = k + 1 ∧ 2 * n < k :=
  ⟨fuel - 1, by omega, by omega⟩

/-- A number is read as what its literal stands for, which may be nothing. -/
lemma value_literal {l : Literal} {cs rest : List Char} (h : l.Spells cs) (hrest : Stops rest) (fuel : ℕ) :
    value (fuel + 1) (cs ++ rest) = (l.number?.elim .unreadable .num, some rest) := by
  have hlit := h.literal? hrest
  obtain ⟨c, more, rfl, hother⟩ := h.first
  rw [value, List.cons_append, skipBlanks_cons (not_blank hother)]
  split
  all_goals try next heq => exact absurd (List.cons.inj heq).1 (hother _ (by decide))
  rw [← List.cons_append, hlit]
  cases hn : l.number? <;> simp [hn]

lemma value_arr {ds : List Document} {cs rest : List Char} {fuel : ℕ}
    (h : items fuel (cs ++ rest) = (ds, some rest)) :
    value (fuel + 1) ('[' :: cs ++ rest) = (.arr ds true, some rest) := by
  have hread := items_skipBlanks fuel (cs ++ rest)
  rw [h] at hread
  have hclose (more : List Char) (hmore : skipBlanks (cs ++ rest) = ']' :: more) : False := by
    rw [hmore] at hread
    -- the bracket is no value
    have hbroken : items fuel (']' :: more) = ([.broken], none) ∨ items fuel (']' :: more) = ([], none) := by
      rcases fuel with _ | _ | fuel
      · exact .inr rfl
      · exact .inl rfl
      · exact .inl rfl
    rcases hbroken with h | h <;> simp [h] at hread
  rw [value, List.cons_append, skipBlanks_cons rfl]
  simp only [hread]
  rfl

lemma value_obj {ms : List (String × Document)} {cs rest : List Char} {fuel : ℕ}
    (h : members fuel (cs ++ rest) = (ms, some rest)) :
    value (fuel + 1) ('\x7b' :: cs ++ rest) = (.obj ms true, some rest) := by
  have hread := members_skipBlanks fuel (cs ++ rest)
  rw [h] at hread
  have hclose (more : List Char) (hmore : skipBlanks (cs ++ rest) = '\x7d' :: more) : False := by
    rw [hmore] at hread
    -- the brace is no key
    have hbroken : members fuel ('\x7d' :: more) = ([], none) := by cases fuel <;> rfl
    simp [hbroken] at hread
  rw [value, List.cons_append, skipBlanks_cons rfl]
  simp only [hread]
  rfl

/-- A member is read up to what follows its value: the brace that closes the object, or a comma and more members. -/
lemma members_quotes {k : String} {d : Document} {gap key gap' cs rest more : List Char} {fuel : ℕ}
    (hgap : ∀ c ∈ gap, isBlank c = true) (hkey : Quotes k key) (hgap' : ∀ c ∈ gap', isBlank c = true)
    (hvalue : value fuel (cs ++ rest) = (d, some more)) :
    (∀ left, skipBlanks more = '\x7d' :: left →
      members (fuel + 1) (gap ++ key ++ gap' ++ ':' :: cs ++ rest) = ([(k, d)], some left)) ∧
    ∀ left, skipBlanks more = ',' :: left →
      members (fuel + 1) (gap ++ key ++ gap' ++ ':' :: cs ++ rest) =
        ((k, d) :: (members fuel left).1, (members fuel left).2) := by
  obtain ⟨tail, hquote, hread⟩ := hkey.quoted (gap' ++ ':' :: (cs ++ rest))
  have hcolon : skipBlanks (gap' ++ ':' :: (cs ++ rest)) = ':' :: (cs ++ rest) := by
    rw [skipBlanks_append hgap', skipBlanks_cons rfl]
  simp only [List.append_assoc, List.cons_append] at hquote ⊢
  rw [members, skipBlanks_append hgap, hquote, skipBlanks_cons rfl]
  constructor <;> intro left hmore <;> simp [hread, hcolon, hvalue, hmore]

mutual

/-- A text of a document is read up to blanks after it. Behind an object anything may stand. -/
lemma value_textOf {d : Document} {cs : List Char} : TextOf d cs → ∀ (fuel : ℕ) (rest : List Char),
    2 * cs.length ≤ fuel → ((∀ ms closed, d ≠ .obj ms closed) → Stops rest) →
      ∃ more, value fuel (cs ++ rest) = (d, some more) ∧ skipBlanks more = skipBlanks rest
  | .null, fuel, rest, hfuel, _ => by
    obtain ⟨fuel, rfl, -⟩ := exists_succ hfuel
    exact ⟨rest, rfl, rfl⟩
  | .bool true, fuel, rest, hfuel, _ => by
    obtain ⟨fuel, rfl, -⟩ := exists_succ hfuel
    exact ⟨rest, rfl, rfl⟩
  | .bool false, fuel, rest, hfuel, _ => by
    obtain ⟨fuel, rfl, -⟩ := exists_succ hfuel
    exact ⟨rest, rfl, rfl⟩
  | .num h hn, fuel, rest, hfuel, hrest => by
    obtain ⟨c, more, rfl, -⟩ := h.first
    obtain ⟨fuel, rfl, -⟩ := exists_succ hfuel
    exact ⟨rest, by rw [value_literal h (hrest nofun), hn]; rfl, rfl⟩
  | .excess h hn, fuel, rest, hfuel, hrest => by
    obtain ⟨c, more, rfl, -⟩ := h.first
    obtain ⟨fuel, rfl, -⟩ := exists_succ hfuel
    exact ⟨rest, by rw [value_literal h (hrest nofun), hn]; rfl, rfl⟩
  | .str h, fuel, rest, hfuel, _ => by
    obtain ⟨tail, hquote, hread⟩ := h.quoted rest
    obtain ⟨ps, text, -, -, rfl⟩ := h
    obtain ⟨fuel, rfl, -⟩ := exists_succ hfuel
    refine ⟨rest, ?_, rfl⟩
    rw [hquote, value, skipBlanks_cons rfl]
    simp [hread]
  | .halved cs h hchars, fuel, rest, hfuel, _ => by
    obtain ⟨fuel, rfl, -⟩ := exists_succ hfuel
    have hread : quoted (cs ++ '"' :: rest) = .halved rest := quoted_eq_halved.mpr ⟨_, _, h, hchars, rfl⟩
    refine ⟨rest, ?_, rfl⟩
    rw [List.cons_append, List.cons_append, List.append_assoc, List.singleton_append, value, skipBlanks_cons rfl]
    simp [hread]
  | .emptyArr gap hgap, fuel, rest, hfuel, _ => by
    obtain ⟨fuel, rfl, -⟩ := exists_succ hfuel
    have hclose : skipBlanks (gap ++ ']' :: rest) = ']' :: rest := by rw [skipBlanks_append hgap, skipBlanks_cons rfl]
    refine ⟨rest, ?_, rfl⟩
    rw [List.cons_append, List.cons_append, List.append_assoc, List.singleton_append, value, skipBlanks_cons rfl]
    simp [hclose]
  | .arr h, fuel, rest, hfuel, _ => by
    obtain ⟨fuel, rfl, hless⟩ := exists_succ hfuel
    exact ⟨rest, value_arr (items_textOf h fuel rest hless.le), rfl⟩
  | .emptyObj gap hgap, fuel, rest, hfuel, _ => by
    obtain ⟨fuel, rfl, -⟩ := exists_succ hfuel
    have hclose : skipBlanks (gap ++ '\x7d' :: rest) = '\x7d' :: rest := by
      rw [skipBlanks_append hgap, skipBlanks_cons rfl]
    refine ⟨rest, ?_, rfl⟩
    rw [List.cons_append, List.cons_append, List.append_assoc, List.singleton_append, value, skipBlanks_cons rfl]
    simp [hclose]
  | .obj h, fuel, rest, hfuel, _ => by
    obtain ⟨fuel, rfl, hless⟩ := exists_succ hfuel
    exact ⟨rest, value_obj (members_textOf h fuel rest hless.le), rfl⟩
  | .after gap hgap h, fuel, rest, hfuel, hrest => by
    obtain ⟨more, hvalue, hmore⟩ := value_textOf h fuel rest (le_trans (by simp) hfuel) hrest
    refine ⟨more, ?_, hmore⟩
    rw [List.append_assoc, ← value_skipBlanks, skipBlanks_append hgap, value_skipBlanks, hvalue]
  | .before gap hgap h, fuel, rest, hfuel, hrest => by
    obtain ⟨more, hvalue, hmore⟩ :=
      value_textOf h fuel (gap ++ rest) (le_trans (by simp) hfuel) fun hd => stops_of_blank hgap (hrest hd)
    exact ⟨more, by rw [List.append_assoc, hvalue], by rw [hmore, skipBlanks_append hgap]⟩

lemma items_textOf {ds : List Document} {cs : List Char} : ItemsTextOf ds cs → ∀ (fuel : ℕ) (rest : List Char),
    2 * cs.length ≤ fuel → items fuel (cs ++ rest) = (ds, some rest)
  | .last cs h, fuel, rest, hfuel => by
    rw [List.length_append, List.length_singleton] at hfuel
    obtain ⟨fuel, rfl, hless⟩ := exists_succ hfuel
    obtain ⟨more, hvalue, hmore⟩ := value_textOf h fuel _ hless.le fun _ => stops_mark (.inr (.inl rfl)) rest
    rw [skipBlanks_cons rfl] at hmore
    rw [List.append_assoc, List.singleton_append, items, hvalue]
    simp [hmore]
  | .cons cs more h hds, fuel, rest, hfuel => by
    rw [List.length_append, List.length_cons, ← add_assoc] at hfuel
    obtain ⟨fuel, rfl, hless⟩ := exists_succ hfuel
    obtain ⟨left, hvalue, hleft⟩ :=
      value_textOf h fuel _ (by omega) fun _ => stops_mark (.inl rfl) (more ++ rest)
    rw [skipBlanks_cons rfl] at hleft
    rw [List.append_assoc, List.cons_append, items, hvalue]
    simp [hleft, items_textOf hds fuel rest (by omega)]

lemma members_textOf {ms : List (String × Document)} {cs : List Char} : MembersTextOf ms cs →
    ∀ (fuel : ℕ) (rest : List Char), 2 * cs.length ≤ fuel → members fuel (cs ++ rest) = (ms, some rest)
  | .last gap key gap' cs hgap hkey hgap' h, fuel, rest, hfuel => by
    rw [List.length_append, List.length_singleton] at hfuel
    obtain ⟨fuel, rfl, hless⟩ := exists_succ hfuel
    simp only [List.length_append, List.length_cons] at hless
    obtain ⟨more, hvalue, hmore⟩ :=
      value_textOf h fuel _ (by omega) fun _ => stops_mark (.inr (.inr rfl)) rest
    rw [skipBlanks_cons rfl] at hmore
    rw [List.append_assoc, List.singleton_append, (members_quotes hgap hkey hgap' hvalue).1 _ hmore]
  | .cons gap key gap' cs more hgap hkey hgap' h hms, fuel, rest, hfuel => by
    rw [List.length_append, List.length_cons, ← add_assoc] at hfuel
    obtain ⟨fuel, rfl, hless⟩ := exists_succ hfuel
    simp only [List.length_append, List.length_cons] at hless
    obtain ⟨left, hvalue, hleft⟩ :=
      value_textOf h fuel _ (by omega) fun _ => stops_mark (.inl rfl) (more ++ rest)
    rw [skipBlanks_cons rfl] at hleft
    rw [List.append_assoc, List.cons_append, (members_quotes hgap hkey hgap' hvalue).2 _ hleft]
    simp [members_textOf hms fuel rest (by omega)]

end

/-! ### What is read is a text -/

lemma keyword?_eq_some {word cs rest : List Char} (h : keyword? word cs = some rest) : cs = word ++ rest := by
  unfold keyword? at h
  split at h
  · next hword =>
    cases h
    obtain ⟨tail, rfl⟩ := List.isPrefixOf_iff_prefix.mp hword
    rw [List.drop_left]
  · cases h

end Document

lemma ItemsTextOf.after {ds : List Document} {gap cs : List Char} (hgap : ∀ c ∈ gap, isBlank c = true)
    (h : ItemsTextOf ds cs) : ItemsTextOf ds (gap ++ cs) := by
  cases h with
  | last cs h => exact List.append_assoc gap cs _ ▸ .last _ (.after gap hgap h)
  | cons cs more h hds => exact List.append_assoc gap cs _ ▸ .cons _ more (.after gap hgap h) hds

lemma MembersTextOf.after {ms : List (String × Document)} {gap cs : List Char} (hgap : ∀ c ∈ gap, isBlank c = true)
    (h : MembersTextOf ms cs) : MembersTextOf ms (gap ++ cs) := by
  have hboth (gap' : List Char) (hgap' : ∀ c ∈ gap', isBlank c = true) : ∀ c ∈ gap ++ gap', isBlank c = true :=
    fun c hc => (List.mem_append.mp hc).elim (hgap c) (hgap' c)
  cases h with
  | last first key gap' cs hfirst hkey hgap' h =>
    simpa using MembersTextOf.last (gap ++ first) key gap' cs (hboth first hfirst) hkey hgap' h
  | cons first key gap' cs more hfirst hkey hgap' h hms =>
    simpa using MembersTextOf.cons (gap ++ first) key gap' cs more (hboth first hfirst) hkey hgap' h hms

namespace Document

/-- What the reader gets through with so much fuel is a text of what it gives. -/
structure ReadsTexts (fuel : ℕ) : Prop where
  value : ∀ {cs d rest}, value fuel cs = (d, some rest) → ∃ text, TextOf d text ∧ cs = text ++ rest
  items : ∀ {cs ds rest}, items fuel cs = (ds, some rest) → ∃ text, ItemsTextOf ds text ∧ cs = text ++ rest
  members : ∀ {cs ms rest}, members fuel cs = (ms, some rest) → ∃ text, MembersTextOf ms text ∧ cs = text ++ rest

section

variable {fuel : ℕ} {cs rest : List Char}

lemma ReadsTexts.obj_succ (ih : ReadsTexts fuel) {d : Document}
    (h : Document.value (fuel + 1) ('\x7b' :: cs) = (d, some rest)) :
    ∃ text, TextOf d text ∧ '\x7b' :: cs = text ++ rest := by
  obtain ⟨gap, hgap, hcs⟩ := exists_gap cs
  rw [Document.value, skipBlanks_cons rfl] at h
  simp only at h
  split at h
  · next hclose =>
    cases h
    exact ⟨_, .emptyObj gap hgap, by rw [hcs, hclose]; simp⟩
  · simp only [Prod.mk.injEq] at h
    obtain ⟨hd, hrest⟩ := h
    obtain ⟨text, htext, hskip⟩ := ih.members (Prod.ext rfl hrest)
    rw [hrest] at hd
    subst hd
    exact ⟨_, .obj (htext.after hgap), by rw [hcs, hskip]; simp⟩

lemma ReadsTexts.arr_succ (ih : ReadsTexts fuel) {d : Document}
    (h : Document.value (fuel + 1) ('[' :: cs) = (d, some rest)) :
    ∃ text, TextOf d text ∧ '[' :: cs = text ++ rest := by
  obtain ⟨gap, hgap, hcs⟩ := exists_gap cs
  rw [Document.value, skipBlanks_cons rfl] at h
  simp only at h
  split at h
  · next hclose =>
    cases h
    exact ⟨_, .emptyArr gap hgap, by rw [hcs, hclose]; simp⟩
  · simp only [Prod.mk.injEq] at h
    obtain ⟨hd, hrest⟩ := h
    obtain ⟨text, htext, hskip⟩ := ih.items (Prod.ext rfl hrest)
    rw [hrest] at hd
    subst hd
    exact ⟨_, .arr (htext.after hgap), by rw [hcs, hskip]; simp⟩

lemma ReadsTexts.value_succ (ih : ReadsTexts fuel) {d : Document} (h : Document.value (fuel + 1) cs = (d, some rest)) :
    ∃ text, TextOf d text ∧ cs = text ++ rest := by
  obtain ⟨gap, hgap, hcs⟩ := exists_gap cs
  suffices hmain : ∃ text, TextOf d text ∧ skipBlanks cs = text ++ rest by
    obtain ⟨text, htext, hskip⟩ := hmain
    exact ⟨gap ++ text, .after gap hgap htext, by rw [List.append_assoc, ← hskip, ← hcs]⟩
  -- brackets are read like a text that begins with them
  have hskipped := h
  rw [← value_skipBlanks] at hskipped
  rw [Document.value] at h
  split at h
  · next hstart =>
    rw [hstart] at hskipped ⊢
    exact ih.obj_succ hskipped
  · next hstart =>
    rw [hstart] at hskipped ⊢
    exact ih.arr_succ hskipped
  · next more hstart =>
    split at h
    · next t left hread =>
      cases h
      obtain ⟨text, htext, happ⟩ := exists_quotes_of_quoted hread
      exact ⟨text, .str htext, by rw [hstart, happ]⟩
    · next left hread =>
      cases h
      obtain ⟨ps, text, hps, hchars, rfl⟩ := quoted_eq_halved.mp hread
      exact ⟨_, .halved text hps hchars, by rw [hstart]; simp⟩
    · cases h
  · next more hstart =>
    split at h
    · next hword =>
      cases h
      exact ⟨_, .bool true, by rw [hstart, keyword?_eq_some hword]; rfl⟩
    · cases h
  · next more hstart =>
    split at h
    · next hword =>
      cases h
      exact ⟨_, .bool false, by rw [hstart, keyword?_eq_some hword]; rfl⟩
    · cases h
  · next more hstart =>
    split at h
    · next hword =>
      cases h
      exact ⟨_, .null, by rw [hstart, keyword?_eq_some hword]; rfl⟩
    · cases h
  · split at h
    · cases h
    · next l left hread =>
      obtain ⟨text, happ, hspells⟩ := exists_spells_of_literal? hread
      split at h
      · next n hn =>
        cases h
        exact ⟨text, .num hspells hn, happ⟩
      · next hn =>
        cases h
        exact ⟨text, .excess hspells hn, happ⟩

lemma ReadsTexts.items_succ (ih : ReadsTexts fuel) {ds : List Document}
    (h : Document.items (fuel + 1) cs = (ds, some rest)) : ∃ text, ItemsTextOf ds text ∧ cs = text ++ rest := by
  rw [Document.items] at h
  split at h
  · cases h
  · next d more hvalue =>
    obtain ⟨text, htext, rfl⟩ := ih.value hvalue
    obtain ⟨gap, hgap, hmore⟩ := exists_gap more
    split at h
    · next hclose =>
      cases h
      exact ⟨_, .last _ (.before gap hgap htext), by rw [hmore, hclose]; simp⟩
    · next left hcomma =>
      simp only [Prod.mk.injEq] at h
      obtain ⟨rfl, hrest⟩ := h
      obtain ⟨texts, htexts, hleft⟩ := ih.items (Prod.ext rfl hrest)
      exact ⟨_, .cons _ _ (.before gap hgap htext) htexts, by rw [hmore, hcomma, hleft]; simp⟩
    · cases h

lemma ReadsTexts.members_succ (ih : ReadsTexts fuel) {ms : List (String × Document)}
    (h : Document.members (fuel + 1) cs = (ms, some rest)) : ∃ text, MembersTextOf ms text ∧ cs = text ++ rest := by
  obtain ⟨gap, hgap, hcs⟩ := exists_gap cs
  rw [Document.members] at h
  split at h
  · next tail hstart =>
    split at h
    · next key more hread =>
      obtain ⟨name, hname, happ⟩ := exists_quotes_of_quoted hread
      obtain ⟨gap', hgap', hmore⟩ := exists_gap more
      simp only at h
      split at h
      · next afterColon hcolon =>
        split at h
        · cases h
        · next d left hvalue =>
          obtain ⟨text, htext, rfl⟩ := ih.value hvalue
          obtain ⟨last, hlast, hleft⟩ := exists_gap left
          have hwhole : cs = gap ++ name ++ gap' ++ ':' :: (text ++ last) ++ skipBlanks left := by
            calc cs = gap ++ (name ++ (gap' ++ ':' :: (text ++ left))) := by
                  rw [← hcolon, ← hmore, ← happ, ← hstart, ← hcs]
              _ = gap ++ (name ++ (gap' ++ ':' :: (text ++ (last ++ skipBlanks left)))) := by rw [← hleft]
              _ = _ := by simp
          split at h
          · next hclose =>
            cases h
            exact ⟨_, .last gap name gap' _ hgap hname hgap' (.before last hlast htext), by rw [hwhole, hclose]; simp⟩
          · next tail hcomma =>
            simp only [Prod.mk.injEq] at h
            obtain ⟨rfl, hrest⟩ := h
            obtain ⟨texts, htexts, htail⟩ := ih.members (Prod.ext rfl hrest)
            exact ⟨_, .cons gap name gap' _ _ hgap hname hgap' (.before last hlast htext) htexts,
              by rw [hwhole, hcomma, htail]; simp⟩
          · cases h
      · cases h
    · cases h
  · cases h

lemma readsTexts (fuel : ℕ) : ReadsTexts fuel := by
  induction fuel with
  | zero => exact ⟨nofun, nofun, nofun⟩
  | succ fuel ih => exact ⟨ih.value_succ, ih.items_succ, ih.members_succ⟩

end

/-- **JSON text.** The reader gives the document of a text, and it reads a whole text only if it is one. -/
theorem read_iff {cs : List Char} {d : Document} : Document.read cs = (d, true) ↔ TextOf d cs := by
  constructor
  · intro h
    rw [Document.read] at h
    split at h
    · cases h
    · next rest hvalue =>
      obtain ⟨text, htext, rfl⟩ := (readsTexts _).value hvalue
      obtain ⟨gap, hgap, hrest⟩ := exists_gap rest
      simp only [Prod.mk.injEq, beq_iff_eq] at h
      obtain ⟨rfl, hblank⟩ := h
      rw [hblank, List.append_nil] at hrest
      exact .before _ (hrest ▸ hgap) htext
  · intro h
    obtain ⟨more, hvalue, hmore⟩ := value_textOf h (2 * cs.length + 2) [] (by omega) fun _ => nofun
    rw [List.append_nil] at hvalue
    rw [Document.read, hvalue]
    simp only [hmore]
    rfl

/-- A text is one of a single document. -/
lemma unique_of_text {d d' : Document} {cs : List Char} (h : TextOf d cs) (h' : TextOf d' cs) : d = d' :=
  congrArg Prod.fst ((read_iff.mpr h).symm.trans (read_iff.mpr h'))

/-- No text is read as a whole where something but blanks stands behind an object. -/
lemma read_append_of_obj {ms : List (String × Document)} {closed : Bool} {cs rest : List Char}
    (h : TextOf (.obj ms closed) cs) (hrest : skipBlanks rest ≠ []) :
    Document.read (cs ++ rest) = (.obj ms closed, false) := by
  obtain ⟨more, hvalue, hmore⟩ :=
    value_textOf h (2 * (cs ++ rest).length + 2) rest (by simp; omega) fun h => absurd rfl (h ms closed)
  rw [Document.read, hvalue]
  simp [hmore, hrest]

/-! ### Documents of texts -/

/-- A document that is JSON throughout, with every text in quotes. -/
inductive Complete : Document → Prop
  | null : Complete .null
  | bool (b : Bool) : Complete (.bool b)
  | num (n : Number) : Complete (.num n)
  | str (s : String) : Complete (.str s)
  | unreadable : Complete .unreadable
  | arr (ds : List Document) (h : ∀ d ∈ ds, Complete d) : Complete (.arr ds true)
  | obj (ms : List (String × Document)) (h : ∀ m ∈ ms, Complete m.2) : Complete (.obj ms true)

lemma itemsSound_iff {ds : List Document} : itemsSound ds = true ↔ ∀ d ∈ ds, d.sound = true := by
  induction ds with
  | nil => simp [itemsSound]
  | cons d ds ih => simp [itemsSound, ih]

lemma membersSound_iff {ms : List (String × Document)} : membersSound ms = true ↔ ∀ m ∈ ms, m.2.sound = true := by
  induction ms with
  | nil => simp [membersSound]
  | cons m ms ih => simp [membersSound, ih]

lemma Complete.sound {d : Document} (h : d.Complete) : d.sound = true := by
  induction h with
  | arr ds _ ih => simpa [Document.sound] using itemsSound_iff.mpr ih
  | obj ms _ ih => simpa [Document.sound] using membersSound_iff.mpr ih
  | _ => rfl

lemma Complete.items {ds : List Document} {closed : Bool} : (Document.arr ds closed).Complete → ∀ d ∈ ds, d.Complete
  | .arr _ h => h

lemma Complete.members {ms : List (String × Document)} {closed : Bool} :
    (Document.obj ms closed).Complete → ∀ m ∈ ms, m.2.Complete
  | .obj _ h => h

end Document

mutual

lemma TextOf.complete {d : Document} {cs : List Char} : TextOf d cs → d.Complete
  | .null => .null
  | .bool b => .bool b
  | .num _ _ => .num _
  | .excess _ _ => .unreadable
  | .str _ => .str _
  | .halved _ _ _ => .unreadable
  | .emptyArr _ _ => .arr [] nofun
  | .arr h => .arr _ h.complete
  | .emptyObj _ _ => .obj [] nofun
  | .obj h => .obj _ h.complete
  | .after _ _ h => h.complete
  | .before _ _ h => h.complete

lemma ItemsTextOf.complete {ds : List Document} {cs : List Char} : ItemsTextOf ds cs → ∀ d ∈ ds, d.Complete
  | .last _ h => List.forall_mem_singleton.mpr h.complete
  | .cons _ _ h hds => List.forall_mem_cons.mpr ⟨h.complete, hds.complete⟩

lemma MembersTextOf.complete {ms : List (String × Document)} {cs : List Char} :
    MembersTextOf ms cs → ∀ m ∈ ms, m.2.Complete
  | .last _ _ _ _ _ _ _ h => List.forall_mem_singleton.mpr h.complete
  | .cons _ _ _ _ _ _ _ _ h hms => List.forall_mem_cons.mpr ⟨h.complete, hms.complete⟩

end

/-- Up to blanks the texts of objects, and they alone, begin with a brace. -/
lemma TextOf.first {d : Document} {cs : List Char} : TextOf d cs →
    ∃ c more, skipBlanks cs = c :: more ∧ (c = '\x7b' ↔ ∃ ms, d = .obj ms true)
  | .null => ⟨'n', "ull".toList, rfl, by simp⟩
  | .bool true => ⟨'t', "rue".toList, rfl, by simp⟩
  | .bool false => ⟨'f', "alse".toList, rfl, by simp⟩
  | .num h _ => by
    obtain ⟨c, more, rfl, hother⟩ := h.first
    exact ⟨c, more, skipBlanks_cons (not_blank hother) _, by simp [hother '\x7b' (by decide)]⟩
  | .excess h _ => by
    obtain ⟨c, more, rfl, hother⟩ := h.first
    exact ⟨c, more, skipBlanks_cons (not_blank hother) _, by simp [hother '\x7b' (by decide)]⟩
  | .str h => by
    obtain ⟨ps, text, -, -, rfl⟩ := h
    exact ⟨'"', _, skipBlanks_cons rfl _, by simp⟩
  | .halved _ _ _ => ⟨'"', _, skipBlanks_cons rfl _, by simp⟩
  | .emptyArr _ _ => ⟨'[', _, skipBlanks_cons rfl _, by simp⟩
  | .arr _ => ⟨'[', _, skipBlanks_cons rfl _, by simp⟩
  | .emptyObj _ _ => ⟨'\x7b', _, skipBlanks_cons rfl _, by simp⟩
  | .obj _ => ⟨'\x7b', _, skipBlanks_cons rfl _, by simp⟩
  | .after gap hgap h => by
    obtain ⟨c, more, hcs, hc⟩ := h.first
    exact ⟨c, more, by rw [skipBlanks_append hgap, hcs], hc⟩
  | .before gap _ h => by
    obtain ⟨c, more, hcs, hc⟩ := h.first
    exact ⟨c, more ++ gap, skipBlanks_append_cons hcs gap, hc⟩

end Guardrail.Json
