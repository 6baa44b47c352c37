import Guardrail.Proofs.NumberText

/-!
Numbers and strings in JSON text.

Each is given by the texts in which it may be written. The reader takes such a text for it, wherever the text ends, and
nothing else: of what the reader takes for a number or a string, one can say how it is written.
-/

namespace Guardrail.Json

/-! ### Where a number ends -/

/-- What may follow a number: nothing that could belong to one. -/
def Stops (rest : List Char) : Prop :=
  ∀ c ∈ rest.head?, c.isDigit = false ∧ c ≠ '.' ∧ c ≠ 'e' ∧ c ≠ 'E'

section Parts

variable {cs tail rest : List Char}

lemma digits_append_of_stops (cs : List Char) (hrest : Stops rest) :
    (cs ++ rest).takeWhile Char.isDigit = cs.takeWhile Char.isDigit
      ∧ (cs ++ rest).dropWhile Char.isDigit = cs.dropWhile Char.isDigit ++ rest := by
  induction cs with
  | nil =>
    cases rest with
    | nil => simp
    | cons c rest => simp [(hrest c rfl).1]
  | cons c cs ih =>
    by_cases hc : c.isDigit = true
    · simp [hc, ih]
    · simp [hc]

lemma signPart_append (h : cs ≠ []) (rest : List Char) :
    signPart (cs ++ rest) = ((signPart cs).1, (signPart cs).2 ++ rest) := by
  obtain ⟨c, cs, rfl⟩ := List.exists_cons_of_ne_nil h
  unfold signPart
  grind

lemma exponentSign_append (h : cs ≠ []) (rest : List Char) :
    exponentSign (cs ++ rest) = ((exponentSign cs).1, (exponentSign cs).2 ++ rest) := by
  obtain ⟨c, cs, rfl⟩ := List.exists_cons_of_ne_nil h
  unfold exponentSign
  grind

lemma fractionPart?_append {f : Option (List Char)} (h : fractionPart? cs = some (f, tail)) (hrest : Stops rest) :
    fractionPart? (cs ++ rest) = some (f, tail ++ rest) := by
  cases cs with
  | nil =>
    cases h
    cases rest with
    | nil => rfl
    | cons c rest =>
      have hpoint := (hrest c rfl).2.1
      unfold fractionPart?
      grind
  | cons c cs =>
    obtain ⟨htake, hdrop⟩ := digits_append_of_stops cs hrest
    unfold fractionPart? at h ⊢
    grind

lemma exponentPart?_append {e : Option (Bool × List Char)} (h : exponentPart? cs = some (e, tail))
    (hrest : Stops rest) : exponentPart? (cs ++ rest) = some (e, tail ++ rest) := by
  cases cs with
  | nil =>
    cases h
    cases rest with
    | nil => rfl
    | cons c rest =>
      obtain ⟨-, -, he, hE⟩ := hrest c rfl
      simp [exponentPart?, he, hE]
  | cons c cs =>
    simp only [exponentPart?, List.cons_append] at h ⊢
    split at h
    · next hc =>
      have hne : cs ≠ [] := by
        rintro rfl
        cases h
      obtain ⟨htake, hdrop⟩ := digits_append_of_stops (exponentSign cs).2 hrest
      rw [if_pos hc, exponentSign_append hne]
      simp only [htake, hdrop]
      grind
    · next hc =>
      cases h
      rw [if_neg hc]
      rfl

/-- What follows a number is left as it is. -/
lemma literal?_append {l : Literal} (h : literal? cs = some (l, tail)) (hrest : Stops rest) :
    literal? (cs ++ rest) = some (l, tail ++ rest) := by
  have hne : cs ≠ [] := by
    rintro rfl
    cases h
  simp only [literal?] at h ⊢
  split at h
  · cases h
  · next hwhole =>
    obtain ⟨⟨f, more⟩, hf, h⟩ := Option.bind_eq_some_iff.mp h
    obtain ⟨⟨e, last⟩, he, h⟩ := Option.map_eq_some_iff.mp h
    cases h
    obtain ⟨htake, hdrop⟩ := digits_append_of_stops (signPart cs).2 hrest
    simp only [signPart_append hne, htake, hdrop, if_neg hwhole, fractionPart?_append hf hrest, Option.bind_some,
      exponentPart?_append he hrest, Option.map_some]

lemma literal?_head {l : Literal} (h : literal? cs = some (l, tail)) :
    ∃ c more, cs = c :: more ∧ (c = '-' ∨ c.isDigit = true) := by
  cases cs with
  | nil => cases h
  | cons c cs =>
    refine ⟨c, cs, rfl, ?_⟩
    by_contra hc
    simp only [not_or, Bool.not_eq_true] at hc
    have hsign : signPart (c :: cs) = (false, c :: cs) := by
      unfold signPart
      grind
    simp [literal?, hsign, hc.2] at h

end Parts

/-! ### Numbers -/

/-- The exponent of a number as it may be written. -/
inductive SpellsExponent : Option (Bool × List Char) → List Char → Prop
  | absent : SpellsExponent none []
  | bare (mark : Char) (ds : List Char) (hmark : mark = 'e' ∨ mark = 'E') :
    SpellsExponent (some (false, ds)) (mark :: ds)
  | signed (mark : Char) (minus : Bool) (ds : List Char) (hmark : mark = 'e' ∨ mark = 'E') :
    SpellsExponent (some (minus, ds)) (mark :: (if minus then '-' else '+') :: ds)

/-- A literal as it may be written. There is no zero in front, and each part that is there has a digit. -/
structure Literal.Spells (l : Literal) (cs : List Char) : Prop where
  formed : l.Formed
  lead : l.whole.length = 1 ∨ l.whole.head? ≠ some '0'
  fraction_ne : ∀ ds, l.fraction = some ds → ds ≠ []
  exponent_ne : ∀ e, l.exponent = some e → e.2 ≠ []
  text : ∃ exponent, SpellsExponent l.exponent exponent ∧
    cs = (if l.negative then ['-'] else []) ++ l.whole ++ l.fractionChars ++ exponent

section Numbers

variable {cs tail rest : List Char}

lemma signPart_eq (cs : List Char) : cs = (if (signPart cs).1 then ['-'] else []) ++ (signPart cs).2 := by
  unfold signPart
  split <;> simp

lemma ne_of_isDigit {c d : Char} (hc : c.isDigit = true) (hd : d.isDigit = false) : c ≠ d := by
  rintro rfl
  exact absurd hc (by simp [hd])

lemma fractionPart?_eq_some {f : Option (List Char)} (h : fractionPart? cs = some (f, tail)) :
    cs = f.elim [] ('.' :: ·) ++ tail ∧ ∀ ds, f = some ds → ds ≠ [] ∧ ∀ c ∈ ds, c.isDigit = true := by
  unfold fractionPart? at h
  split at h
  · next rest =>
    simp only at h
    split at h
    · cases h
    · next hne =>
      cases h
      refine ⟨by simp, ?_⟩
      rintro _ ⟨⟩
      exact ⟨hne, fun _ hc => List.mem_takeWhile_imp hc⟩
  · cases h
    exact ⟨rfl, nofun⟩

lemma exponentSign_eq (cs : List Char) : exponentSign cs = (false, cs) ∨
    cs = (if (exponentSign cs).1 then '-' else '+') :: (exponentSign cs).2 := by
  unfold exponentSign
  split <;> simp

lemma exponentPart?_eq_some {e : Option (Bool × List Char)} (h : exponentPart? cs = some (e, tail)) :
    (∃ text, SpellsExponent e text ∧ cs = text ++ tail) ∧ ∀ x, e = some x → x.2 ≠ [] ∧ ∀ c ∈ x.2, c.isDigit = true := by
  cases cs with
  | nil =>
    cases h
    exact ⟨⟨[], .absent, rfl⟩, nofun⟩
  | cons mark cs =>
    simp only [exponentPart?] at h
    split at h
    · next hmark =>
      split at h
      · cases h
      · next hne =>
        cases h
        refine ⟨?_, by rintro _ ⟨⟩; exact ⟨hne, fun _ hc => List.mem_takeWhile_imp hc⟩⟩
        have htail : (exponentSign cs).2.takeWhile Char.isDigit ++ (exponentSign cs).2.dropWhile Char.isDigit =
            (exponentSign cs).2 := List.takeWhile_append_dropWhile
        rcases exponentSign_eq cs with hbare | hsigned
        · refine ⟨_, by rw [hbare]; exact .bare mark _ hmark, ?_⟩
          simp [hbare]
        · refine ⟨_, .signed mark _ _ hmark, ?_⟩
          rw [List.cons_append, List.cons_append, htail, ← hsigned]
    · cases h
      exact ⟨⟨[], .absent, rfl⟩, nofun⟩

lemma Literal.fractionChars_eq (l : Literal) : l.fractionChars = l.fraction.elim [] ('.' :: ·) := by
  unfold fractionChars
  cases l.fraction <;> rfl

/-- The reader takes a literal for one only where it is written as one. -/
lemma exists_spells_of_literal? {l : Literal} (h : literal? cs = some (l, tail)) :
    ∃ text, cs = text ++ tail ∧ l.Spells text := by
  simp only [literal?] at h
  split at h
  · cases h
  · next hwhole =>
    obtain ⟨⟨f, more⟩, hf, h⟩ := Option.bind_eq_some_iff.mp h
    obtain ⟨⟨e, last⟩, he, h⟩ := Option.map_eq_some_iff.mp h
    cases h
    obtain ⟨hfraction, hfdigits⟩ := fractionPart?_eq_some hf
    obtain ⟨⟨exponent, hexponent, hlast⟩, hedigits⟩ := exponentPart?_eq_some he
    obtain ⟨hne, hlead⟩ := not_or.mp hwhole
    have hlength := List.length_pos_iff.mpr hne
    refine ⟨_, ?_, ?_, ?_, fun ds hds => (hfdigits ds hds).1, fun x hx => (hedigits x hx).1, exponent, hexponent, rfl⟩
    · calc cs = (if (signPart cs).1 then ['-'] else []) ++ (signPart cs).2 := signPart_eq cs
        _ = (if (signPart cs).1 then ['-'] else []) ++ ((signPart cs).2.takeWhile Char.isDigit ++
            (f.elim [] ('.' :: ·) ++ (exponent ++ last))) := by
          rw [← hlast, ← hfraction, List.takeWhile_append_dropWhile]
        _ = _ := by simp only [Literal.fractionChars_eq, List.append_assoc]
    · exact ⟨hne, fun _ hc => List.mem_takeWhile_imp hc, fun ds hds => (hfdigits ds hds).2,
        fun x hx => (hedigits x hx).2⟩
    · by_cases hone : ((signPart cs).2.takeWhile Char.isDigit).length = 1
      · exact .inl hone
      · exact .inr fun hzero => hlead ⟨by omega, hzero⟩

lemma SpellsExponent.head {e : Option (Bool × List Char)} (h : SpellsExponent e cs) :
    ∀ c ∈ cs.head?, c.isDigit = false ∧ c ≠ '.' := by
  have hmark {mark : Char} (hmark : mark = 'e' ∨ mark = 'E') : mark.isDigit = false ∧ mark ≠ '.' := by
    rcases hmark with rfl | rfl <;> decide
  cases h with
  | absent => simp
  | bare mark ds h => simpa using hmark h
  | signed mark minus ds h => simpa using hmark h

lemma SpellsExponent.exponentPart? {e : Option (Bool × List Char)} (h : SpellsExponent e cs)
    (hdigits : ∀ x, e = some x → x.2 ≠ [] ∧ ∀ c ∈ x.2, c.isDigit = true) : exponentPart? cs = some (e, []) := by
  cases h with
  | absent => rfl
  | bare mark ds hmark =>
    obtain ⟨hne, hds⟩ := hdigits _ rfl
    have htake := List.takeWhile_eq_self_iff.mpr hds
    have hdrop := List.dropWhile_eq_nil_iff.mpr hds
    have hsign : exponentSign ds = (false, ds) := by
      obtain ⟨c, more, rfl⟩ := List.exists_cons_of_ne_nil hne
      have hc := hds c List.mem_cons_self
      have hminus := ne_of_isDigit hc (d := '-') rfl
      have hplus := ne_of_isDigit hc (d := '+') rfl
      unfold exponentSign
      grind
    simp only at hne htake hdrop
    simp [Json.exponentPart?, hmark, hsign, htake, hdrop, hne]
  | signed mark minus ds hmark =>
    obtain ⟨hne, hds⟩ := hdigits _ rfl
    have htake := List.takeWhile_eq_self_iff.mpr hds
    have hdrop := List.dropWhile_eq_nil_iff.mpr hds
    have hsign : exponentSign ((if minus then '-' else '+') :: ds) = (minus, ds) := by cases minus <;> rfl
    simp only at hne htake hdrop
    simp [Json.exponentPart?, hmark, hsign, htake, hdrop, hne]

/-- The reader takes what is written as a literal for that literal, wherever it ends. -/
lemma Literal.Spells.literal? {l : Literal} (h : l.Spells cs) (hrest : Stops rest) :
    literal? (cs ++ rest) = some (l, rest) := by
  obtain ⟨⟨hne, hwhole, hfraction, hexponent⟩, hlead, hfne, hene, exponent, hspells, rfl⟩ := h
  have hlast := hspells.exponentPart? fun x hx => ⟨hene x hx, hexponent x hx⟩
  have hpoint : fractionPart? (l.fractionChars ++ exponent) = some (l.fraction, exponent) := by
    rw [Literal.fractionChars_eq]
    cases hf : l.fraction with
    | none =>
      have hhead := hspells.head
      unfold fractionPart?
      grind
    | some ds =>
      obtain ⟨htake, hdrop⟩ := digits_append (hfraction ds hf) fun c hc => (hspells.head c hc).1
      simp [fractionPart?, htake, hdrop, hfne ds hf]
  have hsign : signPart ((if l.negative then ['-'] else []) ++ l.whole ++ l.fractionChars ++ exponent) =
      (l.negative, l.whole ++ (l.fractionChars ++ exponent)) := by
    obtain ⟨c, more, hcons⟩ := List.exists_cons_of_ne_nil hne
    have hminus := ne_of_isDigit (hwhole c (hcons ▸ List.mem_cons_self)) (d := '-') rfl
    rw [hcons]
    unfold signPart
    cases l.negative <;> grind
  have hhead : ∀ c ∈ (l.fractionChars ++ exponent).head?, c.isDigit = false := by
    rw [Literal.fractionChars_eq]
    cases l.fraction with
    | none => exact fun c hc => (hspells.head c hc).1
    | some ds => exact fun c hc => by cases hc; rfl
  obtain ⟨htake, hdrop⟩ := digits_append hwhole hhead
  have hzero : ¬ (l.whole = [] ∨ 1 < l.whole.length ∧ l.whole.head? = some '0') := by
    rintro (h | ⟨hlong, hzero⟩)
    · exact hne h
    · exact hlead.elim (by omega) fun h => h hzero
  have hread : Json.literal? ((if l.negative then ['-'] else []) ++ l.whole ++ l.fractionChars ++ exponent) =
      some (l, []) := by
    simp only [Json.literal?, hsign, htake, hdrop, if_neg hzero, hpoint, Option.bind_some, hlast, Option.map_some]
  exact literal?_append hread hrest

/-- A literal begins with its sign or a digit. -/
lemma Literal.Spells.first {l : Literal} (h : l.Spells cs) :
    ∃ c more, cs = c :: more ∧ ∀ d, d ≠ '-' ∧ d.isDigit = false → c ≠ d := by
  obtain ⟨c, more, hcs, hc⟩ := literal?_head (h.literal? (show Stops [] from nofun))
  rw [List.append_nil] at hcs
  refine ⟨c, more, hcs, ?_⟩
  rintro d ⟨hminus, hdigit⟩
  exact hc.elim (fun h => h ▸ hminus.symm) fun h => ne_of_isDigit h hdigit

end Numbers

/-! ### Strings -/

/-- What a string is written with: characters, as such or by an escape, and code units in hexadecimal. -/
inductive Piece where
  | char (c : Char)
  | unit (u : ℕ)

/-- Pieces as they may be written between quotes. -/
inductive SpellsPieces : List Piece → List Char → Prop
  | nil : SpellsPieces [] []
  | plain {ps : List Piece} {cs : List Char} (c : Char) (hcontrol : 0x20 ≤ c.toNat) (hquote : c ≠ '"')
    (hslash : c ≠ '\\') (h : SpellsPieces ps cs) : SpellsPieces (.char c :: ps) (c :: cs)
  | letter {ps : List Piece} {cs : List Char} (c : Char) {d : Char} (hd : simpleEscape? c = some d)
    (h : SpellsPieces ps cs) : SpellsPieces (.char d :: ps) ('\\' :: c :: cs)
  | unit {ps : List Piece} {cs : List Char} (hex : List Char) {u : ℕ} (hu : codeUnit? hex = some (u, []))
    (h : SpellsPieces ps cs) : SpellsPieces (.unit u :: ps) ('\\' :: 'u' :: (hex ++ cs))

/-- The characters that pieces stand for. The halves of a surrogate pair stand for one character together; where one
stands alone there are none. -/
def pieceChars? : List Piece → Option (List Char)
  | [] => some []
  | .char c :: ps => (pieceChars? ps).map (c :: ·)
  | .unit u :: ps =>
    if 0xDC00 ≤ u ∧ u < 0xE000 then none
    else if 0xD800 ≤ u ∧ u < 0xDC00 then
      match ps with
      | .unit v :: ps =>
        if 0xDC00 ≤ v ∧ v < 0xE000 then
          (pieceChars? ps).map (Char.ofNat (0x10000 + (u - 0xD800) * 0x400 + (v - 0xDC00)) :: ·)
        else none
      | _ => none
    else (pieceChars? ps).map (Char.ofNat u :: ·)

/-- What a reader gives that has met `acc`, in reverse, and perhaps half a pair, and has `cs?` in front of it. -/
def Quoted.ofChars (acc : List Char) (half : Bool) (rest : List Char) (cs? : Option (List Char)) : Quoted :=
  if half then .halved rest else cs?.elim (.halved rest) fun cs => .text (acc.reverse ++ cs) rest

section Strings

variable {acc cs hex rest : List Char} {half : Bool} {u : ℕ} {ps : List Piece}

lemma Quoted.ofChars_half : Quoted.ofChars acc true rest = fun _ => .halved rest := rfl

lemma Quoted.ofChars_none : Quoted.ofChars acc half rest none = .halved rest := by
  cases half <;> rfl

lemma Quoted.ofChars_map (c : Char) (cs? : Option (List Char)) :
    ofChars acc half rest (cs?.map (c :: ·)) = ofChars (c :: acc) half rest cs? := by
  cases half <;> cases cs? <;> simp [ofChars]

lemma codeUnit?_eq_some (h : codeUnit? cs = some (u, rest)) :
    ∃ hex, codeUnit? hex = some (u, []) ∧ cs = hex ++ rest ∧ ∀ more, codeUnit? (hex ++ more) = some (u, more) := by
  unfold codeUnit? at h
  split at h
  · next a b c d more =>
    obtain ⟨w, hw, h⟩ := Option.bind_eq_some_iff.mp h
    obtain ⟨x, hx, h⟩ := Option.bind_eq_some_iff.mp h
    obtain ⟨y, hy, h⟩ := Option.bind_eq_some_iff.mp h
    obtain ⟨z, hz, h⟩ := Option.bind_eq_some_iff.mp h
    cases h
    have hread (more : List Char) :
        codeUnit? ([a, b, c, d] ++ more) = some (((w * 16 + x) * 16 + y) * 16 + z, more) := by
      simp [codeUnit?, hw, hx, hy, hz]
    exact ⟨[a, b, c, d], hread [], rfl, hread⟩
  · cases h

lemma codeUnit?_append (h : codeUnit? hex = some (u, [])) (rest : List Char) :
    codeUnit? (hex ++ rest) = some (u, rest) := by
  obtain ⟨hex', -, happ, hread⟩ := codeUnit?_eq_some h
  rw [happ, List.append_nil, hread]

lemma pieceChars?_unit (u : ℕ) (ps : List Piece) : pieceChars? (.unit u :: ps) =
    if 0xDC00 ≤ u ∧ u < 0xE000 then none
    else if 0xD800 ≤ u ∧ u < 0xDC00 then
      match ps with
      | .unit v :: ps =>
        if 0xDC00 ≤ v ∧ v < 0xE000 then
          (pieceChars? ps).map (Char.ofNat (0x10000 + (u - 0xD800) * 0x400 + (v - 0xDC00)) :: ·)
        else none
      | _ => none
    else (pieceChars? ps).map (Char.ofNat u :: ·) := by
  rw [pieceChars?.eq_def]

lemma pieceChars?_single (hlow : ¬ (0xDC00 ≤ u ∧ u < 0xE000)) (hhigh : ¬ (0xD800 ≤ u ∧ u < 0xDC00)) (ps : List Piece) :
    pieceChars? (.unit u :: ps) = (pieceChars? ps).map (Char.ofNat u :: ·) := by
  rw [pieceChars?_unit, if_neg hlow, if_neg hhigh]

lemma pieceChars?_low (hlow : 0xDC00 ≤ u ∧ u < 0xE000) (ps : List Piece) : pieceChars? (.unit u :: ps) = none := by
  rw [pieceChars?_unit, if_pos hlow]

lemma pieceChars?_high (hhigh : 0xD800 ≤ u ∧ u < 0xDC00)
    (h : ∀ v tail, ps = .unit v :: tail → ¬ (0xDC00 ≤ v ∧ v < 0xE000)) : pieceChars? (.unit u :: ps) = none := by
  rw [pieceChars?_unit]
  grind

lemma pieceChars?_pair {v : ℕ} (hhigh : 0xD800 ≤ u ∧ u < 0xDC00) (hlow : 0xDC00 ≤ v ∧ v < 0xE000) (ps : List Piece) :
    pieceChars? (.unit u :: .unit v :: ps) =
      (pieceChars? ps).map (Char.ofNat (0x10000 + (u - 0xD800) * 0x400 + (v - 0xDC00)) :: ·) := by
  rw [pieceChars?_unit, if_neg (by omega), if_pos hhigh]
  exact if_pos hlow

/-- With so much fuel the reader takes pieces for what they stand for, up to the quote. -/
def ReadsPieces (rest : List Char) (fuel : ℕ) : Prop :=
  ∀ {ps cs} (acc half), SpellsPieces ps cs → cs.length < fuel →
    quotedFrom acc half fuel (cs ++ '"' :: rest) = .ofChars acc half rest (pieceChars? ps)

/-- The first half of a pair is read with what follows it. -/
lemma ReadsPieces.high {fuel : ℕ} (ih : ReadsPieces rest fuel) (hu : codeUnit? hex = some (u, []))
    (hhigh : 0xD800 ≤ u ∧ u < 0xDC00) (h : SpellsPieces ps cs) (hfuel : cs.length < fuel) :
    quotedFrom acc half (fuel + 1) ('\\' :: 'u' :: (hex ++ cs) ++ '"' :: rest) =
      .ofChars acc half rest (pieceChars? (.unit u :: ps)) := by
  simp only [List.cons_append, List.append_assoc, quotedFrom, codeUnit?_append hu]
  rw [if_neg (by omega), if_pos hhigh]
  -- of what follows only a code unit is read together with this one
  cases h with
  | nil =>
    rw [pieceChars?_high hhigh (by simp), Quoted.ofChars_none]
    exact ih acc true .nil hfuel
  | @plain ps cs c hcontrol hquote hslash h =>
    rw [pieceChars?_high hhigh (by simp), Quoted.ofChars_none]
    split
    · next heq => exact absurd (List.cons.inj heq).1 hslash
    · exact ih acc true (.plain c hcontrol hquote hslash h) hfuel
  | @letter ps cs c d hd h =>
    rw [pieceChars?_high hhigh (by simp), Quoted.ofChars_none]
    split
    · next heq =>
      obtain rfl : c = 'u' := (List.cons.inj (List.cons.inj heq).2).1
      cases hd
    · exact ih acc true (.letter c hd h) hfuel
  | @unit ps cs hex' v hv h =>
    simp only [List.length_cons, List.length_append] at hfuel
    simp only [List.cons_append, List.append_assoc, codeUnit?_append hv]
    by_cases hpair : 0xDC00 ≤ v ∧ v < 0xE000
    · rw [if_pos hpair, ih _ _ h (by omega), pieceChars?_pair hhigh hpair, Quoted.ofChars_map]
    · rw [if_neg hpair, ih _ _ h (by omega), pieceChars?_high hhigh, Quoted.ofChars_none, Quoted.ofChars_half]
      rintro _ _ ⟨⟩
      exact hpair

lemma ReadsPieces.unit {fuel : ℕ} (ih : ReadsPieces rest fuel) (hu : codeUnit? hex = some (u, []))
    (h : SpellsPieces ps cs) (hfuel : cs.length < fuel) :
    quotedFrom acc half (fuel + 1) ('\\' :: 'u' :: (hex ++ cs) ++ '"' :: rest) =
      .ofChars acc half rest (pieceChars? (.unit u :: ps)) := by
  by_cases hhigh : 0xD800 ≤ u ∧ u < 0xDC00
  · exact ih.high hu hhigh h hfuel
  simp only [List.cons_append, List.append_assoc, quotedFrom, codeUnit?_append hu]
  by_cases hlow : 0xDC00 ≤ u ∧ u < 0xE000
  · rw [if_pos hlow, ih _ _ h hfuel, Quoted.ofChars_half, pieceChars?_low hlow, Quoted.ofChars_none]
  · rw [if_neg hlow, if_neg hhigh, ih _ _ h hfuel, pieceChars?_single hlow hhigh, Quoted.ofChars_map]

lemma readsPieces (rest : List Char) (fuel : ℕ) : ReadsPieces rest fuel := by
  induction fuel with
  | zero => exact fun _ _ _ hfuel => absurd hfuel (Nat.not_lt_zero _)
  | succ fuel ih =>
    intro ps cs acc half h hfuel
    cases h with
    | nil => cases half <;> simp [quotedFrom, pieceChars?, Quoted.ofChars]
    | plain c hcontrol hquote hslash h =>
      rw [List.cons_append, quotedFrom, if_neg (by omega), ih _ _ h (by simpa using hfuel), pieceChars?,
        Quoted.ofChars_map]
      · exact hquote
      · exact fun _ h _ => hslash h
      · exact fun _ _ h _ => hslash h
    | @letter ps cs c d hd h =>
      have hu : c ≠ 'u' := by
        rintro rfl
        cases hd
      rw [List.cons_append, List.cons_append, quotedFrom, hd, pieceChars?, Quoted.ofChars_map]
      · exact ih _ _ h (by simp at hfuel; omega)
      · exact hu
    | unit hex hu h => exact ih.unit hu h (by simp at hfuel; omega)

/-- Where the reader gets to a closing quote it has read pieces. -/
lemma exists_pieces_of_quotedFrom {acc : List Char} {half : Bool} {fuel : ℕ}
    (h : quotedFrom acc half fuel cs ≠ .broken) : ∃ ps text rest, SpellsPieces ps text ∧ cs = text ++ '"' :: rest := by
  have hunit {hex more : List Char} {u : ℕ} (hu : codeUnit? hex = some (u, more))
      (h : ∃ ps text rest, SpellsPieces ps text ∧ more = text ++ '"' :: rest) :
      ∃ ps text rest, SpellsPieces ps text ∧ '\\' :: 'u' :: hex = text ++ '"' :: rest := by
    obtain ⟨hex, hhex, rfl, -⟩ := codeUnit?_eq_some hu
    obtain ⟨ps, text, rest, hps, rfl⟩ := h
    exact ⟨_, _, rest, .unit hex hhex hps, by simp⟩
  fun_induction quotedFrom acc half fuel cs
  case case3 rest => exact ⟨[], [], rest, .nil, rfl⟩
  case case4 rest _ => exact ⟨[], [], rest, .nil, rfl⟩
  case case6 hu _ ih => exact hunit hu (ih h)
  case case8 hv _ hu ih => exact hunit hu (hunit hv (ih h))
  case case9 hv _ hu ih => exact hunit hu (hunit hv (ih h))
  case case10 hu _ _ _ ih => exact hunit hu (ih h)
  case case11 hu _ _ ih => exact hunit hu (ih h)
  case case12 c _ _ _ hd ih =>
    obtain ⟨ps, text, rest, hps, rfl⟩ := ih h
    exact ⟨_, _, rest, .letter c hd hps, rfl⟩
  case case15 c _ hquote _ hslash hcontrol ih =>
    obtain ⟨ps, text, rest, hps, rfl⟩ := ih h
    refine ⟨_, _, rest, .plain c (by omega) hquote ?_ hps, rfl⟩
    rintro rfl
    obtain ⟨d, more, hcons⟩ : ∃ d more, text ++ '"' :: rest = d :: more := List.exists_cons_of_ne_nil (by simp)
    exact hslash d more rfl hcons
  all_goals exact absurd rfl h

lemma quoted_of_pieces (h : SpellsPieces ps cs) (rest : List Char) :
    quoted (cs ++ '"' :: rest) = .ofChars [] false rest (pieceChars? ps) :=
  readsPieces rest _ [] false h (by simp)

lemma exists_pieces_of_quoted (h : quoted cs ≠ .broken) : ∃ ps text rest, SpellsPieces ps text ∧
    cs = text ++ '"' :: rest ∧ quoted cs = .ofChars [] false rest (pieceChars? ps) := by
  obtain ⟨ps, text, rest, hps, rfl⟩ := exists_pieces_of_quotedFrom h
  exact ⟨ps, text, rest, hps, rfl, quoted_of_pieces hps rest⟩

/-- **Strings.** A string is read where pieces are written up to a quote, as what the pieces stand for. -/
theorem quoted_eq_text {t : List Char} : quoted cs = .text t rest ↔
    ∃ ps text, SpellsPieces ps text ∧ pieceChars? ps = some t ∧ cs = text ++ '"' :: rest := by
  constructor
  · intro h
    obtain ⟨ps, text, rest, hps, rfl, hread⟩ := exists_pieces_of_quoted (by rw [h]; exact nofun)
    rw [h] at hread
    cases hchars : pieceChars? ps with
    | none => simp [hchars, Quoted.ofChars] at hread
    | some t =>
      rw [hchars] at hread
      cases hread
      exact ⟨ps, text, hps, hchars, rfl⟩
  · rintro ⟨ps, text, hps, hchars, rfl⟩
    rw [quoted_of_pieces hps, hchars]
    rfl

/-- A string in which half a surrogate pair stands alone is told from the rest of the text, but has no characters. -/
theorem quoted_eq_halved : quoted cs = .halved rest ↔
    ∃ ps text, SpellsPieces ps text ∧ pieceChars? ps = none ∧ cs = text ++ '"' :: rest := by
  constructor
  · intro h
    obtain ⟨ps, text, rest, hps, rfl, hread⟩ := exists_pieces_of_quoted (by rw [h]; exact nofun)
    rw [h] at hread
    cases hchars : pieceChars? ps with
    | none =>
      rw [hchars] at hread
      cases hread
      exact ⟨ps, text, hps, hchars, rfl⟩
    | some t => simp [hchars, Quoted.ofChars] at hread
  · rintro ⟨ps, text, hps, hchars, rfl⟩
    rw [quoted_of_pieces hps, hchars, Quoted.ofChars_none]

/-- A text between quotes, as it may be written. -/
def Quotes (s : String) (cs : List Char) : Prop :=
  ∃ ps text, SpellsPieces ps text ∧ pieceChars? ps = some s.toList ∧ cs = '"' :: text ++ ['"']

lemma Quotes.quoted {s : String} (h : Quotes s cs) (rest : List Char) :
    ∃ tail, cs ++ rest = '"' :: tail ∧ quoted tail = .text s.toList rest := by
  obtain ⟨ps, text, hps, hchars, rfl⟩ := h
  exact ⟨text ++ '"' :: rest, by simp, quoted_eq_text.mpr ⟨ps, text, hps, hchars, rfl⟩⟩

lemma exists_quotes_of_quoted {t : List Char} (h : quoted cs = .text t rest) :
    ∃ text, Quotes (String.ofList t) text ∧ '"' :: cs = text ++ rest := by
  obtain ⟨ps, text, hps, hchars, rfl⟩ := quoted_eq_text.mp h
  exact ⟨_, ⟨ps, text, hps, by rw [hchars, String.toList_ofList], rfl⟩, by simp⟩

end Strings

end Guardrail.Json
