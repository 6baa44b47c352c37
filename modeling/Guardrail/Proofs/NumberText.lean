import Guardrail.Json.Printer
import Guardrail.Json.Reader
import Guardrail.Proofs.ShortestDigits

/-!
Numbers are told apart by their text.

The text of a number is a literal of the grammar, and where it ends can be seen from what follows. What is
written for a finite double has the value of its shortest digits, so that no two of them share a text.
-/

namespace Guardrail.Json

/-! ### Literals -/

/-- What may follow a value: nothing that could belong to a number. -/
def Ends (rest : List Char) : Prop :=
  ∀ c ∈ rest.head?, c.isDigit = false ∧ c ≠ '.' ∧ c ≠ 'e'

namespace Literal

/-- The fraction as it is written. -/
def fractionChars (l : Literal) : List Char :=
  match l.fraction with
  | some ds => '.' :: ds
  | none => []

/-- The exponent as it is written. -/
def exponentChars (l : Literal) : List Char :=
  match l.exponent with
  | some (minus, ds) => 'e' :: (if minus then '-' else '+') :: ds
  | none => []

/-- The literal as it is written. -/
def chars (l : Literal) : List Char :=
  (if l.negative then ['-'] else []) ++ l.whole ++ l.fractionChars ++ l.exponentChars

/-- Digits stand where digits should. -/
structure Formed (l : Literal) : Prop where
  nonempty : l.whole ≠ []
  whole : ∀ c ∈ l.whole, c.isDigit = true
  fraction : ∀ ds, l.fraction = some ds → ∀ c ∈ ds, c.isDigit = true
  exponent : ∀ e, l.exponent = some e → ∀ c ∈ e.2, c.isDigit = true

/-- The power of ten that a literal names. -/
def power (l : Literal) : ℤ :=
  match l.exponent with
  | some (true, ds) => -(digitsValue ds : ℤ)
  | some (false, ds) => digitsValue ds
  | none => 0

/-- The number that a literal denotes, without its sign. -/
def value (l : Literal) : ℚ :=
  digitsValue (l.whole ++ l.fraction.getD []) * 10 ^ (l.power - (l.fraction.getD []).length)

end Literal

lemma digits_append {ds rest : List Char} (hds : ∀ c ∈ ds, c.isDigit = true)
    (hrest : ∀ c ∈ rest.head?, c.isDigit = false) :
    (ds ++ rest).takeWhile Char.isDigit = ds ∧ (ds ++ rest).dropWhile Char.isDigit = rest := by
  rw [List.takeWhile_append_of_pos hds, List.dropWhile_append_of_pos hds]
  cases rest with
  | nil => simp
  | cons c rest => simp [hrest c rfl]

/-- Digits end at the first character that is none. -/
lemma digits_append_inj {ds es rest more : List Char} (hds : ∀ c ∈ ds, c.isDigit = true)
    (hes : ∀ c ∈ es, c.isDigit = true) (hrest : ∀ c ∈ rest.head?, c.isDigit = false)
    (hmore : ∀ c ∈ more.head?, c.isDigit = false) (h : ds ++ rest = es ++ more) :
    ds = es ∧ rest = more := by
  obtain ⟨htake, hdrop⟩ := digits_append hds hrest
  obtain ⟨htake', hdrop'⟩ := digits_append hes hmore
  rw [h] at htake hdrop
  exact ⟨htake.symm.trans htake', hdrop.symm.trans hdrop'⟩

namespace Literal

variable {l k : Literal} {rest more : List Char}

lemma exponent_head (l : Literal) (hrest : Ends rest) :
    ∀ c ∈ (l.exponentChars ++ rest).head?, c.isDigit = false ∧ c ≠ '.' := by
  intro c hc
  simp only [exponentChars] at hc
  split at hc
  · cases hc
    exact ⟨rfl, by decide⟩
  · exact ⟨(hrest c hc).1, (hrest c hc).2.1⟩

lemma fraction_head (l : Literal) (hrest : Ends rest) :
    ∀ c ∈ (l.fractionChars ++ (l.exponentChars ++ rest)).head?, c.isDigit = false := by
  intro c hc
  simp only [fractionChars] at hc
  split at hc
  · cases hc
    rfl
  · exact (l.exponent_head hrest c hc).1

lemma exponent_append_inj (hl : l.Formed) (hk : k.Formed) (hrest : Ends rest) (hmore : Ends more)
    (h : l.exponentChars ++ rest = k.exponentChars ++ more) : l.exponent = k.exponent ∧ rest = more := by
  have hdigits := hl.exponent
  have hdigits' := hk.exponent
  simp only [exponentChars] at h
  rcases hle : l.exponent with _ | ⟨minus, ds⟩ <;> rcases hke : k.exponent with _ | ⟨minus', es⟩ <;>
    simp only [hle, hke, List.nil_append, List.cons_append, List.cons.injEq] at h
  · exact ⟨rfl, h⟩
  · exact absurd rfl (hrest 'e' (by rw [h]; rfl)).2.2
  · exact absurd rfl (hmore 'e' (by rw [← h]; rfl)).2.2
  · obtain ⟨-, hsign, htail⟩ := h
    obtain ⟨rfl, rfl⟩ := digits_append_inj (hdigits _ hle) (hdigits' _ hke)
      (fun c hc => (hrest c hc).1) (fun c hc => (hmore c hc).1) htail
    cases minus <;> cases minus' <;> simp_all

lemma fraction_append_inj (hl : l.Formed) (hk : k.Formed) (hrest : Ends rest) (hmore : Ends more)
    (h : l.fractionChars ++ (l.exponentChars ++ rest) = k.fractionChars ++ (k.exponentChars ++ more)) :
    l.fraction = k.fraction ∧ l.exponentChars ++ rest = k.exponentChars ++ more := by
  have hdigits := hl.fraction
  have hdigits' := hk.fraction
  have hhead := l.exponent_head hrest
  have hnext := k.exponent_head hmore
  simp only [fractionChars] at h
  rcases hlf : l.fraction with _ | ds <;> rcases hkf : k.fraction with _ | es <;>
    simp only [hlf, hkf, List.nil_append, List.cons_append, List.cons.injEq] at h
  · exact ⟨rfl, h⟩
  · exact absurd rfl (hhead '.' (by rw [h]; rfl)).2
  · exact absurd rfl (hnext '.' (by rw [← h]; rfl)).2
  · obtain ⟨rfl, htail⟩ := digits_append_inj (hdigits _ hlf) (hdigits' _ hkf)
      (fun c hc => (hhead c hc).1) (fun c hc => (hnext c hc).1) h.2
    exact ⟨rfl, htail⟩

lemma Formed.head (hl : l.Formed) (rest : List Char) : ∃ c tail, l.whole ++ rest = c :: tail ∧ c.isDigit = true := by
  obtain ⟨c, cs, hc⟩ := List.exists_cons_of_ne_nil hl.nonempty
  exact ⟨c, cs ++ rest, by rw [hc]; rfl, hl.whole c (by rw [hc]; exact List.mem_cons_self)⟩

/-- **One reading.** A literal and what follows it can be told from the text that they make up. -/
theorem chars_append_inj (hl : l.Formed) (hk : k.Formed) (hrest : Ends rest) (hmore : Ends more)
    (h : l.chars ++ rest = k.chars ++ more) : l = k ∧ rest = more := by
  have hsign : l.negative = k.negative ∧ l.whole ++ (l.fractionChars ++ (l.exponentChars ++ rest))
      = k.whole ++ (k.fractionChars ++ (k.exponentChars ++ more)) := by
    obtain ⟨c, tail, hc, hdigit⟩ := hl.head (l.fractionChars ++ (l.exponentChars ++ rest))
    obtain ⟨d, tail', hd, hdigit'⟩ := hk.head (k.fractionChars ++ (k.exponentChars ++ more))
    simp only [chars, List.append_assoc, hc, hd] at h ⊢
    -- a sign is not a digit
    cases hln : l.negative <;> cases hkn : k.negative <;> simp [hln, hkn] at h ⊢
    · exact h
    · exact absurd hdigit (by rw [h.1]; decide)
    · exact absurd hdigit' (by rw [← h.1]; decide)
    · exact h
  obtain ⟨hnegative, htail⟩ := hsign
  obtain ⟨hwhole, htail⟩ := digits_append_inj hl.whole hk.whole (l.fraction_head hrest)
    (k.fraction_head hmore) htail
  obtain ⟨hfraction, htail⟩ := fraction_append_inj hl hk hrest hmore htail
  obtain ⟨hexponent, htail⟩ := exponent_append_inj hl hk hrest hmore htail
  cases l
  cases k
  simp_all

end Literal

/-! ### Digits and their value -/

lemma digitsValue_eq (ds : List Char) : digitsValue ds = Nat.ofDigitChars 10 ds 0 := rfl

@[simp] lemma digitsValue_toDigits (n : ℕ) : digitsValue (Nat.toDigits 10 n) = n :=
  Nat.ofDigitChars_ten_toDigits

lemma digitsValue_append (ds es : List Char) :
    digitsValue (ds ++ es) = digitsValue ds * 10 ^ es.length + digitsValue es := by
  rw [digitsValue_eq, Nat.ofDigitChars_append, Nat.ofDigitChars_eq_ofDigitChars_zero, mul_comm]
  rfl

@[simp] lemma digitsValue_replicate (n : ℕ) : digitsValue (List.replicate n '0') = 0 := by
  induction n with
  | zero => rfl
  | succ n ih =>
    rw [List.replicate_succ', digitsValue_append, ih]
    rfl

lemma isDigit_replicate {n : ℕ} : ∀ c ∈ List.replicate n '0', c.isDigit = true := by
  intro c hc
  rw [List.eq_of_mem_replicate hc]
  rfl

lemma isDigit_toDigits {n : ℕ} : ∀ c ∈ Nat.toDigits 10 n, c.isDigit = true :=
  fun _ hc => Nat.isDigit_of_mem_toDigits (by norm_num) (by norm_num) hc

lemma toDigits_inj {m n : ℕ} (h : Nat.toDigits 10 m = Nat.toDigits 10 n) : m = n := by
  rw [← digitsValue_toDigits m, h, digitsValue_toDigits]

end Guardrail.Json

namespace Guardrail.Decimal.Scientific

lemma strip_value (s : Scientific) (fuel : ℕ) : (s.strip fuel).value = s.value := by
  induction fuel generalizing s with
  | zero => rfl
  | succ fuel ih =>
    rw [strip]
    split
    · next hzero =>
      rw [ih]
      have hdigits : (s.digits : ℚ) = (s.digits / 10 : ℕ) * 10 := by
        exact_mod_cast (Nat.div_mul_cancel (Nat.dvd_of_mod_eq_zero hzero.2)).symm
      rw [value, value, hdigits, zpow_add_one₀ (by norm_num)]
      ring
    · rfl

lemma normalize_value (s : Scientific) : s.normalize.value = s.value := s.strip_value _

end Guardrail.Decimal.Scientific

namespace Guardrail.Json

open Decimal

/-! ### What is written for a double -/

/-- A literal for a double: the text, behind a sign if there is one, and what it denotes. It can be told
from a whole number. -/
structure Literal.Writes (l : Literal) (negative : Bool) (v : ℚ) (text : List Char) : Prop where
  formed : l.Formed
  chars : l.chars = (if negative then ['-'] else []) ++ text
  negative : l.negative = negative
  value : l.value = v
  broken : l.fraction ≠ none ∨ l.exponent ≠ none

lemma isDigit_append {ds es : List Char} (hds : ∀ c ∈ ds, c.isDigit = true) (hes : ∀ c ∈ es, c.isDigit = true) :
    ∀ c ∈ ds ++ es, c.isDigit = true := by
  intro c hc
  exact (List.mem_append.mp hc).elim (hds c) (hes c)

/-- Digits with a point among them, as many behind it as the value has places. -/
lemma exists_writes_point (negative : Bool) (whole fraction : List Char) {v : ℚ} {text : List Char} (hne : whole ≠ [])
    (hwhole : ∀ c ∈ whole, c.isDigit = true) (hfraction : ∀ c ∈ fraction, c.isDigit = true)
    (hvalue : (digitsValue (whole ++ fraction) : ℚ) * 10 ^ (-(fraction.length : ℤ)) = v)
    (htext : text = whole ++ '.' :: fraction) : ∃ l : Literal, l.Writes negative v text := by
  refine ⟨⟨negative, whole, some fraction, none⟩, ⟨hne, hwhole, ?_, nofun⟩, ?_, rfl, ?_, .inl nofun⟩
  · rintro _ ⟨⟩
    exact hfraction
  · simp [Literal.chars, Literal.fractionChars, Literal.exponentChars, htext]
  · simpa [Literal.value, Literal.power] using hvalue

lemma exists_writes_positional (negative : Bool) (s : Scientific) :
    ∃ l : Literal, l.Writes negative s.value (positional true s).toList := by
  have hdigits := isDigit_toDigits (n := s.digits)
  have hne : Nat.toDigits 10 s.digits ≠ [] := Nat.toDigits_ne_nil
  have hvalue := digitsValue_toDigits s.digits
  simp only [positional]
  generalize Nat.toDigits 10 s.digits = ds at hdigits hne hvalue ⊢
  split
  · next hexponent =>
    -- zeros up to the point
    refine exists_writes_point negative (ds ++ List.replicate s.exponent.toNat '0') ['0'] (by simp [hne])
      (isDigit_append hdigits isDigit_replicate) (isDigit_replicate (n := 1)) ?_ (by simp)
    have hscale : (10 : ℚ) ^ s.exponent.toNat = 10 ^ s.exponent := by
      rw [← zpow_natCast, Int.toNat_of_nonneg hexponent]
    simp only [digitsValue_append, hvalue, digitsValue_replicate, List.length_replicate, Scientific.value, ← hscale]
    norm_num [digitsValue]
    ring
  · next hexponent =>
    split
    · next hshort =>
      -- the point stands among the digits
      refine exists_writes_point negative (ds.take (ds.length - (-s.exponent).toNat))
        (ds.drop (ds.length - (-s.exponent).toNat)) ?_ (fun c hc => hdigits c (List.mem_of_mem_take hc))
        (fun c hc => hdigits c (List.mem_of_mem_drop hc)) ?_ (by simp)
      · simp only [ne_eq, List.take_eq_nil_iff, hne, or_false]
        omega
      · have hlength : -((ds.drop (ds.length - (-s.exponent).toNat)).length : ℤ) = s.exponent := by
          rw [List.length_drop]
          omega
        rw [List.take_append_drop, hvalue, hlength, Scientific.value]
    · next hlong =>
      -- zeros behind the point
      refine exists_writes_point negative ['0'] (List.replicate ((-s.exponent).toNat - ds.length) '0' ++ ds)
        (List.cons_ne_nil _ _) (isDigit_replicate (n := 1)) (isDigit_append isDigit_replicate hdigits) ?_ (by simp)
      have hlength : -((List.replicate ((-s.exponent).toNat - ds.length) '0' ++ ds).length : ℤ) = s.exponent := by
        rw [List.length_append, List.length_replicate]
        omega
      rw [hlength, digitsValue_append, digitsValue_append, digitsValue_replicate, hvalue, Scientific.value]
      simp [digitsValue]

lemma exists_writes_scientific (negative : Bool) (s : Scientific) :
    ∃ l : Literal, l.Writes negative s.value (scientific "+" s).toList := by
  have hdigits := isDigit_toDigits (n := s.digits)
  have hne : Nat.toDigits 10 s.digits ≠ [] := Nat.toDigits_ne_nil
  have hvalue := digitsValue_toDigits s.digits
  simp only [scientific]
  generalize Nat.toDigits 10 s.digits = ds at hdigits hne hvalue ⊢
  obtain ⟨e, he⟩ : ∃ e, s.exponent + (ds.length - 1 : ℕ) = e := ⟨_, rfl⟩
  rw [he]
  let l : Literal := ⟨negative, ds.take 1, if ds.length ≤ 1 then none else some (ds.drop 1),
    some (decide (e < 0), Nat.toDigits 10 e.natAbs)⟩
  have hformed : l.Formed := by
    refine ⟨by simp [l, hne], fun c hc => hdigits c (List.mem_of_mem_take hc), ?_, ?_⟩
    · intro es hes c hc
      simp only [l] at hes
      split at hes <;> cases hes
      exact hdigits c (List.mem_of_mem_drop hc)
    · rintro _ ⟨⟩
      exact isDigit_toDigits
  have hfraction : l.fraction.getD [] = ds.drop 1 := by
    simp only [l]
    split
    · next hone => rw [List.drop_eq_nil_of_le hone]; rfl
    · rfl
  have hpower : l.power = e := by
    by_cases hneg : e < 0 <;> simp only [l, Literal.power, hneg, decide_true, decide_false] <;>
      rw [digitsValue_toDigits] <;> omega
  have hl : l.value = s.value := by
    have hlength : e - ((ds.drop 1).length : ℕ) = s.exponent := by
      rw [List.length_drop]
      omega
    rw [Literal.value, hfraction, hpower, hlength, List.take_append_drop, hvalue, Scientific.value]
  refine ⟨l, hformed, ?_, rfl, hl, .inr nofun⟩
  simp only [l, Literal.chars, Literal.fractionChars, Literal.exponentChars]
  by_cases hone : ds.length ≤ 1 <;> by_cases hneg : e < 0 <;> simp [hone, hneg, Nat.toList_repr]

lemma exists_writes_digits (negative : Bool) (s : Scientific) :
    ∃ l : Literal, l.Writes negative s.value (Style.json.digits s).toList := by
  have heither : Style.json.digits s = scientific "+" s.normalize
      ∨ Style.json.digits s = positional true s.normalize := ite_eq_or_eq _ _ _
  rw [← s.normalize_value]
  rcases heither with h | h
  · rw [h]
    exact exists_writes_scientific negative s.normalize
  · rw [h]
    exact exists_writes_positional negative s.normalize

lemma exists_writes_zero (negative : Bool) : ∃ l : Literal, l.Writes negative 0 "0.0".toList :=
  exists_writes_point negative ['0'] ['0'] (List.cons_ne_nil _ _) (isDigit_replicate (n := 1))
    (isDigit_replicate (n := 1)) (by simp [digitsValue]) rfl

/-! ### Numbers -/

/-- Not a double that is no number or infinite. -/
def Number.Finite : Number → Prop
  | .float x => x.isFinite = true
  | _ => True

/-- A literal for a double of which the parts are given: its value rounds to the double. -/
def Literal.Shows (l : Literal) : Parts → Prop
  | .zero negative => l.negative = negative ∧ l.value = 0
  | .finite negative v => l.negative = negative ∧ l.value ≠ 0 ∧ v.Canonical ∧ v.Rounds l.value
  | _ => False

/-- The literal of a number. Whole numbers have neither point nor exponent, doubles have one of them. -/
inductive Literal.Denotes : Literal → Number → Prop
  | nat (n : ℕ) : Denotes ⟨false, Nat.toDigits 10 n, none, none⟩ (.nat n)
  | neg (n : ℕ) : Denotes ⟨true, Nat.toDigits 10 (n + 1), none, none⟩ (.neg n)
  | float (l : Literal) (x : Float) (broken : l.fraction ≠ none ∨ l.exponent ≠ none)
    (finite : x.isFinite = true) (shows : l.Shows (Parts.ofFloat x)) : Denotes l (.float x)

lemma Literal.formed_whole (negative : Bool) (n : ℕ) :
    (⟨negative, Nat.toDigits 10 n, none, none⟩ : Literal).Formed :=
  ⟨Nat.toDigits_ne_nil, isDigit_toDigits, nofun, nofun⟩

lemma toList_parts_zero (negative : Bool) : (Style.json.parts (.zero negative)).toList
    = (if negative then ['-'] else []) ++ "0.0".toList := by
  cases negative <;> rfl

lemma toList_parts_finite (negative : Bool) (v : Decimal.Dyadic) : (Style.json.parts (.finite negative v)).toList
    = (if negative then ['-'] else []) ++ (Style.json.digits v.shortest).toList := by
  rw [Style.parts, String.toList_append]
  congr 1
  cases negative <;> rfl

/-- Whatever the parts of a double are, a literal is written for it, or null. -/
lemma parts_literal (p : Parts) :
    Style.json.parts p = "null" ∨ ∃ l : Literal, l.Formed ∧ l.chars = (Style.json.parts p).toList := by
  cases p with
  | nan => exact .inl rfl
  | infinite negative => cases negative <;> exact .inl rfl
  | zero negative =>
    obtain ⟨l, hl⟩ := exists_writes_zero negative
    exact .inr ⟨l, hl.formed, by rw [hl.chars, toList_parts_zero]⟩
  | finite negative v =>
    obtain ⟨l, hl⟩ := exists_writes_digits negative v.shortest
    exact .inr ⟨l, hl.formed, by rw [hl.chars, toList_parts_finite]⟩

lemma Number.exists_literal {n : Number} (hn : n.Finite) :
    ∃ l : Literal, l.Formed ∧ l.chars = n.text.toList ∧ l.Denotes n := by
  cases n with
  | nat n =>
    refine ⟨_, Literal.formed_whole false n, ?_, .nat n⟩
    simp [Literal.chars, Literal.fractionChars, Literal.exponentChars, text, Nat.toList_repr]
  | neg n =>
    refine ⟨_, Literal.formed_whole true (n + 1), ?_, .neg n⟩
    simp [Literal.chars, Literal.fractionChars, Literal.exponentChars, text, Nat.toList_repr]
  | float x =>
    have hx : x.isFinite = true := hn
    rcases finite_cases hx with ⟨negative, hparts⟩ | ⟨negative, v, hparts, hv⟩
    · obtain ⟨l, hl⟩ := exists_writes_zero negative
      have hshows : l.Shows (Parts.ofFloat x) := by
        rw [hparts]
        exact ⟨hl.negative, hl.value⟩
      refine ⟨l, hl.formed, ?_, .float l x hl.broken hx hshows⟩
      rw [hl.chars, text, Style.write, hparts, toList_parts_zero]
    · obtain ⟨hdigits, hrounds⟩ := hv.shortest_rounds
      obtain ⟨l, hl⟩ := exists_writes_digits negative v.shortest
      have hshows : l.Shows (Parts.ofFloat x) := by
        rw [hparts]
        refine ⟨hl.negative, ?_, hv, by rw [hl.value]; exact hrounds⟩
        rw [hl.value, Scientific.value]
        positivity
      refine ⟨l, hl.formed, ?_, .float l x hl.broken hx hshows⟩
      rw [hl.chars, text, Style.write, hparts, toList_parts_finite]

lemma Literal.Shows.eq {l : Literal} {p q : Parts} (hp : l.Shows p) (hq : l.Shows q) : p = q := by
  cases p with
  | nan => exact hp.elim
  | infinite _ => exact hp.elim
  | zero negative =>
    obtain ⟨rfl, hzero⟩ := hp
    cases q with
    | nan => exact hq.elim
    | infinite _ => exact hq.elim
    | zero _ => rw [← hq.1]
    | finite _ _ => exact absurd hzero hq.2.1
  | finite negative v =>
    obtain ⟨rfl, hvalue, hv, hrounds⟩ := hp
    cases q with
    | nan => exact hq.elim
    | infinite _ => exact hq.elim
    | zero _ => exact absurd hq.2 hvalue
    | finite _ w =>
      obtain ⟨rfl, -, hw, hrounds'⟩ := hq
      rw [hrounds.eq hv hw hrounds']

/-- A literal denotes one number. -/
lemma Literal.Denotes.eq {l : Literal} {m n : Number} (hm : l.Denotes m) (hn : l.Denotes n) : m = n := by
  cases hm with
  | nat m =>
    generalize hl : (⟨false, Nat.toDigits 10 m, none, none⟩ : Literal) = l at hn
    cases hn with
    | nat n => rw [toDigits_inj (congrArg Literal.whole hl)]
    | neg n => cases congrArg Literal.negative hl
    | float l y broken => simp [← hl] at broken
  | neg m =>
    generalize hl : (⟨true, Nat.toDigits 10 (m + 1), none, none⟩ : Literal) = l at hn
    cases hn with
    | nat n => cases congrArg Literal.negative hl
    | neg n => rw [Nat.succ_injective (toDigits_inj (congrArg Literal.whole hl))]
    | float l y broken => simp [← hl] at broken
  | float l x broken hx hshows =>
    cases hn with
    | nat n => simp at broken
    | neg n => simp at broken
    | float l y _ hy hshows' => rw [ofFloat_inj hx hy (hshows.eq hshows')]

/-- **Numbers by their text.** A finite number and what follows it can be told from the text that they make
up. -/
theorem Number.text_append_inj {m n : Number} {rest more : List Char} (hm : m.Finite) (hn : n.Finite)
    (hrest : Ends rest) (hmore : Ends more) (h : m.text.toList ++ rest = n.text.toList ++ more) :
    m = n ∧ rest = more := by
  obtain ⟨l, hl, hchars, hdenotes⟩ := exists_literal hm
  obtain ⟨k, hk, hchars', hdenotes'⟩ := exists_literal hn
  rw [← hchars, ← hchars'] at h
  obtain ⟨rfl, htail⟩ := Literal.chars_append_inj hl hk hrest hmore h
  exact ⟨hdenotes.eq hdenotes', htail⟩

end Guardrail.Json
