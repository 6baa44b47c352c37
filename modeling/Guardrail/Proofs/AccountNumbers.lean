import Guardrail.Checksum.Iban
import Guardrail.Proofs.CheckDigits

/-!
What the check digits of an account number tell.

The remainder that is carried along is that of the decimal number that the characters so far make up. Ten and a hundred
have no factor in common with ninety-seven: two remainders that once differ stay different whatever follows, so that no
single change of a digit or a letter goes unnoticed.
-/

namespace Guardrail.Iban

/-! ### The number -/

/-- What is written for a character: a digit for itself, for a letter its number from ten on. -/
def written (c : Char) : List Char :=
  if c.isDigit then [c] else Nat.toDigits 10 (10 + (c.toNat - 'A'.toNat))

/-- With the first four characters at the end. -/
def turned (cs : List Char) : List Char := cs.drop 4 ++ cs.take 4

/-- The decimal number that characters stand for. -/
def number (cs : List Char) : ℕ := Nat.ofDigitChars 10 ((turned cs).flatMap written) 0

/-- A digit or a capital letter. -/
def Sign (c : Char) : Prop := c.isDigit = true ∨ c.isUpper = true

section Characters

variable {c : Char}

lemma toNat_of_isUpper (hc : c.isUpper = true) : 65 ≤ c.toNat ∧ c.toNat ≤ 90 := by
  simpa [Char.isUpper, UInt32.le_iff_toNat_le] using hc

lemma isDigit_of_isUpper (hc : c.isUpper = true) : c.isDigit = false := by
  rw [← Bool.not_eq_true]
  intro hdigit
  have := Luhn.toNat_of_isDigit hdigit
  have := toNat_of_isUpper hc
  omega

lemma value_of_isDigit (hc : c.isDigit = true) : value c = c.toNat - 48 ∧ value c < 10 := by
  have := Luhn.toNat_of_isDigit hc
  unfold value
  rw [if_pos hc]
  omega

lemma value_of_isUpper (hc : c.isUpper = true) : value c = 10 + (c.toNat - 65) ∧ 10 ≤ value c ∧ value c < 36 := by
  have := toNat_of_isUpper hc
  unfold value
  rw [if_neg (by simp [isDigit_of_isUpper hc])]
  omega

lemma Sign.value_lt (hc : Sign c) : value c < 36 := by
  rcases hc with hc | hc
  · have := (value_of_isDigit hc).2
    omega
  · exact (value_of_isUpper hc).2.2

/-- A character takes one place or two, and is worth its value there. -/
lemma Sign.ofDigitChars_written (hc : Sign c) (n : ℕ) :
    Nat.ofDigitChars 10 (written c) n = if 10 ≤ value c then n * 100 + value c else n * 10 + value c := by
  rcases hc with hc | hc
  · obtain ⟨hvalue, hless⟩ := value_of_isDigit hc
    rw [written, if_pos hc, if_neg (by omega), Nat.ofDigitChars_cons, Nat.ofDigitChars_nil, hvalue, Nat.mul_comm]
    rfl
  · obtain ⟨hvalue, hleast, hmost⟩ := value_of_isUpper hc
    have hlength : (Nat.toDigits 10 (value c)).length = 2 := by
      generalize value c = v at hleast hmost
      interval_cases v <;> rfl
    have hwritten : written c = Nat.toDigits 10 (value c) := by
      rw [written, if_neg (by simp [isDigit_of_isUpper hc]), hvalue]
      rfl
    rw [if_pos hleast, hwritten, Nat.ofDigitChars_eq_ofDigitChars_zero, hlength, Nat.ofDigitChars_ten_toDigits]
    ring

end Characters

/-! ### The remainder -/

section Remainder

variable {cs : List Char} {c d : Char} {r s : ℕ}

lemma step_lt (r : ℕ) (c : Char) : step r c < 97 := by
  unfold step
  split <;> exact Nat.mod_lt _ (by norm_num)

lemma foldl_step_lt (hr : r < 97) (cs : List Char) : cs.foldl step r < 97 := by
  induction cs generalizing r with
  | nil => exact hr
  | cons c cs ih => exact ih (step_lt r c)

/-- The remainder carried along is that of the number so far. -/
lemma foldl_step (h : ∀ c ∈ cs, Sign c) (n : ℕ) :
    cs.foldl step (n % 97) = Nat.ofDigitChars 10 (cs.flatMap written) n % 97 := by
  induction cs generalizing n with
  | nil => rfl
  | cons c cs ih =>
    obtain ⟨hc, hcs⟩ := List.forall_mem_cons.mp h
    have hstep : step (n % 97) c = Nat.ofDigitChars 10 (written c) n % 97 := by
      rw [hc.ofDigitChars_written]
      unfold step
      split <;> omega
    rw [List.foldl_cons, hstep, ih hcs, List.flatMap_cons, Nat.ofDigitChars_append]

/-- Different remainders stay different. -/
lemma step_inj (hr : r < 97) (hs : s < 97) (h : step r c = step s c) : r = s := by
  unfold step at h
  split at h <;> omega

lemma foldl_step_inj (hr : r < 97) (hs : s < 97) (h : cs.foldl step r = cs.foldl step s) : r = s := by
  induction cs generalizing r s with
  | nil => exact h
  | cons c cs ih => exact step_inj hr hs (ih (step_lt r c) (step_lt s c) h)

/-- Two characters that take as many places and lead to the same remainder are the same. -/
lemma eq_of_step (hkind : c.isDigit = true ∧ d.isDigit = true ∨ c.isUpper = true ∧ d.isUpper = true)
    (h : step r c = step r d) : c = d := by
  unfold step at h
  rcases hkind with ⟨hc, hd⟩ | ⟨hc, hd⟩
  · obtain ⟨hvalue, hless⟩ := value_of_isDigit hc
    obtain ⟨hvalue', hless'⟩ := value_of_isDigit hd
    rw [if_neg (by omega), if_neg (by omega)] at h
    have hsame : value c = value d := by omega
    exact Luhn.digit_inj hc hd (hvalue.symm.trans (hsame.trans hvalue'))
  · obtain ⟨hvalue, hleast, hmost⟩ := value_of_isUpper hc
    obtain ⟨hvalue', hleast', hmost'⟩ := value_of_isUpper hd
    have := toNat_of_isUpper hc
    have := toNat_of_isUpper hd
    rw [if_pos hleast, if_pos hleast'] at h
    exact Char.toNat_inj.mp (by omega)

end Remainder

/-! ### Texts -/

section Texts

variable {cs a b : List Char} {c x y : Char}

lemma sign_of_mem_compact (hc : c ∈ compact cs) (h : c.isAlphanum = true) : Sign c := by
  obtain ⟨d, -, rfl⟩ := List.mem_map.mp hc
  simp only [Char.isAlphanum, Char.isAlpha, Char.isLower_toUpper_eq_false, Bool.or_false, Bool.or_eq_true] at h
  exact h.symm

lemma valid_iff : valid cs = true ↔ 15 ≤ (compact cs).length ∧ (compact cs).length ≤ 34 ∧
    (∀ c ∈ compact cs, c.isAlphanum = true) ∧ (turned (compact cs)).foldl step 0 = 1 := by
  simp [valid, turned, and_assoc]

lemma mem_turned : c ∈ turned cs ↔ c ∈ cs := by
  rw [turned, List.mem_append, or_comm, ← List.mem_append, List.take_append_drop]

lemma valid_iff_number : valid cs = true ↔ 15 ≤ (compact cs).length ∧ (compact cs).length ≤ 34 ∧
    (∀ c ∈ compact cs, c.isAlphanum = true) ∧ number (compact cs) ≡ 1 [MOD 97] := by
  rw [valid_iff]
  refine and_congr_right' (and_congr_right' (and_congr_right fun hall => ?_))
  have hsigns : ∀ c ∈ turned (compact cs), Sign c := fun c hc =>
    sign_of_mem_compact (mem_turned.mp hc) (hall c (mem_turned.mp hc))
  rw [show (turned (compact cs)).foldl step 0 = number (compact cs) % 97 from foldl_step hsigns 0]
  rfl

/-- A place among the first four or behind them is one place of the turned text. -/
lemma exists_turned (a b : List Char) : ∃ u v, ∀ x, turned (a ++ x :: b) = u ++ x :: v := by
  by_cases h : a.length < 4
  · refine ⟨b.drop (3 - a.length) ++ a, b.take (3 - a.length), fun x => ?_⟩
    obtain ⟨k, hk⟩ : ∃ k, 4 - a.length = k + 1 := ⟨3 - a.length, by omega⟩
    have hless : 3 - a.length = k := by omega
    rw [turned, List.drop_append, List.take_append, List.drop_eq_nil_of_le h.le, List.take_of_length_le h.le, hk, hless]
    simp
  · refine ⟨a.drop 4, b ++ a.take 4, fun x => ?_⟩
    rw [turned, List.drop_append_of_le_length (Nat.not_lt.mp h), List.take_append_of_le_length (Nat.not_lt.mp h)]
    simp

/-- What is written in the place of a digit or a letter by mistake: another character, and no white space; for a digit
no letter, and for a letter no digit. -/
inductive Mistakes (x y : Char) : Prop where
  | digit (hx : x.isDigit = true) (hy : y.isAlpha = false) (hspace : Unicode.isSpace y = false) (hne : y ≠ x)
  | letter (hx : x.isAlpha = true) (hy : y.isDigit = false) (hspace : Unicode.isSpace y = false)
    (hne : y.toUpper ≠ x.toUpper)

lemma compact_splice (hx : Unicode.isSpace x = false) (a b : List Char) :
    compact (a ++ x :: b) = compact a ++ x.toUpper :: compact b := by
  simp [compact, hx]

lemma isSpace_of_isAlphanum (hx : x.isAlphanum = true) : Unicode.isSpace x = false := by
  have hrange : 48 ≤ x.toNat ∧ x.toNat ≤ 122 := by
    simp only [Char.isAlphanum, Char.isAlpha, Char.isUpper, Char.isLower, Char.isDigit, Bool.or_eq_true,
      Bool.and_eq_true, decide_eq_true_eq, UInt32.le_iff_toNat_le] at hx
    change ((65 ≤ x.toNat ∧ x.toNat ≤ 90) ∨ (97 ≤ x.toNat ∧ x.toNat ≤ 122)) ∨ (48 ≤ x.toNat ∧ x.toNat ≤ 57) at hx
    omega
  simp [Unicode.isSpace]
  omega

lemma toUpper_of_isDigit (hx : x.isDigit = true) : x.toUpper = x := by
  refine Char.toUpper_eq_of_not_isLower ?_
  have := Luhn.toNat_of_isDigit hx
  simp only [Char.isLower, Bool.and_eq_true, decide_eq_true_eq, UInt32.le_iff_toNat_le]
  change ¬ (97 ≤ x.toNat ∧ x.toNat ≤ 122)
  omega

namespace Mistakes

lemma isSpace_left (h : Mistakes x y) : Unicode.isSpace x = false := by
  cases h with
  | digit hx => exact isSpace_of_isAlphanum (by simp [Char.isAlphanum, hx])
  | letter hx => exact isSpace_of_isAlphanum (by simp [Char.isAlphanum, hx])

lemma isSpace_right (h : Mistakes x y) : Unicode.isSpace y = false := by
  cases h <;> assumption

/-- If a number is made up with it, a digit stands for a digit and a letter for a letter. -/
lemma kind (h : Mistakes x y) (hy : Sign y.toUpper) : y.toUpper ≠ x.toUpper ∧
    (x.toUpper.isDigit = true ∧ y.toUpper.isDigit = true ∨ x.toUpper.isUpper = true ∧ y.toUpper.isUpper = true) := by
  have hupper : y.toUpper.isUpper = y.isAlpha := Char.isUpper_toUpper_eq_isAlpha y
  cases h with
  | digit hdigit hletter _ hne =>
    have hx : x.toUpper = x := toUpper_of_isDigit hdigit
    have hsame : y.toUpper = y := Char.toUpper_eq_of_not_isLower (by simp_all [Char.isAlpha])
    rw [hletter] at hupper
    rw [hsame] at hy hupper ⊢
    rw [hx]
    exact ⟨hne, .inl ⟨hdigit, hy.resolve_right (by simp [hupper])⟩⟩
  | letter hletter hdigit _ hne =>
    refine ⟨hne, .inr ⟨(Char.isUpper_toUpper_eq_isAlpha x).trans hletter, hy.resolve_left fun hyupper => ?_⟩⟩
    -- a digit is no letter's capital
    have halpha : y.isAlpha = false := by
      rw [← hupper, ← Bool.not_eq_true]
      exact fun h => by simp [isDigit_of_isUpper h] at hyupper
    rw [Char.toUpper_eq_of_not_isLower (by simp_all [Char.isAlpha]), hdigit] at hyupper
    cases hyupper

end Mistakes

/-- No mistake in one place gives a number that passes. -/
lemma valid_mistaken (h : Mistakes x y) (hvalid : valid (a ++ x :: b) = true) : valid (a ++ y :: b) = false := by
  rw [← Bool.not_eq_true]
  intro hmistaken
  have hsign : Sign y.toUpper := by
    have hmem : y.toUpper ∈ compact (a ++ y :: b) := by simp [compact_splice h.isSpace_right]
    exact sign_of_mem_compact hmem ((valid_iff.mp hmistaken).2.2.1 _ hmem)
  obtain ⟨hne, hkind⟩ := h.kind hsign
  obtain ⟨u, v, hturned⟩ := exists_turned (compact a) (compact b)
  have hone : (u ++ x.toUpper :: v).foldl step 0 = (u ++ y.toUpper :: v).foldl step 0 := by
    rw [← hturned, ← hturned, ← compact_splice h.isSpace_left, ← compact_splice h.isSpace_right,
      (valid_iff.mp hvalid).2.2.2, (valid_iff.mp hmistaken).2.2.2]
  rw [List.foldl_append, List.foldl_append, List.foldl_cons, List.foldl_cons] at hone
  exact hne (eq_of_step hkind (foldl_step_inj (step_lt _ _) (step_lt _ _) hone)).symm

end Texts

/-- **The check digits of account numbers.** A text is an account number if it has fifteen to thirty-four digits and
letters, white space apart, and the decimal number that they stand for, with the first four at the end, leaves one when
divided by ninety-seven. All numbers that come up on the way fit into thirty-two bits. No account number is left over
when one digit or letter is mistaken for another. -/
theorem valid_iff_and_detects (cs : List Char) :
    (valid cs = true ↔ 15 ≤ (compact cs).length ∧ (compact cs).length ≤ 34 ∧
      (∀ c ∈ compact cs, c.isAlphanum = true) ∧ number (compact cs) ≡ 1 [MOD 97]) ∧
    ((∀ c ∈ compact cs, c.isAlphanum = true) → ∀ p c q, turned (compact cs) = p ++ c :: q →
      p.foldl step 0 * 100 + value c < 2 ^ 32) ∧
    (valid cs = true → ∀ a x b y, cs = a ++ x :: b → Mistakes x y → valid (a ++ y :: b) = false) := by
  refine ⟨valid_iff_number, fun hall p c q hturned => ?_, ?_⟩
  · have hmem : c ∈ compact cs := mem_turned.mp (hturned ▸ by simp)
    have hvalue := (sign_of_mem_compact hmem (hall c hmem)).value_lt
    have hremainder := foldl_step_lt (r := 0) (by norm_num) p
    omega
  · rintro hvalid a x b y rfl h
    exact valid_mistaken h hvalid

/-- A number in groups of four, with its last digit and the letter behind its first blank mistaken. -/
theorem valid_iff_and_detects_grouped :
    let account := "GB82 WEST 1234 5698 7654 32".toList
    valid account = true ∧ (compact account).length = 22 ∧ number (compact account) ≡ 1 [MOD 97] ∧
      valid "GB82 WEST 1234 5698 7654 33".toList = false ∧ valid "GB82 vEST 1234 5698 7654 32".toList = false := by
  intro account
  have hvalid : valid account = true := by decide +kernel
  obtain ⟨hiff, -, hdetects⟩ := valid_iff_and_detects account
  refine ⟨hvalid, by decide +kernel, (hiff.mp hvalid).2.2.2, ?_, ?_⟩
  · exact hdetects hvalid "GB82 WEST 1234 5698 7654 3".toList '2' [] '3' (by decide +kernel)
      (.digit rfl rfl rfl (by decide))
  · exact hdetects hvalid "GB82 ".toList 'W' "EST 1234 5698 7654 32".toList 'v' (by decide +kernel)
      (.letter rfl rfl rfl (by decide))

end Guardrail.Iban
