import Guardrail.Proofs.YamlScalars
import Guardrail.Proofs.JsonRead

/-!
Numbers in YAML texts.

The text of a number stands as a word, and the words of whole numbers are read back.
-/

namespace Guardrail.Yaml

open Scan Json Decimal
open Decode (Plain.digit? Plain.digits? Plain.natural? Plain.unplussed)

/-! ### Numbers are words -/

/-- The characters of a number behind the first. -/
def isNumeral (c : Char) : Bool := c.isDigit || c == '.' || c == 'e' || c == '-'

lemma isNumeral_of_isDigit {c : Char} (h : c.isDigit = true) : isNumeral c = true := by simp [isNumeral, h]

lemma isNumeral_ne {c : Char} (h : isNumeral c = true) : c ≠ ':' ∧ c ≠ '#' ∧ c ≠ ' ' ∧ standsAlone c = true := by
  have hcode : 0x20 < c.toNat ∧ c.toNat ≤ 0x7e := by
    simp only [isNumeral, Bool.or_eq_true, beq_iff_eq] at h
    rcases h with ((h | rfl) | rfl) | rfl
    · simp only [Char.isDigit, Bool.and_eq_true, decide_eq_true_eq, UInt32.le_iff_toNat_le] at h
      change 48 ≤ c.toNat ∧ c.toNat ≤ 57 at h
      omega
    all_goals decide
  refine ⟨?_, ?_, ?_, ?_⟩
  · rintro rfl
    cases h
  · rintro rfl
    cases h
  · rintro rfl
    cases h
  · have hline : endsLine c = false := by
      by_contra hends
      simp only [endsLine, Bool.not_eq_false, List.contains_eq_mem, decide_eq_true_eq, List.mem_cons, List.not_mem_nil,
        or_false] at hends
      rcases hends with rfl | rfl | rfl | rfl | rfl <;> revert hcode <;> decide
    simp [standsAlone, hline]
    omega

lemma continuesWord_numeral {cs : List Char} (h : ∀ c ∈ cs, isNumeral c = true) {before : Char}
    (hbefore : before ≠ ' ') : continuesWord before cs = true := by
  induction cs generalizing before with
  | nil => simpa [continuesWord] using hbefore
  | cons c cs ih =>
    obtain ⟨hc, hcs⟩ := List.forall_mem_cons.mp h
    obtain ⟨hcolon, hhash, hspace, -⟩ := isNumeral_ne hc
    simp [continuesWord, hcolon, hhash, ih hcs hspace]

/-- A digit and more characters of a number, behind a sign or none. -/
lemma word_numeral {c : Char} {cs : List Char} (hc : c.isDigit = true) (hcs : ∀ d ∈ cs, isNumeral d = true)
    (negative : Bool) : Word ((if negative then ['-'] else []) ++ c :: cs) := by
  have hmark : c ∉ leadingMarks := by
    intro hmem
    have hnone : ∀ d ∈ leadingMarks, d.isDigit = false := by simp [leadingMarks, Char.isDigit]
    rw [hnone c hmem] at hc
    cases hc
  have hother (d : Char) (hd : d.isDigit = false) : c ≠ d := by
    rintro rfl
    rw [hd] at hc
    cases hc
  have hdash := hother '-' rfl
  have hpoint := hother '.' rfl
  have hspace := hother ' ' rfl
  have hall : ∀ d ∈ c :: cs, isNumeral d = true := List.forall_mem_cons.mpr ⟨isNumeral_of_isDigit hc, hcs⟩
  have halone : (c :: cs).all standsAlone = true := List.all_eq_true.mpr fun d hd => (isNumeral_ne (hall d hd)).2.2.2
  cases negative
  · refine ⟨?_, ?_, halone⟩
    · simp only [Bool.false_eq_true, if_false, List.nil_append]
      unfold beginsWord
      split <;> simp_all
    · rintro _ _ ⟨⟩
      exact continuesWord_numeral hcs hspace
  · refine ⟨?_, ?_, ?_⟩
    · have hsign : '-' ∉ leadingMarks := by decide
      simp [beginsWord, hdash, hspace, hsign]
    · rintro _ _ ⟨⟩
      exact continuesWord_numeral hall (by decide)
    · rw [if_pos rfl, List.singleton_append, List.all_cons, halone]
      decide

/-- The first character of a number is a digit, the others are characters of a number. -/
def Numeral (cs : List Char) : Prop := ∃ c ds, cs = c :: ds ∧ c.isDigit = true ∧ ∀ d ∈ ds, isNumeral d = true

lemma numeral_append {cs ds : List Char} (hcs : cs ≠ []) (hdigits : ∀ c ∈ cs, c.isDigit = true)
    (hds : ∀ d ∈ ds, isNumeral d = true) : Numeral (cs ++ ds) := by
  cases cs with
  | nil => exact absurd rfl hcs
  | cons c cs =>
    obtain ⟨hc, hdigits⟩ := List.forall_mem_cons.mp hdigits
    refine ⟨c, cs ++ ds, rfl, hc, fun d hd => ?_⟩
    rcases List.mem_append.mp hd with hd | hd
    · exact isNumeral_of_isDigit (hdigits d hd)
    · exact hds d hd

lemma isNumeral_append {cs ds : List Char} (hcs : ∀ c ∈ cs, isNumeral c = true) (hds : ∀ d ∈ ds, isNumeral d = true) :
    ∀ d ∈ cs ++ ds, isNumeral d = true := List.forall_mem_append.mpr ⟨hcs, hds⟩

lemma isNumeral_point : ∀ d ∈ ".".toList, isNumeral d = true := by simp [isNumeral]

lemma numeral_positional (s : Scientific) : Numeral (positional true s).toList := by
  have hdigits := isDigit_toDigits (n := s.digits)
  have hne : Nat.toDigits 10 s.digits ≠ [] := Nat.toDigits_ne_nil
  simp only [positional]
  generalize Nat.toDigits 10 s.digits = ds at hdigits hne ⊢
  split
  · simp only [if_true, String.toList_append, String.toList_ofList]
    exact numeral_append (by simp [hne]) (isDigit_append hdigits isDigit_replicate) (by simp [isNumeral])
  · split
    · simp only [String.toList_append, String.toList_ofList, List.append_assoc]
      refine numeral_append ?_ (fun c hc => hdigits c (List.mem_of_mem_take hc)) ?_
      · simp only [ne_eq, List.take_eq_nil_iff, hne, or_false]
        omega
      · exact isNumeral_append isNumeral_point fun d hd => isNumeral_of_isDigit (hdigits d (List.mem_of_mem_drop hd))
    · simp only [String.toList_append, String.toList_ofList]
      refine ⟨'0', '.' :: _, rfl, rfl, List.forall_mem_cons.mpr ⟨rfl, fun d hd => isNumeral_of_isDigit ?_⟩⟩
      exact isDigit_append isDigit_replicate hdigits d hd

lemma numeral_scientific (s : Scientific) : Numeral (scientific "" s).toList := by
  have hdigits := isDigit_toDigits (n := s.digits)
  have hne : Nat.toDigits 10 s.digits ≠ [] := Nat.toDigits_ne_nil
  simp only [scientific]
  generalize Nat.toDigits 10 s.digits = ds at hdigits hne ⊢
  have hfraction : ∀ d ∈ (if ds.length ≤ 1 then "" else "." ++ String.ofList (ds.drop 1)).toList,
      isNumeral d = true := by
    split
    · simp
    · simp only [String.toList_append, String.toList_ofList]
      exact isNumeral_append isNumeral_point fun d hd => isNumeral_of_isDigit (hdigits d (List.mem_of_mem_drop hd))
  have hsign : ∀ d ∈ (if s.exponent + (ds.length - 1 : ℕ) < 0 then "-" else "").toList, isNumeral d = true := by
    split <;> simp [isNumeral]
  simp only [String.toList_append, String.toList_ofList, List.append_assoc]
  refine numeral_append (by simp [hne]) (fun c hc => hdigits c (List.mem_of_mem_take hc))
    (isNumeral_append hfraction (isNumeral_append (by simp [isNumeral]) (isNumeral_append hsign fun d hd => ?_)))
  rw [Nat.toString_eq_repr, Nat.toList_repr] at hd
  exact isNumeral_of_isDigit (isDigit_toDigits d hd)

lemma numeral_digits (s : Scientific) : Numeral (Style.yaml.digits s).toList := by
  have heither : Style.yaml.digits s = scientific "" s.normalize ∨ Style.yaml.digits s = positional true s.normalize :=
    ite_eq_or_eq _ _ _
  rcases heither with h | h
  · rw [h]
    exact numeral_scientific s.normalize
  · rw [h]
    exact numeral_positional s.normalize

lemma word_parts (p : Parts) : Word (Style.yaml.parts p).toList := by
  cases p with
  | nan => exact ⟨by decide, by rintro _ _ ⟨⟩; decide, by decide⟩
  | infinite negative =>
    cases negative <;> exact ⟨by decide, by rintro _ _ ⟨⟩; decide, by decide⟩
  | zero negative =>
    cases negative <;> exact ⟨by decide, by rintro _ _ ⟨⟩; decide, by decide⟩
  | finite negative v =>
    obtain ⟨c, cs, h, hc, hcs⟩ := numeral_digits v.shortest
    have hword := word_numeral hc hcs negative
    rw [Style.parts, String.toList_append, h]
    cases negative <;> exact hword

/-- The text of a number is a word. -/
lemma word_numberChars (n : Number) : Word (numberChars n) := by
  cases n with
  | nat n =>
    obtain ⟨c, cs, h⟩ := List.exists_cons_of_ne_nil (Nat.toDigits_ne_nil (b := 10) (n := n))
    have hdigits := isDigit_toDigits (n := n)
    rw [h, List.forall_mem_cons] at hdigits
    have hword := word_numeral hdigits.1 (fun d hd => isNumeral_of_isDigit (hdigits.2 d hd)) false
    simpa [numberChars, Number.text, ← h] using hword
  | neg n =>
    obtain ⟨c, cs, h⟩ := List.exists_cons_of_ne_nil (Nat.toDigits_ne_nil (b := 10) (n := n + 1))
    have hdigits := isDigit_toDigits (n := n + 1)
    rw [h, List.forall_mem_cons] at hdigits
    have hword := word_numeral hdigits.1 (fun d hd => isNumeral_of_isDigit (hdigits.2 d hd)) true
    simpa [numberChars, Number.text, ← h] using hword
  | float x => exact word_parts (.ofFloat x)

/-! ### Whole numbers are read back -/

lemma digit?_of_isDigit {c : Char} (h : c.isDigit = true) : Plain.digit? 10 c = some (c.toNat - 48) := by
  have hcode : c.toNat ≤ 57 := by
    simp only [Char.isDigit, Bool.and_eq_true, decide_eq_true_eq, UInt32.le_iff_toNat_le] at h
    exact h.2
  simp only [Plain.digit?, h, if_true]
  rw [if_pos (by omega)]

lemma digits?_of_isDigit {ds : List Char} (hne : ds ≠ []) (h : ∀ c ∈ ds, c.isDigit = true) :
    Plain.digits? 10 ds = some (digitsValue ds) := by
  have hfold (n : ℕ) :
      ds.foldlM (fun n c => (Plain.digit? 10 c).map (10 * n + ·)) n = some (Nat.ofDigitChars 10 ds n) := by
    clear hne
    induction ds generalizing n with
    | nil => rfl
    | cons c ds ih =>
      obtain ⟨hc, h⟩ := List.forall_mem_cons.mp h
      rw [List.foldlM_cons, digit?_of_isDigit hc]
      exact ih h _
  rw [Plain.digits?, if_neg (by simpa using hne), hfold, digitsValue_eq]

lemma natural?_toDigits (n : ℕ) : Plain.natural? (String.ofList (Nat.toDigits 10 n)) = some n := by
  have hdigits := isDigit_toDigits (n := n)
  have hread : Plain.digits? 10 (Nat.toDigits 10 n) = some n := by
    rw [digits?_of_isDigit Nat.toDigits_ne_nil hdigits, digitsValue_toDigits]
  have hplus : Plain.unplussed (Nat.toDigits 10 n) = Nat.toDigits 10 n := by
    unfold Plain.unplussed
    split
    · next h =>
      rw [h] at hdigits
      exact absurd (hdigits '+' List.mem_cons_self) (by decide)
    · rfl
  have hlead {d : Char} {more : List Char} : Nat.toDigits 10 n ≠ '0' :: d :: more := by
    intro h
    rcases Nat.eq_zero_or_pos n with rfl | hn
    · simp at h
    · exact head?_toDigits hn (by rw [h]; rfl)
  simp only [Plain.natural?, String.toList_ofList, hplus]
  split
  · next h => exact absurd h hlead
  · next h => exact absurd h hlead
  · next h => exact absurd h hlead
  · next h => exact absurd h hlead
  · exact hread

end Guardrail.Yaml
