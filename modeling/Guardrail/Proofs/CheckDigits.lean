import Guardrail.Checksum.Luhn
import Mathlib

/-!
What the check digit of a card number tells.

Doubling and adding the digits of the result permutes the ten digits. So the total takes every remainder modulo ten
once as one of its digits runs through all values, whichever place the digit has. Two digits side by side count in
different ways, and only for a zero and a nine it is the same which of them comes first. All of this is about the exact
total, `sum`; what passes is decided by its last 32 bits.
-/

namespace Guardrail.Luhn

/-! ### Single digits -/

lemma share_le {d : ℕ} (hd : d < 10) (double : Bool) : share double d ≤ 9 := by
  cases double <;> interval_cases d <;> decide

lemma share_eq_sum {d : ℕ} (hd : d < 10) (double : Bool) :
    share double d = (Nat.digits 10 ((if double then 2 else 1) * d)).sum := by
  cases double <;> interval_cases d <;> simp [share, doubled]

/-- Different digits add different remainders. -/
lemma share_inj {d e : ℕ} (hd : d < 10) (he : e < 10) {double : Bool}
    (h : share double d % 10 = share double e % 10) : d = e := by
  cases double <;> interval_cases d <;> interval_cases e <;> first | rfl | exact absurd h (by decide)

/-- Every remainder is added by some digit. -/
lemma exists_share (double : Bool) (r : ℕ) : ∃ d < 10, (share double d + r) % 10 = 0 := by
  have hall : ∀ double : Bool, ∀ k < 10, ∃ d < 10, (share double d + k) % 10 = 0 := by decide
  obtain ⟨d, hd, h⟩ := hall double (r % 10) (Nat.mod_lt r (by norm_num))
  exact ⟨d, hd, by omega⟩

/-- Two digits in turn, one of them doubled. -/
lemma share_swap {d e : ℕ} (hd : d < 10) (he : e < 10) (double : Bool) :
    (share double d + share (!double) e) % 10 = (share double e + share (!double) d) % 10 ↔
      d = e ∨ d = 0 ∧ e = 9 ∨ d = 9 ∧ e = 0 := by
  have hall : ∀ double : Bool, ∀ d < 10, ∀ e < 10,
      ((share double d + share (!double) e) % 10 = (share double e + share (!double) d) % 10 ↔
        d = e ∨ d = 0 ∧ e = 9 ∨ d = 9 ∧ e = 0) := by decide
  exact hall double d hd e he

section Digits

variable {c d : Char}

lemma toNat_of_isDigit (hc : c.isDigit = true) : 48 ≤ c.toNat ∧ c.toNat ≤ 57 := by
  simpa [Char.isDigit, UInt32.le_iff_toNat_le] using hc

lemma digit_lt (hc : c.isDigit = true) : digit c < 10 := by
  have := toNat_of_isDigit hc
  unfold digit
  omega

lemma digit_inj (hc : c.isDigit = true) (hd : d.isDigit = true) (h : digit c = digit d) : c = d := by
  have hc := toNat_of_isDigit hc
  have hd := toNat_of_isDigit hd
  unfold digit at h
  exact Char.toNat_inj.mp (by omega)

lemma exists_digit {n : ℕ} (hn : n < 10) : ∃ c : Char, c.isDigit = true ∧ digit c = n := by
  have hall : ∀ n < 10, (Char.ofNat (n + 48)).isDigit = true ∧ digit (Char.ofNat (n + 48)) = n := by decide
  exact ⟨_, hall n hn⟩

end Digits

/-! ### The total -/

/-- The total, however large it is. -/
def weight (double : Bool) : List ℕ → ℕ
  | [] => 0
  | d :: ds => share double d + weight (!double) ds

@[simp] lemma weight_nil (double : Bool) : weight double [] = 0 := rfl

lemma weight_cons (double : Bool) (d : ℕ) (ds : List ℕ) :
    weight double (d :: ds) = share double d + weight (!double) ds := rfl

/-- The second part begins as the length of the first one says. -/
lemma weight_append (double : Bool) (ds es : List ℕ) :
    weight double (ds ++ es) = weight double ds + weight (double ^^ ds.length.bodd) es := by
  induction ds generalizing double with
  | nil => simp
  | cons d ds ih =>
    rw [List.cons_append, weight_cons, weight_cons, ih, List.length_cons, Nat.bodd_succ, Bool.not_xor, Bool.xor_not,
      Nat.add_assoc]

lemma weight_le (double : Bool) {ds : List ℕ} (h : ∀ d ∈ ds, d < 10) : weight double ds ≤ 9 * ds.length := by
  induction ds generalizing double with
  | nil => simp
  | cons d ds ih =>
    obtain ⟨hd, hds⟩ := List.forall_mem_cons.mp h
    have hshare := share_le hd double
    have hweight := ih (!double) hds
    rw [weight_cons, List.length_cons]
    omega

/-- A nine counts as a nine at every place. -/
lemma weight_replicate_nine (double : Bool) (n : ℕ) : weight double (List.replicate n 9) = 9 * n := by
  induction n generalizing double with
  | zero => rfl
  | succ n ih =>
    have hnine : share double 9 = 9 := by cases double <;> rfl
    rw [List.replicate_succ, weight_cons, ih, hnine]
    omega

/-- The places are counted from the right: at every other one the digits of the double are added up. -/
lemma weight_eq_sum (double : Bool) {ds : List ℕ} (h : ∀ d ∈ ds, d < 10) : weight double ds =
    ∑ i ∈ Finset.range ds.length, (Nat.digits 10 ((if double ^^ i.bodd then 2 else 1) * ds.getD i 0)).sum := by
  induction ds generalizing double with
  | nil => rfl
  | cons d ds ih =>
    obtain ⟨hd, hds⟩ := List.forall_mem_cons.mp h
    rw [weight_cons, share_eq_sum hd, ih (!double) hds, List.length_cons, Finset.sum_range_succ', Nat.add_comm]
    simp

/-- The total wraps around. -/
lemma total_eq_ofNat (double : Bool) (ds : List ℕ) : total double ds = .ofNat (weight double ds) := by
  induction ds generalizing double with
  | nil => rfl
  | cons d ds ih => rw [total, ih, weight_cons, UInt32.ofNat_add]

lemma toNat_total (double : Bool) (ds : List ℕ) : (total double ds).toNat = weight double ds % 2 ^ 32 := by
  rw [total_eq_ofNat, UInt32.toNat_ofNat']

lemma total_append (double : Bool) (ds es : List ℕ) :
    total double (ds ++ es) = total double ds + total (double ^^ ds.length.bodd) es := by
  simp only [total_eq_ofNat, weight_append, UInt32.ofNat_add]

/-- The total of a text. -/
def sum (cs : List Char) : ℕ := weight false (cs.reverse.map digit)

lemma valid_iff_wrapped {cs : List Char} :
    valid cs = true ↔ cs ≠ [] ∧ (∀ c ∈ cs, c.isDigit = true) ∧ sum cs % 2 ^ 32 % 10 = 0 := by
  have hrest (t : UInt32) : t % 10 = 0 ↔ t.toNat % 10 = 0 := by
    rw [← UInt32.toNat_inj, UInt32.toNat_mod]
    rfl
  simp [valid, sum, and_assoc, hrest, toNat_total]

section Digits

variable {s : List Char}

lemma digits_lt (hs : ∀ c ∈ s, c.isDigit = true) : ∀ d ∈ s.reverse.map digit, d < 10 := by
  simpa using fun c hc => digit_lt (hs c hc)

lemma sum_le (hs : ∀ c ∈ s, c.isDigit = true) : sum s ≤ 9 * s.length := by
  simpa [sum] using weight_le false (digits_lt hs)

/-- As long as the total fits, nothing wraps around. -/
lemma valid_iff (hfits : 9 * s.length < 2 ^ 32) :
    valid s = true ↔ s ≠ [] ∧ (∀ c ∈ s, c.isDigit = true) ∧ sum s % 10 = 0 := by
  rw [valid_iff_wrapped]
  refine and_congr_right' (and_congr_right fun hs => ?_)
  rw [Nat.mod_eq_of_lt (lt_of_le_of_lt (sum_le hs) hfits)]

end Digits

/-- A part of a text adds to the total by itself; how many characters follow it says how its last one counts. -/
lemma sum_splice (a u b : List Char) : sum (a ++ u ++ b) = sum b + weight b.length.bodd (u.reverse.map digit) +
    weight (b.length.bodd ^^ u.length.bodd) (a.reverse.map digit) := by
  simp [sum, weight_append, Nat.add_assoc]

lemma sum_concat (s : List Char) (c : Char) : sum (s ++ [c]) = digit c + weight true (s.reverse.map digit) := by
  rw [sum, List.reverse_concat, List.map_cons, weight_cons]
  rfl

/-- Where one part of a valid text gives way to another of the same length, only these two decide. -/
lemma valid_splice {a u v b : List Char} (hfits : 9 * (a ++ u ++ b).length < 2 ^ 32) (hlength : v.length = u.length)
    (hdigits : ∀ c ∈ v, c.isDigit = true) (h : valid (a ++ u ++ b) = true) :
    valid (a ++ v ++ b) = true ↔
      weight b.length.bodd (v.reverse.map digit) % 10 = weight b.length.bodd (u.reverse.map digit) % 10 := by
  obtain ⟨hne, hall, hsum⟩ := (valid_iff hfits).mp h
  have hsame : (a ++ v ++ b).length = (a ++ u ++ b).length := by simp [hlength]
  have hne' : a ++ v ++ b ≠ [] := by
    rw [← List.length_pos_iff] at hne ⊢
    rwa [hsame]
  have hall' : ∀ c ∈ a ++ v ++ b, c.isDigit = true := by
    simp only [List.mem_append] at hall ⊢
    rintro c ((hc | hc) | hc)
    · exact hall c (.inl (.inl hc))
    · exact hdigits c hc
    · exact hall c (.inr hc)
  rw [sum_splice] at hsum
  rw [valid_iff (hsame ▸ hfits), and_iff_right hne', and_iff_right hall', sum_splice, hlength]
  omega

section Changes

variable {s a b : List Char} {x y : Char}

lemma existsUnique_check_digit (hfits : 9 * (s.length + 1) < 2 ^ 32) (hs : ∀ c ∈ s, c.isDigit = true) :
    ∃! c : Char, c.isDigit = true ∧ valid (s ++ [c]) = true := by
  have happend (c : Char) (hc : c.isDigit = true) : valid (s ++ [c]) = true ↔
      (share false (digit c) + weight true (s.reverse.map digit)) % 10 = 0 := by
    have hall : ∀ d ∈ s ++ [c], d.isDigit = true := List.forall_mem_append.mpr ⟨hs, by simpa using hc⟩
    rw [valid_iff (by simpa using hfits), and_iff_right (by simp), and_iff_right hall, sum_concat]
    rfl
  obtain ⟨d, hd, hsum⟩ := exists_share false (weight true (s.reverse.map digit))
  obtain ⟨c, hc, rfl⟩ := exists_digit hd
  refine ⟨c, ⟨hc, (happend c hc).mpr hsum⟩, fun c' ⟨hc', hvalid⟩ => ?_⟩
  have hsum' := (happend c' hc').mp hvalid
  have hsame : share false (digit c') % 10 = share false (digit c) % 10 := by omega
  exact digit_inj hc' hc (share_inj (digit_lt hc') (digit_lt hc) hsame)

lemma isDigit_of_valid (h : valid s = true) : ∀ c ∈ s, c.isDigit = true := (valid_iff_wrapped.mp h).2.1

lemma valid_changed (hfits : 9 * (a ++ x :: b).length < 2 ^ 32) (h : valid (a ++ x :: b) = true)
    (hy : y.isDigit = true) (hne : y ≠ x) : valid (a ++ y :: b) = false := by
  have hx : x.isDigit = true := isDigit_of_valid h x (by simp)
  rw [← Bool.not_eq_true, List.append_cons]
  intro hchanged
  have hsame := (valid_splice (u := [x]) (v := [y]) (by simpa using hfits) rfl (by simpa using hy)
    (by simpa using h)).mp hchanged
  simp only [List.reverse_singleton, List.map_singleton, weight_cons, weight_nil, Nat.add_zero] at hsame
  exact hne (digit_inj hy hx (share_inj (digit_lt hy) (digit_lt hx) hsame))

lemma valid_swapped (hfits : 9 * (a ++ x :: y :: b).length < 2 ^ 32) (h : valid (a ++ x :: y :: b) = true)
    (hne : x ≠ y) : valid (a ++ y :: x :: b) = true ↔ x = '0' ∧ y = '9' ∨ x = '9' ∧ y = '0' := by
  have hx : x.isDigit = true := isDigit_of_valid h x (by simp)
  have hy : y.isDigit = true := isDigit_of_valid h y (by simp)
  have hdigit {c d : Char} (hc : c.isDigit = true) (hd : d.isDigit = true) : digit c = digit d ↔ c = d :=
    ⟨digit_inj hc hd, congrArg digit⟩
  have hsplice := valid_splice (a := a) (u := [x, y]) (v := [y, x]) (b := b) (by simpa using hfits) rfl
    (by simp [hx, hy]) (by simpa using h)
  have hswap := share_swap (digit_lt hx) (digit_lt hy) b.length.bodd
  calc valid (a ++ y :: x :: b) = true
      ↔ (share b.length.bodd (digit x) + share (!b.length.bodd) (digit y)) % 10 =
          (share b.length.bodd (digit y) + share (!b.length.bodd) (digit x)) % 10 := by
        simpa [weight_cons] using hsplice
    _ ↔ digit x = digit y ∨ digit x = digit '0' ∧ digit y = digit '9' ∨ digit x = digit '9' ∧ digit y = digit '0' :=
        hswap
    _ ↔ x = '0' ∧ y = '9' ∨ x = '9' ∧ y = '0' := by
        simp only [hdigit hx hy, hdigit hx (d := '0') rfl, hdigit hx (d := '9') rfl, hdigit hy (d := '0') rfl,
          hdigit hy (d := '9') rfl, hne, false_or]

lemma valid_iff_dvd (hfits : 9 * s.length < 2 ^ 32) :
    valid s = true ↔ s ≠ [] ∧ (∀ c ∈ s, c.isDigit = true) ∧ 10 ∣ ∑ i ∈ Finset.range s.length,
      (Nat.digits 10 ((if i.bodd then 2 else 1) * (s.reverse.map digit).getD i 0)).sum := by
  rw [valid_iff hfits, Nat.dvd_iff_mod_eq_zero]
  refine and_congr_right' (and_congr_right fun hs => ?_)
  rw [sum, weight_eq_sum false (digits_lt hs)]
  simp

end Changes

/-! ### Texts as bytes, in parts -/

/-- Whether a byte is a digit. -/
def IsDigit (b : UInt8) : Prop := 48 ≤ b ∧ b ≤ 57

/-- The first bytes of a text are weighed from the last of them on. -/
lemma totalBytes_eq_some {bytes : ByteArray} {n : ℕ} (hn : n ≤ bytes.size) (double : Bool) (sum t : UInt32) :
    totalBytes bytes n double sum = some t ↔ (∀ b ∈ bytes.data.toList.take n, IsDigit b) ∧
      sum + total double ((bytes.data.toList.take n).reverse.map fun b => b.toNat - 48) = t := by
  -- the last of the bytes comes first, and the sum grows on the way
  induction n generalizing double sum with
  | zero => simp [totalBytes, total]
  | succ n ih =>
    have hlt : n < bytes.data.toList.length := by simpa using hn
    have hget : bytes.get! n = bytes.data.toList[n] := by
      simp [ByteArray.get!, getElem!_pos bytes.data n (by simpa using hn)]
    rw [List.take_succ_eq_append_getElem hlt, List.forall_mem_append, List.forall_mem_singleton, List.reverse_concat,
      List.map_cons, total, ← UInt32.add_assoc, totalBytes, hget]
    by_cases hlast : IsDigit bytes.data.toList[n]
    · rw [if_pos (by simpa [IsDigit] using hlast), ih (by omega), and_iff_left hlast]
    · rw [if_neg (by simpa [IsDigit] using hlast)]
      exact iff_of_false (by simp) fun h => hlast h.1.2

section Bytes

variable {c : Char}

lemma utf8EncodeChar_of_ascii (h : c.toNat ≤ 127) : String.utf8EncodeChar c = [.ofNat c.toNat] := by
  simp [String.utf8EncodeChar, h]

lemma isDigit_ofNat_iff (h : c.toNat ≤ 127) : IsDigit (.ofNat c.toNat) ↔ c.isDigit = true := by
  have hbyte : c.toNat % 256 = c.toNat := Nat.mod_eq_of_lt (by omega)
  simp [IsDigit, Char.isDigit, UInt32.le_iff_toNat_le, UInt8.le_iff_toNat_le, hbyte]

lemma le_127_of_isDigit (hc : c.isDigit = true) : c.toNat ≤ 127 := (toNat_of_isDigit hc).2.trans (by decide)

/-- All bytes of a character that is not of ASCII are larger than those of digits. -/
lemma isDigit_iff_of_mem {b : UInt8} (hb : b ∈ String.utf8EncodeChar c) : IsDigit b ↔ c.isDigit = true := by
  by_cases hascii : c.toNat ≤ 127
  · obtain rfl : b = .ofNat c.toNat := by simpa [utf8EncodeChar_of_ascii hascii] using hb
    exact isDigit_ofNat_iff hascii
  -- every byte of two or more begins with a one
  · have hlarge : 128 ≤ b.toNat := by
      simp only [String.utf8EncodeChar, Char.toNat] at hb hascii
      rw [if_neg hascii] at hb
      split_ifs at hb
      all_goals
        simp only [List.mem_cons, List.not_mem_nil, or_false] at hb
        rcases hb with rfl | rfl | rfl | rfl <;> simp <;> omega
    refine iff_of_false (fun hb => ?_) fun hc => hascii (le_127_of_isDigit hc)
    have hsmall : b.toNat ≤ 57 := UInt8.le_iff_toNat_le.mp hb.2
    omega

lemma exists_mem_utf8EncodeChar (c : Char) : ∃ b, b ∈ String.utf8EncodeChar c := by
  refine List.exists_mem_of_ne_nil _ ?_
  simp only [String.utf8EncodeChar]
  split_ifs <;> simp

lemma forall_isDigit_iff (cs : List Char) :
    (∀ b ∈ cs.flatMap String.utf8EncodeChar, IsDigit b) ↔ ∀ c ∈ cs, c.isDigit = true := by
  simp only [List.forall_mem_flatMap]
  refine forall₂_congr fun c _ => ⟨fun h => ?_, fun hc b hb => (isDigit_iff_of_mem hb).mpr hc⟩
  obtain ⟨b, hb⟩ := exists_mem_utf8EncodeChar c
  exact (isDigit_iff_of_mem hb).mp (h b hb)

lemma flatMap_utf8EncodeChar {cs : List Char} (h : ∀ c ∈ cs, c.isDigit = true) :
    (cs.flatMap String.utf8EncodeChar).map (fun b => b.toNat - 48) = cs.map digit := by
  induction cs with
  | nil => rfl
  | cons c cs ih =>
    obtain ⟨hc, hcs⟩ := List.forall_mem_cons.mp h
    have hbyte : c.toNat % 256 = c.toNat := Nat.mod_eq_of_lt (by have := le_127_of_isDigit hc; omega)
    rw [List.flatMap_cons, List.map_append, ih hcs, utf8EncodeChar_of_ascii (le_127_of_isDigit hc)]
    simp [digit, hbyte]

lemma toUTF8_toList (s : String) : s.toUTF8.data.toList = s.toList.flatMap String.utf8EncodeChar := by
  have hencode : s.toByteArray = s.toList.utf8Encode := by simp [← String.toByteArray_ofList]
  rw [String.toUTF8_eq_toByteArray, hencode, List.utf8Encode, List.data_toByteArray, List.toList_toArray]

lemma totalBytes_toUTF8_eq_some (s : String) (double : Bool) (sum t : UInt32) :
    totalBytes s.toUTF8 s.toUTF8.size double sum = some t ↔
      (∀ c ∈ s.toList, c.isDigit = true) ∧ sum + total double (s.toList.reverse.map digit) = t := by
  rw [totalBytes_eq_some le_rfl, ← ByteArray.size_data, ← Array.length_toList, List.take_length, toUTF8_toList,
    forall_isDigit_iff]
  refine and_congr_right fun hs => ?_
  rw [List.map_reverse, flatMap_utf8EncodeChar hs, List.map_reverse]

/-- A text of digits has as many bytes as characters. -/
lemma size_toUTF8 {s : String} (h : ∀ c ∈ s.toList, c.isDigit = true) : s.toUTF8.size = s.toList.length := by
  have hlength := congrArg List.length (flatMap_utf8EncodeChar h)
  rwa [List.length_map, List.length_map, ← toUTF8_toList, Array.length_toList, ByteArray.size_data] at hlength

lemma bodd_eq_mod_two (n : ℕ) : (n % 2 == 1) = n.bodd := by
  rw [Nat.mod_two_of_bodd]
  cases n.bodd <;> rfl

/-- The parts are weighed one after the other, those further left where those further right end. -/
lemma totalParts_eq_some (parts : List String) (double : Bool) (sum t : UInt32) :
    totalParts parts.reverse double sum = some t ↔ (∀ c ∈ parts.flatMap String.toList, c.isDigit = true) ∧
      sum + total double ((parts.flatMap String.toList).reverse.map digit) = t := by
  induction parts using List.reverseRecOn generalizing double sum with
  | nil => simp [totalParts, total]
  | append_singleton parts s ih =>
    rw [List.reverse_concat, totalParts, List.flatMap_append, List.flatMap_singleton, List.forall_mem_append,
      List.reverse_append, List.map_append, total_append, ← UInt32.add_assoc]
    simp only [Option.bind_eq_some_iff, totalBytes_toUTF8_eq_some, ih, List.length_map, List.length_reverse]
    constructor
    · rintro ⟨-, ⟨hs, rfl⟩, hparts, rfl⟩
      exact ⟨⟨hparts, hs⟩, by rw [size_toUTF8 hs, bodd_eq_mod_two]⟩
    · rintro ⟨⟨hparts, hs⟩, rfl⟩
      exact ⟨_, ⟨hs, rfl⟩, hparts, by rw [size_toUTF8 hs, bodd_eq_mod_two]⟩

lemma validParts_eq (parts : List String) : validParts parts = valid (String.join parts).toList := by
  have hjoin : (String.join parts).toList = parts.flatMap String.toList := by simp [String.toList_join]
  have hempty : (∃ s ∈ parts, ¬ s.isEmpty = true) ↔ parts.flatMap String.toList ≠ [] := by simp
  rw [Bool.eq_iff_iff, hjoin]
  simp only [validParts, valid, Bool.and_eq_true, List.any_eq_true, Bool.not_eq_true', Option.any_eq_true,
    totalParts_eq_some, UInt32.zero_add, List.isEmpty_eq_false_iff, List.all_eq_true, beq_iff_eq, and_assoc]
  simp only [← Bool.not_eq_true, hempty]
  constructor
  · rintro ⟨hne, _, hdigits, rfl, hrest⟩
    exact ⟨hne, hdigits, hrest⟩
  · rintro ⟨hne, hdigits, hrest⟩
    exact ⟨hne, _, hdigits, rfl, hrest⟩

end Bytes

/-! ### Main statement -/

section Nines

variable {n : ℕ} {c : Char}

/-- The eight before the last digit counts as a seven. -/
lemma sum_nines : sum (List.replicate n '9' ++ ['8'] ++ [c]) = digit c + (9 * n + 7) := by
  have hnine : digit '9' = 9 := rfl
  have height : share true (digit '8') = 7 := rfl
  rw [sum_concat, List.reverse_concat, List.map_cons, weight_cons, List.reverse_replicate, List.map_replicate, hnine,
    weight_replicate_nine, height, Nat.add_comm 7]

lemma valid_nines (hc : c.isDigit = true) (hsum : (digit c + (9 * n + 7)) % 2 ^ 32 % 10 = 0) :
    valid (List.replicate n '9' ++ ['8'] ++ [c]) = true := by
  refine valid_iff_wrapped.mpr ⟨by simp, fun d hd => ?_, by rwa [sum_nines]⟩
  obtain ⟨-, rfl⟩ | rfl | rfl : (n ≠ 0 ∧ d = '9') ∨ d = '8' ∨ d = c := by simpa using hd
  exacts [rfl, rfl, hc]

end Nines

end Guardrail.Luhn
