import Guardrail.Proofs.Places

/-!
Places between characters.

A place of a text is usable exactly if the text falls into two parts there. With that, a span fits a text exactly if
its ends are usable and stand in order, and parts of a text can be cut out of it by their ends.
-/

namespace Guardrail

namespace Text

variable {cs rest : List Char} {n : ℕ}

/-- What is dropped is the text before a place. -/
lemma dropBytes?_eq_some : dropBytes? n cs = some rest ↔ ∃ a, cs = a ++ rest ∧ byteLength a = n := by
  constructor
  · intro h
    induction cs generalizing n with
    | nil =>
      cases n with
      | zero => exact ⟨[], by simpa using h, rfl⟩
      | succ n => cases h
    | cons c cs ih =>
      by_cases hn : n = 0
      · subst hn
        exact ⟨[], by simpa using h, rfl⟩
      · obtain ⟨k, rfl⟩ := Nat.exists_eq_add_one_of_ne_zero hn
        rw [dropBytes?] at h
        split at h
        · next hle =>
          obtain ⟨a, ha, hlen⟩ := ih h
          refine ⟨c :: a, by rw [ha, List.cons_append], ?_⟩
          rw [byteLength_cons]
          omega
        · cases h
  · rintro ⟨a, rfl, rfl⟩
    exact dropBytes?_append a rest

lemma isBoundary_iff : isBoundary n cs = true ↔ ∃ a b, cs = a ++ b ∧ byteLength a = n := by
  rw [isBoundary, Option.isSome_iff_exists]
  constructor
  · rintro ⟨b, hb⟩
    obtain ⟨a, ha⟩ := dropBytes?_eq_some.mp hb
    exact ⟨a, b, ha⟩
  · rintro ⟨a, b, ha⟩
    exact ⟨b, dropBytes?_eq_some.mpr ⟨a, ha⟩⟩

lemma le_byteLength_of_isBoundary (h : isBoundary n cs = true) : n ≤ byteLength cs := by
  obtain ⟨a, b, rfl, rfl⟩ := isBoundary_iff.mp h
  rw [byteLength_append]
  omega

/-- Dropping what stands before a place, and then more. -/
lemma dropBytes?_add (a b : List Char) (n : ℕ) : dropBytes? (byteLength a + n) (a ++ b) = dropBytes? n b := by
  induction a with
  | nil => simp
  | cons c a ih => rw [List.cons_append, byteLength_cons, Nat.add_assoc, dropBytes?_cons, ih]

/-- A text that is cut at two places, one not before the other. -/
lemma exists_gap {before rest a b : List Char} (h : before ++ rest = a ++ b)
    (hle : byteLength before ≤ byteLength a) : ∃ gap, a = before ++ gap ∧ rest = gap ++ b := by
  rcases List.append_eq_append_iff.mp h with ⟨gap, rfl, hrest⟩ | ⟨extra, rfl, hb⟩
  · exact ⟨gap, rfl, hrest⟩
  · rcases extra with _ | ⟨c, extra⟩
    · exact ⟨[], by simp, by simpa using hb.symm⟩
    · have := c.utf8Size_pos
      rw [byteLength_append, byteLength_cons] at hle
      omega

end Text

lemma Span.fits_iff {s : Span} {cs : List Char} : s.Fits cs ↔
    s.start ≤ s.stop ∧ Text.isBoundary s.start cs = true ∧ Text.isBoundary s.stop cs = true := by
  constructor
  · rintro ⟨a, b, c, rfl, hstart, hstop⟩
    refine ⟨by omega, Text.isBoundary_iff.mpr ⟨a, b ++ c, by simp, hstart.symm⟩, ?_⟩
    exact Text.isBoundary_iff.mpr ⟨a ++ b, c, rfl, by rw [Text.byteLength_append]; omega⟩
  · rintro ⟨hle, hstart, hstop⟩
    obtain ⟨a, rest, rfl, ha⟩ := Text.isBoundary_iff.mp hstart
    obtain ⟨before, c, hcut, hb⟩ := Text.isBoundary_iff.mp hstop
    obtain ⟨b, rfl, rfl⟩ := Text.exists_gap hcut (by omega)
    rw [Text.byteLength_append] at hb
    exact ⟨a, b, c, (List.append_assoc a b c).symm, ha.symm, by omega⟩

end Guardrail
