import Guardrail.Pattern.Dialect
import Guardrail.Text.Bytes
import Mathlib.Data.List.Basic
import Mathlib.Tactic.Lemma

/-!
Places of a text, and the places at which matches begin and end.

A span fits a text if both its ends lie between characters of it, in this order. A search only moves
on by whole characters, so that every match fits.
-/

namespace Guardrail

/-! ### Bytes -/

namespace Text

@[simp] lemma byteLength_nil : byteLength [] = 0 := rfl

lemma byteLength_foldl (n : ℕ) (cs : List Char) :
    cs.foldl (fun n c => n + c.utf8Size) n = n + byteLength cs := by
  induction cs generalizing n with
  | nil => rfl
  | cons c cs ih =>
    have hcons : byteLength (c :: cs) = 0 + c.utf8Size + byteLength cs := ih _
    rw [List.foldl_cons, ih, hcons]
    omega

@[simp] lemma byteLength_cons (c : Char) (cs : List Char) :
    byteLength (c :: cs) = c.utf8Size + byteLength cs := by
  rw [byteLength, List.foldl_cons, byteLength_foldl, Nat.zero_add]

@[simp] lemma byteLength_append (a b : List Char) :
    byteLength (a ++ b) = byteLength a + byteLength b := by
  induction a with
  | nil => simp
  | cons c a ih => rw [List.cons_append, byteLength_cons, ih, byteLength_cons, Nat.add_assoc]

@[simp] lemma dropBytes?_zero (cs : List Char) : dropBytes? 0 cs = some cs := by
  simp [dropBytes?]

lemma dropBytes?_cons (n : ℕ) (c : Char) (cs : List Char) :
    dropBytes? (c.utf8Size + n) (c :: cs) = dropBytes? n cs := by
  obtain ⟨k, hk⟩ := Nat.exists_eq_add_one_of_ne_zero (Nat.ne_of_gt c.utf8Size_pos)
  rw [show c.utf8Size + n = n + k + 1 by omega, dropBytes?, if_pos (by omega)]
  congr 1
  omega

@[simp] lemma dropBytes?_append (a b : List Char) :
    dropBytes? (byteLength a) (a ++ b) = some b := by
  induction a with
  | nil => simp
  | cons c a ih => rw [List.cons_append, byteLength_cons, dropBytes?_cons, ih]

lemma takeBytesOnto_cons (seen : List Char) (n : ℕ) (c : Char) (cs : List Char) :
    takeBytesOnto seen (c.utf8Size + n) (c :: cs) = takeBytesOnto (c :: seen) n cs := by
  obtain ⟨k, hk⟩ := Nat.exists_eq_add_one_of_ne_zero (Nat.ne_of_gt c.utf8Size_pos)
  rw [show c.utf8Size + n = n + k + 1 by omega, takeBytesOnto]
  congr 1
  omega

lemma takeBytesOnto_append (seen a b : List Char) :
    takeBytesOnto seen (byteLength a) (a ++ b) = a.reverse ++ seen := by
  induction a generalizing seen with
  | nil => simp [takeBytesOnto]
  | cons c a ih => rw [List.cons_append, byteLength_cons, takeBytesOnto_cons, ih]; simp

@[simp] lemma takeBytes_append (a b : List Char) : takeBytes (byteLength a) (a ++ b) = a := by
  simp [takeBytes, takeBytesOnto_append]

/-- A part of a text between two others. -/
lemma slice?_append (a b c : List Char) : slice? (byteLength a) (byteLength (a ++ b)) (a ++ b ++ c) = some b := by
  have hle : byteLength a ≤ byteLength (a ++ b) := by simp
  have hboundary : isBoundary (byteLength (a ++ b)) (a ++ b ++ c) = true := by
    rw [isBoundary, dropBytes?_append]
    rfl
  rw [slice?, if_pos ⟨hle, hboundary⟩, List.append_assoc, dropBytes?_append, Option.map_some, byteLength_append,
    Nat.add_sub_cancel_left, takeBytes_append]

end Text

/-! ### Spans that fit -/

/-- Both ends lie between characters of a text, in this order. -/
def Span.Fits (s : Span) (cs : List Char) : Prop :=
  ∃ a b c, cs = a ++ b ++ c ∧ s.start = Text.byteLength a ∧ s.stop = s.start + Text.byteLength b

namespace Span.Fits

lemma start_le_stop {s : Span} {cs : List Char} (h : s.Fits cs) : s.start ≤ s.stop := by
  obtain ⟨a, b, c, -, -, hstop⟩ := h
  omega

end Span.Fits

namespace Pattern

/-! ### Searching -/

namespace Place

/-- One place is as far as another, or further on by whole characters. -/
def Reaches (p q : Place) : Prop :=
  ∃ cs, p.rest = cs ++ q.rest ∧ q.offset = p.offset + Text.byteLength cs

lemma Reaches.refl (p : Place) : p.Reaches p := ⟨[], by simp⟩

lemma Reaches.trans {p q r : Place} (hpq : p.Reaches q) (hqr : q.Reaches r) : p.Reaches r := by
  obtain ⟨a, ha, hao⟩ := hpq
  obtain ⟨b, hb, hbo⟩ := hqr
  exact ⟨a ++ b, by rw [ha, hb, List.append_assoc], by rw [hbo, hao, Text.byteLength_append]; omega⟩

lemma reaches_past {p : Place} {c : Char} {rest : List Char} (h : p.rest = c :: rest) :
    p.Reaches (p.past c rest) := ⟨[c], by simp [h, past], by simp [past]⟩

end Place

namespace Program

variable {prog : Program}

/-- Exploring ends no nearer than where it began. The invariant is on the jobs that are left. -/
lemma explore_reaches {p q : Place} {fuel : ℕ} {jobs : List (ℕ × Place)} {tried : Tried}
    (hjobs : ∀ j ∈ jobs, p.Reaches j.2) (h : (prog.explore fuel jobs tried).1 = some q) :
    p.Reaches q := by
  induction fuel generalizing jobs tried with
  | zero => cases h
  | succ fuel ih =>
    rcases jobs with _ | ⟨⟨instr, place⟩, jobs⟩
    · cases h
    obtain ⟨hplace, hrest⟩ := List.forall_mem_cons.mp hjobs
    -- whatever comes in front of the jobs that are left is reached too
    have hnext (ahead : List (ℕ × Place)) (hahead : ∀ j ∈ ahead, p.Reaches j.2) :
        ∀ j ∈ ahead ++ jobs, p.Reaches j.2 := by
      intro j hj
      exact (List.mem_append.mp hj).elim (hahead j) (hrest j)
    unfold explore at h
    split at h
    · exact ih hrest h
    simp only at h
    split at h
    · exact ih hrest h
    · obtain rfl : place = q := Option.some.inj h
      exact hplace
    · next first second _ =>
      exact ih (hnext [(first, place), (second, place)] (by simpa using hplace)) h
    · next next _ =>
      split at h
      · exact ih (hnext [(next, place)] (by simpa using hplace)) h
      · exact ih hrest h
    · next next _ =>
      split at h
      · exact ih hrest h
      · next c rest hc =>
        have hpast := hplace.trans (Place.reaches_past hc)
        split at h
        · exact ih (hnext [(next, place.past c rest)] (by simpa using hpast)) h
        · exact ih hrest h

lemma attempt_reaches {length : ℕ} {p q : Place} {tried : Tried}
    (h : (prog.attempt length p tried).1 = some q) : p.Reaches q :=
  explore_reaches (by simp [Place.Reaches.refl]) h

lemma findFrom_reaches {length index offset : ℕ} {before : Option Char} {tried : Tried}
    {cs : List Char} {start stop : Place}
    (h : prog.findFrom length before index offset tried cs = some (start, stop)) :
    Place.Reaches ⟨before, cs, index, offset⟩ start ∧ start.Reaches stop := by
  induction cs generalizing before index offset tried with
  | nil =>
    obtain ⟨q, hq, heq⟩ := Option.map_eq_some_iff.mp h
    obtain ⟨rfl, rfl⟩ := Prod.mk.inj heq
    exact ⟨.refl _, attempt_reaches hq⟩
  | cons c cs ih =>
    simp only [findFrom] at h
    split at h
    · next q _ hq =>
      obtain ⟨rfl, rfl⟩ := Prod.mk.inj (Option.some.inj h)
      exact ⟨.refl _, attempt_reaches (by rw [hq])⟩
    · obtain ⟨hstart, hstop⟩ := ih h
      exact ⟨(Place.reaches_past rfl).trans hstart, hstop⟩

lemma occurrencesFrom_reaches {fuel : ℕ} {last : Option ℕ} {p : Place} {s : Span}
    (h : s ∈ prog.occurrencesFrom fuel last p) :
    ∃ start stop, p.Reaches start ∧ start.Reaches stop ∧ s = ⟨start.offset, stop.offset⟩ := by
  induction fuel generalizing last p with
  | zero => cases h
  | succ fuel ih =>
    unfold occurrencesFrom at h
    split at h
    · cases h
    · next start stop hfind =>
      obtain ⟨hstart, hstop⟩ := findFrom_reaches hfind
      split at h
      · split at h
        · cases h
        · next c rest hc =>
          obtain ⟨u, v, hu, hv, rfl⟩ := ih h
          exact ⟨u, v, (Place.reaches_past hc).trans hu, hv, rfl⟩
      · rcases List.mem_cons.mp h with rfl | h
        · exact ⟨start, stop, hstart, hstop, rfl⟩
        · obtain ⟨u, v, hu, hv, rfl⟩ := ih h
          exact ⟨u, v, (hstart.trans hstop).trans hu, hv, rfl⟩

/-- Every match of a pattern fits the text. -/
lemma occurrences_fits {cs : List Char} {s : Span} (h : s ∈ prog.occurrences cs) : s.Fits cs := by
  obtain ⟨start, stop, ⟨a, ha, hao⟩, ⟨b, hb, hbo⟩, rfl⟩ := occurrencesFrom_reaches h
  refine ⟨a, b, stop.rest, ?_, by simpa [Place.start] using hao, hbo⟩
  rw [List.append_assoc, ← hb, ← ha]
  rfl

end Program

/-- A dialect of which every match fits the text. -/
class Dialect.Fitting [Dialect] : Prop where
  fits {pattern : String} {find : List Char → List Span} (h : Dialect.search pattern = .ok find) (text : List Char) :
    ∀ s ∈ find text, s.Fits text

instance : Dialect.Fitting where
  fits {pattern find} h text s hs := by
    simp only [Dialect.search] at h
    split at h
    · cases h
      exact Program.occurrences_fits hs
    · cases h

end Pattern

end Guardrail
