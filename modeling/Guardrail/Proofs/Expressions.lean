import Guardrail.Proofs.Places
import Mathlib.Logic.Relation
import Mathlib.Order.Lattice

/-!
What an expression spans, and that its program accepts exactly that.

The meaning of an expression is a relation between two places of a text, read off the expression alone: preferences do
not matter to it. A program accepts from an instruction and a place if some way through its code ends at `accept`. Code
is written backwards, each part in front of a continuation, so that a part is right if every way through it comes to the
continuation at a place that the part spans. A repetition of any number is a part that comes back to its own fork; there
a way through the code is taken apart by its length.
-/

namespace Guardrail.Pattern

/-! ### Relations -/

/-- So many steps of a relation. -/
def Copies (R : Place → Place → Prop) : ℕ → Place → Place → Prop
  | 0 => Eq
  | n + 1 => Relation.Comp (Copies R n) R

/-- At most so many steps of a relation. -/
def UpTo (R : Place → Place → Prop) (n : ℕ) (p q : Place) : Prop := ∃ k ≤ n, Copies R k p q

/-- Any number of steps of a relation, from so many on. -/
def AtLeast (R : Place → Place → Prop) (n : ℕ) (p q : Place) : Prop := ∃ k, n ≤ k ∧ Copies R k p q

section

variable {R : Place → Place → Prop} {p q : Place}

lemma copies_add (m n : ℕ) : Copies R (m + n) = Relation.Comp (Copies R m) (Copies R n) := by
  induction n with
  | zero => exact Relation.comp_eq.symm
  | succ n ih => rw [← Nat.add_assoc, Copies, ih, Copies, Relation.comp_assoc]

lemma copies_one : Copies R 1 = R := Relation.eq_comp

lemma copies_succ (n : ℕ) : Copies R (n + 1) = Relation.Comp R (Copies R n) := by
  rw [Nat.add_comm, copies_add, copies_one]

lemma upTo_zero : UpTo R 0 = Eq := by
  funext p q
  simp [UpTo, Copies]

/-- One step and some more, or none. -/
lemma upTo_succ (n : ℕ) : UpTo R (n + 1) = fun p q => Relation.Comp R (UpTo R n) p q ∨ p = q := by
  funext p q
  refine propext ⟨?_, ?_⟩
  · rintro ⟨_ | k, hk, h⟩
    · exact .inr h
    · rw [copies_succ] at h
      obtain ⟨m, hm, h⟩ := h
      exact .inl ⟨m, hm, k, by omega, h⟩
  · rintro (⟨m, hm, k, hk, h⟩ | rfl)
    · exact ⟨k + 1, by omega, by rw [copies_succ]; exact ⟨m, hm, h⟩⟩
    · exact ⟨0, by omega, rfl⟩

lemma copies_comp_upTo (least n : ℕ) : Relation.Comp (Copies R least) (UpTo R n)
    = fun p q => ∃ k, least ≤ k ∧ k ≤ least + n ∧ Copies R k p q := by
  funext p q
  refine propext ⟨?_, ?_⟩
  · rintro ⟨m, hm, k, hk, h⟩
    exact ⟨least + k, by omega, by omega, by rw [copies_add]; exact ⟨m, hm, h⟩⟩
  · rintro ⟨k, hleast, hk, h⟩
    obtain ⟨j, rfl⟩ := Nat.exists_eq_add_of_le hleast
    rw [copies_add] at h
    obtain ⟨m, hm, h⟩ := h
    exact ⟨m, hm, j, by omega, h⟩

lemma copies_comp_atLeast (m n : ℕ) : Relation.Comp (Copies R m) (AtLeast R n) = AtLeast R (m + n) := by
  funext p q
  refine propext ⟨?_, ?_⟩
  · rintro ⟨x, hx, k, hk, h⟩
    exact ⟨m + k, by omega, by rw [copies_add]; exact ⟨x, hx, h⟩⟩
  · rintro ⟨k, hk, h⟩
    obtain ⟨j, rfl⟩ := Nat.exists_eq_add_of_le (Nat.le_of_add_right_le hk)
    rw [copies_add] at h
    obtain ⟨x, hx, h⟩ := h
    exact ⟨x, hx, j, by omega, h⟩

lemma comp_atLeast : Relation.Comp R (AtLeast R 0) = AtLeast R 1 := by
  rw [← copies_comp_atLeast 1 0, copies_one]

/-- Any number of steps is one and any number more, or none. -/
lemma atLeast_zero_iff : AtLeast R 0 p q ↔ Relation.Comp R (AtLeast R 0) p q ∨ p = q := by
  rw [comp_atLeast]
  refine ⟨?_, ?_⟩
  · rintro ⟨_ | k, -, h⟩
    · exact .inr h
    · exact .inl ⟨k + 1, by omega, h⟩
  · rintro (⟨k, -, h⟩ | rfl)
    · exact ⟨k, k.zero_le, h⟩
    · exact ⟨0, le_rfl, rfl⟩

end

/-! ### What an expression spans -/

/-- The expression can take a text from one place to another. -/
def Regex.Spans : Regex → Place → Place → Prop
  | .empty => Eq
  | .one set => fun p q => ∃ c rest, p.rest = c :: rest ∧ set.contains c = true ∧ q = p.past c rest
  | .look condition ascii => fun p q =>
    condition.holds (isWordChar ascii) p.before p.rest.head? = true ∧ p = q
  | .seq a b => Relation.Comp a.Spans b.Spans
  | .alt a b => fun p q => a.Spans p q ∨ b.Spans p q
  | .loop r least most _ => fun p q => ∃ k, least ≤ k ∧ (∀ m ∈ most, k ≤ max least m) ∧ Copies r.Spans k p q

/-! ### Ways through code -/

/-- Where an instruction leads from a place, the preferred way first. -/
def Instr.onward (p : Place) : Instr → List (ℕ × Place)
  | .eat set next =>
    match p.rest with
    | [] => []
    | c :: rest => if set.contains c then [(next, p.past c rest)] else []
  | .look condition ascii next =>
    if condition.holds (isWordChar ascii) p.before p.rest.head? then [(next, p)] else []
  | .fork first second => [(first, p), (second, p)]
  | .accept => []

/-- Where a program leads from an instruction at a place. -/
def onward (code : Array Instr) (x : ℕ × Place) : List (ℕ × Place) := (code[x.1]?).elim [] (·.onward x.2)

/-- Some way of so many steps through the code leads from an instruction at one place to `accept` at another. -/
def AcceptsIn (code : Array Instr) : ℕ → ℕ × Place → Place → Prop
  | 0, x, q => code[x.1]? = some .accept ∧ x.2 = q
  | n + 1, x, q => ∃ y ∈ onward code x, AcceptsIn code n y q

/-- Some way through the code leads from an instruction at one place to `accept` at another. -/
def Accepts (code : Array Instr) (x : ℕ × Place) (q : Place) : Prop := ∃ n, AcceptsIn code n x q

section

variable {code : Array Instr} {x : ℕ × Place} {p q : Place} {i : ℕ}

lemma onward_of_get {instr : Instr} (h : code[i]? = some instr) : onward code (i, p) = instr.onward p := by
  simp [onward, h]

lemma Accepts.of_onward {y : ℕ × Place} (hy : y ∈ onward code x) (h : Accepts code y q) : Accepts code x q := by
  obtain ⟨n, h⟩ := h
  exact ⟨n + 1, y, hy, h⟩

lemma acceptsIn_accept (h : code[i]? = some .accept) {n : ℕ} : AcceptsIn code n (i, p) q ↔ n = 0 ∧ p = q := by
  cases n with
  | zero => simp [AcceptsIn, h]
  | succ n => simp [AcceptsIn, onward_of_get h, Instr.onward]

/-- A way from an instruction other than `accept` goes on to where it leads. -/
lemma acceptsIn_of_get {instr : Instr} (h : code[i]? = some instr) (hne : instr ≠ .accept) {n : ℕ} :
    AcceptsIn code n (i, p) q ↔ ∃ k, n = k + 1 ∧ ∃ y ∈ instr.onward p, AcceptsIn code k y q := by
  cases n with
  | zero => simp [AcceptsIn, h, hne]
  | succ n => simp [AcceptsIn, onward_of_get h]

end

/-! ### Parts of code -/

/-- From an instruction on, code comes to a continuation exactly at the places that a relation leads to. -/
structure Leads (code : Array Instr) (R : Place → Place → Prop) (entry next : ℕ) : Prop where
  sound : ∀ {n p q}, AcceptsIn code n (entry, p) q → ∃ m, R p m ∧ ∃ k ≤ n, AcceptsIn code k (next, m) q
  complete : ∀ {p m q}, R p m → Accepts code (next, m) q → Accepts code (entry, p) q

section

variable {code : Array Instr} {R S : Place → Place → Prop} {entry middle next : ℕ}

lemma Leads.refl (code : Array Instr) (next : ℕ) : Leads code Eq next next where
  sound h := ⟨_, rfl, _, le_rfl, h⟩
  complete := by
    rintro p m q rfl h
    exact h

lemma Leads.comp (hR : Leads code R entry middle) (hS : Leads code S middle next) :
    Leads code (Relation.Comp R S) entry next where
  sound h := by
    obtain ⟨x, hx, k, hk, h⟩ := hR.sound h
    obtain ⟨y, hy, l, hl, h⟩ := hS.sound h
    exact ⟨y, ⟨x, hx, hy⟩, l, hl.trans hk, h⟩
  complete := by
    rintro p y q ⟨x, hx, hy⟩ h
    exact hR.complete hx (hS.complete hy h)

/-- An instruction with one way on. -/
lemma Leads.instr {instr : Instr} (h : code[entry]? = some instr) (hne : instr ≠ .accept)
    (hR : ∀ p y, y ∈ instr.onward p ↔ y.1 = next ∧ R p y.2) : Leads code R entry next where
  sound hn := by
    obtain ⟨k, rfl, ⟨i, m⟩, hy, hk⟩ := (acceptsIn_of_get h hne).mp hn
    obtain ⟨rfl, hm⟩ := (hR ..).mp hy
    exact ⟨m, hm, k, k.le_succ, hk⟩
  complete {p m q} hm := Accepts.of_onward (by rw [onward_of_get h]; exact (hR p (next, m)).mpr ⟨rfl, hm⟩)

/-- A fork between two parts. Which of them is tried first does not matter. -/
lemma Leads.fork {first second : ℕ} (h : code[entry]? = some (.fork first second))
    (hR : Leads code R first next) (hS : Leads code S second next) :
    Leads code (fun p q => R p q ∨ S p q) entry next where
  sound hn := by
    obtain ⟨k, rfl, y, hy, hk⟩ := (acceptsIn_of_get h nofun).mp hn
    rcases List.mem_pair.mp hy with rfl | rfl
    · obtain ⟨m, hm, l, hl, h⟩ := hR.sound hk
      exact ⟨m, .inl hm, l, by omega, h⟩
    · obtain ⟨m, hm, l, hl, h⟩ := hS.sound hk
      exact ⟨m, .inr hm, l, by omega, h⟩
  complete {p m q} hm hq := by
    have hto (y) (hy : y ∈ [(first, p), (second, p)]) : Accepts code y q → Accepts code (entry, p) q :=
      Accepts.of_onward (by rw [onward_of_get h]; exact hy)
    rcases hm with hm | hm
    · exact hto _ (by simp) (hR.complete hm hq)
    · exact hto _ (by simp) (hS.complete hm hq)

lemma Leads.choice {greedy : Bool} {first second : ℕ} (h : code[entry]? = some (prefer greedy first second))
    (hR : Leads code R first next) (hS : Leads code S second next) :
    Leads code (fun p q => R p q ∨ S p q) entry next := by
  cases greedy with
  | true => exact .fork h hR hS
  | false =>
    have hswap := Leads.fork h hS hR
    simpa only [or_comm] using hswap

/-- A part that comes back to the fork in front of it. Each time round takes a step at least. -/
lemma Leads.star {greedy : Bool} {again : ℕ} (h : code[again]? = some (prefer greedy entry next))
    (hR : Leads code R entry again) : Leads code (AtLeast R 0) again next where
  sound {n p q} hn := by
    have hne : prefer greedy entry next ≠ .accept := by cases greedy <;> exact nofun
    have hways (p) : ∀ y, y ∈ (prefer greedy entry next).onward p → y = (entry, p) ∨ y = (next, p) := by
      cases greedy <;> simp [prefer, Instr.onward, or_comm]
    induction n using Nat.strongRecOn generalizing p with
    | ind n ih =>
      obtain ⟨k, rfl, y, hy, hk⟩ := (acceptsIn_of_get h hne).mp hn
      rcases hways p y hy with rfl | rfl
      · obtain ⟨x, hx, l, hl, hagain⟩ := hR.sound hk
        obtain ⟨m, hm, j, hj, hnext⟩ := ih l (by omega) hagain
        exact ⟨m, atLeast_zero_iff.mpr (.inl ⟨x, hx, hm⟩), j, by omega, hnext⟩
      · exact ⟨p, atLeast_zero_iff.mpr (.inr rfl), k, k.le_succ, hk⟩
  complete {p m q} hm hq := by
    obtain ⟨n, -, hn⟩ := hm
    have hto (p) (y) (hy : y = (entry, p) ∨ y = (next, p)) : Accepts code y q → Accepts code (again, p) q := by
      refine Accepts.of_onward ?_
      rw [onward_of_get h]
      cases greedy <;> simpa [prefer, Instr.onward, or_comm] using hy
    induction n generalizing p with
    | zero =>
      obtain rfl : p = m := hn
      exact hto p _ (.inr rfl) hq
    | succ n ih =>
      rw [copies_succ] at hn
      obtain ⟨x, hx, hn⟩ := hn
      exact hto p _ (.inl rfl) (hR.complete hx (ih hn))

end

/-! ### Writing code -/

/-- Code that was there is there still. -/
def Keeps (code code' : Array Instr) : Prop := ∀ i < code.size, code'[i]? = code[i]?

/-- Code is as it was written, from an instruction on. -/
def Has (final : Array Instr) (first : ℕ) (code : Array Instr) : Prop :=
  ∀ i, first ≤ i → i < code.size → final[i]? = code[i]?

lemma Keeps.refl (code : Array Instr) : Keeps code code := fun _ _ => rfl

lemma Keeps.size_le {code code' : Array Instr} (h : Keeps code code') : code.size ≤ code'.size := by
  by_contra hlt
  simpa [Nat.not_le.mp hlt] using h code'.size (Nat.not_le.mp hlt)

lemma Keeps.trans {a b c : Array Instr} (hab : Keeps a b) (hbc : Keeps b c) : Keeps a c := by
  intro i hi
  rw [hbc i (hi.trans_le hab.size_le), hab i hi]

lemma Keeps.push (code : Array Instr) (instr : Instr) : Keeps code (code.push instr) := by
  intro i hi
  rw [Array.getElem?_push, if_neg hi.ne]

lemma Has.of_keeps {final code code' : Array Instr} {first : ℕ} (h : Has final first code') (hk : Keeps code code') :
    Has final first code := by
  intro i hfirst hi
  rw [h i hfirst (hi.trans_le hk.size_le), hk i hi]

lemma Has.of_le {final code : Array Instr} {first first' : ℕ} (h : Has final first code) (hle : first ≤ first') :
    Has final first' code := fun i hi => h i (hle.trans hi)

lemma Has.get_push {final code : Array Instr} {first : ℕ} {instr : Instr} (h : Has final first (code.push instr))
    (hle : first ≤ code.size) : final[code.size]? = some instr := by
  rw [h code.size hle (by simp), Array.getElem?_push_size]

/-- A way of writing code in front of a continuation: what it writes leads there by a relation. -/
structure Writes (R : Place → Place → Prop) (emit : ℕ → Array Instr → ℕ × Array Instr) : Prop where
  keeps : ∀ next code, Keeps code (emit next code).2
  leads : ∀ next code final, Has final code.size (emit next code).2 → Leads final R (emit next code).1 next

namespace Writes

variable {R S : Place → Place → Prop} {emit first second : ℕ → Array Instr → ℕ × Array Instr}

lemma nothing : Writes Eq fun next code => (next, code) where
  keeps _ code := .refl code
  leads next _ final _ := .refl final next

lemma instr {instr : ℕ → Instr} (hne : ∀ next, instr next ≠ .accept)
    (hR : ∀ next p y, y ∈ (instr next).onward p ↔ y.1 = next ∧ R p y.2) :
    Writes R fun next code => (code.size, code.push (instr next)) where
  keeps next code := .push code (instr next)
  leads next _ _ h := .instr (h.get_push le_rfl) (hne next) (hR next)

/-- What comes later in the text is written first. -/
lemma comp (hR : Writes R first) (hS : Writes S second) :
    Writes (Relation.Comp R S) fun next code => first (second next code).1 (second next code).2 where
  keeps next code := (hS.keeps next code).trans (hR.keeps _ _)
  leads next code final h :=
    (hR.leads _ _ final (h.of_le (hS.keeps next code).size_le)).comp
      (hS.leads next code final (h.of_keeps (hR.keeps _ _)))

/-- A part that may be left out. -/
lemma maybe (greedy : Bool) (hR : Writes R emit) : Writes (fun p q => R p q ∨ p = q) fun next code =>
    ((emit next code).2.size, (emit next code).2.push (prefer greedy (emit next code).1 next)) where
  keeps next code := (hR.keeps next code).trans (.push _ _)
  leads next code final h :=
    .choice (h.get_push (hR.keeps next code).size_le) (hR.leads next code final (h.of_keeps (.push _ _)))
      (.refl final next)

lemma alt (hR : Writes R first) (hS : Writes S second) : Writes (fun p q => R p q ∨ S p q) fun next code =>
    ((second next (first next code).2).2.size, (second next (first next code).2).2.push
      (.fork (first next code).1 (second next (first next code).2).1)) where
  keeps next code := ((hR.keeps next code).trans (hS.keeps _ _)).trans (.push _ _)
  leads next code final h := by
    have hfirst := hR.keeps next code
    have hsecond := hS.keeps next (first next code).2
    have hwritten := h.of_keeps (.push _ _)
    exact .fork (h.get_push (hfirst.trans hsecond).size_le) (hR.leads next code final (hwritten.of_keeps hsecond))
      (hS.leads next _ final (hwritten.of_le hfirst.size_le))

lemma copies (hR : Writes R emit) (n : ℕ) : Writes (Copies R n) (emitCopies emit n) := by
  induction n with
  | zero => exact nothing
  | succ n ih => exact ih.comp hR

lemma optional (hR : Writes R emit) (greedy : Bool) (n : ℕ) :
    Writes (UpTo R n) fun next code => emitOptional emit greedy next n code := by
  induction n with
  | zero =>
    rw [upTo_zero]
    exact nothing
  | succ n ih =>
    rw [upTo_succ]
    exact (hR.comp ih).maybe greedy

/-- One copy and any number more, entered at the copy or at the fork behind it. -/
lemma many (hR : Writes R emit) (greedy : Bool) (next : ℕ) (code : Array Instr) :
    Keeps code (emitMany emit greedy next code).2.2 ∧
      ∀ final, Has final code.size (emitMany emit greedy next code).2.2 →
        Leads final (AtLeast R 0) (emitMany emit greedy next code).2.1 next ∧
          Leads final (AtLeast R 1) (emitMany emit greedy next code).1 next := by
  -- the fork takes the place of an instruction that was put there to be overwritten
  set written := emit code.size (code.push .accept)
  set fork := prefer greedy written.1 next
  have hmany : emitMany emit greedy next code
      = (written.1, code.size, written.2.setIfInBounds code.size fork) := rfl
  have hkeeps : Keeps (code.push .accept) written.2 := hR.keeps _ _
  have hsize : code.size < written.2.size := Nat.lt_of_lt_of_le (by simp) hkeeps.size_le
  rw [hmany]
  refine ⟨fun i hi => ?_, fun final h => ?_⟩
  · rw [Array.getElem?_setIfInBounds_ne hi.ne', ((Keeps.push code .accept).trans hkeeps) i hi]
  · have hfork : final[code.size]? = some fork := by
      rw [h code.size le_rfl (by simpa using hsize), Array.getElem?_setIfInBounds_self_of_lt hsize]
    have hpart : Has final (code.push .accept).size written.2 := by
      intro i hi hlt
      rw [Array.size_push] at hi
      rw [h i (by omega) (by simpa using hlt), Array.getElem?_setIfInBounds_ne (by omega)]
    have hstar := Leads.star hfork (hR.leads code.size (code.push .accept) final hpart)
    refine ⟨hstar, ?_⟩
    rw [← comp_atLeast]
    exact (hR.leads code.size (code.push .accept) final hpart).comp hstar

lemma manyFrom (hR : Writes R emit) (greedy : Bool) : Writes (AtLeast R 1) fun next code =>
    ((emitMany emit greedy next code).1, (emitMany emit greedy next code).2.2) where
  keeps next code := (hR.many greedy next code).1
  leads next code final h := ((hR.many greedy next code).2 final h).2

lemma manyAgain (hR : Writes R emit) (greedy : Bool) : Writes (AtLeast R 0) fun next code =>
    ((emitMany emit greedy next code).2.1, (emitMany emit greedy next code).2.2) where
  keeps next code := (hR.many greedy next code).1
  leads next code final h := ((hR.many greedy next code).2 final h).1

end Writes

/-! ### The program of an expression -/

namespace Regex

lemma spans_loop_some (r : Regex) (least most : ℕ) (greedy : Bool) :
    (Regex.loop r least (some most) greedy).Spans
      = Relation.Comp (Copies r.Spans least) (UpTo r.Spans (most - least)) := by
  rw [copies_comp_upTo, Spans]
  funext p q
  refine propext (exists_congr fun k => ?_)
  have hmax : k ≤ max least most ↔ k ≤ least + (most - least) := by omega
  simp only [Option.mem_def, Option.some.injEq, forall_eq', hmax]

lemma spans_loop_none (r : Regex) (least : ℕ) (greedy : Bool) :
    (Regex.loop r least none greedy).Spans = AtLeast r.Spans least := by
  funext p q
  simp [Spans, AtLeast]

/-- What is written for an expression leads on from where the expression spans. -/
lemma writes_emit (r : Regex) : Writes r.Spans r.emit := by
  induction r with
  | empty => exact .nothing
  | one set =>
    refine .instr (fun _ => nofun) fun next p y => ?_
    obtain ⟨i, q⟩ := y
    simp only [Instr.onward, Spans]
    cases hp : p.rest with
    | nil => simp
    | cons c rest =>
      by_cases hc : set.contains c = true <;> simp [hc]
  | look condition ascii =>
    refine .instr (fun _ => nofun) fun next p y => ?_
    obtain ⟨i, q⟩ := y
    by_cases h : condition.holds (isWordChar ascii) p.before p.rest.head? = true <;>
      simp [Instr.onward, Spans, h, eq_comm]
  | seq a b iha ihb => exact iha.comp ihb
  | alt a b iha ihb => exact iha.alt ihb
  | loop r least most greedy ih =>
    rcases most with _ | most
    · rw [spans_loop_none]
      cases least with
      | succ least =>
        have hrest := ih.manyFrom greedy
        rw [← copies_comp_atLeast least 1]
        exact (ih.copies least).comp hrest
      | zero =>
        -- what can match nothing is entered through a choice of its own, so that repeating it ends
        by_cases hempty : r.leastLength = 0
        · have hmaybe : Writes (AtLeast r.Spans 0) fun next code =>
              ((emitMany r.emit greedy next code).2.2.size, (emitMany r.emit greedy next code).2.2.push
                (prefer greedy (emitMany r.emit greedy next code).1 next)) := by
            have hiff : AtLeast r.Spans 0 = fun p q => AtLeast r.Spans 1 p q ∨ p = q := by
              funext p q
              rw [atLeast_zero_iff, comp_atLeast]
            rw [hiff]
            exact (ih.manyFrom greedy).maybe greedy
          simpa only [emit, hempty, if_true] using hmaybe
        · simpa only [emit, hempty, if_false] using ih.manyAgain greedy
    · rw [spans_loop_some]
      exact (ih.copies least).comp (ih.optional greedy (most - least))

end Regex

/-- **The program of an expression accepts what the expression spans**, from every place and to every place. -/
theorem Program.accepts_ofRegex (r : Regex) {p q : Place} :
    Accepts (Program.ofRegex r).code ((Program.ofRegex r).start, p) q ↔ r.Spans p q := by
  set code := (Program.ofRegex r).code
  have hkeeps : Keeps #[.accept] code := r.writes_emit.keeps 0 #[.accept]
  have hleads : Leads code r.Spans (Program.ofRegex r).start 0 := r.writes_emit.leads 0 #[.accept] code fun _ _ _ => rfl
  have haccept : code[0]? = some .accept := hkeeps 0 (by simp)
  refine ⟨fun ⟨n, h⟩ => ?_, fun h => hleads.complete h ⟨0, haccept, rfl⟩⟩
  obtain ⟨m, hm, k, -, hk⟩ := hleads.sound h
  obtain ⟨-, rfl⟩ := (acceptsIn_accept haccept).mp hk
  exact hm

end Guardrail.Pattern
