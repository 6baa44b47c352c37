import Guardrail.Proofs.Expressions
import Mathlib.Data.Finset.Card
import Mathlib.Data.Finset.Prod

/-!
A search finds the leftmost match, and the matches that it lists leave none out.

Pairs of instruction and place that were tried are not tried again, also when a search goes on at the next place. That
is right because whatever a tried pair leads to is tried as well or still to do, so that, once nothing is left to do, no
way from a tried pair comes to a match. Each pair is entered once, for which the steps that a search is given suffice.
-/

namespace Guardrail.Pattern

/-! ### Places of one text -/

namespace Place

/-- The place between two parts of a text. -/
def between (a b : List Char) : Place := ⟨a.getLast?, b, a.length, Text.byteLength a⟩

/-- A place of a text. -/
def In (cs : List Char) (p : Place) : Prop := ∃ a b, a ++ b = cs ∧ p = between a b

variable {cs : List Char} {p q : Place}

lemma in_start (cs : List Char) : (start cs).In cs := ⟨[], cs, rfl, rfl⟩

lemma In.eq (hp : p.In cs) (hq : q.In cs) (h : p.index = q.index) : p = q := by
  obtain ⟨a, b, hab, rfl⟩ := hp
  obtain ⟨c, d, hcd, rfl⟩ := hq
  obtain ⟨rfl, rfl⟩ := List.append_inj (hab.trans hcd.symm) h
  rfl

lemma In.index_add (h : p.In cs) : p.index + p.rest.length = cs.length := by
  obtain ⟨a, b, rfl, rfl⟩ := h
  exact List.length_append.symm

lemma In.past (h : p.In cs) {c : Char} {rest : List Char} (hrest : p.rest = c :: rest) : (p.past c rest).In cs := by
  obtain ⟨a, b, rfl, rfl⟩ := h
  obtain rfl : b = c :: rest := hrest
  exact ⟨a ++ [c], rest, by simp, by simp [Place.past, between]⟩

/-- The text from one place to another. -/
lemma In.upTo (hp : p.In cs) (hq : q.In cs) (h : p.index ≤ q.index) : ∃ w, p.rest = w ++ q.rest ∧
    q.index = p.index + w.length ∧ q.offset = p.offset + Text.byteLength w := by
  obtain ⟨a, b, hab, rfl⟩ := hp
  obtain ⟨c, d, hcd, rfl⟩ := hq
  obtain ⟨w, rfl⟩ : a <+: c := List.prefix_of_prefix_length_le ⟨b, hab⟩ ⟨d, hcd⟩ h
  refine ⟨w, ?_, List.length_append, Text.byteLength_append a w⟩
  rw [← hcd, List.append_assoc] at hab
  exact List.append_cancel_left hab

lemma In.offset_lt (hp : p.In cs) (hq : q.In cs) (h : p.index < q.index) : p.offset < q.offset := by
  obtain ⟨_ | ⟨c, w⟩, -, hindex, hoffset⟩ := hp.upTo hq h.le
  · simp at hindex
    omega
  · have hpos := c.utf8Size_pos
    rw [Text.byteLength_cons] at hoffset
    omega

end Place

/-! ### What was tried -/

namespace Tried

lemma size_grow (bits : Array ℕ) (n : ℕ) : (grow bits n).size = bits.size + n := by
  induction n generalizing bits with
  | zero => rfl
  | succ n ih => rw [grow, ih, Array.size_push, Nat.add_right_comm, Nat.add_assoc]

lemma getD_grow (bits : Array ℕ) (n i : ℕ) : (grow bits n)[i]?.getD 0 = bits[i]?.getD 0 := by
  induction n generalizing bits with
  | zero => rfl
  | succ n ih =>
    rw [grow, ih, Array.getElem?_push]
    split
    · next h => simp [h]
    · rfl

variable {t : Tried} {i j k l : ℕ}

/-- A pair is noted, and no other. -/
lemma has_add (hk : t.base ≤ k) (hl : t.base ≤ l) :
    (t.add i k).has j l = true ↔ (j = i ∧ l = k) ∨ t.has j l = true := by
  set bits := grow t.bits (k - t.base + 1 - t.bits.size) with hbits
  have hroom : k - t.base < bits.size := by
    rw [hbits, size_grow]
    omega
  have hold : bits[l - t.base]?.getD 0 = t.bits[l - t.base]?.getD 0 := getD_grow ..
  have hadd : (t.add i k).has j l
      = ((bits.modify (k - t.base) (· ||| 1 <<< i))[l - t.base]?.getD 0).testBit j := by
    rw [has, Array.getD_eq_getD_getElem?]
    rfl
  rw [hadd, has, Array.getD_eq_getD_getElem?, ← hold, Array.getElem?_modify]
  by_cases hplace : k = l
  · subst hplace
    obtain ⟨n, hn⟩ : ∃ n, bits[k - t.base]? = some n := ⟨_, Array.getElem?_eq_getElem hroom⟩
    rw [if_pos rfl, hn, Option.map_some, Option.getD_some, Nat.testBit_or, Nat.one_shiftLeft, Nat.testBit_two_pow,
      Option.getD_some, Bool.or_eq_true, decide_eq_true_eq, or_comm, eq_comm, and_iff_left rfl]
  · have hne : k - t.base ≠ l - t.base := by omega
    simp [hne, Ne.symm hplace]

end Tried

/-! ### Exploring -/

namespace Program

variable {prog : Program} {cs : List Char} {fuel : ℕ} {x : ℕ × Place} {jobs : List (ℕ × Place)} {tried tried' : Tried}
  {p q : Place}

/-- A program matches from one place to another. -/
def Matches (prog : Program) (p q : Place) : Prop := Accepts prog.code (prog.start, p) q

lemma explore_tried (h : tried.has x.1 x.2.index = true) :
    prog.explore (fuel + 1) (x :: jobs) tried = prog.explore fuel jobs tried := by
  simp [explore, h]

lemma explore_accept (h : tried.has x.1 x.2.index = false) (hcode : prog.code[x.1]? = some .accept) :
    prog.explore (fuel + 1) (x :: jobs) tried = (some x.2, tried.add x.1 x.2.index) := by
  simp [explore, h, hcode]

/-- What an instruction leads to is done before anything else. -/
lemma explore_onward (h : tried.has x.1 x.2.index = false) (hcode : prog.code[x.1]? ≠ some .accept) :
    prog.explore (fuel + 1) (x :: jobs) tried
      = prog.explore fuel (onward prog.code x ++ jobs) (tried.add x.1 x.2.index) := by
  obtain ⟨i, p⟩ := x
  simp only [explore, onward]
  rw [if_neg (by simpa using h)]
  rcases hi : prog.code[i]? with _ | ⟨set, next⟩ | ⟨condition, ascii, next⟩ | ⟨first, second⟩ | _
  · rfl
  · simp only [Option.elim, Instr.onward]
    cases p.rest with
    | nil => rfl
    | cons c rest => simp only [apply_ite (· ++ jobs), List.cons_append, List.nil_append]; split <;> rfl
  · simp only [Option.elim, Instr.onward]
    split <;> rfl
  · rfl
  · exact absurd hi hcode

/-- What is found is a match from one of the jobs. -/
lemma exists_accepts_of_explore (h : (prog.explore fuel jobs tried).1 = some q) :
    ∃ x ∈ jobs, Accepts prog.code x q := by
  induction fuel generalizing jobs tried with
  | zero => cases h
  | succ fuel ih =>
    rcases jobs with _ | ⟨x, jobs⟩
    · cases h
    cases hnew : tried.has x.1 x.2.index with
    | true =>
      rw [explore_tried hnew] at h
      obtain ⟨y, hy, hq⟩ := ih h
      exact ⟨y, List.mem_cons_of_mem x hy, hq⟩
    | false =>
      by_cases hcode : prog.code[x.1]? = some .accept
      · rw [explore_accept hnew hcode] at h
        exact ⟨x, List.mem_cons_self, 0, hcode, Option.some.inj h⟩
      · rw [explore_onward hnew hcode] at h
        obtain ⟨y, hy, hq⟩ := ih h
        rcases List.mem_append.mp hy with hy | hy
        · exact ⟨x, List.mem_cons_self, hq.of_onward hy⟩
        · exact ⟨y, List.mem_cons_of_mem x hy, hq⟩

end Program

/-! ### Where a search does not go again -/

section

variable {code : Array Instr} {cs : List Char} {x y : ℕ × Place} {p q : Place}

/-- Instructions lead to places of the same text, and never back. -/
lemma in_of_onward (hx : x.2.In cs) (hy : y ∈ onward code x) : y.2.In cs ∧ x.2.index ≤ y.2.index := by
  obtain ⟨i, p⟩ := x
  simp only [onward] at hy
  rcases hi : code[i]? with _ | ⟨set, next⟩ | ⟨condition, ascii, next⟩ | ⟨first, second⟩ | _
  all_goals simp only [hi, Option.elim, Instr.onward] at hy
  · cases hy
  · split at hy
    · cases hy
    · next c rest hrest =>
      split at hy
      · obtain rfl := List.mem_singleton.mp hy
        exact ⟨hx.past hrest, Nat.le_succ _⟩
      · cases hy
  · split at hy
    · obtain rfl := List.mem_singleton.mp hy
      exact ⟨hx, le_rfl⟩
    · cases hy
  · rcases List.mem_pair.mp hy with rfl | rfl <;> exact ⟨hx, le_rfl⟩
  · cases hy

lemma in_of_accepts (hx : x.2.In cs) (h : Accepts code x q) : q.In cs ∧ x.2.index ≤ q.index := by
  obtain ⟨n, h⟩ := h
  induction n generalizing x with
  | zero =>
    obtain ⟨-, rfl⟩ := h
    exact ⟨hx, le_rfl⟩
  | succ n ih =>
    obtain ⟨y, hy, h⟩ := h
    obtain ⟨hin, hle⟩ := in_of_onward hx hy
    obtain ⟨hq, hle'⟩ := ih hin h
    exact ⟨hq, hle.trans hle'⟩

lemma length_onward_le (code : Array Instr) (x : ℕ × Place) : (onward code x).length ≤ 2 := by
  obtain ⟨i, p⟩ := x
  simp only [onward]
  rcases code[i]? with _ | ⟨set, next⟩ | ⟨condition, ascii, next⟩ | ⟨first, second⟩ | _
  all_goals simp only [Option.elim, Instr.onward]
  case some.eat => split <;> [simp; split <;> simp]
  case some.look => split <;> simp
  all_goals simp

lemma onward_of_size_le (h : code.size ≤ x.1) : onward code x = [] := by simp [onward, h]

/-- The pairs of a search in a text, from a base on. -/
def Ahead (cs : List Char) (base : ℕ) (x : ℕ × Place) : Prop := x.2.In cs ∧ base ≤ x.2.index

lemma Ahead.onward {base : ℕ} (hx : Ahead cs base x) (hy : y ∈ onward code x) : Ahead cs base y := by
  obtain ⟨hin, hle⟩ := in_of_onward hx.1 hy
  exact ⟨hin, hx.2.trans hle⟩

/-- Whether a pair was tried. -/
def Tried.Done (tried : Tried) (x : ℕ × Place) : Prop := tried.has x.1 x.2.index = true

lemma Tried.done_add {tried : Tried} (hx : Ahead cs tried.base x) (hy : Ahead cs tried.base y) :
    (tried.add x.1 x.2.index).Done y ↔ y = x ∨ tried.Done y := by
  rw [Done, has_add hx.2 hy.2]
  refine or_congr ⟨fun ⟨hi, hk⟩ => ?_, ?_⟩ Iff.rfl
  · exact Prod.ext hi (hy.1.eq hx.1 hk)
  · rintro rfl
    exact ⟨rfl, rfl⟩

/-- No tried pair is a match, and whatever one leads to is tried or still to do. -/
def Closed (code : Array Instr) (cs : List Char) (tried : Tried) (jobs : List (ℕ × Place)) : Prop :=
  ∀ x, Ahead cs tried.base x → tried.Done x →
    code[x.1]? ≠ some .accept ∧ ∀ y ∈ onward code x, tried.Done y ∨ y ∈ jobs

variable {tried tried' : Tried} {jobs : List (ℕ × Place)}

lemma closed_none (base : ℕ) : Closed code cs (.none base) jobs := by
  intro x _ hx
  simp [Tried.Done, Tried.none, Tried.has] at hx

lemma Closed.tail (h : Closed code cs tried (x :: jobs)) (hx : tried.Done x) : Closed code cs tried jobs := by
  intro y hy hdone
  obtain ⟨haccept, hnext⟩ := h y hy hdone
  refine ⟨haccept, fun z hz => ?_⟩
  rcases hnext z hz with hz | hz
  · exact .inl hz
  · rcases List.mem_cons.mp hz with rfl | hz
    · exact .inl hx
    · exact .inr hz

lemma Closed.onward (h : Closed code cs tried (x :: jobs)) (hx : Ahead cs tried.base x)
    (hcode : code[x.1]? ≠ some .accept) :
    Closed code cs (tried.add x.1 x.2.index) (Pattern.onward code x ++ jobs) := by
  intro y hy hdone
  have hadd {z} (hz : Ahead cs tried.base z) := Tried.done_add hx hz
  rcases (hadd hy).mp hdone with rfl | hdone
  · exact ⟨hcode, fun z hz => .inr (List.mem_append_left jobs hz)⟩
  obtain ⟨haccept, hnext⟩ := h y hy hdone
  refine ⟨haccept, fun z hz => ?_⟩
  have hz' : Ahead cs tried.base z := hy.onward hz
  rcases hnext z hz with hz | hz
  · exact .inl ((hadd hz').mpr (.inr hz))
  · rcases List.mem_cons.mp hz with rfl | hz
    · exact .inl ((hadd hz').mpr (.inl rfl))
    · exact .inr (List.mem_append_right _ hz)

/-- Once nothing is left to do, no way from a tried pair comes to a match. -/
lemma Closed.not_accepts (h : Closed code cs tried []) (hx : Ahead cs tried.base x) (hdone : tried.Done x) :
    ¬ Accepts code x q := by
  rintro ⟨n, hn⟩
  induction n generalizing x with
  | zero => exact (h x hx hdone).1 hn.1
  | succ n ih =>
    obtain ⟨y, hy, hn⟩ := hn
    rcases (h x hx hdone).2 y hy with hy' | hy'
    · exact ih (hx.onward hy) hy' hn
    · cases hy'

/-! ### Steps -/

/-- The number of pairs that a program has not tried yet, of so many places. -/
def untried (code : Array Instr) (tried : Tried) (length : ℕ) : ℕ :=
  ((Finset.range code.size ×ˢ Finset.range (length + 1)).filter
    fun x => tried.has x.1 (tried.base + x.2) = false).card

lemma untried_le (code : Array Instr) (tried : Tried) (length : ℕ) :
    untried code tried length ≤ code.size * (length + 1) :=
  (Finset.card_filter_le _ _).trans_eq (by rw [Finset.card_product, Finset.card_range, Finset.card_range])

lemma untried_add_le {i k : ℕ} (hk : tried.base ≤ k) (length : ℕ) :
    untried code (tried.add i k) length ≤ untried code tried length := by
  refine Finset.card_le_card (Finset.monotone_filter_right _ fun x _ hx => ?_)
  rw [← Bool.not_eq_true] at hx ⊢
  exact fun hold => hx ((Tried.has_add hk (Nat.le_add_right ..)).mpr (.inr hold))

/-- A new pair is one less. -/
lemma untried_add_lt {i k length : ℕ} (hi : i < code.size) (hk : tried.base ≤ k) (hk' : k ≤ tried.base + length)
    (hnew : tried.has i k = false) : untried code (tried.add i k) length < untried code tried length := by
  have hadd {j l} := Tried.has_add (t := tried) (i := i) (j := j) hk (Nat.le_add_right tried.base l)
  refine Finset.card_lt_card ⟨Finset.monotone_filter_right _ fun x _ hx => ?_, fun hsub => ?_⟩
  · rw [← Bool.not_eq_true] at hx ⊢
    exact fun hold => hx (hadd.mpr (.inr hold))
  · have hplace : tried.base + (k - tried.base) = k := Nat.add_sub_cancel' hk
    have hmem := hsub (show (i, k - tried.base) ∈ _ by
      simp only [Finset.mem_filter, Finset.mem_product, Finset.mem_range, hplace]
      exact ⟨⟨hi, by omega⟩, hnew⟩)
    have hleft := (Finset.mem_filter.mp hmem).2
    rw [← Bool.not_eq_true] at hleft
    exact hleft (hadd.mpr (.inl ⟨rfl, hplace⟩))

end

namespace Program

variable {prog : Program} {cs : List Char} {fuel length : ℕ} {x : ℕ × Place} {jobs : List (ℕ × Place)}
  {tried tried' : Tried} {p q : Place}

/-- A new pair pays for the jobs that it leaves, of which there are two at most. -/
lemma untried_onward_lt (hx : Ahead cs tried.base x) (hlength : cs.length ≤ tried.base + length)
    (hnew : tried.has x.1 x.2.index = false) : 2 * untried prog.code (tried.add x.1 x.2.index) length
      + (onward prog.code x).length < 2 * untried prog.code tried length + 1 := by
  rcases Nat.lt_or_ge x.1 prog.code.size with hi | hi
  · have htwo := length_onward_le prog.code x
    have hindex := hx.1.index_add
    have hlt := untried_add_lt hi hx.2 (by omega : x.2.index ≤ tried.base + length) hnew
    omega
  · have hle := @untried_add_le prog.code tried x.1 x.2.index hx.2 length
    rw [onward_of_size_le hi, List.length_nil]
    omega

/-- A search that finds nothing has tried all its jobs and leaves nothing to do. Each step does away with a job, or
tries a pair and leaves two jobs at most. -/
lemma closed_of_explore (hjobs : ∀ x ∈ jobs, Ahead cs tried.base x) (hlength : cs.length ≤ tried.base + length)
    (hclosed : Closed prog.code cs tried jobs) (hfuel : 2 * untried prog.code tried length + jobs.length < fuel)
    (h : prog.explore fuel jobs tried = (none, tried')) :
    tried'.base = tried.base ∧ Closed prog.code cs tried' [] ∧
      ∀ x, Ahead cs tried.base x → tried.Done x ∨ x ∈ jobs → tried'.Done x := by
  -- a job is taken off the list, or a place is marked, which pays for the two jobs that it adds
  induction fuel generalizing jobs tried with
  | zero => cases hfuel
  | succ fuel ih =>
    rcases jobs with _ | ⟨x, jobs⟩
    · obtain rfl : tried = tried' := congrArg Prod.snd h
      exact ⟨rfl, hclosed, fun x _ hx => hx.resolve_right nofun⟩
    obtain ⟨hx, hjobs⟩ := List.forall_mem_cons.mp hjobs
    rw [List.length_cons] at hfuel
    cases hnew : tried.has x.1 x.2.index with
    | true =>
      rw [explore_tried hnew] at h
      obtain ⟨hbase, hclosed', hdone⟩ := ih hjobs hlength (hclosed.tail hnew) (by omega) h
      refine ⟨hbase, hclosed', fun y hy hyjobs => hdone y hy ?_⟩
      rcases hyjobs with hyold | hyjobs
      · exact .inl hyold
      · rcases List.mem_cons.mp hyjobs with rfl | hyjobs
        · exact .inl hnew
        · exact .inr hyjobs
    | false =>
      by_cases hcode : prog.code[x.1]? = some .accept
      · rw [explore_accept hnew hcode] at h
        cases h
      rw [explore_onward hnew hcode] at h
      have hahead : ∀ y ∈ onward prog.code x ++ jobs, Ahead cs tried.base y := by
        intro y hy
        exact (List.mem_append.mp hy).elim hx.onward (hjobs y)
      have hless : 2 * untried prog.code (tried.add x.1 x.2.index) length
          + (onward prog.code x ++ jobs).length < fuel := by
        have hpays := @untried_onward_lt prog _ _ _ _ hx hlength hnew
        rw [List.length_append]
        omega
      obtain ⟨hbase, hclosed', hdone⟩ :=
        @ih _ (tried.add x.1 x.2.index) hahead hlength (hclosed.onward hx hcode) hless h
      refine ⟨hbase, hclosed', fun y hy hyjobs => hdone y hy ?_⟩
      rw [Tried.done_add hx hy]
      rcases hyjobs with hyold | hyjobs
      · exact .inl (.inr hyold)
      · rcases List.mem_cons.mp hyjobs with rfl | hyjobs
        · exact .inl (.inl rfl)
        · exact .inr (List.mem_append_right _ hyjobs)

/-! ### Leftmost matches -/

lemma matches_of_attempt (h : (prog.attempt length p tried).1 = some q) : prog.Matches p q := by
  obtain ⟨x, hx, hq⟩ := exists_accepts_of_explore h
  obtain rfl := List.mem_singleton.mp hx
  exact hq

lemma not_matches_of_attempt (hp : p.In cs) (hbase : tried.base ≤ p.index) (hlength : cs.length ≤ tried.base + length)
    (hclosed : Closed prog.code cs tried []) (h : prog.attempt length p tried = (none, tried')) :
    tried'.base = tried.base ∧ Closed prog.code cs tried' [] ∧ ∀ q, ¬ prog.Matches p q := by
  have hjobs : ∀ x ∈ [(prog.start, p)], Ahead cs tried.base x := by simpa using ⟨hp, hbase⟩
  have hfuel : 2 * untried prog.code tried length + [(prog.start, p)].length < prog.steps length := by
    have hle := untried_le prog.code tried length
    simp only [steps, List.length_singleton]
    omega
  have hstart : Closed prog.code cs tried [(prog.start, p)] := by
    intro x hx hdone
    exact (hclosed x hx hdone).imp_right fun hnext y hy => .inl ((hnext y hy).resolve_right nofun)
  obtain ⟨hsame, hclosed', hdone⟩ := closed_of_explore hjobs hlength hstart hfuel h
  refine ⟨hsame, hclosed', fun q => ?_⟩
  have hahead : Ahead cs tried.base (prog.start, p) := ⟨hp, hbase⟩
  exact hclosed'.not_accepts (hsame ▸ hahead) (hdone _ hahead (.inr List.mem_cons_self))

/-- What a search from an index on comes to: nothing where nothing matches, and the leftmost match otherwise. -/
def Finds (prog : Program) (cs : List Char) (first : ℕ) : Option (Place × Place) → Prop
  | none => ∀ p, p.In cs → first ≤ p.index → ∀ q, ¬ prog.Matches p q
  | some (a, b) => (a.In cs ∧ first ≤ a.index ∧ prog.Matches a b) ∧
      ∀ p, p.In cs → first ≤ p.index → p.index < a.index → ∀ q, ¬ prog.Matches p q

/-- Nothing matches at the first place. -/
lemma Finds.of_succ {found : Option (Place × Place)} (hp : p.In cs) (hno : ∀ q, ¬ prog.Matches p q)
    (h : prog.Finds cs (p.index + 1) found) : prog.Finds cs p.index found := by
  have hat (r : Place) (hr : r.In cs) (hle : p.index ≤ r.index) : p = r ∨ p.index + 1 ≤ r.index := by
    rcases hle.eq_or_lt with heq | hlt
    · exact .inl (hp.eq hr heq)
    · exact .inr hlt
  match found, h with
  | none, h =>
    intro r hr hle
    rcases hat r hr hle with rfl | hlt
    · exact hno
    · exact h r hr hlt
  | some (a, b), ⟨⟨ha, hfirst, hab⟩, h⟩ =>
    refine ⟨⟨ha, Nat.le_of_succ_le hfirst, hab⟩, fun r hr hle hlt => ?_⟩
    rcases hat r hr hle with rfl | hle
    · exact hno
    · exact h r hr hle hlt

lemma finds_of_attempt (hp : p.In cs) (h : (prog.attempt length p tried).1 = some q) :
    prog.Finds cs p.index (some (p, q)) :=
  ⟨⟨hp, le_rfl, matches_of_attempt h⟩, fun _ _ hle hlt => absurd hle (Nat.not_le.mpr hlt)⟩

lemma finds_findFrom {before : Option Char} {index offset : ℕ} {rest : List Char}
    (hp : Place.In cs ⟨before, rest, index, offset⟩) (hbase : tried.base ≤ index)
    (hlength : cs.length ≤ tried.base + length) (hclosed : Closed prog.code cs tried []) :
    prog.Finds cs index (prog.findFrom length before index offset tried rest) := by
  induction rest generalizing before index offset tried with
  | nil =>
    rw [findFrom]
    rcases hq : prog.attempt length ⟨before, [], index, offset⟩ tried with ⟨_ | q, tried'⟩
    · obtain ⟨-, -, hno⟩ := not_matches_of_attempt hp hbase hlength hclosed hq
      have hend := hp.index_add
      refine Finds.of_succ hp hno fun r hr hlt => ?_
      have hr := hr.index_add
      simp only [List.length_nil] at hend hlt
      omega
    · exact finds_of_attempt hp (congrArg Prod.fst hq)
  | cons c rest ih =>
    rw [findFrom]
    rcases hq : prog.attempt length ⟨before, c :: rest, index, offset⟩ tried with ⟨_ | q, tried'⟩
    · obtain ⟨hsame, hclosed', hno⟩ := not_matches_of_attempt hp hbase hlength hclosed hq
      exact Finds.of_succ hp hno
        (ih (hp.past rfl) (hsame ▸ hbase.trans (Nat.le_succ index)) (hsame ▸ hlength) hclosed')
    · exact finds_of_attempt hp (congrArg Prod.fst hq)

/-- **A search finds the leftmost match from a place on**, and finds none only where there is none. -/
theorem finds_find? (prog : Program) (hp : p.In cs) : prog.Finds cs p.index (prog.find? p) := by
  have hlength := hp.index_add
  exact finds_findFrom hp le_rfl hlength.symm.le (closed_none p.index)

/-! ### All matches -/

lemma matches_of_mem_occurrencesFrom {last : Option ℕ} {s : Span} (hp : p.In cs)
    (h : s ∈ prog.occurrencesFrom fuel last p) :
    ∃ a b, a.In cs ∧ prog.Matches a b ∧ s = ⟨a.offset, b.offset⟩ := by
  induction fuel generalizing last p with
  | zero => cases h
  | succ fuel ih =>
    have hfinds := prog.finds_find? hp
    unfold occurrencesFrom at h
    split at h
    · cases h
    · next a b hab =>
      rw [hab] at hfinds
      obtain ⟨⟨ha, -, hmatches⟩, -⟩ := hfinds
      split at h
      · split at h
        · cases h
        · next c rest hrest => exact ih (hp.past hrest) h
      · rcases List.mem_cons.mp h with rfl | h
        · exact ⟨a, b, ha, hmatches, rfl⟩
        · exact ih (in_of_accepts ha hmatches).1 h

/-- Whatever is listed is a match. -/
lemma matches_of_mem_occurrences {s : Span} (h : s ∈ prog.occurrences cs) :
    ∃ a b, a.In cs ∧ prog.Matches a b ∧ s = ⟨a.offset, b.offset⟩ :=
  matches_of_mem_occurrencesFrom (Place.in_start cs) h

/-- Where a match could begin, a listed one has begun and not ended. Each is the leftmost one behind the one before. -/
lemma exists_mem_occurrencesFrom {last : Option ℕ} {a b : Place}
    (hpos : ∀ a b, a.In cs → prog.Matches a b → a.index < b.index) (hp : p.In cs)
    (hfuel : cs.length - p.index < fuel) (ha : a.In cs) (hle : p.index ≤ a.index) (hab : prog.Matches a b) :
    ∃ c d, c.In cs ∧ prog.Matches c d ∧ c.index ≤ a.index ∧ a.index < d.index ∧
      ⟨c.offset, d.offset⟩ ∈ prog.occurrencesFrom fuel last p := by
  induction fuel generalizing last p with
  | zero => cases hfuel
  | succ fuel ih =>
    have hfinds := prog.finds_find? hp
    unfold occurrencesFrom
    cases hfound : prog.find? p with
    | none =>
      rw [hfound] at hfinds
      exact absurd hab (hfinds a ha hle b)
    | some found =>
      obtain ⟨c, d⟩ := found
      rw [hfound] at hfinds
      obtain ⟨⟨hc, hfirst, hcd⟩, hleftmost⟩ := hfinds
      have hlt := hpos c d hc hcd
      obtain ⟨hd, -⟩ := in_of_accepts hc hcd
      have hne : ¬ (c.offset = d.offset ∧ last = some d.offset) := fun h => (hc.offset_lt hd hlt).ne h.1
      have hbegun : c.index ≤ a.index := by
        by_contra hafter
        exact hleftmost a ha hle (Nat.not_le.mp hafter) b hab
      simp only [if_neg hne]
      rcases Nat.lt_or_ge a.index d.index with hwithin | hbehind
      · exact ⟨c, d, hc, hcd, hbegun, hwithin, List.mem_cons_self⟩
      · have hend := ha.index_add
        obtain ⟨e, f, he, hef, hbefore, hafter, hmem⟩ := @ih d (some d.offset) hd (by omega) hbehind
        exact ⟨e, f, he, hef, hbefore, hafter, List.mem_cons_of_mem _ hmem⟩

/-- **No match is left out.** Where no match is empty, a place where one could begin lies within one that is listed. -/
theorem exists_mem_occurrences {a b : Place} (hpos : ∀ a b, a.In cs → prog.Matches a b → a.index < b.index)
    (ha : a.In cs) (hab : prog.Matches a b) : ∃ c d, c.In cs ∧ prog.Matches c d ∧ c.index ≤ a.index ∧
      a.index < d.index ∧ ⟨c.offset, d.offset⟩ ∈ prog.occurrences cs :=
  exists_mem_occurrencesFrom hpos (Place.in_start cs) (by simp only [Place.start]; omega) ha (Nat.zero_le _) hab

end Program

end Guardrail.Pattern
