import Guardrail.Proofs.Matches
import Guardrail.Proofs.Overlaps
import Mathlib.Data.List.Sort

/-!
Resolution of overlaps, as a function of what was found.

Two stable sorts stand around the choice of what is kept. Findings that tie by place come out in the order in which
they rank, so that resolving once more changes nothing; and findings that tie in every respect are the same finding,
so that the order in which they were found does not show.
-/

namespace Guardrail

namespace Finding

/-! ### Stable sorting -/

section

variable {cmp : Finding → Finding → Ordering} [Std.TransCmp cmp] {l m : List Finding}

/-- Findings that are in order already among themselves stay in that order. -/
lemma filter_mergeSort {p : Finding → Bool} (h : (l.filter p).Pairwise fun a b => (cmp a b).isLE = true) :
    (l.mergeSort fun a b => (cmp a b).isLE).filter p = l.filter p := by
  have hsub : (l.filter p).Sublist (l.mergeSort fun a b => (cmp a b).isLE) := by
    refine List.sublist_mergeSort (fun a b c => Std.TransCmp.isLE_trans) (fun a b => ?_) h List.filter_sublist
    have hswap : cmp b a = (cmp a b).swap := Std.OrientedCmp.eq_swap
    rw [hswap]
    cases cmp a b <;> rfl
  have hfilter := hsub.filter p
  simp only [List.filter_filter, Bool.and_self] at hfilter
  refine (hfilter.eq_of_length ?_).symm
  exact ((List.mergeSort_perm l _).filter p).length_eq.symm

/-- The findings that tie with one. -/
def tied (cmp : Finding → Finding → Ordering) (x : Finding) (l : List Finding) : List Finding :=
  l.filter fun a => cmp x a == .eq

omit [Std.TransCmp cmp] in
lemma mem_tied {x a : Finding} : a ∈ tied cmp x l ↔ a ∈ l ∧ cmp x a = .eq := by simp [tied]

lemma pairwise_tied (x : Finding) (l : List Finding) :
    (tied cmp x l).Pairwise fun a b => (cmp a b).isLE = true := by
  refine List.pairwise_of_forall_mem_list fun a ha b hb => ?_
  have hax : cmp a x = .eq := Std.OrientedCmp.eq_comm.mp (mem_tied.mp ha).2
  have hab : cmp a b = .eq := Std.TransCmp.eq_trans hax (mem_tied.mp hb).2
  rw [hab]
  rfl

/-- Lists in order are the same if among those that tie they are. -/
lemma eq_of_tied (hl : l.Pairwise fun a b => (cmp a b).isLE = true)
    (hm : m.Pairwise fun a b => (cmp a b).isLE = true) (h : ∀ x, tied cmp x l = tied cmp x m) : l = m := by
  have hmem {l m : List Finding} (h : ∀ x, tied cmp x l = tied cmp x m) {a : Finding} (ha : a ∈ l) : a ∈ m := by
    have htied : a ∈ tied cmp a l := mem_tied.mpr ⟨ha, Std.ReflCmp.compare_self⟩
    exact (mem_tied.mp (h a ▸ htied)).1
  induction l generalizing m with
  | nil =>
    cases m with
    | nil => rfl
    | cons b m => exact absurd (hmem (fun x => (h x).symm) List.mem_cons_self) List.not_mem_nil
  | cons a l ih =>
    cases m with
    | nil => exact absurd (hmem h List.mem_cons_self) List.not_mem_nil
    | cons b m =>
      obtain ⟨hal, hltail⟩ := List.pairwise_cons.mp hl
      obtain ⟨hbm, hmtail⟩ := List.pairwise_cons.mp hm
      -- each of the two comes first in a list that holds the other
      have hself (c : Finding) : cmp c c = .eq := Std.ReflCmp.compare_self
      have hle (c : Finding) : (cmp c c).isLE = true := by rw [hself]; rfl
      have hba : (cmp b a).isLE = true :=
        (List.mem_cons.mp (hmem h List.mem_cons_self)).elim (fun heq => heq ▸ hle a) (hbm a)
      have hab : (cmp a b).isLE = true :=
        (List.mem_cons.mp (hmem (fun x => (h x).symm) List.mem_cons_self)).elim (fun heq => heq ▸ hle b) (hal b)
      have heq : cmp a b = .eq := Std.OrientedCmp.isLE_antisymm hab hba
      have hfirst := h a
      simp only [tied, List.filter_cons, hself, heq, beq_self_eq_true, if_true] at hfirst
      obtain rfl := (List.cons.inj hfirst).1
      refine congrArg (a :: ·) (ih hltail hmtail fun x => ?_)
      have hx := h x
      simp only [tied, List.filter_cons] at hx
      split at hx
      · exact (List.cons.inj hx).2
      · exact hx

end

/-! ### Once and once more -/

/-- Findings that lie apart are all kept. -/
lemma foldl_keep_of_apart {xs kept : List Finding} (h : (kept ++ xs).Pairwise Apart) :
    xs.foldl keep kept = kept ++ xs := by
  induction xs generalizing kept with
  | nil => simp
  | cons x xs ih =>
    have hx : ∀ k ∈ kept, k.span.overlaps x.span = false :=
      fun k hk => (List.pairwise_append.mp h).2.2 k hk x List.mem_cons_self
    have hkeep : keep kept x = kept ++ [x] := if_neg (by simpa using hx)
    rw [List.foldl_cons, hkeep, ih (by simpa using h), List.append_assoc]
    rfl

lemma tied_resolve (x : Finding) (found : List Finding) : tied placeOrder x (resolve found)
    = tied placeOrder x ((found.mergeSort fun a b => (precedence a b).isLE).foldl keep []) :=
  filter_mergeSort (pairwise_tied x _)

/-- Of findings that are kept and tie by place the one that ranks first comes first. -/
lemma pairwise_tied_resolve (x : Finding) (found : List Finding) :
    (tied placeOrder x (resolve found)).Pairwise RanksBefore := by
  rw [tied_resolve]
  refine List.Pairwise.filter _ (List.Pairwise.sublist ?_ (pairwise_mergeSort found))
  exact foldl_keep_sublist _ []

/-- Resolution changes nothing more. -/
lemma resolve_resolve (found : List Finding) : resolve (resolve found) = resolve found := by
  have hapart : ([] ++ (resolve found).mergeSort fun a b => (precedence a b).isLE).Pairwise Apart :=
    ((List.mergeSort_perm _ _).pairwise_iff Apart.symm).mpr (pairwise_apart_resolve found)
  refine eq_of_tied (pairwise_place_resolve _) (pairwise_place_resolve _) fun x => ?_
  calc tied placeOrder x (resolve (resolve found))
      = tied placeOrder x ((resolve found).mergeSort fun a b => (precedence a b).isLE) := by
        rw [tied_resolve, foldl_keep_of_apart hapart, List.nil_append]
    _ = tied placeOrder x (resolve found) := filter_mergeSort (pairwise_tied_resolve x found)

/-- **What resolution keeps.** Of a list of findings, whatever their places and numbers, some are kept and the others
are left out; what is kept is ordered by place and no two of it overlap; and each finding that is left out overlaps
one that is kept and ranks no lower. Resolved once more, what is kept stays as it is. -/
theorem resolve_keeps (found : List Finding) :
    (∃ dropped, (resolve found ++ dropped).Perm found ∧
      ∀ f ∈ dropped, ∃ k ∈ resolve found, k.span.overlaps f.span = true ∧ k.RanksBefore f) ∧
      (resolve found).Pairwise (fun a b =>
        a.span.start < b.span.start ∨ a.span.start = b.span.start ∧ a.span.stop ≤ b.span.stop) ∧
      (resolve found).Pairwise (fun a b => a.span.overlaps b.span = false) ∧
      resolve (resolve found) = resolve found := by
  refine ⟨exists_dropped_resolve found, ?_, pairwise_apart_resolve found, resolve_resolve found⟩
  exact (pairwise_place_resolve found).imp placeOrder_isLE.mp

/-! ### The order in which findings are found -/

end Finding

lemma totalOrder_inj {x y : Float} (h : totalOrder x = totalOrder y) : x = y := by
  have hx := x.toBits.toNat_lt
  have hy := y.toBits.toNat_lt
  simp only [totalOrder, Nat.pow_eq] at h
  refine Float.toBits_inj.mp (UInt64.toNat_inj.mp ?_)
  split at h <;> split at h <;> omega

namespace Finding

/-- Findings that tie in rank are the same, where a rule tells the category. -/
lemma eq_of_precedence {a b : Finding} (h : precedence a b = .eq) (hrule : a.rule = b.rule → a.category = b.category)
    (ha : a.span.start ≤ a.span.stop) (hb : b.span.start ≤ b.span.stop) : a = b := by
  simp only [precedence, Ordering.then_eq_eq, Std.LawfulEqCmp.compare_eq_iff_eq] at h
  obtain ⟨hseverity, hconfidence, hlength, hstart, hid⟩ := h
  obtain ⟨category, ⟨start, stop⟩, confidence, severity, rule⟩ := a
  obtain ⟨category', ⟨start', stop'⟩, confidence', severity', rule'⟩ := b
  simp only [Span.length] at *
  obtain rfl := totalOrder_inj hseverity
  obtain rfl := totalOrder_inj hconfidence
  obtain rfl := hid
  obtain rfl := hrule rfl
  obtain rfl := hstart
  obtain rfl : stop = stop' := by omega
  rfl

/-- What is kept does not depend on the order in which findings are found. -/
lemma resolve_perm {found found' : List Finding} (hperm : found.Perm found')
    (hspan : ∀ f ∈ found, f.span.start ≤ f.span.stop)
    (hrule : ∀ f ∈ found, ∀ g ∈ found, f.rule = g.rule → f.category = g.category) :
    resolve found = resolve found' := by
  have hsorted : (found.mergeSort fun a b => (precedence a b).isLE)
      = found'.mergeSort fun a b => (precedence a b).isLE := by
    refine List.Perm.eq_of_pairwise (fun a b ha hb hab hba => ?_) (pairwise_mergeSort found)
      (pairwise_mergeSort found') ((List.mergeSort_perm _ _).trans (hperm.trans (List.mergeSort_perm _ _).symm))
    have ha := List.mem_mergeSort.mp ha
    have hb := hperm.mem_iff.mpr (List.mem_mergeSort.mp hb)
    exact eq_of_precedence (Std.OrientedCmp.isLE_antisymm hab hba) (hrule a ha b hb) (hspan a ha) (hspan b hb)
  rw [resolve, resolve, hsorted]

end Finding

end Guardrail
