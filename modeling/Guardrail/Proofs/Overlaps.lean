import Guardrail.Finding.Overlap
import Mathlib.Data.List.Basic
import Mathlib.Tactic.Lemma

/-!
What overlap resolution keeps.

Findings are gone through from the one that ranks first. What is kept is some of them, no two of
which overlap, in the order of their places; what is left out overlaps something that is kept and
ranks no lower.
-/

namespace Guardrail

/-! ### Spans -/

namespace Span

lemma overlaps_iff {a b : Span} : a.overlaps b = true ↔ a.start < b.stop ∧ b.start < a.stop := by
  simp [overlaps]

lemma overlaps_comm (a b : Span) : a.overlaps b = b.overlaps a := by
  rw [Bool.eq_iff_iff, overlaps_iff, overlaps_iff]
  exact And.comm

end Span

namespace Finding

/-! ### The two orders -/

instance : Std.TransCmp precedence :=
  inferInstanceAs <| Std.TransCmp <|
    compareLex (fun a b => compareOn (fun f : Finding => totalOrder f.severity) b a) <|
    compareLex (fun a b => compareOn (fun f : Finding => totalOrder f.confidence) b a) <|
    compareLex (fun a b => compareOn (fun f : Finding => f.span.length) b a) <|
    compareLex (compareOn fun f : Finding => f.span.start) (compareOn fun f : Finding => f.rule)

instance : Std.TransCmp placeOrder :=
  inferInstanceAs <| Std.TransCmp <|
    compareLex (compareOn fun f : Finding => f.span.start)
      (compareOn fun f : Finding => f.span.stop)

/-- Of two findings one ranks no lower than the other. -/
def RanksBefore (a b : Finding) : Prop := (precedence a b).isLE = true

instance : DecidableRel RanksBefore := fun _ _ => inferInstanceAs (Decidable (_ = true))

lemma pairwise_mergeSort {cmp : Finding → Finding → Ordering} [Std.TransCmp cmp]
    (l : List Finding) :
    (l.mergeSort fun a b => (cmp a b).isLE).Pairwise fun a b => (cmp a b).isLE = true := by
  refine List.pairwise_mergeSort (fun a b c => Std.TransCmp.isLE_trans) (fun a b => ?_) l
  have hswap : cmp b a = (cmp a b).swap := Std.OrientedCmp.eq_swap
  rw [hswap]
  cases cmp a b <;> rfl

lemma placeOrder_isLE {a b : Finding} : (placeOrder a b).isLE = true ↔
    a.span.start < b.span.start ∨ a.span.start = b.span.start ∧ a.span.stop ≤ b.span.stop := by
  simp [placeOrder, Ordering.isLE_then_iff_and, Nat.isLE_compare, Nat.compare_eq_lt]
  omega

/-! ### Keeping one finding after another -/

lemma keep_eq (kept : List Finding) (f : Finding) :
    keep kept f = kept ∧ (∃ k ∈ kept, k.span.overlaps f.span = true) ∨
      keep kept f = kept ++ [f] ∧ ∀ k ∈ kept, k.span.overlaps f.span = false := by
  unfold keep
  split
  · next h => exact .inl ⟨rfl, by simpa using h⟩
  · next h => exact .inr ⟨rfl, by simpa using h⟩

lemma mem_keep {kept : List Finding} {f k : Finding} (h : k ∈ keep kept f) : k ∈ kept ∨ k = f := by
  rcases keep_eq kept f with ⟨hk, -⟩ | ⟨hk, -⟩
  · exact .inl (hk ▸ h)
  · simpa [hk] using h

lemma subset_keep (kept : List Finding) (f : Finding) : kept ⊆ keep kept f := by
  rcases keep_eq kept f with ⟨hk, -⟩ | ⟨hk, -⟩ <;> simp [hk]

lemma subset_foldl_keep (xs kept : List Finding) : kept ⊆ xs.foldl keep kept := by
  induction xs generalizing kept with
  | nil => exact List.Subset.refl _
  | cons x xs ih => exact List.Subset.trans (subset_keep kept x) (ih _)

lemma mem_foldl_keep {xs kept : List Finding} {f : Finding} (h : f ∈ xs.foldl keep kept) :
    f ∈ kept ∨ f ∈ xs := by
  induction xs generalizing kept with
  | nil => exact .inl h
  | cons x xs ih =>
    rcases ih h with hk | hxs
    · rcases mem_keep hk with hk | rfl
      · exact .inl hk
      · exact .inr List.mem_cons_self
    · exact .inr (List.mem_cons_of_mem x hxs)

/-- Two findings that do not overlap. -/
def Apart (a b : Finding) : Prop := a.span.overlaps b.span = false

lemma Apart.symm {a b : Finding} (h : Apart a b) : Apart b a := (Span.overlaps_comm _ _).trans h

lemma pairwise_foldl_keep {xs kept : List Finding} (h : kept.Pairwise Apart) :
    (xs.foldl keep kept).Pairwise Apart := by
  induction xs generalizing kept with
  | nil => exact h
  | cons x xs ih =>
    refine ih ?_
    rcases keep_eq kept x with ⟨hk, -⟩ | ⟨hk, hx⟩
    · rwa [hk]
    · rw [hk]
      exact List.pairwise_append.mpr ⟨h, List.pairwise_singleton _ _, by simpa [Apart] using hx⟩

lemma foldl_keep_sublist (xs kept : List Finding) : (xs.foldl keep kept).Sublist (kept ++ xs) := by
  induction xs generalizing kept with
  | nil => simp
  | cons x xs ih =>
    refine (ih (keep kept x)).trans ?_
    rcases keep_eq kept x with ⟨hk, -⟩ | ⟨hk, -⟩
    · rw [hk]
      exact (List.Sublist.refl kept).append (List.sublist_cons_self x xs)
    · simp [hk]

/-- What is left out overlaps something kept that ranks no lower: either it was kept before, or it
came earlier in the list. -/
lemma exists_dropped {xs kept : List Finding} (hxs : xs.Pairwise RanksBefore)
    (hkept : ∀ k ∈ kept, ∀ f ∈ xs, RanksBefore k f) :
    ∃ dropped, (xs.foldl keep kept ++ dropped).Perm (kept ++ xs) ∧
      ∀ f ∈ dropped, ∃ k ∈ xs.foldl keep kept, k.span.overlaps f.span = true ∧ RanksBefore k f := by
  induction xs generalizing kept with
  | nil => exact ⟨[], by simp, by simp⟩
  | cons x xs ih =>
    obtain ⟨hx, hxs⟩ := List.pairwise_cons.mp hxs
    have hnext : ∀ k ∈ keep kept x, ∀ f ∈ xs, RanksBefore k f := by
      intro k hk f hf
      rcases mem_keep hk with hk | rfl
      · exact hkept k hk f (List.mem_cons_of_mem x hf)
      · exact hx f hf
    obtain ⟨dropped, hperm, hdropped⟩ := ih hxs hnext
    rw [List.foldl_cons]
    rcases keep_eq kept x with ⟨hk, k, hmem, hover⟩ | ⟨hk, -⟩
    · refine ⟨x :: dropped, ?_, List.forall_mem_cons.mpr ⟨⟨k, ?_, hover, ?_⟩, hdropped⟩⟩
      · rw [hk] at hperm ⊢
        exact List.perm_middle.trans ((hperm.cons x).trans List.perm_middle.symm)
      · exact subset_foldl_keep xs _ (subset_keep kept x hmem)
      · exact hkept k hmem x List.mem_cons_self
    · refine ⟨dropped, ?_, hdropped⟩
      rw [hk] at hperm ⊢
      simpa using hperm

/-! ### Resolution -/

lemma mem_resolve_iff {found : List Finding} {f : Finding} : f ∈ resolve found ↔
    f ∈ (found.mergeSort fun a b => (precedence a b).isLE).foldl keep [] := by
  simp [resolve]

lemma mem_of_mem_resolve {found : List Finding} {f : Finding} (h : f ∈ resolve found) :
    f ∈ found := by
  rcases mem_foldl_keep (mem_resolve_iff.mp h) with h | h
  · cases h
  · exact List.mem_mergeSort.mp h

/-- What is found is kept or left out; what is left out overlaps something that is kept and ranks no lower. -/
lemma exists_dropped_resolve (found : List Finding) : ∃ dropped, (resolve found ++ dropped).Perm found ∧
    ∀ f ∈ dropped, ∃ k ∈ resolve found, k.span.overlaps f.span = true ∧ RanksBefore k f := by
  have hsorted : (found.mergeSort fun a b => (precedence a b).isLE).Pairwise RanksBefore := pairwise_mergeSort found
  obtain ⟨dropped, hperm, hdropped⟩ := exists_dropped hsorted (List.forall_mem_nil _)
  refine ⟨dropped, ?_, by simpa only [mem_resolve_iff] using hdropped⟩
  exact ((List.mergeSort_perm _ _).append_right dropped).trans (hperm.trans (List.mergeSort_perm found _))

/-- What is not kept overlaps something that is kept and ranks no lower. -/
lemma mem_resolve_or {found : List Finding} {f : Finding} (h : f ∈ found) : f ∈ resolve found ∨
    ∃ k ∈ resolve found, k.span.overlaps f.span = true ∧ RanksBefore k f := by
  obtain ⟨dropped, hperm, hdropped⟩ := exists_dropped_resolve found
  exact (List.mem_append.mp (hperm.mem_iff.mpr h)).imp_right (hdropped f)

lemma pairwise_apart_resolve (found : List Finding) : (resolve found).Pairwise Apart := by
  refine ((List.mergeSort_perm _ _).pairwise_iff Apart.symm).mpr ?_
  exact pairwise_foldl_keep .nil

lemma pairwise_place_resolve (found : List Finding) :
    (resolve found).Pairwise fun a b => (placeOrder a b).isLE = true :=
  pairwise_mergeSort _

/-- What is kept lies side by side: each ends before the next begins. -/
lemma pairwise_resolve {found : List Finding} (h : ∀ f ∈ found, f.span.start ≤ f.span.stop) :
    (resolve found).Pairwise fun a b => a.span.stop ≤ b.span.start := by
  have hpair := (pairwise_apart_resolve found).and (pairwise_place_resolve found)
  refine hpair.imp_of_mem fun {a b} ha hb ⟨hapart, hplace⟩ => ?_
  have hb := h b (mem_of_mem_resolve hb)
  rw [placeOrder_isLE] at hplace
  rw [Apart, ← Bool.not_eq_true, Span.overlaps_iff] at hapart
  omega

/-- Resolution of findings that are in order already. -/
lemma resolve_of_pairwise {found : List Finding} (h : found.Pairwise RanksBefore)
    (hplace : (found.foldl keep []).Pairwise fun a b => (placeOrder a b).isLE = true) :
    resolve found = found.foldl keep [] := by
  unfold resolve
  rw [List.mergeSort_of_pairwise h, List.mergeSort_of_pairwise hplace]

end Finding

end Guardrail
