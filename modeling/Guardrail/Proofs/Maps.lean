import Guardrail.Keyed
import Guardrail.Risk.Layer
import Mathlib.Tactic.Lemma
import Mathlib.Data.Nat.Notation
import Mathlib.Data.List.Forall2
import Mathlib.Data.Option.Basic

/-!
Finite maps as ascending lists of pairs: what is read after a key is set, which keys there are, and maps that
agree on them with related values.
-/

namespace Guardrail

/-! ### Orders on keys -/

instance : Std.LawfulEqOrd Stage where
  compare_self {a} := by cases a <;> rfl
  eq_of_compare {a b} := by cases a <;> cases b <;> decide

lemma Layer.compare_eq_compare_rank (a b : Layer) : compare a b = compare a.rank b.rank := rfl

instance : Std.LawfulEqOrd Layer where
  compare_self {a} := by simp [Layer.compare_eq_compare_rank]
  eq_of_compare {a b} := by
    obtain ⟨s, _ | _⟩ := a <;> obtain ⟨t, _ | _⟩ := b <;> cases s <;> cases t <;> decide

instance : Std.TransOrd Layer where
  eq_swap := Std.OrientedOrd.eq_swap (α := ℕ)
  isLE_trans := Std.TransOrd.isLE_trans (α := ℕ)

namespace Keyed

variable {κ α β : Type} [Ord κ]

/-- Every key comes after those before it. -/
def Ascending (m : Keyed κ α) : Prop := m.Pairwise fun x y => compare x.1 y.1 = .lt

@[simp] lemma get?_nil (k : κ) : get? k ([] : Keyed κ α) = none := rfl

section

variable [Std.LawfulEqOrd κ]

lemma get?_cons_self (k : κ) (v : α) (m : Keyed κ α) : get? k ((k, v) :: m) = some v := by
  simp [get?]

lemma get?_cons_of_ne {k k' : κ} (h : k ≠ k') (v : α) (m : Keyed κ α) :
    get? k ((k', v) :: m) = get? k m := by
  simp [get?, h]

lemma get?_set_self (k : κ) (v : α) (m : Keyed κ α) : get? k (m.set k v) = some v := by
  induction m with
  | nil => exact get?_cons_self ..
  | cons x m ih =>
    obtain ⟨k', v'⟩ := x
    simp only [set]
    split
    · exact get?_cons_self ..
    · exact get?_cons_self ..
    · next h =>
      have hne : k ≠ k' := by
        rintro rfl
        simp at h
      rwa [get?_cons_of_ne hne]

lemma get?_set_of_ne {k k' : κ} (h : k' ≠ k) (v : α) (m : Keyed κ α) :
    get? k' (m.set k v) = get? k' m := by
  induction m with
  | nil => exact get?_cons_of_ne h ..
  | cons x m ih =>
    obtain ⟨k'', v''⟩ := x
    simp only [set]
    split
    · exact get?_cons_of_ne h ..
    · next heq =>
      obtain rfl := Std.LawfulEqCmp.eq_of_compare heq
      rw [get?_cons_of_ne h, get?_cons_of_ne h]
    · by_cases hk : k' = k''
      · subst hk
        rw [get?_cons_self, get?_cons_self]
      · rw [get?_cons_of_ne hk, get?_cons_of_ne hk, ih]

/-- Reading a map whose values were worked out from keys and values. -/
lemma get?_map (f : κ → α → β) (k : κ) (m : Keyed κ α) :
    get? k (m.map fun x => (x.1, f x.1 x.2)) = (get? k m).map (f k) := by
  induction m with
  | nil => rfl
  | cons x m ih =>
    obtain ⟨k', v⟩ := x
    by_cases hk : k = k'
    · subst hk
      simp [get?_cons_self]
    · simp [get?_cons_of_ne hk, ih]

lemma get?_mapValues (f : α → β) (k : κ) (m : Keyed κ α) :
    get? k (m.mapValues f) = (get? k m).map f :=
  get?_map (fun _ => f) k m

lemma mem_of_get? {k : κ} {v : α} {m : Keyed κ α} (h : get? k m = some v) : (k, v) ∈ m := by
  induction m with
  | nil => cases h
  | cons x m ih =>
    obtain ⟨k', v'⟩ := x
    by_cases hk : k = k'
    · subst hk
      rw [get?_cons_self] at h
      simp_all
    · rw [get?_cons_of_ne hk] at h
      exact List.mem_cons_of_mem _ (ih h)

lemma get?_of_mem {k : κ} {v : α} {m : Keyed κ α} (hm : (m.map (·.1)).Nodup) (h : (k, v) ∈ m) :
    get? k m = some v := by
  induction m with
  | nil => cases h
  | cons x m ih =>
    obtain ⟨k', v'⟩ := x
    obtain ⟨hfirst, hrest⟩ := List.nodup_cons.mp hm
    rcases List.mem_cons.mp h with heq | hmem
    · obtain ⟨rfl, rfl⟩ := Prod.mk.inj heq
      exact get?_cons_self ..
    · have hk : k ≠ k' := by
        rintro rfl
        exact hfirst (List.mem_map.mpr ⟨_, hmem, rfl⟩)
      rw [get?_cons_of_ne hk, ih hrest hmem]

/-- Setting a key that is there leaves the keys as they are. -/
lemma keys_set_of_mem [Std.TransOrd κ] {m : Keyed κ α} (hm : m.Ascending) {k : κ}
    (hk : k ∈ m.map (·.1)) (v : α) : (m.set k v).map (·.1) = m.map (·.1) := by
  induction m with
  | nil => cases hk
  | cons x m ih =>
    obtain ⟨k', v'⟩ := x
    obtain ⟨hfirst, hm⟩ := List.pairwise_cons.mp hm
    simp only [set]
    rcases List.mem_cons.mp hk with rfl | hk
    · simp
    · obtain ⟨y, hy, rfl⟩ := List.mem_map.mp hk
      have hgt : compare y.1 k' = .gt := Std.OrientedCmp.gt_of_lt (hfirst y hy)
      simp [hgt, ih hm hk]

end

lemma mem_set {k : κ} {v : α} {m : Keyed κ α} {x : κ × α} (h : x ∈ m.set k v) : x = (k, v) ∨ x ∈ m := by
  induction m with
  | nil => exact .inl (List.mem_singleton.mp h)
  | cons y m ih =>
    obtain ⟨k', v'⟩ := y
    simp only [set] at h
    split at h
    · exact List.mem_cons.mp h
    · exact (List.mem_cons.mp h).imp_right (List.mem_cons_of_mem _)
    · rcases List.mem_cons.mp h with rfl | h
      · exact .inr List.mem_cons_self
      · exact (ih h).imp_right (List.mem_cons_of_mem _)

lemma mem_foldl_set {pairs : List (κ × α)} {m : Keyed κ α} {x : κ × α}
    (h : x ∈ pairs.foldl (fun m p => m.set p.1 p.2) m) : x ∈ m ∨ x ∈ pairs := by
  induction pairs generalizing m with
  | nil => exact .inl h
  | cons p pairs ih =>
    rcases ih h with hset | hrest
    · rcases mem_set hset with rfl | hm
      · exact .inr List.mem_cons_self
      · exact .inl hm
    · exact .inr (List.mem_cons_of_mem p hrest)

lemma mem_ofList {pairs : List (κ × α)} {x : κ × α} (h : x ∈ ofList pairs) : x ∈ pairs :=
  (mem_foldl_set h).resolve_left List.not_mem_nil

lemma mem_keys_set {k k' : κ} {v : α} {m : Keyed κ α} (h : k' ∈ (m.set k v).map (·.1)) :
    k' = k ∨ k' ∈ m.map (·.1) := by
  obtain ⟨x, hx, rfl⟩ := List.mem_map.mp h
  exact (mem_set hx).imp (congrArg Prod.fst) List.mem_map_of_mem

lemma Ascending.set [Std.TransOrd κ] {m : Keyed κ α} (hm : m.Ascending) (k : κ) (v : α) :
    (m.set k v).Ascending := by
  induction m with
  | nil => exact List.pairwise_singleton ..
  | cons x m ih =>
    obtain ⟨k', v'⟩ := x
    obtain ⟨hfirst, hm'⟩ := List.pairwise_cons.mp hm
    simp only [Keyed.set]
    split
    · next hlt =>
      refine List.pairwise_cons.mpr ⟨fun y hy => ?_, hm⟩
      rcases List.mem_cons.mp hy with rfl | hy
      · exact hlt
      · exact Std.TransCmp.lt_trans hlt (hfirst y hy)
    · next heq =>
      refine List.pairwise_cons.mpr ⟨fun y hy => ?_, hm'⟩
      exact Std.TransCmp.lt_of_eq_of_lt heq (hfirst y hy)
    · next hgt =>
      refine List.pairwise_cons.mpr ⟨fun y hy => ?_, ih hm'⟩
      rcases mem_keys_set (List.mem_map_of_mem hy) with hk | hk
      · rw [hk]
        exact Std.OrientedCmp.lt_of_gt hgt
      · obtain ⟨z, hz, hzy⟩ := List.mem_map.mp hk
        rw [← hzy]
        exact hfirst z hz

/-! ### Maps whose values are related -/

section

variable {R : α → β → Prop} {m : Keyed κ α} {m' : Keyed κ β}

/-- Two maps have the same keys, and related values under them. -/
def Related (R : α → β → Prop) (m : Keyed κ α) (m' : Keyed κ β) : Prop :=
  List.Forall₂ (fun x y => y.1 = x.1 ∧ R x.2 y.2) m m'

lemma Related.get? (h : Related R m m') (k : κ) : Option.Rel R (m.get? k) (m'.get? k) := by
  induction h with
  | nil => exact .none
  | @cons x y m m' hxy _ ih =>
    obtain ⟨k', v⟩ := x
    obtain ⟨_, v'⟩ := y
    obtain ⟨rfl, hv⟩ := hxy
    simp only [Keyed.get?]
    split
    · exact .some hv
    · exact ih

lemma Related.set (h : Related R m m') (k : κ) {v : α} {v' : β} (hv : R v v') :
    Related R (m.set k v) (m'.set k v') := by
  induction h with
  | nil => exact .cons ⟨rfl, hv⟩ .nil
  | @cons x y m m' hxy htail ih =>
    obtain ⟨k', w⟩ := x
    obtain ⟨_, w'⟩ := y
    obtain ⟨rfl, hw⟩ := hxy
    simp only [Keyed.set]
    split
    · exact .cons ⟨rfl, hv⟩ (.cons ⟨rfl, hw⟩ htail)
    · exact .cons ⟨rfl, hv⟩ htail
    · exact .cons ⟨rfl, hw⟩ ih

omit [Ord κ] in
lemma Related.keys (h : Related R m m') : m'.map (·.1) = m.map (·.1) := by
  induction h with
  | nil => rfl
  | cons hxy _ ih => rw [List.map_cons, List.map_cons, hxy.1, ih]

end

end Keyed

end Guardrail
