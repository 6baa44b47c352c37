import Guardrail.Config.Source
import Guardrail.Proofs.Acceptance
import Guardrail.Proofs.JsonGrammar

/-!
Records in JSON text.

What a decoder gives for the document of a text is what the document states. An object states a field by the only
member under its name; no known name stands in it twice, and a field that is not there has its default or is missed.
-/

namespace Guardrail.Decode

open Json (Document TextOf)

/-- One member is under the name, and this is its document. -/
structure Sole (ms : List (String × Document)) (name : String) (d : Document) : Prop where
  mem : (name, d) ∈ ms
  once : (ms.map Prod.fst).count name = 1

lemma count_le_one_of_absent {ms : List (String × Document)} {name : String} (h : name ∉ ms.map Prod.fst) :
    (ms.map Prod.fst).count name ≤ 1 := by
  rw [List.count_eq_zero.mpr h]
  exact Nat.zero_le 1

variable {α β : Type} {item : Decoder α} {d : Document} {ms : List (String × Document)} {ds : List Document}

/-! ### Literals and arrays -/

lemma number_ok (hd : d.Complete) {x : Float} : number .text d = .ok x ↔ ∃ n, d = .num n ∧ x = n.toFloat := by
  cases hd <;> simp [number, mismatch, eq_comm]

lemma string_ok (hd : d.Complete) {s : String} : string .text d = .ok s ↔ d = .str s := by
  cases hd <;> simp [string, mismatch]

lemma items_ok {o : Origin} {xs : List α} :
    items item o ds = .ok xs ↔ List.Forall₂ (fun x d => item o d = .ok x) xs ds := by
  induction ds generalizing xs with
  | nil => simp [items, eq_comm]
  | cons d ds ih =>
    rw [items, bind_ok, List.forall₂_cons_right_iff]
    constructor
    · rintro ⟨x, hx, h⟩
      obtain ⟨xs', hxs, h⟩ := bind_ok.mp h
      exact ⟨x, xs', hx, ih.mp hxs, (Except.ok.inj h).symm⟩
    · rintro ⟨x, xs', hx, hxs, rfl⟩
      exact ⟨x, hx, bind_ok.mpr ⟨xs', ih.mpr hxs, rfl⟩⟩

lemma list_ok (hd : d.Complete) {xs : List α} : list item .text d = .ok xs ↔
    ∃ ds, d = .arr ds true ∧ List.Forall₂ (fun x d => item .text d = .ok x) xs ds := by
  cases hd with
  | arr ds hds => simp [list, bind_ok, items_ok, pure, Except.pure]
  | _ => simp [list, mismatch]

/-! ### Records -/

namespace Fields

variable {fields : Fields α} {o : Origin} {n : ℕ}

lemma run_map_ok {f : α → β} {s : Source} {b : β} :
    (f <$> fields).run o s n = .ok b ↔ ∃ a, fields.run o s n = .ok a ∧ f a = b :=
  ⟨map_ok, by rintro ⟨a, ha, rfl⟩; simp [Functor.map, Fields.map, ha, Except.map]⟩

lemma run_seq_ok {f : Fields (α → β)} {s : Source} {b : β} : (f <*> fields).run o s n = .ok b ↔
    ∃ g a, f.run o s n = .ok g ∧ fields.run o s (n + f.names.length) = .ok a ∧ g a = b := by
  simp only [Seq.seq, Fields.seq]
  split <;> simp_all

lemma find?_eq_none {name : String} {place : ℕ} : find? name place ms = none ↔ name ∉ ms.map Prod.fst := by
  induction ms generalizing place with
  | nil => simp [find?]
  | cons m ms ih =>
    by_cases hm : m.1 = name
    · simp [find?, hm]
    · simp [find?, hm, ih, Ne.symm hm]

lemma mem_of_find?_eq_some {name : String} {place : ℕ} {found : ℕ × Document}
    (h : find? name place ms = some found) : (name, found.2) ∈ ms := by
  induction ms generalizing place with
  | nil => cases h
  | cons m ms ih =>
    simp only [find?] at h
    split at h
    · next hm =>
      cases h
      exact hm ▸ List.mem_cons_self
    · exact List.mem_cons_of_mem m (ih h)

lemma unique_of_once {name : String} {d' : Document} (honce : (ms.map Prod.fst).count name ≤ 1) (h : (name, d) ∈ ms)
    (h' : (name, d') ∈ ms) : d = d' := by
  induction ms with
  | nil => cases h
  | cons m ms ih =>
    have hpos {d : Document} (h : (name, d) ∈ ms) : 0 < (ms.map Prod.fst).count name :=
      List.count_pos_iff.mpr (List.mem_map_of_mem h)
    rw [List.map_cons, List.count_cons] at honce
    rcases List.mem_cons.mp h with hhead | htail <;> rcases List.mem_cons.mp h' with hhead' | htail'
    · exact (Prod.mk.inj (hhead.trans hhead'.symm)).2
    · have := hpos htail'
      simp [← hhead] at honce
      omega
    · have := hpos htail
      simp [← hhead'] at honce
      omega
    · exact ih (by omega) htail htail'

/-- A field is given by its only member, or by its default where there is none. -/
lemma run_field_members_ok {name : String} {absent short : Option α} {a : α}
    (honce : (ms.map Prod.fst).count name ≤ 1) :
    (field name item absent short).run o (.members ms) n = .ok a ↔
      (∃ d, Sole ms name d ∧ item o d = .ok a) ∨ name ∉ ms.map Prod.fst ∧ absent = some a := by
  cases hfind : find? name 0 ms with
  | none =>
    have habsent := find?_eq_none.mp hfind
    have hsole (d : Document) : ¬ Sole ms name d := fun h => habsent (List.mem_map_of_mem h.mem)
    cases absent <;> simp [field, hfind, habsent, hsole]
  | some found =>
    -- the first member under the name, which by the count is the only one
    have hmem := mem_of_find?_eq_some hfind
    have hpresent : name ∈ ms.map Prod.fst := List.mem_map_of_mem hmem
    have hsole (d : Document) : Sole ms name d ↔ d = found.2 :=
      ⟨fun h => unique_of_once honce h.mem hmem,
        fun h => ⟨h ▸ hmem, by have := List.count_pos_iff.mpr hpresent; omega⟩⟩
    simp only [field, hfind, hsole, exists_eq_left, hpresent, not_true_eq_false, false_and, or_false]
    exact ⟨mapError_ok, fun h => by rw [h]; rfl⟩

/-- A number in a text. -/
lemma run_number_ok {name : String} {absent short : Option Float} {x : Float} (hms : ∀ m ∈ ms, m.2.Complete)
    (honce : (ms.map Prod.fst).count name ≤ 1) :
    (field name number absent short).run .text (.members ms) n = .ok x ↔
      (∃ k, Sole ms name (.num k) ∧ x = k.toFloat) ∨ name ∉ ms.map Prod.fst ∧ absent = some x := by
  rw [run_field_members_ok honce]
  refine or_congr_left ⟨?_, fun ⟨k, hk, hx⟩ => ⟨_, hk, (number_ok (.num k)).mpr ⟨k, rfl, hx⟩⟩⟩
  rintro ⟨d, hd, hx⟩
  obtain ⟨k, rfl, hk⟩ := (number_ok (hms _ hd.mem)).mp hx
  exact ⟨k, hd, hk⟩

/-- A string in a text. -/
lemma run_string_ok {name : String} {absent short : Option String} {s : String} (hms : ∀ m ∈ ms, m.2.Complete)
    (honce : (ms.map Prod.fst).count name ≤ 1) :
    (field name string absent short).run .text (.members ms) n = .ok s ↔
      Sole ms name (.str s) ∨ name ∉ ms.map Prod.fst ∧ absent = some s := by
  rw [run_field_members_ok honce]
  refine or_congr_left ⟨?_, fun h => ⟨_, h, rfl⟩⟩
  rintro ⟨d, hd, hs⟩
  obtain rfl := (string_ok (hms _ hd.mem)).mp hs
  exact hd

/-- An array in a text. -/
lemma run_list_ok {name : String} {absent short : Option (List α)} {xs : List α} (hms : ∀ m ∈ ms, m.2.Complete)
    (honce : (ms.map Prod.fst).count name ≤ 1) :
    (field name (list item) absent short).run .text (.members ms) n = .ok xs ↔
      (∃ ds, Sole ms name (.arr ds true) ∧ List.Forall₂ (fun x d => item .text d = .ok x) xs ds) ∨
        name ∉ ms.map Prod.fst ∧ absent = some xs := by
  rw [run_field_members_ok honce]
  refine or_congr_left ⟨?_, fun ⟨ds, hds, hxs⟩ => ⟨_, hds, ?_⟩⟩
  · rintro ⟨d, hd, hxs⟩
    obtain ⟨ds, rfl, hds⟩ := (list_ok (hms _ hd.mem)).mp hxs
    exact ⟨ds, hd, hds⟩
  · exact (list_ok (hms _ hds.mem)).mpr ⟨ds, rfl, hxs⟩

/-- A field is given by the item in its place, or by its default where the array ends before it. -/
lemma run_field_items_ok {name : String} {absent short : Option α} {a : α} :
    (field name item absent short).run o (.items ds) n = .ok a ↔
      (∃ d, ds[n]? = some d ∧ item o d = .ok a) ∨ ds[n]? = none ∧ short = some a := by
  cases hitem : ds[n]? with
  | none => cases short <;> simp [field, hitem]
  | some d =>
    simp only [field, hitem, Option.some.injEq, exists_eq_left', reduceCtorEq, false_and, or_false]
    exact ⟨mapError_ok, fun h => by rw [h]; rfl⟩

lemma report_eq_ok {faults : List (Option (ℕ × Fault))} {result : Except (ℕ × Fault) α} {a : α} :
    report faults result = .ok a ↔ result = .ok a ∧ ∀ f ∈ faults, f = none := by
  have hnone : (∀ f ∈ faults, f = none) ↔ faults.filterMap id = [] := by simp [List.filterMap_eq_nil_iff]
  rw [hnone]
  simp only [report]
  split
  · next hall => simp only [hall, Except.ok.injEq, and_true]
  · next hall => simp only [hall, reduceCtorEq, and_false]
  · simp

/-- No name is met twice if none is met that is among the names seen, and none of the others more than once. -/
lemma duplicate?_eq_none_iff {names seen : List String} {place : ℕ} : duplicate? names seen place ms = none ↔
    ∀ k ∈ names, (ms.map Prod.fst).count k ≤ if k ∈ seen then 0 else 1 := by
  induction ms generalizing seen place with
  | nil => simp [duplicate?]
  | cons m ms ih =>
    obtain ⟨key, d⟩ := m
    simp only [duplicate?, List.map_cons, List.count_cons, beq_iff_eq]
    by_cases hname : key ∈ names
    · by_cases hseen : key ∈ seen
      · simp only [List.contains_iff_mem, hname, hseen, if_true, reduceCtorEq, false_iff, not_forall]
        exact ⟨key, hname, by simp [hseen]⟩
      · simp only [List.contains_iff_mem, hname, hseen, if_true, if_false, ih, List.mem_cons]
        refine forall₂_congr fun k hk => ?_
        by_cases hkey : k = key
        · subst hkey
          simp [hseen]
        · simp [hkey, Ne.symm hkey]
    · simp only [List.contains_iff_mem, hname, if_false, ih]
      refine forall₂_congr fun k hk => ?_
      have hkey : key ≠ k := by
        rintro rfl
        exact hname hk
      simp [hkey]

lemma brokenSkip?_eq_none {names : List String} {place : ℕ} (h : ∀ m ∈ ms, m.1 ∈ names ∨ m.2.sound = true) :
    brokenSkip? names place ms = none := by
  induction ms generalizing place with
  | nil => rfl
  | cons m ms ih =>
    obtain ⟨hm, hms⟩ := List.forall_mem_cons.mp h
    simp [brokenSkip?, hm, ih hms]

/-- **Records from objects.** No name of a field stands in the object twice. -/
theorem ofMembers_ok (hms : ∀ m ∈ ms, m.1 ∈ fields.names ∨ m.2.sound = true) {closed : Bool} {a : α} :
    ofMembers fields o ms closed = .ok a ↔ closed = true ∧
      (∀ name ∈ fields.names, (ms.map Prod.fst).count name ≤ 1) ∧ fields.run o (.members ms) 0 = .ok a := by
  have hduplicate : duplicate? fields.names [] 0 ms = none ↔
      ∀ name ∈ fields.names, (ms.map Prod.fst).count name ≤ 1 := by
    rw [duplicate?_eq_none_iff]
    simp only [List.not_mem_nil, if_false]
  rw [ofMembers, report_eq_ok, brokenSkip?_eq_none hms]
  cases closed <;> simp [hduplicate, and_comm]

/-- **Records from arrays.** There are no more items than fields. -/
theorem ofItems_ok {title : String} {closed : Bool} {a : α} : ofItems title fields o ds closed = .ok a ↔
    closed = true ∧ ds.length ≤ fields.names.length ∧ fields.run o (.items ds) 0 = .ok a := by
  simp only [ofItems, report_eq_ok]
  have hresult {f : ℕ × Fault → ℕ × Fault} : (fields.run o (.items ds) 0).mapError f = .ok a ↔
      fields.run o (.items ds) 0 = .ok a := ⟨mapError_ok, fun h => by rw [h]; rfl⟩
  rw [hresult]
  cases closed <;> simp [and_comm]

end Fields

/-- What is decoded from a text is decoded from the one document it is a text of. -/
theorem ofJsonText_ok {decoder : Decoder α} {text : String} {a : α} :
    ofJsonText decoder text = .ok a ↔ ∃ d, TextOf d text.toList ∧ decoder .text d = .ok a := by
  obtain ⟨⟨d, whole⟩, hread⟩ : ∃ r, Document.read text.toList = r := ⟨_, rfl⟩
  have hdoc {d' : Document} : TextOf d' text.toList ↔ d' = d ∧ whole = true := by
    rw [← Document.read_iff, hread, Prod.mk.injEq, eq_comm]
  simp only [ofJsonText, Format.decode, Format.json, hread, bind_ok, hdoc]
  constructor
  · rintro ⟨x, hx, h⟩
    cases whole with
    | true =>
      cases h
      exact ⟨d, ⟨rfl, rfl⟩, hx⟩
    | false => cases h
  · rintro ⟨_, ⟨rfl, rfl⟩, ha⟩
    exact ⟨a, ha, rfl⟩

end Guardrail.Decode
