import Guardrail.Proofs.JsonGrammar
import Guardrail.Proofs.JsonText

/-!
JSON text is read back.

Compact and pretty text are texts of a document, blanks set in two ways. The reader need not take the text of a double
for the same double; whatever it takes them for, a text is one of the value in which every double is replaced by that,
and nothing else changes.
-/

namespace Guardrail.Json

/-! ### Numbers that are read back -/

/-- The reader takes the text of the number for the number. -/
def Number.ReadsBack (n : Number) : Prop := ∃ l, literal? n.text.toList = some (l, []) ∧ l.number? = some n

/-- The reader takes the text of one number for the other. -/
def Number.ReadsAs (n m : Number) : Prop := ∃ l, literal? n.text.toList = some (l, []) ∧ l.number? = some m

instance (n m : Number) : Decidable (n.ReadsAs m) :=
  decidable_of_iff (((literal? n.text.toList).bind fun l => if l.2 = [] then l.1.number? else none) = some m) <| by
    unfold Number.ReadsAs
    constructor
    · intro h
      obtain ⟨⟨l, rest⟩, hl, h⟩ := Option.bind_eq_some_iff.mp h
      simp only [Option.ite_none_right_eq_some] at h
      exact ⟨l, h.1 ▸ hl, h.2⟩
    · rintro ⟨l, hl, h⟩
      simp [hl, h]

instance (n : Number) : Decidable n.ReadsBack := inferInstanceAs (Decidable (n.ReadsAs n))

/-- No zero stands in front of a positive number. -/
lemma head?_toDigits {n : ℕ} (hn : 0 < n) : (Nat.toDigits 10 n).head? ≠ some '0' := by
  induction n using Nat.strongRecOn with
  | ind n ih =>
    by_cases hsmall : n < 10
    · rw [Nat.toDigits_of_lt_base hsmall]
      interval_cases n <;> decide
    · have hhead := ih (n / 10) (by omega) (by omega)
      rw [Nat.toDigits_of_base_le (by norm_num) (by omega), List.head?_append]
      cases hdigits : (Nat.toDigits 10 (n / 10)).head? with
      | none => simp [Nat.toDigits_ne_nil] at hdigits
      | some c => simpa [hdigits] using hhead

lemma spells_toDigits (n : ℕ) : Literal.Spells ⟨false, Nat.toDigits 10 n, none, none⟩ (Nat.toDigits 10 n) where
  formed := ⟨Nat.toDigits_ne_nil, isDigit_toDigits, nofun, nofun⟩
  lead := by
    rcases Nat.eq_zero_or_pos n with rfl | hn
    · exact .inl rfl
    · exact .inr (head?_toDigits hn)
  fraction_ne := nofun
  exponent_ne := nofun
  text := ⟨[], .absent, by simp [Literal.fractionChars]⟩

lemma literal?_toDigits (n : ℕ) :
    literal? (Nat.toDigits 10 n) = some (⟨false, Nat.toDigits 10 n, none, none⟩, []) := by
  simpa using (spells_toDigits n).literal? (show Stops [] from nofun)

lemma le_foldl_digits (ds : List Char) (n : ℕ) : n ≤ ds.foldl (fun n c => 10 * n + (c.toNat - 48)) n := by
  induction ds generalizing n with
  | nil => exact le_refl n
  | cons c ds ih => exact le_trans (show n ≤ 10 * n + (c.toNat - 48) by omega) (ih _)

lemma accumulate_eq {ds : List Char} {n : ℕ} (h : ds.foldl (fun n c => 10 * n + (c.toNat - 48)) n < 2 ^ 64) :
    accumulate n ds = (ds.foldl (fun n c => 10 * n + (c.toNat - 48)) n, []) := by
  induction ds generalizing n with
  | nil => rfl
  | cons c ds ih =>
    rw [List.foldl_cons] at h ⊢
    simp only [accumulate, Nat.pow_eq, if_pos (lt_of_le_of_lt (le_foldl_digits ds _) h), ih h]

lemma Number.readsBack_nat {n : ℕ} (hn : n < 2 ^ 64) : (Number.nat n).ReadsBack := by
  refine ⟨_, by rw [Number.text, Nat.toString_eq_repr, Nat.toList_repr, literal?_toDigits], ?_⟩
  have haccumulate : accumulate 0 (Nat.toDigits 10 n) = (n, []) := by
    have hvalue : (Nat.toDigits 10 n).foldl (fun n c => 10 * n + (c.toNat - 48)) 0 = n := digitsValue_toDigits n
    rw [accumulate_eq (hvalue.symm ▸ hn), hvalue]
  simp [Literal.number?, haccumulate]

lemma Number.ReadsAs.textOf {n m : Number} (h : n.ReadsAs m) : TextOf (.num m) n.text.toList := by
  obtain ⟨l, hl, hm⟩ := h
  obtain ⟨text, happ, hspells⟩ := exists_spells_of_literal? hl
  rw [List.append_nil] at happ
  exact .num (happ ▸ hspells) hm

/-! ### Numbers in a value -/

mutual
/-- The numbers in a value. -/
def numbers : Json → List Number
  | .num n => [n]
  | .arr items => itemNumbers items
  | .obj members => memberNumbers members
  | _ => []
/-- The numbers in items. -/
def itemNumbers : List Json → List Number
  | [] => []
  | j :: rest => numbers j ++ itemNumbers rest
/-- The numbers in members. -/
def memberNumbers : List (String × Json) → List Number
  | [] => []
  | (_, j) :: rest => numbers j ++ memberNumbers rest
end

lemma itemNumbers_eq (items : List Json) : itemNumbers items = items.flatMap numbers := by
  induction items with
  | nil => rfl
  | cons j items ih => rw [itemNumbers, ih, List.flatMap_cons]

lemma memberNumbers_eq (members : List (String × Json)) :
    memberNumbers members = members.flatMap fun m => m.2.numbers := by
  induction members with
  | nil => rfl
  | cons m members ih => rw [memberNumbers, ih, List.flatMap_cons]

lemma forall_numbers_arr {P : Number → Prop} {items : List Json} :
    (∀ n ∈ (Json.arr items).numbers, P n) ↔ ∀ j ∈ items, ∀ n ∈ j.numbers, P n := by
  rw [numbers, itemNumbers_eq, List.forall_mem_flatMap]

lemma forall_numbers_obj {P : Number → Prop} {members : List (String × Json)} :
    (∀ n ∈ (Json.obj members).numbers, P n) ↔ ∀ m ∈ members, ∀ n ∈ m.2.numbers, P n := by
  rw [numbers, memberNumbers_eq, List.forall_mem_flatMap]

/-- The doubles in a value. -/
def floats (j : Json) : List Float :=
  j.numbers.filterMap fun n => match n with
    | .float x => some x
    | _ => none

lemma mem_floats {j : Json} {x : Float} (h : .float x ∈ j.numbers) : x ∈ j.floats :=
  List.mem_filterMap.mpr ⟨.float x, h, rfl⟩

/-- The numbers are doubles or whole numbers of sixty-four bits. -/
def Sized (j : Json) : Prop := ∀ n ∈ j.numbers, (∃ x, n = .float x) ∨ ∃ k < 2 ^ 64, n = .nat k

@[simp] lemma sized_bool (b : Bool) : (Json.bool b).Sized := nofun

@[simp] lemma sized_str (s : String) : (Json.str s).Sized := nofun

@[simp] lemma sized_ofFloat (x : Float) : (Json.ofFloat x).Sized := by
  intro n hn
  exact .inl ⟨x, List.mem_singleton.mp hn⟩

@[simp] lemma sized_ofNat (k : ℕ) : (Json.ofNat k).Sized ↔ k < 2 ^ 64 := by
  simp [Sized, ofNat, numbers]

@[simp] lemma sized_arr (items : List Json) : (Json.arr items).Sized ↔ ∀ j ∈ items, j.Sized := forall_numbers_arr

lemma sized_obj (members : List (String × Json)) : (Json.obj members).Sized ↔ ∀ m ∈ members, m.2.Sized :=
  forall_numbers_obj

@[simp] lemma sized_nil : (Json.obj []).Sized := nofun

@[simp] lemma sized_cons (m : String × Json) (members : List (String × Json)) :
    (Json.obj (m :: members)).Sized ↔ m.2.Sized ∧ (Json.obj members).Sized := by
  simp only [sized_obj, List.forall_mem_cons]

@[simp] lemma sized_map {α : Type} (f : α → String × Json) (as : List α) :
    (Json.obj (as.map f)).Sized ↔ ∀ a ∈ as, (f a).2.Sized := by
  simp only [sized_obj, List.forall_mem_map]

@[simp] lemma sized_ofOption {α : Type} (f : α → Json) (x : Option α) :
    (Json.ofOption f x).Sized ↔ ∀ a ∈ x, (f a).Sized := by
  cases x with
  | none => simp [ofOption, Sized, numbers]
  | some a => simp [ofOption]

/-! ### Doubles in a value -/

/-- A number with its double changed, if it is one. -/
def Number.mapFloat (f : Float → Float) : Number → Number
  | .float x => .float (f x)
  | n => n

mutual
/-- A value with its doubles changed. -/
def mapFloats (f : Float → Float) : Json → Json
  | .num n => .num (n.mapFloat f)
  | .arr items => .arr (mapItems f items)
  | .obj members => .obj (mapMembers f members)
  | j => j
/-- The items of an array with their doubles changed. -/
def mapItems (f : Float → Float) : List Json → List Json
  | [] => []
  | j :: rest => mapFloats f j :: mapItems f rest
/-- The members of an object with their doubles changed. -/
def mapMembers (f : Float → Float) : List (String × Json) → List (String × Json)
  | [] => []
  | (k, j) :: rest => (k, mapFloats f j) :: mapMembers f rest
end

section

variable {f : Float → Float}

lemma mapItems_eq (items : List Json) : mapItems f items = items.map (mapFloats f) := by
  induction items with
  | nil => rfl
  | cons j items ih => exact congrArg (j.mapFloats f :: ·) ih

lemma mapMembers_eq (members : List (String × Json)) :
    mapMembers f members = members.map fun m => (m.1, m.2.mapFloats f) := by
  induction members with
  | nil => rfl
  | cons m members ih => exact congrArg ((m.1, m.2.mapFloats f) :: ·) ih

@[simp] lemma mapFloats_bool (b : Bool) : (Json.bool b).mapFloats f = .bool b := rfl

@[simp] lemma mapFloats_str (s : String) : (Json.str s).mapFloats f = .str s := rfl

@[simp] lemma mapFloats_ofFloat (x : Float) : (Json.ofFloat x).mapFloats f = .ofFloat (f x) := rfl

@[simp] lemma mapFloats_ofNat (n : ℕ) : (Json.ofNat n).mapFloats f = .ofNat n := rfl

@[simp] lemma mapFloats_arr (items : List Json) : (Json.arr items).mapFloats f = .arr (items.map (mapFloats f)) :=
  congrArg Json.arr (mapItems_eq items)

@[simp] lemma mapFloats_obj (members : List (String × Json)) :
    (Json.obj members).mapFloats f = .obj (members.map fun m => (m.1, m.2.mapFloats f)) :=
  congrArg Json.obj (mapMembers_eq members)

@[simp] lemma mapFloats_id (j : Json) : j.mapFloats id = j := by
  induction j using forall_of_parts with
  | num n => cases n <;> rfl
  | arr items ih => rw [mapFloats_arr, List.map_congr_left ih, List.map_id']
  | obj members ih =>
    have hmembers : ∀ m ∈ members, (m.1, m.2.mapFloats id) = m := fun m hm => by rw [ih m hm]
    rw [mapFloats_obj, List.map_congr_left hmembers, List.map_id']
  | _ => rfl

lemma Sized.readsAs {j : Json} (h : j.Sized) (hfloats : ∀ x ∈ j.floats, (Number.float x).ReadsAs (.float (f x))) :
    ∀ n ∈ j.numbers, n.ReadsAs (n.mapFloat f) := by
  intro n hn
  rcases h n hn with ⟨x, rfl⟩ | ⟨k, hk, rfl⟩
  · exact hfloats x (mem_floats hn)
  · exact Number.readsBack_nat hk

lemma Number.readsAs_id {n : Number} : n.ReadsAs (n.mapFloat id) ↔ n.ReadsBack := by
  cases n <;> exact Iff.rfl

lemma Sized.readsBack {j : Json} (h : j.Sized) (hfloats : ∀ x ∈ j.floats, (Number.float x).ReadsBack) :
    ∀ n ∈ j.numbers, n.ReadsBack := fun n hn => Number.readsAs_id.mp (h.readsAs hfloats n hn)

lemma toDocuments_eq (items : List Json) : toDocuments items = items.map toDocument := by
  induction items with
  | nil => rfl
  | cons j items ih => rw [toDocuments, ih, List.map_cons]

lemma memberDocuments_eq (members : List (String × Json)) :
    memberDocuments members = members.map fun m => (m.1, m.2.toDocument) := by
  induction members with
  | nil => rfl
  | cons m members ih => rw [memberDocuments, ih, List.map_cons]

lemma toDocument_arr_mapFloats (items : List Json) : ((Json.arr items).mapFloats f).toDocument
    = .arr (items.map fun j => (j.mapFloats f).toDocument) true := by
  rw [mapFloats_arr, toDocument, toDocuments_eq, List.map_map]
  rfl

lemma toDocument_obj_mapFloats (members : List (String × Json)) : ((Json.obj members).mapFloats f).toDocument
    = .obj (members.map fun m => (m.1, (m.2.mapFloats f).toDocument)) true := by
  rw [mapFloats_obj, toDocument, memberDocuments_eq, List.map_map]
  rfl

end

/-! ### Compact and pretty text -/

lemma separated_cons_of_ne_nil {sep x : List Char} {rest : List (List Char)} (h : rest ≠ []) :
    separated sep (x :: rest) = x ++ sep ++ separated sep rest := by
  cases rest with
  | nil => exact absurd rfl h
  | cons y rest => rfl

section

variable {α : Type} {document : α → Document} {text : α → List Char} {before between last : List Char} {a : α}
  {as : List α}

lemma itemsTextOf_separated (hbefore : ∀ c ∈ before, isBlank c = true) (hbetween : ∀ c ∈ between, isBlank c = true)
    (hlast : ∀ c ∈ last, isBlank c = true) (h : ∀ b ∈ a :: as, TextOf (document b) (text b)) :
    ItemsTextOf ((a :: as).map document)
      (before ++ separated (',' :: between) ((a :: as).map text) ++ last ++ [']']) := by
  induction as generalizing a before with
  | nil => exact .last _ (.before last hlast (.after before hbefore (h a List.mem_cons_self)))
  | cons b as ih =>
    obtain ⟨ha, has⟩ := List.forall_mem_cons.mp h
    have hcons := ItemsTextOf.cons _ _ (.after before hbefore ha) (ih hbetween has)
    rw [List.map_cons (f := text), separated_cons_of_ne_nil (by simp)]
    simpa using hcons

lemma membersTextOf_separated (key : α → String) (hbefore : ∀ c ∈ before, isBlank c = true)
    (hbetween : ∀ c ∈ between, isBlank c = true) (hlast : ∀ c ∈ last, isBlank c = true)
    (h : ∀ b ∈ a :: as, TextOf (document b) (text b)) :
    MembersTextOf ((a :: as).map fun b => (key b, document b)) (before ++
      separated (',' :: between) ((a :: as).map fun b => quote (key b) ++ ':' :: text b) ++ last ++ ['\x7d']) := by
  have hgap : ∀ c ∈ ([] : List Char), isBlank c = true := List.forall_mem_nil _
  induction as generalizing a before with
  | nil =>
    have hone := MembersTextOf.last before _ [] _ hbefore (quotes_quote (key a)) hgap
      (.before last hlast (h a List.mem_cons_self))
    simpa [separated] using hone
  | cons b as ih =>
    obtain ⟨ha, has⟩ := List.forall_mem_cons.mp h
    have hcons := MembersTextOf.cons before _ [] _ _ hbefore (quotes_quote (key a)) hgap ha (ih hbetween has)
    rw [List.map_cons (f := fun b => quote (key b) ++ ':' :: text b), separated_cons_of_ne_nil (by simp)]
    simpa using hcons

end

variable {f : Float → Float}

/-- The compact text of a value is a text of the document with the doubles that the reader takes their texts for. -/
theorem textOf_chars (j : Json) (h : ∀ n ∈ j.numbers, n.ReadsAs (n.mapFloat f)) :
    TextOf (j.mapFloats f).toDocument j.chars := by
  induction j using forall_of_parts with
  | null => exact .null
  | bool b => exact .bool b
  | num n => exact (h n List.mem_cons_self).textOf
  | str s => exact .str (quotes_quote s)
  | arr items ih =>
    cases items with
    | nil => exact .emptyArr [] nofun
    | cons j items =>
      rw [forall_numbers_arr] at h
      have hitems : ItemsTextOf _ ([] ++ separated [','] _ ++ [] ++ [']']) :=
        itemsTextOf_separated nofun nofun nofun fun k hk => ih k hk (h k hk)
      rw [toDocument_arr_mapFloats, chars, itemChars_eq]
      exact .arr (by simpa using hitems)
  | obj members ih =>
    cases members with
    | nil => exact .emptyObj [] nofun
    | cons m members =>
      rw [forall_numbers_obj] at h
      have hmembers : MembersTextOf _ ([] ++ separated [','] _ ++ [] ++ ['\x7d']) :=
        membersTextOf_separated Prod.fst nofun nofun nofun fun k hk => ih k hk (h k hk)
      rw [toDocument_obj_mapFloats, chars, memberChars_eq]
      unfold memberText
      exact .obj (by simpa using hmembers)

lemma prettyItems_eq (level : ℕ) (items : List Json) : prettyItems level items = items.map (prettyChars level) := by
  induction items with
  | nil => rfl
  | cons j items ih => rw [prettyItems, ih, List.map_cons]

lemma prettyMembers_eq (level : ℕ) (members : List (String × Json)) :
    prettyMembers level members = members.map fun m => quote m.1 ++ ':' :: ' ' :: m.2.prettyChars level := by
  induction members with
  | nil => rfl
  | cons m members ih => rw [prettyMembers, ih, List.map_cons]

lemma isBlank_newline (level : ℕ) : ∀ c ∈ newline level, isBlank c = true := by
  intro c hc
  rcases List.mem_cons.mp hc with rfl | hc
  · rfl
  · rw [List.eq_of_mem_replicate hc]
    rfl

/-- So is its pretty text, at any level. -/
theorem textOf_prettyChars (j : Json) (level : ℕ) (h : ∀ n ∈ j.numbers, n.ReadsAs (n.mapFloat f)) :
    TextOf (j.mapFloats f).toDocument (j.prettyChars level) := by
  induction j using forall_of_parts generalizing level with
  | null => exact .null
  | bool b => exact .bool b
  | num n => exact (h n List.mem_cons_self).textOf
  | str s => exact .str (quotes_quote s)
  | arr items ih =>
    cases items with
    | nil => exact .emptyArr [] nofun
    | cons j items =>
      rw [forall_numbers_arr] at h
      have hitems := itemsTextOf_separated (isBlank_newline (level + 1)) (isBlank_newline (level + 1))
        (isBlank_newline level) fun k hk => ih k hk (level + 1) (h k hk)
      rw [toDocument_arr_mapFloats, prettyChars, prettyItems_eq]
      · exact .arr (by simpa using hitems)
      · exact List.cons_ne_nil _ _
  | obj members ih =>
    cases members with
    | nil => exact .emptyObj [] nofun
    | cons m members =>
      rw [forall_numbers_obj] at h
      have hmembers := membersTextOf_separated Prod.fst (isBlank_newline (level + 1))
        (isBlank_newline (level + 1)) (isBlank_newline level)
        fun k hk => .after [' '] (by simp [isBlank]) (ih k hk (level + 1) (h k hk))
      rw [toDocument_obj_mapFloats, prettyChars, prettyMembers_eq]
      · exact .obj (by simpa using hmembers)
      · exact List.cons_ne_nil _ _

/-- **JSON text is read back.** The document of a value is what is read of its compact and of its pretty text, if the
reader takes the text of each number for that number. -/
theorem read_chars (j : Json) (h : ∀ n ∈ j.numbers, n.ReadsBack) :
    Document.read j.chars = (j.toDocument, true) ∧ Document.read (j.prettyChars 0) = (j.toDocument, true) := by
  have hid : ∀ n ∈ j.numbers, n.ReadsAs (n.mapFloat id) := fun n hn => Number.readsAs_id.mpr (h n hn)
  have hcompact := textOf_chars j hid
  have hpretty := textOf_prettyChars j 0 hid
  rw [mapFloats_id] at hcompact hpretty
  exact ⟨Document.read_iff.mpr hcompact, Document.read_iff.mpr hpretty⟩

end Guardrail.Json
