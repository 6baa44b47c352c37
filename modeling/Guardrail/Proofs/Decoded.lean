import Guardrail.Proofs.CacheKeys
import Guardrail.Proofs.Records
import Guardrail.Proofs.Stages
import Guardrail.Shadow.Escalation

/-!
What is decoded from JSON text.

A property of the values that a decoder gives follows from those of its fields: what one field gives, a
record gives in its place. A document of JSON text whose numbers a double can hold thus gives requests whose
inquiries can be told apart by their keys.
-/

namespace Guardrail

open Json (Document)

namespace Json

/-- A document like those of JSON text: every text is quoted, and every number is one that a double can
hold. -/
inductive Document.Finite : Document → Prop
  | null : Finite .null
  | bool (b : Bool) : Finite (.bool b)
  | num (n : Number) (h : n.toFloat.isFinite = true) : Finite (.num n)
  | str (s : String) : Finite (.str s)
  | arr (items : List Document) (closed : Bool) (h : ∀ d ∈ items, Finite d) : Finite (.arr items closed)
  | obj (members : List (String × Document)) (closed : Bool) (h : ∀ m ∈ members, Finite m.2) :
    Finite (.obj members closed)
  | unreadable : Finite .unreadable
  | broken : Finite .broken

/-! ### Values of documents -/

lemma mem_setMember {key : String} {value : Json} {members : List (String × Json)} {m : String × Json}
    (h : m ∈ setMember key value members) : m = (key, value) ∨ m ∈ members := by
  induction members with
  | nil => exact .inl (List.mem_singleton.mp h)
  | cons m' members ih =>
    obtain ⟨k, v⟩ := m'
    simp only [setMember] at h
    split at h
    · exact List.mem_cons.mp h
    · split at h
      · exact (List.mem_cons.mp h).imp_right (List.mem_cons_of_mem _)
      · rcases List.mem_cons.mp h with rfl | h
        · exact .inr List.mem_cons_self
        · exact (ih h).imp_right (List.mem_cons_of_mem _)

lemma finite_ofMembers {members : List (String × Json)} (h : ∀ m ∈ members, m.2.Finite) :
    (ofMembers members).Finite := by
  have hfold (acc : List (String × Json)) (hacc : ∀ m ∈ acc, m.2.Finite) :
      ∀ m ∈ members.foldl (fun acc m => setMember m.1 m.2 acc) acc, m.2.Finite := by
    induction members generalizing acc with
    | nil => exact hacc
    | cons m members ih =>
      obtain ⟨hm, hmembers⟩ := List.forall_mem_cons.mp h
      refine ih hmembers _ fun m' hm' => ?_
      rcases mem_setMember hm' with rfl | hm'
      · exact hm
      · exact hacc m' hm'
  exact .obj _ (hfold [] nofun)

namespace Document

mutual

/-- The value of a document has no numbers but those of the document. -/
lemma Finite.toJson? {depth : ℕ} : ∀ {d : Document} {j : Json}, d.Finite → d.toJson? depth = some j → j.Finite
  | .null, _, _, h => by
    cases h
    exact .null
  | .bool b, _, _, h => by
    cases h
    exact .bool b
  | .num n, _, hd, h => by
    cases h
    cases hd with
    | num n hn =>
      refine .num n ?_
      cases n with
      | float x => exact hn
      | nat n => trivial
      | neg n => trivial
  | .str s, _, _, h => by
    cases h
    exact .str s
  | .plain s, _, hd, _ => nomatch hd
  | .arr items closed, j, hd, h => by
    simp only [Document.toJson?] at h
    split at h
    · cases h
    · obtain ⟨js, hjs, h⟩ := Option.bind_eq_some_iff.mp h
      split at h
      · cases h
        cases hd with
        | arr _ _ hitems => exact .arr js (finite_itemsToJson? hitems hjs)
      · cases h
  | .obj members closed, j, hd, h => by
    simp only [Document.toJson?] at h
    split at h
    · cases h
    · obtain ⟨js, hjs, h⟩ := Option.bind_eq_some_iff.mp h
      split at h
      · cases h
        cases hd with
        | obj _ _ hmembers => exact finite_ofMembers (finite_membersToJson? hmembers hjs)
      · cases h
  | .unreadable, _, _, h => nomatch h
  | .broken, _, _, h => nomatch h

lemma finite_itemsToJson? {depth : ℕ} : ∀ {ds : List Document} {js : List Json}, (∀ d ∈ ds, d.Finite) →
    itemsToJson? depth ds = some js → ∀ j ∈ js, j.Finite
  | [], _, _, h => by
    cases h
    simp
  | d :: ds, _, hds, h => by
    obtain ⟨hd, hds⟩ := List.forall_mem_cons.mp hds
    obtain ⟨j, hj, h⟩ := Option.bind_eq_some_iff.mp h
    obtain ⟨js, hjs, rfl⟩ := Option.map_eq_some_iff.mp h
    exact List.forall_mem_cons.mpr ⟨hd.toJson? hj, finite_itemsToJson? hds hjs⟩

lemma finite_membersToJson? {depth : ℕ} : ∀ {ms : List (String × Document)} {js : List (String × Json)},
    (∀ m ∈ ms, m.2.Finite) → membersToJson? depth ms = some js → ∀ m ∈ js, m.2.Finite
  | [], _, _, h => by
    cases h
    simp
  | (k, d) :: ms, _, hms, h => by
    obtain ⟨hd, hms⟩ := List.forall_mem_cons.mp hms
    obtain ⟨j, hj, h⟩ := Option.bind_eq_some_iff.mp h
    obtain ⟨js, hjs, rfl⟩ := Option.map_eq_some_iff.mp h
    exact List.forall_mem_cons.mpr ⟨hd.toJson? hj, finite_membersToJson? hms hjs⟩

end

lemma eq_null_of_toJson? {depth : ℕ} {d : Document} (h : d.toJson? depth = some .null) : d = .null := by
  cases d with
  | null => rfl
  | arr items closed =>
    simp only [Document.toJson?] at h
    split at h
    · cases h
    · obtain ⟨js, -, h⟩ := Option.bind_eq_some_iff.mp h
      split at h <;> cases h
  | obj members closed =>
    simp only [Document.toJson?] at h
    split at h
    · cases h
    · obtain ⟨js, -, h⟩ := Option.bind_eq_some_iff.mp h
      split at h <;> cases h
  | _ => cases h

end Document

end Json

/-! ### Decoders -/

namespace Decode

/-- What a decoder gives for a document of JSON text has a property. -/
def Yields {α : Type} (item : Decoder α) (P : α → Prop) : Prop :=
  ∀ o d a, d.Finite → item o d = .ok a → P a

/-- The documents that fields are read from. -/
def Source.documents : Source → List Document
  | .members ms => ms.map Prod.snd
  | .items ds => ds

/-- What fields give for documents of JSON text has a property. -/
def Fields.Yields {α : Type} (fields : Fields α) (P : α → Prop) : Prop :=
  ∀ o s n a, (∀ d ∈ s.documents, d.Finite) → fields.run o s n = .ok a → P a

variable {α β : Type} {P : α → Prop} {item : Decoder α}

lemma yields_number : Yields number fun x => x.isFinite = true := by
  intro o d x hd h
  cases hd with
  | num n hn =>
    obtain rfl := Except.ok.inj h
    exact hn
  | _ => cases h

lemma optional_ok {o : Origin} {d : Document} {a : Option α} (hd : d.Finite) (h : optional item o d = .ok a) :
    a = none ∨ d ≠ .null ∧ ∃ x, a = some x ∧ item o d = .ok x := by
  have hsome (h : (item o d).map some = .ok a) : ∃ x, a = some x ∧ item o d = .ok x := by
    obtain ⟨x, hx, rfl⟩ := map_ok h
    exact ⟨x, rfl, hx⟩
  cases hd with
  | null => exact .inl (Except.ok.inj h).symm
  | _ => exact .inr ⟨nofun, hsome h⟩

lemma yields_optional (h : Yields item P) : Yields (optional item) fun a => ∀ x ∈ a, P x := by
  intro o d a hd ha x hx
  rcases optional_ok hd ha with rfl | ⟨-, y, rfl, hy⟩
  · cases hx
  · cases hx
    exact h o d x hd hy

/-- Where null stands for a value there is none. -/
lemma yields_optional_json (depth : ℕ) :
    Yields (optional (json depth)) fun a => ∀ j ∈ a, j.Finite ∧ j ≠ .null := by
  intro o d a hd ha j hj
  -- null is no schema, so that a schema that is there is something else
  rcases optional_ok hd ha with rfl | ⟨hnull, k, rfl, hk⟩
  · cases hj
  · cases hj
    simp only [json] at hk
    split at hk
    · next hvalue =>
      cases hk
      refine ⟨hd.toJson? hvalue, ?_⟩
      rintro rfl
      exact hnull (Document.eq_null_of_toJson? hvalue)
    · cases hk

namespace Fields

variable {fields : Fields α}

lemma yields_of_forall (h : ∀ a, P a) : fields.Yields P := fun _ _ _ a _ _ => h a

lemma yields_any : fields.Yields fun _ => True := yields_of_forall fun _ => trivial

lemma Yields.map {f : α → β} {Q : β → Prop} (h : fields.Yields fun a => Q (f a)) : (f <$> fields).Yields Q := by
  intro o s n b hs hb
  obtain ⟨a, ha, rfl⟩ := map_ok (f := f) hb
  exact h o s n a hs ha

/-- Each field by itself: what is made of them has a property if it is made of values that have theirs. -/
lemma Yields.seq {f : Fields (α → β)} {Q : β → Prop} (hf : f.Yields fun g => ∀ a, P a → Q (g a))
    (h : fields.Yields P) : (f <*> fields).Yields Q := by
  intro o s n b hs hb
  simp only [Seq.seq, Fields.seq] at hb
  split at hb
  · next g a hg ha =>
    obtain rfl := Except.ok.inj hb
    exact hf o s n g hs hg a (h _ _ _ a hs ha)
  all_goals cases hb

lemma yields_field {name : String} {absent short : Option α} (h : Decode.Yields item P) (habsent : ∀ a ∈ absent, P a)
    (hshort : ∀ a ∈ short, P a) : (field name item absent short).Yields P := by
  intro o s n a hs ha
  simp only [field] at ha
  split at ha
  · split at ha
    · next hfound => exact h o _ a (hs _ (List.mem_map_of_mem (mem_of_find?_eq_some hfound))) (mapError_ok ha)
    · split at ha
      · cases ha
        exact habsent a rfl
      · cases ha
  · split at ha
    · next hfound => exact h o _ a (hs _ (List.mem_of_getElem? hfound)) (mapError_ok ha)
    · split at ha
      · cases ha
        exact hshort a rfl
      · cases ha

lemma yields_withDefault {name : String} {value : α} (h : Decode.Yields item P) (hvalue : P value) :
    (withDefault name item value).Yields P := by
  refine yields_field h ?_ ?_ <;> rintro _ ⟨⟩ <;> exact hvalue

lemma yields_nullableDefault {name : String} (h : Decode.Yields (optional item) fun a => ∀ x ∈ a, P x) :
    (nullableDefault name item).Yields fun a => ∀ x ∈ a, P x :=
  yields_field h (by rintro _ ⟨⟩ _ ⟨⟩) (by rintro _ ⟨⟩ _ ⟨⟩)

/-- A record has the property that its fields give. -/
lemma Yields.record {title : String} (h : fields.Yields P) : Decode.Yields (record title fields) P := by
  intro o d a hd ha
  cases hd with
  | obj ms closed hms =>
    exact h o (.members ms) 0 a (List.forall_mem_map.mpr hms) (report_eq_ok.mp ha).1
  | arr ds closed hds =>
    simp only [Fields.record] at ha
    split at ha
    · cases ha
    · exact h o (.items ds) 0 a hds (mapError_ok (report_eq_ok.mp ha).1)
  | _ => cases ha

end Fields

end Decode

/-! ### Requests -/

open Decode Fields

/-- The defaults of a snapshot are finite as well. -/
lemma Snapshot.yields_fields : Snapshot.fields.Yields fun s => (Payload.state s).Plain := by
  have hcost : (withDefault "cost_usd" number 0.0).Yields fun x => x.isFinite = true :=
    yields_withDefault yields_number (by decide +kernel)
  have hbudget : (nullableDefault "cost_budget_usd" number).Yields fun a => ∀ x ∈ a, x.isFinite = true :=
    yields_nullableDefault (yields_optional yields_number)
  refine .seq (.seq (.seq (.seq (.seq (.map (yields_of_forall ?_)) yields_any) yields_any) hcost) hbudget) yields_any
  intro actions tokens _ budget _ cost hcost limit hlimit iterations _
  exact .state _ hcost hlimit

lemma OutputPayload.yields_decoder : Yields OutputPayload.decoder fun a => (Payload.output a).Plain := by
  have hschema : (nullableDefault "expected_schema" (json 127)).Yields fun a => ∀ j ∈ a, j.Finite ∧ j ≠ .null :=
    yields_nullableDefault (yields_optional_json 127)
  refine Fields.Yields.record (.seq (.seq (.seq (.map (yields_of_forall ?_)) yields_any) hschema) yields_any)
  intro text input _ schema hschema prompt _
  exact .output _ hschema

/-- A value that a decoder gives for a document of JSON text. -/
def Decode.FromJson {α : Type} (item : Decoder α) (a : α) : Prop := ∃ o d, d.Finite ∧ item o d = .ok a

/-- The stages of a request as they come from JSON text. An answer may be put together without one if there is no
schema for it. -/
structure StageInputs.FromJson (stages : StageInputs) : Prop where
  state : ∀ s ∈ stages.state, Decode.FromJson Snapshot.decoder s
  output : ∀ a ∈ stages.output, a.expectedSchema = none ∨ Decode.FromJson OutputPayload.decoder a

/-- So do stages that are read together. -/
lemma StageInputs.fromJson_of_decoder : Yields StageInputs.decoder StageInputs.FromJson := by
  have hstate : (nullableDefault "state" Snapshot.decoder).Yields fun a => ∀ s ∈ a, Decode.FromJson Snapshot.decoder s :=
    yields_nullableDefault (yields_optional fun o d s hd hs => ⟨o, d, hd, hs⟩)
  have houtput : (nullableDefault "output" OutputPayload.decoder).Yields fun a =>
      ∀ x ∈ a, Decode.FromJson OutputPayload.decoder x :=
    yields_nullableDefault (yields_optional fun o d x hd hx => ⟨o, d, hd, hx⟩)
  refine Fields.Yields.record (.seq (.seq (.map (yields_of_forall ?_)) hstate) houtput)
  intro input state hstate output houtput
  exact ⟨hstate, fun a ha => .inr (houtput a ha)⟩

lemma StageInputs.FromJson.plain_seen {stages : StageInputs} (h : stages.FromJson) (redacted : Option String) :
    ∀ p ∈ stages.seen redacted, p.Plain := by
  intro p hp
  simp only [seen, List.mem_cons, List.mem_append, Option.mem_toList, Option.map_eq_some_iff] at hp
  rcases hp with rfl | ⟨s, hs, rfl⟩ | ⟨a, ha, rfl⟩
  · exact .input _
  · obtain ⟨o, d, hd, hread⟩ := h.state s hs
    exact Snapshot.yields_fields.record o d s hd hread
  · rcases h.output a ha with hnone | ⟨o, d, hd, hread⟩
    · exact .output _ (by simp [hnone])
    · cases OutputPayload.yields_decoder o d a hd hread with
      | output _ hschema => exact .output _ hschema

/-- **Requests from JSON text.** Whatever is asked about a request, its payload is one of those that keys tell
apart. -/
theorem StageInputs.FromJson.plain_inquiries {stages : StageInputs} (h : stages.FromJson) (e : Engine) (memo : Luhn.Memo)
    (context : RequestContext) :
    ∀ q ∈ Shadow.inquiries e (e.evaluate memo stages context).1 context, q.payload.Plain := by
  intro q hq
  obtain ⟨s, hs, rfl⟩ := List.mem_map.mp hq
  obtain ⟨hruns, -⟩ := e.runs_evaluate memo stages context
  have hplain := h.plain_seen _ s.payload (hruns.isPrefix.subset (List.mem_map_of_mem hs))
  simp only [Shadow.inquiry]
  split
  · exact .input _
  · exact hplain

end Guardrail
