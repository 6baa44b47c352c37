import Guardrail.Audit.Entry
import Guardrail.Proofs.JsonRead
import Guardrail.Proofs.Maps
import Guardrail.Proofs.Records

/-!
What is written into an audit is read back.

A value that has no number out of the range of its field, and whose maps are in order, is decoded from its own
document. Texts, maps and lists may hold anything. What is decoded is put together from the fields in turn, each of which
finds its own member. A record is also decoded from the document of an entry, in which there are times as well, because
members that are no fields are skipped.
-/

namespace Guardrail

namespace Keyed

variable {κ α : Type} [Ord κ] [Std.OrientedOrd κ]

lemma set_append {m : Keyed κ α} {k : κ} (h : ∀ x ∈ m, compare x.1 k = .lt) (v : α) : m.set k v = m ++ [(k, v)] := by
  induction m with
  | nil => rfl
  | cons x m ih =>
    obtain ⟨hx, hm⟩ := List.forall_mem_cons.mp h
    simp [set, Std.OrientedCmp.gt_of_lt hx, ih hm]

/-- A map that is in order is made of its own pairs. -/
lemma ofList_eq_self {m : Keyed κ α} (h : m.Ascending) : ofList m = m := by
  have hfold (seen rest : Keyed κ α) (h : Ascending (seen ++ rest)) :
      rest.foldl (fun m p => set p.1 p.2 m) seen = seen ++ rest := by
    induction rest generalizing seen with
    | nil => simp
    | cons x rest ih =>
      have hlast : ∀ y ∈ seen, compare y.1 x.1 = .lt := fun y hy =>
        (List.pairwise_append.mp h).2.2 y hy x List.mem_cons_self
      rw [List.foldl_cons, set_append hlast, ih _ (by simpa using h)]
      simp
  exact hfold [] m h

end Keyed

namespace Json

lemma sound_toDocument (j : Json) : j.toDocument.sound = true := by
  induction j using forall_of_parts with
  | arr items ih =>
    simp only [toDocument, toDocuments_eq, Document.sound, Bool.and_true]
    exact Document.itemsSound_iff.mpr (List.forall_mem_map.mpr ih)
  | obj members ih =>
    simp only [toDocument, memberDocuments_eq, Document.sound, Bool.and_true]
    exact Document.membersSound_iff.mpr (List.forall_mem_map.mpr ih)
  | _ => rfl

end Json

namespace Decode

open Json (Document)

/-! ### Decoding the document of a value -/

variable {α β κ : Type} {item : Decoder α} {j : Json} {a : α}

/-- A decoder gives back what a value was made of. -/
def Reads (item : Decoder α) (j : Json) (a : α) : Prop := item .text j.toDocument = .ok a

lemma reads_boolean (b : Bool) : Reads boolean (.bool b) b := rfl

lemma reads_number (x : Float) : Reads number (.ofFloat x) x := rfl

lemma reads_string (s : String) : Reads string (.str s) s := rfl

lemma reads_natural {bits n : ℕ} (h : n < 2 ^ bits) (type : String) : Reads (natural bits type) (.ofNat n) n := if_pos h

lemma reads_choice {names : List (String × α)} {s : String} (h : names.lookup s = some a) :
    Reads (choice names) (.str s) a := by
  simp [Reads, Json.toDocument, choice, variant, h]

lemma optional_toDocument (h : j ≠ .null) : optional item .text j.toDocument = (item .text j.toDocument).map some := by
  cases j with
  | null => exact absurd rfl h
  | _ => rfl

lemma reads_optional {f : α → Json} {g : α → β} {item : Decoder β} {x : Option α} (hnull : ∀ a, f a ≠ .null)
    (h : ∀ a ∈ x, Reads item (f a) (g a)) : Reads (optional item) (.ofOption f x) (x.map g) := by
  cases x with
  | none => rfl
  | some a =>
    have ha : item .text (f a).toDocument = .ok (g a) := h a rfl
    rw [Reads, Json.ofOption, optional_toDocument (hnull a), ha]
    rfl

lemma reads_nullable {s : Option α} {f : α → Json} (hnull : ∀ a, f a ≠ .null) (h : ∀ a, Reads item (f a) a) :
    Reads (optional item) (.ofOption f s) s := by
  simpa using reads_optional (g := id) hnull fun a (_ : a ∈ s) => h a

lemma reads_list {f : α → Json} {g : α → β} {item : Decoder β} {as : List α} (h : ∀ a ∈ as, Reads item (f a) (g a)) :
    Reads (list item) (.arr (as.map f)) (as.map g) := by
  have hitems : items item .text (Json.toDocuments (as.map f)) = .ok (as.map g) := by
    induction as with
    | nil => rfl
    | cons a as ih =>
      obtain ⟨ha, has⟩ := List.forall_mem_cons.mp h
      unfold Reads at ha
      simp [Json.toDocuments, items, ha, ih has, bind, Except.bind, pure, Except.pure]
  simp [Reads, Json.toDocument, list, hitems, bind, Except.bind, pure, Except.pure]

lemma reads_values {f : α → Json} {as : List α} (h : ∀ a ∈ as, Reads item (f a) a) :
    Reads (list item) (.arr (as.map f)) as := by
  simpa using reads_list (g := id) h

lemma reads_members {key : String → Except Fault κ} {name : κ → String} (hkey : ∀ k, key (name k) = .ok k)
    {f : α → Json} {m : List (κ × α)} (h : ∀ x ∈ m, Reads item (f x.2) x.2) :
    Reads (members key item) (.obj (m.map fun x => (name x.1, f x.2))) m := by
  have hentries : entries key item .text (Json.memberDocuments (m.map fun x => (name x.1, f x.2))) = .ok m := by
    induction m with
    | nil => rfl
    | cons x m ih =>
      obtain ⟨hx, hm⟩ := List.forall_mem_cons.mp h
      unfold Reads at hx
      simp [Json.memberDocuments, entries, hkey, hx, ih hm, bind, Except.bind, pure, Except.pure]
  simp [Reads, Json.toDocument, members, hentries, bind, Except.bind, pure, Except.pure]

namespace Fields

variable {fields : Fields α} {ms : List (String × Json)}

/-- Fields give back what an object was made of. -/
def Reads (fields : Fields α) (ms : List (String × Json)) (a : α) : Prop :=
  ∀ n, fields.run .text (.members (Json.memberDocuments ms)) n = .ok a

lemma find?_memberDocuments {name : String} (place : ℕ) (h : ms.lookup name = some j) :
    ∃ found, find? name place (Json.memberDocuments ms) = some (found, j.toDocument) := by
  induction ms generalizing place with
  | nil => cases h
  | cons m ms ih =>
    obtain ⟨k, v⟩ := m
    by_cases hk : k = name
    · subst hk
      obtain rfl : v = j := by simpa using h
      exact ⟨place, by simp [Json.memberDocuments, find?]⟩
    · rw [List.lookup_cons, beq_false_of_ne (Ne.symm hk)] at h
      simpa [Json.memberDocuments, find?, hk] using ih (place + 1) h

lemma lookup_of_mem (hkeys : (ms.map Prod.fst).Nodup) {m : String × Json} (hm : m ∈ ms) : ms.lookup m.1 = some m.2 := by
  induction ms with
  | nil => cases hm
  | cons m' ms ih =>
    obtain ⟨hfirst, hrest⟩ := List.nodup_cons.mp hkeys
    rcases List.mem_cons.mp hm with rfl | hm
    · exact List.lookup_cons_self
    · have hne : m.1 ≠ m'.1 := fun h => hfirst (h ▸ List.mem_map_of_mem hm)
      rw [List.lookup_cons, beq_false_of_ne hne]
      exact ih hrest hm

lemma reads_field {name : String} {absent short : Option α} (hj : ms.lookup name = some j)
    (h : Decode.Reads item j a) : (field name item absent short).Reads ms a := by
  intro n
  obtain ⟨found, hfound⟩ := find?_memberDocuments 0 hj
  unfold Decode.Reads at h
  simp [field, hfound, h, Except.mapError]

lemma Reads.map {f : α → β} (h : fields.Reads ms a) : (f <$> fields).Reads ms (f a) := by
  intro n
  simp [Functor.map, Fields.map, h n, Except.map]

lemma Reads.seq {f : Fields (α → β)} {g : α → β} (hf : f.Reads ms g) (h : fields.Reads ms a) :
    (f <*> fields).Reads ms (g a) := by
  intro n
  simp [Seq.seq, Fields.seq, hf n, h _]

/-- An object that has its keys only once is decoded by its fields. What else is in it is skipped. -/
lemma reads_object {title : String} (h : fields.Reads ms a) (hkeys : (ms.map Prod.fst).Nodup) :
    Decode.Reads (record title fields) (.obj ms) a := by
  have hkept : ((Json.memberDocuments ms).map Prod.fst).Nodup := by
    rwa [Json.memberDocuments_eq, List.map_map]
  have hsound : ∀ m ∈ Json.memberDocuments ms, m.2.sound = true := by
    rw [Json.memberDocuments_eq]
    exact List.forall_mem_map.mpr fun m _ => Json.sound_toDocument m.2
  exact (ofMembers_ok fun m hm => .inr (hsound m hm)).mpr
    ⟨rfl, fun name _ => List.nodup_iff_count_le_one.mp hkept name, h 0⟩

/-- A record whose members are its fields. -/
lemma reads_record {title : String} (h : fields.Reads ms a) (hnames : ms.map Prod.fst = fields.names)
    (hnodup : fields.names.Nodup) : Decode.Reads (record title fields) (.obj ms) a :=
  reads_object h (hnames ▸ hnodup)

/-- What is read wherever its members are found is decoded from them alone. -/
lemma reads_alone {title : String}
    (h : ∀ {found : List (String × Json)}, (∀ m ∈ ms, found.lookup m.1 = some m.2) → fields.Reads found a)
    (hnames : ms.map Prod.fst = fields.names) (hnodup : fields.names.Nodup) :
    Decode.Reads (record title fields) (.obj ms) a :=
  reads_record (h fun _ hm => lookup_of_mem (hnames ▸ hnodup) hm) hnames hnodup

end Fields

end Decode

/-! ### Risk -/

open Decode Fields

lemma Stage.reads (s : Stage) : Reads decoder (.str s.text) s := reads_choice (by cases s <;> rfl)

lemma Layer.reads (l : Layer) : Reads decoder (.str l.text) l := by
  obtain ⟨s, b⟩ := l
  exact reads_choice (by cases s <;> cases b <;> rfl)

lemma RiskLevel.reads (l : RiskLevel) : Reads decoder (.str l.text) l := reads_choice (by cases l <;> rfl)

/-- A map with texts for keys. -/
lemma reads_texts {α : Type} {item : Decoder α} {f : α → Json} {m : Keyed String α} (h : m.Ascending)
    (hitem : ∀ x ∈ m, Reads item (f x.2) x.2) :
    Reads (fun o d => (members .ok item o d).map Keyed.ofList) (.obj (m.map fun x => (x.1, f x.2))) m := by
  have hmembers : Decode.Reads (members .ok item) (.obj (m.map fun x => (id x.1, f x.2))) m :=
    reads_members (fun _ => rfl) hitem
  exact (congrArg (Except.map Keyed.ofList) hmembers).trans (congrArg Except.ok (Keyed.ofList_eq_self h))

/-- A map with layers for keys. -/
lemma reads_layers {α : Type} {item : Decoder α} {f : α → Json} {m : Keyed Layer α} (h : m.Ascending)
    (hitem : ∀ x ∈ m, Reads item (f x.2) x.2) : Reads (layersDecoder item) (layersToJson f m) m := by
  have hkey (l : Layer) : Layer.ofText l.text = .ok l := by
    obtain ⟨s, b⟩ := l
    cases s <;> cases b <;> rfl
  have hmembers : Decode.Reads (members Layer.ofText item) (layersToJson f m) m := reads_members hkey hitem
  exact (congrArg (Except.map Keyed.ofList) hmembers).trans (congrArg Except.ok (Keyed.ofList_eq_self h))

lemma reads_factors {m : Keyed String Float} (h : m.Ascending) : Reads factorsDecoder (factorsToJson m) m :=
  reads_texts h fun x _ => reads_number x.2

namespace RiskScore

/-- The factors are in order. -/
def Storable (s : RiskScore) : Prop := s.factors.Ascending

lemma reads_fields {s : RiskScore} (h : s.Storable) {ms : List (String × Json)}
    (hms : ∀ m ∈ s.members, ms.lookup m.1 = some m.2) : fields.Reads ms s := by
  simp only [members, List.forall_mem_cons] at hms
  obtain ⟨hlayer, hvalue, hlevel, hfactors, hexplanation, -⟩ := hms
  exact .seq (.seq (.seq (.seq (.map
    (reads_field hlayer (Layer.reads _)))
    (reads_field hvalue (reads_number _)))
    (reads_field hlevel (RiskLevel.reads _)))
    (reads_field hfactors (reads_factors h)))
    (reads_field hexplanation (reads_string _))

end RiskScore

/-- The number of threats fits into its field. -/
def ShadowDetail.Storable (d : ShadowDetail) : Prop := d.threats < 2 ^ 64

lemma ShadowDetail.reads {d : ShadowDetail} (h : d.Storable) : Reads decoder d.toJson d :=
  reads_record (.seq (.seq (.seq (.seq (.seq (.seq (.seq (.map
    (reads_field rfl (Stage.reads _)))
    (reads_field rfl (Layer.reads _)))
    (reads_field rfl (reads_number _)))
    (reads_field rfl (reads_number _)))
    (reads_field rfl (reads_boolean _)))
    (reads_field rfl (reads_nullable nofun reads_string)))
    (reads_field rfl (reads_boolean _)))
    (reads_field rfl (reads_natural h _))) rfl (by decide)

/-- The factors are in order. -/
def LayerDetail.Storable (d : LayerDetail) : Prop := d.factors.Ascending

lemma LayerDetail.reads {d : LayerDetail} (h : d.Storable) : Reads decoder d.toJson d :=
  reads_record (.seq (.seq (.seq (.seq (.seq (.map
    (reads_field rfl (Layer.reads _)))
    (reads_field rfl (reads_number _)))
    (reads_field rfl (RiskLevel.reads _)))
    (reads_field rfl (reads_number _)))
    (reads_field rfl (reads_number _)))
    (reads_field rfl (reads_factors h))) rfl (by decide)

/-- The maps are in order, and every part fits into its fields. -/
structure Breakdown.Storable (b : Breakdown) : Prop where
  weights : b.weights.Ascending
  layers : b.layers.Ascending
  details : ∀ x ∈ b.layers, x.2.Storable
  shadow : ∀ d ∈ b.shadow, d.Storable

lemma Breakdown.reads {b : Breakdown} (h : b.Storable) : Reads decoder b.toJson b :=
  reads_record (.seq (.seq (.seq (.seq (.seq (.map
    (reads_field rfl (reads_number _)))
    (reads_field rfl (reads_layers h.weights fun x _ => reads_number x.2)))
    (reads_field rfl (reads_number _)))
    (reads_field rfl (reads_number _)))
    (reads_field rfl (reads_layers h.layers fun x hx => LayerDetail.reads (h.details x hx))))
    (reads_field rfl (reads_values fun d hd => ShadowDetail.reads (h.shadow d hd)))) rfl (by decide)

namespace Aggregate

/-- The maps are in order, and every part fits into its fields. -/
structure Storable (a : Aggregate) : Prop where
  layerScores : a.layerScores.Ascending
  breakdown : a.breakdown.Storable

lemma reads_fields {a : Aggregate} (h : a.Storable) {ms : List (String × Json)}
    (hms : ∀ m ∈ a.members, ms.lookup m.1 = some m.2) : fields.Reads ms a := by
  simp only [members, List.forall_mem_cons] at hms
  obtain ⟨hscore, hlevel, hlayers, hbreakdown, hescalates, hreason, -⟩ := hms
  exact .seq (.seq (.seq (.seq (.seq (.map
    (reads_field hscore (reads_number _)))
    (reads_field hlevel (RiskLevel.reads _)))
    (reads_field hlayers (reads_layers h.layerScores fun x _ => reads_number x.2)))
    (reads_field hbreakdown (Breakdown.reads h.breakdown)))
    (reads_field hescalates (reads_boolean _)))
    (reads_field hreason (reads_nullable nofun reads_string))

end Aggregate

/-! ### Second opinions and what they cost -/

namespace Shadow

lemma Threat.reads (t : Threat) : Reads decoder t.toJson t :=
  reads_record (.seq (.seq (.map
    (reads_field rfl (reads_string _)))
    (reads_field rfl (reads_string _)))
    (reads_field rfl (reads_number _))) rfl (by decide)

/-- The counts fit into their fields. -/
structure Result.Storable (r : Result) : Prop where
  tokens : r.tokens < 2 ^ 32
  latency : r.latency < 2 ^ 64

lemma Result.reads {r : Result} (h : r.Storable) : Reads decoder r.toJson r := by
  have hreason (x : FallbackReason) : Reads FallbackReason.decoder (.str x.text) x :=
    reads_choice (by cases x <;> rfl)
  exact reads_record (.seq (.seq (.seq (.seq (.seq (.seq (.seq (.seq (.seq (.seq (.seq (.seq (.seq (.map
    (reads_field rfl (Stage.reads _)))
    (reads_field rfl (Layer.reads _)))
    (reads_field rfl (reads_number _)))
    (reads_field rfl (RiskLevel.reads _)))
    (reads_field rfl (reads_number _)))
    (reads_field rfl (reads_values fun t _ => Threat.reads t)))
    (reads_field rfl (reads_string _)))
    (reads_field rfl (reads_string _)))
    (reads_field rfl (reads_string _)))
    (reads_field rfl (reads_natural h.tokens _)))
    (reads_field rfl (reads_natural h.latency _)))
    (reads_field rfl (reads_boolean _)))
    (reads_field rfl (reads_nullable nofun hreason)))
    (reads_field rfl (reads_boolean _))) rfl (by decide)

namespace BreakerView

/-- The counts fit into their fields. -/
structure Storable (v : BreakerView) : Prop where
  failures : v.failures < 2 ^ 32
  successes : v.successes < 2 ^ 32

lemma reads_fields {v : BreakerView} (h : v.Storable) {ms : List (String × Json)}
    (hms : ∀ m ∈ v.members, ms.lookup m.1 = some m.2) : fields.Reads ms v := by
  have hstate (c : Circuit) : Decode.Reads Circuit.decoder (.str c.text) c := reads_choice (by cases c <;> rfl)
  simp only [members, List.forall_mem_cons] at hms
  obtain ⟨hname, hcircuit, hfailures, hsuccesses, -⟩ := hms
  exact .seq (.seq (.seq (.map
    (reads_field hname (reads_string _)))
    (reads_field hcircuit (hstate _)))
    (reads_field hfailures (reads_natural h.failures _)))
    (reads_field hsuccesses (reads_natural h.successes _))

end BreakerView

end Shadow

namespace Provider.Usage

/-- The counts fit into their fields. -/
structure Storable (u : Usage) : Prop where
  total : u.total < 2 ^ 32
  prompt : u.prompt < 2 ^ 32
  completion : u.completion < 2 ^ 32
  calls : u.calls < 2 ^ 32
  cacheHits : u.cacheHits < 2 ^ 32
  kept : u.kept < 2 ^ 32

lemma reads {u : Usage} (h : u.Storable) : Reads decoder u.toJson u :=
  reads_record (.seq (.seq (.seq (.seq (.seq (.seq (.map
    (reads_field rfl (reads_natural h.total _)))
    (reads_field rfl (reads_natural h.prompt _)))
    (reads_field rfl (reads_natural h.completion _)))
    (reads_field rfl (reads_natural h.calls _)))
    (reads_field rfl (reads_number _)))
    (reads_field rfl (reads_natural h.cacheHits _)))
    (reads_field rfl (reads_natural h.kept _))) rfl (by decide)

end Provider.Usage

/-! ### Requests -/

/-- The counts fit into their fields, and the notes are in order. -/
structure RequestContext.Storable (c : RequestContext) : Prop where
  violations : c.violations < 2 ^ 32
  escalations : c.escalations < 2 ^ 32
  metadata : c.metadata.Ascending

lemma RequestContext.reads {c : RequestContext} (h : c.Storable) : Reads (decoder none) c.toJson c := by
  have htext {x : Option String} : Decode.Reads (optional string) (.ofOption .str x) x :=
    reads_nullable nofun reads_string
  exact reads_record (.seq (.seq (.seq (.seq (.seq (.seq (.seq (.seq (.map
    (reads_field rfl (reads_string _)))
    (reads_field rfl htext))
    (reads_field rfl htext))
    (reads_field rfl htext))
    (reads_field rfl (reads_number _)))
    (reads_field rfl (reads_natural h.violations _)))
    (reads_field rfl (reads_natural h.escalations _)))
    (reads_field rfl (reads_boolean _)))
    (reads_field rfl (reads_texts h.metadata fun x _ => reads_string x.2))) rfl
    (by decide)

lemma HardBlock.reads (b : HardBlock) : Reads decoder b.toJson b := by
  have hcategory (c : Category) : Decode.Reads Category.decoder (.str c.text) c := reads_choice (by cases c <;> rfl)
  exact reads_record (.seq (.seq (.map
    (reads_field rfl (hcategory _)))
    (reads_field rfl (Layer.reads _)))
    (reads_field rfl (reads_string _))) rfl (by decide)

/-! ### Records and entries -/

namespace Audit

section

variable {σ α β σ' α' β' : Type} {score : Decoder σ'} {risk : Decoder α'} {breaker : Decoder β'} {ofScore : σ → Json}
  {ofRisk : α → Json} {ofBreaker : β → Json} {f : σ → σ'} {g : α → α'} {k : β → β'} {P : σ → Prop} {Q : α → Prop}
  {R : β → Prop}

/-- Every part fits into its fields. What this is for a score, an overall risk and a breaker is given. -/
structure Record.Storable (P : σ → Prop) (Q : α → Prop) (R : β → Prop) (r : Record σ α β) : Prop where
  scores : ∀ s ∈ r.scores, P s
  aggregated : ∀ a ∈ r.aggregated, Q a
  results : ∀ x ∈ r.results, x.Storable
  usage : r.usage.Storable
  breakers : ∀ b ∈ r.breakers, R b
  context : r.context.Storable
  latency : r.latency < 2 ^ 64

lemma Record.reads_fields {r : Record σ α β} (h : r.Storable P Q R) (hscore : ∀ s, P s → Reads score (ofScore s) (f s))
    (hnull : ∀ a, ofRisk a ≠ .null) (hrisk : ∀ a, Q a → Reads risk (ofRisk a) (g a))
    (hbreaker : ∀ b, R b → Reads breaker (ofBreaker b) (k b)) {ms : List (String × Json)}
    (hms : ∀ m ∈ r.members ofScore ofRisk ofBreaker, ms.lookup m.1 = some m.2) :
    (Record.fields score risk breaker).Reads ms (r.map f g k) := by
  have hruling (x : Ruling) : Decode.Reads Ruling.decoder (.str x.text) x := reads_choice (by cases x <;> rfl)
  simp only [members, List.forall_mem_cons] at hms
  obtain ⟨hid, hversion, hdecision, hreason, hblock, hscores, haggregated, hescalated, hresults, husage, hviews,
    hcontext, hlatency, -⟩ := hms
  exact .seq (.seq (.seq (.seq (.seq (.seq (.seq (.seq (.seq (.seq (.seq (.seq (.map
    (reads_field hid (reads_string _)))
    (reads_field hversion (reads_string _)))
    (reads_field hdecision (hruling _)))
    (reads_field hreason (reads_nullable nofun reads_string)))
    (reads_field hblock (reads_nullable nofun HardBlock.reads)))
    (reads_field hscores (reads_list fun s hs => hscore s (h.scores s hs))))
    (reads_field haggregated (reads_optional hnull fun a ha => hrisk a (h.aggregated a ha))))
    (reads_field hescalated (reads_boolean _)))
    (reads_field hresults (reads_values fun x hx => Shadow.Result.reads (h.results x hx))))
    (reads_field husage (Provider.Usage.reads h.usage)))
    (reads_field hviews (reads_list fun b hb => hbreaker b (h.breakers b hb))))
    (reads_field hcontext (RequestContext.reads h.context)))
    (reads_field hlatency (reads_natural h.latency _))

@[simp] lemma Record.map_id (r : Record σ α β) : r.map id id id = r := by
  simp [Record.map]

end

/-- A record is decoded from its own document. -/
lemma Record.reads {r : Record}
    (h : r.Storable RiskScore.Storable Aggregate.Storable Shadow.BreakerView.Storable) :
    Reads decoder r.toJson r := by
  refine reads_alone (fun hms => ?_) rfl (by decide)
  have hnull (a : Aggregate) : a.toJson ≠ .null := Json.noConfusion
  have hread : (fields RiskScore.decoder Aggregate.decoder Shadow.BreakerView.decoder).Reads _ (r.map id id id) :=
    reads_fields h (fun s hs => reads_alone (RiskScore.reads_fields hs) rfl (by decide)) hnull
      (fun a ha => reads_alone (Aggregate.reads_fields ha) rfl (by decide))
      (fun b hb => reads_alone (Shadow.BreakerView.reads_fields hb) rfl (by decide)) hms
  rwa [map_id] at hread

variable {τ α : Type} {clock : Clock τ}

lemma Clock.reads (hclock : ∀ t, clock.read (clock.text t) = .ok t) (t : τ) :
    Reads clock.decoder (clock.toJson t) t := by
  simp [Decode.Reads, toJson, Json.toDocument, decoder, hclock, Except.mapError]

namespace Dated

variable {d : Dated τ α} {title key : String} {fields : Fields α} {members : α → List (String × Json)}

lemma toJson_ne_null (d : Dated τ α) : d.toJson clock key members ≠ .null := by
  rw [toJson]
  nofun

lemma nodup_keys (hnames : (members d.value).map Prod.fst = fields.names) (hnodup : (fields.names ++ [key]).Nodup)
    (j : Json) : ((members d.value ++ [(key, j)]).map Prod.fst).Nodup := by
  simpa [hnames] using hnodup

/-- A value is decoded with its time. -/
lemma reads (hclock : ∀ t, clock.read (clock.text t) = .ok t)
    (h : ∀ {ms}, (∀ m ∈ members d.value, ms.lookup m.1 = some m.2) → fields.Reads ms d.value)
    (hnames : (members d.value).map Prod.fst = fields.names) (hnodup : (fields.names ++ [key]).Nodup) :
    Reads (record title (Dated.fields clock key fields)) (d.toJson clock key members) d := by
  have hkeys := nodup_keys hnames hnodup (clock.toJson d.time)
  refine reads_object (.seq (.map (h fun m hm => ?_))
    (reads_field ?_ (Clock.reads hclock _))) hkeys
  · exact lookup_of_mem hkeys (List.mem_append_left _ hm)
  · exact lookup_of_mem hkeys (List.mem_append_right _ (List.mem_singleton_self _))

/-- A value is decoded without its time. -/
lemma reads_value (h : ∀ {ms}, (∀ m ∈ members d.value, ms.lookup m.1 = some m.2) → fields.Reads ms d.value)
    (hnames : (members d.value).map Prod.fst = fields.names) (hnodup : (fields.names ++ [key]).Nodup) :
    Reads (record title fields) (d.toJson clock key members) d.value := by
  have hkeys := nodup_keys hnames hnodup (clock.toJson d.time)
  exact reads_object (h fun m hm => lookup_of_mem hkeys (List.mem_append_left _ hm)) hkeys

end Dated

namespace Entry

/-- Every part fits into its fields. -/
def Storable (e : Entry τ) : Prop :=
  e.value.Storable (fun s => s.value.Storable) (fun a => a.value.Storable) (fun b => b.value.Storable)

variable {e : Entry τ}

lemma nodup_keys (clock : Clock τ) (e : Entry τ) : ((members clock e).map Prod.fst).Nodup := by
  have hnames : (members clock e).map Prod.fst =
      (Record.fields RiskScore.decoder Aggregate.decoder Shadow.BreakerView.decoder).names.insertIdx 1 "timestamp" :=
    rfl
  rw [hnames]
  decide

lemma mem_members {clock : Clock τ} {m : String × Json} : m ∈ members clock e ↔
    m = ("timestamp", clock.toJson e.time) ∨ m ∈ DatedRecord.members clock e.value :=
  List.mem_insertIdx (by simp [DatedRecord.members, Record.members])

/-- **Entries.** An entry is decoded from its own document. -/
theorem reads (hclock : ∀ t, clock.read (clock.text t) = .ok t) (h : Storable e) :
    Reads (decoder clock) (toJson clock e) e := by
  have hkeys := nodup_keys clock e
  have hrecord : (DatedRecord.fields clock).Reads (members clock e) (e.value.map id id id) :=
    Record.reads_fields h
      (fun s hs => Dated.reads hclock (RiskScore.reads_fields hs) rfl (by decide)) Dated.toJson_ne_null
      (fun a ha => Dated.reads hclock (Aggregate.reads_fields ha) rfl (by decide))
      (fun b hb => Dated.reads hclock (Shadow.BreakerView.reads_fields hb) rfl (by decide))
      fun m hm => lookup_of_mem hkeys (mem_members.mpr (.inr hm))
  rw [Record.map_id] at hrecord
  exact reads_object (.seq (.map hrecord)
    (reads_field (lookup_of_mem hkeys (mem_members.mpr (.inl rfl))) (Clock.reads hclock _))) hkeys

/-- The record of an entry is decoded from the document of the entry. -/
theorem reads_plain (clock : Clock τ) (h : Storable e) : Reads Record.decoder (toJson clock e) (plain e) := by
  have hkeys := nodup_keys clock e
  exact reads_object (Record.reads_fields h
    (fun s hs => Dated.reads_value (RiskScore.reads_fields hs) rfl (by decide)) Dated.toJson_ne_null
    (fun a ha => Dated.reads_value (Aggregate.reads_fields ha) rfl (by decide))
    (fun b hb => Dated.reads_value (Shadow.BreakerView.reads_fields hb) rfl (by decide))
    fun m hm => lookup_of_mem hkeys (mem_members.mpr (.inr hm))) hkeys

end Entry

end Audit

end Guardrail
