import Guardrail.Proofs.Acceptance
import Guardrail.Proofs.DoubleOrder
import Guardrail.Proofs.JsonRead
import Guardrail.Proofs.Records
import Guardrail.Rules.RuleSet

/-!
What is written down is read back.
-/

namespace Guardrail

open Json (Document)

namespace Decode

/-- A document of the shape of a value in which each literal is read as what the value has in its place. Of
numbers this is asked where they are finite or fit into sixty-four bits. -/
inductive Reproduces (o : Origin) : Json → Document → Prop
  | null {d : Document} (h : ∀ (α : Type) (item : Decoder α), optional item o d = .ok none) : Reproduces o .null d
  | bool {b : Bool} {d : Document} (h : boolean o d = .ok b) : Reproduces o (.bool b) d
  | nat {n : ℕ} {d : Document} (h : n < 2 ^ 64 → ∀ type, natural 64 type o d = .ok n) :
    Reproduces o (.num (.nat n)) d
  | neg {n : ℕ} {d : Document} (h : d = .num (.neg n) ∨ d = .plain (Json.Number.neg n).text) :
    Reproduces o (.num (.neg n)) d
  | float {x : Float} {d : Document} (h : x.isFinite = true → number o d = .ok x) : Reproduces o (.num (.float x)) d
  | str {s : String} {d : Document} (h : d = .str s ∨ d = .plain s) : Reproduces o (.str s) d
  | noItem : Reproduces o (.arr []) (.arr [] true)
  | item {j : Json} {d : Document} {js : List Json} {ds : List Document} (h : Reproduces o j d)
    (hrest : Reproduces o (.arr js) (.arr ds true)) : Reproduces o (.arr (j :: js)) (.arr (d :: ds) true)
  | noMember : Reproduces o (.obj []) (.obj [] true)
  | member (k : String) {j : Json} {d : Document} {ms : List (String × Json)} {ds : List (String × Document)}
    (h : Reproduces o j d) (hrest : Reproduces o (.obj ms) (.obj ds true)) :
    Reproduces o (.obj ((k, j) :: ms)) (.obj ((k, d) :: ds) true)

/-- The document of a value reproduces it. -/
lemma reproduces_toDocument (o : Origin) (j : Json) : Reproduces o j j.toDocument := by
  induction j using Json.forall_of_parts with
  | null => exact .null fun _ _ => rfl
  | bool b => exact .bool rfl
  | num n =>
    cases n with
    | nat n => exact .nat fun hn type => if_pos hn
    | neg n => exact .neg (.inl rfl)
    | float x => exact .float fun _ => rfl
  | str s => exact .str (.inl rfl)
  | arr items ih =>
    induction items with
    | nil => exact .noItem
    | cons j items ihitems =>
      obtain ⟨hj, hitems⟩ := List.forall_mem_cons.mp ih
      exact .item hj (ihitems hitems)
  | obj members ih =>
    induction members with
    | nil => exact .noMember
    | cons m members ihmembers =>
      obtain ⟨hm, hmembers⟩ := List.forall_mem_cons.mp ih
      exact .member m.1 hm (ihmembers hmembers)

/-- A decoder gives back what a value was made of, whatever document reproduces the value. -/
def Recovers {α : Type} (item : Decoder α) (j : Json) (a : α) : Prop :=
  ∀ o d, Reproduces o j d → item o d = .ok a

variable {α β : Type} {item : Decoder α} {j : Json} {a : α}

lemma recovers_boolean (b : Bool) : Recovers boolean (.bool b) b := by
  intro o d h
  cases h with
  | bool h => exact h

lemma recovers_natural {n : ℕ} (hn : n < 2 ^ 64) (type : String) : Recovers (natural 64 type) (.ofNat n) n := by
  intro o d h
  cases h with
  | nat h => exact h hn type

lemma recovers_number {x : Float} (hx : x.isFinite = true) : Recovers number (.ofFloat x) x := by
  intro o d h
  cases h with
  | float h => exact h hx

lemma recovers_string (s : String) : Recovers string (.str s) s := by
  intro o d h
  cases h with
  | str h => rcases h with rfl | rfl <;> rfl

lemma recovers_choice {names : List (String × α)} {s : String} (h : names.lookup s = some a) :
    Recovers (choice names) (.str s) a := by
  intro o d hd
  cases hd with
  | str hd => rcases hd with rfl | rfl <;> simp [choice, variant, h]

lemma recovers_list {f : α → Json} {as : List α} (h : ∀ a ∈ as, Recovers item (f a) a) :
    Recovers (list item) (.arr (as.map f)) as := by
  have hitems (o : Origin) (d : Document) (hd : Reproduces o (.arr (as.map f)) d) :
      ∃ ds, d = .arr ds true ∧ items item o ds = .ok as := by
    induction as generalizing d with
    | nil =>
      cases hd
      exact ⟨[], rfl, rfl⟩
    | cons a as ih =>
      obtain ⟨ha, has⟩ := List.forall_mem_cons.mp h
      cases hd with
      | @item j d js ds hd hrest =>
        obtain ⟨_, ⟨⟩, hds⟩ := ih has _ hrest
        exact ⟨d :: ds, rfl, by simp [items, ha o d hd, hds, bind, Except.bind, pure, Except.pure]⟩
  intro o d hd
  obtain ⟨ds, rfl, hds⟩ := hitems o d hd
  simp [list, hds, bind, Except.bind, pure, Except.pure]

namespace Fields

variable {ms : List (String × Json)} {ds : List (String × Document)} {o : Origin} {fields : Fields α}

/-- Fields give back what an object was made of. -/
def Recovers (fields : Fields α) (ms : List (String × Json)) (a : α) : Prop :=
  ∀ o ds n, Reproduces o (.obj ms) (.obj ds true) → fields.run o (.members ds) n = .ok a

lemma find?_of_lookup {name : String} (place : ℕ) (h : Reproduces o (.obj ms) (.obj ds true))
    (hj : ms.lookup name = some j) : ∃ found, find? name place ds = some found ∧ Reproduces o j found.2 := by
  induction ms generalizing ds place with
  | nil => cases hj
  | cons m ms ih =>
    cases h with
    | @member k v d _ ds hd hrest =>
      by_cases hk : k = name
      · subst hk
        obtain rfl : v = j := by simpa using hj
        exact ⟨(place, d), by simp [find?], hd⟩
      · rw [List.lookup_cons, beq_false_of_ne (Ne.symm hk)] at hj
        simpa [find?, hk] using ih (place + 1) hrest hj

lemma recovers_field {name : String} {absent short : Option α} (hj : ms.lookup name = some j)
    (h : Decode.Recovers item j a) : (field name item absent short).Recovers ms a := by
  intro o ds n hds
  obtain ⟨found, hfound, hd⟩ := find?_of_lookup 0 hds hj
  simp [field, hfound, h o found.2 hd, Except.mapError]

lemma Recovers.map {f : α → β} (h : fields.Recovers ms a) : (f <$> fields).Recovers ms (f a) := by
  intro o ds n hds
  simp [Functor.map, Fields.map, h o ds n hds, Except.map]

lemma Recovers.seq {f : Fields (α → β)} {g : α → β} (hf : f.Recovers ms g) (h : fields.Recovers ms a) :
    (f <*> fields).Recovers ms (g a) := by
  intro o ds n hds
  simp [Seq.seq, Fields.seq, hf o ds n hds, h o ds _ hds]

/-- What reproduces an object is an object under the same keys. -/
lemma exists_members {d : Document} (h : Reproduces o (.obj ms) d) :
    ∃ ds, d = .obj ds true ∧ ds.map Prod.fst = ms.map Prod.fst := by
  induction ms generalizing d with
  | nil =>
    cases h
    exact ⟨[], rfl, rfl⟩
  | cons m ms ih =>
    cases h with
    | @member k j d _ ds hd hrest =>
      obtain ⟨_, ⟨⟩, hkeys⟩ := ih hrest
      exact ⟨(k, d) :: ds, rfl, by simp [hkeys]⟩

/-- A record whose members are its fields, each under its name and only once. -/
lemma recovers_record {title : String} (h : fields.Recovers ms a) (hnames : ms.map Prod.fst = fields.names)
    (hnodup : fields.names.Nodup) : Decode.Recovers (record title fields) (.obj ms) a := by
  intro o d hd
  obtain ⟨ds, rfl, hkeys⟩ := exists_members hd
  rw [hnames] at hkeys
  refine (ofMembers_ok fun m hm => .inl ?_).mpr ⟨rfl, ?_, h o ds 0 hd⟩
  · exact hkeys ▸ List.mem_map_of_mem hm
  · exact fun name _ => List.nodup_iff_count_le_one.mp (hkeys ▸ hnodup) name

end Fields

end Decode

/-! ### Parameters of scoring -/

open Decode Fields

/-- The counts of a configuration are of sixty-four bits. -/
structure ScoringConfig.Sized (c : ScoringConfig) : Prop where
  luhnCapacity : c.inputGuard.luhnCapacity < 2 ^ 64
  loopWindow : c.stateMonitor.loopWindow < 2 ^ 64
  loopRepeats : c.stateMonitor.loopRepeats < 2 ^ 64
  progressWindow : c.stateMonitor.progressWindow < 2 ^ 64
  promptNgram : c.outputGuard.promptNgram < 2 ^ 64
  maxTextBytes : c.maxTextBytes < 2 ^ 64

/-- A number that was found to lie in `[0, 1]`. -/
lemma Decode.recovers_unit {x : Float} (h : 0 ≤ x ∧ x ≤ 1) : Recovers number (.ofFloat x) x :=
  recovers_number (Double.isFinite_of_mem_unit h.1 h.2)

lemma Thresholds.recovers {t : Thresholds} (h : t.validate = .ok ()) : Recovers decoder t.toJson t := by
  obtain ⟨h0low, hlow, hmedium, hhigh, hcritical1⟩ := ordered_iff.mp (validate_ok.mp h)
  have h0medium := Scalar.lt_trans h0low hlow
  have h0high := Scalar.lt_trans h0medium hmedium
  have h0critical := Scalar.lt_trans h0high hhigh
  have hhigh1 := Scalar.Ordered.le_trans (Scalar.le_of_lt hhigh) hcritical1
  have hmedium1 := Scalar.Ordered.le_trans (Scalar.le_of_lt hmedium) hhigh1
  have hlow1 := Scalar.Ordered.le_trans (Scalar.le_of_lt hlow) hmedium1
  exact recovers_record (.seq (.seq (.seq (.map
    (recovers_field rfl (recovers_unit ⟨Scalar.le_of_lt h0low, hlow1⟩)))
    (recovers_field rfl (recovers_unit ⟨Scalar.le_of_lt h0medium, hmedium1⟩)))
    (recovers_field rfl (recovers_unit ⟨Scalar.le_of_lt h0high, hhigh1⟩)))
    (recovers_field rfl (recovers_unit ⟨Scalar.le_of_lt h0critical, hcritical1⟩))) rfl (by decide)

lemma InputGuardConfig.recovers {c : InputGuardConfig} (h : c.validate = .ok ()) (hcapacity : c.luhnCapacity < 2 ^ 64) :
    Recovers decoder c.toJson c := by
  simp only [InputGuardConfig.validate, check_ok, checkWeights_ok, checkPositive_ok, List.forall_mem_cons] at h
  obtain ⟨⟨⟨hpii, hinjection, -⟩, -⟩, hnormalization, -⟩ := h
  have hweights : Recovers InputWeights.decoder
      (.obj [("pii", .ofFloat c.weights.pii), ("injection", .ofFloat c.weights.injection)]) c.weights :=
    recovers_record (.seq (.map (recovers_field rfl (recovers_unit hpii)))
      (recovers_field rfl (recovers_unit hinjection))) rfl (by decide)
  exact recovers_record (.seq (.seq (.seq (.seq (.map (recovers_field rfl hweights))
    (recovers_field rfl (recovers_number hnormalization.2))) (recovers_field rfl (recovers_boolean _)))
    (recovers_field rfl (recovers_boolean _))) (recovers_field rfl (recovers_natural hcapacity _))) rfl (by decide)

lemma StateMonitorConfig.recovers {c : StateMonitorConfig} (h : c.validate = .ok ())
    (hwindow : c.loopWindow < 2 ^ 64) (hrepeats : c.loopRepeats < 2 ^ 64) (hprogress : c.progressWindow < 2 ^ 64) :
    Recovers decoder c.toJson c := by
  simp only [StateMonitorConfig.validate, check_ok, checkWeights_ok, checkUnit_ok, List.forall_mem_cons] at h
  obtain ⟨⟨⟨hlooping, hcost, hlack, -⟩, -⟩, -, -, hflag⟩ := h
  have hweights : Recovers StateWeights.decoder (.obj [("loop", .ofFloat c.weights.looping),
      ("cost", .ofFloat c.weights.cost), ("progress", .ofFloat c.weights.progress)]) c.weights :=
    recovers_record (.seq (.seq (.map (recovers_field rfl (recovers_unit hlooping)))
      (recovers_field rfl (recovers_unit hcost))) (recovers_field rfl (recovers_unit hlack))) rfl (by decide)
  exact recovers_record (.seq (.seq (.seq (.seq (.seq (.map (recovers_field rfl hweights))
    (recovers_field rfl (recovers_natural hwindow _))) (recovers_field rfl (recovers_natural hrepeats _)))
    (recovers_field rfl (recovers_natural hprogress _))) (recovers_field rfl (recovers_unit hflag)))
    (recovers_field rfl (recovers_boolean _))) rfl (by decide)

lemma OutputGuardConfig.recovers {c : OutputGuardConfig} (h : c.validate = .ok ()) (hngram : c.promptNgram < 2 ^ 64) :
    Recovers decoder c.toJson c := by
  simp only [OutputGuardConfig.validate, check_ok, checkWeights_ok, checkPositive_ok, checkUnit_ok,
    List.forall_mem_cons] at h
  obtain ⟨⟨⟨hleak, hvalidation, hnew, -⟩, -⟩, hnormalization, hempty, -⟩ := h
  have hweights : Recovers OutputWeights.decoder (.obj [("leak", .ofFloat c.weights.leak),
      ("validation", .ofFloat c.weights.validation), ("new_pii", .ofFloat c.weights.newPii)]) c.weights :=
    recovers_record (.seq (.seq (.map (recovers_field rfl (recovers_unit hleak)))
      (recovers_field rfl (recovers_unit hvalidation))) (recovers_field rfl (recovers_unit hnew))) rfl (by decide)
  exact recovers_record (.seq (.seq (.seq (.seq (.map (recovers_field rfl hweights))
    (recovers_field rfl (recovers_number hnormalization.2))) (recovers_field rfl (recovers_natural hngram _)))
    (recovers_field rfl (recovers_unit hempty))) (recovers_field rfl (recovers_boolean _))) rfl (by decide)

lemma AggregationConfig.recovers {c : AggregationConfig} (h : c.validate = .ok ()) : Recovers decoder c.toJson c := by
  simp only [AggregationConfig.validate_ok, checkWeights_ok, LayerWeights.named, List.forall_mem_cons] at h
  obtain ⟨⟨⟨hinput, hstate, houtput, -⟩, -⟩, htrust, hstrict⟩ := h
  have hweights : Recovers LayerWeights.decoder (.obj [("input_guard", .ofFloat c.layerWeights.inputGuard),
      ("state_monitor", .ofFloat c.layerWeights.stateMonitor),
      ("output_guard", .ofFloat c.layerWeights.outputGuard)]) c.layerWeights :=
    recovers_record (.seq (.seq (.map (recovers_field rfl (recovers_unit hinput)))
      (recovers_field rfl (recovers_unit hstate))) (recovers_field rfl (recovers_unit houtput))) rfl (by decide)
  exact recovers_record (.seq (.seq (.seq (.seq (.map (recovers_field rfl hweights))
    (recovers_field rfl (recovers_boolean _))) (recovers_field rfl (recovers_number htrust.2)))
    (recovers_field rfl (recovers_boolean _))) (recovers_field rfl (recovers_number hstrict.2))) rfl (by decide)

lemma EscalationConfig.recovers {c : EscalationConfig} (h : c.validate = .ok ()) : Recovers decoder c.toJson c := by
  obtain ⟨hshadow, hcritical, -⟩ := validate_ok.mp h
  exact recovers_record (.seq (.seq (.map (recovers_field rfl (recovers_boolean _)))
    (recovers_field rfl (recovers_unit hshadow))) (recovers_field rfl (recovers_unit hcritical))) rfl (by decide)

lemma Category.recovers (c : Category) : Recovers decoder (.str c.text) c :=
  recovers_choice (by cases c <;> rfl)

lemma ScoringConfig.recovers {c : ScoringConfig} (h : c.validate = .ok ()) (hsized : c.Sized) :
    Recovers decoder c.toJson c := by
  obtain ⟨hthresholds, hinput, hstate, houtput, haggregation, hescalation, -⟩ := validate_ok.mp h
  exact recovers_record (.seq (.seq (.seq (.seq (.seq (.seq (.seq (.map
    (recovers_field rfl (Thresholds.recovers hthresholds)))
    (recovers_field rfl (InputGuardConfig.recovers hinput hsized.luhnCapacity)))
    (recovers_field rfl
      (StateMonitorConfig.recovers hstate hsized.loopWindow hsized.loopRepeats hsized.progressWindow)))
    (recovers_field rfl (OutputGuardConfig.recovers houtput hsized.promptNgram)))
    (recovers_field rfl (AggregationConfig.recovers haggregation)))
    (recovers_field rfl (EscalationConfig.recovers hescalation)))
    (recovers_field rfl (recovers_list fun k _ => Category.recovers k)))
    (recovers_field rfl (recovers_natural hsized.maxTextBytes _))) rfl (by decide)

/-! ### Rule sets -/

namespace Rules

variable [Pattern.Dialect]

lemma Definition.recovers {d : Definition} {c : Compiled} (h : d.compile = .ok c) : Recovers decoder d.toJson d := by
  obtain ⟨hconfidence, hseverity, -⟩ := compile_ok.mp h
  exact recovers_record (.seq (.seq (.seq (.seq (.map
    (recovers_field rfl (recovers_string d.id))) (recovers_field rfl (Category.recovers d.category)))
    (recovers_field rfl (recovers_string d.pattern))) (recovers_field rfl (recovers_unit hconfidence)))
    (recovers_field rfl (recovers_unit hseverity))) rfl (by decide)

lemma Library.recovers {l : Library} (h : ∀ d ∈ l.all, ∃ c, d.compile = .ok c) : Recovers decoder l.toJson l := by
  have hfamily (ds : List Definition) (hds : ∀ d ∈ ds, d ∈ l.all) :
      Recovers (list Definition.decoder) (.arr (ds.map Definition.toJson)) ds :=
    recovers_list fun d hd => (h d (hds d hd)).elim fun _ => Definition.recovers
  simp only [Library.all, List.mem_append] at hfamily
  exact recovers_record (.seq (.seq (.map
    (recovers_field rfl (hfamily l.pii fun d hd => .inl (.inl hd))))
    (recovers_field rfl (hfamily l.injection fun d hd => .inl (.inr hd))))
    (recovers_field rfl (hfamily l.leak fun d hd => .inr hd))) rfl (by decide)

/-- **Rule sets.** A rule set that is accepted is decoded from every document that reproduces it. -/
theorem RuleSet.recovers {r : RuleSet} (h : r.validate = .ok ()) (hsized : r.scoring.Sized) :
    Recovers decoder r.toJson r := by
  obtain ⟨-, hscoring, hpatterns⟩ := validate_ok.mp h
  exact recovers_record (.seq (.seq (.map (recovers_field rfl (recovers_string r.version)))
    (recovers_field rfl (Library.recovers (compile_of_validateFrom hpatterns))))
    (recovers_field rfl (ScoringConfig.recovers hscoring hsized))) rfl (by decide)

end Rules

end Guardrail
