import Guardrail.Proofs.AuditRecords
import Guardrail.Proofs.JsonRead
import Guardrail.Proofs.ScoreOrder

/-!
What a reader that mistakes doubles takes an audit for.

For what is written into an audit, to change the doubles in a value and to change those in its document come to the
same.
-/

namespace Guardrail

namespace Json

lemma ofOption_map {α β : Type} (g : β → Json) (k : α → β) (x : Option α) :
    ofOption g (x.map k) = ofOption (fun a => g (k a)) x := by
  cases x <;> rfl

lemma mapFloats_ofOption {f : Float → Float} {α : Type} (g : α → Json) (x : Option α) :
    (ofOption g x).mapFloats f = ofOption (fun a => (g a).mapFloats f) x := by
  cases x with
  | none => rfl
  | some a => rfl

end Json

/-! ### Doubles in an audit -/

variable {f : Float → Float}

lemma factorsToJson_mapValues (m : Keyed String Float) :
    factorsToJson (m.mapValues f) = (factorsToJson m).mapFloats f := by
  simp [factorsToJson, Keyed.mapValues]

lemma layersToJson_mapValues {α : Type} {toJson : α → Json} {g : α → α} (h : ∀ a, toJson (g a) = (toJson a).mapFloats f)
    (m : Keyed Layer α) : layersToJson toJson (m.mapValues g) = (layersToJson toJson m).mapFloats f := by
  simp [layersToJson, Keyed.mapValues, h]

namespace RiskScore

/-- A score with its doubles changed. -/
def mapFloats (f : Float → Float) (s : RiskScore) : RiskScore :=
  { s with value := f s.value, factors := s.factors.mapValues f }

lemma members_mapFloats (s : RiskScore) : (s.mapFloats f).members = s.members.map fun m => (m.1, m.2.mapFloats f) := by
  simp [members, mapFloats, factorsToJson_mapValues]

lemma Storable.mapFloats {s : RiskScore} (h : s.Storable) : (s.mapFloats f).Storable := Keyed.Ascending.mapValues h f

end RiskScore

/-- A second opinion in short with its doubles changed. -/
def ShadowDetail.mapFloats (f : Float → Float) (d : ShadowDetail) : ShadowDetail :=
  { d with score := f d.score, confidence := f d.confidence }

lemma ShadowDetail.toJson_mapFloats (d : ShadowDetail) : (d.mapFloats f).toJson = d.toJson.mapFloats f := by
  simp [toJson, mapFloats, Json.mapFloats_ofOption]

/-- A contribution with its doubles changed. -/
def LayerDetail.mapFloats (f : Float → Float) (d : LayerDetail) : LayerDetail :=
  { d with
    score := f d.score, weight := f d.weight, contribution := f d.contribution, factors := d.factors.mapValues f }

lemma LayerDetail.toJson_mapFloats (d : LayerDetail) : (d.mapFloats f).toJson = d.toJson.mapFloats f := by
  simp [toJson, mapFloats, factorsToJson_mapValues]

namespace Breakdown

/-- A breakdown with its doubles changed. -/
def mapFloats (f : Float → Float) (b : Breakdown) : Breakdown where
  base := f b.base
  weights := b.weights.mapValues f
  trustMultiplier := f b.trustMultiplier
  strictMultiplier := f b.strictMultiplier
  layers := b.layers.mapValues (LayerDetail.mapFloats f)
  shadow := b.shadow.map (ShadowDetail.mapFloats f)

lemma toJson_mapFloats (b : Breakdown) : (b.mapFloats f).toJson = b.toJson.mapFloats f := by
  simp [toJson, mapFloats, layersToJson_mapValues (fun x => (Json.mapFloats_ofFloat x).symm),
    layersToJson_mapValues LayerDetail.toJson_mapFloats, ShadowDetail.toJson_mapFloats]

lemma Storable.mapFloats {b : Breakdown} (h : b.Storable) : (b.mapFloats f).Storable where
  weights := h.weights.mapValues f
  layers := h.layers.mapValues _
  details := List.forall_mem_map.mpr fun x hx => Keyed.Ascending.mapValues (h.details x hx) f
  shadow := List.forall_mem_map.mpr h.shadow

end Breakdown

namespace Aggregate

/-- An overall risk with its doubles changed. -/
def mapFloats (f : Float → Float) (a : Aggregate) : Aggregate :=
  { a with score := f a.score, layerScores := a.layerScores.mapValues f, breakdown := a.breakdown.mapFloats f }

lemma members_mapFloats (a : Aggregate) : (a.mapFloats f).members = a.members.map fun m => (m.1, m.2.mapFloats f) := by
  simp [members, mapFloats, layersToJson_mapValues (fun x => (Json.mapFloats_ofFloat x).symm),
    Breakdown.toJson_mapFloats, Json.mapFloats_ofOption]

lemma Storable.mapFloats {a : Aggregate} (h : a.Storable) : (a.mapFloats f).Storable :=
  ⟨h.layerScores.mapValues f, h.breakdown.mapFloats⟩

end Aggregate

namespace Shadow

/-- A threat with its double changed. -/
def Threat.mapFloats (f : Float → Float) (t : Threat) : Threat := { t with severity := f t.severity }

lemma Threat.toJson_mapFloats (t : Threat) : (t.mapFloats f).toJson = t.toJson.mapFloats f := by
  simp [toJson, mapFloats]

/-- A result with its doubles changed. -/
def Result.mapFloats (f : Float → Float) (r : Result) : Result :=
  { r with score := f r.score, confidence := f r.confidence, threats := r.threats.map (Threat.mapFloats f) }

lemma Result.toJson_mapFloats (r : Result) : (r.mapFloats f).toJson = r.toJson.mapFloats f := by
  simp [toJson, mapFloats, Threat.toJson_mapFloats, Json.mapFloats_ofOption]

lemma BreakerView.members_mapFloats (v : BreakerView) : v.members = v.members.map fun m => (m.1, m.2.mapFloats f) := by
  simp [members]

end Shadow

/-- A tally with its double changed. -/
def Provider.Usage.mapFloats (f : Float → Float) (u : Usage) : Usage := { u with cost := f u.cost }

lemma Provider.Usage.toJson_mapFloats (u : Usage) : (u.mapFloats f).toJson = u.toJson.mapFloats f := by
  simp [toJson, mapFloats]

/-- A request with its double changed. -/
def RequestContext.mapFloats (f : Float → Float) (c : RequestContext) : RequestContext := { c with trust := f c.trust }

lemma RequestContext.toJson_mapFloats (c : RequestContext) : (c.mapFloats f).toJson = c.toJson.mapFloats f := by
  simp [toJson, mapFloats, Json.mapFloats_ofOption]

lemma HardBlock.toJson_mapFloats (b : HardBlock) : b.toJson.mapFloats f = b.toJson := by
  simp [toJson]

namespace Audit

variable {τ α : Type} {clock : Clock τ}

/-- A value changed, and its time kept. -/
def Dated.map (g : α → α) (d : Dated τ α) : Dated τ α := ⟨g d.value, d.time⟩

lemma Dated.toJson_map {members : α → List (String × Json)} {g : α → α}
    (h : ∀ a, members (g a) = (members a).map fun m => (m.1, m.2.mapFloats f)) {key : String} (d : Dated τ α) :
    (d.map g).toJson clock key members = (d.toJson clock key members).mapFloats f := by
  simp [toJson, map, h, Clock.toJson]

/-- A record with its doubles changed. -/
def DatedRecord.mapFloats (f : Float → Float) (r : DatedRecord τ) : DatedRecord τ :=
  { r with
    scores := r.scores.map (Dated.map (RiskScore.mapFloats f))
    aggregated := r.aggregated.map (Dated.map (Aggregate.mapFloats f))
    results := r.results.map (Shadow.Result.mapFloats f)
    usage := r.usage.mapFloats f
    context := r.context.mapFloats f }

lemma DatedRecord.members_mapFloats (r : DatedRecord τ) :
    members clock (mapFloats f r) = (members clock r).map fun m => (m.1, m.2.mapFloats f) := by
  have hscore (s : Dated τ RiskScore) : (s.map (RiskScore.mapFloats f)).toJson clock "timestamp" RiskScore.members =
      (s.toJson clock "timestamp" RiskScore.members).mapFloats f := Dated.toJson_map RiskScore.members_mapFloats s
  have hrisk (a : Dated τ Aggregate) : (a.map (Aggregate.mapFloats f)).toJson clock "timestamp" Aggregate.members =
      (a.toJson clock "timestamp" Aggregate.members).mapFloats f := Dated.toJson_map Aggregate.members_mapFloats a
  have hbreaker (b : Dated τ Shadow.BreakerView) : b.toJson clock "last_state_change" Shadow.BreakerView.members =
      (b.toJson clock "last_state_change" Shadow.BreakerView.members).mapFloats f :=
    Dated.toJson_map (g := id) Shadow.BreakerView.members_mapFloats b
  simp [members, mapFloats, Record.members, hscore, hrisk, Json.ofOption_map, Json.mapFloats_ofOption,
    Shadow.Result.toJson_mapFloats, Provider.Usage.toJson_mapFloats, RequestContext.toJson_mapFloats,
    HardBlock.toJson_mapFloats]
  exact fun b _ => hbreaker b

namespace Entry

/-- An entry with its doubles changed. -/
def mapFloats (f : Float → Float) (e : Entry τ) : Entry τ := e.map (DatedRecord.mapFloats f)

lemma toJson_mapFloats (e : Entry τ) : toJson clock (e.mapFloats f) = (toJson clock e).mapFloats f := by
  simp [toJson, members, mapFloats, Dated.map, DatedRecord.members_mapFloats, List.map_insertIdx, Clock.toJson]

lemma Storable.mapFloats {e : Entry τ} (h : Storable e) : Storable (e.mapFloats f) where
  scores := List.forall_mem_map.mpr fun s hs => (h.scores s hs).mapFloats
  aggregated := Option.forall_mem_map.mpr fun a ha => (h.aggregated a ha).mapFloats
  results := List.forall_mem_map.mpr fun x hx => ⟨(h.results x hx).tokens, (h.results x hx).latency⟩
  usage := ⟨h.usage.total, h.usage.prompt, h.usage.completion, h.usage.calls, h.usage.cacheHits, h.usage.kept⟩
  breakers := h.breakers
  context := ⟨h.context.violations, h.context.escalations, h.context.metadata⟩
  latency := h.latency

end Entry

end Audit

end Guardrail
