import Guardrail.Proofs.Decoded
import Guardrail.Proofs.Fallbacks
import Guardrail.Proofs.Reports

/-!
What is remembered was said.

A pipeline in use begins requests, ends the parts of their agents in any order, goes on to other rules, and
loses opinions that it remembers. Whatever is remembered then is a verdict that a model came to earlier, under
a key with the same hash, and so is every result that is given as a remembered one. Where keys do not clash and
versions tell rules apart, its level is the one that the rules of the request give it.
-/

namespace Guardrail

open Shadow

/-! ### Fresh opinions -/

namespace Shadow

/-- A model is asked under the thresholds of the inquiry. -/
lemma Agent.level_of_asksModel {a : Agent} {q : Inquiry} {reply : Reply} {o : Opinion}
    (ha : a.asksModel = true) (ho : (a.analyse q reply).outcome = .ok o) :
    o.result.level = q.thresholds.classify o.result.score := by
  obtain ⟨_, _, _, hopinion⟩ := opinion_of_asksModel ha ho
  exact (Inquiry.of_opinion hopinion).2.1

lemma cache_seat (p : Panel) (now : ℕ) (q : Inquiry) : (p.seat now q).2.cache = p.cache := by
  rcases p.seat_eq now q with ⟨-, h⟩ | ⟨slot, -, ⟨r, -, h⟩ | ⟨-, h⟩⟩ <;> rw [h]
  exact p.cache_updateBreaker ..

lemma cache_seatAll (p : Panel) (now : ℕ) (qs : List Inquiry) : (p.seatAll now qs).2.cache = p.cache := by
  induction qs generalizing p with
  | nil => rfl
  | cons q qs ih => exact (ih (p.seat now q).2).trans (cache_seat p now q)

lemma Panel.AsksModels.follows {p p' : Panel} (h : p.AsksModels) (hp : p.Follows p') : p'.AsksModels := by
  intro s a ha
  rw [hp.agent?] at ha
  exact h s a ha

end Shadow

/-! ### A pipeline in use -/

/-- The part of an agent that is under way, with the rules of its request and the time it has. -/
structure Errand where
  engine : Engine
  part : Part
  start : ℕ
  deadline : ℕ

/-- A part that has ended: what the provider did, if it was asked, and what came of it. -/
structure Ended where
  errand : Errand
  reply : Reply
  result : Result

/-- What a part was asked. -/
def Ended.inquiry (e : Ended) : Inquiry := e.errand.part.inquiry

/-- A pipeline, the parts that are under way, and those that have ended, the latest first. -/
structure Traffic where
  pipeline : Pipeline
  underway : List Errand
  log : List Ended

/-- What else may happen to a panel. -/
inductive Upkeep where
  | touch (agent : Stage) (t : Touch)
  | refresh (now : ℕ)
  | forget
  | evict (keep : String → Bool)

/-- The event that it is for the panel. -/
def Upkeep.event : Upkeep → PanelEvent
  | touch agent t => .touch agent t
  | refresh now => .refresh now
  | forget => .forget
  | evict keep => .evict keep

/-- What may happen to a pipeline. -/
inductive Event where
  /-- A request begins. -/
  | begins (now : ℕ) (r : Request)
  /-- One of the parts under way ends. -/
  | ends (i : ℕ) (reply : Reply)
  /-- The rules are exchanged. -/
  | swap (engine : Engine)
  | upkeep (u : Upkeep)

namespace Traffic

/-- Nothing is under way. -/
def start (p : Pipeline) : Traffic := ⟨p, [], []⟩

/-- The parts of a request, on their way. -/
def errands (x : Pending) : List Errand :=
  (x.parts.getD []).map fun part => ⟨x.engine, part, x.start, x.deadline⟩

/-- What an event makes of it all. -/
def step (s : Traffic) : Event → Traffic
  | .begins now r =>
    { s with pipeline := (s.pipeline.begin now r).2, underway := s.underway ++ errands (s.pipeline.begin now r).1 }
  | .ends i reply =>
    match s.underway[i]?, s.pipeline.panel with
    | some w, some panel =>
      let done := w.part.finish panel w.start w.deadline reply
      { pipeline := { s.pipeline with panel := some done.2 }
        underway := s.underway.eraseIdx i
        log := ⟨w, reply, done.1.1.result⟩ :: s.log }
    | _, _ => s
  | .swap engine => { s with pipeline := (s.pipeline.swap engine).2 }
  | .upkeep u => { s with pipeline := { s.pipeline with panel := s.pipeline.panel.map (·.step u.event) } }

/-- What a history makes of it all. -/
def run (s : Traffic) (events : List Event) : Traffic := events.foldl step s

/-- The rules that there are in a history. -/
def rules (p : Pipeline) (events : List Event) : List Engine :=
  p.engine :: events.filterMap fun
    | .swap engine => some engine
    | _ => none

end Traffic

/-! ### What is remembered -/

/-- A model was asked, and what came of it is the verdict in its answer. -/
structure Ended.Analysed (e : Ended) : Prop where
  working : ∃ permit, e.errand.part.seat = .working permit
  verdict : ∃ o, (e.errand.part.agent.analyse e.inquiry e.reply).outcome = .ok o ∧ e.result = o.result

/-- A verdict of the log was remembered under this hash. -/
def Backed (log : List Ended) (hash : String) (r : Result) : Prop :=
  ∃ e ∈ log, e.Analysed ∧ e.inquiry.key.hash = hash ∧ e.result = r

lemma Backed.mono {log log' : List Ended} {hash : String} {r : Result} (h : Backed log hash r)
    (hlog : ∀ e ∈ log, e ∈ log') : Backed log' hash r := by
  obtain ⟨e, he, hrest⟩ := h
  exact ⟨e, hlog e he, hrest⟩

/-- A part follows rules: its agent asks a model, under the thresholds and the version of the rules, about a payload
that can be told from others by its text. -/
structure Errand.Ruled (w : Errand) (engines : List Engine) : Prop where
  engine : w.engine ∈ engines
  thresholds : w.part.inquiry.thresholds = w.engine.config.thresholds
  version : w.part.inquiry.ruleVersion = w.engine.version
  model : w.part.agent.asksModel = true
  payload : w.part.inquiry.payload.Plain

/-- Everything that is remembered, in the cache or by a part under way, is backed by the log, and so is every
result given as a remembered one by what was in the log before. -/
structure Traffic.Sound (s : Traffic) (engines : List Engine) : Prop where
  engine : s.pipeline.engine ∈ engines
  models : ∀ p ∈ s.pipeline.panel, p.AsksModels
  cache : ∀ p ∈ s.pipeline.panel, ∀ c ∈ p.cache, ∀ x ∈ c.entries, Backed s.log x.1 x.2
  underway : ∀ w ∈ s.underway, w.Ruled engines
  seated : ∀ w ∈ s.underway, ∀ r, w.part.seat = .remembered r → Backed s.log w.part.inquiry.key.hash r
  ruled : ∀ e ∈ s.log, e.errand.Ruled engines
  told : ∀ e earlier, e :: earlier <:+ s.log → e.result.cached = true →
    ∃ r, Backed earlier e.inquiry.key.hash r ∧ e.result = { r with cached := true }

namespace Ended

variable {e : Ended} {engines : List Engine}

/-- A verdict is no fallback, was not remembered, and has the level that its rules give it. -/
lemma Analysed.fresh (he : e.Analysed) (hruled : e.errand.Ruled engines) : e.result.fallbackUsed = false ∧
    e.result.fallbackReason = none ∧ e.result.cached = false ∧
      e.result.level = e.errand.engine.config.thresholds.classify e.result.score := by
  obtain ⟨o, ho, hresult⟩ := he.verdict
  obtain ⟨-, hused, hreason, hcached⟩ := Agent.fresh_of_asksModel hruled.model ho
  rw [hresult, ← hruled.thresholds]
  exact ⟨hused, hreason, hcached, Agent.level_of_asksModel hruled.model ho⟩

end Ended

/-! ### One event -/

namespace Shadow

lemma Panel.mem_of_remembered? {p : Panel} {q : Inquiry} {r : Result} (h : p.remembered? q = some r) :
    ∃ c ∈ p.cache, (q.key.hash, r) ∈ c.entries := by
  obtain ⟨c, hc, hr⟩ := Option.bind_eq_some_iff.mp h
  exact ⟨c, hc, Keyed.mem_of_get? hr⟩

lemma Cache.mem_insert {c : Cache} {hash : String} {r : Result} {x : String × Result}
    (h : x ∈ (c.insert hash r).entries) : x = (hash, r) ∨ x ∈ c.entries := by
  unfold insert at h
  split at h
  · exact .inr h
  · exact Keyed.mem_set h

/-- How a part ends, as far as what is remembered goes: it repeats what it remembered, or its agent has come to
a verdict, or there is none. -/
lemma Part.Ends.remembers {x : Part} {p : Panel} {start deadline : ℕ} {reply : Reply}
    {e : (Contribution × ℕ) × Panel} (h : x.Ends p start deadline reply e) :
    (∃ r, x.seat = .remembered r ∧ e.2 = p ∧
        e.1.1.result = { r with cached := true, fallbackUsed := false, fallbackReason := none }) ∨
      (∃ permit o, x.seat = .working permit ∧ (x.agent.analyse x.inquiry reply).outcome = .ok o ∧
        e.1.1.result = o.result ∧ e.2.cache = p.cache.map (·.insert x.inquiry.key.hash o.result)) ∨
      e.1.1.result.cached = false ∧ e.2.cache = p.cache := by
  cases h with
  | remembered seat => exact .inl ⟨_, seat, rfl, rfl⟩
  | refused seat => exact .inr (.inr ⟨rfl, rfl⟩)
  | gone now seat gone => exact .inr (.inr ⟨rfl, rfl⟩)
  | @answered permit o now seat outcome =>
    refine .inr (.inl ⟨permit, o, seat, outcome, rfl, ?_⟩)
    simp only [Panel.remember, Panel.cache_updateBreaker]
  | @failed permit error now seat failed =>
    refine .inr (.inr ⟨?_, p.cache_updateBreaker ..⟩)
    rcases failed with rfl | ⟨e', rfl, -⟩ <;> rfl
  | @dropped permit now seat late => exact .inr (.inr ⟨rfl, p.cache_updateBreaker ..⟩)

/-- A new panel remembers nothing. -/
lemma Panel.empty_ofAgents {c : Config} {agents : List Agent} {p : Panel} (h : ofAgents c agents = .ok p) :
    ∀ cache ∈ p.cache, cache.entries = [] := by
  intro cache hcache
  simp only [ofAgents, bind_ok] at h
  obtain ⟨-, -, slots, -, h⟩ := h
  split at h
  · cases h
  · obtain rfl := Except.ok.inj h
    simp only at hcache
    split at hcache <;> cases hcache
    rfl

/-- Upkeep remembers nothing new. -/
lemma Panel.mem_cache_upkeep {p : Panel} {u : Upkeep} {c : Cache} (hc : c ∈ (p.step u.event).cache) {x : String × Result}
    (hx : x ∈ c.entries) : ∃ c' ∈ p.cache, x ∈ c'.entries := by
  cases u with
  | touch agent t =>
    rw [Upkeep.event, Panel.step, Panel.cache_updateBreaker] at hc
    exact ⟨c, hc, hx⟩
  | refresh now => exact ⟨c, hc, hx⟩
  | forget =>
    obtain ⟨c', -, rfl⟩ := Option.map_eq_some_iff.mp hc
    cases hx
  | evict keep =>
    obtain ⟨c', hc', rfl⟩ := Option.map_eq_some_iff.mp hc
    exact ⟨c', hc', List.mem_of_mem_filter hx⟩

end Shadow

lemma Pipeline.begin_seats (p : Pipeline) (now : ℕ) (r : Request) :
    (p.begin now r).2.engine = p.engine ∧ (p.begin now r).1.engine = p.engine ∧
      ((p.begin now r).1.parts = none ∧ (p.begin now r).2.panel = p.panel ∨
        ∃ panel qs, p.panel = some panel ∧ (∀ q ∈ qs, q.thresholds = p.engine.config.thresholds ∧
            q.ruleVersion = p.engine.version ∧ (r.stages.FromJson → q.payload.Plain)) ∧
          (p.begin now r).1.parts = some (panel.seatAll now qs).1 ∧
          (p.begin now r).2.panel = some (panel.seatAll now qs).2) := by
  have hinquiries : ∀ q ∈ inquiries p.engine (p.engine.evaluate p.memo r.stages r.context).1 r.context,
      q.thresholds = p.engine.config.thresholds ∧ q.ruleVersion = p.engine.version ∧
        (r.stages.FromJson → q.payload.Plain) := by
    intro q hq
    refine ⟨?_, ?_, fun hread => hread.plain_inquiries p.engine p.memo r.context q hq⟩
    all_goals
      obtain ⟨stage, -, rfl⟩ := List.mem_map.mp hq
      rfl
  simp only [begin]
  split
  · next panel hpanel _ => exact ⟨rfl, rfl, .inr ⟨panel, _, hpanel, hinquiries, rfl, rfl⟩⟩
  · exact ⟨rfl, rfl, .inl ⟨rfl, rfl⟩⟩

namespace Traffic

variable {s : Traffic} {engines : List Engine}

/-- A part that has just been seated follows the rules of the pipeline. -/
lemma Sound.ruled_seated (h : s.Sound engines) {panel : Panel} (hpanel : s.pipeline.panel = some panel) {now : ℕ}
    {qs : List Inquiry} (hqs : ∀ q ∈ qs, q.thresholds = s.pipeline.engine.config.thresholds ∧
      q.ruleVersion = s.pipeline.engine.version ∧ q.payload.Plain) {w : Errand}
    (hengine : w.engine = s.pipeline.engine) (hw : w.part ∈ (panel.seatAll now qs).1) : w.Ruled engines := by
  have hq : w.part.inquiry ∈ qs := by
    have hmem := List.mem_map_of_mem (f := (·.inquiry)) hw
    rw [panel.inquiries_seatAll] at hmem
    exact List.mem_of_mem_filter hmem
  obtain ⟨hthresholds, hversion, hplain⟩ := hqs _ hq
  exact ⟨by rw [hengine]; exact h.engine, by rw [hengine]; exact hthresholds, by rw [hengine]; exact hversion,
    h.models panel hpanel _ _ (Panel.agent_seatAll hw), hplain⟩

/-- What a part remembers that has just been seated was in the cache. -/
lemma Sound.backed_seated (h : s.Sound engines) {panel : Panel} (hpanel : s.pipeline.panel = some panel) {now : ℕ}
    {qs : List Inquiry} {x : Part} {r : Result} (hx : x ∈ (panel.seatAll now qs).1) (hr : x.seat = .remembered r) :
    Backed s.log x.inquiry.key.hash r := by
  obtain ⟨c, hc, hmem⟩ := Panel.mem_of_remembered? (Panel.remembered_seatAll hx hr)
  exact h.cache panel hpanel c hc _ hmem

lemma Sound.begins (h : s.Sound engines) (now : ℕ) {r : Request} (hread : r.stages.FromJson) :
    (s.step (.begins now r)).Sound engines := by
  obtain ⟨hengine, hrules, hparts⟩ := s.pipeline.begin_seats now r
  rcases hparts with ⟨hparts, hpanel⟩ | ⟨panel, qs, hpanel, hqs, hparts, hpanel'⟩
  · have herrands : errands (s.pipeline.begin now r).1 = [] := by simp [errands, hparts]
    simp only [step, herrands, List.append_nil]
    exact ⟨by rw [hengine]; exact h.engine, by rw [hpanel]; exact h.models, by rw [hpanel]; exact h.cache,
      h.underway, h.seated, h.ruled, h.told⟩
  · -- the parts of the request, on the panel on which they began
    have hpart : ∀ w ∈ errands (s.pipeline.begin now r).1,
        w.part ∈ (panel.seatAll now qs).1 ∧ w.engine = s.pipeline.engine := by
      intro w hw
      rw [errands, hparts] at hw
      obtain ⟨x, hx, rfl⟩ := List.mem_map.mp hw
      exact ⟨hx, hrules⟩
    constructor
    · exact hengine ▸ h.engine
    · intro p hp
      rw [step, hpanel'] at hp
      obtain rfl := Option.some.inj hp
      exact (h.models panel hpanel).follows (panel.follows_seatAll now qs)
    · intro p hp c hc x hx
      rw [step, hpanel'] at hp
      obtain rfl := Option.some.inj hp
      rw [cache_seatAll] at hc
      exact h.cache panel hpanel c hc x hx
    · refine fun w hw => (List.mem_append.mp hw).elim (h.underway w) fun hw => ?_
      refine h.ruled_seated hpanel (fun q hq => ?_) (hpart w hw).2 (hpart w hw).1
      obtain ⟨hthresholds, hversion, hplain⟩ := hqs q hq
      exact ⟨hthresholds, hversion, hplain hread⟩
    · refine fun w hw r hr => (List.mem_append.mp hw).elim (fun hw => h.seated w hw r hr) fun hw => ?_
      exact h.backed_seated hpanel (hpart w hw).1 hr
    · exact h.ruled
    · exact h.told

/-- What is remembered once a part has ended is backed by the log with that part. -/
lemma Sound.backed_ended (h : s.Sound engines) {panel : Panel} (hpanel : s.pipeline.panel = some panel) {w : Errand}
    {reply : Reply} {done : (Contribution × ℕ) × Panel} (hends : w.part.Ends panel w.start w.deadline reply done) :
    ∀ c ∈ done.2.cache, ∀ x ∈ c.entries, Backed (⟨w, reply, done.1.1.result⟩ :: s.log) x.1 x.2 := by
  have hbefore : ∀ c ∈ panel.cache, ∀ x ∈ c.entries, Backed (⟨w, reply, done.1.1.result⟩ :: s.log) x.1 x.2 :=
    fun c hc x hx => (h.cache panel hpanel c hc x hx).mono fun _ => List.mem_cons_of_mem _
  rcases hends.remembers with ⟨r, -, hsame, -⟩ | ⟨permit, o, hseat, ho, hresult, hstored⟩ | ⟨-, hsame⟩
  · rwa [hsame]
  · intro c hc x hx
    rw [hstored] at hc
    obtain ⟨c', hc', rfl⟩ := Option.map_eq_some_iff.mp hc
    rcases Cache.mem_insert hx with rfl | hx
    · exact ⟨_, List.mem_cons_self, ⟨⟨permit, hseat⟩, o, ho, hresult⟩, rfl, hresult⟩
    · exact hbefore c' hc' x hx
  · rwa [hsame]

/-- A part that ends with a remembered result repeats what the log backs. -/
lemma Sound.told_ended (h : s.Sound engines) {panel : Panel} {w : Errand} (hw : w ∈ s.underway) {reply : Reply}
    {done : (Contribution × ℕ) × Panel} (hends : w.part.Ends panel w.start w.deadline reply done)
    (hcached : done.1.1.result.cached = true) :
    ∃ r, Backed s.log w.part.inquiry.key.hash r ∧ done.1.1.result = { r with cached := true } := by
  rcases hends.remembers with ⟨r, hseat, -, hresult⟩ | ⟨permit, o, hseat, ho, hresult, -⟩ | ⟨hfresh, -⟩
  · have hbacked := h.seated w hw r hseat
    refine ⟨r, hbacked, ?_⟩
    obtain ⟨e, he, hanalysed, -, hr⟩ := hbacked
    obtain ⟨hused, hreason, -, -⟩ := hanalysed.fresh (h.ruled e he)
    rw [hr] at hused hreason
    rw [hresult]
    cases r
    simp_all
  -- an answer of a model is not marked as remembered
  · obtain ⟨-, -, -, hfresh⟩ := Agent.fresh_of_asksModel (h.underway w hw).model ho
    rw [hresult, hfresh] at hcached
    cases hcached
  · rw [hfresh] at hcached
    cases hcached

lemma Sound.ends (h : s.Sound engines) (i : ℕ) (reply : Reply) : (s.step (.ends i reply)).Sound engines := by
  simp only [step]
  split
  · next w panel hw hpanel =>
    have hwmem := List.mem_of_getElem? hw
    have hends := w.part.ends panel w.start w.deadline reply
    generalize w.part.finish panel w.start w.deadline reply = done at hends ⊢
    have herase : ∀ w' ∈ s.underway.eraseIdx i, w' ∈ s.underway := fun w' => List.mem_of_mem_eraseIdx
    constructor
    · exact h.engine
    · rintro p ⟨⟩
      exact (h.models panel hpanel).follows hends.follows
    · rintro p ⟨⟩
      exact h.backed_ended hpanel hends
    · exact fun w' hw' => h.underway w' (herase w' hw')
    · exact fun w' hw' r hr => (h.seated w' (herase w' hw') r hr).mono fun _ => List.mem_cons_of_mem _
    · exact List.forall_mem_cons.mpr ⟨h.underway w hwmem, h.ruled⟩
    · intro e earlier hsuffix hcached
      rcases List.suffix_cons_iff.mp hsuffix with heq | hsuffix
      · obtain ⟨rfl, rfl⟩ := List.cons.inj heq
        exact h.told_ended hwmem hends hcached
      · exact h.told e earlier hsuffix hcached
  · exact h

lemma Sound.swap (h : s.Sound engines) {engine : Engine} (hengine : engine ∈ engines) :
    (s.step (.swap engine)).Sound engines :=
  ⟨hengine, h.models, h.cache, h.underway, h.seated, h.ruled, h.told⟩

lemma Sound.upkeep (h : s.Sound engines) (u : Upkeep) : (s.step (.upkeep u)).Sound engines := by
  refine ⟨h.engine, ?_, ?_, h.underway, h.seated, h.ruled, h.told⟩
  · intro p hp
    obtain ⟨panel, hpanel, rfl⟩ := Option.map_eq_some_iff.mp hp
    exact (h.models panel hpanel).follows (panel.follows_step u.event)
  · intro p hp c hc x hx
    obtain ⟨panel, hpanel, rfl⟩ := Option.map_eq_some_iff.mp hp
    obtain ⟨c', hc', hx⟩ := Panel.mem_cache_upkeep hc hx
    exact h.cache panel hpanel c' hc' x hx

/-! ### Histories -/

lemma Sound.run (h : s.Sound engines) {events : List Event}
    (hengines : ∀ engine, .swap engine ∈ events → engine ∈ engines)
    (hread : ∀ now r, .begins now r ∈ events → r.stages.FromJson) : (s.run events).Sound engines := by
  induction events generalizing s with
  | nil => exact h
  | cons event events ih =>
    refine ih ?_ (fun engine hmem => hengines engine (List.mem_cons_of_mem _ hmem))
      fun now r hmem => hread now r (List.mem_cons_of_mem _ hmem)
    cases event with
    | begins now r => exact h.begins now (hread now r List.mem_cons_self)
    | ends i reply => exact h.ends i reply
    | swap engine => exact h.swap (hengines engine List.mem_cons_self)
    | upkeep u => exact h.upkeep u

lemma sound_start {c : Config} {agents : List Agent} {panel : Panel} (hpanel : Panel.ofAgents c agents = .ok panel)
    (hmodels : ∀ a ∈ agents, a.asksModel = true) {p : Pipeline} (hp : p.panel = some panel)
    (hengine : p.engine ∈ engines) : (start p).Sound engines := by
  have hasks : panel.AsksModels := by
    have h := (Panel.asksModels_run hpanel hmodels []).1
    rwa [Panel.run_nil] at h
  have honly : ∀ p' ∈ (start p).pipeline.panel, p' = panel := fun p' hp' =>
    Option.some.inj (Eq.trans (Eq.symm hp') hp)
  constructor
  · exact hengine
  · intro p' hp'
    rw [honly p' hp']
    exact hasks
  · intro p' hp' c' hc' x hx
    rw [honly p' hp'] at hc'
    rw [Panel.empty_ofAgents hpanel c' hc'] at hx
    exact absurd hx List.not_mem_nil
  · exact fun _ h => absurd h List.not_mem_nil
  · exact fun _ h => absurd h List.not_mem_nil
  · exact fun _ h => absurd h List.not_mem_nil
  · exact fun e earlier h => absurd (List.suffix_nil.mp h) (List.cons_ne_nil e earlier)

end Traffic

/-! ### What a remembered result says -/

/-- The result of a part repeats, as remembered, the verdict that another part ended with, about the same payload. -/
structure Ended.Recalls (e e' : Ended) : Prop where
  analysed : e'.Analysed
  result : e.result = { e'.result with cached := true }
  version : e'.inquiry.ruleVersion = e.inquiry.ruleVersion
  agent : e'.inquiry.agent = e.inquiry.agent
  payload : e'.inquiry.payload = e.inquiry.payload

namespace Traffic

variable {c : Config} {agents : List Agent} {panel : Panel} {p : Pipeline}

/-- The document of a request about an input and an answer. -/
def answeredDocument : Json.Document := .obj [("input", .str "x"), ("output", .obj [("text", .str "y")] true)] true

/-- Two requests with the same input: a model is asked about the first one, and never answers again. -/
def twice : List Event :=
  [.begins 0 Pipeline.answeredRequest, .ends 0 (oneReply .input), .begins 200 Pipeline.answeredRequest, .ends 1 silence]

lemma fromJson_answeredRequest : Pipeline.answeredRequest.stages.FromJson := by
  refine StageInputs.fromJson_of_decoder .text answeredDocument _ (.obj _ _ ?_) rfl
  simp only [List.forall_mem_cons]
  refine ⟨.str _, .obj _ _ ?_, List.forall_mem_nil _⟩
  simp only [List.forall_mem_cons]
  exact ⟨.str _, List.forall_mem_nil _⟩

end Traffic

end Guardrail
