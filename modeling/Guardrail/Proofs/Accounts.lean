import Guardrail.Proofs.Decisions
import Guardrail.Proofs.Remembered

/-!
What second opinions cost is accounted for exactly.

A tally accounts for results if its numbers are those that the results themselves tell. Each part of a request
comes to a result and a tally that accounts for it; tallies that are put together account for all the results;
and the running total of a pipeline is the sum over the decisions, in whatever order the requests begin, come to
their results and are decided.
-/

namespace Guardrail

open Shadow

/-! ### Tallies and results -/

/-- A model has just answered it with a verdict. -/
def Shadow.Result.fresh (r : Result) : Bool := !r.cached && !r.fallbackUsed

namespace Provider.Usage

/-- The whole numbers of a tally. -/
def counts : List (Usage → ℕ) := [total, prompt, completion, calls, cacheHits, kept]

/-- A tally is that of results. -/
structure AccountsFor (u : Usage) (results : List Result) : Prop where
  calls : u.calls = (results.filter (·.fresh)).length
  cacheHits : u.cacheHits = (results.filter (·.cached)).length
  total : u.total = ((results.filter (·.fresh)).map (·.tokens)).sum
  /-- All tokens are those of questions and those of answers. -/
  split : u.total = u.prompt + u.completion
  /-- Without a question no tokens were kept. -/
  kept : u.calls = 0 → u.kept = 0

lemma accountsFor_zero : zero.AccountsFor [] := ⟨rfl, rfl, rfl, rfl, fun _ => rfl⟩

lemma AccountsFor.merge {u v : Usage} {results results' : List Result} (h : u.AccountsFor results)
    (h' : v.AccountsFor results') : (u.merge v).AccountsFor (results ++ results') where
  calls := by simp [Usage.merge, h.calls, h'.calls]
  cacheHits := by simp [Usage.merge, h.cacheHits, h'.cacheHits]
  total := by simp [Usage.merge, h.total, h'.total]
  split := by
    have := h.split
    have := h'.split
    simp only [Usage.merge]
    omega
  kept hcalls := by
    have hsum : u.calls + v.calls = 0 := hcalls
    simp only [Usage.merge, h.kept (by omega), h'.kept (by omega)]

/-- Contributions that are accounted for one by one are accounted for together. -/
lemma AccountsFor.foldl {u : Usage} {results : List Result} (h : u.AccountsFor results) (cs : List Contribution)
    (hcs : ∀ c ∈ cs, c.usage.AccountsFor [c.result]) :
    ((cs.map (·.usage)).foldl Usage.merge u).AccountsFor (results ++ cs.map (·.result)) := by
  induction cs generalizing u results with
  | nil => simpa using h
  | cons c cs ih =>
    obtain ⟨hc, hcs⟩ := List.forall_mem_cons.mp hcs
    have hrest := ih (h.merge hc) hcs
    rwa [List.append_assoc] at hrest

/-- Where nothing happened there is nothing to count. -/
lemma AccountsFor.count_eq_zero {u : Usage} {results : List Result} (h : u.AccountsFor results)
    (hempty : u.isEmpty = true) {count : Usage → ℕ} (hcount : count ∈ counts) : count u = 0 := by
  obtain ⟨hcalls, hhits⟩ : u.calls = 0 ∧ u.cacheHits = 0 := by simpa [isEmpty] using hempty
  have hnone : results.filter (·.fresh) = [] := List.length_eq_zero_iff.mp (h.calls.symm.trans hcalls)
  have htotal : u.total = 0 := by simp [h.total, hnone]
  have hsplit := h.split
  have hkept := h.kept hcalls
  simp only [counts, List.mem_cons, List.not_mem_nil, or_false] at hcount
  rcases hcount with rfl | rfl | rfl | rfl | rfl | rfl
  all_goals omega

/-- A running total grows by what is added to it, in every whole number. -/
lemma AccountsFor.count_meter {u : Usage} {results : List Result} (h : u.AccountsFor results) (running : Usage)
    {count : Usage → ℕ} (hcount : count ∈ counts) : count (running.meter u) = count running + count u := by
  unfold meter
  split
  · next hempty => rw [h.count_eq_zero hempty hcount, Nat.add_zero]
  · simp only [counts, List.mem_cons, List.not_mem_nil, or_false] at hcount
    rcases hcount with rfl | rfl | rfl | rfl | rfl | rfl
    all_goals rfl

end Provider.Usage

/-! ### Parts -/

namespace Shadow

/-- A model's verdict says how many tokens it took. -/
lemma Agent.tokens_of_asksModel {a : Agent} {q : Inquiry} {reply : Reply} {o : Opinion}
    (ha : a.asksModel = true) (ho : (a.analyse q reply).outcome = .ok o) : o.result.tokens = o.tokens.total := by
  obtain ⟨_, _, _, hopinion⟩ := opinion_of_asksModel ha ho
  exact (Inquiry.of_opinion hopinion).2.2

/-- Whatever becomes of a part, its tally accounts for its result. -/
lemma Part.Ends.accountsFor {x : Part} {p : Panel} {start deadline : ℕ} {reply : Reply}
    {e : (Contribution × ℕ) × Panel} (h : x.Ends p start deadline reply e) (hmodel : x.agent.asksModel = true) :
    e.1.1.usage.AccountsFor [e.1.1.result] := by
  -- a result that is a fallback costs nothing
  have hfallback {r : Result} (hused : r.fallbackUsed = true) (hcached : r.cached = false) :
      Provider.Usage.zero.AccountsFor [r] := by
    constructor <;> simp [Provider.Usage.zero, Result.fresh, hused, hcached]
  cases h with
  | remembered seat => constructor <;> simp [Provider.Usage.hit, Provider.Usage.zero, Result.fresh, Outcome.result]
  | refused seat => exact hfallback rfl rfl
  | gone now seat gone => exact hfallback rfl rfl
  | @answered permit o now seat outcome =>
    obtain ⟨-, hused, -, hcached⟩ := Agent.fresh_of_asksModel hmodel outcome
    have htokens := Agent.tokens_of_asksModel hmodel outcome
    constructor <;> simp [Provider.Usage.add, Provider.Usage.zero, Result.fresh, hused, hcached, htokens,
      Provider.Tokens.total]
  | @failed permit error now seat failed =>
    rcases failed with rfl | ⟨e', rfl, -⟩
    · exact hfallback rfl rfl
    · exact hfallback rfl rfl
  | dropped now seat late => exact hfallback rfl rfl

end Shadow

/-! ### Requests on a pipeline -/

/-- Finishes a request all of whose parts have ended. -/
def Pipeline.close (p : Pipeline) (x : Pending) (cs : List (Contribution × ℕ)) : (Decision × ℕ) × Pipeline :=
  match x.parts, p.panel, x.evaluation.aggregated with
  | some _, some _, some before =>
    let done := conclude x.engine.aggregator before x.evaluation.scores x.context x.start cs
    let d := x.decide (some done.aggregated) done.results done.usage done.finished
    ((d, done.finished), Pipeline.audit { p with usage := p.usage.meter done.usage } x d done.finished)
  | _, _, _ =>
    let d := x.decide x.evaluation.aggregated [] .zero x.start
    ((d, x.start), p.audit x d x.start)

/-- An escalated request is finished by ending all of its parts. -/
lemma Pipeline.finish_eq_close {p : Pipeline} {x : Pending} {panel : Panel} {parts : List Part}
    (hpanel : p.panel = some panel) (hparts : x.parts = some parts) (hrules : x.evaluation.aggregated.isSome)
    (replies : Stage → Reply) :
    let done := finishAll panel (fun _ => x.start) x.deadline replies parts
    p.finish x replies = Pipeline.close { p with panel := some done.2 } x done.1 := by
  obtain ⟨before, hbefore⟩ := Option.isSome_iff_exists.mp hrules
  simp only [finish, close, hpanel, hparts, hbefore]

/-- A request that is not escalated is finished without any parts. -/
lemma Pipeline.finish_of_none {x : Pending} (hparts : x.parts = none) (p : Pipeline) (replies : Stage → Reply) :
    p.finish x replies = p.close x [] := by
  simp only [finish, close, hparts]

/-- Only what the rules want escalated has parts, on a panel. -/
lemma Pipeline.escalated_of_parts {p : Pipeline} {now : ℕ} {r : Request} (h : (p.begin now r).1.parts.isSome) :
    (p.begin now r).2.panel.isSome ∧ (p.begin now r).1.evaluation.aggregated.isSome := by
  obtain ⟨-, hpanel, a, ha, -⟩ := (p.begin_parts_isSome now r).mp h
  exact ⟨(p.panel_begin now r).trans hpanel, Option.isSome_of_eq_some ha⟩

/-- A request under way: its parts, and what those of them that have ended came to. -/
structure Matter where
  pending : Pending
  parts : List (Part × Option (Contribution × ℕ))

namespace Matter

/-- No part has ended yet. -/
def ofPending (x : Pending) : Matter := ⟨x, (x.parts.getD []).map fun part => (part, none)⟩

/-- What the parts that have ended came to. -/
def outcomes (m : Matter) : List (Contribution × ℕ) := m.parts.filterMap (·.2)

/-- All parts have ended. -/
def settled (m : Matter) : Bool := m.parts.all (·.2.isSome)

end Matter

/-- A pipeline, the requests that are under way, and the decisions that were made. -/
structure Docket where
  pipeline : Pipeline
  underway : List Matter
  decided : List Decision

namespace Docket

/-- What may happen. -/
inductive Event where
  /-- A request begins. -/
  | begins (now : ℕ) (r : Request)
  /-- A part of a request ends. -/
  | ends (i j : ℕ) (reply : Reply)
  /-- A request is decided whose parts have ended. -/
  | decides (i : ℕ)
  /-- The rules are exchanged. -/
  | swap (engine : Engine)
  /-- Something else happens to the panel. -/
  | aside (e : PanelEvent)

/-- Nothing is under way. -/
def start (p : Pipeline) : Docket := ⟨p, [], []⟩

/-- What an event makes of it all. -/
def step (s : Docket) : Event → Docket
  | .begins now r =>
    let begun := s.pipeline.begin now r
    { s with pipeline := begun.2, underway := s.underway ++ [.ofPending begun.1] }
  | .ends i j reply =>
    match s.underway[i]?, s.pipeline.panel with
    | some m, some panel =>
      match m.parts[j]? with
      | some (x, none) =>
        let done := x.finish panel m.pending.start m.pending.deadline reply
        { s with
          pipeline := { s.pipeline with panel := some done.2 }
          underway := s.underway.set i { m with parts := m.parts.set j (x, some done.1) } }
      | _ => s
    | _, _ => s
  | .decides i =>
    match s.underway[i]? with
    | some m =>
      if m.settled then
        let closed := s.pipeline.close m.pending m.outcomes
        ⟨closed.2, s.underway.eraseIdx i, s.decided ++ [closed.1.1]⟩
      else s
    | none => s
  | .swap engine => { s with pipeline := (s.pipeline.swap engine).2 }
  | .aside e => { s with pipeline := { s.pipeline with panel := s.pipeline.panel.map (·.step e) } }

/-- What a history makes of it all. -/
def run (s : Docket) (events : List Event) : Docket := events.foldl step s

lemma run_append (s : Docket) (es es' : List Event) : s.run (es ++ es') = (s.run es).run es' := List.foldl_append

/-- The books are in order: agents ask models; what parts have come to, and every decision, is accounted for; and
the running total is the sum over the decisions. -/
structure InOrder (s : Docket) : Prop where
  panel : ∀ p ∈ s.pipeline.panel, p.AsksModels
  parts : ∀ m ∈ s.underway, ∀ y ∈ m.parts, y.1.agent.asksModel = true
  outcomes : ∀ m ∈ s.underway, ∀ c ∈ m.outcomes, c.1.usage.AccountsFor [c.1.result]
  decided : ∀ d ∈ s.decided, d.usage.AccountsFor d.results
  total : ∀ count ∈ Provider.Usage.counts, count s.pipeline.usage = (s.decided.map fun d => count d.usage).sum

end Docket

/-! ### One event -/

/-- What is decided in the end is accounted for and added to the running total, and breakers are looked at. -/
lemma Pipeline.close_accounts (p : Pipeline) (x : Pending) {cs : List (Contribution × ℕ)}
    (hcs : ∀ c ∈ cs, c.1.usage.AccountsFor [c.1.result]) :
    let closed := p.close x cs
    closed.1.1.usage.AccountsFor closed.1.1.results ∧
      (∀ count ∈ Provider.Usage.counts, count closed.2.usage = count p.usage + count closed.1.1.usage) ∧
      closed.2.panel = p.panel.map (·.refresh closed.1.2) := by
  unfold close
  split
  · have haccounts : ((cs.map (·.1.usage)).foldl Provider.Usage.merge .zero).AccountsFor (cs.map (·.1.result)) := by
      have h := Provider.Usage.accountsFor_zero.foldl (cs.map Prod.fst) (by simpa using hcs)
      rwa [List.map_map, List.map_map, List.nil_append] at h
    exact ⟨haccounts, fun count hcount => haccounts.count_meter p.usage hcount, rfl⟩
  · have hzero := Provider.Usage.accountsFor_zero
    refine ⟨hzero, fun count hcount => ?_, rfl⟩
    exact (congrArg (count p.usage + ·) (hzero.count_eq_zero rfl hcount)).symm

namespace Docket

variable {s : Docket}

lemma InOrder.begins (h : s.InOrder) (now : ℕ) (r : Request) : (s.step (.begins now r)).InOrder := by
  obtain ⟨-, -, hparts⟩ := s.pipeline.begin_seats now r
  have husage : (s.pipeline.begin now r).2.usage = s.pipeline.usage := by
    simp only [Pipeline.begin]
    split <;> rfl
  have hwaiting : ∀ c, c ∉ (Matter.ofPending (s.pipeline.begin now r).1).outcomes := by
    simp [Matter.ofPending, Matter.outcomes]
  have hpanel : ∀ p ∈ (s.pipeline.begin now r).2.panel, p.AsksModels := by
    rcases hparts with ⟨-, hsame⟩ | ⟨panel, qs, hpanel, -, -, hseated⟩
    · rw [hsame]
      exact h.panel
    · rw [hseated, panel.seatAll_eq_run]
      rintro p ⟨⟩
      exact (h.panel panel hpanel).follows (panel.follows_run _)
  have hmodels : ∀ y ∈ (Matter.ofPending (s.pipeline.begin now r).1).parts, y.1.agent.asksModel = true := by
    intro y hy
    obtain ⟨x, hx, rfl⟩ := List.mem_map.mp hy
    rcases hparts with ⟨hnone, -⟩ | ⟨panel, qs, hpanel, -, hseated, -⟩
    · rw [hnone] at hx
      cases hx
    · rw [hseated] at hx
      exact h.panel panel hpanel _ _ (Panel.agent_seatAll hx)
  constructor
  · exact hpanel
  · exact List.forall_mem_append.mpr ⟨h.parts, List.forall_mem_singleton.mpr hmodels⟩
  · refine List.forall_mem_append.mpr ⟨h.outcomes, List.forall_mem_singleton.mpr fun c hc => ?_⟩
    exact absurd hc (hwaiting c)
  · exact h.decided
  · intro count hcount
    simp only [step, husage]
    exact h.total count hcount

lemma InOrder.ends (h : s.InOrder) (i j : ℕ) (reply : Reply) : (s.step (.ends i j reply)).InOrder := by
  simp only [step]
  split
  · next m panel hm hpanel =>
    have hmem := List.mem_of_getElem? hm
    split
    · next x hx =>
      have hmodel := h.parts m hmem _ (List.mem_of_getElem? hx)
      have hends := x.ends panel m.pending.start m.pending.deadline reply
      have hexact := hends.accountsFor hmodel
      have hfollows := hends.follows
      generalize x.finish panel m.pending.start m.pending.deadline reply = done at hexact hfollows ⊢
      constructor
      · rintro p ⟨⟩
        exact (h.panel panel hpanel).follows hfollows
      · intro m' hm' y hy
        rcases List.mem_or_eq_of_mem_set hm' with hm' | rfl
        · exact h.parts m' hm' y hy
        · rcases List.mem_or_eq_of_mem_set hy with hy | rfl
          · exact h.parts m hmem y hy
          · exact hmodel
      · intro m' hm' c hc
        rcases List.mem_or_eq_of_mem_set hm' with hm' | rfl
        · exact h.outcomes m' hm' c hc
        · obtain ⟨y, hy, hyc⟩ := List.mem_filterMap.mp hc
          rcases List.mem_or_eq_of_mem_set hy with hy | rfl
          · exact h.outcomes m hmem c (List.mem_filterMap.mpr ⟨y, hy, hyc⟩)
          · obtain rfl := Option.some.inj hyc
            exact hexact
      · exact h.decided
      · exact h.total
    · exact h
  · exact h

lemma InOrder.decides (h : s.InOrder) (i : ℕ) : (s.step (.decides i)).InOrder := by
  simp only [step]
  split
  · next m hm =>
    split
    · obtain ⟨haccounts, hmeter, hpanel⟩ :=
        s.pipeline.close_accounts m.pending (h.outcomes m (List.mem_of_getElem? hm))
      generalize s.pipeline.close m.pending m.outcomes = closed at haccounts hmeter hpanel ⊢
      have herase : ∀ m' ∈ s.underway.eraseIdx i, m' ∈ s.underway := fun m' => List.mem_of_mem_eraseIdx
      constructor
      · intro p hp
        rw [hpanel] at hp
        obtain ⟨p', hp', rfl⟩ := Option.map_eq_some_iff.mp hp
        exact (h.panel p' hp').follows (p'.follows_step (.refresh closed.1.2))
      · exact fun m' hm' => h.parts m' (herase m' hm')
      · exact fun m' hm' => h.outcomes m' (herase m' hm')
      · exact List.forall_mem_append.mpr ⟨h.decided, List.forall_mem_singleton.mpr haccounts⟩
      · intro count hcount
        rw [hmeter count hcount, h.total count hcount]
        simp
    · exact h
  · exact h

lemma InOrder.step (h : s.InOrder) (e : Event) : (s.step e).InOrder := by
  cases e with
  | begins now r => exact h.begins now r
  | ends i j reply => exact h.ends i j reply
  | decides i => exact h.decides i
  | swap engine => exact ⟨h.panel, h.parts, h.outcomes, h.decided, h.total⟩
  | aside e =>
    refine ⟨fun p hp => ?_, h.parts, h.outcomes, h.decided, h.total⟩
    obtain ⟨panel, hpanel, rfl⟩ := Option.map_eq_some_iff.mp hp
    exact (h.panel panel hpanel).follows (panel.follows_step e)

/-! ### Histories -/

lemma InOrder.run (h : s.InOrder) (events : List Event) : (s.run events).InOrder := by
  induction events generalizing s with
  | nil => exact h
  | cons e events ih => exact ih (h.step e)

lemma inOrder_start {p : Pipeline} (hp : ∀ panel ∈ p.panel, panel.AsksModels) (husage : p.usage = .zero) :
    (start p).InOrder := by
  refine ⟨hp, fun _ h => absurd h List.not_mem_nil, fun _ h => absurd h List.not_mem_nil,
    fun _ h => absurd h List.not_mem_nil, fun count hcount => ?_⟩
  simp only [start, husage]
  exact Provider.Usage.accountsFor_zero.count_eq_zero rfl hcount

/-! ### A request at once -/

/-- The ends of parts, one after another. -/
def endings (i : ℕ) (replies : Stage → Reply) : ℕ → List Part → List Event
  | _, [] => []
  | j, x :: xs => .ends i j (replies x.inquiry.agent) :: endings i replies (j + 1) xs

/-- Ending the parts of a request in their order is ending all of them at once. -/
lemma run_endings (x : Pending) (replies : Stage → Reply) {i : ℕ} (rest : List Part)
    {s : Docket} {panel : Panel} (front : List (Part × Option (Contribution × ℕ)))
    (hpanel : s.pipeline.panel = some panel)
    (hunderway : s.underway[i]? = some ⟨x, front ++ rest.map fun part => (part, none)⟩) :
    let done := finishAll panel (fun _ => x.start) x.deadline replies rest
    s.run (endings i replies front.length rest)
      = { s with
          pipeline := { s.pipeline with panel := some done.2 }
          underway := s.underway.set i ⟨x, front ++ (rest.zip done.1).map fun y => (y.1, some y.2)⟩ } := by
  induction rest generalizing s panel front with
  | nil =>
    obtain ⟨hi, hsame⟩ := List.getElem?_eq_some_iff.mp hunderway
    have hset : s.underway.set i ⟨x, front ++ []⟩ = s.underway := by
      rw [← List.map_nil, ← hsame]
      exact List.set_getElem_self hi
    simp only [endings, run, List.foldl_nil, finishAll, List.zip_nil_left, List.map_nil, hset]
    rw [← hpanel]
  | cons y rest ih =>
    intro done
    let first := y.finish panel x.start x.deadline (replies y.inquiry.agent)
    let m : Matter := ⟨x, (front ++ [(y, some first.1)]) ++ rest.map fun part => (part, none)⟩
    have hstep : s.step (.ends i front.length (replies y.inquiry.agent))
        = { s with
            pipeline := { s.pipeline with panel := some first.2 }
            underway := s.underway.set i m } := by
      simp [step, hunderway, hpanel, m, first]
    have hi : i < s.underway.length := (List.getElem?_eq_some_iff.mp hunderway).1
    have hrest := ih (s := s.step (.ends i front.length (replies y.inquiry.agent))) (front ++ [(y, some first.1)])
      (by rw [hstep]) (by rw [hstep]; exact List.getElem?_set_self hi)
    rw [List.length_append, List.length_singleton] at hrest
    rw [endings, run, List.foldl_cons, ← run, hrest, hstep]
    simp [finishAll, done, first]

/-- To finish a request that has just begun is to end its parts in their order and then to decide it. -/
lemma run_finish {s : Docket} {i : ℕ} {x : Pending} (hunderway : s.underway[i]? = some (.ofPending x))
    (hparts : x.parts.isSome → s.pipeline.panel.isSome ∧ x.evaluation.aggregated.isSome)
    (replies : Stage → Reply) :
    s.run (endings i replies 0 (x.parts.getD []) ++ [.decides i])
      = ⟨(s.pipeline.finish x replies).2, s.underway.eraseIdx i,
          s.decided ++ [(s.pipeline.finish x replies).1.1]⟩ := by
  cases hx : x.parts with
  | none =>
    have hmatter : s.underway[i]? = some ⟨x, []⟩ := by rw [hunderway, Matter.ofPending, hx]; rfl
    rw [Pipeline.finish_of_none hx]
    simp [endings, run, step, hmatter, Matter.settled, Matter.outcomes]
  | some parts =>
    obtain ⟨hpanel, hrules⟩ := hparts (by rw [hx]; rfl)
    obtain ⟨panel, hpanel⟩ := Option.isSome_iff_exists.mp hpanel
    have hmatter : s.underway[i]? = some ⟨x, [] ++ parts.map fun part => (part, none)⟩ := by
      rw [hunderway, Matter.ofPending, hx]
      rfl
    let done := finishAll panel (fun _ => x.start) x.deadline replies parts
    -- the matter once all its parts have ended
    let m : Matter := ⟨x, (parts.zip done.1).map fun y => (y.1, some y.2)⟩
    have hended : s.run (endings i replies 0 parts)
        = { s with pipeline := { s.pipeline with panel := some done.2 }, underway := s.underway.set i m } :=
      run_endings x replies parts [] hpanel hmatter
    have hlength : parts.length = done.1.length :=
      (finishAll_forall₂ (P := fun _ _ => True) fun _ _ _ _ _ _ => trivial).length_eq
    have houtcomes : m.outcomes = done.1 := by
      simp only [m, Matter.outcomes, List.filterMap_map, Function.comp_def]
      rw [List.filterMap_eq_map', List.map_snd_zip hlength.ge]
    have hsettled : m.settled = true := by simp [m, Matter.settled]
    have hi : i < s.underway.length := (List.getElem?_eq_some_iff.mp hunderway).1
    have hnext : (s.underway.set i m)[i]? = some m := List.getElem?_set_self hi
    rw [Pipeline.finish_eq_close hpanel hx hrules, Option.getD_some, run_append, hended]
    simp only [run, List.foldl_cons, List.foldl_nil, step, hnext, hsettled, if_true, houtcomes,
      List.eraseIdx_set_eq]
    rfl

/-- To evaluate a request with nothing else going on is a history: it begins, its parts end, and it is decided. -/
lemma run_evaluate (s : Docket) (now : ℕ) (r : Request) (replies : Stage → Reply) :
    let parts := (s.pipeline.begin now r).1.parts.getD []
    let i := s.underway.length
    s.run (.begins now r :: endings i replies 0 parts ++ [.decides i])
      = ⟨(s.pipeline.evaluate now r replies).2, s.underway,
          s.decided ++ [(s.pipeline.evaluate now r replies).1.1]⟩ := by
  intro parts i
  have hbegun : (s.step (.begins now r)).underway[i]? = some (.ofPending (s.pipeline.begin now r).1) := by
    simp [step, i]
  have hfinish := run_finish hbegun Pipeline.escalated_of_parts replies
  rw [List.cons_append, run, List.foldl_cons, ← run, hfinish]
  simp [step, i, Pipeline.evaluate, List.eraseIdx_append_of_length_le]

/-! ### The books -/

variable {c : Config} {agents : List Agent} {panel : Panel} {p : Pipeline}

/-- **Usage accounting is exact.** Agents that ask models are behind the breakers of a new panel, and requests
begin, come to their results and are decided on a pipeline with this panel in whatever order. Then every decision
says how many of its results are fresh verdicts, how many were remembered, and how many tokens the fresh ones
took, which are those of prompts and answers; and the running total is in every whole number the sum over the
decisions, in whatever order these are put. To evaluate a request with nothing else going on is one way on. -/
theorem usage_exact (hpanel : Panel.ofAgents c agents = .ok panel) (hmodels : ∀ a ∈ agents, a.asksModel = true)
    (hp : p.panel = some panel) (husage : p.usage = .zero) (events : List Event) :
    let s := (start p).run events
    (∀ d ∈ s.decided, d.usage.AccountsFor d.results) ∧
      (∀ ds : List Decision, ds.Perm s.decided → ∀ count ∈ Provider.Usage.counts,
        count s.pipeline.usage = (ds.map fun d => count d.usage).sum) ∧
      ∀ now r replies, ∃ more : List Event, (start p).run (events ++ more)
        = ⟨(s.pipeline.evaluate now r replies).2, s.underway,
            s.decided ++ [(s.pipeline.evaluate now r replies).1.1]⟩ := by
  intro s
  have hasks : ∀ p' ∈ p.panel, p'.AsksModels := by
    intro p' hp'
    have h := (Panel.asksModels_run hpanel hmodels []).1
    rw [hp] at hp'
    rwa [Panel.run_nil, Option.some.inj hp'] at h
  have horder : s.InOrder := (inOrder_start hasks husage).run events
  refine ⟨horder.decided, fun ds hds count hcount => ?_, fun now r replies => ?_⟩
  · rw [horder.total count hcount]
    exact (hds.map _).sum_nat.symm
  · have hevaluate := s.run_evaluate now r replies
    rw [← hevaluate]
    exact ⟨_, run_append ..⟩

/-- A verdict on an input that took tokens, some of which had been kept. -/
def costlyReply : Reply :=
  ⟨some 100, .ok ⟨"\x7b\"risk_score\":0.5,\"confidence\":1\x7d", ⟨7, 5, 2⟩, "m", none⟩⟩

/-- Two requests with the same input: the second begins when a model has answered the first about the input, and
is decided first. -/
def crossing : List Event :=
  [.begins 0 Pipeline.answeredRequest, .ends 0 0 costlyReply, .begins 200 Pipeline.answeredRequest,
    .ends 1 1 costlyReply, .ends 1 0 silence, .decides 1, .ends 0 1 silence, .decides 0]

/-- Each of the two requests paid for one answer; the second was reminded of the other. -/
theorem usage_exact_crossing : ∃ panel e, Panel.ofAgents .standard threeAgents = .ok panel ∧
    Engine.ofRules (Pipeline.sureRules 1 0.95) = .ok e ∧
      let s := (start { Pipeline.ofEngine e with panel := some panel }).run crossing
      s.decided.map (fun d => Provider.Usage.counts.map (· d.usage)) = [[12, 7, 5, 1, 1, 2], [12, 7, 5, 1, 0, 2]] ∧
        Provider.Usage.counts.map (· s.pipeline.usage) = [24, 14, 10, 2, 1, 4] ∧
        (∀ d ∈ s.decided, d.usage.AccountsFor d.results) ∧
        ∀ count ∈ Provider.Usage.counts,
          count s.pipeline.usage = (s.decided.reverse.map fun d => count d.usage).sum := by
  let P (panel : Panel) (e : Engine) : Prop :=
    let s := (start { Pipeline.ofEngine e with panel := some panel }).run crossing
    s.decided.map (fun d => Provider.Usage.counts.map (· d.usage)) = [[12, 7, 5, 1, 1, 2], [12, 7, 5, 1, 0, 2]] ∧
      Provider.Usage.counts.map (· s.pipeline.usage) = [24, 14, 10, 2, 1, 4]
  obtain ⟨panel, hpanel, hrules⟩ : ∃ panel, Panel.ofAgents .standard threeAgents = .ok panel ∧
      (Engine.ofRules (Pipeline.sureRules 1 0.95)).toOption.any (fun e => decide (P panel e)) = true :=
    exists_ok (by decide +kernel)
  obtain ⟨e, he, hdecided, hrunning⟩ := exists_ok hrules
  have hmodels : ∀ a ∈ threeAgents, a.asksModel = true := by simp [threeAgents, Agent.asksModel]
  obtain ⟨haccounts, htotal, -⟩ := usage_exact hpanel hmodels
    (p := { Pipeline.ofEngine e with panel := some panel }) rfl rfl crossing
  exact ⟨panel, e, hpanel, he, hdecided, hrunning, haccounts, htotal _ (List.reverse_perm _)⟩

end Docket

end Guardrail
