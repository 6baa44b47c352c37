import Guardrail.Simulation
import Guardrail.Proofs.Panels

/-!
What breakers hear of an escalation.

Agents that ask a model come to results of six kinds, and the kind of a result says what the breaker of
its agent has heard. An opinion is a success; silence, a provider's error and an answer that is no verdict
are failures; where no permit was granted there is nothing to hear; and an agent that is given up for the
deadline of the request gives its permit back, which is not held against it.
-/

namespace Guardrail.Shadow

/-- What a breaker is to hear of a result. -/
def Result.report (r : Result) : Report :=
  match r.fallbackReason with
  | none => if r.cached then .nothing else .success
  | some .timeout | some .providerError | some .invalidResponse => .failure
  | some .circuitOpen => .nothing
  | some .deadlineExceeded => .released

/-! ### Breakers -/

namespace Breaker

/-- No report raises the flag. -/
lemma probing_success {b : Breaker} (h : b.probing = false) (now : ℕ) (permit : Permit) :
    (b.success now permit).probing = false := by
  unfold success
  split
  · exact h
  · exact h
  · split
    · simp only
      split <;> simp
    · exact h

lemma probing_failure {b : Breaker} (h : b.probing = false) (now : ℕ) (permit : Permit) :
    (b.failure now permit).probing = false := by
  unfold failure
  split
  · simp only
    split
    · simp
    · exact h
  · exact h
  · split
    · simp
    · exact h

lemma probing_release {b : Breaker} (h : b.probing = false) (permit : Permit) :
    (b.release permit).probing = false := by
  unfold release
  split
  · rfl
  · exact h

/-- A probe that is given back takes the flag down. -/
lemma probing_release_probe {b : Breaker} (h : b.FlagSound) {permit : Permit} (hp : permit.probe = true) :
    (b.release permit).probing = false := by
  unfold release
  split
  · rfl
  · next hs => exact h.probing_eq_false fun hhalf => hs (by simp [hp, hhalf])

end Breaker

/-! ### Panels of agents that ask models -/

namespace Panel

lemma get?_slotsOf {c : Config} {agents : List Agent} {slots slots' : Keyed Stage Slot}
    (h : slotsOf c slots agents = .ok slots') {s : Stage} {slot : Slot}
    (hs : slots'.get? s = some slot) : slots.get? s = some slot ∨
      slot.agent ∈ agents ∧ slot.breaker.FlagSound := by
  induction agents generalizing slots with
  | nil =>
    obtain rfl := Except.ok.inj h
    exact .inl hs
  | cons a agents ih =>
    unfold slotsOf at h
    split at h
    · exact (ih h).imp_right fun ⟨ha, hb⟩ => ⟨List.mem_cons_of_mem a ha, hb⟩
    · split at h
      · cases h
      · rcases ih h with hset | ⟨ha, hb⟩
        · by_cases hsa : s = a.stage
          · subst hsa
            rw [Keyed.get?_set_self] at hset
            obtain rfl := Option.some.inj hset
            exact .inr ⟨List.mem_cons_self, Breaker.flagSound_fresh _ _⟩
          · rw [Keyed.get?_set_of_ne hsa] at hset
            exact .inl hset
        · exact .inr ⟨List.mem_cons_of_mem a ha, hb⟩

/-- A new panel has only agents that it was given, behind breakers whose flags are sound. -/
lemma get?_ofAgents {c : Config} {agents : List Agent} {p : Panel} (h : ofAgents c agents = .ok p)
    {s : Stage} {slot : Slot} (hs : p.slots.get? s = some slot) :
    slot.agent ∈ agents ∧ slot.breaker.FlagSound := by
  simp only [ofAgents, bind_ok] at h
  obtain ⟨-, -, slots, hslots, h⟩ := h
  split at h
  · cases h
  · obtain rfl := Except.ok.inj h
    exact (get?_slotsOf hslots hs).resolve_left (by simp)

/-- All agents of a panel ask models. -/
def AsksModels (p : Panel) : Prop := ∀ s a, p.agent? s = some a → a.asksModel = true

/-- That is so, and flags stay sound, whatever happens to the panel. -/
lemma asksModels_run {c : Config} {agents : List Agent} {p : Panel} (h : ofAgents c agents = .ok p)
    (hmodels : ∀ a ∈ agents, a.asksModel = true) (es : List PanelEvent) :
    (p.run es).AsksModels ∧ (p.run es).FlagsSound := by
  have hfollows := p.follows_run es
  constructor
  · intro s a ha
    rw [hfollows.agent?] at ha
    obtain ⟨slot, hs, rfl⟩ := Option.map_eq_some_iff.mp ha
    exact hmodels _ (get?_ofAgents h hs).1
  · exact hfollows.flagsSound fun s slot hs => (get?_ofAgents h hs).2

lemma breaker?_updateBreaker (p : Panel) (s s' : Stage) (f : Breaker → Breaker) :
    (p.updateBreaker s f).breaker? s' = (p.breaker? s').map fun b => if s = s' then f b else b := by
  by_cases hs : s = s'
  · subst hs
    simp [breaker?, slot_updateBreaker_self, Function.comp_def]
  · simp [breaker?, p.slot_updateBreaker_of_ne (Ne.symm hs), hs, Function.comp_def]

end Panel

namespace Part

/-- What a failed call comes to counts against the agent. -/
lemma report_failed (q : Inquiry) {e : CallError AgentError} (h : e ≠ .rejected) (report : Report) :
    (q.contribution (.ofCall (.error e)) report).result.report = .failure := by
  cases e with
  | rejected => exact absurd rfl h
  | timeout after => rfl
  | failed e =>
    cases e with
    | provider e => cases e <;> rfl
    | invalid message => rfl
    | timeout after => rfl
    | internal message => rfl

/-- What the breaker of a part hears of the result that the part comes to at a tick. -/
def tells (x : Part) (result : Result) (now : ℕ) (b : Breaker) : Breaker :=
  match x.seat, result.report with
  | .working permit, .success => b.success now permit
  | .working permit, .failure => b.failure now permit
  | .working permit, .released => b.release permit
  | _, _ => b

/-- A part whose time runs from `began` and is given up at `stop` comes to a contribution. -/
structure Accounts (x : Part) (began stop : ℕ) (c : Contribution × ℕ) : Prop where
  /-- The breaker is told what the result says. -/
  report : c.1.report = c.1.result.report
  /-- Without a permit nothing is said, and with one something. -/
  permit : c.1.result.report = .nothing ↔ ∀ permit, x.seat ≠ .working permit
  /-- A result without a verdict says why. -/
  reason : c.1.result.fallbackUsed = c.1.result.fallbackReason.isSome
  /-- An agent is given up only before its own timeout. -/
  late : c.1.result.fallbackReason = some .deadlineExceeded → stop < began + x.agent.timeout.ticks

variable {x : Part} {p : Panel} {start deadline : ℕ} {reply : Reply} {e : (Contribution × ℕ) × Panel}

lemma Ends.accounts (h : x.Ends p start deadline reply e)
    (hagent : p.agent? x.inquiry.agent ≠ none) (hmodel : x.agent.asksModel = true) :
    x.Accounts start deadline e.1 := by
  cases h with
  | remembered seat => exact ⟨rfl, by simp [seat, Result.report, Outcome.result], rfl, nofun⟩
  | refused seat => exact ⟨rfl, by simp [seat]; rfl, rfl, nofun⟩
  | gone now seat gone => exact absurd gone hagent
  | @answered permit o now seat outcome =>
    obtain ⟨-, hused, hreason, hcached⟩ := Agent.fresh_of_asksModel hmodel outcome
    have hreport : o.result.report = .success := by simp [Result.report, hreason, hcached]
    exact ⟨hreport.symm, by simp [seat, hreport], by simp [hused, hreason], by simp [hreason]⟩
  -- the breaker has granted a permit, so that the error is not its refusal
  | @failed permit error now seat failed =>
    have hcall : error ≠ .rejected := by
      rintro rfl
      rcases failed with h | ⟨e', h, -⟩ <;> cases h
    have hreport := report_failed x.inquiry hcall .failure
    refine ⟨hreport.symm, by simp [seat, hreport], by cases error <;> rfl, fun hlate => ?_⟩
    simp only at hlate
    rw [Result.report, hlate] at hreport
    cases hreport
  | dropped now seat late => exact ⟨rfl, by simp [seat]; nofun, rfl, fun _ => late⟩

/-- A part changes no breaker but that of its agent, which hears of the result. -/
lemma Ends.breaker? (h : x.Ends p start deadline reply e)
    (hagent : p.agent? x.inquiry.agent ≠ none) (hmodel : x.agent.asksModel = true) (s : Stage) :
    e.2.breaker? s = (p.breaker? s).map fun b =>
      if x.inquiry.agent = s then x.tells e.1.1.result e.1.2 b else b := by
  have hreport := (h.accounts hagent hmodel).report
  cases h with
  | remembered seat => simp [tells, seat]
  | refused seat => simp [tells, seat]
  | gone now seat gone => exact absurd gone hagent
  | @answered permit o now seat outcome =>
    simp only at hreport
    simp only [tells, seat, ← hreport]
    exact p.breaker?_updateBreaker ..
  | @failed permit error now seat failed =>
    simp only at hreport
    simp only [tells, seat, ← hreport]
    exact p.breaker?_updateBreaker ..
  | @dropped permit now seat late =>
    simp only at hreport
    simp only [tells, seat, ← hreport]
    exact p.breaker?_updateBreaker ..

/-- Hearing of a result keeps the flag sound and never raises it. -/
lemma tells_flag (x : Part) (result : Result) (now : ℕ) {b : Breaker} (h : b.FlagSound) :
    (x.tells result now b).FlagSound ∧
      (b.probing = false → (x.tells result now b).probing = false) := by
  unfold tells
  split
  · next permit _ _ =>
    exact ⟨(Breaker.lowers_success now b permit h).1, fun hb => Breaker.probing_success hb now permit⟩
  · next permit _ _ =>
    exact ⟨(Breaker.lowers_failure now b permit h).1, fun hb => Breaker.probing_failure hb now permit⟩
  · next permit _ _ =>
    exact ⟨(Breaker.lowers_release b permit h).1, fun hb => Breaker.probing_release hb permit⟩
  · exact ⟨h, id⟩

end Part

/-! ### Time -/

lemma le_foldl_add {ds : List Duration} {d acc : Duration} (h : d ∈ ds ∨ d.nanoseconds ≤ acc.nanoseconds) :
    d.nanoseconds ≤ (ds.foldl (· + ·) acc).nanoseconds := by
  induction ds generalizing acc with
  | nil => exact h.resolve_left (by simp)
  | cons e ds ih =>
    have hsum : (acc + e).nanoseconds = acc.nanoseconds + e.nanoseconds := rfl
    refine ih (show d ∈ ds ∨ d.nanoseconds ≤ (acc + e).nanoseconds from ?_)
    rcases h with hmem | hle
    · rcases List.mem_cons.mp hmem with rfl | hmem
      · exact .inr (by omega)
      · exact .inl hmem
    · exact .inr (by omega)

/-- All parts together are given no less time than any of them, so that only the deadline of the request
can cut one short whose time runs from the start. -/
lemma limit_lt {parts : List Part} {x : Part} (hx : x ∈ parts) {start deadline : ℕ}
    (h : limit parts start deadline < start + x.agent.timeout.ticks) :
    deadline < start + x.agent.timeout.ticks := by
  have hbudget : x.agent.timeout.nanoseconds ≤ (budget parts).nanoseconds :=
    le_foldl_add (.inl (List.mem_map_of_mem hx))
  have hticks : x.agent.timeout.ticks ≤ (budget parts).ticks := by
    unfold Duration.ticks
    omega
  have hlimit : limit parts start deadline = min deadline (start + (budget parts).ticks) := rfl
  omega

/-! ### Escalations -/

/-- What a breaker has heard when parts have come to contributions. -/
def told (outcomes : List (Part × Contribution × ℕ)) (s : Stage) (b : Breaker) : Breaker :=
  (outcomes.filter fun y => y.1.inquiry.agent = s).foldl (fun b y => y.1.tells y.2.1.result y.2.2 b) b

lemma told_cons (y : Part × Contribution × ℕ) (outcomes : List (Part × Contribution × ℕ)) (s : Stage)
    (b : Breaker) : told (y :: outcomes) s b
      = told outcomes s (if y.1.inquiry.agent = s then y.1.tells y.2.1.result y.2.2 b else b) := by
  by_cases hs : y.1.inquiry.agent = s <;> simp [told, hs]

lemma told_flag (outcomes : List (Part × Contribution × ℕ)) (s : Stage) {b : Breaker}
    (h : b.FlagSound) : (told outcomes s b).FlagSound ∧
      (b.probing = false → (told outcomes s b).probing = false) := by
  induction outcomes generalizing b with
  | nil => exact ⟨h, id⟩
  | cons y outcomes ih =>
    rw [told_cons]
    split
    · obtain ⟨hsound, hdown⟩ := y.1.tells_flag y.2.1.result y.2.2 h
      obtain ⟨hrest, hkeep⟩ := ih hsound
      exact ⟨hrest, fun hb => hkeep (hdown hb)⟩
    · exact ih h

lemma told_of_ne {outcomes : List (Part × Contribution × ℕ)} {s : Stage}
    (h : ∀ y ∈ outcomes, y.1.inquiry.agent ≠ s) (b : Breaker) : told outcomes s b = b := by
  have hnone : (outcomes.filter fun y => y.1.inquiry.agent = s) = [] := by simpa using h
  rw [told, hnone]
  rfl

/-- An agent that has only one part lets its breaker hear only of that. -/
lemma told_of_mem {outcomes : List (Part × Contribution × ℕ)}
    (hnodup : (outcomes.map (·.1.inquiry.agent)).Nodup) {y : Part × Contribution × ℕ}
    (hy : y ∈ outcomes) (b : Breaker) :
    told outcomes y.1.inquiry.agent b = y.1.tells y.2.1.result y.2.2 b := by
  induction outcomes with
  | nil => cases hy
  | cons z outcomes ih =>
    obtain ⟨hfirst, hnodup⟩ := List.nodup_cons.mp hnodup
    rw [told_cons]
    rcases List.mem_cons.mp hy with rfl | hy
    · rw [if_pos rfl, told_of_ne]
      exact fun w hw hagent => hfirst (List.mem_map.mpr ⟨w, hw, hagent⟩)
    · have hne : z.1.inquiry.agent ≠ y.1.inquiry.agent := fun hagent =>
        hfirst (List.mem_map.mpr ⟨y, hy, hagent.symm⟩)
      rw [if_neg hne, ih hnodup hy]

/-- Where a probe is given back, no probe is out in the end. -/
lemma probing_told {outcomes : List (Part × Contribution × ℕ)} {y : Part × Contribution × ℕ}
    (hy : y ∈ outcomes) (hreport : y.2.1.result.report = .released) {permit : Permit}
    (hseat : y.1.seat = .working permit) (hprobe : permit.probe = true) {b : Breaker}
    (h : b.FlagSound) : (told outcomes y.1.inquiry.agent b).probing = false := by
  induction outcomes generalizing b with
  | nil => cases hy
  | cons z outcomes ih =>
    rw [told_cons]
    rcases List.mem_cons.mp hy with rfl | hy
    -- this part gives the probe back, and what is heard after it never raises the flag
    · have htells : y.1.tells y.2.1.result y.2.2 b = b.release permit := by
        simp [Part.tells, hseat, hreport]
      rw [if_pos rfl, htells]
      exact (told_flag outcomes _ (Breaker.lowers_release b permit h).1).2
        (Breaker.probing_release_probe h hprobe)
    · split
      · exact ih hy (z.1.tells_flag _ _ h).1
      · exact ih hy h

lemma breaker?_finishAll {p : Panel} {parts : List Part} (began : Stage → ℕ) (deadline : ℕ) (replies : Stage → Reply)
    (hagents : ∀ x ∈ parts, p.agent? x.inquiry.agent ≠ none)
    (hmodels : ∀ x ∈ parts, x.agent.asksModel = true) (s : Stage) :
    (finishAll p began deadline replies parts).2.breaker? s = (p.breaker? s).map
      (told (parts.zip (finishAll p began deadline replies parts).1) s) := by
  induction parts generalizing p with
  | nil => exact Option.map_id'.symm
  | cons x parts ih =>
    obtain ⟨hagent, hagents⟩ := List.forall_mem_cons.mp hagents
    obtain ⟨hmodel, hmodels⟩ := List.forall_mem_cons.mp hmodels
    have hends := x.ends p (began x.inquiry.agent) deadline (replies x.inquiry.agent)
    have hrest := ih (fun y hy => by rw [hends.follows.agent?]; exact hagents y hy) hmodels
    rw [hends.breaker? hagent hmodel, Option.map_map] at hrest
    simp only [finishAll, List.zip_cons_cons]
    rw [hrest]
    congr 1
    funext b
    rw [Function.comp_apply, told_cons]

lemma accounts_finishAll {p : Panel} {parts : List Part} (began : Stage → ℕ) (deadline : ℕ) (replies : Stage → Reply)
    (hagents : ∀ x ∈ parts, p.agent? x.inquiry.agent ≠ none)
    (hmodels : ∀ x ∈ parts, x.agent.asksModel = true) :
    List.Forall₂ (fun x c => x.Accounts (began x.inquiry.agent) deadline c) parts
      (finishAll p began deadline replies parts).1 := by
  refine finishAll_forall₂ fun x hx p' e hp' hends => ?_
  have hagent : p'.agent? x.inquiry.agent ≠ none := by
    rw [hp'.agent?]
    exact hagents x hx
  exact hends.accounts hagent (hmodels x hx)

/-- Three agents that ask models, the second with less time than the others. -/
def threeAgents : List Agent :=
  [⟨.input, .ofSeconds 5, .asks "p" .standard⟩, ⟨.state, .ofSeconds 1, .asks "p" .standard⟩,
    ⟨.output, .ofSeconds 5, .asks "p" .standard⟩]

/-- An inquiry about a stage without risk. -/
def calmInquiry (s : Stage) : Inquiry :=
  ⟨s, .input "x", .zero s.ruleLayer "none" "", [], .anonymous "r", .standard, "1"⟩

/-- A verdict on inputs, and silence on everything else. -/
def oneReply : Stage → Reply
  | .input => ⟨some 100, .ok ⟨"\x7b\"risk_score\":0.5,\"confidence\":1\x7d", .none, "m", none⟩⟩
  | _ => silence

end Guardrail.Shadow
