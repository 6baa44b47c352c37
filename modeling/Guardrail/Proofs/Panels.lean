import Guardrail.Shadow.Escalation
import Guardrail.Proofs.Acceptance
import Guardrail.Proofs.Maps
import Guardrail.Proofs.Probe

/-!
A panel in use.

Requests begin and end the parts of agents in any order, and in between whoever holds the panel may
use its breakers and opinions may be forgotten. Whatever happens, every agent stays behind its breaker,
whose flag stays sound.
-/

namespace Guardrail.Shadow

/-! ### What may happen -/

/-- A use of a breaker. -/
inductive Touch where
  | look (now : ℕ)
  | acquire (now : ℕ)
  | success (now : ℕ) (permit : Permit)
  | failure (now : ℕ) (permit : Permit)
  | release (permit : Permit)
  | reset (now : ℕ)
deriving Repr, DecidableEq

/-- What a use makes of a breaker. -/
def Touch.apply (b : Breaker) : Touch → Breaker
  | look now => b.refresh now
  | acquire now => (b.acquire now).2
  | success now permit => b.success now permit
  | failure now permit => b.failure now permit
  | release permit => b.release permit
  | reset now => b.reset now

lemma Touch.flagSound {b : Breaker} (h : b.FlagSound) (t : Touch) : (t.apply b).FlagSound := by
  cases t with
  | look now => exact h.refresh now
  | acquire now => exact (Breaker.acquire_flag h now).1
  | success now permit => exact (Breaker.lowers_success now b permit h).1
  | failure now permit => exact (Breaker.lowers_failure now b permit h).1
  | release permit => exact (Breaker.lowers_release b permit h).1
  | reset now => exact fun hp => by simp [apply, Breaker.reset_flag h now] at hp

/-- What may happen to a panel. -/
inductive PanelEvent where
  /-- A request begins the part of an agent. -/
  | seat (now : ℕ) (q : Inquiry)
  /-- A request ends the part of an agent that was at work. -/
  | settle (q : Inquiry) (permit : Permit) (timeout : Duration) (now : ℕ)
      (ending : Ending AgentError Opinion)
  /-- A breaker is used from outside. -/
  | touch (agent : Stage) (t : Touch)
  /-- All breakers are looked at. -/
  | refresh (now : ℕ)
  /-- All opinions are forgotten. -/
  | forget
  /-- Only some opinions stay. -/
  | evict (keep : String → Bool)

namespace Panel

/-- What an event makes of a panel. -/
def step (p : Panel) : PanelEvent → Panel
  | .seat now q => (p.seat now q).2
  | .settle q permit timeout now ending => (p.settle q permit timeout now ending).2
  | .touch agent t => p.updateBreaker agent t.apply
  | .refresh now => p.refresh now
  | .forget => p.forget
  | .evict keep => { p with cache := p.cache.map fun c => ⟨c.entries.filter fun e => keep e.1⟩ }

/-- What a list of events makes of a panel. -/
def run (p : Panel) (events : List PanelEvent) : Panel := events.foldl step p

@[simp] lemma run_nil (p : Panel) : p.run [] = p := rfl

@[simp] lemma run_cons (p : Panel) (e : PanelEvent) (es : List PanelEvent) :
    p.run (e :: es) = (p.step e).run es := rfl

lemma run_append (p : Panel) (es es' : List PanelEvent) : p.run (es ++ es') = (p.run es).run es' :=
  List.foldl_append

/-! ### Slots -/

lemma slot_updateBreaker_self (p : Panel) (s : Stage) (f : Breaker → Breaker) :
    (p.updateBreaker s f).slots.get? s
      = (p.slots.get? s).map fun slot => { slot with breaker := f slot.breaker } := by
  unfold updateBreaker
  split
  · next slot hs => simp [hs, Keyed.get?_set_self]
  · next hs => simp [hs]

lemma slot_updateBreaker_of_ne (p : Panel) {s s' : Stage} (h : s' ≠ s) (f : Breaker → Breaker) :
    (p.updateBreaker s f).slots.get? s' = p.slots.get? s' := by
  unfold updateBreaker
  split
  · next slot hs => exact Keyed.get?_set_of_ne h ..
  · rfl

@[simp] lemma cache_updateBreaker (p : Panel) (s : Stage) (f : Breaker → Breaker) :
    (p.updateBreaker s f).cache = p.cache := by
  unfold updateBreaker
  split <;> rfl

/-- Knowing the breaker, one may give the one that takes its place. -/
lemma updateBreaker_const {p : Panel} {s : Stage} {slot : Slot} (h : p.slots.get? s = some slot)
    (f : Breaker → Breaker) : p.updateBreaker s (fun _ => f slot.breaker) = p.updateBreaker s f := by
  simp [updateBreaker, h]

lemma slot_refresh (p : Panel) (now : ℕ) (s : Stage) : (p.refresh now).slots.get? s
    = (p.slots.get? s).map fun slot => { slot with breaker := slot.breaker.refresh now } := by
  simp only [refresh, Keyed.get?_mapValues]

/-- Who sits there, behind a breaker changed by use alone. -/
def Follows (p p' : Panel) : Prop := ∀ s, ∃ ts : List Touch,
  p'.slots.get? s
    = (p.slots.get? s).map fun slot => { slot with breaker := ts.foldl Touch.apply slot.breaker }

lemma Follows.refl (p : Panel) : p.Follows p := fun s => ⟨[], by simp⟩

lemma Follows.trans {p p' p'' : Panel} (h : p.Follows p') (h' : p'.Follows p'') : p.Follows p'' := by
  intro s
  obtain ⟨ts, hts⟩ := h s
  obtain ⟨ts', hts'⟩ := h' s
  exact ⟨ts ++ ts', by simp [hts', hts, Function.comp_def, List.foldl_append]⟩

lemma follows_touch (p : Panel) (s : Stage) (t : Touch) :
    p.Follows (p.updateBreaker s fun b => t.apply b) := by
  intro s'
  by_cases hs : s' = s
  · subst hs
    exact ⟨[t], slot_updateBreaker_self ..⟩
  · exact ⟨[], by simp [slot_updateBreaker_of_ne p hs]⟩

lemma follows_of_slots {p p' : Panel} (h : p'.slots = p.slots) : p.Follows p' :=
  fun s => ⟨[], by simp [h]⟩

lemma seat_eq (p : Panel) (now : ℕ) (q : Inquiry) :
    (p.slots.get? q.agent = none ∧ p.seat now q = (none, p)) ∨
    ∃ slot, p.slots.get? q.agent = some slot ∧
      ((∃ r, p.remembered? q = some r ∧
          p.seat now q = (some ⟨q, slot.agent, .remembered r⟩, p)) ∨
        p.remembered? q = none ∧
          p.seat now q = (some ⟨q, slot.agent,
              match (slot.breaker.acquire now).1 with
              | some permit => .working permit
              | none => .refused⟩,
            p.updateBreaker q.agent fun b => (b.acquire now).2)) := by
  unfold seat
  split
  · next hs => exact .inl ⟨hs, rfl⟩
  · next slot hs =>
    refine .inr ⟨slot, hs, ?_⟩
    split
    · next r hr => exact .inl ⟨r, hr, rfl⟩
    · next hr =>
      refine .inr ⟨hr, ?_⟩
      rw [← updateBreaker_const hs]
      rcases slot.breaker.acquire now with ⟨_ | permit, b⟩ <;> rfl

lemma follows_seat (p : Panel) (now : ℕ) (q : Inquiry) : p.Follows (p.seat now q).2 := by
  rcases p.seat_eq now q with ⟨-, h⟩ | ⟨slot, -, ⟨r, -, h⟩ | ⟨-, h⟩⟩
  · rw [h]
    exact .refl p
  · rw [h]
    exact .refl p
  · rw [h]
    exact p.follows_touch q.agent (.acquire now)

/-- How the part of an agent at work ends. -/
lemma settle_eq (p : Panel) (q : Inquiry) (permit : Permit) (timeout : Duration) (now : ℕ)
    (ending : Ending AgentError Opinion) :
    (p.slots.get? q.agent = none ∧
      p.settle q permit timeout now ending = (q.contribution .late .released, p)) ∨
    ∃ slot, p.slots.get? q.agent = some slot ∧ p.settle q permit timeout now ending =
      match ending with
      | .completed (.ok o) =>
        (⟨o.result, Provider.Usage.zero.add o.tokens o.result.model, .success⟩,
          (p.updateBreaker q.agent fun b => b.success now permit).remember q o.result)
      | .completed (.error e) => (q.contribution (.ofCall (.error (.failed e))) .failure,
          p.updateBreaker q.agent fun b => b.failure now permit)
      | .timedOut => (q.contribution (.ofCall (.error (.timeout timeout))) .failure,
          p.updateBreaker q.agent fun b => b.failure now permit)
      | .dropped => (q.contribution .late .released,
          p.updateBreaker q.agent fun b => b.release permit) := by
  unfold settle
  split
  · next hs => exact .inl ⟨hs, rfl⟩
  · next slot hs =>
    refine .inr ⟨slot, hs, ?_⟩
    rcases ending with (e | o) | _ | _
    · simp only [Breaker.settle, ← updateBreaker_const hs fun b => b.failure now permit]
    · simp only [Breaker.settle, ← updateBreaker_const hs fun b => b.success now permit]
    · simp only [Breaker.settle, ← updateBreaker_const hs fun b => b.failure now permit]
    · simp only [Breaker.settle, ← updateBreaker_const hs fun b => b.release permit]

lemma follows_settle (p : Panel) (q : Inquiry) (permit : Permit) (timeout : Duration) (now : ℕ)
    (ending : Ending AgentError Opinion) : p.Follows (p.settle q permit timeout now ending).2 := by
  rcases p.settle_eq q permit timeout now ending with ⟨-, h⟩ | ⟨slot, -, h⟩
  · rw [h]
    exact .refl p
  · rw [h]
    rcases ending with (e | o) | _ | _
    · exact p.follows_touch q.agent (.failure now permit)
    · exact p.follows_touch q.agent (.success now permit)
    · exact p.follows_touch q.agent (.failure now permit)
    · exact p.follows_touch q.agent (.release permit)

lemma follows_step (p : Panel) (e : PanelEvent) : p.Follows (p.step e) := by
  cases e with
  | seat now q => exact p.follows_seat now q
  | settle q permit timeout now ending => exact p.follows_settle q permit timeout now ending
  | touch agent t => exact p.follows_touch agent t
  | refresh now => exact fun s => ⟨[.look now], slot_refresh ..⟩
  | forget => exact follows_of_slots rfl
  | evict keep => exact follows_of_slots rfl

lemma follows_run (p : Panel) (es : List PanelEvent) : p.Follows (p.run es) := by
  induction es generalizing p with
  | nil => exact .refl p
  | cons e es ih => exact (p.follows_step e).trans (ih (p.step e))

/-! ### What stays -/

/-- The agent for a stage. -/
def agent? (p : Panel) (s : Stage) : Option Agent := (p.slots.get? s).map (·.agent)

/-- The flags of all breakers are sound. -/
def FlagsSound (p : Panel) : Prop :=
  ∀ s slot, p.slots.get? s = some slot → slot.breaker.FlagSound

lemma Follows.agent? {p p' : Panel} (h : p.Follows p') (s : Stage) : p'.agent? s = p.agent? s := by
  obtain ⟨ts, hts⟩ := h s
  simp [Panel.agent?, hts, Function.comp_def]

lemma Follows.flagsSound {p p' : Panel} (h : p.Follows p') (hp : p.FlagsSound) : p'.FlagsSound := by
  intro s slot' hs'
  obtain ⟨ts, hts⟩ := h s
  rw [hts] at hs'
  obtain ⟨slot, hs, rfl⟩ := Option.map_eq_some_iff.mp hs'
  exact List.foldlRecOn ts _ (hp s slot hs) fun b hb t _ => t.flagSound hb

/-! ### The parts of a request -/

/-- An agent that there is gets a part, any other none. -/
lemma seat_cases (p : Panel) (now : ℕ) (q : Inquiry) :
    (p.agent? q.agent = none ∧ (p.seat now q).1 = none) ∨
      ∃ x, (p.seat now q).1 = some x ∧ x.inquiry = q ∧ p.agent? q.agent = some x.agent := by
  rcases p.seat_eq now q with ⟨hs, h⟩ | ⟨slot, hs, ⟨r, -, h⟩ | ⟨-, h⟩⟩
  · exact .inl ⟨by simp [agent?, hs], by rw [h]⟩
  · exact .inr ⟨_, by rw [h], rfl, by simp [agent?, hs]⟩
  · exact .inr ⟨_, by rw [h], rfl, by simp [agent?, hs]⟩

lemma seatAll_eq_run (p : Panel) (now : ℕ) (qs : List Inquiry) :
    (p.seatAll now qs).2 = p.run (qs.map (.seat now)) := by
  induction qs generalizing p with
  | nil => rfl
  | cons q qs ih => exact ih (p.seat now q).2

lemma follows_seatAll (p : Panel) (now : ℕ) (qs : List Inquiry) : p.Follows (p.seatAll now qs).2 := by
  rw [p.seatAll_eq_run]
  exact p.follows_run _

lemma seatAll_cons (p : Panel) (now : ℕ) (q : Inquiry) (qs : List Inquiry) :
    (p.seatAll now (q :: qs)).1
      = (p.seat now q).1.toList ++ ((p.seat now q).2.seatAll now qs).1 := rfl

lemma inquiries_seatAll (p : Panel) (now : ℕ) (qs : List Inquiry) :
    (p.seatAll now qs).1.map (·.inquiry) = qs.filter fun q => (p.agent? q.agent).isSome := by
  induction qs generalizing p with
  | nil => rfl
  | cons q qs ih =>
    have hrest := ih (p.seat now q).2
    simp only [(p.follows_seat now q).agent?] at hrest
    rw [seatAll_cons, List.map_append, hrest]
    rcases p.seat_cases now q with ⟨hs, hx⟩ | ⟨x, hx, rfl, hs⟩ <;> simp [hx, hs]

lemma remembered_seat (p : Panel) (now : ℕ) (q q' : Inquiry) :
    (p.seat now q).2.remembered? q' = p.remembered? q' := by
  rcases p.seat_eq now q with ⟨-, h⟩ | ⟨slot, -, ⟨r, -, h⟩ | ⟨-, h⟩⟩ <;> rw [h]
  rw [remembered?, cache_updateBreaker, ← remembered?]

/-- Each part was seated at the panel that the parts before it left behind: the same agents sit there, and the same
opinions are remembered. -/
lemma exists_seat_of_mem {p : Panel} {now : ℕ} {qs : List Inquiry} {x : Part} (hx : x ∈ (p.seatAll now qs).1) :
    ∃ p' q, p.Follows p' ∧ (∀ q', p'.remembered? q' = p.remembered? q') ∧ (p'.seat now q).1 = some x := by
  induction qs generalizing p with
  | nil => cases hx
  | cons q qs ih =>
    rw [seatAll_cons, List.mem_append, Option.mem_toList] at hx
    rcases hx with hx | hx
    · exact ⟨p, q, .refl p, fun _ => rfl, hx⟩
    · obtain ⟨p', q', hfollows, hremembers, hseat⟩ := ih hx
      exact ⟨p', q', (p.follows_seat now q).trans hfollows,
        fun q₁ => (hremembers q₁).trans (p.remembered_seat now q q₁), hseat⟩

lemma agent_seatAll {p : Panel} {now : ℕ} {qs : List Inquiry} {x : Part}
    (hx : x ∈ (p.seatAll now qs).1) : p.agent? x.inquiry.agent = some x.agent := by
  obtain ⟨p', q, hfollows, -, hseat⟩ := exists_seat_of_mem hx
  rcases p'.seat_cases now q with ⟨-, h⟩ | ⟨y, h, rfl, hs⟩
  · simp [hseat] at h
  · obtain rfl : x = y := Option.some.inj (hseat.symm.trans h)
    rw [← hfollows.agent?, hs]

/-- An agent that has a part stays, whatever happens then. -/
lemma agent_run_seatAll {p : Panel} {now : ℕ} {qs : List Inquiry} {x : Part}
    (hx : x ∈ (p.seatAll now qs).1) (es : List PanelEvent) :
    ((p.seatAll now qs).2.run es).agent? x.inquiry.agent = some x.agent := by
  have hfollows := (p.follows_seatAll now qs).trans ((p.seatAll now qs).2.follows_run es)
  rw [hfollows.agent?, agent_seatAll hx]

/-- What a part remembers was remembered when the first part began. -/
lemma remembered_seatAll {p : Panel} {now : ℕ} {qs : List Inquiry} {x : Part} {r : Result}
    (hx : x ∈ (p.seatAll now qs).1) (hr : x.seat = .remembered r) :
    p.remembered? x.inquiry = some r := by
  obtain ⟨p', q, -, hremembers, hseat⟩ := exists_seat_of_mem hx
  rw [← hremembers]
  rcases p'.seat_eq now q with ⟨-, h⟩ | ⟨slot, -, ⟨r', hr', h⟩ | ⟨-, h⟩⟩ <;> rw [h] at hseat
  · cases hseat
  · obtain rfl := Option.some.inj hseat
    cases hr
    exact hr'
  · obtain rfl := Option.some.inj hseat
    simp only at hr
    split at hr <;> cases hr

end Panel

/-- An agent that asks a model comes to the opinion that is in the model's answer. -/
lemma Agent.opinion_of_asksModel {a : Agent} {q : Inquiry} {reply : Reply} {o : Opinion}
    (ha : a.asksModel = true) (ho : (a.analyse q reply).outcome = .ok o) :
    ∃ provider latency c, q.opinion provider latency c = .ok o := by
  unfold asksModel at ha
  unfold analyse at ho
  split at ha
  · next provider settings hconduct =>
    simp only [hconduct] at ho
    split at ho
    · next c _ => exact ⟨provider, _, c, ho⟩
    · cases ho
  · cases ha

/-- The opinion in a model's answer is fresh and under the layer of its agent; its level is that of the inquiry's
thresholds, and its tokens are those of the answer. -/
lemma Inquiry.of_opinion {q : Inquiry} {provider : String} {latency : ℕ} {c : Provider.Completion} {o : Opinion}
    (h : q.opinion provider latency c = .ok o) :
    (o.result.layer = q.agent.shadowLayer ∧ o.result.fallbackUsed = false ∧
      o.result.fallbackReason = none ∧ o.result.cached = false) ∧
      o.result.level = q.thresholds.classify o.result.score ∧ o.result.tokens = o.tokens.total := by
  obtain ⟨v, -, hv⟩ := bind_ok.mp h
  obtain rfl := Except.ok.inj hv
  exact ⟨⟨rfl, rfl, rfl, rfl⟩, rfl, rfl⟩

/-- An agent that asks a model makes its answer a fresh opinion under the layer of its own. -/
lemma Agent.fresh_of_asksModel {a : Agent} {q : Inquiry} {reply : Reply} {o : Opinion}
    (ha : a.asksModel = true) (ho : (a.analyse q reply).outcome = .ok o) :
    o.result.layer = q.agent.shadowLayer ∧ o.result.fallbackUsed = false ∧
      o.result.fallbackReason = none ∧ o.result.cached = false := by
  obtain ⟨_, _, _, hopinion⟩ := opinion_of_asksModel ha ho
  exact (Inquiry.of_opinion hopinion).1

/-- What happens to an operation that is waited for: its own end, its timeout or, before that, the
deadline. -/
lemma Operation.ending_cases {ε α : Type} (op : Operation ε α) (start : ℕ) (timeout : Duration)
    (deadline : ℕ) : (op.ending start timeout deadline).1 = .completed op.outcome ∨
      (op.ending start timeout deadline).1 = .timedOut ∨
      (op.ending start timeout deadline).1 = .dropped ∧ deadline < start + timeout.ticks := by
  simp only [ending]
  split
  · split
    · exact .inl rfl
    · split
      · exact .inr (.inl rfl)
      · next h => exact .inr (.inr ⟨rfl, lt_of_le_of_lt (le_max_right start deadline) (Nat.lt_of_not_le h)⟩)
  · split
    · exact .inr (.inl rfl)
    · next h => exact .inr (.inr ⟨rfl, lt_of_le_of_lt (le_max_right start deadline) (Nat.lt_of_not_le h)⟩)

namespace Part

/-- What a part comes to, when, and what it makes of the panel. -/
inductive Ends (x : Part) (p : Panel) (start deadline : ℕ) (reply : Reply) :
    (Contribution × ℕ) × Panel → Prop
  | remembered {r : Result} (seat : x.seat = .remembered r) :
    Ends x p start deadline reply ((⟨Outcome.result x.inquiry.agent x.inquiry.score (.remembered r),
      Provider.Usage.zero.hit, .nothing⟩, start), p)
  | refused (seat : x.seat = .refused) : Ends x p start deadline reply
      ((x.inquiry.contribution (.ofCall (.error .rejected)) .nothing, start), p)
  /-- There is no such agent any more. -/
  | gone {permit : Permit} (now : ℕ) (seat : x.seat = .working permit)
    (gone : p.agent? x.inquiry.agent = none) :
    Ends x p start deadline reply ((x.inquiry.contribution .late .released, now), p)
  | answered {permit : Permit} {o : Opinion} (now : ℕ) (seat : x.seat = .working permit)
    (outcome : (x.agent.analyse x.inquiry reply).outcome = .ok o) :
    Ends x p start deadline reply
      ((⟨o.result, Provider.Usage.zero.add o.tokens o.result.model, .success⟩, now),
        (p.updateBreaker x.inquiry.agent fun b => b.success now permit).remember x.inquiry o.result)
  | failed {permit : Permit} {e : CallError AgentError} (now : ℕ) (seat : x.seat = .working permit)
    (error : e = .timeout x.agent.timeout ∨
      ∃ e', e = .failed e' ∧ (x.agent.analyse x.inquiry reply).outcome = .error e') :
    Ends x p start deadline reply ((x.inquiry.contribution (.ofCall (.error e)) .failure, now),
      p.updateBreaker x.inquiry.agent fun b => b.failure now permit)
  /-- The deadline comes before the agent's own timeout. -/
  | dropped {permit : Permit} (now : ℕ) (seat : x.seat = .working permit)
    (late : deadline < start + x.agent.timeout.ticks) : Ends x p start deadline reply
      ((x.inquiry.contribution .late .released, now),
        p.updateBreaker x.inquiry.agent fun b => b.release permit)

lemma ends (x : Part) (p : Panel) (start deadline : ℕ) (reply : Reply) :
    x.Ends p start deadline reply (x.finish p start deadline reply) := by
  unfold finish
  split
  · next r hseat => exact .remembered hseat
  · next hseat => exact .refused hseat
  · next permit hseat =>
    have hcases := (x.agent.analyse x.inquiry reply).ending_cases start x.agent.timeout deadline
    generalize (x.agent.analyse x.inquiry reply).ending start x.agent.timeout deadline = r at hcases ⊢
    obtain ⟨ending, now⟩ := r
    rcases p.settle_eq x.inquiry permit x.agent.timeout now ending with ⟨hgone, h⟩ | ⟨slot, hs, h⟩
    · simp only [h]
      exact .gone now hseat (by simp [Panel.agent?, hgone])
    · simp only [h]
      rcases hcases with rfl | rfl | ⟨rfl, hlate⟩
      · cases hout : (x.agent.analyse x.inquiry reply).outcome with
        | ok o => exact .answered now hseat hout
        | error e => exact .failed now hseat (.inr ⟨e, rfl, hout⟩)
      · exact .failed now hseat (.inl rfl)
      · exact .dropped now hseat hlate

lemma Ends.follows {x : Part} {p : Panel} {start deadline : ℕ} {reply : Reply}
    {e : (Contribution × ℕ) × Panel} (h : x.Ends p start deadline reply e) : p.Follows e.2 := by
  cases h with
  | remembered seat => exact .refl p
  | refused seat => exact .refl p
  | gone now seat gone => exact .refl p
  | @answered permit o now seat outcome => exact p.follows_touch x.inquiry.agent (.success now permit)
  | @failed permit e now seat error => exact p.follows_touch x.inquiry.agent (.failure now permit)
  | @dropped permit now seat late => exact p.follows_touch x.inquiry.agent (.release permit)

end Part

/-- What holds however each part ends, on any panel that the parts before it leave behind, holds of what
all of them come to. -/
lemma finishAll_forall₂ {P : Part → Contribution × ℕ → Prop} {began : Stage → ℕ} {deadline : ℕ}
    {replies : Stage → Reply} {parts : List Part} {p : Panel}
    (h : ∀ x ∈ parts, ∀ p' e, p.Follows p' →
      x.Ends p' (began x.inquiry.agent) deadline (replies x.inquiry.agent) e → P x e.1) :
    List.Forall₂ P parts (finishAll p began deadline replies parts).1 := by
  induction parts generalizing p with
  | nil => exact .nil
  | cons x parts ih =>
    have hends := x.ends p (began x.inquiry.agent) deadline (replies x.inquiry.agent)
    refine .cons (h x List.mem_cons_self p _ (.refl p) hends) (ih fun y hy p' e hp' => ?_)
    exact h y (List.mem_cons_of_mem x hy) p' e (hends.follows.trans hp')

end Guardrail.Shadow
