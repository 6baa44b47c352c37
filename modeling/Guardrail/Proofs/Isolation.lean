import Guardrail.Proofs.CacheKeys
import Guardrail.Proofs.Reports

/-!
Agents do not influence each other.

The agents of a request are at work side by side, on one panel and with one cache. What one of them sees of
this are its own slot and what is remembered under the hashes of its own keys. A turn of another agent leaves
that as it is, and its own turns depend on nothing else, so that only its own turns count, however they lie
between those of the others. Two keys with one hash are the one way in which agents could meet.
-/

namespace Guardrail

/-- Reading a map of which only some keys were kept. -/
lemma Keyed.get?_filter {κ α : Type} [Ord κ] [Std.LawfulEqOrd κ] (keep : κ → Bool) (k : κ) (m : Keyed κ α) :
    Keyed.get? k (m.filter fun x => keep x.1) = if keep k then Keyed.get? k m else none := by
  induction m with
  | nil => simp
  | cons x m ih =>
    obtain ⟨k', v⟩ := x
    by_cases hk : k = k'
    · subst hk
      by_cases hkeep : keep k = true
      · simp [hkeep, get?_cons_self]
      · simp [hkeep, ih]
    · rw [get?_cons_of_ne hk, ← ih]
      by_cases hkeep : keep k' = true
      · simp [hkeep, get?_cons_of_ne hk]
      · simp [hkeep]

namespace Shadow

/-! ### What an agent sees of a panel -/

namespace Panel

/-- What is remembered under a hash, if the panel remembers at all. -/
def recalled? (p : Panel) (hash : String) : Option (Option Result) := p.cache.map (·.get? hash)

lemma remembered?_eq_join (p : Panel) (q : Inquiry) : p.remembered? q = (p.recalled? q.key.hash).join := by
  unfold remembered? recalled?
  cases p.cache <;> rfl

@[simp] lemma recalled?_updateBreaker (p : Panel) (s : Stage) (f : Breaker → Breaker) (hash : String) :
    (p.updateBreaker s f).recalled? hash = p.recalled? hash := by
  simp only [recalled?, cache_updateBreaker]

lemma recalled?_remember (p : Panel) (q : Inquiry) (r : Result) (hash : String) :
    (p.remember q r).recalled? hash
      = (p.recalled? hash).map fun e => if !r.fallbackUsed ∧ hash = q.key.hash then some r else e := by
  unfold recalled? remember
  rw [Option.map_map, Option.map_map]
  congr 1
  funext c
  simp only [Function.comp_apply, Cache.insert, Cache.get?]
  by_cases hused : r.fallbackUsed = true
  · simp [hused]
  · by_cases hhash : hash = q.key.hash
    · simp [hused, hhash, Keyed.get?_set_self]
    · simp [hused, hhash, Keyed.get?_set_of_ne hhash]

lemma recalled?_forget (p : Panel) (hash : String) : p.forget.recalled? hash = (p.recalled? hash).map fun _ => none := by
  unfold recalled? forget
  rw [Option.map_map, Option.map_map]
  rfl

lemma recalled?_evict (p : Panel) (keep : String → Bool) (hash : String) :
    (p.step (.evict keep)).recalled? hash = (p.recalled? hash).map fun e => if keep hash then e else none := by
  unfold recalled? step
  rw [Option.map_map, Option.map_map]
  congr 1
  funext c
  exact Keyed.get?_filter keep hash c.entries

/-- Two panels are the same to an agent: it sits behind the same breaker, and the same is remembered under the
hashes that count. -/
structure Agrees (agent : Stage) (H : String → Prop) (p p' : Panel) : Prop where
  slot : p.slots.get? agent = p'.slots.get? agent
  entries : ∀ hash, H hash → p.recalled? hash = p'.recalled? hash

variable {agent : Stage} {H : String → Prop} {p p' p'' : Panel}

lemma Agrees.refl (p : Panel) : p.Agrees agent H p := ⟨rfl, fun _ _ => rfl⟩

lemma Agrees.symm (h : p.Agrees agent H p') : p'.Agrees agent H p :=
  ⟨h.slot.symm, fun hash hH => (h.entries hash hH).symm⟩

lemma Agrees.trans (h : p.Agrees agent H p') (h' : p'.Agrees agent H p'') : p.Agrees agent H p'' :=
  ⟨h.slot.trans h'.slot, fun hash hH => (h.entries hash hH).trans (h'.entries hash hH)⟩

lemma Agrees.updateBreaker (h : p.Agrees agent H p') (f : Breaker → Breaker) :
    (p.updateBreaker agent f).Agrees agent H (p'.updateBreaker agent f) :=
  ⟨by rw [slot_updateBreaker_self, slot_updateBreaker_self, h.slot], by simpa using h.entries⟩

lemma agrees_updateBreaker_of_ne {s : Stage} (hs : s ≠ agent) (f : Breaker → Breaker) :
    p.Agrees agent H (p.updateBreaker s f) :=
  ⟨(slot_updateBreaker_of_ne p hs.symm f).symm, by simp⟩

lemma Agrees.remember (h : p.Agrees agent H p') (q : Inquiry) (r : Result) :
    (p.remember q r).Agrees agent H (p'.remember q r) :=
  ⟨h.slot, fun hash hH => by rw [recalled?_remember, recalled?_remember, h.entries hash hH]⟩

lemma agrees_remember {q : Inquiry} (hq : ¬ H q.key.hash) (r : Result) : p.Agrees agent H (p.remember q r) := by
  refine ⟨rfl, fun hash hH => ?_⟩
  have hne : hash ≠ q.key.hash := fun heq => hq (heq ▸ hH)
  simp [recalled?_remember, hne]

/-! ### How the part of an agent begins and ends -/

/-- The part of an agent begins alike where it sees the same. -/
lemma Agrees.seat (h : p.Agrees agent H p') {q : Inquiry} (hq : q.agent = agent) (hkey : H q.key.hash) (now : ℕ) :
    (p.seat now q).1 = (p'.seat now q).1 ∧ (p.seat now q).2.Agrees agent H (p'.seat now q).2 := by
  subst hq
  have hremembered : p.remembered? q = p'.remembered? q := by
    rw [remembered?_eq_join, remembered?_eq_join, h.entries _ hkey]
  unfold Panel.seat
  rw [← h.slot, ← hremembered]
  split
  · exact ⟨rfl, h⟩
  · next slot _ =>
    split
    · exact ⟨rfl, h⟩
    · rcases slot.breaker.acquire now with ⟨_ | permit, b⟩
      · exact ⟨rfl, h.updateBreaker fun _ => b⟩
      · exact ⟨rfl, h.updateBreaker fun _ => b⟩

lemma agrees_seat_of_ne {q : Inquiry} (hq : q.agent ≠ agent) (now : ℕ) : p.Agrees agent H (p.seat now q).2 := by
  unfold seat
  split
  · exact .refl p
  · next slot _ =>
    split
    · exact .refl p
    · rcases slot.breaker.acquire now with ⟨_ | permit, b⟩
      · exact agrees_updateBreaker_of_ne hq fun _ => b
      · exact agrees_updateBreaker_of_ne hq fun _ => b

/-- The part of an agent ends alike where it sees the same. -/
lemma Agrees.settle (h : p.Agrees agent H p') {q : Inquiry} (hq : q.agent = agent) (permit : Permit)
    (timeout : Duration) (now : ℕ) (ending : Ending AgentError Opinion) :
    (p.settle q permit timeout now ending).1 = (p'.settle q permit timeout now ending).1 ∧
      (p.settle q permit timeout now ending).2.Agrees agent H (p'.settle q permit timeout now ending).2 := by
  subst hq
  unfold Panel.settle
  rw [← h.slot]
  split
  · exact ⟨rfl, h⟩
  · next slot _ =>
    rcases slot.breaker.settle now permit timeout ending with ⟨_ | e | o, report, b⟩
    · exact ⟨rfl, h.updateBreaker fun _ => b⟩
    · exact ⟨rfl, h.updateBreaker fun _ => b⟩
    · exact ⟨rfl, (h.updateBreaker fun _ => b).remember q o.result⟩

lemma agrees_settle_of_ne {q : Inquiry} (hq : q.agent ≠ agent) (hkey : ¬ H q.key.hash) (permit : Permit)
    (timeout : Duration) (now : ℕ) (ending : Ending AgentError Opinion) :
    p.Agrees agent H (p.settle q permit timeout now ending).2 := by
  unfold settle
  split
  · exact .refl p
  · next slot _ =>
    have hupdate (b : Breaker) : p.Agrees agent H (p.updateBreaker q.agent fun _ => b) :=
      agrees_updateBreaker_of_ne hq _
    rcases slot.breaker.settle now permit timeout ending with ⟨_ | e | o, report, b⟩
    · exact hupdate b
    · exact hupdate b
    · exact (hupdate b).trans (agrees_remember hkey o.result)

end Panel

/-! ### What concerns an agent -/

/-- Whether an event is about an agent; what is done to all breakers or to the whole cache is about every
agent. -/
def PanelEvent.concerns (agent : Stage) : PanelEvent → Bool
  | seat _ q => q.agent = agent
  | settle q .. => q.agent = agent
  | touch s _ => s = agent
  | refresh _ => true
  | forget => true
  | evict _ => true

/-- What an agent is asked in an event. -/
def PanelEvent.asked : PanelEvent → Option Inquiry
  | seat _ q => some q
  | settle q .. => some q
  | touch .. => none
  | refresh _ => none
  | forget => none
  | evict _ => none

/-- What an agent is asked is about this agent. -/
lemma PanelEvent.concerns_of_asked {e : PanelEvent} {q : Inquiry} (hq : q ∈ e.asked) (agent : Stage) :
    e.concerns agent = decide (q.agent = agent) := by
  cases e with
  | seat now q' => rw [← Option.some.inj hq, concerns]
  | settle q' permit timeout now ending => rw [← Option.some.inj hq, concerns]
  | touch s t => cases hq
  | refresh now => cases hq
  | forget => cases hq
  | evict keep => cases hq

namespace Panel

variable {agent : Stage} {H : String → Prop} {p p' : Panel}

/-- What concerns an agent changes alike what it sees. -/
lemma Agrees.step (h : p.Agrees agent H p') {e : PanelEvent} (he : e.concerns agent = true)
    (hasked : ∀ q ∈ e.asked, H q.key.hash) : (p.step e).Agrees agent H (p'.step e) := by
  cases e with
  | seat now q => exact (h.seat (of_decide_eq_true he) (hasked q rfl) now).2
  | settle q permit timeout now ending => exact (h.settle (of_decide_eq_true he) permit timeout now ending).2
  | touch s t =>
    obtain rfl : s = agent := of_decide_eq_true he
    exact h.updateBreaker t.apply
  | refresh now => exact ⟨by simp only [Panel.step, slot_refresh, h.slot], h.entries⟩
  | forget =>
    refine ⟨h.slot, fun hash hH => ?_⟩
    rw [Panel.step, Panel.step, recalled?_forget, recalled?_forget, h.entries hash hH]
  | evict keep => exact ⟨h.slot, fun hash hH => by rw [recalled?_evict, recalled?_evict, h.entries hash hH]⟩

/-- What concerns only others does not change what an agent sees. -/
lemma agrees_step_of_others {e : PanelEvent} (he : e.concerns agent = false)
    (hasked : ∀ q ∈ e.asked, ¬ H q.key.hash) : p.Agrees agent H (p.step e) := by
  cases e with
  | seat now q => exact agrees_seat_of_ne (of_decide_eq_false he) now
  | settle q permit timeout now ending =>
    exact agrees_settle_of_ne (of_decide_eq_false he) (hasked q rfl) permit timeout now ending
  | touch s t => exact agrees_updateBreaker_of_ne (of_decide_eq_false he) t.apply
  | refresh now => cases he
  | forget => cases he
  | evict keep => cases he

end Panel

namespace Part

variable {agent : Stage} {H : String → Prop} {p p' : Panel} {x : Part}

lemma agrees_finish (h : p.Agrees agent H p') (hx : x.inquiry.agent = agent) (start deadline : ℕ) (reply : Reply) :
    (x.finish p start deadline reply).1 = (x.finish p' start deadline reply).1 ∧
      (x.finish p start deadline reply).2.Agrees agent H (x.finish p' start deadline reply).2 := by
  unfold finish
  split
  · exact ⟨rfl, h⟩
  · exact ⟨rfl, h⟩
  · next permit _ =>
    obtain ⟨hsame, hagrees⟩ := h.settle hx permit x.agent.timeout
      ((x.agent.analyse x.inquiry reply).ending start x.agent.timeout deadline).2
      ((x.agent.analyse x.inquiry reply).ending start x.agent.timeout deadline).1
    exact ⟨congrArg (·, _) hsame, hagrees⟩

lemma agrees_finish_of_ne (hx : x.inquiry.agent ≠ agent) (hkey : ¬ H x.inquiry.key.hash) (start deadline : ℕ)
    (reply : Reply) : p.Agrees agent H (x.finish p start deadline reply).2 := by
  unfold finish
  split
  · exact .refl p
  · exact .refl p
  · exact Panel.agrees_settle_of_ne hx hkey ..

end Part

/-! ### Agents side by side -/

/-- The agents of a request at work: the parts that are under way, and those that have ended, with what they
came to and when. -/
structure Scene where
  panel : Panel
  underway : List Part
  ended : List (Part × Contribution × ℕ)

/-- What happens next. -/
inductive Turn where
  /-- The part of an agent begins. -/
  | begins (q : Inquiry)
  /-- The part of an agent ends. -/
  | ends (agent : Stage) (reply : Reply)
  /-- Something else happens to the panel, in other requests for instance. -/
  | aside (e : PanelEvent)

namespace Turn

/-- Whether a turn is about an agent. -/
def concerns (agent : Stage) : Turn → Bool
  | begins q => q.agent = agent
  | ends s _ => s = agent
  | aside e => e.concerns agent

/-- What an agent is asked in a turn. -/
def asked : Turn → Option Inquiry
  | begins q => some q
  | ends .. => none
  | aside e => e.asked

lemma concerns_of_asked {t : Turn} {q : Inquiry} (hq : q ∈ t.asked) (agent : Stage) :
    t.concerns agent = decide (q.agent = agent) := by
  cases t with
  | begins q' => rw [← Option.some.inj hq, concerns]
  | ends s reply => cases hq
  | aside e => exact e.concerns_of_asked hq agent

end Turn

namespace Scene

/-- Nothing has happened yet. -/
def start (p : Panel) : Scene := ⟨p, [], []⟩

/-- What a turn makes of a scene. -/
def step (now deadline : ℕ) (s : Scene) : Turn → Scene
  | .begins q => ⟨(s.panel.seat now q).2, s.underway ++ (s.panel.seat now q).1.toList, s.ended⟩
  | .ends agent reply =>
    match s.underway.find? (·.inquiry.agent = agent) with
    | none => s
    | some x =>
      let done := x.finish s.panel now deadline reply
      ⟨done.2, s.underway.eraseP (·.inquiry.agent = agent), s.ended ++ [(x, done.1)]⟩
  | .aside e => { s with panel := s.panel.step e }

/-- What a list of turns makes of a scene. -/
def run (now deadline : ℕ) (s : Scene) (turns : List Turn) : Scene := turns.foldl (step now deadline) s

/-- Two scenes are the same to an agent: so are the panels, the parts that it has under way and those of its parts
that have ended, with what they came to. -/
structure Agrees (agent : Stage) (H : String → Prop) (s s' : Scene) : Prop where
  panel : s.panel.Agrees agent H s'.panel
  underway : s.underway.filter (·.inquiry.agent = agent) = s'.underway.filter (·.inquiry.agent = agent)
  ended : s.ended.filter (·.1.inquiry.agent = agent) = s'.ended.filter (·.1.inquiry.agent = agent)

/-- The other agents are not asked under a hash that counts. -/
def Outside (agent : Stage) (H : String → Prop) (s : Scene) : Prop :=
  ∀ x ∈ s.underway, x.inquiry.agent ≠ agent → ¬ H x.inquiry.key.hash

variable {agent : Stage} {H : String → Prop} {s s' s'' : Scene} {now deadline : ℕ}

lemma Agrees.refl (s : Scene) : s.Agrees agent H s := ⟨.refl _, rfl, rfl⟩

lemma Agrees.symm (h : s.Agrees agent H s') : s'.Agrees agent H s := ⟨h.panel.symm, h.underway.symm, h.ended.symm⟩

lemma Agrees.trans (h : s.Agrees agent H s') (h' : s'.Agrees agent H s'') : s.Agrees agent H s'' :=
  ⟨h.panel.trans h'.panel, h.underway.trans h'.underway, h.ended.trans h'.ended⟩

/-! ### One turn -/

lemma find?_underway
    (h : s.underway.filter (·.inquiry.agent = agent) = s'.underway.filter (·.inquiry.agent = agent)) :
    s.underway.find? (·.inquiry.agent = agent) = s'.underway.find? (·.inquiry.agent = agent) := by
  rw [← List.head?_filter, ← List.head?_filter, h]

/-- Taking the part of an agent away takes it away from the parts of that agent. -/
lemma filter_eraseP_self (agent : Stage) (parts : List Part) :
    (parts.eraseP (·.inquiry.agent = agent)).filter (·.inquiry.agent = agent)
      = (parts.filter (·.inquiry.agent = agent)).eraseP (·.inquiry.agent = agent) := by
  rw [List.eraseP_filter]
  simp only [Bool.and_self]

lemma filter_eraseP_of_ne {agent other : Stage} (hne : other ≠ agent) (parts : List Part) :
    (parts.eraseP (·.inquiry.agent = other)).filter (·.inquiry.agent = agent)
      = parts.filter (·.inquiry.agent = agent) := by
  rcases List.exists_or_eq_self_of_eraseP (·.inquiry.agent = other) parts with
    hsame | ⟨x, front, rest, -, hx, hparts, herase⟩
  · rw [hsame]
  · have hagent : x.inquiry.agent ≠ agent := by
      rw [of_decide_eq_true hx]
      exact hne
    rw [herase, hparts]
    simp [hagent]

/-- A turn of an agent changes alike what the agent sees. -/
lemma Agrees.step (h : s.Agrees agent H s') {t : Turn} (ht : t.concerns agent = true)
    (hasked : ∀ q ∈ t.asked, H q.key.hash) :
    (s.step now deadline t).Agrees agent H (s'.step now deadline t) := by
  cases t with
  | begins q =>
    obtain ⟨hpart, hpanel⟩ := h.panel.seat (of_decide_eq_true ht) (hasked q rfl) now
    refine ⟨hpanel, ?_, h.ended⟩
    simp only [Scene.step, List.filter_append, hpart, h.underway]
  | ends other reply =>
    obtain rfl : other = agent := of_decide_eq_true ht
    simp only [Scene.step]
    rw [← find?_underway h.underway]
    split
    · exact h
    · next x hx =>
      have hagent : x.inquiry.agent = other := by simpa using List.find?_some hx
      obtain ⟨hends, hpanel⟩ := Part.agrees_finish h.panel hagent now deadline reply
      refine ⟨hpanel, ?_, ?_⟩
      · rw [filter_eraseP_self, filter_eraseP_self, h.underway]
      · simp only [List.filter_append, h.ended, hends]
  | aside e => exact ⟨h.panel.step ht hasked, h.underway, h.ended⟩

/-- A turn of others does not change what an agent sees. -/
lemma agrees_step_of_others (hout : s.Outside agent H) {t : Turn} (ht : t.concerns agent = false)
    (hasked : ∀ q ∈ t.asked, ¬ H q.key.hash) : s.Agrees agent H (s.step now deadline t) := by
  cases t with
  | begins q =>
    have hagent : q.agent ≠ agent := of_decide_eq_false ht
    refine ⟨Panel.agrees_seat_of_ne hagent now, ?_, rfl⟩
    rcases s.panel.seat_cases now q with ⟨-, hpart⟩ | ⟨x, hpart, rfl, -⟩
    · simp [Scene.step, hpart]
    · simp [Scene.step, hpart, hagent]
  | ends other reply =>
    have hne : other ≠ agent := of_decide_eq_false ht
    simp only [Scene.step]
    split
    · exact .refl s
    · next x hx =>
      have hother : x.inquiry.agent = other := by simpa using List.find?_some hx
      have hagent : x.inquiry.agent ≠ agent := hother ▸ hne
      have hkey := hout x (List.mem_of_find?_eq_some hx) hagent
      refine ⟨Part.agrees_finish_of_ne hagent hkey now deadline reply, ?_, ?_⟩
      · exact (filter_eraseP_of_ne hne _).symm
      · simp [hagent]
  | aside e => exact ⟨Panel.agrees_step_of_others ht hasked, rfl, rfl⟩

lemma Outside.step (h : s.Outside agent H) {t : Turn}
    (hasked : ∀ q ∈ t.asked, q.agent ≠ agent → ¬ H q.key.hash) : (s.step now deadline t).Outside agent H := by
  cases t with
  | begins q =>
    intro x hx
    rcases List.mem_append.mp hx with hx | hx
    · exact h x hx
    · rcases s.panel.seat_cases now q with ⟨-, hpart⟩ | ⟨y, hpart, rfl, -⟩
      · rw [hpart] at hx
        cases hx
      · rw [hpart] at hx
        obtain rfl := List.mem_singleton.mp hx
        exact hasked _ rfl
  | ends other reply =>
    simp only [Scene.step]
    split
    · exact h
    · exact fun x hx => h x (List.mem_of_mem_eraseP hx)
  | aside e => exact h

/-! ### All turns -/

/-- An agent sees the same if only its own turns are taken. -/
lemma Agrees.run_filter (h : s.Agrees agent H s') (hout : s.Outside agent H) {turns : List Turn}
    (hasked : ∀ t ∈ turns, ∀ q ∈ t.asked, H q.key.hash ↔ q.agent = agent) (now deadline : ℕ) :
    (s.run now deadline turns).Agrees agent H (s'.run now deadline (turns.filter (·.concerns agent))) := by
  -- the second scene stands still while others take their turns in the first
  induction turns generalizing s s' with
  | nil => exact h
  | cons t turns ih =>
    obtain ⟨hfirst, hasked⟩ := List.forall_mem_cons.mp hasked
    have hnext : (s.step now deadline t).Outside agent H := hout.step fun q hq hne hH => hne ((hfirst q hq).mp hH)
    cases ht : t.concerns agent with
    | true =>
      have hown : ∀ q ∈ t.asked, H q.key.hash := by
        intro q hq
        rw [Turn.concerns_of_asked hq agent] at ht
        exact (hfirst q hq).mpr (of_decide_eq_true ht)
      rw [List.filter_cons_of_pos ht]
      exact ih (h.step ht hown) hnext hasked
    | false =>
      have hothers : ∀ q ∈ t.asked, ¬ H q.key.hash := by
        intro q hq hH
        rw [Turn.concerns_of_asked hq agent] at ht
        exact of_decide_eq_false ht ((hfirst q hq).mp hH)
      rw [List.filter_cons_of_neg (by simp [ht])]
      exact ih ((agrees_step_of_others hout ht hothers).symm.trans h) hnext hasked

/-- Two courses of things are the same to an agent if its own turns are. -/
lemma Agrees.run (h : s.Agrees agent H s') (hout : s.Outside agent H) (hout' : s'.Outside agent H)
    {turns turns' : List Turn} (hsame : turns.filter (·.concerns agent) = turns'.filter (·.concerns agent))
    (hasked : ∀ t ∈ turns ++ turns', ∀ q ∈ t.asked, H q.key.hash ↔ q.agent = agent) (now deadline : ℕ) :
    (s.run now deadline turns).Agrees agent H (s'.run now deadline turns') := by
  obtain ⟨hasked, hasked'⟩ := List.forall_mem_append.mp hasked
  have hfirst := h.run_filter hout hasked now deadline
  have hsecond := (Agrees.refl s').run_filter hout' hasked' now deadline
  rw [hsame] at hfirst
  exact hfirst.trans hsecond.symm

/-! ### Escalations -/

/-- The ends of all parts, one after another. -/
def endings (replies : Stage → Reply) (qs : List Inquiry) : List Turn :=
  qs.map fun q => .ends q.agent (replies q.agent)

/-- The turns of an escalation in which first all parts begin and then all end. -/
def oneByOne (replies : Stage → Reply) (qs : List Inquiry) : List Turn := qs.map .begins ++ endings replies qs

/-- What an escalation comes to. -/
def escalated (p : Panel) (qs : List Inquiry) (now deadline : ℕ) (replies : Stage → Reply) : Scene :=
  let seated := p.seatAll now qs
  let done := finishAll seated.2 (fun _ => now) deadline replies seated.1
  ⟨done.2, [], seated.1.zip done.1⟩

lemma run_begins (now deadline : ℕ) (p : Panel) (qs : List Inquiry) (parts : List Part)
    (ended : List (Part × Contribution × ℕ)) : Scene.run now deadline ⟨p, parts, ended⟩ (qs.map .begins)
      = ⟨(p.seatAll now qs).2, parts ++ (p.seatAll now qs).1, ended⟩ := by
  induction qs generalizing p parts with
  | nil => rw [Panel.seatAll, List.append_nil]; rfl
  | cons q qs ih =>
    have hrest := ih (p.seat now q).2 (parts ++ (p.seat now q).1.toList)
    rw [List.append_assoc] at hrest
    exact hrest

/-- Ending parts in the order in which they were asked for is ending one after another; that agents are asked who
are not there makes no difference. -/
lemma run_endings (replies : Stage → Reply) (there : Stage → Bool) {qs : List Inquiry} {parts : List Part}
    (hparts : parts.map (·.inquiry) = qs.filter fun q => there q.agent) (p : Panel)
    (ended : List (Part × Contribution × ℕ)) :
    Scene.run now deadline ⟨p, parts, ended⟩ (endings replies qs)
      = ⟨(finishAll p (fun _ => now) deadline replies parts).2, [],
          ended ++ parts.zip (finishAll p (fun _ => now) deadline replies parts).1⟩ := by
  induction qs generalizing parts p ended with
  | nil =>
    obtain rfl := List.map_eq_nil_iff.mp hparts
    simp [endings, Scene.run, finishAll]
  | cons q qs ih =>
    by_cases hq : there q.agent = true
    · rw [List.filter_cons, if_pos hq] at hparts
      obtain ⟨x, rest, rfl, rfl, hrest⟩ := List.map_eq_cons_iff.mp hparts
      have hrest := ih hrest (x.finish p now deadline (replies x.inquiry.agent)).2
        (ended ++ [(x, (x.finish p now deadline (replies x.inquiry.agent)).1)])
      rw [List.append_assoc] at hrest
      have hstep : Scene.step now deadline ⟨p, x :: rest, ended⟩ (.ends x.inquiry.agent (replies x.inquiry.agent))
          = ⟨(x.finish p now deadline (replies x.inquiry.agent)).2, rest,
              ended ++ [(x, (x.finish p now deadline (replies x.inquiry.agent)).1)]⟩ := by
        simp [Scene.step]
      rw [endings, List.map_cons, Scene.run, List.foldl_cons, hstep]
      exact hrest
    -- where there is no such agent, there is no part to end
    · have hnone : parts.find? (·.inquiry.agent = q.agent) = none := by
        rw [List.find?_eq_none]
        intro x hx heq
        have hmem : x.inquiry ∈ (q :: qs).filter fun q => there q.agent := hparts ▸ List.mem_map_of_mem hx
        have hthere := (List.mem_filter.mp hmem).2
        rw [of_decide_eq_true heq] at hthere
        exact hq hthere
      rw [List.filter_cons, if_neg hq] at hparts
      rw [endings, List.map_cons, Scene.run, List.foldl_cons]
      have hstep : Scene.step now deadline ⟨p, parts, ended⟩ (.ends q.agent (replies q.agent))
          = ⟨p, parts, ended⟩ := by
        simp [Scene.step, hnone]
      rw [hstep]
      exact ih hparts p ended

/-- An escalation is one course of things. -/
lemma escalated_eq_run (p : Panel) (qs : List Inquiry) (now deadline : ℕ) (replies : Stage → Reply) :
    escalated p qs now deadline replies = (start p).run now deadline (oneByOne replies qs) := by
  have hbegun := run_begins now deadline p qs [] []
  rw [List.nil_append] at hbegun
  rw [oneByOne, Scene.run, List.foldl_append, ← Scene.run, ← Scene.run, start, hbegun,
    run_endings replies (fun s => (p.agent? s).isSome) (p.inquiries_seatAll now qs)]
  rfl

/-! ### Agents apart -/

/-- What an agent comes to is the same: its results with what they cost and when they were there, its breaker
afterwards, and what is remembered under its keys, as far as they do not clash with what was asked. -/
structure SameTo (agent : Stage) (asked : List Inquiry) (s s' : Scene) : Prop where
  outcomes : s.ended.filter (·.1.inquiry.agent = agent) = s'.ended.filter (·.1.inquiry.agent = agent)
  breaker : s.panel.breaker? agent = s'.panel.breaker? agent
  entries : ∀ k : CacheKey, k.agent = agent → (∀ q ∈ asked, q.key.hash = k.hash → q.key.text = k.text) →
    s.panel.recalled? k.hash = s'.panel.recalled? k.hash

/-- Only this agent is asked under the hash. -/
def Private (agent : Stage) (asked : List Inquiry) (hash : String) : Prop :=
  ∀ q ∈ asked, q.agent ≠ agent → q.key.hash ≠ hash

/-- A key that does not clash with others is private to its agent. -/
lemma private_hash {k : CacheKey} {asked : List Inquiry} (hk : k.agent = agent)
    (hclash : ∀ q ∈ asked, q.key.hash = k.hash → q.key.text = k.text) : Private agent asked k.hash := by
  intro q hq hne hhash
  obtain ⟨-, hagent, -⟩ := CacheKey.parts_of_text (hclash q hq hhash)
  exact hne (hagent.trans hk)

lemma Agrees.sameTo {asked : List Inquiry} (h : s.Agrees agent (Private agent asked) s') :
    s.SameTo agent asked s' :=
  ⟨h.ended, congrArg (Option.map Slot.breaker) h.panel.slot,
    fun _ hk hclash => h.panel.entries _ (private_hash hk hclash)⟩

/-- Whatever the other agents do in an escalation is nothing to an agent. -/
lemma escalated_agrees (p : Panel) (qs : List Inquiry) (now deadline : ℕ) {replies replies' : Stage → Reply}
    (hreplies : replies agent = replies' agent) :
    (escalated p qs now deadline replies).Agrees agent (Private agent qs) (escalated p qs now deadline replies') := by
  let seated : Scene := ⟨(p.seatAll now qs).2, (p.seatAll now qs).1, []⟩
  have hrun (replies : Stage → Reply) : escalated p qs now deadline replies
      = seated.run now deadline (endings replies qs) := by
    rw [run_endings replies (fun s => (p.agent? s).isSome) (p.inquiries_seatAll now qs)]
    rfl
  have hout : seated.Outside agent (Private agent qs) := by
    intro x hx hne hprivate
    have hmem := List.mem_map_of_mem (f := (·.inquiry)) hx
    rw [p.inquiries_seatAll] at hmem
    exact hprivate _ (List.mem_of_mem_filter hmem) hne rfl
  have hsame : (endings replies qs).filter (·.concerns agent) = (endings replies' qs).filter (·.concerns agent) := by
    unfold endings
    rw [List.filter_map, List.filter_map]
    refine List.map_congr_left fun q hq => ?_
    have hagent : q.agent = agent := of_decide_eq_true (List.mem_filter.mp hq).2
    rw [hagent, hreplies]
  -- all parts have begun, and nobody is asked any more
  have hasked : ∀ t ∈ endings replies qs ++ endings replies' qs, t.asked = none := by
    intro t ht
    rcases List.mem_append.mp ht with ht | ht
    all_goals
      obtain ⟨q, -, rfl⟩ := List.mem_map.mp ht
      rfl
  rw [hrun, hrun]
  refine (Agrees.refl seated).run hout hout hsame (fun t ht q hq => ?_) now deadline
  rw [hasked t ht] at hq
  cases hq

/-- What two agents are asked. -/
def calmPair : List Inquiry := [calmInquiry .input, calmInquiry .state]

/-- The second of two agents fails and is done before the first begins. -/
def failsFirst : List Turn :=
  [.begins (calmInquiry .state), .ends .state ⟨some 1, .error (.http "")⟩, .begins (calmInquiry .input),
    .ends .input (oneReply .input)]

end Scene

end Shadow

end Guardrail
