import Guardrail.Proofs.Accounts
import Guardrail.Proofs.Forgetting

/-!
Rules that are exchanged while requests are under way.

A request keeps the rules that it begins with. What it finds on its way is written down with it: the breakers and
the remembered opinions at its beginning and whenever one of its parts ends, and what the providers reply. Played
again from that, under its own rules and with nobody else there, it comes to the same. Rules that come in between do
not appear in it, and what it leaves to be remembered is for requests of the same version.
-/

namespace Guardrail

open Shadow

/-! ### A request by itself -/

/-- The end of one part of a request: the panel that it meets, and what the provider does if it is asked. -/
structure Turn where
  part : ℕ
  panel : Panel
  reply : Reply

/-- What a part comes to on the panel that it meets. A part that has ended, or that there is not, changes nothing. -/
def Matter.turn (m : Matter) (t : Turn) : Matter :=
  match m.parts[t.part]? with
  | some (x, none) =>
    { m with parts := m.parts.set t.part (x, some (x.finish t.panel m.pending.start m.pending.deadline t.reply).1) }
  | _ => m

/-- A request, the rules that it begins with, and what it meets on its way. -/
structure Course where
  engine : Engine
  /-- How long a request may take that does not say. -/
  deadline : Duration
  panel : Option Panel
  now : ℕ
  request : Request
  turns : List Turn

namespace Course

/-- A request that begins on a pipeline. -/
def beginning (p : Pipeline) (now : ℕ) (r : Request) : Course := ⟨p.engine, p.deadline, p.panel, now, r, []⟩

/-- A new pipeline of the rules, with the panel that the request finds. -/
def pipeline (c : Course) : Pipeline := { Pipeline.ofEngine c.engine with panel := c.panel, deadline := c.deadline }

/-- The request as it begins. -/
def pending (c : Course) : Pending := (c.pipeline.begin c.now c.request).1

/-- How far the request is. -/
def matter (c : Course) : Matter := c.turns.foldl Matter.turn (.ofPending c.pending)

/-- One more part ends. -/
def meet (c : Course) (t : Turn) : Course := { c with turns := c.turns ++ [t] }

end Course

/-- A request that was decided, and the panel that it left behind. -/
structure Closing where
  course : Course
  panel : Option Panel

namespace Closing

/-- The request is decided under its rules. -/
def closed (z : Closing) : (Decision × ℕ) × Pipeline :=
  Pipeline.close { z.course.pipeline with panel := z.panel } z.course.matter.pending z.course.matter.outcomes

/-- The decision. -/
def decision (z : Closing) : Decision := z.closed.1.1

/-- What is kept of it. -/
def record (z : Closing) : Audit.Record :=
  z.course.matter.pending.record z.decision ((z.closed.2.panel.map (·.views)).getD [])

end Closing

section

variable {m : Matter} {c : Course} {t : Turn}

lemma Matter.turn_pending (m : Matter) (t : Turn) : (m.turn t).pending = m.pending := by
  unfold turn
  split <;> rfl

/-- The parts stay the same, whatever they come to. -/
lemma Matter.turn_parts (m : Matter) (t : Turn) : (m.turn t).parts.map (·.1) = m.parts.map (·.1) := by
  unfold turn
  split
  · next x hx =>
    obtain ⟨hi, hx⟩ := List.getElem?_eq_some_iff.mp hx
    rw [List.map_set]
    refine List.ext_getElem (by simp) fun k hk hk' => ?_
    rw [List.getElem_set]
    split
    · next heq => subst heq; simp [hx]
    · rfl
  · rfl

/-- What a part that has ended came to stays. -/
lemma Matter.mem_turn {y : Part × Option (Contribution × ℕ)} (hy : y ∈ m.parts) (hended : y.2.isSome) :
    y ∈ (m.turn t).parts := by
  unfold turn
  split
  · next x hx =>
    obtain ⟨k, hk⟩ := List.mem_iff_getElem?.mp hy
    refine List.mem_iff_getElem?.mpr ⟨k, ?_⟩
    have hne : t.part ≠ k := by
      rintro rfl
      rw [hx] at hk
      cases hk
      cases hended
    rwa [List.getElem?_set_ne hne]
  · exact hy

/-- A part whose turn it is comes to what it comes to. -/
lemma Matter.ended_turn {x : Part} (hx : m.parts[t.part]? = some (x, none)) :
    (x, some (x.finish t.panel m.pending.start m.pending.deadline t.reply).1) ∈ (m.turn t).parts := by
  obtain ⟨hi, -⟩ := List.getElem?_eq_some_iff.mp hx
  simp only [turn, hx]
  exact List.mem_set hi _

lemma Course.matter_meet (c : Course) (t : Turn) : (c.meet t).matter = c.matter.turn t := by
  simp [matter, meet, List.foldl_append, pending, pipeline]

lemma Course.matter_pending (c : Course) : c.matter.pending = c.pending :=
  List.foldlRecOn c.turns _ (motive := fun m : Matter => m.pending = c.pending) rfl
    fun m h t _ => (m.turn_pending t).trans h

lemma Course.matter_parts (c : Course) : c.matter.parts.map (·.1) = c.pending.parts.getD [] := by
  refine List.foldlRecOn c.turns _ (motive := fun m : Matter => m.parts.map (·.1) = c.pending.parts.getD []) ?_
    fun m h t _ => (m.turn_parts t).trans h
  simp [Matter.ofPending, Function.comp_def]

end

/-! ### The rules of a request -/

namespace Pipeline

/-- A request begins on any pipeline as it does on a new one of its rules that has the same panel. -/
lemma begin_alone {p : Pipeline} (hmemo : p.memo.Sound) (now : ℕ) (r : Request) :
    (p.begin now r).1 = (Course.beginning p now r).pending := by
  have hevaluate := Engine.evaluate_memo (e := p.engine) hmemo Luhn.Memo.sound_nil r.stages r.context
  simp only [Course.pending, Course.pipeline, Course.beginning, ofEngine, begin, hevaluate]
  split <;> rfl

lemma begin_memo {p : Pipeline} (hmemo : p.memo.Sound) (now : ℕ) (r : Request) :
    (p.begin now r).2.memo.Sound ∧ (p.begin now r).2.sink = p.sink := by
  have hsound := Engine.Use.sound_after (e := p.engine) hmemo (.evaluates r.stages r.context)
  simp only [begin]
  split <;> exact ⟨hsound, rfl⟩

/-- A request is decided on any pipeline as it is on a new one that has the same panel. -/
lemma close_alone (p : Pipeline) (x : Pending) (cs : List (Contribution × ℕ)) (e : Engine) (d : Duration) :
    let alone := Pipeline.close { ofEngine e with panel := p.panel, deadline := d } x cs
    (p.close x cs).1 = alone.1 ∧ (p.close x cs).2.panel = alone.2.panel ∧ (p.close x cs).2.memo = p.memo ∧
      (p.close x cs).2.sink = p.sink.add (x.record alone.1.1 ((alone.2.panel.map (·.views)).getD [])) := by
  simp only [close, ofEngine]
  split <;> exact ⟨rfl, rfl, rfl, rfl⟩

/-- A decision only brings breakers up to date, and bears the version of the rules of its request. -/
lemma close_panel (p : Pipeline) (x : Pending) (cs : List (Contribution × ℕ)) :
    (p.close x cs).2.panel = p.panel.map (·.refresh (p.close x cs).1.2) ∧
      (p.close x cs).1.1.ruleVersion = x.engine.version := by
  simp only [close]
  split <;> exact ⟨rfl, rfl⟩

/-- Rules are loaded exactly if they are acceptable, and otherwise it is said what is wrong with them. -/
lemma load_cases [Pattern.Dialect] (p : Pipeline) (rules : Rules.RuleSet) :
    (∃ error, rules.validate = .error error ∧ Engine.ofRules rules = .error error ∧ p.load rules = .error error) ∨
      rules.validate = .ok () ∧ ∃ engine, Engine.ofRules rules = .ok engine ∧
        p.load rules = .ok (p.swap engine) := by
  cases hvalid : rules.validate with
  | error error =>
    have hrules : Engine.ofRules rules = .error error := by
      rw [Engine.ofRules, hvalid]
      rfl
    refine .inl ⟨error, rfl, hrules, ?_⟩
    rw [load, hrules]
    rfl
  | ok =>
    obtain ⟨engine, hrules, -⟩ := Engine.ofRules_of_validate hvalid
    refine .inr ⟨rfl, engine, hrules, ?_⟩
    rw [load, hrules]
    rfl

end Pipeline

namespace Docket

/-- The same with other rules in the pipeline. -/
def withRules (d : Docket) (engine : Engine) (memo : Luhn.Memo) : Docket :=
  { d with pipeline := { d.pipeline with engine, memo } }

lemma ends_withRules (d : Docket) (engine : Engine) (memo : Luhn.Memo) (i j : ℕ) (reply : Reply) :
    (d.withRules engine memo).step (.ends i j reply) = (d.step (.ends i j reply)).withRules engine memo := by
  simp only [step, withRules]
  split
  · split <;> rfl
  · rfl

lemma decides_withRules (d : Docket) (engine : Engine) (memo : Luhn.Memo) (i : ℕ) :
    (d.withRules engine memo).step (.decides i) = (d.step (.decides i)).withRules engine memo := by
  simp only [step, withRules]
  split
  · next m hm =>
    split
    · have hclose : Pipeline.close { d.pipeline with engine, memo } m.pending m.outcomes
          = ((d.pipeline.close m.pending m.outcomes).1,
            { (d.pipeline.close m.pending m.outcomes).2 with engine, memo }) := by
        simp only [Pipeline.close]
        split <;> rfl
      rw [hclose]
    · rfl
  · rfl

/-- The end of a part that is under way leaves the panel that the part leaves behind. -/
lemma panel_ends {d : Docket} {panel : Panel} (hpanel : d.pipeline.panel = some panel) (i j : ℕ) (reply : Reply) :
    (d.step (.ends i j reply)).pipeline.panel = some panel ∨ ∃ m x, d.underway[i]? = some m ∧
      m.parts[j]? = some (x, none) ∧ (d.step (.ends i j reply)).pipeline.panel
        = some (x.finish panel m.pending.start m.pending.deadline reply).2 := by
  simp only [step, hpanel]
  cases hm : d.underway[i]? with
  | none => exact .inl hpanel
  | some m =>
    rcases hx : m.parts[j]? with _ | ⟨x, _ | c⟩
    · exact .inl (by simp [hx, hpanel])
    · exact .inr ⟨m, x, rfl, hx, by simp [hx]⟩
    · exact .inl (by simp [hx, hpanel])

end Docket

/-! ### Requests together -/

section

variable {α β : Type}

lemma modify_of_getElem? {l : List α} {i : ℕ} {a : α} (h : l[i]? = some a) (f : α → α) :
    l.modify i f = l.set i (f a) := by
  rw [List.modify_eq_set_getElem?, h]
  rfl

lemma modify_of_fixed {l : List α} {i : ℕ} {f : α → α} (h : ∀ a, l[i]? = some a → f a = a) : l.modify i f = l := by
  cases ha : l[i]? with
  | none => exact List.modify_eq_self (List.getElem?_eq_none_iff.mp ha)
  | some a =>
    obtain ⟨hi, rfl⟩ := List.getElem?_eq_some_iff.mp ha
    rw [modify_of_getElem? ha, h _ ha, List.set_getElem_self hi]

lemma mem_modify {l : List α} {a : α} (h : a ∈ l) (i : ℕ) (f : α → α) : a ∈ l.modify i f ∨ f a ∈ l.modify i f := by
  induction l generalizing i with
  | nil => cases h
  | cons b l ih =>
    cases i with
    | zero => rcases List.mem_cons.mp h with rfl | h <;> simp_all
    | succ i =>
      rcases List.mem_cons.mp h with rfl | h
      · simp
      · exact (ih h i).imp (List.mem_cons_of_mem b) (List.mem_cons_of_mem b)

lemma of_mem_modify {l : List α} {a : α} {i : ℕ} {f : α → α} (h : a ∈ l.modify i f) : a ∈ l ∨ ∃ b ∈ l, a = f b := by
  induction l generalizing i with
  | nil => simp at h
  | cons b l ih =>
    cases i with
    | zero =>
      rcases List.mem_cons.mp h with rfl | h
      · exact .inr ⟨b, List.mem_cons_self, rfl⟩
      · exact .inl (List.mem_cons_of_mem b h)
    | succ i =>
      rcases List.mem_cons.mp h with rfl | h
      · exact .inl List.mem_cons_self
      · refine (ih h).imp (List.mem_cons_of_mem b) fun ⟨b', hb', ha⟩ => ⟨b', List.mem_cons_of_mem b hb', ha⟩

lemma map_modify {f : α → β} {g : α → α} {k : β → β} (h : ∀ a, f (g a) = k (f a)) (l : List α) (i : ℕ) :
    (l.modify i g).map f = (l.map f).modify i k := by
  induction l generalizing i with
  | nil => simp
  | cons a l ih => cases i <;> simp [h, ih]

end

/-- A docket with the courses of the requests under way, in the order of the docket, and of those decided. -/
structure Watched where
  docket : Docket
  courses : List Course
  closings : List Closing

namespace Watched

/-- What may happen. -/
inductive Event where
  /-- A request begins. -/
  | begins (now : ℕ) (r : Request)
  /-- A part of a request ends. -/
  | ends (i j : ℕ) (reply : Reply)
  /-- A request is decided whose parts have ended. -/
  | decides (i : ℕ)
  /-- The rules are exchanged. -/
  | swap (engine : Engine)
  /-- The rules are exchanged if a rule set is acceptable. -/
  | load (rules : Rules.RuleSet)
  | upkeep (u : Upkeep)

/-- Nothing is under way. -/
def start (p : Pipeline) : Watched := ⟨.start p, [], []⟩

/-- The requests that there were. -/
def all (s : Watched) : List Course := s.courses ++ s.closings.map (·.course)

/-- Every request under way and every decision and record is that of its course. -/
structure Faithful (s : Watched) (sink : Audit.Sink) : Prop where
  memo : s.docket.pipeline.memo.Sound
  underway : s.docket.underway = s.courses.map (·.matter)
  decided : s.docket.decided = s.closings.map (·.decision)
  sink : s.docket.pipeline.sink = (s.closings.map (·.record)).foldl (fun sink r => sink.add r) sink

lemma faithful_start {p : Pipeline} (hmemo : p.memo.Sound) : (start p).Faithful p.sink :=
  ⟨hmemo, rfl, rfl, rfl⟩

/-- The end of a part is a turn of its request. -/
lemma underway_ends {d : Docket} {panel : Panel} (hpanel : d.pipeline.panel = some panel) (i j : ℕ) (reply : Reply) :
    (d.step (.ends i j reply)).underway = d.underway.modify i (·.turn ⟨j, panel, reply⟩) := by
  cases hm : d.underway[i]? with
  | none =>
    rw [modify_of_fixed (by simp [hm])]
    simp [Docket.step, hm]
  | some m =>
    rw [modify_of_getElem? hm, Matter.turn]
    have hself : d.underway.set i m = d.underway := by
      obtain ⟨hi, rfl⟩ := List.getElem?_eq_some_iff.mp hm
      exact List.set_getElem_self hi
    rcases hx : m.parts[j]? with _ | ⟨x, _ | c⟩ <;> simp [Docket.step, hm, hpanel, hx, hself]

section

variable [Pattern.Dialect]

/-- What an event makes of it all. -/
def step (s : Watched) : Event → Watched
  | .begins now r =>
    { s with
      docket := s.docket.step (.begins now r)
      courses := s.courses ++ [.beginning s.docket.pipeline now r] }
  | .ends i j reply =>
    match s.docket.pipeline.panel with
    | some panel =>
      { s with
        docket := s.docket.step (.ends i j reply)
        courses := s.courses.modify i (·.meet ⟨j, panel, reply⟩) }
    | none => s
  | .decides i =>
    match s.courses[i]? with
    | some c =>
      if c.matter.settled then
        ⟨s.docket.step (.decides i), s.courses.eraseIdx i, s.closings ++ [⟨c, s.docket.pipeline.panel⟩]⟩
      else s
    | none => s
  | .swap engine => { s with docket := s.docket.step (.swap engine) }
  | .load rules =>
    match s.docket.pipeline.load rules with
    | .ok (_, p) => { s with docket := { s.docket with pipeline := p } }
    | .error _ => s
  | .upkeep u => { s with docket := s.docket.step (.aside u.event) }

lemma step_ends (s : Watched) (i j : ℕ) (reply : Reply) : s.step (.ends i j reply) =
    match s.docket.pipeline.panel with
    | some panel =>
      { s with
        docket := s.docket.step (.ends i j reply)
        courses := s.courses.modify i (·.meet ⟨j, panel, reply⟩) }
    | none => s := rfl

lemma step_decides (s : Watched) (i : ℕ) : s.step (.decides i) =
    match s.courses[i]? with
    | some c =>
      if c.matter.settled then
        ⟨s.docket.step (.decides i), s.courses.eraseIdx i, s.closings ++ [⟨c, s.docket.pipeline.panel⟩]⟩
      else s
    | none => s := rfl

lemma step_load (s : Watched) (rules : Rules.RuleSet) : s.step (.load rules) =
    match s.docket.pipeline.load rules with
    | .ok (_, p) => { s with docket := { s.docket with pipeline := p } }
    | .error _ => s := rfl

/-- What a history makes of it all. -/
def run (s : Watched) (events : List Event) : Watched := events.foldl step s

/-- What happens to the docket. -/
def Event.onDocket : Event → List Docket.Event
  | begins now r => [.begins now r]
  | ends i j reply => [.ends i j reply]
  | decides i => [.decides i]
  | swap engine => [.swap engine]
  | load rules =>
    match Engine.ofRules rules with
    | .ok engine => [.swap engine]
    | .error _ => []
  | upkeep u => [.aside u.event]

variable {s : Watched} {sink : Audit.Sink}

lemma Faithful.begins (h : s.Faithful sink) (now : ℕ) (r : Request) :
    (s.step (.begins now r)).Faithful sink := by
  have hbegun := Pipeline.begin_alone h.memo now r
  obtain ⟨hmemo, hsink⟩ := Pipeline.begin_memo h.memo now r
  refine ⟨hmemo, ?_, h.decided, hsink.trans h.sink⟩
  simp only [step, Docket.step, hbegun, h.underway, List.map_append, List.map_singleton]
  rfl

lemma Faithful.ends (h : s.Faithful sink) (i j : ℕ) (reply : Reply) :
    (s.step (.ends i j reply)).Faithful sink := by
  rw [step_ends]
  split
  · next panel hpanel =>
    have hsame : (s.docket.step (.ends i j reply)).pipeline.memo = s.docket.pipeline.memo ∧
        (s.docket.step (.ends i j reply)).pipeline.sink = s.docket.pipeline.sink ∧
        (s.docket.step (.ends i j reply)).decided = s.docket.decided := by
      simp only [Docket.step]
      split
      · split <;> exact ⟨rfl, rfl, rfl⟩
      · exact ⟨rfl, rfl, rfl⟩
    obtain ⟨hmemo, hsink, hdecided⟩ := hsame
    refine ⟨by rw [hmemo]; exact h.memo, ?_, by rw [hdecided]; exact h.decided, by rw [hsink]; exact h.sink⟩
    rw [underway_ends hpanel, h.underway, map_modify (k := (·.turn ⟨j, panel, reply⟩)) fun c => c.matter_meet _]
  · exact h

lemma Faithful.decides (h : s.Faithful sink) (i : ℕ) : (s.step (.decides i)).Faithful sink := by
  rw [step_decides]
  split
  · next c hc =>
    split
    · next hsettled =>
      have hm : s.docket.underway[i]? = some c.matter := by rw [h.underway, List.getElem?_map, hc, Option.map_some]
      obtain ⟨hdecision, -, hmemo, hsink⟩ :=
        s.docket.pipeline.close_alone c.matter.pending c.matter.outcomes c.engine c.deadline
      simp only [Docket.step, hm, hsettled, if_true]
      refine ⟨?_, ?_, ?_, ?_⟩
      · rw [hmemo]
        exact h.memo
      · rw [h.underway, List.eraseIdx_map]
      · rw [h.decided, List.map_append, hdecision]
        rfl
      · rw [hsink, h.sink, List.map_append, List.foldl_append]
        rfl
    · exact h
  · exact h

lemma Faithful.step (h : s.Faithful sink) (e : Event) : (s.step e).Faithful sink := by
  cases e with
  | begins now r => exact h.begins now r
  | ends i j reply => exact h.ends i j reply
  | decides i => exact h.decides i
  | swap engine => exact ⟨Luhn.Memo.sound_nil, h.underway, h.decided, h.sink⟩
  | load rules =>
    rw [step_load]
    rcases s.docket.pipeline.load_cases rules with ⟨error, -, -, hload⟩ | ⟨-, engine, -, hload⟩
    · rwa [hload]
    · rw [hload]
      exact ⟨Luhn.Memo.sound_nil, h.underway, h.decided, h.sink⟩
  | upkeep u => exact ⟨h.memo, h.underway, h.decided, h.sink⟩

/-- The docket goes its own way, whether it is watched or not. -/
lemma Faithful.docket_step (h : s.Faithful sink) (e : Event) : (s.step e).docket = s.docket.run e.onDocket := by
  cases e with
  | begins now r => rfl
  | ends i j reply =>
    simp only [step_ends, Event.onDocket, Docket.run, List.foldl_cons, List.foldl_nil]
    split
    · rfl
    · next hpanel => simp [Docket.step, hpanel]
  | decides i =>
    simp only [step_decides, Event.onDocket, Docket.run, List.foldl_cons, List.foldl_nil]
    have hm : s.docket.underway[i]? = s.courses[i]?.map (·.matter) := by rw [h.underway, List.getElem?_map]
    cases hc : s.courses[i]? with
    | none => simp [Docket.step, hm, hc]
    | some c => cases hsettled : c.matter.settled <;> simp [Docket.step, hm, hc, hsettled]
  | swap engine => rfl
  | load rules =>
    simp only [step_load, Event.onDocket]
    rcases s.docket.pipeline.load_cases rules with ⟨error, -, hrules, hload⟩ | ⟨-, engine, hrules, hload⟩
    · rw [hload, hrules]
      rfl
    · rw [hload, hrules]
      rfl
  | upkeep u => rfl

lemma Faithful.run (h : s.Faithful sink) (events : List Event) : (s.run events).Faithful sink ∧
    (s.run events).docket = s.docket.run (events.flatMap (·.onDocket)) := by
  induction events generalizing s with
  | nil => exact ⟨h, rfl⟩
  | cons e events ih =>
    obtain ⟨hrun, hdocket⟩ := ih (h.step e)
    refine ⟨hrun, hdocket.trans ?_⟩
    rw [h.docket_step, List.flatMap_cons, Docket.run_append]

/-! ### The requests that there are -/

lemma mem_all_begins {now : ℕ} {r : Request} {c : Course} :
    c ∈ (s.step (.begins now r)).all ↔ c ∈ s.all ∨ c = .beginning s.docket.pipeline now r := by
  simp only [all, step, List.mem_append, List.mem_singleton]
  tauto

lemma mem_all_ends {c : Course} (hc : c ∈ s.all) (i j : ℕ) (reply : Reply) :
    c ∈ (s.step (.ends i j reply)).all ∨ ∃ t, c.meet t ∈ (s.step (.ends i j reply)).all := by
  rw [step_ends]
  split
  · next panel _ =>
    rcases List.mem_append.mp hc with hc | hc
    · exact (mem_modify hc i _).imp (List.mem_append_left _) fun h => ⟨⟨j, panel, reply⟩, List.mem_append_left _ h⟩
    · exact .inl (List.mem_append_right _ hc)
  · exact .inl hc

lemma of_mem_all_ends {i j : ℕ} {reply : Reply} {c : Course} (hc : c ∈ (s.step (.ends i j reply)).all) :
    c ∈ s.all ∨ ∃ c' ∈ s.all, ∃ t, c = c'.meet t := by
  rw [step_ends] at hc
  split at hc
  · rcases List.mem_append.mp hc with hc | hc
    · rcases of_mem_modify hc with hc | ⟨c', hc', rfl⟩
      · exact .inl (List.mem_append_left _ hc)
      · exact .inr ⟨c', List.mem_append_left _ hc', _, rfl⟩
    · exact .inl (List.mem_append_right _ hc)
  · exact .inl hc

lemma mem_all_decides {i : ℕ} {c : Course} : c ∈ (s.step (.decides i)).all ↔ c ∈ s.all := by
  rw [step_decides]
  split
  · next c' hc' =>
    split
    · obtain ⟨hi, rfl⟩ := List.getElem?_eq_some_iff.mp hc'
      have hmoved := (List.getElem_cons_eraseIdx_perm hi).mem_iff (a := c)
      simp only [all, List.map_append, List.map_singleton, List.mem_append, ← hmoved, List.mem_cons]
      tauto
    · rfl
  · rfl

lemma all_load (rules : Rules.RuleSet) : (s.step (.load rules)).all = s.all := by
  rw [step_load]
  split <;> rfl

/-- Every request began at some time, with the rules that there were then. -/
lemma exists_beginning {events : List Event} {c : Course} (hc : c ∈ (s.run events).all) (hs : s.all = []) :
    ∃ before now r after, events = before ++ .begins now r :: after ∧
      { c with turns := [] } = Course.beginning (s.run before).docket.pipeline now r := by
  induction events using List.reverseRecOn generalizing c with
  | nil =>
    rw [run, List.foldl_nil, hs] at hc
    cases hc
  | append_singleton events e ih =>
    have hlater {c : Course} (hc : c ∈ (s.run events).all) : ∃ before now r after,
        events ++ [e] = before ++ .begins now r :: after ∧
          { c with turns := [] } = Course.beginning (s.run before).docket.pipeline now r := by
      obtain ⟨before, now, r, after, rfl, hbegun⟩ := ih hc
      exact ⟨before, now, r, after ++ [e], by simp, hbegun⟩
    rw [run, List.foldl_append, List.foldl_cons, List.foldl_nil, ← run] at hc
    cases e with
    | begins now r =>
      rcases mem_all_begins.mp hc with hc | rfl
      · exact hlater hc
      · exact ⟨events, now, r, [], rfl, rfl⟩
    | ends i j reply =>
      rcases of_mem_all_ends hc with hc | ⟨c', hc', t, rfl⟩
      · exact hlater hc
      · exact (hlater hc' :)
    | decides i => exact hlater (mem_all_decides.mp hc)
    | swap engine => exact hlater hc
    | load rules => exact hlater (all_load rules ▸ hc)
    | upkeep u => exact hlater hc

/-! ### Exchanges in between -/

/-- The same with other rules in the pipeline. -/
def withRules (s : Watched) (engine : Engine) (memo : Luhn.Memo) : Watched :=
  { s with docket := s.docket.withRules engine memo }

/-- Whether a request begins. -/
def Event.isBeginning : Event → Bool
  | begins .. => true
  | _ => false

/-- The rules in the pipeline play no part in what becomes of the requests under way. -/
lemma step_withRules (s : Watched) (engine : Engine) (memo : Luhn.Memo) {e : Event} (he : e.isBeginning = false) :
    ∃ engine' memo', (s.withRules engine memo).step e = (s.step e).withRules engine' memo' := by
  have hpanel : (s.docket.withRules engine memo).pipeline.panel = s.docket.pipeline.panel := rfl
  cases e with
  | begins now r => cases he
  | ends i j reply =>
    refine ⟨engine, memo, ?_⟩
    simp only [step_ends, withRules, Docket.ends_withRules, hpanel]
    split <;> rfl
  | decides i =>
    refine ⟨engine, memo, ?_⟩
    simp only [step_decides, withRules, Docket.decides_withRules, hpanel]
    split
    · split <;> rfl
    · rfl
  | swap engine' => exact ⟨engine', [], rfl⟩
  | load rules =>
    simp only [step_load, withRules]
    rcases s.docket.pipeline.load_cases rules with ⟨error, -, hrules, hload⟩ | ⟨-, engine', hrules, hload⟩
    · refine ⟨engine, memo, ?_⟩
      have hload' : (s.docket.withRules engine memo).pipeline.load rules = .error error := by
        rw [Pipeline.load, hrules]
        rfl
      rw [hload, hload']
    · refine ⟨engine', [], ?_⟩
      have hload' : (s.docket.withRules engine memo).pipeline.load rules
          = .ok ((s.docket.withRules engine memo).pipeline.swap engine') := by
        rw [Pipeline.load, hrules]
        rfl
      rw [hload, hload']
      rfl
  | upkeep u => exact ⟨engine, memo, rfl⟩

lemma run_withRules (s : Watched) (engine : Engine) (memo : Luhn.Memo) {events : List Event}
    (hevents : ∀ e ∈ events, e.isBeginning = false) :
    ∃ engine' memo', (s.withRules engine memo).run events = (s.run events).withRules engine' memo' := by
  induction events generalizing s engine memo with
  | nil => exact ⟨engine, memo, rfl⟩
  | cons e events ih =>
    obtain ⟨he, hevents⟩ := List.forall_mem_cons.mp hevents
    obtain ⟨engine', memo', hstep⟩ := s.step_withRules engine memo he
    obtain ⟨engine'', memo'', hrun⟩ := ih (s.step e) engine' memo' hevents
    exact ⟨engine'', memo'', (congrArg (run · events) hstep).trans hrun⟩

end

end Watched

/-! ### The version of a request -/

/-- Every agent is asked, and remembers, under the version of the rules that the request begins with. -/
lemma Course.ruleVersion_parts {c : Course} {y : Part × Option (Contribution × ℕ)} (hy : y ∈ c.matter.parts) :
    y.1.inquiry.ruleVersion = c.engine.version := by
  have hpart : y.1 ∈ c.pending.parts.getD [] := by
    rw [← c.matter_parts]
    exact List.mem_map_of_mem hy
  obtain ⟨-, -, ⟨hnone, -⟩ | ⟨panel, qs, -, hqs, hseated, -⟩⟩ := c.pipeline.begin_seats c.now c.request
  · rw [Course.pending, hnone] at hpart
    cases hpart
  · rw [Course.pending, hseated, Option.getD_some] at hpart
    have hinquiry := List.mem_map_of_mem (f := (·.inquiry)) hpart
    rw [panel.inquiries_seatAll] at hinquiry
    exact (hqs _ (List.mem_of_mem_filter hinquiry)).2.1

lemma Closing.ruleVersion (z : Closing) : z.decision.ruleVersion = z.course.engine.version ∧
    z.record.ruleVersion = z.course.engine.version := by
  have hdecision : z.decision.ruleVersion = z.course.engine.version := by
    refine (Pipeline.close_panel ..).2.trans ?_
    rw [z.course.matter_pending, Course.pending, (z.course.pipeline.begin_seats _ _).2.1]
    rfl
  exact ⟨hdecision, hdecision⟩

/-! ### What is remembered -/

/-- An agent of the request was at work and came to a result, under a key of this hash. -/
def Course.Tells (c : Course) (hash : String) (r : Result) : Prop :=
  ∃ y ∈ c.matter.parts, (∃ permit, y.1.seat = .working permit) ∧ y.1.inquiry.key.hash = hash ∧
    ∃ outcome ∈ y.2, outcome.1.result = r

lemma Course.Tells.meet {c : Course} {hash : String} {r : Result} (h : c.Tells hash r) (t : Turn) :
    (c.meet t).Tells hash r := by
  obtain ⟨y, hy, hseat, hhash, outcome, houtcome, hr⟩ := h
  refine ⟨y, ?_, hseat, hhash, outcome, houtcome, hr⟩
  rw [c.matter_meet]
  exact Matter.mem_turn hy (Option.isSome_of_mem houtcome)

namespace Watched

/-- One of the requests came to a result, under a key of this hash. -/
def Told (s : Watched) (hash : String) (r : Result) : Prop := ∃ c ∈ s.all, c.Tells hash r

/-- Everything that is remembered, in the cache or by a request, is what a request came to. -/
structure Kept (s : Watched) : Prop where
  cache : ∀ panel ∈ s.docket.pipeline.panel, ∀ k ∈ panel.cache, ∀ x ∈ k.entries, s.Told x.1 x.2
  seated : ∀ c ∈ s.all, ∀ y ∈ c.matter.parts, ∀ r, y.1.seat = .remembered r → s.Told y.1.inquiry.key.hash r

variable {s : Watched}

/-- A step makes no other requests of those that there are: one may go on, and a new one may come. -/
lemma Told.mono {s' : Watched} {hash : String} {r : Result} (h : s.Told hash r)
    (hall : ∀ c ∈ s.all, c ∈ s'.all ∨ ∃ t, c.meet t ∈ s'.all) : s'.Told hash r := by
  obtain ⟨c, hc, htells⟩ := h
  rcases hall c hc with hc' | ⟨t, hc'⟩
  · exact ⟨c, hc', htells⟩
  · exact ⟨_, hc', htells.meet t⟩

lemma kept_start {p : Pipeline} (hnew : ∀ panel ∈ p.panel, ∀ k ∈ panel.cache, k.entries = []) :
    (start p).Kept := by
  refine ⟨fun panel hpanel k hk x hx => ?_, fun c hc => absurd hc List.not_mem_nil⟩
  rw [hnew panel hpanel k hk] at hx
  exact absurd hx List.not_mem_nil

section

variable [Pattern.Dialect]

lemma Kept.begins (h : s.Kept) (hmemo : s.docket.pipeline.memo.Sound) (now : ℕ) (r : Request) :
    (s.step (.begins now r)).Kept := by
  have hbegun := Pipeline.begin_alone hmemo now r
  obtain ⟨-, -, hparts⟩ := s.docket.pipeline.begin_seats now r
  have hmono {hash : String} {v : Result} (hv : s.Told hash v) : (s.step (.begins now r)).Told hash v :=
    hv.mono fun c hc => .inl (mem_all_begins.mpr (.inl hc))
  constructor
  · intro panel' hpanel' k hk x hx
    rcases hparts with ⟨-, hsame⟩ | ⟨panel, qs, hpanel, -, -, hseated⟩
    · exact hmono (h.cache panel' (hsame ▸ hpanel') k hk x hx)
    · obtain rfl : (panel.seatAll now qs).2 = panel' := Option.some.inj (hseated.symm.trans hpanel')
      rw [cache_seatAll] at hk
      exact hmono (h.cache panel hpanel k hk x hx)
  · intro c hc y hy v hv
    rcases mem_all_begins.mp hc with hc | rfl
    · exact hmono (h.seated c hc y hy v hv)
    · have hpart := List.mem_map_of_mem (f := (·.1)) hy
      rw [Course.matter_parts, ← hbegun] at hpart
      rcases hparts with ⟨hnone, -⟩ | ⟨panel, qs, hpanel, -, hseated, -⟩
      · rw [hnone] at hpart
        cases hpart
      · rw [hseated, Option.getD_some] at hpart
        obtain ⟨k, hk, hmem⟩ := Panel.mem_of_remembered? (Panel.remembered_seatAll hpart hv)
        exact hmono (h.cache panel hpanel k hk _ hmem)

/-- What is remembered once a part has ended is what a request came to, that of the part if it is new. -/
lemma Kept.told_ended (h : s.Kept) {i j : ℕ} {reply : Reply} {panel : Panel}
    (hpanel : s.docket.pipeline.panel = some panel) {c : Course} (hc : s.courses[i]? = some c) {y : Part}
    (hy : c.matter.parts[j]? = some (y, none)) :
    ∀ k ∈ (y.finish panel c.matter.pending.start c.matter.pending.deadline reply).2.cache, ∀ x ∈ k.entries,
      (s.step (.ends i j reply)).Told x.1 x.2 := by
  have hbefore : ∀ k ∈ panel.cache, ∀ x ∈ k.entries, (s.step (.ends i j reply)).Told x.1 x.2 := fun k hk x hx =>
    (h.cache panel hpanel k hk x hx).mono fun _ hc => mem_all_ends hc i j reply
  rcases (y.ends panel c.matter.pending.start c.matter.pending.deadline reply).remembers with
    ⟨r, -, hsame, -⟩ | ⟨permit, o, hseat, -, hresult, hstored⟩ | ⟨-, hsame⟩
  · rwa [hsame]
  · intro k hk x hx
    rw [hstored] at hk
    obtain ⟨k', hk', rfl⟩ := Option.map_eq_some_iff.mp hk
    rcases Cache.mem_insert hx with rfl | hx
    · let t : Turn := ⟨j, panel, reply⟩
      have hended : (y, some _) ∈ (c.meet t).matter.parts := c.matter_meet t ▸ Matter.ended_turn (t := t) hy
      have hmem : c.meet t ∈ (s.step (.ends i j reply)).courses := by
        simp only [step_ends, hpanel]
        exact List.mem_iff_getElem?.mpr ⟨i, by simp [hc, t]⟩
      exact ⟨c.meet t, List.mem_append_left _ hmem, _, hended, ⟨permit, hseat⟩, rfl, _, rfl, hresult⟩
    · exact hbefore k' hk' x hx
  · rwa [hsame]

lemma Kept.ends (h : s.Kept) {sink : Audit.Sink} (hs : s.Faithful sink) (i j : ℕ) (reply : Reply) :
    (s.step (.ends i j reply)).Kept := by
  have hmono {hash : String} {v : Result} (hv : s.Told hash v) : (s.step (.ends i j reply)).Told hash v :=
    hv.mono fun c hc => mem_all_ends hc i j reply
  constructor
  · intro panel' hpanel' k hk x hx
    cases hpanel : s.docket.pipeline.panel with
    | none =>
      simp only [step_ends, hpanel] at hpanel'
      cases hpanel'
    | some panel =>
      simp only [step_ends, hpanel] at hpanel'
      rcases Docket.panel_ends hpanel i j reply with hsame | ⟨m, y, hm, hy, hdone⟩
      · obtain rfl : panel = panel' := Option.some.inj (hsame.symm.trans hpanel')
        exact hmono (h.cache panel hpanel k hk x hx)
      · obtain rfl := Option.some.inj (hdone.symm.trans hpanel')
        rw [hs.underway, List.getElem?_map, Option.map_eq_some_iff] at hm
        obtain ⟨c, hc, rfl⟩ := hm
        exact h.told_ended hpanel hc hy k hk x hx
  · intro c hc y hy v hv
    rcases of_mem_all_ends hc with hc | ⟨c', hc', t, rfl⟩
    · exact hmono (h.seated c hc y hy v hv)
    · have hpart := List.mem_map_of_mem (f := (·.1)) hy
      rw [c'.matter_meet, Matter.turn_parts] at hpart
      obtain ⟨y', hy', hsame⟩ := List.mem_map.mp hpart
      rw [← hsame] at hv ⊢
      exact hmono (h.seated c' hc' y' hy' v hv)

lemma Kept.decides (h : s.Kept) {sink : Audit.Sink} (hs : s.Faithful sink) (i : ℕ) :
    (s.step (.decides i)).Kept := by
  have hmono {hash : String} {v : Result} (hv : s.Told hash v) : (s.step (.decides i)).Told hash v :=
    hv.mono fun c hc => .inl (mem_all_decides.mpr hc)
  refine ⟨fun panel' hpanel' k hk x hx => ?_, fun c hc y hy v hv => hmono (h.seated c (mem_all_decides.mp hc) y hy v hv)⟩
  have hrefresh : ∃ panel ∈ s.docket.pipeline.panel, panel'.cache = panel.cache := by
    rw [hs.docket_step] at hpanel'
    simp only [Event.onDocket, Docket.run, List.foldl_cons, List.foldl_nil, Docket.step] at hpanel'
    split at hpanel'
    · split at hpanel'
      · rw [(Pipeline.close_panel ..).1] at hpanel'
        obtain ⟨panel, hpanel, rfl⟩ := Option.map_eq_some_iff.mp hpanel'
        exact ⟨panel, hpanel, rfl⟩
      · exact ⟨panel', hpanel', rfl⟩
    · exact ⟨panel', hpanel', rfl⟩
  obtain ⟨panel, hpanel, hsame⟩ := hrefresh
  exact hmono (h.cache panel hpanel k (hsame ▸ hk) x hx)

lemma Kept.step (h : s.Kept) {sink : Audit.Sink} (hs : s.Faithful sink) (e : Event) : (s.step e).Kept := by
  cases e with
  | begins now r => exact h.begins hs.memo now r
  | ends i j reply => exact h.ends hs i j reply
  | decides i => exact h.decides hs i
  | swap engine => exact ⟨h.cache, h.seated⟩
  | load rules =>
    rw [step_load]
    rcases s.docket.pipeline.load_cases rules with ⟨error, -, -, hload⟩ | ⟨-, engine, -, hload⟩
    · rwa [hload]
    · rw [hload]
      exact ⟨h.cache, h.seated⟩
  | upkeep u =>
    refine ⟨fun panel hpanel k hk x hx => ?_, h.seated⟩
    obtain ⟨panel', hpanel', rfl⟩ := Option.map_eq_some_iff.mp hpanel
    obtain ⟨k', hk', hx⟩ := Panel.mem_cache_upkeep hk hx
    exact h.cache panel' hpanel' k' hk' x hx

lemma Kept.run (h : s.Kept) {sink : Audit.Sink} (hs : s.Faithful sink) (events : List Event) :
    (s.run events).Kept := by
  induction events generalizing s with
  | nil => exact h
  | cons e events ih => exact ih (h.step hs e) (hs.step e)

/-! ### Requests keep their rules -/

/-- Two histories came to the same, but for the rules that there are in the end. -/
structure SameCourse (s s' : Watched) : Prop where
  courses : s'.courses = s.courses
  closings : s'.closings = s.closings
  underway : s'.docket.underway = s.docket.underway
  decided : s'.docket.decided = s.docket.decided
  panel : s'.docket.pipeline.panel = s.docket.pipeline.panel
  sink : s'.docket.pipeline.sink = s.docket.pipeline.sink

/-- A rule set is loaded exactly if it is acceptable, which is an exchange; otherwise it is said what is wrong with
it, and everything stays as it is. -/
lemma load_acceptable (s : Watched) (rules : Rules.RuleSet) :
    (∃ error, rules.validate = .error error ∧ s.docket.pipeline.load rules = .error error ∧
        s.step (.load rules) = s) ∨
      rules.validate = .ok () ∧ ∃ engine, Engine.ofRules rules = .ok engine ∧
        s.docket.pipeline.load rules = .ok (s.docket.pipeline.swap engine) ∧
        s.step (.load rules) = s.step (.swap engine) := by
  rcases s.docket.pipeline.load_cases rules with ⟨error, hvalid, -, hload⟩ | ⟨hvalid, engine, hrules, hload⟩
  · refine .inl ⟨error, hvalid, hload, ?_⟩
    simp only [step_load, hload]
  · refine .inr ⟨hvalid, engine, hrules, hload, ?_⟩
    simp only [step_load, hload]
    rfl

/-- An exchange of the rules leaves alone what has begun. -/
lemma swap_then (s : Watched) (engine : Engine) {others : List Event}
    (hothers : ∀ e ∈ others, e.isBeginning = false) :
    SameCourse (s.run others) ((s.step (.swap engine)).run others) := by
  obtain ⟨engine', memo', hrun⟩ := s.run_withRules engine [] hothers
  have hswap : s.step (.swap engine) = s.withRules engine [] := rfl
  rw [hswap, hrun]
  exact ⟨rfl, rfl, rfl, rfl, rfl, rfl⟩

/-- **A request keeps the rules that it begins with.** Requests begin, come to their results and are decided on a
pipeline, while rules are exchanged and loaded, in whatever order.

Every request under way, every decision and every record is what the rules that there were at its beginning make, by
themselves, of the breakers and opinions that it met and of the replies; keys, decisions and records bear the version
of these rules. An exchange changes nothing about what has begun. A rule set is loaded exactly if it is acceptable.
If keys do not clash, what a request is reminded of was said in a request of the same version. -/
theorem requests_keep_rules {p : Pipeline} (hmemo : p.memo.Sound)
    (hnew : ∀ panel ∈ p.panel, ∀ k ∈ panel.cache, k.entries = []) (events : List Event) :
    let s := (start p).run events
    (s.docket = (Docket.start p).run (events.flatMap (·.onDocket)) ∧ s.Faithful p.sink ∧
      ∀ c ∈ s.all, ∃ before now r after, events = before ++ .begins now r :: after ∧
        { c with turns := [] } = Course.beginning ((start p).run before).docket.pipeline now r) ∧
    ((∀ c ∈ s.all, ∀ y ∈ c.matter.parts, y.1.inquiry.key.ruleVersion = c.engine.version) ∧
      ∀ z ∈ s.closings, z.decision.ruleVersion = z.course.engine.version ∧
        z.record.ruleVersion = z.course.engine.version) ∧
    (∀ engine others, (∀ e ∈ others, Event.isBeginning e = false) →
      SameCourse (s.run others) ((s.step (.swap engine)).run others)) ∧
    (∀ rules : Rules.RuleSet,
      (∃ error, rules.validate = .error error ∧ s.docket.pipeline.load rules = .error error ∧
          s.step (.load rules) = s) ∨
        rules.validate = .ok () ∧ ∃ engine, Engine.ofRules rules = .ok engine ∧
          s.docket.pipeline.load rules = .ok (s.docket.pipeline.swap engine) ∧
          s.step (.load rules) = s.step (.swap engine)) ∧
    ((∀ c ∈ s.all, ∀ c' ∈ s.all, ∀ y ∈ c.matter.parts, ∀ y' ∈ c'.matter.parts,
        y.1.inquiry.key.hash = y'.1.inquiry.key.hash → y.1.inquiry.key.text = y'.1.inquiry.key.text) →
      ∀ c ∈ s.all, ∀ y ∈ c.matter.parts, ∀ r, y.1.seat = .remembered r →
        (∃ c' ∈ s.all, c'.Tells y.1.inquiry.key.hash r) ∧
          ∀ c' ∈ s.all, ∀ r', c'.Tells y.1.inquiry.key.hash r' → c'.engine.version = c.engine.version) := by
  intro s
  obtain ⟨hfaithful, hdocket⟩ := (faithful_start hmemo).run events
  have hkept : s.Kept := (kept_start hnew).run (faithful_start hmemo) events
  refine ⟨⟨hdocket, hfaithful, fun c hc => exists_beginning hc rfl⟩,
    ⟨fun c _ y hy => Course.ruleVersion_parts hy, fun z _ => z.ruleVersion⟩,
    fun engine others hothers => s.swap_then engine hothers, s.load_acceptable,
    fun hkeys c hc y hy r hr => ⟨hkept.seated c hc y hy r hr, fun c' hc' r' htells => ?_⟩⟩
  obtain ⟨y', hy', -, hhash, -⟩ := htells
  obtain ⟨hversion, -⟩ := CacheKey.parts_of_text (hkeys c' hc' c hc y' hy' y hy hhash)
  exact (Course.ruleVersion_parts hy').symm.trans (hversion.trans (Course.ruleVersion_parts hy))

end

/-- The same rules under another version. -/
def renewedRules : Rules.RuleSet := { Pipeline.sureRules 1 0.95 with version := "2" }

/-- A panel of three agents, none of whom has been asked. -/
def askedPanel : Panel := (Panel.ofAgents .standard threeAgents).toOption.get (by decide +kernel)

/-- Two requests with the same input: while the first is under way other rules are loaded, and the second begins. Then
a model answers the first, which is decided. -/
def renewal : List Event :=
  [.begins 0 Pipeline.answeredRequest, .load renewedRules, .begins 200 Pipeline.answeredRequest,
    .ends 0 0 (oneReply .input), .ends 0 1 silence, .decides 0]

/-- The first request is decided under the rules before, the second is under way under the rules after. -/
theorem requests_keep_rules_renewal : ∃ e, Engine.ofRules (Pipeline.sureRules 1 0.95) = .ok e ∧
    let p : Pipeline := { Pipeline.ofEngine e with panel := some askedPanel }
    let s := (start p).run renewal
    (s.docket.pipeline.engine.version = "2" ∧ s.docket.decided.map (·.ruleVersion) = ["1"] ∧
      s.courses.map (·.engine.version) = ["2"]) ∧
      s.Faithful p.sink ∧ ∀ z ∈ s.closings, z.decision.ruleVersion = z.course.engine.version := by
  let P (e : Engine) : Prop :=
    let s := (start { Pipeline.ofEngine e with panel := some askedPanel }).run renewal
    s.docket.pipeline.engine.version = "2" ∧ s.docket.decided.map (·.ruleVersion) = ["1"] ∧
      s.courses.map (·.engine.version) = ["2"]
  obtain ⟨e, he, hrun⟩ : ∃ e, Engine.ofRules (Pipeline.sureRules 1 0.95) = .ok e ∧ P e := exists_ok (by decide +kernel)
  have hnew : ∀ panel ∈ some askedPanel, ∀ k ∈ panel.cache, k.entries = [] := by
    rintro panel ⟨⟩
    exact Panel.empty_ofAgents (ok_toOption_get _)
  obtain ⟨⟨-, hfaithful, -⟩, ⟨-, hversions⟩, -⟩ :=
    requests_keep_rules (p := { Pipeline.ofEngine e with panel := some askedPanel }) Luhn.Memo.sound_nil hnew renewal
  exact ⟨e, he, hrun, hfaithful, fun z hz => (hversions z hz).1⟩

end Watched

end Guardrail
