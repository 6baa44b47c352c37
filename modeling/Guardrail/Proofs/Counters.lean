import Guardrail.Proofs.Probe

/-!
What a breaker counts.

A run leaves a history: of each event what could be seen of it from outside. The failures that a
closed breaker counts and the successes that a half-open one counts are numbers of reports in the
history, and together with the next report they say when it moves.
-/

namespace Guardrail.Shadow

/-! ### Histories -/

/-- What is seen of an event. -/
structure Moment where
  event : Event
  /-- The permit that it reports on or gives back, if that was out. -/
  permit : Option Permit
  /-- So many permits had been granted before. -/
  granted : ℕ
  before : Circuit
  after : Circuit
deriving Repr

namespace Moment

/-- The permit on which success is reported, with its number. -/
def succeeded? (m : Moment) : Option (ℕ × Permit) :=
  match m.event with
  | .success n => m.permit.map (n, ·)
  | _ => none

/-- The permit on which failure is reported, with its number. -/
def failed? (m : Moment) : Option (ℕ × Permit) :=
  match m.event with
  | .failure n => m.permit.map (n, ·)
  | _ => none

/-- The breaker closes, or is closed and hears of a success. -/
def clears (m : Moment) : Bool :=
  if m.before = .closed then m.succeeded?.isSome else m.after = .closed

/-- The breaker is closed and hears of a failure. -/
def strikes (m : Moment) : Bool := m.before = .closed && m.failed?.isSome

/-- The breaker was open and becomes half-open. -/
def recovers (m : Moment) : Bool := m.before = .opened && m.after = .halfOpen

end Moment

/-- The moments after the latest one with a property, the last first; all where there is none. -/
def since (p : Moment → Bool) (h : List Moment) : List Moment := h.reverse.takeWhile fun m => !p m

/-- How many failures were reported to the closed breaker since it closed or last heard of a success
while closed. -/
def failuresInRow (h : List Moment) : ℕ := (since Moment.clears h).countP Moment.strikes

/-- How many permits had been granted when the breaker last became half-open. -/
def grantedAtRecovery (h : List Moment) : ℕ :=
  ((h.reverse.find? Moment.recovers).map (·.granted)).getD 0

/-- Whether a permit is a probe that was granted since the breaker last became half-open. -/
def recentProbe (h : List Moment) (x : ℕ × Permit) : Bool :=
  x.2.probe && grantedAtRecovery h ≤ x.1

/-- How many of the probes granted since the breaker last became half-open reported success. -/
def probeSuccesses (h : List Moment) : ℕ := h.countP fun m => m.succeeded?.any (recentProbe h)

/-- How many of them reported failure. -/
def probeFailures (h : List Moment) : ℕ := h.countP fun m => m.failed?.any (recentProbe h)

section

variable {h : List Moment} {m : Moment}

lemma failuresInRow_concat : failuresInRow (h ++ [m])
    = if m.clears then 0 else failuresInRow h + m.strikes.toNat := by
  by_cases hc : m.clears = true
  · simp [failuresInRow, since, hc]
  · by_cases hs : m.strikes = true <;> simp [failuresInRow, since, hc, hs]

lemma grantedAtRecovery_concat : grantedAtRecovery (h ++ [m])
    = if m.recovers then m.granted else grantedAtRecovery h := by
  by_cases hr : m.recovers = true <;> simp [grantedAtRecovery, hr]

lemma recentProbe_concat (hr : m.recovers = false) : recentProbe (h ++ [m]) = recentProbe h := by
  funext x
  simp [recentProbe, grantedAtRecovery_concat, hr]

lemma probeSuccesses_concat (hr : m.recovers = false) : probeSuccesses (h ++ [m])
    = probeSuccesses h + (m.succeeded?.any (recentProbe h)).toNat := by
  rw [probeSuccesses, recentProbe_concat hr, List.countP_append]
  cases hm : m.succeeded?.any (recentProbe h) <;> simp [probeSuccesses, hm]

lemma probeFailures_concat (hr : m.recovers = false) : probeFailures (h ++ [m])
    = probeFailures h + (m.failed?.any (recentProbe h)).toNat := by
  rw [probeFailures, recentProbe_concat hr, List.countP_append]
  cases hm : m.failed?.any (recentProbe h) <;> simp [probeFailures, hm]

/-- Where all reports are about permits granted before, none is about a recent probe. -/
lemma countP_recentProbe_eq_zero {report? : Moment → Option (ℕ × Permit)}
    (hold : ∀ m ∈ h, ∀ x, report? m = some x → x.1 < grantedAtRecovery h) :
    h.countP (fun m => (report? m).any (recentProbe h)) = 0 := by
  rw [List.countP_eq_zero]
  intro m hm
  rw [Option.any_eq_true]
  rintro ⟨x, hx, hrecent⟩
  have hlt := hold m hm x hx
  simp only [recentProbe, Bool.and_eq_true, decide_eq_true_eq] at hrecent
  omega

end

namespace Breaker

variable (b : Breaker) (now : ℕ) (p : Permit)

lemma refresh_cases :
    b.refresh now = b ∨ b.state = .opened ∧ b.refresh now = b.transition now .halfOpen := by
  unfold refresh
  split
  · next h => exact .inr ⟨h.1, rfl⟩
  · exact .inl rfl

/-- Asking for a permit looks at the state, and may raise the flag. -/
lemma acquire_counts : (b.acquire now).2.state = (b.refresh now).state ∧
    (b.acquire now).2.failures = (b.refresh now).failures ∧
      (b.acquire now).2.successes = (b.refresh now).successes := by
  simp only [acquire]
  split
  · simp
  · simp
  · split <;> simp

lemma release_counts : (b.release p).state = b.state ∧ (b.release p).failures = b.failures ∧
    (b.release p).successes = b.successes := by
  unfold release
  split <;> simp

lemma transition_config (c : Circuit) : (b.transition now c).config = b.config := by
  cases c <;> rfl

lemma refresh_config : (b.refresh now).config = b.config := by
  rcases b.refresh_cases now with h | ⟨-, h⟩
  · rw [h]
  · rw [h, transition_config]

lemma acquire_config : (b.acquire now).2.config = b.config := by
  simp only [acquire]
  split
  · exact b.refresh_config now
  · exact b.refresh_config now
  · split <;> exact b.refresh_config now

lemma success_config : (b.success now p).config = b.config := by
  simp only [success]
  split
  · rfl
  · rfl
  · split
    · split <;> simp [transition_config]
    · rfl

lemma failure_config : (b.failure now p).config = b.config := by
  simp only [failure]
  split
  · split <;> simp [transition_config]
  · rfl
  · split <;> simp [transition_config]

lemma release_config : (b.release p).config = b.config := by
  unfold release
  split <;> rfl

lemma reset_config : (b.reset now).config = b.config := by
  unfold reset
  split <;> simp [transition_config]

/-- Nobody listens to reports while the breaker is open, nor to those on anything but probes while it
is half-open. -/
def Deaf : Prop := b.state = .opened ∨ b.state = .halfOpen ∧ p.probe = false

/-- What the report of a success can do. -/
lemma success_cases :
    (b.state = .closed ∧ b.success now p = { b with failures := 0 }) ∨
    (b.Deaf p ∧ b.success now p = b) ∨
    (b.state = .halfOpen ∧ p.probe = true ∧
      ((b.config.successThreshold ≤ b.successes + 1 ∧ (b.success now p).state = .closed ∧
          (b.success now p).failures = 0) ∨
        (b.successes + 1 < b.config.successThreshold ∧ (b.success now p).state = .halfOpen ∧
          (b.success now p).successes = b.successes + 1))) := by
  cases hs : b.state with
  | closed => exact .inl ⟨rfl, by simp [success, hs]⟩
  | opened => exact .inr (.inl ⟨.inl hs, by simp [success, hs]⟩)
  | halfOpen =>
    cases hp : p.probe with
    | false => exact .inr (.inl ⟨.inr ⟨hs, hp⟩, by simp [success, hs, hp]⟩)
    | true =>
      refine .inr (.inr ⟨rfl, rfl, ?_⟩)
      simp only [success, hs, hp, if_true]
      split
      · next hle => exact .inl ⟨hle, rfl, rfl⟩
      · next hlt => exact .inr ⟨Nat.lt_of_not_le hlt, rfl, rfl⟩

/-- What the report of a failure can do. -/
lemma failure_cases :
    (b.state = .closed ∧
      ((b.config.failureThreshold ≤ b.failures + 1 ∧ (b.failure now p).state = .opened) ∨
        (b.failures + 1 < b.config.failureThreshold ∧
          b.failure now p = { b with failures := b.failures + 1 }))) ∨
    (b.Deaf p ∧ b.failure now p = b) ∨
    (b.state = .halfOpen ∧ p.probe = true ∧ (b.failure now p).state = .opened) := by
  cases hs : b.state with
  | closed =>
    refine .inl ⟨rfl, ?_⟩
    simp only [failure, hs]
    split
    · next hle => exact .inl ⟨hle, rfl⟩
    · next hlt => exact .inr ⟨Nat.lt_of_not_le hlt, rfl⟩
  | opened => exact .inr (.inl ⟨.inl hs, by simp [failure, hs]⟩)
  | halfOpen =>
    cases hp : p.probe with
    | false => exact .inr (.inl ⟨.inr ⟨hs, hp⟩, by simp [failure, hs, hp]⟩)
    | true => exact .inr (.inr ⟨rfl, rfl, by simp [failure, hs, hp]⟩)

end Breaker

namespace Session

/-- What is seen of an event that is to happen. -/
def observe (s : Session) (e : Event) : Moment :=
  { event := e
    permit := match e with
      | .success n | .failure n | .drop n => s.held.lookup n
      | _ => none
    granted := s.granted, before := s.breaker.state, after := (s.step e).breaker.state }

@[simp] lemma observe_before (s : Session) (e : Event) :
    (s.observe e).before = s.breaker.state := rfl

@[simp] lemma observe_after (s : Session) (e : Event) :
    (s.observe e).after = (s.step e).breaker.state := rfl

@[simp] lemma observe_granted (s : Session) (e : Event) : (s.observe e).granted = s.granted := rfl

@[simp] lemma succeeded_success (s : Session) (n : ℕ) :
    (s.observe (.success n)).succeeded? = (s.held.lookup n).map (n, ·) := rfl

@[simp] lemma failed_success (s : Session) (n : ℕ) : (s.observe (.success n)).failed? = none := rfl

@[simp] lemma succeeded_failure (s : Session) (n : ℕ) :
    (s.observe (.failure n)).succeeded? = none := rfl

@[simp] lemma failed_failure (s : Session) (n : ℕ) :
    (s.observe (.failure n)).failed? = (s.held.lookup n).map (n, ·) := rfl

/-- What is seen of a run. -/
def history (s : Session) : List Event → List Moment
  | [] => []
  | e :: es => s.observe e :: (s.step e).history es

/-! ### What an event can do -/

/-- What an event other than a reset does to the breaker. -/
inductive Effect (s : Session) : Event → Prop
  /-- Nothing is reported, and the breaker neither moves nor counts. -/
  | quiet {e : Event} (succeeded? : (s.observe e).succeeded? = none)
    (failed? : (s.observe e).failed? = none) (state : (s.step e).breaker.state = s.breaker.state)
    (failures : (s.step e).breaker.failures = s.breaker.failures)
    (successes : (s.step e).breaker.successes = s.breaker.successes) : Effect s e
  /-- An open breaker is looked at after its recovery time. -/
  | recover {e : Event} (event : e = .acquire ∨ e = .read) (before : s.breaker.state = .opened)
    (after : (s.step e).breaker.state = .halfOpen)
    (successes : (s.step e).breaker.successes = 0) : Effect s e
  /-- Nobody listens to the report. -/
  | ignore {e : Event} {n : ℕ} {p : Permit} (event : e = .success n ∨ e = .failure n)
    (out : s.held.lookup n = some p) (deaf : s.breaker.Deaf p)
    (same : (s.step e).breaker = s.breaker) : Effect s e
  /-- A success ends the failures in a row. -/
  | clear {n : ℕ} {p : Permit} (out : s.held.lookup n = some p) (before : s.breaker.state = .closed)
    (now : (s.step (.success n)).breaker = { s.breaker with failures := 0 }) : Effect s (.success n)
  /-- A failure is one more in a row. -/
  | strike {n : ℕ} {p : Permit} (out : s.held.lookup n = some p)
    (before : s.breaker.state = .closed)
    (lt : s.breaker.failures + 1 < s.breaker.config.failureThreshold)
    (now : (s.step (.failure n)).breaker = { s.breaker with failures := s.breaker.failures + 1 }) :
    Effect s (.failure n)
  /-- A failure is the last that a closed breaker bears. -/
  | trip {n : ℕ} {p : Permit} (out : s.held.lookup n = some p) (before : s.breaker.state = .closed)
    (le : s.breaker.config.failureThreshold ≤ s.breaker.failures + 1)
    (after : (s.step (.failure n)).breaker.state = .opened) : Effect s (.failure n)
  /-- A probe succeeds, and more have to. -/
  | count {n : ℕ} {p : Permit} (out : s.held.lookup n = some p) (probe : p.probe = true)
    (before : s.breaker.state = .halfOpen)
    (lt : s.breaker.successes + 1 < s.breaker.config.successThreshold)
    (after : (s.step (.success n)).breaker.state = .halfOpen)
    (successes : (s.step (.success n)).breaker.successes = s.breaker.successes + 1) :
    Effect s (.success n)
  /-- A probe succeeds, and no more have to. -/
  | close {n : ℕ} {p : Permit} (out : s.held.lookup n = some p) (probe : p.probe = true)
    (before : s.breaker.state = .halfOpen)
    (le : s.breaker.config.successThreshold ≤ s.breaker.successes + 1)
    (after : (s.step (.success n)).breaker.state = .closed)
    (failures : (s.step (.success n)).breaker.failures = 0) : Effect s (.success n)
  /-- A probe fails. -/
  | reopen {n : ℕ} {p : Permit} (out : s.held.lookup n = some p) (probe : p.probe = true)
    (before : s.breaker.state = .halfOpen)
    (after : (s.step (.failure n)).breaker.state = .opened) : Effect s (.failure n)

lemma step_acquire_breaker (s : Session) :
    (s.step .acquire).breaker = (s.breaker.acquire s.now).2 := by
  simp only [step, acquire]
  rcases s.breaker.acquire s.now with ⟨_ | p, b⟩ <;> rfl

lemma settle_breaker {s : Session} {n : ℕ} {p : Permit} (hp : s.held.lookup n = some p)
    (tell : Breaker → Permit → Breaker) : ((s.settle n tell).getD s).breaker = tell s.breaker p := by
  simp [settle, hp]

lemma settle_of_not_out {s : Session} {n : ℕ} (hp : s.held.lookup n = none)
    (tell : Breaker → Permit → Breaker) : (s.settle n tell).getD s = s := by
  simp [settle, hp]

lemma effect_look (s : Session) {e : Event} (he : e = .acquire ∨ e = .read) : s.Effect e := by
  have hnone : (s.observe e).succeeded? = none ∧ (s.observe e).failed? = none := by
    rcases he with rfl | rfl <;> exact ⟨rfl, rfl⟩
  have hsame : (s.step e).breaker.state = (s.breaker.refresh s.now).state ∧
      (s.step e).breaker.failures = (s.breaker.refresh s.now).failures ∧
        (s.step e).breaker.successes = (s.breaker.refresh s.now).successes := by
    rcases he with rfl | rfl
    · rw [step_acquire_breaker]
      exact Breaker.acquire_counts _ _
    · exact ⟨rfl, rfl, rfl⟩
  obtain ⟨hstate, hfailures, hsuccesses⟩ := hsame
  rcases s.breaker.refresh_cases s.now with hr | ⟨ho, hr⟩
  · rw [hr] at hstate hfailures hsuccesses
    exact .quiet hnone.1 hnone.2 hstate hfailures hsuccesses
  · rw [hr] at hstate hsuccesses
    exact .recover he ho hstate hsuccesses

lemma effect_success {s : Session} {n : ℕ} {p : Permit} (hp : s.held.lookup n = some p) :
    s.Effect (.success n) := by
  have hb : (s.step (.success n)).breaker = s.breaker.success s.now p := settle_breaker hp _
  rcases s.breaker.success_cases s.now p with ⟨hc, hnow⟩ | ⟨hdeaf, hsame⟩ |
    ⟨hh, hprobe, ⟨hle, hc, hf⟩ | ⟨hlt, hh', hs⟩⟩
  · exact .clear hp hc (hb.trans hnow)
  · exact .ignore (.inl rfl) hp hdeaf (hb.trans hsame)
  · exact .close hp hprobe hh hle (hb ▸ hc) (hb ▸ hf)
  · exact .count hp hprobe hh hlt (hb ▸ hh') (hb ▸ hs)

lemma effect_failure {s : Session} {n : ℕ} {p : Permit} (hp : s.held.lookup n = some p) :
    s.Effect (.failure n) := by
  have hb : (s.step (.failure n)).breaker = s.breaker.failure s.now p := settle_breaker hp _
  rcases s.breaker.failure_cases s.now p with ⟨hc, ⟨hle, ho⟩ | ⟨hlt, hnow⟩⟩ | ⟨hdeaf, hsame⟩ |
    ⟨hh, hprobe, ho⟩
  · exact .trip hp hc hle (hb ▸ ho)
  · exact .strike hp hc hlt (hb.trans hnow)
  · exact .ignore (.inr rfl) hp hdeaf (hb.trans hsame)
  · exact .reopen hp hprobe hh (hb ▸ ho)

lemma effect (s : Session) {e : Event} (he : e ≠ .reset) : s.Effect e := by
  cases e with
  | acquire => exact s.effect_look (.inl rfl)
  | read => exact s.effect_look (.inr rfl)
  | advance n => exact .quiet rfl rfl rfl rfl rfl
  | reset => exact absurd rfl he
  | success n =>
    cases hp : s.held.lookup n with
    | some p => exact effect_success hp
    | none =>
      have hsame : s.step (.success n) = s := settle_of_not_out hp _
      exact .quiet (by simp [observe, Moment.succeeded?, hp]) rfl (by rw [hsame]) (by rw [hsame])
        (by rw [hsame])
  | failure n =>
    cases hp : s.held.lookup n with
    | some p => exact effect_failure hp
    | none =>
      have hsame : s.step (.failure n) = s := settle_of_not_out hp _
      exact .quiet rfl (by simp [observe, Moment.failed?, hp]) (by rw [hsame]) (by rw [hsame])
        (by rw [hsame])
  | drop n =>
    cases hp : s.held.lookup n with
    | some p =>
      have hb : (s.step (.drop n)).breaker = s.breaker.release p := settle_breaker hp _
      obtain ⟨hstate, hfailures, hsuccesses⟩ := s.breaker.release_counts p
      exact .quiet rfl rfl (hb ▸ hstate) (hb ▸ hfailures) (hb ▸ hsuccesses)
    | none =>
      have hsame : s.step (.drop n) = s := settle_of_not_out hp _
      exact .quiet rfl rfl (by rw [hsame]) (by rw [hsame]) (by rw [hsame])

/-! ### The counters along a run -/

/-- The parameters of a breaker do not change. -/
lemma config_step (s : Session) (e : Event) : (s.step e).breaker.config = s.breaker.config := by
  have hsettle (n : ℕ) {tell : Breaker → Permit → Breaker} (ht : ∀ b p, (tell b p).config = b.config) :
      ((s.settle n tell).getD s).breaker.config = s.breaker.config := by
    cases hp : s.held.lookup n with
    | none => rw [settle_of_not_out hp]
    | some p => rw [settle_breaker hp, ht]
  cases e with
  | acquire => rw [step_acquire_breaker, Breaker.acquire_config]
  | success n => exact hsettle n fun b p => b.success_config s.now p
  | failure n => exact hsettle n fun b p => b.failure_config s.now p
  | drop n => exact hsettle n Breaker.release_config
  | advance n => rfl
  | read => exact s.breaker.refresh_config s.now
  | reset => exact s.breaker.reset_config s.now

lemma config_run (s : Session) (es : List Event) : (s.run es).breaker.config = s.breaker.config := by
  induction es generalizing s with
  | nil => rfl
  | cons e es ih => rw [run_cons, ih, config_step]

lemma granted_le_step (s : Session) (e : Event) : s.granted ≤ (s.step e).granted := by
  have hsettle (n : ℕ) (tell : Breaker → Permit → Breaker) :
      s.granted ≤ ((s.settle n tell).getD s).granted := by
    cases hp : s.held.lookup n <;> simp [settle, hp]
  cases e with
  | acquire =>
    simp only [step, acquire]
    rcases s.breaker.acquire s.now with ⟨_ | p, b⟩ <;> simp
  | success n => exact hsettle n _
  | failure n => exact hsettle n _
  | drop n => exact hsettle n _
  | advance n => exact Nat.le_refl _
  | read => exact Nat.le_refl _
  | reset => exact Nat.le_refl _

/-- A permit that is out was out before, or has just been granted. -/
lemma held_step {s : Session} {e : Event} {x : ℕ × Permit} (hx : x ∈ (s.step e).held) :
    x ∈ s.held ∨ x.1 = s.granted := by
  have hsettle (n : ℕ) (tell : Breaker → Permit → Breaker)
      (hx : x ∈ ((s.settle n tell).getD s).held) : x ∈ s.held := by
    cases hp : s.held.lookup n with
    | none => rwa [settle_of_not_out hp] at hx
    | some p =>
      simp only [settle, hp, Option.map_some, Option.getD_some] at hx
      exact (List.mem_filter.mp hx).1
  cases e with
  | acquire =>
    simp only [step, acquire] at hx
    rcases hb : s.breaker.acquire s.now with ⟨_ | p, b⟩
    · rw [hb] at hx
      exact .inl hx
    · rw [hb] at hx
      rcases List.mem_cons.mp hx with rfl | hx
      · exact .inr rfl
      · exact .inl hx
  | success n => exact .inl (hsettle n _ hx)
  | failure n => exact .inl (hsettle n _ hx)
  | drop n => exact .inl (hsettle n _ hx)
  | advance n => exact .inl hx
  | read => exact .inl hx
  | reset => exact .inl hx

lemma mem_of_lookup {held : List (ℕ × Permit)} {n : ℕ} {p : Permit} (h : held.lookup n = some p) :
    (n, p) ∈ held := by
  obtain ⟨l₁, l₂, rfl, -⟩ := List.lookup_eq_some_iff.mp h
  simp

/-- Without resets no probe is out unless the breaker is half-open. -/
lemma Bounded.not_probe {s : Session} (h : s.Bounded 0) (hs : s.breaker.state ≠ .halfOpen)
    {x : ℕ × Permit} (hx : x ∈ s.held) : x.2.probe = false := by
  have hle := h.probes_le
  rw [h.flag.probing_eq_false hs, probes] at hle
  have hzero : s.held.countP (·.2.probe) = 0 := by simpa using hle
  simpa using List.countP_eq_zero.mp hzero x hx

/-- The counters are what the history says. -/
structure Recounts (s : Session) (h : List Moment) : Prop where
  bounded : s.Bounded 0
  numbered : s.Numbered
  closed : s.breaker.state = .closed →
    s.breaker.failures = failuresInRow h ∧ failuresInRow h < s.breaker.config.failureThreshold
  halfOpen : s.breaker.state = .halfOpen → s.breaker.successes = probeSuccesses h ∧
    probeSuccesses h < s.breaker.config.successThreshold ∧ probeFailures h = 0
  /-- The probes that are out were granted since the breaker became half-open. -/
  recent : ∀ x ∈ s.held, x.2.probe = true → recentProbe h x = true
  grantedAtRecovery_le : grantedAtRecovery h ≤ s.granted
  reported_lt : ∀ m ∈ h, ∀ x, m.succeeded? = some x ∨ m.failed? = some x → x.1 < s.granted

lemma recounts_start (name : String) {config : BreakerConfig} (hf : 0 < config.failureThreshold) :
    (start name config).Recounts [] where
  bounded := bounded_start name config
  numbered := numbered_start name config
  closed _ := ⟨rfl, hf⟩
  halfOpen h := by simp [start, Breaker.fresh] at h
  recent := by simp [start]
  grantedAtRecovery_le := Nat.zero_le _
  reported_lt := by simp

lemma observe_reported_lt {s : Session} (hn : s.Numbered) {e : Event} {x : ℕ × Permit}
    (hx : (s.observe e).succeeded? = some x ∨ (s.observe e).failed? = some x) : x.1 < s.granted := by
  have hlookup (n : ℕ) (h : (s.held.lookup n).map (n, ·) = some x) : x.1 < s.granted := by
    obtain ⟨p, hp, rfl⟩ := Option.map_eq_some_iff.mp h
    exact hn (n, p) (mem_of_lookup hp)
  cases e with
  | success n => exact hx.elim (hlookup n) nofun
  | failure n => exact hx.elim nofun (hlookup n)
  | _ => exact hx.elim nofun nofun

lemma not_recovers {s : Session} {e : Event} (he : s.breaker.state ≠ .opened) :
    (s.observe e).recovers = false := by
  simp [Moment.recovers, he]

namespace Recounts

variable {s : Session} {h : List Moment} {e : Event}

lemma reported_lt_concat (H : s.Recounts h) (e : Event) : ∀ m ∈ h ++ [s.observe e], ∀ x,
    m.succeeded? = some x ∨ m.failed? = some x → x.1 < s.granted := by
  intro m hm x hx
  rcases List.mem_append.mp hm with hm | hm
  · exact H.reported_lt m hm x hx
  · rw [List.mem_singleton.mp hm] at hx
    exact observe_reported_lt H.numbered hx

lemma grantedAtRecovery_concat_le (H : s.Recounts h) (e : Event) :
    grantedAtRecovery (h ++ [s.observe e]) ≤ s.granted := by
  rw [grantedAtRecovery_concat]
  split
  · exact Nat.le_refl _
  · exact H.grantedAtRecovery_le

lemma closed_step (H : s.Recounts h) (hf : 0 < s.breaker.config.failureThreshold) (he : e ≠ .reset)
    (hc : (s.step e).breaker.state = .closed) :
    (s.step e).breaker.failures = failuresInRow (h ++ [s.observe e]) ∧
      failuresInRow (h ++ [s.observe e]) < s.breaker.config.failureThreshold := by
  rw [failuresInRow_concat]
  cases s.effect he with
  | quiet hsucceeded hfailed hstate hfailures _ =>
    have hb : s.breaker.state = .closed := hstate ▸ hc
    simpa [Moment.clears, Moment.strikes, hb, hsucceeded, hfailed, hfailures] using H.closed hb
  | clear hp hb hnow => simpa [Moment.clears, hb, hp, hnow] using hf
  | strike hp hb hlt hnow =>
    obtain ⟨hfailures, -⟩ := H.closed hb
    simpa [Moment.clears, Moment.strikes, hb, hp, hnow, ← hfailures] using hlt
  | close hp _ hb _ ha hfailures => simpa [Moment.clears, hb, ha, hfailures] using hf
  | recover _ _ ha => simp [ha] at hc
  | ignore _ _ hdeaf hsame =>
    rw [hsame] at hc
    rcases hdeaf with hb | ⟨hb, -⟩ <;> simp [hb] at hc
  | trip _ _ _ ha => simp [ha] at hc
  | count _ _ _ _ ha => simp [ha] at hc
  | reopen _ _ _ ha => simp [ha] at hc

lemma halfOpen_step (H : s.Recounts h) (hs : 0 < s.breaker.config.successThreshold)
    (he : e ≠ .reset) (hc : (s.step e).breaker.state = .halfOpen) :
    (s.step e).breaker.successes = probeSuccesses (h ++ [s.observe e]) ∧
      probeSuccesses (h ++ [s.observe e]) < s.breaker.config.successThreshold ∧
      probeFailures (h ++ [s.observe e]) = 0 := by
  cases s.effect he with
  | quiet hsucceeded hfailed hstate _ hsuccesses =>
    have hb : s.breaker.state = .halfOpen := hstate ▸ hc
    have hcalm : (s.observe e).recovers = false := not_recovers (by simp [hb])
    rw [probeSuccesses_concat hcalm, probeFailures_concat hcalm, hsucceeded, hfailed, hsuccesses]
    exact H.halfOpen hb
  | recover hevent hb ha hsuccesses =>
    -- every permit reported on so far was granted before
    have hmark : grantedAtRecovery (h ++ [s.observe e]) = s.granted := by
      simp [grantedAtRecovery_concat, Moment.recovers, hb, ha]
    have hold := H.reported_lt_concat e
    rw [← hmark] at hold
    have hsucceeded : probeSuccesses (h ++ [s.observe e]) = 0 :=
      countP_recentProbe_eq_zero fun m hm x hx => hold m hm x (.inl hx)
    have hfailed : probeFailures (h ++ [s.observe e]) = 0 :=
      countP_recentProbe_eq_zero fun m hm x hx => hold m hm x (.inr hx)
    rw [hsucceeded, hfailed, hsuccesses]
    exact ⟨rfl, hs, rfl⟩
  | @ignore _ n p hevent hp hdeaf hsame =>
    rw [hsame] at hc ⊢
    obtain ⟨-, hprobe⟩ := hdeaf.resolve_left (by simp [hc])
    have hcalm : (s.observe e).recovers = false := not_recovers (by simp [hc])
    have hnot : recentProbe h (n, p) = false := by simp [recentProbe, hprobe]
    rw [probeSuccesses_concat hcalm, probeFailures_concat hcalm]
    rcases hevent with rfl | rfl <;> simpa [hp, hnot] using H.halfOpen hc
  | @count n p hp hprobe hb hlt _ hsuccesses =>
    have hcalm : (s.observe (.success n)).recovers = false := not_recovers (by simp [hb])
    have hrecent : recentProbe h (n, p) = true := H.recent _ (mem_of_lookup hp) hprobe
    obtain ⟨hcount, -, hfailed⟩ := H.halfOpen hb
    rw [probeSuccesses_concat hcalm, probeFailures_concat hcalm, hsuccesses, hcount]
    simpa [hp, hrecent, hfailed, ← hcount] using hlt
  | clear _ hb hnow => simp [hnow, hb] at hc
  | strike _ hb _ hnow => simp [hnow, hb] at hc
  | trip _ _ _ ha => simp [ha] at hc
  | close _ _ _ _ ha => simp [ha] at hc
  | reopen _ _ _ ha => simp [ha] at hc

lemma recent_step (H : s.Recounts h) {x : ℕ × Permit} (hx : x ∈ (s.step e).held)
    (hprobe : x.2.probe = true) : recentProbe (h ++ [s.observe e]) x = true := by
  rcases held_step hx with hx | hx
  · have hb : s.breaker.state = .halfOpen := by
      by_contra hb
      simp [H.bounded.not_probe hb hx] at hprobe
    rw [recentProbe_concat (not_recovers (by simp [hb]))]
    exact H.recent x hx hprobe
  · have hle := H.grantedAtRecovery_concat_le e
    simp [recentProbe, hprobe, hx, hle]

lemma step (H : s.Recounts h) (hf : 0 < s.breaker.config.failureThreshold)
    (hs : 0 < s.breaker.config.successThreshold) (he : e ≠ .reset) :
    (s.step e).Recounts (h ++ [s.observe e]) where
  bounded := by simpa [he] using H.bounded.step e
  numbered := H.numbered.step e
  closed hc := by
    rw [config_step]
    exact H.closed_step hf he hc
  halfOpen hc := by
    rw [config_step]
    exact H.halfOpen_step hs he hc
  recent x hx hprobe := H.recent_step hx hprobe
  grantedAtRecovery_le := Nat.le_trans (H.grantedAtRecovery_concat_le e) (granted_le_step s e)
  reported_lt m hm x hx := Nat.lt_of_lt_of_le (H.reported_lt_concat e m hm x hx) (granted_le_step s e)

lemma run {es : List Event} (H : s.Recounts h) (hf : 0 < s.breaker.config.failureThreshold)
    (hs : 0 < s.breaker.config.successThreshold) (hes : .reset ∉ es) :
    (s.run es).Recounts (h ++ s.history es) := by
  induction es generalizing s h with
  | nil => simpa [history] using H
  | cons e es ih =>
    obtain ⟨he, hes⟩ := List.ne_and_not_mem_of_not_mem_cons hes
    rw [run_cons, history, List.append_cons]
    exact ih (H.step hf hs he.symm) (by rwa [config_step]) (by rwa [config_step]) hes

end Recounts

/-! ### When a breaker moves -/

/-- A failure is reported on a permit that is out. -/
def Fails (s : Session) (e : Event) : Prop := ∃ n p, e = .failure n ∧ s.held.lookup n = some p

/-- A probe that is out reports success. -/
def ProbeSucceeds (s : Session) (e : Event) : Prop :=
  ∃ n p, e = .success n ∧ s.held.lookup n = some p ∧ p.probe = true

/-- A probe that is out reports failure. -/
def ProbeFails (s : Session) (e : Event) : Prop :=
  ∃ n p, e = .failure n ∧ s.held.lookup n = some p ∧ p.probe = true

section

variable {s : Session} {e : Event}

lemma opened_iff_of_closed (hc : s.breaker.state = .closed) (he : e ≠ .reset) :
    (s.step e).breaker.state ≠ .halfOpen ∧ ((s.step e).breaker.state = .opened ↔
      s.Fails e ∧ s.breaker.config.failureThreshold ≤ s.breaker.failures + 1) := by
  cases s.effect he with
  | quiet hsucceeded hfailed hstate =>
    rw [hstate, hc]
    refine ⟨nofun, nofun, ?_⟩
    rintro ⟨⟨n, p, rfl, hp⟩, -⟩
    simp [hp] at hfailed
  | clear _ _ hnow =>
    rw [hnow]
    simp [hc, Fails]
  | strike _ _ hlt hnow =>
    rw [hnow]
    simp [hc, hlt]
  | @trip n p hp _ hle ha =>
    rw [ha]
    exact ⟨nofun, fun _ => ⟨⟨n, p, rfl, hp⟩, hle⟩, fun _ => rfl⟩
  | recover _ hb => simp [hb] at hc
  | ignore _ _ hdeaf => rcases hdeaf with hb | ⟨hb, -⟩ <;> simp [hb] at hc
  | count _ _ hb => simp [hb] at hc
  | close _ _ hb => simp [hb] at hc
  | reopen _ _ hb => simp [hb] at hc

lemma closed_iff_of_halfOpen (hh : s.breaker.state = .halfOpen) (he : e ≠ .reset) :
    ((s.step e).breaker.state = .closed ↔
      s.ProbeSucceeds e ∧ s.breaker.config.successThreshold ≤ s.breaker.successes + 1) ∧
    ((s.step e).breaker.state = .opened ↔ s.ProbeFails e) := by
  cases s.effect he with
  | quiet hsucceeded hfailed hstate =>
    rw [hstate, hh]
    refine ⟨⟨nofun, ?_⟩, nofun, ?_⟩
    · rintro ⟨⟨n, p, rfl, hp, -⟩, -⟩
      simp [hp] at hsucceeded
    · rintro ⟨n, p, rfl, hp, -⟩
      simp [hp] at hfailed
  | @ignore _ n p hevent hp hdeaf hsame =>
    obtain ⟨-, hprobe⟩ := hdeaf.resolve_left (by simp [hh])
    rw [hsame, hh]
    rcases hevent with rfl | rfl <;> simp [ProbeSucceeds, ProbeFails, hp, hprobe]
  | count _ _ _ hlt ha =>
    rw [ha]
    simp [hlt, ProbeFails]
  | @close n p hp hprobe _ hle ha =>
    rw [ha]
    simp [hle, ProbeSucceeds, ProbeFails, hp, hprobe]
  | reopen hp hprobe _ ha =>
    rw [ha]
    simp [ProbeSucceeds, ProbeFails, hp, hprobe]
  | recover _ hb => simp [hb] at hh
  | clear _ hb => simp [hb] at hh
  | strike _ hb => simp [hb] at hh
  | trip _ hb => simp [hb] at hh

end

lemma halfOpen_of_opened {s : Session} {e : Event} (ho : s.breaker.state = .opened) (he : e ≠ .reset)
    (hmoves : (s.step e).breaker.state ≠ .opened) :
    (s.step e).breaker.state = .halfOpen ∧ (e = .acquire ∨ e = .read) := by
  cases s.effect he with
  | quiet _ _ hstate => exact absurd (hstate.trans ho) hmoves
  | recover hevent _ ha => exact ⟨ha, hevent⟩
  | ignore _ _ _ hsame => exact absurd (hsame ▸ ho) hmoves
  | clear _ hb => simp [hb] at ho
  | strike _ hb => simp [hb] at ho
  | trip _ hb => simp [hb] at ho
  | count _ _ hb => simp [hb] at ho
  | close _ _ hb => simp [hb] at ho
  | reopen _ _ hb => simp [hb] at ho

/-- A report on a permit that is no probe says nothing to a breaker that is not closed, and its return
never says anything. -/
lemma same_of_not_probe {s : Session} {n : ℕ} {p : Permit} (hp : s.held.lookup n = some p)
    (hprobe : p.probe = false) :
    (s.breaker.state ≠ .closed → (s.step (.success n)).breaker = s.breaker ∧
      (s.step (.failure n)).breaker = s.breaker) ∧ (s.step (.drop n)).breaker = s.breaker := by
  have hdrop : (s.step (.drop n)).breaker = s.breaker.release p := settle_breaker hp _
  refine ⟨fun hc => ?_, by simp [hdrop, Breaker.release, hprobe]⟩
  have hsuccess : (s.step (.success n)).breaker = s.breaker.success s.now p := settle_breaker hp _
  have hfailure : (s.step (.failure n)).breaker = s.breaker.failure s.now p := settle_breaker hp _
  rw [hsuccess, hfailure]
  cases hs : s.breaker.state with
  | closed => exact absurd hs hc
  | opened => simp [Breaker.success, Breaker.failure, hs]
  | halfOpen => simp [Breaker.success, Breaker.failure, hs, hprobe]

end Session

end Guardrail.Shadow
