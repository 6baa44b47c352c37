import Guardrail.Shadow.Session
import Mathlib.Data.List.Count
import Mathlib.Tactic.Lemma

/-!
How many probes can be out at once.

The probing flag of a half-open breaker stands for one probe. It cannot tell the probe that it was
raised for from one that a reset left behind: each reset made while a probe is out lets one more
probe out beside it, and nothing else does.
-/

namespace Guardrail.Shadow

/-! ### The probing flag -/

namespace Breaker

/-- The probing flag is up only while the breaker is half-open. -/
def FlagSound (b : Breaker) : Prop := b.probing = true → b.state = .halfOpen

lemma FlagSound.probing_eq_false {b : Breaker} (h : b.FlagSound) (hs : b.state ≠ .halfOpen) :
    b.probing = false := by
  by_contra hp
  exact hs (h (by simpa using hp))

@[simp] lemma transition_state (b : Breaker) (now : ℕ) (c : Circuit) :
    (b.transition now c).state = c := by
  cases c <;> rfl

@[simp] lemma transition_probing (b : Breaker) (now : ℕ) (c : Circuit) :
    (b.transition now c).probing = false := by
  cases c <;> rfl

lemma flagSound_transition (b : Breaker) (now : ℕ) (c : Circuit) :
    (b.transition now c).FlagSound := by
  simp [FlagSound]

lemma flagSound_fresh (name : String) (config : BreakerConfig) : (fresh name config).FlagSound := by
  simp [FlagSound, fresh]

lemma refresh_probing {b : Breaker} (h : b.FlagSound) (now : ℕ) :
    (b.refresh now).probing = b.probing := by
  unfold refresh
  split
  · next ho => rw [transition_probing, h.probing_eq_false (by simp [ho.1])]
  · rfl

lemma FlagSound.refresh {b : Breaker} (h : b.FlagSound) (now : ℕ) : (b.refresh now).FlagSound := by
  unfold Breaker.refresh
  split
  · exact flagSound_transition b now _
  · exact h

/-- What asking for a permit does to the flag: it goes up exactly when a probe is granted. -/
lemma acquire_flag {b : Breaker} (h : b.FlagSound) (now : ℕ) :
    (b.acquire now).2.FlagSound ∧
      (b.acquire now).2.probing.toNat
        = b.probing.toNat + ((b.acquire now).1.map fun p => p.probe.toNat).getD 0 := by
  have hr := h.refresh now
  have hp := refresh_probing h now
  cases hs : (b.refresh now).state with
  | closed => simp [acquire, hs, hr, hp]
  | opened => simp [acquire, hs, hr, hp]
  | halfOpen =>
    cases hf : (b.refresh now).probing with
    | true => simp [acquire, hs, hf, hr, ← hp]
    | false => simp [acquire, hs, hf, FlagSound, ← hp]

/-- Hearing of a permit takes the flag down only if the permit is a probe. -/
def Lowers (tell : Breaker → Permit → Breaker) : Prop :=
  ∀ b p, b.FlagSound → (tell b p).FlagSound ∧
    b.probing.toNat ≤ (tell b p).probing.toNat + p.probe.toNat

lemma lowers_success (now : ℕ) : Lowers fun b p => b.success now p := by
  intro b p h
  cases hs : b.state with
  | closed => simp_all [success, FlagSound]
  | opened => simp [success, hs, h]
  | halfOpen =>
    cases hp : p.probe with
    | false => simp [success, hs, hp, h]
    | true =>
      have := b.probing.toNat_le
      refine ⟨?_, by simp only [Bool.toNat_true]; omega⟩
      simp only [success, hs, hp, if_true]
      split
      · exact flagSound_transition _ now _
      · simp [FlagSound]

lemma lowers_failure (now : ℕ) : Lowers fun b p => b.failure now p := by
  intro b p h
  cases hs : b.state with
  | closed =>
    have hf := h.probing_eq_false (by simp [hs])
    refine ⟨?_, by simp [hf]⟩
    simp only [failure, hs]
    split
    · exact flagSound_transition _ now _
    · simp [FlagSound, hf]
  | opened => simp [failure, hs, h]
  | halfOpen =>
    cases hp : p.probe with
    | false => simp [failure, hs, hp, h]
    | true => simp [failure, hs, hp, flagSound_transition, Bool.toNat_le]

lemma lowers_release : Lowers Breaker.release := by
  intro b p h
  cases hp : p.probe with
  | false => simp [release, hp, h]
  | true =>
    have := b.probing.toNat_le
    refine ⟨?_, by simp only [Bool.toNat_true]; omega⟩
    unfold release
    split
    · simp [FlagSound]
    · exact h

lemma reset_flag {b : Breaker} (h : b.FlagSound) (now : ℕ) : (b.reset now).probing = false := by
  unfold reset
  split
  · next hc => exact h.probing_eq_false (by simp [hc])
  · simp

end Breaker

/-! ### The probes that are out -/

namespace Session

/-- The number of probes that were granted and neither reported nor given back. -/
def probes (s : Session) : ℕ := s.held.countP (·.2.probe)

/-- The number of resets made while a probe was out. -/
def interruptions (s : Session) : List Event → ℕ
  | [] => 0
  | e :: es => (if e = .reset ∧ 0 < s.probes then 1 else 0) + (s.step e).interruptions es

/-- Beside the probe that the flag stands for, at most `k` more are out. -/
structure Bounded (s : Session) (k : ℕ) : Prop where
  flag : s.breaker.FlagSound
  probes_le : s.probes ≤ k + s.breaker.probing.toNat

lemma bounded_start (name : String) (config : BreakerConfig) : (start name config).Bounded 0 :=
  ⟨Breaker.flagSound_fresh name config, by simp [probes, start]⟩

/-- A permit that is settled is out no more. -/
lemma probes_settled {held : List (ℕ × Permit)} {n : ℕ} {p : Permit} (h : held.lookup n = some p) :
    (held.filter (·.1 != n)).countP (·.2.probe) + p.probe.toNat ≤ held.countP (·.2.probe) := by
  rw [List.countP_eq_countP_filter_add held (·.2.probe) (·.1 != n)]
  cases hp : p.probe with
  | false => simp
  | true =>
    have hmem : (n, p) ∈ held := by
      obtain ⟨l₁, l₂, rfl, -⟩ := List.lookup_eq_some_iff.mp h
      simp
    have : 0 < (held.filter fun x => !(x.1 != n)).countP (·.2.probe) :=
      List.countP_pos_iff.mpr ⟨(n, p), by simp [hmem], hp⟩
    simp only [Bool.toNat_true]
    omega

lemma Bounded.settle {s s' : Session} {k n : ℕ} {tell : Breaker → Permit → Breaker}
    (h : s.Bounded k) (ht : Breaker.Lowers tell) (hs : s.settle n tell = some s') :
    s'.Bounded k := by
  obtain ⟨p, hp, rfl⟩ := Option.map_eq_some_iff.mp hs
  obtain ⟨hflag, hlow⟩ := ht s.breaker p h.flag
  have hout := probes_settled hp
  have hle := h.probes_le
  refine ⟨hflag, ?_⟩
  simp only [probes] at hle ⊢
  omega

/-- What one event does to the bound: only a reset made while a probe is out raises it. -/
lemma Bounded.step {s : Session} {k : ℕ} (h : s.Bounded k) (e : Event) :
    (s.step e).Bounded (k + if e = .reset ∧ 0 < s.probes then 1 else 0) := by
  have hsettle (n : ℕ) (tell : Breaker → Permit → Breaker) (ht : Breaker.Lowers tell) :
      ((s.settle n tell).getD s).Bounded k := by
    cases hs : s.settle n tell with
    | none => exact h
    | some s' => exact h.settle ht hs
  cases e with
  | acquire =>
    obtain ⟨hflag, hprobing⟩ := Breaker.acquire_flag h.flag s.now
    have hle := h.probes_le
    simp only [Session.step, Session.acquire]
    rcases hb : s.breaker.acquire s.now with ⟨_ | p, b⟩
    · simp only [hb, Option.map_none, Option.getD_none, Nat.add_zero] at hflag hprobing
      exact ⟨hflag, by simpa [probes, hprobing] using hle⟩
    · simp only [hb, Option.map_some, Option.getD_some] at hflag hprobing
      refine ⟨hflag, ?_⟩
      simp only [probes, List.countP_cons, hprobing] at hle ⊢
      cases p.probe <;> simp <;> omega
  | success n => exact hsettle n _ (Breaker.lowers_success s.now)
  | failure n => exact hsettle n _ (Breaker.lowers_failure s.now)
  | drop n => exact hsettle n _ Breaker.lowers_release
  | advance n => exact ⟨h.flag, h.probes_le⟩
  | read =>
    refine ⟨h.flag.refresh s.now, ?_⟩
    have hle := h.probes_le
    simpa [Session.step, Session.read, probes, Breaker.refresh_probing h.flag] using hle
  | reset =>
    have hle := h.probes_le
    have hflag := Breaker.reset_flag h.flag s.now
    have hone := s.breaker.probing.toNat_le
    refine ⟨fun hp => ?_, ?_⟩
    · simp [Session.step, Session.reset, hflag] at hp
    · have hsame : (s.step .reset).probes = s.probes := rfl
      have hdown : (s.step .reset).breaker.probing = false := hflag
      rw [hsame, hdown, Bool.toNat_false]
      -- the flag goes down, and the probe that it stood for stays out
      simp only [true_and]
      split <;> omega

lemma Bounded.run {s : Session} {k : ℕ} (h : s.Bounded k) (es : List Event) :
    (s.run es).Bounded (k + s.interruptions es) := by
  induction es generalizing s k with
  | nil => exact h
  | cons e es ih =>
    rw [run_cons, interruptions, ← Nat.add_assoc]
    exact ih (h.step e)

/-! ### One more probe after every reset -/

/-- Permits are numbered in the order in which they are granted. -/
def Numbered (s : Session) : Prop := ∀ x ∈ s.held, x.1 < s.granted

lemma Numbered.step {s : Session} (h : s.Numbered) (e : Event) : (s.step e).Numbered := by
  have hsettle (n : ℕ) (tell : Breaker → Permit → Breaker) :
      ((s.settle n tell).getD s).Numbered := by
    cases hs : s.settle n tell with
    | none => exact h
    | some s' =>
      obtain ⟨p, -, rfl⟩ := Option.map_eq_some_iff.mp hs
      exact fun x hx => h x (List.mem_filter.mp hx).1
  cases e with
  | acquire =>
    simp only [Session.step, Session.acquire]
    rcases s.breaker.acquire s.now with ⟨_ | p, b⟩
    · exact h
    · intro x hx
      rcases List.mem_cons.mp hx with rfl | hx
      · exact Nat.lt_succ_self _
      · exact Nat.lt_succ_of_lt (h x hx)
  | success n => exact hsettle n _
  | failure n => exact hsettle n _
  | drop n => exact hsettle n _
  | advance n => exact h
  | read => exact h
  | reset => exact h

lemma numbered_run {s : Session} (h : s.Numbered) (es : List Event) : (s.run es).Numbered := by
  induction es generalizing s with
  | nil => exact h
  | cons e es ih => exact ih (h.step e)

lemma numbered_start (name : String) (config : BreakerConfig) : (start name config).Numbered := by
  simp [Numbered, start]

lemma run_append (s : Session) (es es' : List Event) : s.run (es ++ es') = (s.run es).run es' := by
  simp [run, List.foldl_append]

/-- A call through a closed breaker that fails. -/
lemma run_failing {s : Session} (h : s.Numbered) (hc : s.breaker.state = .closed) :
    s.run [.acquire, .failure s.granted]
      = { s with breaker := s.breaker.failure s.now ⟨false⟩, granted := s.granted + 1 } := by
  have hb : s.breaker.acquire s.now = (some ⟨false⟩, s.breaker) := by
    simp [Breaker.acquire, Breaker.refresh, hc]
  have hf : s.held.filter (fun x => x.1 != s.granted) = s.held :=
    List.filter_eq_self.mpr fun x hx => by simpa using Nat.ne_of_lt (h x hx)
  simp [run, step, acquire, hb, failure?, settle, hf]

/-- Enough failing calls open a closed breaker, and leave the probes that are out as they are. -/
lemma exists_open {s : Session} (h : s.Numbered) (hc : s.breaker.state = .closed) (n : ℕ)
    (hn : s.breaker.config.failureThreshold ≤ s.breaker.failures + 1 + n) :
    ∃ es, (s.run es).breaker.state = .opened ∧
      (s.run es).breaker.openedAt = some (s.run es).now ∧ (s.run es).probes = s.probes := by
  induction n generalizing s with
  | zero =>
    refine ⟨[.acquire, .failure s.granted], ?_⟩
    rw [run_failing h hc]
    have hlast : s.breaker.config.failureThreshold ≤ s.breaker.failures + 1 := hn
    simp [Breaker.failure, hc, hlast, Breaker.transition, probes]
  | succ n ih =>
    have hrun := run_failing h hc
    by_cases hlast : s.breaker.config.failureThreshold ≤ s.breaker.failures + 1
    · exact ih h hc (by omega)
    · have hb : s.breaker.failure s.now ⟨false⟩
          = { s.breaker with failures := s.breaker.failures + 1 } := by
        simp [Breaker.failure, hc, hlast]
      rw [hb] at hrun
      obtain ⟨es, ho, hat, hp⟩ := ih (numbered_run h [.acquire, .failure s.granted])
        (by rw [hrun]; exact hc) (by rw [hrun]; simp only; omega)
      refine ⟨[.acquire, .failure s.granted] ++ es, ?_⟩
      rw [run_append]
      exact ⟨ho, hat, hp.trans (by rw [hrun]; rfl)⟩

/-- After a reset a run can go on so that one more probe is out. -/
lemma exists_probe {s : Session} (h : s.Numbered) :
    ∃ es, (s.run (.reset :: es)).probes = s.probes + 1 := by
  have hc : (s.step .reset).breaker.state = .closed := by
    simp only [step, reset, Breaker.reset]
    split <;> simp_all
  obtain ⟨es, ho, hat, hp⟩ := exists_open (h.step .reset) hc _ (Nat.le_add_left _ _)
  refine ⟨es ++ [.advance ((s.step .reset).run es).breaker.config.recovery.ticks, .acquire], ?_⟩
  rw [run_cons, run_append]
  generalize (s.step .reset).run es = t at ho hat hp
  have hp' : t.probes = s.probes := hp
  simp [run, step, advance, acquire, Breaker.acquire, Breaker.refresh, Breaker.recovered, ho, hat,
    Breaker.transition, probes] at hp' ⊢
  omega

/-- **Only a reset made while a probe is out lets a second probe out beside it.** In any run at most
one probe is out, and one more for each reset that was made while a probe was out; and after any run
a reset can be followed so that one more probe is out than before it. -/
theorem probes_le_one_add_interruptions (name : String) (config : BreakerConfig) (es : List Event) :
    ((start name config).run es).probes ≤ 1 + (start name config).interruptions es ∧
      ∃ more, ((start name config).run (es ++ .reset :: more)).probes
        = ((start name config).run es).probes + 1 := by
  constructor
  · have h := ((bounded_start name config).run es).probes_le
    have hone := ((start name config).run es).breaker.probing.toNat_le
    omega
  · obtain ⟨more, hmore⟩ := exists_probe (numbered_run (numbered_start name config) es)
    exact ⟨more, by rw [run_append, hmore]⟩

/-- A probe that a reset left behind gives the slot of the next one free: two probes are out that
were both granted since the breaker became half-open. -/
theorem two_probes_after_reset :
    let s := (start "b" ⟨1, .ofSeconds 1, 3⟩).run [.acquire, .failure 0, .advance 1000, .acquire,
      .reset, .acquire, .failure 2, .advance 1000, .acquire, .drop 1, .acquire]
    s.breaker.state = .halfOpen ∧ s.held = [(4, ⟨true⟩), (3, ⟨true⟩)] ∧ ¬ s.probes ≤ 1 := by
  decide

end Session

end Guardrail.Shadow
