import Guardrail.Proofs.ProbeSlot

/-!
How long an open breaker stays open.

A breaker that opens refuses every permit until its recovery time has passed, whatever is reported in the
meantime. The permit that is asked for then is granted as a probe, provided that no probe which a reset had
left behind was still out when the breaker opened: between the first look at the recovered breaker and that
permit such a probe is taken for one of the new half-open period, and can open or close the breaker once more.
-/

namespace Guardrail.Shadow

namespace Breaker

/-- A failure that opens the breaker starts its clock. -/
lemma openedAt_failure {b : Breaker} {now : ℕ} {p : Permit} (hb : b.state ≠ .opened)
    (ho : (b.failure now p).state = .opened) : (b.failure now p).openedAt = some now := by
  cases hs : b.state with
  | opened => exact absurd hs hb
  | closed =>
    simp only [failure, hs] at ho ⊢
    split at ho
    · next hle => simp [hle, transition]
    · simp at ho
  | halfOpen =>
    simp only [failure, hs] at ho ⊢
    split at ho
    · next hp => simp [hp, transition]
    · exact absurd ho hb

/-- An open breaker does not listen. -/
lemma deaf_of_opened {b : Breaker} (hb : b.state = .opened) (now : ℕ) (p : Permit) :
    b.success now p = b ∧ b.failure now p = b ∧ b.release p = b := by
  simp [success, failure, release, hb]

lemma refresh_of_not_recovered {b : Breaker} {now : ℕ} (h : b.recovered now = false) : b.refresh now = b := by
  simp [refresh, h]

end Breaker

namespace Session

lemma now_step_le (s : Session) (e : Event) : s.now ≤ (s.step e).now := by
  have hsettle (n : ℕ) (tell : Breaker → Permit → Breaker) : s.now ≤ ((s.settle n tell).getD s).now :=
    Nat.le_of_eq (s.settle_frame n tell).1.symm
  cases e with
  | acquire =>
    simp only [step, acquire]
    rcases s.breaker.acquire s.now with ⟨_ | p, b⟩ <;> exact Nat.le_refl _
  | success n => exact hsettle n _
  | failure n => exact hsettle n _
  | drop n => exact hsettle n _
  | advance n => exact Nat.le_add_right _ _
  | read => exact Nat.le_refl _
  | reset => exact Nat.le_refl _

lemma now_run_le (s : Session) (es : List Event) : s.now ≤ (s.run es).now := by
  induction es generalizing s with
  | nil => exact Nat.le_refl _
  | cons e es ih => exact Nat.le_trans (s.now_step_le e) (ih (s.step e))

/-! ### Opening -/

/-- The event opens the breaker. -/
def Opens (s : Session) (e : Event) : Prop := s.breaker.state ≠ .opened ∧ (s.step e).breaker.state = .opened

/-- Only a failure opens a breaker. -/
lemma Opens.failure {s : Session} {e : Event} (h : s.Opens e) :
    ∃ n p, e = .failure n ∧ s.held.lookup n = some p := by
  obtain ⟨hbefore, hafter⟩ := h
  have hreset : e ≠ .reset := by
    rintro rfl
    simp only [step, reset, Breaker.reset] at hafter
    split at hafter
    · next hc => simp [hc] at hafter
    · simp at hafter
  cases s.effect hreset with
  | quiet _ _ hstate => exact absurd (hstate.symm.trans hafter) hbefore
  | recover _ ho => exact absurd ho hbefore
  | ignore _ _ _ hsame => exact absurd (hsame ▸ hafter) hbefore
  | clear _ _ hnow => exact absurd (by simpa [hnow] using hafter) hbefore
  | strike _ _ _ hnow => exact absurd (by simpa [hnow] using hafter) hbefore
  | @trip n p hp => exact ⟨n, p, rfl, hp⟩
  | count _ _ _ _ hhalf => simp [hhalf] at hafter
  | close _ _ _ _ hclosed => simp [hclosed] at hafter
  | @reopen n p hp => exact ⟨n, p, rfl, hp⟩

lemma Opens.openedAt {s : Session} {e : Event} (h : s.Opens e) :
    (s.step e).breaker.openedAt = some (s.step e).now := by
  obtain ⟨n, p, rfl, hp⟩ := h.failure
  have hb : (s.step (.failure n)).breaker = s.breaker.failure s.now p := settle_breaker hp _
  have hnow : (s.step (.failure n)).now = s.now := (s.settle_frame n _).1
  rw [hnow, hb]
  exact Breaker.openedAt_failure h.1 (hb ▸ h.2)

/-! ### Before the recovery time has passed -/

/-- The breaker is open since a tick. -/
structure Shut (s : Session) (since : ℕ) : Prop where
  opened : s.breaker.state = .opened
  since : s.breaker.openedAt = some since

namespace Shut

variable {s : Session} {since : ℕ}

lemma recovered_eq (h : s.Shut since) :
    s.breaker.recovered s.now = decide (since + s.breaker.config.recovery.ticks ≤ s.now) := by
  simp [Breaker.recovered, h.since]

lemma refresh (h : s.Shut since) (hnow : s.now < since + s.breaker.config.recovery.ticks) :
    s.breaker.refresh s.now = s.breaker :=
  Breaker.refresh_of_not_recovered (by rw [h.recovered_eq]; simpa using hnow)

lemma acquire (h : s.Shut since) (hnow : s.now < since + s.breaker.config.recovery.ticks) :
    s.acquire = (none, s) := by
  have hb : s.breaker.acquire s.now = (none, s.breaker) := by
    simp [Breaker.acquire, h.refresh hnow, h.opened]
  simp [Session.acquire, hb]

/-- Reports change nothing, and no permit is granted. -/
lemma breaker_step (h : s.Shut since) {e : Event} (hreset : e ≠ .reset)
    (hnow : e = .acquire ∨ e = .read → s.now < since + s.breaker.config.recovery.ticks) :
    (s.step e).breaker = s.breaker := by
  have hsettle (n : ℕ) {tell : Breaker → Permit → Breaker} (ht : ∀ p, tell s.breaker p = s.breaker) :
      ((s.settle n tell).getD s).breaker = s.breaker := by
    cases hp : s.held.lookup n with
    | none => rw [settle_of_not_out hp]
    | some p => rw [settle_breaker hp, ht]
  have hdeaf (p : Permit) := Breaker.deaf_of_opened h.opened s.now p
  cases e with
  | acquire => exact congrArg (fun r => r.2.breaker) (h.acquire (hnow (.inl rfl)))
  | success n => exact hsettle n fun p => (hdeaf p).1
  | failure n => exact hsettle n fun p => (hdeaf p).2.1
  | drop n => exact hsettle n fun p => (hdeaf p).2.2
  | advance n => rfl
  | read => exact h.refresh (hnow (.inr rfl))
  | reset => exact absurd rfl hreset

lemma of_breaker_eq {s' : Session} (h : s.Shut since) (hb : s'.breaker = s.breaker) : s'.Shut since :=
  ⟨hb ▸ h.opened, hb ▸ h.since⟩

lemma run (h : s.Shut since) {es : List Event} (hes : .reset ∉ es)
    (hnow : (s.run es).now < since + s.breaker.config.recovery.ticks) : (s.run es).Shut since := by
  induction es generalizing s with
  | nil => exact h
  | cons e es ih =>
    obtain ⟨he, hes⟩ := List.ne_and_not_mem_of_not_mem_cons hes
    have hle : s.now ≤ (s.run (e :: es)).now := s.now_run_le (e :: es)
    have hsame : (s.step e).breaker = s.breaker := h.breaker_step he.symm fun _ => by omega
    exact ih (h.of_breaker_eq hsame) hes (by rwa [hsame])

end Shut

/-! ### The first permit after it -/

/-- The tick has come, and no permit was asked for since. -/
structure Due (s : Session) (tick : ℕ) (es : List Event) : Prop where
  come : tick ≤ (s.run es).now
  first : ∀ i (hi : i < es.length), es[i] = .acquire → (s.run (es.take i)).now < tick

lemma Due.of_cons {s : Session} {tick : ℕ} {e : Event} {es : List Event} (h : s.Due tick (e :: es)) :
    (e = .acquire → s.now < tick) ∧ (s.step e).Due tick es := by
  refine ⟨fun he => h.first 0 (by simp) he, h.come, fun i hi he => ?_⟩
  exact h.first (i + 1) (by simpa using hi) (by simpa using he)

/-- The breaker has been open since a tick, or has become half-open since then; at most so many probes are
out or have reported success since. A breaker without a recovery time may also have opened later. -/
inductive Waits (since count : ℕ) (s : Session) : Prop
  | shut {at' : ℕ} (shut : s.Shut at') (at_eq : at' = since ∨ s.breaker.config.recovery.ticks = 0)
    (since_le : since ≤ at') (le_now : at' ≤ s.now) (probes_le : s.probes ≤ count)
  | recovered (halfOpen : s.breaker.state = .halfOpen) (down : s.breaker.probing = false)
    (le_now : since + s.breaker.config.recovery.ticks ≤ s.now)
    (count_le : s.breaker.successes + s.probes ≤ count)

/-- So few probes can do no harm: none, or too few to close a breaker that needs no time to recover. -/
def Harmless (config : BreakerConfig) (count : ℕ) : Prop :=
  count = 0 ∨ config.recovery.ticks = 0 ∧ count < config.successThreshold

lemma probes_settle_le (s : Session) (n : ℕ) (tell : Breaker → Permit → Breaker) :
    ((s.settle n tell).getD s).probes ≤ s.probes :=
  (s.settle_frame n tell).2.countP_le

lemma probes_settle_lt {s : Session} {n : ℕ} {p : Permit} (hp : s.held.lookup n = some p)
    (hprobe : p.probe = true) (tell : Breaker → Permit → Breaker) :
    ((s.settle n tell).getD s).probes < s.probes := by
  have hout := probes_settled hp
  simp only [settle, hp, Option.map_some, Option.getD_some, probes, hprobe, Bool.toNat_true] at hout ⊢
  omega

namespace Waits

variable {s : Session} {since count : ℕ}

/-- A recovered breaker grants the permit, as a probe. -/
lemma acquire (h : Waits since count s) (hnow : since + s.breaker.config.recovery.ticks ≤ s.now) :
    s.acquire.1 = some (s.granted, ⟨true⟩) := by
  cases h with
  | shut hshut hat _ hle _ =>
    have hrecovered : s.breaker.recovered s.now = true := by
      rw [hshut.recovered_eq, decide_eq_true_eq]
      omega
    simp [Session.acquire, Breaker.acquire, Breaker.refresh, hshut.opened, hrecovered, Breaker.transition]
  | recovered hhalf hdown _ _ =>
    have hsame : s.breaker.refresh s.now = s.breaker := Breaker.refresh_of_ne_opened (by simp [hhalf]) _
    simp [Session.acquire, Breaker.acquire, hsame, hhalf, hdown]

/-- What leaves the breaker alone and lets no probe out changes nothing. -/
lemma of_breaker_eq {s' : Session} (h : Waits since count s) (hb : s'.breaker = s.breaker) (hnow : s.now ≤ s'.now)
    (hout : s'.probes ≤ s.probes) : Waits since count s' := by
  cases h with
  | shut hshut hat hsince hle hprobes =>
    exact .shut (hshut.of_breaker_eq hb) (by rw [hb]; exact hat) hsince (Nat.le_trans hle hnow)
      (Nat.le_trans hout hprobes)
  | recovered hhalf hdown hrecovered hcount =>
    exact .recovered (by rw [hb, hhalf]) (by rw [hb, hdown]) (by rw [hb]; exact Nat.le_trans hrecovered hnow)
      (by rw [hb]; exact Nat.le_trans (Nat.add_le_add_left hout _) hcount)

/-- So does a permit of which the breaker takes no notice. -/
lemma settle (h : Waits since count s) {n : ℕ} {tell : Breaker → Permit → Breaker}
    (hb : ((s.settle n tell).getD s).breaker = s.breaker) : Waits since count ((s.settle n tell).getD s) :=
  h.of_breaker_eq hb (Nat.le_of_eq (s.settle_frame n tell).1.symm) (s.probes_settle_le n tell)

lemma read (h : Waits since count s) : Waits since count (s.step .read) := by
  have hwaits := h
  cases h with
  | @shut at' hshut _ hsince _ hprobes =>
    by_cases hnow : s.now < at' + s.breaker.config.recovery.ticks
    · exact hwaits.of_breaker_eq (hshut.refresh hnow) (Nat.le_refl _) (Nat.le_refl _)
    · have hrecovered : s.breaker.recovered s.now = true := by
        rw [hshut.recovered_eq, decide_eq_true_eq]
        omega
      have hb : (s.step .read).breaker = s.breaker.transition s.now .halfOpen := by
        simp [Session.step, Session.read, Breaker.refresh, hshut.opened, hrecovered]
      refine .recovered (by simp [hb]) (by simp [hb]) ?_ ?_
      · rw [hb]
        exact Nat.le_trans (Nat.add_le_add_right hsince _) (Nat.le_of_not_lt hnow)
      · rw [hb]
        exact Nat.le_trans (Nat.le_of_eq (Nat.zero_add _)) hprobes
  | recovered hhalf _ _ _ =>
    have hb : (s.step .read).breaker = s.breaker := Breaker.refresh_of_ne_opened (by simp [hhalf]) _
    exact hwaits.of_breaker_eq hb (Nat.le_refl _) (Nat.le_refl _)

/-- A half-open breaker hears a report that leaves it half-open, or opens it anew. -/
lemma success (h : Waits since count s) (hc : Harmless s.breaker.config count) (n : ℕ) :
    Waits since count (s.step (.success n)) := by
  have hwaits := h
  cases h with
  | shut hshut _ _ _ _ => exact hwaits.settle (hshut.breaker_step (e := .success n) nofun nofun)
  | recovered hhalf hdown hrecovered hcount =>
    cases hp : s.held.lookup n with
    | none => exact hwaits.settle (congrArg breaker (settle_of_not_out hp _))
    | some p =>
      have hb : (s.step (.success n)).breaker = s.breaker.success s.now p := settle_breaker hp _
      cases hprobe : p.probe with
      | false =>
        have hsame : s.breaker.success s.now p = s.breaker := by simp [Breaker.success, hhalf, hprobe]
        exact hwaits.settle (hb.trans hsame)
      | true =>
        -- one probe less is out, and one more has reported success, but not enough have
        have hlt : (s.step (.success n)).probes < s.probes := probes_settle_lt hp hprobe _
        have hnow : (s.step (.success n)).now = s.now := (s.settle_frame n _).1
        have hmore : ¬ s.breaker.config.successThreshold ≤ s.breaker.successes + 1 := by
          rcases hc with rfl | ⟨-, hc⟩ <;> omega
        have hcounted : s.breaker.success s.now p
            = { s.breaker with probing := false, successes := s.breaker.successes + 1 } := by
          simp [Breaker.success, hhalf, hprobe, hmore]
        rw [hcounted] at hb
        refine .recovered (by rw [hb]; exact hhalf) (by rw [hb]) (by rw [hb, hnow]; exact hrecovered) ?_
        rw [hb]
        simp only
        omega

lemma failure (h : Waits since count s) (hc : Harmless s.breaker.config count) (n : ℕ) :
    Waits since count (s.step (.failure n)) := by
  have hwaits := h
  cases h with
  | shut hshut _ _ _ _ => exact hwaits.settle (hshut.breaker_step (e := .failure n) nofun nofun)
  | recovered hhalf _ hrecovered hcount =>
    cases hp : s.held.lookup n with
    | none => exact hwaits.settle (congrArg breaker (settle_of_not_out hp _))
    | some p =>
      have hb : (s.step (.failure n)).breaker = s.breaker.failure s.now p := settle_breaker hp _
      cases hprobe : p.probe with
      | false =>
        have hsame : s.breaker.failure s.now p = s.breaker := by simp [Breaker.failure, hhalf, hprobe]
        exact hwaits.settle (hb.trans hsame)
      | true =>
        -- a probe is out, so that the breaker needs no time to recover
        have hlt : (s.step (.failure n)).probes < s.probes := probes_settle_lt hp hprobe _
        have hnow : (s.step (.failure n)).now = s.now := (s.settle_frame n _).1
        have hfast : s.breaker.config.recovery.ticks = 0 := by
          rcases hc with rfl | ⟨hc, -⟩ <;> omega
        have hopens : s.Opens (.failure n) := ⟨by simp [hhalf], by simp [hb, Breaker.failure, hhalf, hprobe]⟩
        refine .shut ⟨hopens.2, hopens.openedAt⟩ (.inr ?_) (by omega) (Nat.le_refl _) (by omega)
        rw [config_step]
        exact hfast

lemma drop (h : Waits since count s) (n : ℕ) : Waits since count (s.step (.drop n)) := by
  have hwaits := h
  cases h with
  | shut hshut _ _ _ _ => exact hwaits.settle (hshut.breaker_step (e := .drop n) nofun nofun)
  | recovered _ hdown _ _ =>
    refine hwaits.settle ?_
    cases hp : s.held.lookup n with
    | none => exact congrArg breaker (settle_of_not_out hp _)
    | some p =>
      have hlowered : { s.breaker with probing := false } = s.breaker := by rw [← hdown]
      rw [settle_breaker hp, Breaker.release]
      split
      · exact hlowered
      · rfl

lemma step (h : Waits since count s) (hc : Harmless s.breaker.config count) {e : Event} (hreset : e ≠ .reset)
    (hacquire : e = .acquire → s.now < since + s.breaker.config.recovery.ticks) :
    Waits since count (s.step e) := by
  cases e with
  | acquire =>
    have hnow := hacquire rfl
    have hwaits := h
    cases h with
    | shut hshut _ hsince _ _ =>
      have hsame : s.step .acquire = s :=
        congrArg Prod.snd (hshut.acquire (Nat.lt_of_lt_of_le hnow (Nat.add_le_add_right hsince _)))
      rw [hsame]
      exact hwaits
    | recovered _ _ hle _ => omega
  | success n => exact h.success hc n
  | failure n => exact h.failure hc n
  | drop n => exact h.drop n
  | advance n => exact h.of_breaker_eq rfl (Nat.le_add_right _ _) (Nat.le_refl _)
  | read => exact h.read
  | reset => exact absurd rfl hreset

lemma run (h : Waits since count s) (hc : Harmless s.breaker.config count) {es : List Event}
    (hreset : .reset ∉ es) (hdue : s.Due (since + s.breaker.config.recovery.ticks) es) :
    Waits since count (s.run es) := by
  induction es generalizing s with
  | nil => exact h
  | cons e es ih =>
    obtain ⟨he, hreset⟩ := List.ne_and_not_mem_of_not_mem_cons hreset
    obtain ⟨hfirst, hdue⟩ := hdue.of_cons
    have hconfig : (s.step e).breaker.config = s.breaker.config := config_step s e
    exact ih (h.step hc he.symm hfirst) (by rwa [hconfig]) hreset (by rwa [hconfig])

end Waits

/-! ### Harm done by probes left behind -/

/-- Permits are not asked for. -/
lemma due_of_not_mem {s : Session} {tick : ℕ} {es : List Event} (hcome : tick ≤ (s.run es).now)
    (hes : .acquire ∉ es) : s.Due tick es :=
  ⟨hcome, fun _ hi he => absurd (he ▸ List.getElem_mem hi) hes⟩

/-- An open breaker that is looked at when its recovery time has passed. -/
lemma run_recover {s : Session} {since ticks : ℕ} (hshut : s.Shut since)
    (hpassed : since + s.breaker.config.recovery.ticks ≤ s.now + ticks) :
    let r := s.run [.advance ticks, .read]
    r.breaker = s.breaker.transition r.now .halfOpen ∧ r.held = s.held ∧ r.now = s.now + ticks := by
  have hrecovered : s.breaker.recovered (s.now + ticks) = true := by
    simpa only [Breaker.recovered, hshut.since, decide_eq_true_eq] using hpassed
  refine ⟨?_, rfl, rfl⟩
  simp [run, step, advance, read, Breaker.refresh, hshut.opened, hrecovered]

/-- A probe that was left behind fails as soon as the breaker has recovered. -/
lemma exists_refused {s : Session} (h : s.Tracked) {since : ℕ} (hshut : s.Shut since) (hle : since ≤ s.now)
    (hslow : 0 < s.breaker.config.recovery.ticks) (hout : 0 < s.probes) :
    ∃ es, .reset ∉ es ∧ s.Due (since + s.breaker.config.recovery.ticks) es ∧ (s.run es).acquire.1 = none := by
  obtain ⟨⟨n, p⟩, hmem, hprobe : p.probe = true⟩ := probes_pos_iff.mp hout
  let r := s.run [.advance s.breaker.config.recovery.ticks, .read]
  obtain ⟨hbreaker, hheld, hnow⟩ : r.breaker = s.breaker.transition r.now .halfOpen ∧ r.held = s.held ∧
      r.now = s.now + s.breaker.config.recovery.ticks := run_recover hshut (Nat.add_le_add_right hle _)
  have hp : r.held.lookup n = some p := by
    rw [hheld]
    exact h.distinct.lookup hmem
  have hb : (r.step (.failure n)).breaker = r.breaker.failure r.now p := settle_breaker hp _
  have hopens : r.Opens (.failure n) := by
    refine ⟨by simp [hbreaker], ?_⟩
    rw [hb, hbreaker]
    simp [Breaker.failure, hprobe]
  -- the breaker is shut anew, from the tick at which it had recovered
  have hshut' : (r.step (.failure n)).Shut (r.step (.failure n)).now := ⟨hopens.2, hopens.openedAt⟩
  have hconfig : (r.step (.failure n)).breaker.config = s.breaker.config :=
    (config_step r _).trans (config_run s _)
  have hlast : (r.step (.failure n)).now = r.now := (r.settle_frame n _).1
  refine ⟨[.advance s.breaker.config.recovery.ticks, .read, .failure n], by simp,
    due_of_not_mem ?_ (by simp), ?_⟩
  · show _ ≤ (r.step (.failure n)).now
    omega
  · exact congrArg Prod.fst (hshut'.acquire (by rw [hconfig]; omega))

lemma countP_eq_le_one {s : Session} (h : s.Distinct) (n : ℕ) : s.held.countP (·.1 == n) ≤ 1 := by
  have hcount := List.nodup_iff_count_le_one.mp h n
  rwa [List.count, List.countP_map] at hcount

/-- Where permits have numbers of their own, one that is settled is the only one that is out no more. -/
lemma probes_le_settle_add_one {s : Session} (h : s.Distinct) (n : ℕ) (tell : Breaker → Permit → Breaker) :
    s.probes ≤ ((s.settle n tell).getD s).probes + 1 := by
  cases hp : s.held.lookup n with
  | none =>
    rw [settle_of_not_out hp]
    exact Nat.le_succ _
  | some p =>
    have hone : (s.held.filter fun x => !(x.1 != n)).countP (·.2.probe) ≤ 1 := by
      calc (s.held.filter fun x => !(x.1 != n)).countP (·.2.probe)
          ≤ (s.held.filter fun x => !(x.1 != n)).length := List.countP_le_length
        _ = s.held.countP (·.1 == n) := by simp [List.countP_eq_length_filter, bne]
        _ ≤ 1 := countP_eq_le_one h n
    have hsplit := List.countP_eq_countP_filter_add s.held (·.2.probe) (·.1 != n)
    simp only [settle, hp, Option.map_some, Option.getD_some, probes]
    omega

/-- Enough probes that were left behind report success to close a half-open breaker. -/
lemma exists_closed {s : Session} (h : s.Tracked) (hhalf : s.breaker.state = .halfOpen) (hout : 0 < s.probes)
    (henough : s.breaker.config.successThreshold ≤ s.breaker.successes + s.probes) :
    ∃ es, .reset ∉ es ∧ .acquire ∉ es ∧ (s.run es).breaker.state = .closed := by
  generalize hm : s.probes = m at hout henough
  induction m generalizing s with
  | zero => omega
  | succ m ih =>
    obtain ⟨⟨n, p⟩, hmem, hprobe : p.probe = true⟩ := probes_pos_iff.mp (by omega : 0 < s.probes)
    have hp : s.held.lookup n = some p := h.distinct.lookup hmem
    have hb : (s.step (.success n)).breaker = s.breaker.success s.now p := settle_breaker hp _
    by_cases hlast : s.breaker.config.successThreshold ≤ s.breaker.successes + 1
    · refine ⟨[.success n], by simp, by simp, ?_⟩
      have hclosed : (s.breaker.success s.now p).state = .closed := by
        simp [Breaker.success, hhalf, hprobe, hlast]
      rw [run_cons, run_nil, hb, hclosed]
    · have hcounted : s.breaker.success s.now p
          = { s.breaker with probing := false, successes := s.breaker.successes + 1 } := by
        simp [Breaker.success, hhalf, hprobe, hlast]
      rw [hcounted] at hb
      have hlt : (s.step (.success n)).probes < s.probes := probes_settle_lt hp hprobe _
      have hle : s.probes ≤ (s.step (.success n)).probes + 1 := probes_le_settle_add_one h.distinct n _
      obtain ⟨es, hreset, hacquire, hclosed⟩ := ih (h.step (.success n)) (by rw [hb]; exact hhalf) (by omega)
        (by omega) (by rw [hb]; simp only; omega)
      exact ⟨.success n :: es, by simpa using hreset, by simpa using hacquire, hclosed⟩

/-- A closed breaker grants permits that are no probes. -/
lemma acquire_of_closed {s : Session} (h : s.breaker.state = .closed) :
    s.acquire.1 = some (s.granted, ⟨false⟩) := by
  have hsame : s.breaker.refresh s.now = s.breaker := Breaker.refresh_of_ne_opened (by simp [h]) _
  simp [acquire, Breaker.acquire, hsame, h]

/-- Where no time is needed to recover, enough probes that were left behind close the breaker at once. -/
lemma exists_let_through {s : Session} (h : s.Tracked) {since : ℕ} (hshut : s.Shut since) (hle : since ≤ s.now)
    (hfast : s.breaker.config.recovery.ticks = 0) (hout : 0 < s.probes)
    (hmany : s.breaker.config.successThreshold ≤ s.probes) :
    ∃ es, .reset ∉ es ∧ s.Due (since + s.breaker.config.recovery.ticks) es ∧
      (s.run es).acquire.1 = some ((s.run es).granted, ⟨false⟩) := by
  let r := s.run [.advance s.breaker.config.recovery.ticks, .read]
  obtain ⟨hbreaker, hheld, hnow⟩ : r.breaker = s.breaker.transition r.now .halfOpen ∧ r.held = s.held ∧
      r.now = s.now + s.breaker.config.recovery.ticks := run_recover hshut (Nat.add_le_add_right hle _)
  have hprobes : r.probes = s.probes := congrArg (List.countP _) hheld
  have hconfig : r.breaker.config = s.breaker.config := config_run s _
  obtain ⟨es, hreset, hacquire, hclosed⟩ := exists_closed (s := r) (h.run _) (by simp [hbreaker])
    (by omega) (by rw [hconfig]; omega)
  refine ⟨[.advance s.breaker.config.recovery.ticks, .read] ++ es, by simpa using hreset,
    due_of_not_mem ?_ (by simpa using hacquire), ?_⟩
  · have hlater : r.now ≤ (r.run es).now := r.now_run_le es
    rw [run_append]
    show _ ≤ (r.run es).now
    omega
  · rw [run_append]
    exact acquire_of_closed hclosed

/-- **An open breaker refuses until its recovery time has passed, and then lets one probe through.** A breaker
opens in a run. As long as it is not reset, every permit that is asked for before its recovery time has passed
is refused. The first one after that is granted as a probe, whatever is reported, given back and looked at in
between, exactly if no probe was out when the breaker opened, or so few that they cannot close it and it needs
no time to recover. No more probes can be out then than resets were made while a probe was out. -/
theorem refused_until_recovery (name : String) (config : BreakerConfig) (before : List Event) {e : Event}
    (hopens : ((start name config).run before).Opens e) :
    let s := ((start name config).run before).step e
    let tick := s.now + config.recovery.ticks
    (∀ es, .reset ∉ es → (s.run es).now < tick → (s.run es).acquire.1 = none) ∧
    ((∀ es, .reset ∉ es → s.Due tick es → (s.run es).acquire.1 = some ((s.run es).granted, ⟨true⟩)) ↔
      Harmless config s.probes) ∧
    s.probes ≤ (start name config).interruptions before := by
  intro s tick
  have hconfig : s.breaker.config = config := (config_step _ e).trans (config_run _ before)
  have hshut : s.Shut s.now := ⟨hopens.2, hopens.openedAt⟩
  have htracked : s.Tracked := ((tracked_start name config).run before).step e
  have htick : tick = s.now + s.breaker.config.recovery.ticks := by rw [hconfig]
  refine ⟨fun es hreset hnow => ?_, ⟨fun hgrants => ?_, fun hfew es hreset hdue => ?_⟩, ?_⟩
  · rw [htick] at hnow
    have hrun := hshut.run hreset hnow
    have hrefused := hrun.acquire (by rwa [config_run])
    exact congrArg Prod.fst hrefused
  -- a probe that is out can do harm in two ways: by a failure, and where recovery takes no time by successes
  · by_contra hharm
    have hout : 0 < s.probes := Nat.pos_of_ne_zero fun hnone => hharm (.inl hnone)
    rcases Nat.eq_zero_or_pos config.recovery.ticks with hfast | hslow
    · have hmany : config.successThreshold ≤ s.probes :=
        Nat.le_of_not_lt fun hlt => hharm (.inr ⟨hfast, hlt⟩)
      obtain ⟨es, hreset, hdue, hlet⟩ := exists_let_through htracked hshut (Nat.le_refl _)
        (by rwa [hconfig]) hout (by rwa [hconfig])
      rw [← htick] at hdue
      have hgranted := hgrants es hreset hdue
      rw [hlet] at hgranted
      simp at hgranted
    · obtain ⟨es, hreset, hdue, hrefused⟩ := exists_refused htracked hshut (Nat.le_refl _)
        (by rwa [hconfig]) hout
      rw [← htick] at hdue
      have hgranted := hgrants es hreset hdue
      rw [hrefused] at hgranted
      cases hgranted
  -- until the acquire that is due nothing but waiting matters
  · have hwaits : Waits s.now s.probes s :=
      .shut hshut (.inl rfl) (Nat.le_refl _) (Nat.le_refl _) (Nat.le_refl _)
    rw [htick] at hdue
    have hrun := hwaits.run (by rwa [hconfig]) hreset hdue
    refine hrun.acquire ?_
    rw [config_run]
    exact hdue.come
  · obtain ⟨n, p, rfl, -⟩ := hopens.failure
    have hbounded := (((bounded_start name config).run before).step (.failure n)).probes_le
    have hdown : s.breaker.probing = false := htracked.flag.probing_eq_false (by simp [hshut.opened])
    rw [hdown] at hbounded
    simpa using hbounded

/-- A permit is refused before the second is over, reports come late, and then a probe is let through. -/
theorem refused_until_recovery_late :
    let s₀ := (start "b" ⟨2, .ofSeconds 1, 2⟩).run [.acquire, .acquire, .acquire, .acquire, .failure 0]
    let s := s₀.step (.failure 1)
    (s₀.Opens (.failure 1) ∧ s.probes = 0) ∧ (s.run [.success 2, .advance 999]).acquire.1 = none ∧
      (s.run [.success 2, .advance 999, .acquire, .advance 1, .read, .failure 3]).acquire.1
        = some (4, ⟨true⟩) := by
  intro s₀ s
  have hopens : s₀.Opens (.failure 1) := ⟨by decide, by decide⟩
  have hprobes : s.probes = 0 := by decide
  obtain ⟨hrefuses, hgrants, -⟩ := refused_until_recovery "b" ⟨2, .ofSeconds 1, 2⟩ _ hopens
  exact ⟨⟨hopens, hprobes⟩, hrefuses [.success 2, .advance 999] (by decide) (by decide),
    hgrants.mpr (.inl hprobes) _ (by decide) ⟨by decide, by decide⟩⟩

/-- A probe that a reset left behind fails when the breaker has recovered and has been looked at: the permit that
is asked for then, the first one since, is refused. -/
theorem refused_after_recovery :
    let s := (start "b" ⟨1, .ofSeconds 1, 3⟩).run [.acquire, .failure 0, .advance 1000, .acquire, .reset,
      .acquire]
    let o := s.step (.failure 2)
    s.Opens (.failure 2) ∧ o.now = 1000 ∧ o.Due (o.now + (Duration.ofSeconds 1).ticks) [.advance 1000, .read,
      .failure 1] ∧ (o.run [.advance 1000, .read, .failure 1]).acquire.1 = none := by
  exact ⟨⟨by decide, by decide⟩, by decide, ⟨by decide, by decide⟩, by decide⟩

end Session

end Guardrail.Shadow
