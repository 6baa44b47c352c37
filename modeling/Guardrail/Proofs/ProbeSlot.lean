import Guardrail.Proofs.Counters
import Mathlib.Data.List.Nodup

/-!
The slot of a probe comes free.

While the probing flag is up, a probe is out: every way in which a probe can end takes the flag down,
whatever the breaker has become in the meantime. So a half-open breaker whose probes have all ended grants
the next one, and a permit that comes back without a report leaves nothing behind.
-/

namespace Guardrail.Shadow

/-! ### What leaves the flag up -/

namespace Breaker

/-- Hearing of a permit leaves the flag up only where it was up and the permit is no probe. -/
def Frees (tell : Breaker → Permit → Breaker) : Prop :=
  ∀ b p, b.FlagSound → (tell b p).probing = true → b.probing = true ∧ p.probe = false

lemma frees_success (now : ℕ) : Frees fun b p => b.success now p := by
  intro b p h hup
  have hdown := h.probing_eq_false
  cases hs : b.state with
  | closed => simp [success, hs, hdown] at hup
  | opened => simp [success, hs, hdown] at hup
  | halfOpen =>
    cases hp : p.probe with
    | false => exact ⟨by simpa [success, hs, hp] using hup, rfl⟩
    | true =>
      simp only [success, hs, hp, if_true] at hup
      split at hup <;> simp at hup

lemma frees_failure (now : ℕ) : Frees fun b p => b.failure now p := by
  intro b p h hup
  have hdown := h.probing_eq_false
  cases hs : b.state with
  | closed =>
    simp only [failure, hs] at hup
    split at hup
    · simp at hup
    · simp [hs, hdown] at hup
  | opened => simp [failure, hs, hdown] at hup
  | halfOpen =>
    cases hp : p.probe with
    | false => exact ⟨by simpa [failure, hs, hp] using hup, rfl⟩
    | true => simp [failure, hs, hp] at hup

lemma frees_release : Frees Breaker.release := by
  intro b p h hup
  have hdown := h.probing_eq_false
  unfold release at hup
  split at hup
  · cases hup
  · next hs =>
    have hhalf : b.state = .halfOpen := h hup
    exact ⟨hup, by simpa [hhalf] using hs⟩

/-- Looking again changes nothing. -/
lemma refresh_of_ne_opened {b : Breaker} (h : b.state ≠ .opened) (now : ℕ) : b.refresh now = b := by
  simp [refresh, h]

/-- What is half-open when it is looked at will be so later, too. -/
lemma refresh_halfOpen_later {b : Breaker} {now : ℕ} (h : (b.refresh now).state = .halfOpen)
    {later : ℕ} (hle : now ≤ later) : (b.refresh later).state = .halfOpen := by
  by_cases ho : b.state = .opened
  · have hnow : b.recovered now = true := by
      by_contra hr
      simp [refresh, ho, hr] at h
    have hlater : b.recovered later = true := by
      unfold recovered at hnow ⊢
      split at hnow
      · simp only [decide_eq_true_eq] at hnow ⊢
        omega
      · rfl
    simp [refresh, ho, hlater]
  · rw [refresh_of_ne_opened ho] at h ⊢
    exact h

/-- A permit that is asked for and given back leaves the breaker as it was found. -/
lemma release_acquired {b : Breaker} {now : ℕ} {p : Permit} (h : (b.acquire now).1 = some p) :
    (b.acquire now).2.release p = b.refresh now := by
  cases hs : (b.refresh now).state with
  | closed =>
    simp only [acquire, hs, Option.some.injEq] at h ⊢
    simp [release, ← h]
  | opened => simp [acquire, hs] at h
  | halfOpen =>
    cases hf : (b.refresh now).probing with
    | true => simp [acquire, hs, hf] at h
    | false =>
      have hlowered : { b.refresh now with probing := false } = b.refresh now := by rw [← hf]
      simp only [acquire, hs, hf, Bool.false_eq_true, if_false, Option.some.injEq] at h ⊢
      simpa [release, ← h, hs] using hlowered

/-- Where no permit is granted, the breaker is only looked at. -/
lemma acquire_refused {b : Breaker} {now : ℕ} (h : (b.acquire now).1 = none) :
    (b.acquire now).2 = b.refresh now := by
  cases hs : (b.refresh now).state with
  | closed => simp [acquire, hs] at h
  | opened => simp [acquire, hs]
  | halfOpen =>
    cases hf : (b.refresh now).probing with
    | true => simp [acquire, hs, hf]
    | false => simp [acquire, hs, hf] at h

end Breaker

namespace Session

/-! ### Permits and their numbers -/

/-- Of two permits that are out, each has a number of its own. -/
def Distinct (s : Session) : Prop := (s.held.map (·.1)).Nodup

lemma Distinct.eq_of_lookup {s : Session} (h : s.Distinct) {x : ℕ × Permit} (hx : x ∈ s.held) {p : Permit}
    (hp : s.held.lookup x.1 = some p) : x.2 = p :=
  congrArg Prod.snd (List.inj_on_of_nodup_map h hx (mem_of_lookup hp) rfl)

lemma Distinct.lookup {s : Session} (h : s.Distinct) {x : ℕ × Permit} (hx : x ∈ s.held) :
    s.held.lookup x.1 = some x.2 := by
  cases hp : s.held.lookup x.1 with
  | some p => rw [h.eq_of_lookup hx hp]
  | none =>
    have hnot := List.lookup_eq_none_iff.mp hp x hx
    simp at hnot

lemma probes_pos_iff {s : Session} : 0 < s.probes ↔ ∃ x ∈ s.held, x.2.probe = true :=
  List.countP_pos_iff

/-- Where no probe is out, a permit that is out is none. -/
lemma not_probe_of_lookup {s : Session} (h : s.probes = 0) {n : ℕ} {p : Permit}
    (hp : s.held.lookup n = some p) : p.probe = false := by
  simpa using List.countP_eq_zero.mp h _ (mem_of_lookup hp)

/-- While the flag is up, a probe is out. -/
structure Tracked (s : Session) : Prop where
  flag : s.breaker.FlagSound
  numbered : s.Numbered
  distinct : s.Distinct
  out : s.breaker.probing = true → 0 < s.probes

lemma tracked_start (name : String) (config : BreakerConfig) : (start name config).Tracked where
  flag := Breaker.flagSound_fresh name config
  numbered := numbered_start name config
  distinct := List.nodup_nil
  out h := by simp [start, Breaker.fresh] at h

namespace Tracked

variable {s : Session}

lemma settle (h : s.Tracked) {n : ℕ} {tell : Breaker → Permit → Breaker} (hl : Breaker.Lowers tell)
    (hf : Breaker.Frees tell) (hn : ((s.settle n tell).getD s).Numbered) :
    ((s.settle n tell).getD s).Tracked := by
  cases hp : s.held.lookup n with
  | none => rwa [settle_of_not_out hp]
  | some p =>
    have hs : (s.settle n tell).getD s
        = { s with breaker := tell s.breaker p, held := s.held.filter (·.1 != n) } := by
      simp [Session.settle, hp]
    rw [hs] at hn ⊢
    refine ⟨(hl s.breaker p h.flag).1, hn, h.distinct.sublist (List.filter_sublist.map _), fun hup => ?_⟩
    obtain ⟨hbefore, hprobe⟩ := hf s.breaker p h.flag hup
    -- the probe that is out is another permit than the one that is settled
    obtain ⟨x, hx, hxprobe⟩ := probes_pos_iff.mp (h.out hbefore)
    have hne : x.1 ≠ n := by
      rintro rfl
      rw [h.distinct.eq_of_lookup hx hp, hprobe] at hxprobe
      cases hxprobe
    exact probes_pos_iff.mpr ⟨x, List.mem_filter.mpr ⟨hx, by simpa using hne⟩, hxprobe⟩

lemma acquire (h : s.Tracked) : (s.step .acquire).Tracked := by
  have hn := h.numbered.step .acquire
  obtain ⟨hflag, hprobing⟩ := Breaker.acquire_flag h.flag s.now
  simp only [Session.step, Session.acquire] at hn ⊢
  rcases hb : s.breaker.acquire s.now with ⟨_ | p, b⟩
  · rw [hb] at hn hflag hprobing
    refine ⟨hflag, hn, h.distinct, fun hup => h.out ?_⟩
    have hup' : b.probing = true := hup
    simpa [hup'] using hprobing.symm
  · rw [hb] at hn hflag hprobing
    have hfresh : s.granted ∉ s.held.map (·.1) := by
      intro hmem
      obtain ⟨x, hx, heq⟩ := List.mem_map.mp hmem
      have hlt := h.numbered x hx
      omega
    refine ⟨hflag, hn, List.nodup_cons.mpr ⟨hfresh, h.distinct⟩, fun hup => ?_⟩
    simp only [Option.map_some, Option.getD_some] at hprobing
    by_cases hp : p.probe = true
    · exact probes_pos_iff.mpr ⟨(s.granted, p), List.mem_cons_self, hp⟩
    · have hbefore : s.breaker.probing = true := by
        have hup' : b.probing = true := hup
        simpa [hp, hup'] using hprobing.symm
      obtain ⟨x, hx, hxprobe⟩ := probes_pos_iff.mp (h.out hbefore)
      exact probes_pos_iff.mpr ⟨x, List.mem_cons_of_mem _ hx, hxprobe⟩

lemma step (h : s.Tracked) (e : Event) : (s.step e).Tracked := by
  have hn := h.numbered.step e
  cases e with
  | acquire => exact h.acquire
  | success n => exact h.settle (Breaker.lowers_success s.now) (Breaker.frees_success s.now) hn
  | failure n => exact h.settle (Breaker.lowers_failure s.now) (Breaker.frees_failure s.now) hn
  | drop n => exact h.settle Breaker.lowers_release Breaker.frees_release hn
  | advance n => exact ⟨h.flag, hn, h.distinct, h.out⟩
  | read =>
    refine ⟨h.flag.refresh s.now, hn, h.distinct, fun hup => h.out ?_⟩
    rwa [← Breaker.refresh_probing h.flag s.now]
  | reset =>
    have hdown : (s.step .reset).breaker.probing = false := Breaker.reset_flag h.flag s.now
    exact ⟨fun hup => by simp [hdown] at hup, hn, h.distinct, fun hup => by simp [hdown] at hup⟩

lemma run (h : s.Tracked) (es : List Event) : (s.run es).Tracked := by
  induction es generalizing s with
  | nil => exact h
  | cons e es ih => exact ih (h.step e)

end Tracked

/-! ### Half-open with no probe out -/

/-- Found half-open, with no probe out. -/
structure Ready (s : Session) : Prop where
  tracked : s.Tracked
  halfOpen : (s.breaker.refresh s.now).state = .halfOpen
  probes : s.probes = 0

namespace Ready

variable {s : Session}

/-- The next permit is granted, as a probe. -/
lemma acquire (h : s.Ready) : s.acquire.1 = some (s.granted, ⟨true⟩) := by
  have hdown : s.breaker.probing = false := by
    by_contra hup
    have hout := h.tracked.out (by simpa using hup)
    have hnone := h.probes
    omega
  have hflag : (s.breaker.refresh s.now).probing = false := by
    rw [Breaker.refresh_probing h.tracked.flag, hdown]
  simp [Session.acquire, Breaker.acquire, h.halfOpen, hflag]

lemma ne_closed (h : s.Ready) : s.breaker.state ≠ .closed := by
  intro hc
  have hhalf := h.halfOpen
  rw [Breaker.refresh_of_ne_opened (by simp [hc]), hc] at hhalf
  cases hhalf

/-- Reports on permits that are no probes, and their return, do not change that. -/
lemma settle (h : s.Ready) {e : Event} (htracked : (s.step e).Tracked)
    (hbreaker : (s.step e).breaker = s.breaker) (hnow : (s.step e).now = s.now)
    (hheld : (s.step e).held.Sublist s.held) : (s.step e).Ready := by
  refine ⟨htracked, by rw [hbreaker, hnow]; exact h.halfOpen, ?_⟩
  have hle : (s.step e).probes ≤ s.probes := hheld.countP_le
  have hnone := h.probes
  omega

end Ready

/-- Settling a permit takes no time and adds no permit. -/
lemma settle_frame (s : Session) (n : ℕ) (tell : Breaker → Permit → Breaker) :
    ((s.settle n tell).getD s).now = s.now ∧ ((s.settle n tell).getD s).held.Sublist s.held := by
  cases hp : s.held.lookup n with
  | none =>
    rw [settle_of_not_out hp]
    exact ⟨rfl, List.Sublist.refl _⟩
  | some p =>
    simp only [settle, hp, Option.map_some, Option.getD_some]
    exact ⟨trivial, List.filter_sublist⟩

namespace Ready

variable {s : Session}

lemma step (h : s.Ready) {e : Event} (hacquire : e ≠ .acquire) (hreset : e ≠ .reset) : (s.step e).Ready := by
  have htracked := h.tracked.step e
  have hsame {n : ℕ} {p : Permit} (hp : s.held.lookup n = some p) :=
    same_of_not_probe hp (not_probe_of_lookup h.probes hp)
  cases e with
  | acquire => exact absurd rfl hacquire
  | reset => exact absurd rfl hreset
  | success n =>
    obtain ⟨hnow, hheld⟩ := s.settle_frame n fun b p => b.success s.now p
    refine h.settle htracked ?_ hnow hheld
    cases hp : s.held.lookup n with
    | none => exact congrArg breaker (settle_of_not_out hp _)
    | some p => exact ((hsame hp).1 h.ne_closed).1
  | failure n =>
    obtain ⟨hnow, hheld⟩ := s.settle_frame n fun b p => b.failure s.now p
    refine h.settle htracked ?_ hnow hheld
    cases hp : s.held.lookup n with
    | none => exact congrArg breaker (settle_of_not_out hp _)
    | some p => exact ((hsame hp).1 h.ne_closed).2
  | drop n =>
    obtain ⟨hnow, hheld⟩ := s.settle_frame n Breaker.release
    refine h.settle htracked ?_ hnow hheld
    cases hp : s.held.lookup n with
    | none => exact congrArg breaker (settle_of_not_out hp _)
    | some p => exact (hsame hp).2
  | advance n => exact ⟨htracked, Breaker.refresh_halfOpen_later h.halfOpen (Nat.le_add_right _ _), h.probes⟩
  | read =>
    refine ⟨htracked, ?_, h.probes⟩
    have hagain : (s.breaker.refresh s.now).refresh s.now = s.breaker.refresh s.now :=
      Breaker.refresh_of_ne_opened (by simp [h.halfOpen]) _
    simp only [Session.step, Session.read, hagain]
    exact h.halfOpen

lemma run (h : s.Ready) {es : List Event} (hacquire : .acquire ∉ es) (hreset : .reset ∉ es) :
    (s.run es).Ready := by
  induction es generalizing s with
  | nil => exact h
  | cons e es ih =>
    obtain ⟨hacquire, hacquires⟩ := List.ne_and_not_mem_of_not_mem_cons hacquire
    obtain ⟨hreset, hresets⟩ := List.ne_and_not_mem_of_not_mem_cons hreset
    exact ih (h.step hacquire.symm hreset.symm) hacquires hresets

end Ready

/-! ### Permits that come back -/

/-- A permit that comes back after a time, if one was granted, leaves the breaker as it was found. -/
lemma breaker_acquire_drop {s : Session} (h : s.Numbered) (ticks : ℕ) :
    (s.run [.acquire, .advance ticks, .drop s.granted]).breaker = s.breaker.refresh s.now := by
  rcases hb : s.breaker.acquire s.now with ⟨_ | p, b⟩
  · have hout : s.held.lookup s.granted = none := by
      rw [List.lookup_eq_none_iff]
      intro x hx
      have hlt := h x hx
      simpa using Nat.ne_of_gt hlt
    have hrefused : b = s.breaker.refresh s.now := by
      rw [← Breaker.acquire_refused (by rw [hb]), hb]
    simp [Session.run, Session.step, Session.acquire, hb, advance, drop?, settle, hout, hrefused]
  · have hback : b.release p = s.breaker.refresh s.now := by
      rw [← Breaker.release_acquired (p := p) (by rw [hb]), hb]
    simp [Session.run, Session.step, Session.acquire, hb, advance, drop?, settle, hback]

/-- A call that is given up is a permit that comes back. -/
lemma breaker_abandon (s : Session) (ticks : ℕ) :
    (s.abandon ticks).2.breaker = s.breaker.refresh s.now := by
  unfold abandon
  rcases hb : s.breaker.acquire s.now with ⟨_ | p, b⟩
  · rw [← Breaker.acquire_refused (by rw [hb]), hb]
  · rw [← Breaker.release_acquired (p := p) (by rw [hb]), hb]

end Session

end Guardrail.Shadow
