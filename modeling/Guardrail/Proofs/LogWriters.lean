import Guardrail.Audit.Record
import Mathlib

/-!
Calls that write to one log side by side.

A call makes its line ready, waits for the lock of the log, hands the bytes of the line over in as many parts as the log
takes them in, and gives the lock back. Between any two steps of one call others may make theirs. What is written never
differs from the lines of the calls that took the lock, in the order in which they took it, but for the bytes that the
call that holds the lock still has to hand over.
-/

namespace Guardrail.Audit

/-- How far a call has come. -/
inductive Phase where
  | waiting
  /-- It holds the lock, and these bytes are still to be handed over. -/
  | writing (rest : List UInt8)
  | done

/-- A log and the calls that write to it. -/
structure Writers (ι : Type) where
  phase : ι → Phase
  /-- The call that holds the lock. -/
  lock : Option ι
  written : List UInt8
  /-- The calls that took the lock, the earliest first. -/
  order : List ι

namespace Writers

variable {ι : Type}

/-- Nothing is written yet. -/
def start : Writers ι := ⟨fun _ => .waiting, none, [], []⟩

/-- What the call that holds the lock has still to hand over. -/
def owed (s : Writers ι) : List UInt8 :=
  match s.lock.map s.phase with
  | some (.writing rest) => rest
  | _ => []

/-- A step of one of the calls, each of which writes its line. -/
inductive Step [DecidableEq ι] (line : ι → List UInt8) (s : Writers ι) : Writers ι → Prop
  | take (i : ι) (hfree : s.lock = none) (h : s.phase i = .waiting) :
    Step line s { s with
      phase := Function.update s.phase i (.writing (line i)), lock := some i, order := s.order ++ [i] }
  | write (i : ι) (part rest : List UInt8) (hpart : part ≠ []) (h : s.phase i = .writing (part ++ rest)) :
    Step line s { s with phase := Function.update s.phase i (.writing rest), written := s.written ++ part }
  | release (i : ι) (h : s.phase i = .writing []) :
    Step line s { s with phase := Function.update s.phase i .done, lock := none }

/-- What holds between any two steps. -/
structure Orderly (line : ι → List UInt8) (s : Writers ι) : Prop where
  nodup : s.order.Nodup
  waiting : ∀ i, s.phase i = .waiting ↔ i ∉ s.order
  held : ∀ i, s.lock = some i ↔ ∃ rest, s.phase i = .writing rest
  written : s.written ++ s.owed = s.order.flatMap line

variable {line : ι → List UInt8} {s t : Writers ι} {i j : ι} {rest : List UInt8}

lemma orderly_start : Orderly line start where
  nodup := List.nodup_nil
  waiting := by simp [start]
  held := by simp [start]
  written := by simp [start, owed]

lemma owed_of_lock (h : s.lock = none) : s.owed = [] := by
  simp [owed, h]

lemma Orderly.owed_of_writing (h : Orderly line s) (hi : s.phase i = .writing rest) : s.owed = rest := by
  simp [owed, (h.held i).mpr ⟨rest, hi⟩, hi]

/-- One call at most is writing. -/
lemma Orderly.not_writing (h : Orderly line s) (hi : s.phase i = .writing rest) (hne : j ≠ i) :
    ¬ ∃ rest, s.phase j = .writing rest := by
  intro hj
  exact hne (Option.some.inj (((h.held j).mpr hj).symm.trans ((h.held i).mpr ⟨rest, hi⟩)))

/-- A call that is writing took the lock, and stays in the order however far it comes. -/
lemma Orderly.waiting_update [DecidableEq ι] (h : Orderly line s) (hi : s.phase i = .writing rest) {phase : Phase}
    (hphase : phase ≠ .waiting) (j : ι) : Function.update s.phase i phase j = .waiting ↔ j ∉ s.order := by
  by_cases hj : j = i
  · have htaken := h.waiting i
    rw [hi] at htaken
    simpa [hj, hphase] using htaken
  · simp [hj, h.waiting]

lemma Orderly.step [DecidableEq ι] (h : Orderly line s) (hstep : Step line s t) : Orderly line t := by
  cases hstep with
  | take i hfree hi =>
    -- who still waits for the lock has not had it before
    have hnot : i ∉ s.order := (h.waiting i).mp hi
    refine ⟨?_, fun j => ?_, fun j => ?_, ?_⟩
    · exact h.nodup.append (List.nodup_singleton i) (List.disjoint_singleton.mpr hnot)
    · by_cases hj : j = i
      · simp [hj]
      · simp [hj, h.waiting]
    · by_cases hj : j = i
      · simp [hj]
      · have hidle : ¬ ∃ rest, s.phase j = .writing rest := by simp [← h.held, hfree]
        simpa [hj, Ne.symm hj] using hidle
    · have hwritten := h.written
      rw [owed_of_lock hfree, List.append_nil] at hwritten
      simp [owed, hwritten]
  | write i part rest hpart hi =>
    have hlock : s.lock = some i := (h.held i).mpr ⟨_, hi⟩
    refine ⟨h.nodup, h.waiting_update hi nofun, fun j => ?_, ?_⟩
    · by_cases hj : j = i
      · simp [hj, hlock]
      · simpa [hj, hlock, Ne.symm hj] using h.not_writing hi hj
    · have hwritten := h.written
      rw [h.owed_of_writing hi] at hwritten
      simpa [owed, hlock] using hwritten
  | release i hi =>
    refine ⟨h.nodup, h.waiting_update hi nofun, fun j => ?_, ?_⟩
    · by_cases hj : j = i
      · simp [hj]
      · simpa [hj] using h.not_writing hi hj
    · have hwritten := h.written
      rw [h.owed_of_writing hi] at hwritten
      simpa [owed] using hwritten

variable [DecidableEq ι]

/-- The calls may have come as far as this. -/
inductive Reachable (line : ι → List UInt8) : Writers ι → Prop
  | start : Reachable line start
  | step {s t : Writers ι} (h : Reachable line s) (hstep : Step line s t) : Reachable line t

lemma Reachable.orderly (h : Reachable line s) : Orderly line s := by
  induction h with
  | start => exact orderly_start
  | step _ hstep ih => exact ih.step hstep

/-- Nothing but whole lines and the begin of one is ever written. -/
theorem Reachable.written_prefix (h : Reachable line s) : s.written <+: s.order.flatMap line :=
  ⟨s.owed, h.orderly.written⟩

/-- While a call is not done, some call can make a step. -/
theorem Reachable.exists_step (h : Reachable line s) (hi : s.phase i ≠ .done) : ∃ t, Step line s t := by
  cases hlock : s.lock with
  | some j =>
    obtain ⟨rest, hj⟩ := (h.orderly.held j).mp hlock
    cases rest with
    | nil => exact ⟨_, .release j hj⟩
    | cons b rest => exact ⟨_, .write j [b] rest (List.cons_ne_nil b []) hj⟩
  | none =>
    cases hphase : s.phase i with
    | waiting => exact ⟨_, .take i hlock hphase⟩
    | writing rest => exact absurd ((h.orderly.held i).mpr ⟨rest, hphase⟩) (by simp [hlock])
    | done => exact absurd hphase hi

/-- When all calls are done, each took the lock once, and the lines stand in this order. -/
theorem Reachable.written_of_done (h : Reachable line s) (hdone : ∀ i, s.phase i = .done) :
    s.order.Nodup ∧ (∀ i, i ∈ s.order) ∧ s.written = s.order.flatMap line := by
  have horderly := h.orderly
  have hfree : s.lock = none := by
    cases hlock : s.lock with
    | none => rfl
    | some i =>
      obtain ⟨rest, hi⟩ := (horderly.held i).mp hlock
      simp [hdone i] at hi
  have htaken (i : ι) : i ∈ s.order := by
    by_contra hi
    simpa [hdone i] using (horderly.waiting i).mpr hi
  refine ⟨horderly.nodup, htaken, ?_⟩
  simpa [owed_of_lock hfree] using horderly.written

/-- A call that is not disturbed writes its line at once. -/
lemma Reachable.call (h : Reachable line s) (hfree : s.lock = none) (hi : s.phase i = .waiting) :
    Reachable line ⟨Function.update s.phase i .done, none, s.written ++ line i, s.order ++ [i]⟩ := by
  have htaken := h.step (.take i hfree hi)
  have hwritten :
      Reachable line ⟨Function.update s.phase i (.writing []), some i, s.written ++ line i, s.order ++ [i]⟩ := by
    by_cases hline : line i = []
    · simpa [hline] using htaken
    · have hstep := htaken.step (.write i (line i) [] hline (by simp))
      simpa using hstep
  have hreleased := hwritten.step (.release i (by simp))
  simpa using hreleased

/-- The calls may take the lock in any order. -/
theorem exists_reachable (line : ι → List UInt8) (order : List ι) (hnodup : order.Nodup) :
    ∃ s, Reachable line s ∧ s.order = order ∧ s.lock = none ∧
      ∀ i, s.phase i = if i ∈ order then .done else .waiting := by
  induction order using List.reverseRecOn with
  | nil => exact ⟨start, .start, rfl, rfl, fun i => rfl⟩
  | append_singleton order i ih =>
    obtain ⟨hbefore, -, hnew⟩ := List.nodup_append.mp hnodup
    obtain ⟨s, hs, horder, hfree, hphase⟩ := ih hbefore
    have hi : i ∉ order := fun h => hnew i h i (List.mem_singleton_self i) rfl
    refine ⟨_, hs.call hfree (i := i) (by simp [hphase, hi]), by simp [horder], rfl, fun j => ?_⟩
    by_cases hj : j = i
    · simp [hj]
    · simp [hj, hphase]

/-- All calls can come to an end, whatever the order in which they take the lock. -/
theorem exists_reachable_done (line : ι → List UInt8) (order : List ι) (hnodup : order.Nodup) (hall : ∀ i, i ∈ order) :
    ∃ s, Reachable line s ∧ s.order = order ∧ ∀ i, s.phase i = .done := by
  obtain ⟨s, hs, horder, -, hphase⟩ := exists_reachable line order hnodup
  exact ⟨s, hs, horder, fun i => by rw [hphase, if_pos (hall i)]⟩

end Writers

end Guardrail.Audit
