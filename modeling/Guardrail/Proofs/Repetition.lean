import Guardrail.Proofs.Acceptance
import Guardrail.Proofs.ScoreOrder

/-!
What is reported as a loop.

The latest steps are counted in a map, and the entry with the greatest tally makes the loop. The tally of a step is how
often it occurs and where it is met first, which no two steps share, so that there is one greatest entry in whatever
order the map is gone through: the step that occurs most often, and of several the one met first.
-/

namespace Guardrail.Detect.Activity

section

variable {κ : Type} [Ord κ] [BEq κ] [LawfulBEq κ]

/-! ### Counting -/

omit [BEq κ] [LawfulBEq κ] in
lemma tallies_concat (xs : List κ) (x : κ) :
    tallies (xs ++ [x]) = (tallies xs).set x (Tally.add xs.length ((tallies xs).get? x)) := by
  simp [tallies, List.zipIdx_append]

omit [BEq κ] [LawfulBEq κ] in
lemma ascending_tallies [Std.TransOrd κ] (xs : List κ) : (tallies xs).Ascending := by
  induction xs using List.reverseRecOn with
  | nil => exact .nil
  | append_singleton xs x ih =>
    rw [tallies_concat]
    exact ih.set x _

variable [Std.LawfulEqOrd κ]

lemma get?_tallies (xs : List κ) (x : κ) :
    (tallies xs).get? x = if x ∈ xs then some ⟨xs.count x, xs.idxOf x⟩ else none := by
  induction xs using List.reverseRecOn with
  | nil => rfl
  | append_singleton xs y ih =>
    rw [tallies_concat]
    by_cases hxy : x = y
    · -- the item that comes last is counted once more, or for the first time
      subst hxy
      rw [Keyed.get?_set_self, ih]
      by_cases hx : x ∈ xs
      · simp [hx, Tally.add, List.idxOf_append]
      · simp [hx, Tally.add, List.idxOf_append, List.count_eq_zero_of_not_mem]
    · have hyx : ¬ y = x := Ne.symm hxy
      rw [Keyed.get?_set_of_ne hxy, ih]
      by_cases hx : x ∈ xs
      · simp [hx, hyx, List.idxOf_append]
      · simp [hx, hxy]

lemma mem_tallies [Std.TransOrd κ] {xs : List κ} {x : κ} {t : Tally} :
    (x, t) ∈ tallies xs ↔ x ∈ xs ∧ t = ⟨xs.count x, xs.idxOf x⟩ := by
  rw [(ascending_tallies xs).mem_iff, get?_tallies]
  by_cases hx : x ∈ xs
  · simp [hx, eq_comm]
  · simp [hx]

end

/-! ### The greatest tally -/

lemma order_eq_gt {a b : Tally} :
    Tally.order a b = .gt ↔ b.count < a.count ∨ b.count = a.count ∧ a.first < b.first := by
  rw [Tally.order, Ordering.then_eq_gt, Nat.compare_eq_gt, Nat.compare_eq_eq, Nat.compare_eq_gt]
  omega

section

variable {κ : Type} {entries : List (κ × Tally)} {e : κ × Tally}

lemma mostFrequent?_concat (entries : List (κ × Tally)) (e : κ × Tally) :
    mostFrequent? (entries ++ [e]) = some (match mostFrequent? entries with
      | some b => if Tally.order b.2 e.2 = .gt then b else e
      | none => e) := by
  rw [mostFrequent?, List.foldl_append]
  change (match mostFrequent? entries with | some b => _ | none => _) = _
  cases mostFrequent? entries with
  | none => rfl
  | some b => exact (apply_ite some _ b e).symm

lemma mostFrequent?_eq_none : mostFrequent? entries = none ↔ entries = [] := by
  induction entries using List.reverseRecOn with
  | nil => simp [mostFrequent?]
  | append_singleton entries e _ => simp [mostFrequent?_concat]

/-- What is found is one of the entries, and none has a greater tally. -/
lemma greatest_of_mostFrequent? (h : mostFrequent? entries = some e) :
    e ∈ entries ∧ ∀ x ∈ entries, Tally.order x.2 e.2 ≠ .gt := by
  induction entries using List.reverseRecOn generalizing e with
  | nil => cases h
  | append_singleton entries last ih =>
    rw [mostFrequent?_concat, Option.some.injEq] at h
    cases hb : mostFrequent? entries with
    | none =>
      rw [hb] at h
      obtain rfl := mostFrequent?_eq_none.mp hb
      subst h
      simp [order_eq_gt]
    | some b =>
      obtain ⟨hmem, hall⟩ := ih hb
      simp only [hb] at h
      split at h
      · next hgt =>
        subst h
        refine ⟨List.mem_append_left _ hmem, fun x hx => ?_⟩
        rcases List.mem_append.mp hx with hx | hx
        · exact hall x hx
        · obtain rfl := List.mem_singleton.mp hx
          simp only [order_eq_gt, ne_eq] at hgt ⊢
          omega
      · next hle =>
        subst h
        refine ⟨List.mem_append_right _ (List.mem_singleton_self _), fun x hx => ?_⟩
        rcases List.mem_append.mp hx with hx | hx
        · have hx := hall x hx
          simp only [order_eq_gt, ne_eq] at hx hle ⊢
          omega
        · obtain rfl := List.mem_singleton.mp hx
          simp [order_eq_gt]

end

/-- Of the items of a list that occur most often, the one met first. -/
structure Leading {κ : Type} [BEq κ] (xs : List κ) (x : κ) : Prop where
  mem : x ∈ xs
  most : ∀ y, xs.count y ≤ xs.count x
  first : ∀ y ∈ xs, xs.count y = xs.count x → xs.idxOf x ≤ xs.idxOf y

section

variable {κ : Type} [Ord κ] [Std.TransOrd κ] [Std.LawfulEqOrd κ] [BEq κ] [LawfulBEq κ] {xs : List κ}
  {entries : List (κ × Tally)}

omit [Ord κ] [Std.TransOrd κ] [Std.LawfulEqOrd κ] in
/-- Only one item leads, as no two are met first at one place. -/
lemma Leading.unique {x y : κ} (hx : Leading xs x) (hy : Leading xs y) : x = y := by
  have hcount : xs.count x = xs.count y := (hy.most x).antisymm (hx.most y)
  have hplace : xs.idxOf x = xs.idxOf y := (hx.first y hy.mem hcount.symm).antisymm (hy.first x hx.mem hcount)
  exact (List.idxOf_inj hx.mem).mp hplace

lemma leading_of_mostFrequent? (hentries : entries.Perm (tallies xs)) {x : κ} {t : Tally}
    (h : mostFrequent? entries = some (x, t)) : Leading xs x ∧ t = ⟨xs.count x, xs.idxOf x⟩ := by
  obtain ⟨hmem, hall⟩ := greatest_of_mostFrequent? h
  obtain ⟨hx, rfl⟩ := mem_tallies.mp (hentries.mem_iff.mp hmem)
  have hle : ∀ y ∈ xs, xs.count y < xs.count x ∨ xs.count y = xs.count x ∧ xs.idxOf x ≤ xs.idxOf y := by
    intro y hy
    have hentry := hall _ (hentries.mem_iff.mpr (mem_tallies.mpr ⟨hy, rfl⟩))
    simp only [order_eq_gt, ne_eq] at hentry
    omega
  refine ⟨⟨hx, fun y => ?_, fun y hy hcount => ?_⟩, rfl⟩
  · by_cases hy : y ∈ xs
    · have := hle y hy
      omega
    · simp [List.count_eq_zero_of_not_mem hy]
  · have := hle y hy
    omega

/-- In whatever order the entries come, the one that leads is found. -/
lemma mostFrequent?_eq_some_iff (hentries : entries.Perm (tallies xs)) {x : κ} {t : Tally} :
    mostFrequent? entries = some (x, t) ↔ Leading xs x ∧ t = ⟨xs.count x, xs.idxOf x⟩ := by
  refine ⟨leading_of_mostFrequent? hentries, ?_⟩
  rintro ⟨hx, rfl⟩
  cases h : mostFrequent? entries with
  | none =>
    -- there is an entry for each item that leads
    obtain rfl := mostFrequent?_eq_none.mp h
    have hentry := hentries.mem_iff.mpr (mem_tallies.mpr ⟨hx.mem, rfl⟩)
    cases hentry
  | some e =>
    obtain ⟨y, t⟩ := e
    obtain ⟨hy, rfl⟩ := leading_of_mostFrequent? hentries h
    obtain rfl := hx.unique hy
    rfl

lemma exists_leading (hne : xs ≠ []) : ∃ x, Leading xs x := by
  cases h : mostFrequent? (tallies xs) with
  | none =>
    obtain ⟨x, hx⟩ := List.exists_mem_of_ne_nil xs hne
    have hentry := mem_tallies.mpr ⟨hx, rfl⟩
    rw [mostFrequent?_eq_none.mp h] at hentry
    cases hentry
  | some e =>
    obtain ⟨x, t⟩ := e
    exact ⟨x, (leading_of_mostFrequent? (.refl _) h).1⟩

end

/-! ### Loops -/

variable {latest : List String} {entries : List (String × Tally)} {repeats skipped : ℕ}

lemma loopAmong?_eq_some_iff (hentries : entries.Perm (tallies latest)) {place count : ℕ} :
    loopAmong? repeats skipped entries = some (place, count) ↔ ∃ x, Leading latest x ∧ repeats ≤ latest.count x ∧
      place = skipped + latest.idxOf x ∧ count = latest.count x := by
  unfold loopAmong?
  constructor
  · intro h
    obtain ⟨⟨x, t⟩, hfound, h⟩ := Option.bind_eq_some_iff.mp h
    obtain ⟨hx, rfl⟩ := leading_of_mostFrequent? hentries hfound
    dsimp only at h
    split at h
    · cases h
    · next hoften =>
      simp only [Option.some.injEq, Prod.mk.injEq] at h
      exact ⟨x, hx, Nat.le_of_not_lt hoften, h.1.symm, h.2.symm⟩
  · rintro ⟨x, hx, hoften, rfl, rfl⟩
    rw [(mostFrequent?_eq_some_iff hentries).mpr ⟨hx, rfl⟩]
    exact if_neg (Nat.not_lt_of_le hoften)

/-- The order in which the map is gone through plays no part. -/
lemma loopAmong?_of_perm (hentries : entries.Perm (tallies latest)) :
    loopAmong? repeats skipped entries = loopAmong? repeats skipped (tallies latest) := by
  ext ⟨place, count⟩
  rw [loopAmong?_eq_some_iff hentries, loopAmong?_eq_some_iff (.refl _)]

lemma loopAmong?_isSome_iff (hrepeats : 1 ≤ repeats) :
    (loopAmong? repeats skipped (tallies latest)).isSome = true ↔ ∃ x, repeats ≤ latest.count x := by
  constructor
  · intro h
    obtain ⟨⟨place, count⟩, hloop⟩ := Option.isSome_iff_exists.mp h
    obtain ⟨x, -, hoften, -⟩ := (loopAmong?_eq_some_iff (.refl _)).mp hloop
    exact ⟨x, hoften⟩
  · rintro ⟨y, hy⟩
    have hmem : y ∈ latest := List.count_pos_iff.mp (by omega)
    obtain ⟨x, hx⟩ := exists_leading (List.ne_nil_of_mem hmem)
    have hmost := hx.most y
    exact Option.isSome_iff_exists.mpr
      ⟨_, (loopAmong?_eq_some_iff (.refl _)).mpr ⟨x, hx, hmost.trans' hy, rfl, rfl⟩⟩

/-! ### Places in the whole list -/

/-- The places in the whole list at which an item stands among the latest `window`. -/
def latestPlaces {κ : Type} (window : ℕ) (xs : List κ) (x : κ) : Set ℕ := {p | xs.length ≤ p + window ∧ xs[p]? = some x}

lemma isLeast_latestPlaces {κ : Type} [BEq κ] [LawfulBEq κ] {window : ℕ} {xs : List κ} {x : κ}
    (hx : x ∈ xs.rtake window) :
    IsLeast (latestPlaces window xs x) (xs.length - window + (xs.rtake window).idxOf x) := by
  refine ⟨⟨by omega, ?_⟩, ?_⟩
  · rw [← List.getElem?_drop]
    exact List.getElem?_idxOf hx
  · rintro p ⟨hlate, hp⟩
    have hdrop : (xs.rtake window)[p - (xs.length - window)]? = some x := by
      rw [List.rtake, List.getElem?_drop, ← hp]
      congr 1
      omega
    have htake : x ∈ (xs.rtake window).take (p - (xs.length - window) + 1) := by
      rw [List.take_add_one, hdrop]
      simp
    have hlt := (List.mem_take_iff_idxOf_lt hx).mp htake
    omega

/-- Of the steps that occur most often among the latest `window`, and no less than `repeats` times, the one that is met
first there, and where in the whole list it is met. -/
structure Loops (window repeats : ℕ) (steps : List String) (x : String) (place : ℕ) : Prop where
  often : repeats ≤ (steps.rtake window).count x
  most : ∀ y, (steps.rtake window).count y ≤ (steps.rtake window).count x
  here : IsLeast (latestPlaces window steps x) place
  first : ∀ y, (steps.rtake window).count y = (steps.rtake window).count x →
    ∀ p ∈ latestPlaces window steps y, place ≤ p

lemma Loops.of_leading {window repeats : ℕ} {steps : List String} {x : String} (hx : Leading (steps.rtake window) x)
    (hoften : repeats ≤ (steps.rtake window).count x) :
    Loops window repeats steps x (steps.length - window + (steps.rtake window).idxOf x) := by
  refine ⟨hoften, hx.most, isLeast_latestPlaces hx.mem, fun y hy p hp => ?_⟩
  have hmem : y ∈ steps.rtake window := by
    have hpos := List.count_pos_iff.mpr hx.mem
    exact List.count_pos_iff.mp (by omega)
  have hplace : steps.length - window + (steps.rtake window).idxOf y ≤ p := (isLeast_latestPlaces hmem).2 hp
  have hfirst := hx.first y hmem hy
  omega

/-! ### Reports -/

/-- The loops that are reported. -/
def loops (a : Activity) : List Finding := a.findings.filter fun f => decide (f.category = .loopDetected)

variable {config : StateMonitorConfig} {s : Snapshot}

lemma loops_observe (config : StateMonitorConfig) (s : Snapshot) : (observe config s).loops =
    match loop? config.loopWindow config.loopRepeats (s.actions.map AgentAction.signature) with
    | some (place, count) =>
      [.make .loopDetected ⟨place, s.actions.length⟩ (loopRisk count config.loopWindow) 1 "state.loop"]
    | none => [] := by
  simp only [loops, observe, List.filter_append]
  cases loop? config.loopWindow config.loopRepeats (s.actions.map AgentAction.signature) <;>
    cases utilisation s <;> cases standstill? config.progressWindow s.actions <;>
    simp [Finding.make, apply_ite (List.filter _)]

lemma looping_observe (config : StateMonitorConfig) (s : Snapshot) : (observe config s).looping =
    match loop? config.loopWindow config.loopRepeats (s.actions.map AgentAction.signature) with
    | some (_, count) => loopRisk count config.loopWindow
    | none => 0 := rfl

/-- A loop is reported exactly if some step occurs often enough among the latest. -/
lemma loops_ne_nil_iff (hrepeats : 1 ≤ config.loopRepeats) : (observe config s).loops ≠ [] ↔
    ∃ x, config.loopRepeats ≤ ((s.actions.map AgentAction.signature).rtake config.loopWindow).count x := by
  have hsome : (loop? config.loopWindow config.loopRepeats (s.actions.map AgentAction.signature)).isSome = true ↔
      ∃ x, config.loopRepeats ≤ ((s.actions.map AgentAction.signature).rtake config.loopWindow).count x :=
    loopAmong?_isSome_iff hrepeats
  rw [← hsome, loops_observe]
  cases loop? config.loopWindow config.loopRepeats (s.actions.map AgentAction.signature) <;> simp

/-- **Which loops are reported.** Under accepted parameters a loop is reported exactly if some step occurs `loopRepeats`
times or more among the latest `loopWindow`. It is one loop then: that of the step that occurs most often, of several
the one met first, from the place in the whole list where it is first met among the latest to the end of the list, at
the risk that its share of the window makes. The tallies may be gone through in any order. -/
theorem loops_reported (hv : config.validate = .ok ()) (s : Snapshot) :
    let steps := s.actions.map AgentAction.signature
    let latest := steps.rtake config.loopWindow
    let activity := observe config s
    (activity.loops ≠ [] ↔ ∃ x, config.loopRepeats ≤ latest.count x) ∧
    (activity.loops = [] → activity.looping = 0) ∧
    (activity.loops ≠ [] → ∃ x place, Loops config.loopWindow config.loopRepeats steps x place ∧
      activity.looping
        = Scalar.clampUnit (Scalar.max (Float.ofNat (latest.count x) / Float.ofNat config.loopWindow) 0.6) ∧
      activity.loops = [.make .loopDetected ⟨place, s.actions.length⟩ activity.looping 1 "state.loop"]) ∧
    ∀ entries, entries.Perm (tallies latest) →
      loopAmong? config.loopRepeats (steps.length - latest.length) entries
        = loop? config.loopWindow config.loopRepeats steps := by
  intro steps latest activity
  obtain ⟨-, ⟨htwo, -⟩, -⟩ := StateMonitorConfig.validate_ok.mp hv
  have hloop : loop? config.loopWindow config.loopRepeats steps
      = loopAmong? config.loopRepeats (steps.length - config.loopWindow) (tallies latest) := rfl
  have hloops : activity.loops = match loop? config.loopWindow config.loopRepeats steps with
      | some (place, count) =>
        [.make .loopDetected ⟨place, s.actions.length⟩ (loopRisk count config.loopWindow) 1 "state.loop"]
      | none => [] := loops_observe config s
  have hlooping : activity.looping = match loop? config.loopWindow config.loopRepeats steps with
      | some (_, count) => loopRisk count config.loopWindow
      | none => 0 := looping_observe config s
  -- the window is the end of the list, also where that is shorter
  have hskipped : steps.length - latest.length = steps.length - config.loopWindow := by
    simp only [latest, List.rtake, List.length_drop]
    omega
  refine ⟨loops_ne_nil_iff (by omega), ?_, ?_, fun entries hentries => ?_⟩
  · rw [hloops, hlooping]
    cases loop? config.loopWindow config.loopRepeats steps <;> simp
  · intro hne
    cases hfound : loop? config.loopWindow config.loopRepeats steps with
    | none =>
      rw [hloops, hfound] at hne
      exact absurd rfl hne
    | some found =>
      obtain ⟨place, count⟩ := found
      obtain ⟨x, hx, hoften, rfl, rfl⟩ := (loopAmong?_eq_some_iff (.refl _)).mp (hloop ▸ hfound)
      rw [hfound] at hloops hlooping
      refine ⟨x, _, .of_leading hx hoften, hlooping, ?_⟩
      rw [hloops, hlooping]
  · rw [hskipped, hloop]
    exact loopAmong?_of_perm hentries

/-- An agent of which nothing but its steps is known. -/
def doing (actions : List AgentAction) : Snapshot := ⟨actions, 0, none, 0, none, 0⟩

/-- Among the latest ten steps two occur three times each; the one that is met first there is not the one that is met
first in the whole list. -/
theorem loops_reported_tie :
    let s := doing (["b", "b", "a", "b", "c", "a", "b", "a", "b", "c", "d", "e"].map fun tool => ⟨tool, "", true⟩)
    (StateMonitorConfig.standard : StateMonitorConfig).validate = .ok () ∧
      (∃ x, Loops 10 3 (s.actions.map AgentAction.signature) x 2) ∧
      (observe .standard s).looping = 0.6 ∧
      (observe .standard s).loops = [.make .loopDetected ⟨2, 12⟩ 0.6 1 "state.loop"] := by
  intro s
  have hv : (StateMonitorConfig.standard : StateMonitorConfig).validate = .ok () := by decide +kernel
  obtain ⟨hiff, -, hreport, -⟩ := loops_reported hv s
  obtain ⟨x, place, hx, -, hloops⟩ := hreport (hiff.mpr ⟨"a()", by decide +kernel⟩)
  have htie : (observe .standard s).loops = [.make .loopDetected ⟨2, 12⟩ 0.6 1 "state.loop"] := by decide +kernel
  obtain rfl : place = 2 := by
    have hspans := congrArg (List.map fun f : Finding => f.span.start) (hloops.symm.trans htie)
    simpa [Finding.make] using hspans
  exact ⟨hv, ⟨x, hx⟩, by decide +kernel, htie⟩

end Guardrail.Detect.Activity
