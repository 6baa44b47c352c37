import Guardrail.Engine
import Guardrail.Proofs.DoubleOrder
import Guardrail.Proofs.Located
import Guardrail.Proofs.Maps

/-!
What a stage comes to where some of its detectors fail.

A failure leaves a fault and a factor of value zero behind. All else is as if the detector had found nothing, since the
report that takes the place of a missing one is that of a detector that finds nothing, and the names of faults are none
of the names of sub-signals.
-/

namespace Guardrail

namespace Keyed

/-! ### Maps of different keys -/

variable {κ α : Type} [Ord κ] [Std.LawfulEqOrd κ]

lemma perm_set {k : κ} (v : α) {m : Keyed κ α} (h : k ∉ m.map (·.1)) : (m.set k v).Perm ((k, v) :: m) := by
  induction m with
  | nil => exact .refl _
  | cons x m ih =>
    obtain ⟨k', w⟩ := x
    obtain ⟨hne, hrest⟩ : k ≠ k' ∧ k ∉ m.map (·.1) := by simpa using h
    simp only [Keyed.set]
    split
    · exact .refl _
    · next heq => exact absurd (Std.LawfulEqOrd.eq_of_compare heq) hne
    · exact ((ih hrest).cons (k', w)).trans (.swap (k, v) (k', w) m)

lemma perm_foldl_set {pairs : List (κ × α)} {m : Keyed κ α} (h : ((pairs ++ m).map (·.1)).Nodup) :
    (pairs.foldl (fun m p => m.set p.1 p.2) m).Perm (pairs ++ m) := by
  induction pairs generalizing m with
  | nil => exact .refl _
  | cons p pairs ih =>
    obtain ⟨hfresh, hrest⟩ := List.nodup_cons.mp h
    -- only a key that is not there yet makes a new pair
    have hset : (m.set p.1 p.2).Perm (p :: m) :=
      perm_set p.2 fun hmem => hfresh (by simp [List.mem_map.mp hmem])
    have hmove : (pairs ++ m.set p.1 p.2).Perm (p :: pairs ++ m) :=
      (hset.append_left pairs).trans List.perm_middle
    exact (ih ((hmove.map (·.1)).nodup_iff.mpr h)).trans hmove

/-- The map of a list of pairs with different keys holds just those. -/
lemma perm_ofList {pairs : List (κ × α)} (h : (pairs.map (·.1)).Nodup) : (ofList pairs).Perm pairs := by
  simpa [ofList] using perm_foldl_set (m := []) (by simpa using h)

end Keyed

/-! ### Reports -/

namespace Detect

variable {α : Type}

/-- What a detector reports, which is nothing where it fails. -/
def reported (empty : α) : Except Failure α → α
  | .ok report => report
  | .error _ => empty

/-- Why a detector failed, if it did. -/
def failure? : Except Failure α → Option Failure
  | .ok _ => none
  | .error failure => some failure

/-- The report of a detector that finds nothing, in place of a failure. -/
def silenced (empty : α) (report : Except Failure α) : Except Failure α := .ok (reported empty report)

/-- Those that failed among detectors, in their order. -/
def failing (detectors : List (String × Option Failure)) : List (String × Failure) :=
  detectors.filterMap fun d => d.2.map fun failure => (d.1, failure)

/-- The record of a failure. -/
def fault (d : String × Failure) : DetectorFault := ⟨d.1, d.2.message⟩

@[simp] lemma reported_ok (empty report : α) : reported empty (.ok report) = report := rfl

@[simp] lemma detector_comp_fault : DetectorFault.detector ∘ fault = Prod.fst := rfl

@[simp] lemma failing_nil : failing [] = [] := rfl

@[simp] lemma failing_cons (d : String × Option Failure) (ds : List (String × Option Failure)) :
    failing (d :: ds) = (d.2.map fun failure => (d.1, failure)).toList ++ failing ds := by
  obtain ⟨name, _ | failure⟩ := d <;> rfl

lemma sublist_failing (ds : List (String × Option Failure)) :
    ((failing ds).map (·.1)).Sublist (ds.map (·.1)) := by
  induction ds with
  | nil => exact .refl _
  | cons d ds ih =>
    obtain ⟨name, _ | failure⟩ := d
    · exact ih.cons name
    · exact ih.cons_cons name

section

variable (detector : String) (empty : α) (report : Except Failure α)

@[simp] lemma guarded_fst : (guarded detector empty report).1 = reported empty report := by
  cases report <;> rfl

@[simp] lemma guarded_snd : (guarded detector empty report).2.toList
    = ((failure? report).map fun failure => (detector, failure)).toList.map fault := by
  cases report <;> rfl

end

end Detect

open Detect

/-- The detectors of the input guard that failed. -/
def InputGuard.Reports.failures (r : Reports) : List (String × Failure) :=
  failing [("pii", failure? r.pii), ("injection", failure? r.injection)]

/-- The same reports where those that failed found nothing. -/
def InputGuard.Reports.silenced (r : Reports) : Reports := ⟨Detect.silenced [] r.pii, Detect.silenced [] r.injection⟩

/-- The detectors of the output guard that failed. -/
def OutputGuard.Reports.failures (r : Reports) : List (String × Failure) :=
  failing <| [("leak", failure? r.leak)] ++ (r.echo.map fun report => ("prompt_echo", failure? report)).toList
    ++ [("pii", failure? r.pii), ("validation", failure? r.validation)]

/-- The same reports where those that failed found nothing. -/
def OutputGuard.Reports.silenced (r : Reports) : Reports :=
  ⟨Detect.silenced [] r.leak, r.echo.map (Detect.silenced []), Detect.silenced [] r.pii,
    Detect.silenced .clean r.validation⟩

/-! ### Scores -/

namespace Signal

variable {ν : Type} [Scalar ν] [Scalar.Ordered ν] (layer : Layer) (signals : List (Signal ν)) (dominant : String)
  (floor : Bool) (t : Thresholds ν)

/-- The factors of a score are its sub-signals and, at zero, the detectors that failed. -/
lemma perm_factors_combine {failed : List String} (h : (signals.map (·.name) ++ failed.map faultFactor).Nodup) :
    (combine layer signals dominant floor failed t).factors.Perm
      ((signals.map fun s => (s.name, Scalar.clampUnit s.value)) ++ failed.map fun d => (faultFactor d, 0)) := by
  have hnumber : Scalar.isNaN (0 : ν) = false := (Scalar.Ordered.isNaN_of_le Scalar.zero_le_one).1
  have hzero : Scalar.clampUnit (0 : ν) = 0 := Scalar.clampUnit_of_mem (Scalar.le_refl hnumber) Scalar.zero_le_one
  have hkeys : ((signals.map (fun s => (s.name, s.value)) ++ failed.map fun d => (faultFactor d, (0 : ν))).map
      (·.1)).Nodup := by
    simpa [Function.comp_def] using h
  have hperm := (Keyed.perm_ofList hkeys).map fun p => (p.1, Scalar.clampUnit p.2)
  simpa [combine, RiskScore.make, Keyed.mapValues, Function.comp_def, hzero] using hperm

omit [Scalar.Ordered ν] in
lemma explanation_combine (failed : List String) :
    (combine layer signals dominant floor failed t).explanation
      = (combine layer signals dominant floor [] t).explanation
        ++ if failed.isEmpty then "" else "; faulted detectors: " ++ ", ".intercalate failed := by
  simp [combine, RiskScore.make, explain]

end Signal

/-! ### Assessments -/

namespace Assessment

/-- What failures change of an assessment without faults: each leaves a fault and one factor of value zero, and the
words for the score name it. -/
structure Isolates (failures : List (String × Failure)) (calm a : Assessment) : Prop where
  faultless : calm.faults = []
  faults : a.faults = failures.map fault
  /-- The layer, the value and the level are the same. -/
  score : a.score = { calm.score with factors := a.score.factors, explanation := a.score.explanation }
  factors : a.score.factors.Perm (calm.score.factors ++ failures.map fun d => (Signal.faultFactor d.1, 0))
  once : (a.score.factors.map (·.1)).Nodup
  explanation : a.score.explanation = calm.score.explanation ++
    if failures.isEmpty then "" else "; faulted detectors: " ++ ", ".intercalate (failures.map (·.1))
  findings : a.findings = calm.findings
  redacted : a.redacted = calm.redacted

variable {failures : List (String × Failure)} {signals : List Signal} {names : List String}

/-- Failures of detectors that are not named like a sub-signal are isolated. -/
lemma isolates_combine (hsignals : signals.map (·.name) = names)
    (h : (names ++ failures.map fun d => Signal.faultFactor d.1).Nodup) (layer : Layer) (dominant : String)
    (floor : Bool) (t : Thresholds) (findings : List Finding) (redacted : Option String) :
    Isolates failures ⟨Signal.combine layer signals dominant floor [] t, findings, redacted, []⟩
      ⟨Signal.combine layer signals dominant floor (failures.map (·.1)) t, findings, redacted,
        failures.map fault⟩ := by
  subst hsignals
  have hnames : (signals.map (·.name) ++ (failures.map (·.1)).map Signal.faultFactor).Nodup := by
    simpa [Function.comp_def] using h
  have hall := Signal.perm_factors_combine layer signals dominant floor t hnames
  have hsignals : (signals.map (·.name) ++ ([] : List String).map Signal.faultFactor).Nodup := by
    simpa using (List.nodup_append.mp hnames).1
  have hcalm := Signal.perm_factors_combine layer signals dominant floor t hsignals
  refine ⟨rfl, rfl, rfl, hall.trans ?_, ?_, ?_, rfl, rfl⟩
  · simpa [Function.comp_def] using hcalm.symm.append_right _
  · rw [(hall.map (·.1)).nodup_iff]
    simpa [Function.comp_def] using h
  · simpa using Signal.explanation_combine layer signals dominant floor t (failures.map (·.1))

end Assessment

/-! ### Stages -/

/-- The names of the sub-signals of a stage are none of those of its faults, which are different. -/
lemma nodup_factors (names detectors : List String) (h : (names ++ detectors.map Signal.faultFactor).Nodup)
    {ds : List (String × Option Failure)} (hds : (ds.map (·.1)).Sublist detectors) :
    (names ++ (failing ds).map fun d => Signal.faultFactor d.1).Nodup := by
  have hfailing := ((sublist_failing ds).trans hds).map Signal.faultFactor
  rw [List.map_map] at hfailing
  exact (hfailing.append_left names).nodup h

namespace InputGuard

lemma assemble_eq (config : InputGuardConfig) (t : Thresholds) (text : List Char) (r : Reports) :
    assemble config t text r =
      { score := score config t (Finding.piiRisk (reported [] r.pii) config.piiNormalization)
          (Finding.injectionRisk (reported [] r.injection)) (r.failures.map (·.1))
        findings := Assessment.merge [reported [] r.pii, reported [] r.injection]
        redacted := if config.redact then some (String.ofList (Finding.redact text (reported [] r.pii))) else none
        faults := r.failures.map fault } := by
  simp [assemble, Reports.failures]

lemma isolates_assemble (config : InputGuardConfig) (t : Thresholds) (text : List Char) (r : Reports) :
    Assessment.Isolates r.failures (assemble config t text r.silenced) (assemble config t text r) := by
  have hnames : (["pii_risk", "injection_risk"] ++ r.failures.map fun d => Signal.faultFactor d.1).Nodup :=
    nodup_factors _ ["pii", "injection"] (by decide +kernel) (.refl _)
  rw [assemble_eq, assemble_eq]
  exact Assessment.isolates_combine (by rfl) hnames ..

end InputGuard

namespace StateMonitor

lemma assemble_eq (config : StateMonitorConfig) (t : Thresholds) (report : Except Failure Activity) :
    let activity := reported .quiet report
    let failures := failing [("state", failure? report)]
    assemble config t report =
      { score := score config t activity.looping activity.cost activity.progress (failures.map (·.1))
        findings := Assessment.merge [activity.findings]
        redacted := none
        faults := failures.map fault } := by
  cases report <;> rfl

lemma isolates_assemble (config : StateMonitorConfig) (t : Thresholds) (report : Except Failure Activity) :
    Assessment.Isolates (failing [("state", failure? report)])
      (assemble config t (Detect.silenced .quiet report)) (assemble config t report) := by
  have hnames := nodup_factors ["loop_risk", "cost_risk", "progress_risk"] ["state"] (by decide +kernel)
    (.refl ([("state", failure? report)].map (·.1)))
  rw [assemble_eq, assemble_eq]
  exact Assessment.isolates_combine (by rfl) hnames ..

end StateMonitor

namespace OutputGuard

lemma assemble_eq (config : OutputGuardConfig) (t : Thresholds) (answer : OutputPayload) (r : Reports) :
    let leaks := reported [] r.leak ++ reported [] (r.echo.getD (.ok []))
    let newPii := (reported [] r.pii).filter (isNew answer.text.toList (answer.inputText.getD "").toList)
    let validation := reported .clean r.validation
    assemble config t answer r =
      { score := score config t (Finding.leakRisk leaks) validation.risk
          (Finding.piiRisk newPii config.piiNormalization) (r.failures.map (·.1))
        findings := Assessment.merge [leaks, newPii, validation.findings]
        redacted := none
        faults := r.failures.map fault } := by
  obtain ⟨leak, _ | echo, pii, validation⟩ := r
  · simp [assemble, Reports.failures]
  · simp [assemble, Reports.failures]

lemma isolates_assemble (config : OutputGuardConfig) (t : Thresholds) (answer : OutputPayload) (r : Reports) :
    Assessment.Isolates r.failures (assemble config t answer r.silenced) (assemble config t answer r) := by
  have hnames : (["leak_risk", "validation_risk", "new_pii_risk"]
      ++ r.failures.map fun d => Signal.faultFactor d.1).Nodup := by
    refine nodup_factors _ ["leak", "prompt_echo", "pii", "validation"] (by decide +kernel) ?_
    -- without a prompt there is no detector of its echoes
    cases r.echo
    · exact (List.Sublist.refl ["pii", "validation"]).cons "prompt_echo" |>.cons_cons "leak"
    · exact .refl _
  have hecho : reported [] (r.silenced.echo.getD (.ok [])) = reported [] (r.echo.getD (.ok [])) := by
    obtain ⟨-, _ | _, -, -⟩ := r <;> rfl
  have hcalm : r.silenced.failures = [] := by
    obtain ⟨-, _ | _, -, -⟩ := r <;> rfl
  rw [assemble_eq, assemble_eq, hecho, hcalm]
  exact Assessment.isolates_combine (by rfl) hnames ..

end OutputGuard

/-! ### Schemas that cannot be made ready -/

/-- A schema that cannot be made ready is a failure only for a text that is short enough and not blank. -/
lemma Detect.validate_invalid {checker : Schema.Checker} {schema : Json} {message : String}
    (h : checker.compile schema = .error message) (risk : Float) (limit : ℕ) (text : List Char) :
    validate checker risk limit text (some schema) =
      if Text.byteLength text ≤ limit ∧ (Text.trim text).isEmpty = false then .error (.invalidSchema message)
      else validate checker risk limit text none := by
  rcases Nat.lt_or_ge limit (Text.byteLength text) with hlong | hlen
  · rw [if_neg (by omega)]
    simp [validate, checkSize, hlong, bind, Except.bind]
  · cases hblank : (Text.trim text).isEmpty
    · simp [validate, checkSize_ok hlen, hlen, hblank, h, bind, Except.bind, throw, throwThe, MonadExceptOf.throw]
    · simp [validate, hblank]

namespace OutputGuard

variable (rules : Rules.CompiledLibrary) (checker : Schema.Checker) (config : OutputGuardConfig) (limit : ℕ)
  (memo : Luhn.Memo) (answer : OutputPayload)

/-- What the detectors report of an answer, which is held against a schema if there is one. -/
def reports (schema : Option Json) : Reports where
  leak := (Detect.leak rules.leak limit answer.text.toList).mapError .refused
  echo := answer.systemPrompt.map fun prompt =>
    (promptEcho prompt.toList config.promptNgram limit answer.text.toList).mapError .refused
  pii := (Detect.pii rules.pii limit memo answer.text.toList).1.mapError .refused
  validation := (validate checker config.emptyRisk limit answer.text.toList schema).mapError .refused

variable {checker limit answer} {schema : Json} {message : String}

/-- Of the detectors of an answer that is short enough only validation fails. -/
lemma reports_invalid (h : checker.compile schema = .error message)
    (hlen : Text.byteLength answer.text.toList ≤ limit) (hblank : (Text.trim answer.text.toList).isEmpty = false) :
    (reports rules checker config limit memo answer (some schema)).failures =
      [("validation", .refused (.invalidSchema message))] ∧
    (reports rules checker config limit memo answer (some schema)).silenced =
      reports rules checker config limit memo answer none := by
  choose echoed hechoed _ using fun prompt : String =>
    exists_located_promptEcho prompt.toList config.promptNgram hlen
  have hnone : validate checker config.emptyRisk limit answer.text.toList none = .ok .clean := by
    simp [validate, checkSize_ok hlen, hblank, bind, Except.bind, pure, Except.pure]
  have hsome : validate checker config.emptyRisk limit answer.text.toList (some schema) =
      .error (.invalidSchema message) := by
    rw [validate_invalid h, if_pos ⟨hlen, hblank⟩]
  unfold reports
  rw [leak_eq rules.leak hlen, pii_of_le rules.pii memo hlen, hnone, hsome]
  simp only [hechoed]
  cases answer.systemPrompt <;> exact ⟨rfl, rfl⟩

end OutputGuard

namespace Assessment

/-- **Faults are isolated.** Whatever a stage sees and however its detectors end, the stage is assessed; it has a fault
and a factor of value zero for each detector that failed, and all else is as where those that failed found nothing. So
it is in particular for an answer with a schema that cannot be made ready: beside the same answer without one, it has
the fault of validation, unless its text is blank or too long for validation to come to the schema. -/
theorem faults_isolated :
    (∀ config t text (r : InputGuard.Reports),
      Isolates r.failures (InputGuard.assemble config t text r.silenced) (InputGuard.assemble config t text r)) ∧
    (∀ config t (report : Except Failure Activity),
      Isolates (failing [("state", failure? report)]) (StateMonitor.assemble config t (Detect.silenced .quiet report))
        (StateMonitor.assemble config t report)) ∧
    (∀ config t answer (r : OutputGuard.Reports),
      Isolates r.failures (OutputGuard.assemble config t answer r.silenced)
        (OutputGuard.assemble config t answer r)) ∧
    ∀ (e : Engine) (memo : Luhn.Memo) (answer : OutputPayload) (schema : Json) (message : String),
      e.checker.compile schema = .error message →
      let assessed (s : Option Json) := (e.assess memo (.output { answer with expectedSchema := s })).1
      if Text.byteLength answer.text.toList ≤ e.config.maxTextBytes ∧ (Text.trim answer.text.toList).isEmpty = false
      then Isolates [("validation", .refused (.invalidSchema message))] (assessed none) (assessed (some schema))
      else assessed (some schema) = assessed none := by
  refine ⟨InputGuard.isolates_assemble, StateMonitor.isolates_assemble, OutputGuard.isolates_assemble,
    fun e memo answer schema message h => ?_⟩
  have hassess (s : Option Json) : (e.assess memo (.output { answer with expectedSchema := s })).1
      = OutputGuard.assemble e.config.outputGuard e.config.thresholds answer
        (OutputGuard.reports e.rules e.checker e.config.outputGuard e.config.maxTextBytes memo answer s) := rfl
  simp only [hassess]
  split
  · next hread =>
    obtain ⟨hfailures, hsilenced⟩ := OutputGuard.reports_invalid e.rules e.config.outputGuard memo h hread.1 hread.2
    rw [← hfailures, ← hsilenced]
    exact OutputGuard.isolates_assemble ..
  · next hunread =>
    -- validation ends before it comes to the schema, so that all reports are the same
    have hvalidate := validate_invalid h e.config.outputGuard.emptyRisk e.config.maxTextBytes answer.text.toList
    rw [if_neg hunread] at hvalidate
    simp only [OutputGuard.reports, hvalidate]

/-- Reports on an answer with a key in it: the detectors of echoes and of personal data fail. -/
def halfReported : OutputGuard.Reports where
  leak := .ok [.make .dataLeak ⟨0, 2⟩ 1 1 "leak.key"]
  echo := some (.error (.brokeDown none))
  pii := .error (.refused (.failed "out of memory"))
  validation := .ok .clean

/-- The key is found though two detectors fail; and a schema that names no type is a fault of its own. -/
theorem faults_isolated_two :
    let e : Engine := ⟨"1", .standard, ⟨[], [], []⟩, .byDrafts⟩
    let assembled := OutputGuard.assemble e.config.outputGuard e.config.thresholds (.plain "{}")
    let assessed (s : Option Json) := (e.assess [] (.output { OutputPayload.plain "{}" with expectedSchema := s })).1
    let schema : Json := .obj [("type", .num (.nat 12))]
    Isolates [("prompt_echo", .brokeDown none), ("pii", .refused (.failed "out of memory"))]
        (assembled halfReported.silenced) (assembled halfReported) ∧
      (assembled halfReported).faults = [⟨"prompt_echo", "panic"⟩, ⟨"pii", "Detector failed: out of memory"⟩] ∧
      (assembled halfReported).findings = [.make .dataLeak ⟨0, 2⟩ 1 1 "leak.key"] ∧
      Isolates [("validation", .refused (.invalidSchema "not a schema"))] (assessed none) (assessed (some schema)) ∧
      (assessed (some schema)).faults = [⟨"validation", "Invalid schema: not a schema"⟩] := by
  intro e assembled assessed schema
  have hschema : e.checker.compile schema = .error "not a schema" := rfl
  have hread : Text.byteLength "{}".toList ≤ e.config.maxTextBytes ∧ (Text.trim "{}".toList).isEmpty = false := by
    decide +kernel
  obtain ⟨-, -, houtput, hassess⟩ := faults_isolated
  have htwo := houtput e.config.outputGuard e.config.thresholds (.plain "{}") halfReported
  have hone : Isolates [("validation", .refused (.invalidSchema "not a schema"))] (assessed none)
      (assessed (some schema)) := (if_pos hread).mp (hassess e [] (.plain "{}") schema "not a schema" hschema)
  exact ⟨htwo, htwo.faults, by decide +kernel, hone, hone.faults⟩

end Assessment

end Guardrail
