import Guardrail.Command.Run
import Guardrail.Proofs.Acceptance

/-!
What is reported on a file of rules.

A rule set is judged when its file is read, and one that is refused there does not load. What is left to report on is
acceptable and makes an engine, so that the words for rules that cannot be made ready are never printed: a set that is
refused ends the run like a file that states no rules at all.
-/

namespace Guardrail

namespace Rules.RuleSet

variable {path text : String} {r : RuleSet}

/-- The rule set that a file states, acceptable or not. The ending of the name says in which form it is. -/
def StatedIn (path text : String) (r : RuleSet) : Prop :=
  if ofFile.extension? path = some "json" then ofJsonText decoder text = .ok r
  else Guardrail.ofYaml decoder text = .ok r

lemma statedIn_json (h : ofFile.extension? path = some "json") :
    r.StatedIn path text ↔ ofJsonText decoder text = .ok r := by
  rw [StatedIn, if_pos h]

variable [Pattern.Dialect]

lemma ofFile_of_statedIn (h : r.StatedIn path text) : ofFile path text = r.validate.map fun _ => r := by
  have hjudged : (r.validate >>= fun _ => pure r) = r.validate.map fun _ => r := by
    cases r.validate <;> rfl
  have hparse : (if ofFile.extension? path == some "json" then Format.json else .yaml).parse decoder text = .ok r := by
    unfold StatedIn at h
    split at h
    · next hjson =>
      rw [if_pos (beq_iff_eq.mpr hjson), Format.parse]
      exact congrArg (Except.mapError _) h
    · next hyaml =>
      rwa [if_neg fun hjson => hyaml (beq_iff_eq.mp hjson)]
  rw [← hjudged, ofFile, ofText, hparse]
  rfl

/-- What is read of a file is stated in it and acceptable. -/
lemma validate_of_ofFile (h : ofFile path text = .ok r) : r.validate = .ok () := by
  obtain ⟨r', -, h⟩ := bind_ok.mp h
  obtain ⟨hvalid, h⟩ := check_ok.mp h
  exact Except.ok.inj h ▸ hvalid

end Rules.RuleSet

namespace Command

open Rules (RuleSet)

lemma Report.line_ne_empty (s : String) : line s ≠ "" := by
  intro h
  have hlength := congrArg String.length h
  simp [line] at hlength

/-- The words for rules that cannot be made ready. -/
lemma Report.ofRules_error_output (json : Bool) (r : RuleSet) (e : ConfigError) :
    (ofRules json r (.error e)).output ≠ "" := line_ne_empty _

namespace Sources

section

variable [Pattern.Dialect] {s : Sources} {json : Bool} {path text : String} {r : RuleSet}

/-- The second judgement always agrees with the first. -/
lemma validateRules_of_ok (h : s.rules (some path) = .ok r) (hvalid : r.validate = .ok ()) :
    s.validateRules json path = .ofRules json r (.ok ()) := by
  obtain ⟨e, he, -⟩ := Engine.ofRules_of_validate hvalid
  simp only [validateRules, h, he, Except.map]

lemma validateRules_of_error {t : Trouble} (h : s.rules (some path) = .error t) :
    s.validateRules json path = t.report := by
  simp only [validateRules, h]

lemma rules_of_statedIn (hfile : s.file path = .ok text) (h : r.StatedIn path text) :
    s.rules (some path) = (r.validate.map fun _ => r).mapError (.rules path) := by
  simp only [rules, hfile, RuleSet.ofFile_of_statedIn h]

lemma validate_of_rules (h : s.rules (some path) = .ok r) : r.validate = .ok () := by
  simp only [rules] at h
  split at h
  · cases h
  · exact RuleSet.validate_of_ofFile (mapError_ok h)

/-- **No rules are reported as invalid.** Whatever files there are, the words for rules that cannot be made ready are
not printed. -/
theorem validateRules_ne_invalid (s : Sources) (json : Bool) (path : String) (r : RuleSet) (e : ConfigError) :
    s.validateRules json path ≠ .ofRules json r (.error e) := by
  intro h
  cases hrules : s.rules (some path) with
  | error t =>
    rw [validateRules_of_error hrules] at h
    exact Report.ofRules_error_output json r e (congrArg Report.output h).symm
  | ok r' =>
    rw [validateRules_of_ok hrules (validate_of_rules hrules)] at h
    cases congrArg Report.exitCode h

/-- What is printed of rules that are acceptable. -/
def acceptance (json : Bool) (r : RuleSet) : String :=
  let p := r.patterns
  let counts : List (String × Json) :=
    [("injection", .ofNat p.injection.length), ("leak", .ofNat p.leak.length), ("pii", .ofNat p.pii.length)]
  if json then
    (Json.obj [("patterns", .obj counts), ("valid", .bool true), ("version", .str r.version)]).pretty ++ "\n"
  else
    s!"OK {r.version} ({p.pii.length} pii, {p.injection.length} injection, {p.leak.length} leak patterns)" ++ "\n"

/-- **Reports on rules.** For a file that states a rule set, acceptable or not: if the set is acceptable, the run says
so, with its version and the number of rules of each family, and succeeds. If the set is refused, the run fails, prints
nothing and complains that the file does not load, and why. In neither case is the set reported as invalid. -/
theorem reports_acceptable_rules (hfile : s.file path = .ok text) (hstated : r.StatedIn path text) (name : String)
    (common : Common) :
    ∃ report, s.course name ⟨common, .validateRules path⟩ = .ended report ∧
      (r.validate = .ok () → report = ⟨acceptance common.json r, none, Report.success⟩) ∧
      (∀ e, r.validate = .error e →
        report = ⟨"", some (Report.complaintText s!"Failed to load rules from {path}" e.causes), Report.failure⟩) ∧
      ∀ r' e, report ≠ .ofRules common.json r' (.error e) := by
  have hrules := rules_of_statedIn hfile hstated
  refine ⟨s.validateRules common.json path, rfl, fun hvalid => ?_, fun e hrefused => ?_,
    validateRules_ne_invalid s common.json path⟩
  · rw [hvalid] at hrules
    rw [validateRules_of_ok hrules hvalid]
    obtain ⟨json, rules⟩ := common
    cases json <;> rfl
  · rw [hrefused] at hrules
    exact validateRules_of_error hrules

end

/-- A file of rules of which no family has a rule. -/
def bareRules : String :=
  "\x7b\"version\":\"v1\",\"patterns\":\x7b\"pii\":[],\"injection\":[],\"leak\":[]\x7d\x7d"

/-- One file for every path. -/
def ofFile (text : String) : Sources := ⟨fun _ => .ok text, fun _ => none, .ok ""⟩

lemma extension?_rules : RuleSet.ofFile.extension? "r.json" = some "json" := by decide +kernel

theorem reports_acceptable_rules_bare : ∃ r : RuleSet, r.StatedIn "r.json" bareRules ∧ r.validate = .ok () ∧
    (ofFile bareRules).course "" ⟨⟨false, none⟩, .validateRules "r.json"⟩ =
      .ended ⟨"OK v1 (0 pii, 0 injection, 0 leak patterns)\n", none, 0⟩ := by
  obtain ⟨r, hread, hvalid, htext⟩ := exists_ok (x := ofJsonText RuleSet.decoder bareRules)
    (P := fun r => r.validate = .ok () ∧ acceptance false r = "OK v1 (0 pii, 0 injection, 0 leak patterns)\n")
    (by decide +kernel)
  have hstated : r.StatedIn "r.json" bareRules := (RuleSet.statedIn_json extension?_rules).mpr hread
  obtain ⟨report, hcourse, haccepted, -⟩ :=
    reports_acceptable_rules (show (ofFile bareRules).file "r.json" = .ok bareRules from rfl) hstated "" ⟨false, none⟩
  refine ⟨r, hstated, hvalid, ?_⟩
  rw [hcourse, haccepted hvalid]
  exact congrArg (fun output => Course.ended ⟨output, none, 0⟩) htext

/-- A file of rules that takes no text at all. -/
def tightRules : String := "\x7b\"version\":\"v2\",\"scoring\":\x7b\"max_text_bytes\":0\x7d\x7d"

/-- A rule set that is refused is not reported, neither in words nor as a document. -/
theorem refused_rules_unreported : ∃ (r : RuleSet) (e : ConfigError),
    r.StatedIn "r.json" tightRules ∧ r.validate = .error e ∧
    (Report.ofRules false r (.error e)).output = "INVALID v2: Invalid value for max_text_bytes: must be at least 1\n" ∧
    ∀ json, (ofFile tightRules).validateRules json "r.json" =
        ⟨"", some ("Error: Failed to load rules from r.json\n\nCaused by:\n"
          ++ "    Invalid value for max_text_bytes: must be at least 1"), Report.failure⟩ ∧
      (ofFile tightRules).validateRules json "r.json" ≠ .ofRules json r (.error e) := by
  obtain ⟨r, hread, hversion, hrefused⟩ := exists_ok (x := ofJsonText RuleSet.decoder tightRules)
    (P := fun r => r.version = "v2" ∧
      r.validate = .error (.invalidValue "max_text_bytes" "must be at least 1"))
    (by decide +kernel)
  have hstated : r.StatedIn "r.json" tightRules := (RuleSet.statedIn_json extension?_rules).mpr hread
  have hrules : (ofFile tightRules).rules (some "r.json") =
      .error (.rules "r.json" (.invalidValue "max_text_bytes" "must be at least 1")) := by
    rw [rules_of_statedIn rfl hstated, hrefused]
    rfl
  refine ⟨r, _, hstated, hrefused, ?_, fun json => ⟨?_, validateRules_ne_invalid _ _ _ _ _⟩⟩
  · calc (Report.ofRules false r (.error (.invalidValue "max_text_bytes" "must be at least 1"))).output
        = Report.line s!"INVALID {r.version}: {ConfigError.message _}" := rfl
      _ = _ := by
        rw [hversion]
        decide +kernel
  · rw [validateRules_of_error hrules]
    decide +kernel

end Sources

end Command

end Guardrail
