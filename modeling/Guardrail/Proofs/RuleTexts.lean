import Guardrail.Proofs.YamlNodes

/-!
Rule sets are read back from the texts that are written for them.

A form of texts gives a value back if what it reads of the text of the value reproduces the value. Nothing else about
a form matters: a rule set that is accepted is decoded from every document that reproduces its value. JSON, compact or
pretty, and YAML are such forms, if the keys are short enough to be taken for keys, the counts fit into the numbers of
a text, and the readers of numbers give back the doubles.
-/

namespace Guardrail.Json

/-- The keys are short, and the numbers are doubles or whole numbers of sixty-four bits. -/
structure Bounded (j : Json) : Prop where
  keys : ∀ k ∈ j.keys, k.length ≤ 100
  numbers : ∀ n ∈ j.numbers, (∃ x, n = .float x) ∨ ∃ k < 2 ^ 64, n = .nat k

lemma bounded_iff {j : Json} : j.Bounded ↔ (∀ k ∈ j.keys, k.length ≤ 100) ∧ j.Sized :=
  ⟨fun h => ⟨h.keys, h.numbers⟩, fun h => ⟨h.1, h.2⟩⟩

@[simp] lemma bounded_bool (b : Bool) : (Json.bool b).Bounded := ⟨nofun, nofun⟩

@[simp] lemma bounded_str (s : String) : (Json.str s).Bounded := ⟨nofun, nofun⟩

@[simp] lemma bounded_ofFloat (x : Float) : (Json.ofFloat x).Bounded := bounded_iff.mpr ⟨nofun, sized_ofFloat x⟩

@[simp] lemma bounded_ofNat (n : ℕ) : (Json.ofNat n).Bounded ↔ n < 2 ^ 64 := by
  rw [bounded_iff, sized_ofNat]
  exact and_iff_right nofun

@[simp] lemma bounded_arr (items : List Json) :
    (Json.arr items).Bounded ↔ ∀ j ∈ items, j.Bounded := by
  simp only [bounded_iff, forall_keys_arr, sized_arr, forall₂_and]

@[simp] lemma bounded_obj (members : List (String × Json)) :
    (Json.obj members).Bounded ↔ ∀ m ∈ members, m.1.length ≤ 100 ∧ m.2.Bounded := by
  simp only [bounded_iff, forall_keys_obj, sized_obj, forall₂_and, and_assoc]

end Guardrail.Json

namespace Guardrail

lemma ScoringConfig.bounded_toJson {c : ScoringConfig} (h : c.Sized) : c.toJson.Bounded := by
  obtain ⟨hcapacity, hwindow, hrepeats, hprogress, hngram, hbytes⟩ := h
  simp +decide [toJson, Thresholds.toJson, InputGuardConfig.toJson, StateMonitorConfig.toJson, OutputGuardConfig.toJson,
    AggregationConfig.toJson, EscalationConfig.toJson]
  omega

namespace Rules

lemma RuleSet.bounded_toJson {r : RuleSet} (h : r.scoring.Sized) : r.toJson.Bounded := by
  simp +decide [toJson, Library.toJson, Definition.toJson, ScoringConfig.bounded_toJson h]

end Rules

namespace Format

/-- A form of texts gives a value back: what it reads of the text of the value is the whole text, and reproduces the
value. -/
def Keeps (form : Format) (j : Json) : Prop :=
  ∃ d, form.read (form.write j) = (d, true) ∧ Decode.Reproduces form.origin j d

variable {j : Json}

lemma keeps_json (hbounded : j.Bounded) (hfloats : ∀ x ∈ j.floats, (Json.Number.float x).ReadsBack) :
    json.Keeps j ∧ prettyJson.Keeps j := by
  obtain ⟨hcompact, hpretty⟩ := Json.read_chars j (Json.Sized.readsBack hbounded.numbers hfloats)
  refine ⟨⟨j.toDocument, ?_, Decode.reproduces_toDocument .text j⟩, j.toDocument, ?_,
    Decode.reproduces_toDocument .text j⟩
  · simpa [json, Json.compact] using hcompact
  · simpa [json, prettyJson, Json.pretty] using hpretty

/-- Of values that are written as YAML only records are read back here. -/
lemma keeps_yaml {m : String × Json} {ms : List (String × Json)} (hj : j = .obj (m :: ms)) (hbounded : j.Bounded)
    (hfloats : ∀ x ∈ j.floats, Yaml.ReadsBack x) : yaml.Keeps j := by
  -- a simple key may not be longer than 1024 characters
  have hkeys : ∀ k ∈ j.keys, (Yaml.textChars k).length ≤ 1024 := by
    intro k hk
    have hlength := Yaml.Scan.length_textChars_le k
    have hshort := hbounded.keys k hk
    omega
  have hdocument : Yaml.document? (Yaml.write j) = some (Yaml.node j).toDocument := by
    subst hj
    rw [Yaml.document?, Yaml.root?_write hkeys]
    rfl
  refine ⟨(Yaml.node j).toDocument, ?_, Yaml.reproduces_node fun _ hn x hx => hfloats x (Json.mem_floats (hx ▸ hn))⟩
  simp only [yaml, hdocument]

end Format

namespace Rules

/-- **Rule sets as texts.** A rule set that is accepted, with counts of sixty-four bits, is read from the text that is
written for it and accepted as it was, in every form of texts that gives its value back. -/
theorem RuleSet.reads_back [Pattern.Dialect] {r : RuleSet} (h : r.validate = .ok ()) (hsized : r.scoring.Sized)
    {form : Format} (hkeeps : form.Keeps r.toJson) : ofText form (r.toText form) = .ok r := by
  obtain ⟨d, hread, hd⟩ := hkeeps
  have hdecode : form.decode decoder (r.toText form) = .ok r := by
    simp [Format.decode, toText, hread, RuleSet.recovers h hsized form.origin d hd, bind, Except.bind, pure, Except.pure]
  simp [ofText, Format.parse, hdecode, h, Except.mapError, bind, Except.bind, pure, Except.pure]

instance (x : Float) : Decidable (Yaml.ReadsBack x) := inferInstanceAs (Decidable (_ = _))

/-- A rule set of its own: texts that look like something else, no rule in one family. -/
def customRules : RuleSet where
  version := "007"
  patterns := ⟨[⟨"null", .phone, "a: \t#", 0.1, 0.25⟩], [⟨"true", .ssn, "'b'", 1, 0⟩], []⟩
  scoring := { ScoringConfig.standard with hardBlock := [.ssn, .phone], maxTextBytes := 123456789 }

theorem RuleSet.reads_back_custom : customRules.validate = .ok () ∧ customRules.scoring.Sized ∧
    ∀ form ∈ [Format.yaml, Format.json, Format.prettyJson], form.Keeps customRules.toJson ∧
      ofText form (customRules.toText form) = .ok customRules := by
  have hvalid : customRules.validate = .ok () := by decide +kernel
  have hsized : customRules.scoring.Sized := ⟨by decide, by decide, by decide, by decide, by decide, by decide⟩
  have hbounded := RuleSet.bounded_toJson hsized
  obtain ⟨hjson, hpretty⟩ := Format.keeps_json hbounded (by decide +kernel)
  refine ⟨hvalid, hsized, fun form hform => ?_⟩
  have hkeeps : form.Keeps customRules.toJson := by
    simp only [List.mem_cons, List.not_mem_nil, or_false] at hform
    rcases hform with rfl | rfl | rfl
    · exact Format.keeps_yaml rfl hbounded (by decide +kernel)
    · exact hjson
    · exact hpretty
  exact ⟨hkeeps, RuleSet.reads_back hvalid hsized hkeeps⟩

end Rules

end Guardrail
