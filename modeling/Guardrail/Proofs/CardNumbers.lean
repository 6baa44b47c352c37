import Guardrail.Proofs.Blocking
import Guardrail.Proofs.CardPattern

/-!
Which card numbers block a request under the built-in rules.

A candidate is judged as a whole: all its digits make one number. No other built-in rule ranks as high as the one for
card numbers, so that a candidate that passes is never dropped for a match that overlaps it, and nothing else blocks.
A card number that is a word of its own lies within a candidate, but is judged by itself only if no blank or hyphen
joins it to another digit.
-/

namespace Guardrail

open Pattern

/-! ### The built-in rules -/

/-- Whether characters are those of a pattern that is not refused. -/
def Pattern.readable (cs : List Char) : Bool :=
  match alternatives (2 * cs.length + 2) maxNesting ⟨.initial, [], [], []⟩ cs with
  | .ok (got, rest) => rest.isEmpty && decide (got.regex.cost ≤ Regex.maxCost)
  | .error _ => false

/-- A pattern is looked at character by character here: to take a long literal apart by computation is costly. -/
lemma Pattern.exists_read {text : String} {cs : List Char} (htext : text = String.ofList cs)
    (h : readable cs = true) : ∃ r, read text = .ok r := by
  have hcs : text.toList = cs := by rw [htext, String.toList_ofList]
  unfold readable at h
  unfold read
  rw [hcs]
  split at h
  · next got rest hread =>
    obtain ⟨hrest, hcost⟩ := (Bool.and_eq_true ..).mp h
    have hcost : ¬ got.regex.cost > Regex.maxCost := Nat.not_lt.mpr (of_decide_eq_true hcost)
    exact ⟨got.regex, bind_ok.mpr ⟨_, hread, by simp only [hrest, Bool.not_true, if_neg hcost]; rfl⟩⟩
  · cases h

lemma Pattern.search_of_read {text : String} {r : Regex} (h : read text = .ok r) :
    Dialect.search text = .ok (Program.ofRegex r).occurrences := by
  simp only [Dialect.search, h]

namespace Rules

/-- The built-in rule for card numbers. -/
def cardDefinition : Definition :=
  ⟨"pii.credit_card", .creditCard, "\\b(?:\\d[ -]?)\x7b12,18\x7d\\d\\b", 0.95, 1.0⟩

set_option maxRecDepth 10000 in
lemma read_builtin : ∀ d ∈ Library.builtin.all, ∃ r, Pattern.read d.pattern = .ok r := by
  simp only [Library.all, Library.builtin, personalData, injectionTechniques, secretLeaks, List.cons_append,
    List.nil_append, List.forall_mem_cons]
  iterate 20 refine ⟨exists_read rfl (by decide +kernel), ?_⟩
  exact List.forall_mem_nil _

lemma validate_builtin : RuleSet.builtin.validate = .ok () := by
  have hworth : ∀ d ∈ Library.builtin.all,
      (0 ≤ d.confidence ∧ d.confidence ≤ 1) ∧ (0 ≤ d.severity ∧ d.severity ≤ 1) := by decide +kernel
  have hnodup : (Library.builtin.all.map (·.id)).Nodup := by decide +kernel
  refine RuleSet.validate_ok.mpr ⟨by decide +kernel, by decide +kernel, ?_⟩
  refine validateFrom_ok.mpr ⟨fun d hd => ?_, hnodup⟩
  obtain ⟨hconfidence, hseverity⟩ := hworth d hd
  obtain ⟨r, hr⟩ := read_builtin d hd
  exact ⟨List.not_mem_nil, _, Definition.compile_ok.mpr ⟨hconfidence, hseverity, _, search_of_read hr, rfl⟩⟩

lemma eq_cardDefinition : ∀ d ∈ personalData, d.category = .creditCard → d = cardDefinition := by decide

/-- Every other rule for personal data is less severe or, at the same severity, less sure. -/
lemma cardDefinition_first : ∀ d ∈ personalData, d.category ≠ .creditCard →
    (compare (totalOrder (Scalar.clampUnit cardDefinition.severity)) (totalOrder (Scalar.clampUnit d.severity))).then
      (compare (totalOrder (Scalar.clampUnit cardDefinition.confidence)) (totalOrder (Scalar.clampUnit d.confidence)))
      = .gt := by
  decide

lemma category_injection : ∀ d ∈ injectionTechniques, d.category ≠ .creditCard := by decide

variable {c : CompiledLibrary} {r : Compiled} {text : List Char} {s : Span}

/-- A rule made ready is worth what its definition says. -/
lemma worth_of_compile {d : Definition} (h : d.compile = .ok r) :
    r.category = d.category ∧ r.severity = d.severity ∧ r.confidence = d.confidence := by
  obtain ⟨-, -, find, -, rfl⟩ := Definition.compile_ok.mp h
  exact ⟨rfl, rfl, rfl⟩

lemma find_of_compile (h : cardDefinition.compile = .ok r) : r.find = cardProgram.occurrences := by
  obtain ⟨-, -, find, hfind, rfl⟩ := Definition.compile_ok.mp h
  exact Except.ok.inj (hfind.symm.trans (search_of_read read_card))

/-- Among the rules made ready is the one for card numbers. -/
lemma exists_cardRule (h : Library.builtin.compile = .ok c) : ∃ r ∈ c.pii, cardDefinition.compile = .ok r :=
  (exists_of_mapM_ok (Library.compile_ok.mp h).1).1 cardDefinition (List.mem_of_getElem? (i := 3) rfl)

lemma compile_of_category (h : Library.builtin.compile = .ok c) (hr : r ∈ c.pii) (hcard : r.category = .creditCard) :
    cardDefinition.compile = .ok r := by
  obtain ⟨d, hd, hcompile⟩ := (exists_of_mapM_ok (Library.compile_ok.mp h).1).2 r hr
  rwa [eq_cardDefinition d hd ((worth_of_compile hcompile).1.symm.trans hcard)] at hcompile

end Rules

namespace Detect

variable {c : Rules.CompiledLibrary} {text : List Char} {f m : Finding}

/-- What ranks no lower than a card number is one. -/
lemma category_of_ranksBefore (h : Rules.Library.builtin.compile = .ok c) (hf : f ∈ confirmedFindings c.pii text)
    (hm : m ∈ confirmedFindings c.pii text) (hcard : m.category = .creditCard) (hbefore : f.RanksBefore m) :
    f.category = .creditCard := by
  obtain ⟨r, hr, s, -, -, rfl⟩ := mem_confirmedFindings.mp hf
  obtain ⟨card, hcardr, t, -, -, rfl⟩ := mem_confirmedFindings.mp hm
  obtain ⟨d, hd, hcompile⟩ := (exists_of_mapM_ok (Rules.Library.compile_ok.mp h).1).2 r hr
  obtain ⟨hcategory, hseverity, hconfidence⟩ := Rules.worth_of_compile hcompile
  obtain ⟨-, hseverity', hconfidence'⟩ := Rules.worth_of_compile (Rules.compile_of_category h hcardr hcard)
  by_contra hother
  have hfirst := Rules.cardDefinition_first d hd (hcategory ▸ hother)
  rw [← hseverity, ← hconfidence, ← hseverity', ← hconfidence', Ordering.then_eq_gt] at hfirst
  simp only [Finding.RanksBefore, Finding.precedence, Rules.Compiled.finding, Finding.make] at hbefore
  rcases hfirst with hgt | ⟨heq, hgt⟩
  · simp [hgt] at hbefore
  · simp [heq, hgt] at hbefore

/-- A candidate is judged by all its digits. -/
lemma confirms_iff {r : Rules.Compiled} (hcard : r.category = .creditCard) (a w c : List Char) :
    confirms r (a ++ w ++ c) ⟨Text.byteLength a, Text.byteLength (a ++ w)⟩ = true ↔
      Luhn.hasCardLength (Luhn.normalize w) = true ∧ Luhn.valid (Luhn.normalize w) = true := by
  simp only [confirms, Text.slice?_append, Option.getD_some, hcard, confirmed, Bool.and_eq_true]

/-- Attempts to take the agent over are found in the categories of their rules. -/
lemma category_of_revealed {rules : List Rules.Compiled} (hf : f ∈ revealed rules text) :
    ∃ r ∈ rules, f.category = r.category := by
  obtain ⟨r, hr, s, rfl⟩ := foundBy_of_revealed hf
  exact ⟨r, hr, rfl⟩

end Detect

namespace Engine

/-! ### Blocks -/

/-- The input stage reports a block for a card number. -/
def BlocksCard (e : Engine) (memo : Luhn.Memo) (stages : StageInputs) (context : RequestContext) : Prop :=
  ∃ b, (e.evaluate memo stages context).1.hardBlock = some b ∧ b.layer = .inputGuard ∧ b.category = .creditCard

variable {e : Engine} {memo : Luhn.Memo} {stages : StageInputs}

/-- The engine of the built-in rules. -/
structure Builtin (e : Engine) : Prop where
  config : e.config = Rules.RuleSet.builtin.scoring
  rules : Rules.Library.builtin.compile = .ok e.rules

lemma exists_builtin : ∃ e, ofRules .builtin = .ok e ∧ e.Builtin := by
  obtain ⟨e, he, hconfig, hrules⟩ := ofRules_of_validate Rules.validate_builtin
  exact ⟨e, he, hconfig, hrules⟩

lemma category_of_hardBlock (hb : e.Builtin) {layer : Layer} {findings : List Finding} {b : HardBlock}
    (h : e.hardBlock layer findings = some b) : b.category = .creditCard := by
  obtain ⟨f, hf, rfl⟩ := Option.map_eq_some_iff.mp h
  have hcategory := List.find?_some hf
  rw [hb.config] at hcategory
  simpa [Rules.RuleSet.builtin, ScoringConfig.standard] using hcategory

lemma blocksCard_iff (hb : e.Builtin) (hm : memo.Sound)
    (hlen : Text.byteLength stages.input.toList ≤ e.config.maxTextBytes) (context : RequestContext) :
    e.BlocksCard memo stages context ↔ ∃ m ∈ e.confirmedMatches stages.input.toList, m.category = .creditCard := by
  have hlist {category : Category} : category ∈ e.config.hardBlock ↔ category = .creditCard := by
    rw [hb.config]
    exact List.mem_singleton
  have hinput : e.BlocksCard memo stages context ↔ e.BlocksInput memo stages context := by
    obtain ⟨-, hblock, -⟩ := e.evaluate_input hm stages context
    refine ⟨fun ⟨b, hb, hlayer, _⟩ => ⟨b, hb, hlayer⟩, fun ⟨b, hblocked, hlayer⟩ => ⟨b, hblocked, hlayer, ?_⟩⟩
    exact category_of_hardBlock hb ((hblock b).mp ⟨hblocked, hlayer⟩)
  rw [hinput, blocks_input_iff hm hlen]
  simp only [hlist]
  constructor
  · rintro ⟨f, hf | hf, hcard⟩
    · exact ⟨f, Finding.mem_of_mem_resolve hf, hcard⟩
    · obtain ⟨r, hr, hcategory⟩ := Detect.category_of_revealed hf
      obtain ⟨d, hd, hcompile⟩ := (exists_of_mapM_ok (Rules.Library.compile_ok.mp hb.rules).2.1).2 r hr
      have hother := Rules.category_injection d hd
      rw [← (Rules.worth_of_compile hcompile).1, ← hcategory] at hother
      exact absurd hcard hother
  · rintro ⟨m, hmem, hcard⟩
    obtain ⟨f, hf, hcategory⟩ := exists_kept_blocking hmem (hlist.mpr hcard) fun k hk _ hbefore =>
      hlist.mpr (Detect.category_of_ranksBefore hb.rules hk hmem hcard hbefore)
    exact ⟨f, .inl hf, hlist.mp hcategory⟩

/-- Whether the input is blocked for a card number depends on the candidates alone. -/
lemma blocksCard_iff_candidate (hb : e.Builtin) {r : Rules.Compiled} (hr : r ∈ e.rules.pii)
    (hcard : r.category = .creditCard) (hm : memo.Sound)
    (hlen : Text.byteLength stages.input.toList ≤ e.config.maxTextBytes) (context : RequestContext) :
    e.BlocksCard memo stages context ↔ ∃ s ∈ r.find stages.input.toList,
      Detect.confirms r stages.input.toList s = true := by
  rw [blocksCard_iff hb hm hlen]
  constructor
  · rintro ⟨m, hmem, hcategory⟩
    obtain ⟨r', hr', s, hs, hconfirms, rfl⟩ := Detect.mem_confirmedFindings.mp hmem
    have hsame : r'.find = r.find := (Rules.find_of_compile (Rules.compile_of_category hb.rules hr' hcategory)).trans
      (Rules.find_of_compile (Rules.compile_of_category hb.rules hr hcard)).symm
    have hcat : r'.category = r.category := Eq.trans hcategory hcard.symm
    refine ⟨s, hsame ▸ hs, ?_⟩
    rwa [Detect.confirms, ← hcat]
  · rintro ⟨s, hs, hconfirms⟩
    exact ⟨r.finding s, Detect.mem_confirmedFindings.mpr ⟨r, hr, s, hs, hconfirms, rfl⟩, hcard⟩

/-- **Which card numbers block.** The built-in rules make an engine with a rule for card numbers. An input of acceptable
length is blocked for one exactly if all the digits of some candidate that the rule picks out make a card number. A run
of thirteen to nineteen digits that is a word of its own always lies within a candidate, and where no blank or hyphen
joins it to another digit it is one by itself, so that it blocks if its check digit is right. -/
theorem blocks_card_numbers (hm : memo.Sound) (stages : StageInputs)
    (hlen : Text.byteLength stages.input.toList ≤ Rules.RuleSet.builtin.scoring.maxTextBytes)
    (context : RequestContext) :
    ∃ e r, ofRules .builtin = .ok e ∧ r ∈ e.rules.pii ∧ r.category = .creditCard ∧
      (e.BlocksCard memo stages context ↔ ∃ a w c, stages.input.toList = a ++ w ++ c ∧ Candidate a w c ∧
        ⟨Text.byteLength a, Text.byteLength (a ++ w)⟩ ∈ r.find stages.input.toList ∧
        Luhn.hasCardLength (Luhn.normalize w) = true ∧ Luhn.valid (Luhn.normalize w) = true) ∧
      ∀ a run c, stages.input.toList = a ++ run ++ c → run.all Char.isDigit = true →
        Luhn.hasCardLength run = true → Delimited a c →
          (∃ u x y v, a = u ++ x ∧ c = y ++ v ∧ Candidate u (x ++ run ++ y) v ∧
            ⟨Text.byteLength u, Text.byteLength (u ++ (x ++ run ++ y))⟩ ∈ r.find stages.input.toList) ∧
          (Luhn.valid run = true → ¬ Joined a c → e.BlocksCard memo stages context) := by
  obtain ⟨e, he, hb⟩ := exists_builtin
  obtain ⟨r, hr, hcompile⟩ := Rules.exists_cardRule hb.rules
  have hcard : r.category = .creditCard := (Rules.worth_of_compile hcompile).1
  refine ⟨e, r, he, hr, hcard, ?_⟩
  rw [blocksCard_iff_candidate hb hr hcard hm (hb.config ▸ hlen), Rules.find_of_compile hcompile]
  refine ⟨⟨?_, ?_⟩, fun a run c htext hdigits hlength hdelimited => ?_⟩
  · rintro ⟨s, hs, hconfirms⟩
    obtain ⟨a, w, c, htext, hw, rfl⟩ := candidate_of_mem hs
    rw [htext, Detect.confirms_iff hcard] at hconfirms
    exact ⟨a, w, c, htext, hw, hs, hconfirms⟩
  · rintro ⟨a, w, c, htext, -, hs, hcheck⟩
    refine ⟨_, hs, ?_⟩
    rwa [htext, Detect.confirms_iff hcard]
  · rw [List.all_eq_true] at hdigits
    obtain ⟨hleast, hmost⟩ : 13 ≤ run.length ∧ run.length ≤ 19 := by simpa [Luhn.hasCardLength] using hlength
    obtain ⟨u, x, y, v, rfl, rfl, hw, hmem⟩ :=
      exists_candidate (fun d hd => Unicode.isDigit_of_ascii (hdigits d hd)) hleast hmost hdelimited
    rw [htext]
    refine ⟨⟨u, x, y, v, rfl, rfl, hw, hmem⟩, fun hvalid halone => ⟨_, hmem, ?_⟩⟩
    obtain ⟨rfl, rfl⟩ := hw.alone hdelimited halone
    have hnormal : Luhn.normalize run = run := List.filter_eq_self.mpr hdigits
    simp only [List.append_nil, List.nil_append, Detect.confirms_iff hcard, hnormal]
    exact ⟨hlength, hvalid⟩

/-- A request with nothing but a text. -/
def cardRequest (text : String) : StageInputs := ⟨text, none, none⟩

/-- A card number at the end of a sentence. -/
theorem blocks_card_numbers_sentence : ∃ e, ofRules .builtin = .ok e ∧
    e.BlocksCard [] (cardRequest "card 4111111111111111.") (.anonymous "r") := by
  obtain ⟨e, r, he, -, -, -, hruns⟩ := blocks_card_numbers Luhn.Memo.sound_nil
    (cardRequest "card 4111111111111111.") (by decide) (.anonymous "r")
  have hdelimited : Delimited "card ".toList ".".toList := ⟨by decide, by decide⟩
  have halone : ¬ Joined "card ".toList ".".toList := by
    rintro (⟨u, d, s, hjoined, hd, -⟩ | ⟨s, d, v, hjoined, -⟩)
    · have hsecond := congrArg (fun l => l.reverse[1]?) hjoined
      obtain rfl : 'd' = d := by simpa using hsecond
      exact absurd hd (by decide)
    · simp at hjoined
  obtain ⟨-, hblocks⟩ := hruns "card ".toList "4111111111111111".toList ".".toList (by decide)
    (by decide) (by decide) hdelimited
  exact ⟨e, he, hblocks (by decide) halone⟩

lemma layer_of_evaluate {text : String} {context : RequestContext} {b : HardBlock}
    (h : (e.evaluate memo (cardRequest text) context).1.hardBlock = some b) : b.layer = .inputGuard := by
  simp only [evaluate, cardRequest, payloads, Option.map_none, Option.toList_none, List.append_nil, runStages] at h
  split at h
  · next hblock =>
    obtain rfl := Option.some.inj h
    rw [layer_of_hardBlock hblock, assess_layer]
    rfl
  · cases h

/-- A digit and a blank in front of a card number make another number with it, whose check digit is wrong. -/
theorem misses_joined_number : ∃ e, ofRules .builtin = .ok e ∧
    (cardRequest "1 4111111111111111").input.toList = "1 ".toList ++ "4111111111111111".toList ++ [] ∧
    "4111111111111111".toList.all Char.isDigit = true ∧
    Luhn.hasCardLength "4111111111111111".toList = true ∧ Luhn.valid "4111111111111111".toList = true ∧
    Delimited "1 ".toList [] ∧
    Text.byteLength (cardRequest "1 4111111111111111").input.toList ≤ Rules.RuleSet.builtin.scoring.maxTextBytes ∧
    (e.evaluate [] (cardRequest "1 4111111111111111") (.anonymous "r")).1.hardBlock = none := by
  obtain ⟨e, he, hb⟩ := exists_builtin
  obtain ⟨r, hr, hcompile⟩ := Rules.exists_cardRule hb.rules
  have hcard : r.category = .creditCard := (Rules.worth_of_compile hcompile).1
  have hlen : Text.byteLength (cardRequest "1 4111111111111111").input.toList
      ≤ Rules.RuleSet.builtin.scoring.maxTextBytes := by decide
  have hdelimited : Delimited "1 ".toList [] := ⟨by decide, by decide⟩
  refine ⟨e, he, by decide, by decide, by decide, by decide, hdelimited, hlen, ?_⟩
  have hspans : cardProgram.occurrences (cardRequest "1 4111111111111111").input.toList = [⟨0, 18⟩] := by
    decide +kernel
  have hfails : Detect.confirmed .creditCard
      ((Text.slice? 0 18 (cardRequest "1 4111111111111111").input.toList).getD []) = false := by decide
  have hquiet : ¬ e.BlocksCard [] (cardRequest "1 4111111111111111") (.anonymous "r") := by
    rw [blocksCard_iff_candidate hb hr hcard Luhn.Memo.sound_nil (hb.config ▸ hlen), Rules.find_of_compile hcompile,
      hspans]
    simp [Detect.confirms, hcard, hfails]
  obtain ⟨-, hinput, -⟩ :=
    e.evaluate_input Luhn.Memo.sound_nil (cardRequest "1 4111111111111111") (.anonymous "r")
  refine Option.eq_none_iff_forall_ne_some.mpr fun b hblock => ?_
  have hlayer := layer_of_evaluate hblock
  exact hquiet ⟨b, hblock, hlayer, category_of_hardBlock hb ((hinput b).mp ⟨hblock, hlayer⟩)⟩

end Engine

end Guardrail
