import Guardrail.Proofs.InRange
import Guardrail.Proofs.JsonRead
import Guardrail.Proofs.Records
import Guardrail.Shadow.Verdict

/-!
What is taken from an answer.

An answer is a verdict if one object makes up its text, blanks and one code fence around it left aside, and if this
object states each number once and in range. Whatever else an answer says makes it invalid.
-/

namespace Guardrail

open Json (Document TextOf)
open Decode (Sole)

/-! ### Trimmed texts -/

namespace Text

variable {cs : List Char}

lemma dropWhile_eq_self {p : Char → Bool} (h : ∀ c ∈ cs.head?, p c = false) : cs.dropWhile p = cs := by
  cases cs with
  | nil => rfl
  | cons c cs => simp [h c rfl]

lemma trim_eq_self (hhead : ∀ c ∈ cs.head?, Unicode.isSpace c = false)
    (hlast : ∀ c ∈ cs.getLast?, Unicode.isSpace c = false) : trim cs = cs := by
  rw [← List.head?_reverse] at hlast
  rw [trim, trimStart, dropWhile_eq_self hhead, trimEnd, dropWhile_eq_self hlast, List.reverse_reverse]

/-- White space around a text is trimmed with that of the text. -/
lemma trim_append {before after : List Char} (hbefore : ∀ c ∈ before, Unicode.isSpace c = true) (cs : List Char)
    (hafter : ∀ c ∈ after, Unicode.isSpace c = true) : trim (before ++ cs ++ after) = trim cs := by
  have hend (text : List Char) : trimEnd (text ++ after) = trimEnd text := by
    have hreverse : ∀ c ∈ after.reverse, Unicode.isSpace c = true := fun c hc => hafter c (List.mem_reverse.mp hc)
    rw [trimEnd, List.reverse_append, List.dropWhile_append_of_pos hreverse, trimEnd]
  rw [trim, trim, trimStart, trimStart, List.append_assoc, List.dropWhile_append_of_pos hbefore, List.dropWhile_append]
  split
  · next hblank =>
    rw [List.isEmpty_iff.mp hblank, List.dropWhile_eq_nil_iff.mpr hafter]
  · exact hend _

lemma head?_trim : ∀ c ∈ (trim cs).head?, Unicode.isSpace c = false := by
  intro c hc
  obtain ⟨more, hmore⟩ := List.head?_eq_some_iff.mp hc
  have hprefix : trim cs <+: trimStart cs :=
    List.reverse_suffix.mp (by rw [trim, trimEnd, List.reverse_reverse]; exact List.dropWhile_suffix _)
  obtain ⟨tail, htail⟩ := hprefix
  have hhead := List.head?_dropWhile_not Unicode.isSpace cs
  rw [show cs.dropWhile Unicode.isSpace = c :: (more ++ tail) by rw [← List.cons_append, ← hmore, htail]; rfl] at hhead
  simpa using hhead

end Text

namespace Shadow

/-! ### Code fences -/

namespace Verdict

/-- What is inside of a text: the trimmed text, or the trimmed text in the code fence that goes around it. The tag of a
fence is no part of what is in it. -/
inductive Unwraps (cs : List Char) : List Char → Prop
  | bare (h : ∀ inner, Text.trim cs ≠ fence ++ inner ++ fence) : Unwraps cs (Text.trim cs)
  | tagged (inner : List Char) (h : Text.trim cs = fence ++ ("json".toList ++ inner) ++ fence) :
    Unwraps cs (Text.trim inner)
  | untagged (inner : List Char) (h : Text.trim cs = fence ++ inner ++ fence) (htag : ¬ "json".toList <+: inner) :
    Unwraps cs (Text.trim inner)

section

variable {cs inner : List Char}

lemma after?_append (start cs : List Char) : after? start (start ++ cs) = some cs := by
  rw [after?, if_pos (List.isPrefixOf_iff_prefix.mpr (List.prefix_append start cs)), List.drop_left]

lemma after?_eq_none {start : List Char} (h : ¬ start <+: cs) : after? start cs = none := by
  rw [after?, if_neg (by rwa [List.isPrefixOf_iff_prefix])]

lemma before?_append (cs stop : List Char) : before? stop (cs ++ stop) = some cs := by
  rw [before?, if_pos (List.isSuffixOf_iff_suffix.mpr (List.suffix_append cs stop)), List.length_append,
    Nat.add_sub_cancel, List.take_left]

lemma before?_eq_none {stop : List Char} (h : ¬ stop <:+ cs) : before? stop cs = none := by
  rw [before?, if_neg (by rwa [List.isSuffixOf_iff_suffix])]

/-- The tag does not reach into the fence behind it. -/
lemma tag_prefix_append_fence : "json".toList <+: inner ++ fence ↔ "json".toList <+: inner := by
  refine ⟨fun h => ?_, fun h => h.trans (List.prefix_append inner fence)⟩
  rcases List.prefix_or_prefix_of_prefix h (List.prefix_append inner fence) with h' | ⟨tail, htail⟩
  · exact h'
  · cases tail with
    | nil => rw [← htail, List.append_nil]
    | cons c tail =>
      -- what is left of the tag would have to begin like the fence
      rw [← htail, List.prefix_append_right_inj] at h
      obtain ⟨hc, -⟩ := List.cons_prefix_cons.mp (show c :: tail <+: '`' :: ['`', '`'] from h)
      have hmem : c ∈ "json".toList := htail ▸ List.mem_append_right inner List.mem_cons_self
      simp [hc] at hmem

lemma fenced?_eq (cs : List Char) : fenced? cs = (after? fence cs).bind fun inner =>
    (before? fence ((after? "json".toList inner).getD inner)).map Text.trim := by
  simp only [fenced?, Option.map_eq_bind]
  rfl

lemma fenced?_tagged : fenced? (fence ++ ("json".toList ++ inner) ++ fence) = some (Text.trim inner) := by
  rw [fenced?_eq, List.append_assoc, after?_append, Option.bind_some, List.append_assoc, after?_append,
    Option.getD_some, before?_append, Option.map_some]

lemma fenced?_untagged (htag : ¬ "json".toList <+: inner) :
    fenced? (fence ++ inner ++ fence) = some (Text.trim inner) := by
  rw [← tag_prefix_append_fence] at htag
  rw [fenced?_eq, List.append_assoc, after?_append, Option.bind_some, after?_eq_none htag, Option.getD_none,
    before?_append, Option.map_some]

lemma fenced?_bare (h : ∀ inner, cs ≠ fence ++ inner ++ fence) : fenced? cs = none := by
  rw [fenced?_eq]
  by_cases hstart : fence <+: cs
  · obtain ⟨rest, rfl⟩ := hstart
    rw [after?_append, Option.bind_some, before?_eq_none, Option.map_none]
    rintro ⟨inner, hinner⟩
    by_cases htag : "json".toList <+: rest
    · obtain ⟨more, rfl⟩ := htag
      rw [after?_append, Option.getD_some] at hinner
      exact h ("json".toList ++ inner) (by rw [← hinner]; simp only [List.append_assoc])
    · rw [after?_eq_none htag, Option.getD_none] at hinner
      exact h inner (by rw [← hinner, List.append_assoc])
  · rw [after?_eq_none hstart, Option.bind_none]

lemma Unwraps.body_eq {text : List Char} (h : Unwraps cs text) : body cs = text := by
  cases h with
  | bare h => rw [body, fenced?_bare h]; rfl
  | tagged inner h => rw [body, h, fenced?_tagged]; rfl
  | untagged inner h htag => rw [body, h, fenced?_untagged htag]; rfl

lemma unwraps_body (cs : List Char) : Unwraps cs (body cs) := by
  obtain ⟨text, htext⟩ : ∃ text, Unwraps cs text := by
    by_cases hfence : ∃ inner, Text.trim cs = fence ++ inner ++ fence
    · obtain ⟨inner, hinner⟩ := hfence
      by_cases htag : "json".toList <+: inner
      · obtain ⟨more, rfl⟩ := htag
        exact ⟨_, .tagged more hinner⟩
      · exact ⟨_, .untagged inner hinner htag⟩
    · exact ⟨_, .bare (not_exists.mp hfence)⟩
  exact htext.body_eq ▸ htext

lemma Unwraps.head? {text : List Char} (h : Unwraps cs text) : ∀ c ∈ text.head?, Unicode.isSpace c = false := by
  cases h <;> exact Text.head?_trim

lemma trim_fenced (inner : List Char) : Text.trim (fence ++ inner ++ fence) = fence ++ inner ++ fence := by
  refine Text.trim_eq_self (fun c hc => ?_) fun c hc => ?_
  · obtain rfl : '`' = c := Option.some.inj hc
    rfl
  · rw [List.getLast?_append] at hc
    obtain rfl : '`' = c := Option.some.inj hc
    rfl

/-- **Code fences.** A fence around a text that begins with none is left aside, with a tag or without. -/
lemma body_fenced (h : ¬ fence <+: Text.trim cs) {tag : List Char} (htag : tag = [] ∨ tag = "json".toList) :
    body (fence ++ (tag ++ ('\n' :: cs ++ ['\n'])) ++ fence) = body cs := by
  have hbare : body cs = Text.trim cs := by
    refine Unwraps.body_eq (.bare fun inner hinner => h ?_)
    rw [hinner, List.append_assoc]
    exact List.prefix_append fence _
  have hinner : Text.trim ('\n' :: cs ++ ['\n']) = Text.trim cs :=
    Text.trim_append (List.forall_mem_singleton.mpr (rfl : Unicode.isSpace '\n' = true)) cs
      (List.forall_mem_singleton.mpr rfl)
  rw [hbare, ← hinner]
  rcases htag with rfl | rfl
  · refine Unwraps.body_eq (.untagged _ (trim_fenced _) fun htag => ?_)
    obtain ⟨hc, -⟩ := List.cons_prefix_cons.mp (show 'j' :: "son".toList <+: '\n' :: (cs ++ ['\n']) from htag)
    cases hc
  · exact Unwraps.body_eq (.tagged _ (trim_fenced _))

end

end Verdict

/-! ### What objects state -/

/-- A document that states a threat: an object by its members, or an array by its items in their order. -/
inductive Threat.StatedBy (t : Threat) : Document → Prop
  | members {ms : List (String × Document)} (category : Sole ms "category" (.str t.category))
    (description : Sole ms "description" (.str t.description))
    (severity : (∃ n, Sole ms "severity" (.num n) ∧ t.severity = n.toFloat) ∨
      "severity" ∉ ms.map Prod.fst ∧ t.severity = 0.0) : t.StatedBy (.obj ms true)
  | pair (severity : t.severity = 0.0) : t.StatedBy (.arr [.str t.category, .str t.description] true)
  | triple {n : Json.Number} (severity : t.severity = n.toFloat) :
    t.StatedBy (.arr [.str t.category, .str t.description, .num n] true)

/-- The members of an object that states a verdict. -/
structure Verdict.StatedBy (v : Verdict) (ms : List (String × Document)) : Prop where
  score : ∃ n, Sole ms "risk_score" (.num n) ∧ v.score = n.toFloat
  confidence : ∃ n, Sole ms "confidence" (.num n) ∧ v.confidence = n.toFloat
  threats : (∃ ds, Sole ms "threats" (.arr ds true) ∧ List.Forall₂ Threat.StatedBy v.threats ds) ∨
    "threats" ∉ ms.map Prod.fst ∧ v.threats = []
  reasoning : Sole ms "reasoning" (.str v.reasoning) ∨ "reasoning" ∉ ms.map Prod.fst ∧ v.reasoning = ""

/-- All numbers of a verdict lie in `[0, 1]`. -/
structure Verdict.InRange (v : Verdict) : Prop where
  score : Scalar.InUnit v.score
  confidence : Scalar.InUnit v.confidence
  severities : ∀ t ∈ v.threats, Scalar.InUnit t.severity

open Decode Fields

lemma Threat.ofMembers_ok {ms : List (String × Document)} (hms : ∀ m ∈ ms, m.2.Complete) {t : Threat} :
    Threat.decoder .text (.obj ms true) = .ok t ↔ t.StatedBy (.obj ms true) := by
  change Fields.ofMembers _ _ _ _ = _ ↔ _
  rw [Fields.ofMembers_ok fun m hm => .inr (hms m hm).sound]
  constructor
  · rintro ⟨-, honce, hrun⟩
    obtain ⟨_, severity, htexts, hseverity, rfl⟩ := run_seq_ok.mp hrun
    obtain ⟨_, description, hfirst, hdescription, rfl⟩ := run_seq_ok.mp htexts
    obtain ⟨category, hcategory, rfl⟩ := run_map_ok.mp hfirst
    have hcategory := (run_string_ok hms (honce "category" (by decide))).mp hcategory
    have hdescription := (run_string_ok hms (honce "description" (by decide))).mp hdescription
    have hseverity := (run_number_ok hms (honce "severity" (by decide))).mp hseverity
    refine .members (hcategory.resolve_right nofun) (hdescription.resolve_right nofun) (hseverity.imp_right ?_)
    exact fun h => ⟨h.1, (Option.some.inj h.2).symm⟩
  · rintro (⟨hcategory, hdescription, hseverity⟩)
    have honce : (ms.map Prod.fst).count "severity" ≤ 1 :=
      hseverity.elim (fun ⟨_, h, _⟩ => h.once.le) fun h => count_le_one_of_absent h.1
    refine ⟨rfl, ?_, ?_⟩
    · change ∀ name ∈ ["category", "description", "severity"], _
      simp only [List.forall_mem_cons]
      exact ⟨hcategory.once.le, hdescription.once.le, honce, nofun⟩
    · refine run_seq_ok.mpr ⟨_, _, run_seq_ok.mpr ⟨_, _, run_map_ok.mpr ⟨t.category, ?_, rfl⟩, ?_, rfl⟩, ?_, rfl⟩
      · exact (run_string_ok hms hcategory.once.le).mpr (.inl hcategory)
      · exact (run_string_ok hms hdescription.once.le).mpr (.inl hdescription)
      · exact (run_number_ok hms honce).mpr (hseverity.imp_right fun h => ⟨h.1, congrArg some h.2.symm⟩)

/-- Up to three items by their places. -/
lemma eq_of_places {α : Type} {xs : List α} {a b : α} (h : xs.length ≤ 3) (ha : xs[0]? = some a)
    (hb : xs[1]? = some b) : xs = [a, b] ++ xs[2]?.toList := by
  rcases xs with _ | ⟨_, _ | ⟨_, _ | ⟨_, _ | _⟩⟩⟩ <;> simp_all
  omega

lemma Threat.ofItems_ok {ds : List Document} (hds : ∀ d ∈ ds, d.Complete) {t : Threat} :
    Threat.decoder .text (.arr ds true) = .ok t ↔ t.StatedBy (.arr ds true) := by
  change Fields.ofItems _ _ _ _ _ = _ ↔ _
  rw [Fields.ofItems_ok]
  constructor
  · rintro ⟨-, hlength, hrun⟩
    obtain ⟨_, severity, htexts, hseverity, rfl⟩ := run_seq_ok.mp hrun
    obtain ⟨_, description, hfirst, hdescription, rfl⟩ := run_seq_ok.mp htexts
    obtain ⟨category, hcategory, rfl⟩ := run_map_ok.mp hfirst
    obtain ⟨c, hc, hcategory⟩ := (run_field_items_ok.mp hcategory).resolve_right nofun
    obtain ⟨d, hd, hdescription⟩ := (run_field_items_ok.mp hdescription).resolve_right nofun
    obtain rfl := (string_ok (hds c (List.mem_of_getElem? hc))).mp hcategory
    obtain rfl := (string_ok (hds d (List.mem_of_getElem? hd))).mp hdescription
    have hplaces := eq_of_places hlength hc hd
    obtain ⟨e, he, hx⟩ | ⟨hnone, hx⟩ := run_field_items_ok.mp hseverity
    · obtain ⟨n, rfl, rfl⟩ := (number_ok (hds e (List.mem_of_getElem? he))).mp hx
      rw [show ds[2]? = some (.num n) from he] at hplaces
      subst hplaces
      exact .triple rfl
    · rw [show ds[2]? = none from hnone] at hplaces
      subst hplaces
      exact .pair (Option.some.inj hx).symm
  · obtain ⟨category, description, severity⟩ := t
    rintro (_ | hseverity | hseverity)
    · subst hseverity
      exact ⟨rfl, Nat.le_succ 2, rfl⟩
    · subst hseverity
      exact ⟨rfl, le_refl 3, rfl⟩

lemma Threat.decoder_ok {d : Document} (hd : d.Complete) {t : Threat} :
    Threat.decoder .text d = .ok t ↔ t.StatedBy d := by
  cases hd with
  | obj ms hms => exact Threat.ofMembers_ok hms
  | arr ds hds => exact Threat.ofItems_ok hds
  | _ => exact ⟨nofun, nofun⟩

lemma Threat.forall₂_decoder_ok {ds : List Document} (hds : ∀ d ∈ ds, d.Complete) {ts : List Threat} :
    List.Forall₂ (fun t d => Threat.decoder .text d = .ok t) ts ds ↔ List.Forall₂ Threat.StatedBy ts ds := by
  induction ds generalizing ts with
  | nil => simp
  | cons d ds ih =>
    obtain ⟨hd, hds⟩ := List.forall_mem_cons.mp hds
    simp only [List.forall₂_cons_right_iff, Threat.decoder_ok hd, ih hds]

/-- An object that states a verdict has no field twice. -/
lemma Verdict.StatedBy.once {v : Verdict} {ms : List (String × Document)} (h : v.StatedBy ms) :
    ∀ name ∈ ["risk_score", "confidence", "threats", "reasoning"], (ms.map Prod.fst).count name ≤ 1 := by
  obtain ⟨⟨n, hscore, -⟩, ⟨k, hconfidence, -⟩, hthreats, hreasoning⟩ := h
  simp only [List.forall_mem_cons]
  refine ⟨hscore.once.le, hconfidence.once.le, ?_, ?_, nofun⟩
  · exact hthreats.elim (fun ⟨_, h, _⟩ => h.once.le) fun h => count_le_one_of_absent h.1
  · exact hreasoning.elim (fun h => h.once.le) fun h => count_le_one_of_absent h.1

lemma Verdict.decoder_ok {ms : List (String × Document)} (hms : ∀ m ∈ ms, m.2.Complete) {v : Verdict} :
    Verdict.decoder .text (.obj ms true) = .ok v ↔ v.StatedBy ms := by
  change ofMembers _ _ _ _ = _ ↔ _
  rw [ofMembers_ok fun m hm => .inr (hms m hm).sound]
  constructor
  · rintro ⟨-, honce, hrun⟩
    obtain ⟨_, reasoning, hrest, hreasoning, rfl⟩ := run_seq_ok.mp hrun
    obtain ⟨_, threats, hnumbers, hthreats, rfl⟩ := run_seq_ok.mp hrest
    obtain ⟨_, confidence, hfirst, hconfidence, rfl⟩ := run_seq_ok.mp hnumbers
    obtain ⟨score, hscore, rfl⟩ := run_map_ok.mp hfirst
    have hscore := (run_number_ok hms (honce "risk_score" (by decide))).mp hscore
    have hconfidence := (run_number_ok hms (honce "confidence" (by decide))).mp hconfidence
    have hthreats := (run_list_ok hms (honce "threats" (by decide))).mp hthreats
    have hreasoning := (run_string_ok hms (honce "reasoning" (by decide))).mp hreasoning
    refine ⟨hscore.resolve_right nofun, hconfidence.resolve_right nofun, hthreats.imp ?_ ?_, hreasoning.imp_right ?_⟩
    · rintro ⟨ds, hds, hstated⟩
      exact ⟨ds, hds, (Threat.forall₂_decoder_ok (hms _ hds.mem).items).mp hstated⟩
    · exact fun h => ⟨h.1, (Option.some.inj h.2).symm⟩
    · exact fun h => ⟨h.1, (Option.some.inj h.2).symm⟩
  · intro h
    refine ⟨rfl, h.once, run_seq_ok.mpr ⟨_, v.reasoning, run_seq_ok.mpr ⟨_, v.threats, run_seq_ok.mpr ⟨_, v.confidence,
      run_map_ok.mpr ⟨v.score, ?_, rfl⟩, ?_, rfl⟩, ?_, rfl⟩, ?_, rfl⟩⟩
    · exact (run_number_ok hms (h.once "risk_score" (by decide))).mpr (.inl h.score)
    · exact (run_number_ok hms (h.once "confidence" (by decide))).mpr (.inl h.confidence)
    · refine (run_list_ok hms (h.once "threats" (by decide))).mpr
        (h.threats.imp ?_ fun h => ⟨h.1, congrArg some h.2.symm⟩)
      rintro ⟨ds, hds, hstated⟩
      exact ⟨ds, hds, (Threat.forall₂_decoder_ok (hms _ hds.mem).items).mpr hstated⟩
    · exact (run_string_ok hms (h.once "reasoning" (by decide))).mpr
        (h.reasoning.imp_right fun h => ⟨h.1, congrArg some h.2.symm⟩)

namespace Verdict

lemma checkUnit_ok {field : String} {x : Float} : checkUnit field x = .ok () ↔ Scalar.InUnit x := by
  unfold checkUnit
  constructor
  · intro h
    split at h
    · next hx => exact ⟨(Scalar.Ordered.isNaN_of_le hx.2.1).2, hx.2.1, hx.2.2⟩
    · cases h
  · intro h
    exact if_pos ⟨Double.isFinite_of_mem_unit h.nonneg h.le_one, h.nonneg, h.le_one⟩

lemma validate_ok {v : Verdict} : v.validate = .ok () ↔ v.InRange := by
  simp only [validate, check_ok, forM_ok, checkUnit_ok]
  exact ⟨fun ⟨hscore, hconfidence, hseverities⟩ => ⟨hscore, hconfidence, hseverities⟩,
    fun h => ⟨h.score, h.confidence, h.severities⟩⟩

/-- An answer that is no verdict. -/
def Rejected (answer : String) : Prop := ∃ m, ofAnswer answer = .error (.invalid m)

lemma exists_invalid_of_checkUnit {field : String} {x : Float} {e : AgentError} (h : checkUnit field x = .error e) :
    ∃ m, e = .invalid m := by
  unfold checkUnit at h
  split at h <;> cases h
  exact ⟨_, rfl⟩

lemma exists_invalid_of_validate {v : Verdict} {e : AgentError} (h : v.validate = .error e) : ∃ m, e = .invalid m := by
  have hforM {ts : List Threat} (h : (ts.forM fun t => checkUnit "threats.severity" t.severity) = .error e) :
      ∃ m, e = .invalid m := by
    induction ts with
    | nil => cases h
    | cons t ts ih =>
      rcases bind_error.mp h with h | ⟨-, -, h⟩
      · exact exists_invalid_of_checkUnit h
      · exact ih h
  rcases bind_error.mp h with h | ⟨-, -, h⟩
  · exact exists_invalid_of_checkUnit h
  · rcases bind_error.mp h with h | ⟨-, -, h⟩
    · exact exists_invalid_of_checkUnit h
    · exact hforM h

section

variable {answer : String} {v : Verdict}

lemma ofAnswer_of_brace (h : (body answer.toList).head? = some '\x7b') : ofAnswer answer =
    match ofJsonText decoder (String.ofList (body answer.toList)) with
    | .error fault => .error (.invalid s!"malformed verdict: {fault.message}")
    | .ok v => v.validate >>= fun _ => .ok v := by
  simp only [ofAnswer, h, bne_self_eq_false, Bool.false_eq_true, if_false]
  cases ofJsonText decoder (String.ofList (body answer.toList)) <;> rfl

lemma rejected_of_not_brace (h : (body answer.toList).head? ≠ some '\x7b') : Rejected answer := by
  refine ⟨"verdict is not a JSON object", ?_⟩
  simp [ofAnswer, h]
  rfl

lemma exists_invalid_of_ofAnswer {e : AgentError} (h : ofAnswer answer = .error e) : ∃ m, e = .invalid m := by
  by_cases hbrace : (body answer.toList).head? = some '\x7b'
  · rw [ofAnswer_of_brace hbrace] at h
    split at h
    · cases h
      exact ⟨_, rfl⟩
    · rcases bind_error.mp h with h | ⟨-, -, h⟩
      · exact exists_invalid_of_validate h
      · cases h
  · obtain ⟨m, hm⟩ := rejected_of_not_brace hbrace
    exact ⟨m, Except.error.inj (h.symm.trans hm)⟩

lemma rejected_or_ok (answer : String) : Rejected answer ∨ ∃ v, ofAnswer answer = .ok v := by
  cases hanswer : ofAnswer answer with
  | ok v => exact .inr ⟨v, rfl⟩
  | error e =>
    obtain ⟨m, rfl⟩ := exists_invalid_of_ofAnswer hanswer
    exact .inl ⟨m, hanswer⟩

lemma rejected_iff : Rejected answer ↔ ∀ v, ofAnswer answer ≠ .ok v := by
  constructor
  · rintro ⟨m, hm⟩ v hv
    cases hm.symm.trans hv
  · intro h
    exact (rejected_or_ok answer).resolve_right fun ⟨v, hv⟩ => h v hv

/-- No blank stands in front of what is inside of a text. -/
lemma skipBlanks_body (cs : List Char) : Json.skipBlanks (body cs) = body cs := by
  refine Text.dropWhile_eq_self fun c hc => ?_
  have hspace := (unwraps_body cs).head? c hc
  by_contra hblank
  simp only [Json.isBlank, Bool.not_eq_false, Bool.or_eq_true, beq_iff_eq] at hblank
  rcases hblank with ((rfl | rfl) | rfl) | rfl <;> cases hspace

/-- What is inside is the text of an object if it is a text that begins with a brace. -/
lemma brace_iff {d : Document} (h : TextOf d (body answer.toList)) :
    (body answer.toList).head? = some '\x7b' ↔ ∃ ms, d = .obj ms true := by
  obtain ⟨c, more, hcs, hc⟩ := h.first
  rw [skipBlanks_body] at hcs
  rw [hcs, ← hc, List.head?_cons, Option.some.injEq]

lemma ofAnswer_ok : ofAnswer answer = .ok v ↔
    v.InRange ∧ ∃ ms, TextOf (.obj ms true) (body answer.toList) ∧ v.StatedBy ms := by
  constructor
  · intro h
    have hbrace : (body answer.toList).head? = some '\x7b' :=
      by_contra fun hbrace => rejected_iff.mp (rejected_of_not_brace hbrace) v h
    rw [ofAnswer_of_brace hbrace] at h
    split at h
    · cases h
    · next w hread =>
      obtain ⟨hrange, h⟩ := check_ok.mp h
      cases h
      obtain ⟨d, htext, hd⟩ := ofJsonText_ok.mp hread
      rw [String.toList_ofList] at htext
      -- the decoder would take an array as well, but the text begins with a brace
      obtain ⟨ms, rfl⟩ := (brace_iff htext).mp hbrace
      exact ⟨validate_ok.mp hrange, ms, htext, (decoder_ok htext.complete.members).mp hd⟩
  · rintro ⟨hrange, ms, htext, hstated⟩
    have hread : ofJsonText decoder (String.ofList (body answer.toList)) = .ok v :=
      ofJsonText_ok.mpr ⟨_, by rwa [String.toList_ofList], (decoder_ok htext.complete.members).mpr hstated⟩
    rw [ofAnswer_of_brace ((brace_iff htext).mpr ⟨ms, rfl⟩), hread]
    simp only [validate_ok.mpr hrange]
    rfl

end

/-- **Verdicts.** An answer is invalid, or it gives a verdict whose numbers all lie in `[0, 1]`: what is inside of the
answer is then the text of one object and nothing else, and the object states the verdict. So an answer is invalid if
something stands in front of the object or behind it, if a field stands in it twice or if one that is needed does not.
A text that begins with no fence may be put into one, with a tag or without. -/
theorem ofAnswer_reads_one_object (answer : String) :
    (Rejected answer ∨ ∃ v, ofAnswer answer = .ok v) ∧
    (∃ text, Unwraps answer.toList text ∧
      (∀ v, ofAnswer answer = .ok v ↔ v.InRange ∧ ∃ ms, TextOf (.obj ms true) text ∧ v.StatedBy ms) ∧
      (text.head? ≠ some '\x7b' → Rejected answer) ∧
      (∀ ms first rest, TextOf (.obj ms true) first → text = first ++ rest → (∃ c ∈ rest, Json.isBlank c = false) →
        Rejected answer) ∧
      ∀ ms, TextOf (.obj ms true) text →
        (∃ name ∈ ["risk_score", "confidence", "threats", "reasoning"], 1 < (ms.map Prod.fst).count name) ∨
          "risk_score" ∉ ms.map Prod.fst ∨ "confidence" ∉ ms.map Prod.fst → Rejected answer) ∧
    (¬ fence <+: Text.trim answer.toList → ∀ tag ∈ ["", "json"],
      ofAnswer ("```" ++ tag ++ "\n" ++ answer ++ "\n```") = ofAnswer answer) := by
  refine ⟨rejected_or_ok answer, ⟨body answer.toList, unwraps_body _, fun v => ofAnswer_ok, rejected_of_not_brace,
    ?_, ?_⟩, ?_⟩
  · rintro ms first rest hfirst hsplit ⟨c, hc, hblank⟩
    refine rejected_iff.mpr fun v hv => ?_
    obtain ⟨-, ms', htext, -⟩ := ofAnswer_ok.mp hv
    -- what follows the object is read as well, so that the text is not the whole of it
    have hrest : Json.skipBlanks rest ≠ [] := by
      intro hnil
      simp [List.dropWhile_eq_nil_iff.mp hnil c hc] at hblank
    have hread := Document.read_iff.mpr htext
    rw [hsplit, Document.read_append_of_obj hfirst hrest] at hread
    cases (Prod.mk.inj hread).2
  · intro ms htext hfields
    refine rejected_iff.mpr fun v hv => ?_
    obtain ⟨-, ms', htext', hstated⟩ := ofAnswer_ok.mp hv
    -- a text is that of one document only
    obtain rfl : ms = ms' := by cases Document.unique_of_text htext htext'; rfl
    rcases hfields with ⟨name, hname, htwice⟩ | hmissing | hmissing
    · exact absurd (hstated.once name hname) (by omega)
    · obtain ⟨n, hn, -⟩ := hstated.score
      exact hmissing (List.mem_map_of_mem hn.mem)
    · obtain ⟨n, hn, -⟩ := hstated.confidence
      exact hmissing (List.mem_map_of_mem hn.mem)
  · intro hfence tag htag
    have hbody : body ("```" ++ tag ++ "\n" ++ answer ++ "\n```").toList = body answer.toList := by
      have htag : tag.toList = [] ∨ tag.toList = "json".toList := by
        rcases List.mem_pair.mp htag with rfl | rfl
        · exact .inl rfl
        · exact .inr rfl
      rw [← body_fenced hfence htag]
      simp [fence]
    simp only [ofAnswer, hbody]

/-- Two numbers make up a verdict, in a fence too, and no verdict if another object stands behind them. -/
theorem ofAnswer_reads_one_object_fenced :
    (∃ v, ofAnswer ("```" ++ "json" ++ "\n" ++ "\x7b\"risk_score\":1,\"confidence\":0\x7d" ++ "\n```") = .ok v ∧
      v.score = 1 ∧ v.confidence = 0 ∧ v.threats = [] ∧ v.reasoning = "") ∧
    Rejected "\x7b\"risk_score\":1,\"confidence\":0\x7d \x7b\x7d" := by
  have htext : TextOf (.obj [("risk_score", .num (.nat 1)), ("confidence", .num (.nat 0))] true)
      "\x7b\"risk_score\":1,\"confidence\":0\x7d".toList := by
    have hnumbers : ∀ n ∈ [Json.Number.nat 1, .nat 0], n.ReadsBack := by
      simp only [List.forall_mem_cons]
      exact ⟨Json.Number.readsBack_nat (by decide), Json.Number.readsBack_nat (by decide), nofun⟩
    have hread := (Json.read_chars (.obj [("risk_score", .num (.nat 1)), ("confidence", .num (.nat 0))]) hnumbers).1
    have hchars : Json.chars (.obj [("risk_score", .num (.nat 1)), ("confidence", .num (.nat 0))]) =
        "\x7b\"risk_score\":1,\"confidence\":0\x7d".toList := by decide +kernel
    exact hchars ▸ Json.Document.read_iff.mp hread
  constructor
  · obtain ⟨-, ⟨text, hunwraps, hok, -⟩, hfence⟩ :=
      ofAnswer_reads_one_object "\x7b\"risk_score\":1,\"confidence\":0\x7d"
    obtain rfl : "\x7b\"risk_score\":1,\"confidence\":0\x7d".toList = text :=
      (show body _ = _ by decide +kernel).symm.trans hunwraps.body_eq
    rw [hfence (by decide +kernel) "json" (by decide)]
    refine ⟨⟨(Json.Number.nat 1).toFloat, (Json.Number.nat 0).toFloat, [], ""⟩, (hok _).mpr ⟨?_, _, htext, ?_⟩,
      by decide, by decide, rfl, rfl⟩
    · exact ⟨⟨by decide, by decide, by decide⟩, ⟨by decide, by decide, by decide⟩, nofun⟩
    · exact ⟨⟨.nat 1, ⟨by simp, by decide⟩, rfl⟩, ⟨.nat 0, ⟨by simp, by decide⟩, rfl⟩, .inr ⟨by decide, rfl⟩,
        .inr ⟨by decide, rfl⟩⟩
  · obtain ⟨-, ⟨text, hunwraps, -, -, hbehind, -⟩, -⟩ :=
      ofAnswer_reads_one_object "\x7b\"risk_score\":1,\"confidence\":0\x7d \x7b\x7d"
    refine hbehind _ _ " \x7b\x7d".toList htext (hunwraps.body_eq.symm.trans (by decide +kernel)) ?_
    exact ⟨'\x7b', by simp, rfl⟩

end Verdict

end Shadow

end Guardrail
