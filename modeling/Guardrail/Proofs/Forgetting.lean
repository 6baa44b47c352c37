import Guardrail.Proofs.Veiled

/-!
What was checked before, and what of it is forgotten.

The memo of card numbers is the only thing that an engine keeps from one request to the next. Every check adds to it,
and any part of it may be dropped at any time. Whatever came before, its answers are right, so that nothing that an
engine says depends on them.
-/

namespace Guardrail

namespace Luhn

variable {memo : Memo}

/-- The memo without the digit strings that are not kept. -/
def Memo.evict (memo : Memo) (keep : List Char → Bool) : Memo := memo.filter fun entry => keep entry.1

lemma Memo.lookup_evict (memo : Memo) (keep : List Char → Bool) (digits : List Char) :
    (memo.evict keep).lookup digits = if keep digits then memo.lookup digits else none := by
  induction memo with
  | nil => simp [evict]
  | cons entry memo ih =>
    obtain ⟨key, answer⟩ := entry
    by_cases hkey : digits = key
    · subst hkey
      cases hkeep : keep digits <;> simp_all [evict]
    · cases hkeep : keep key <;> simp_all [evict, List.lookup_cons, beq_false_of_ne hkey]

lemma Memo.Sound.evict (h : memo.Sound) (keep : List Char → Bool) : (memo.evict keep).Sound := by
  intro digits answer hlook
  rw [lookup_evict] at hlook
  split at hlook
  · exact h digits answer hlook
  · cases hlook

/-- A text passes exactly if its digits are as many as a card number has and their check digit is right. -/
lemma check_iff (h : memo.Sound) (cs : List Char) : (check memo cs).1 = true ↔
    (13 ≤ (normalize cs).length ∧ (normalize cs).length ≤ 19) ∧ valid (normalize cs) = true := by
  simp [(check_eq h cs).1, hasCardLength]

end Luhn

namespace Detect

/-- The confirmed matches of all rules where the memo is another one at each check. -/
def candidatesUnder (memos : Rules.Compiled → Span → Luhn.Memo) (rules : List Rules.Compiled)
    (text : List Char) : List Finding :=
  rules.flatMap fun r => ((r.find text).filter fun s =>
    (confirm (memos r s) r.category ((Text.slice? s.start s.stop text).getD [])).1).map r.finding

lemma candidatesUnder_eq {memos : Rules.Compiled → Span → Luhn.Memo} (h : ∀ r s, (memos r s).Sound)
    (rules : List Rules.Compiled) (text : List Char) :
    candidatesUnder memos rules text = confirmedFindings rules text := by
  unfold candidatesUnder confirmedFindings confirms
  simp only [(confirm_eq (h _ _) _ _).1]

/-- What is found does not change if the memo is added to or dropped from while the text is looked at. -/
lemma pii_under {memo : Luhn.Memo} (hm : memo.Sound) {memos : Rules.Compiled → Span → Luhn.Memo}
    (h : ∀ r s, (memos r s).Sound) (rules : List Rules.Compiled) (limit : ℕ) (text : List Char) :
    (pii rules limit memo text).1
      = (checkSize limit text).map fun _ => Finding.resolve (candidatesUnder memos rules text) := by
  rw [candidatesUnder_eq h]
  unfold pii
  split
  · next herror =>
    rw [herror]
    rfl
  · next hok =>
    rw [hok]
    simp only [(candidates_eq rules text hm).1]
    rfl

end Detect

namespace Engine

/-! ### One evaluation -/

variable {e : Engine} {memo memo' : Luhn.Memo}

lemma sound_assessAs (h : memo.Sound) (stage : Stage) (payload : Payload) :
    (e.assessAs stage memo payload).2.Sound := by
  unfold assessAs
  split
  · exact Detect.pii_sound _ _ _ h
  · exact h
  · exact Detect.pii_sound _ _ _ h
  · exact h

lemma assessAs_memo (h : memo.Sound) (h' : memo'.Sound) (stage : Stage) (payload : Payload) :
    (e.assessAs stage memo payload).1 = (e.assessAs stage memo' payload).1 := by
  by_cases hstage : payload.stage = stage
  · subst hstage
    exact assess_memo h h' payload
  · cases stage <;> cases payload <;> first | exact absurd rfl hstage | rfl

/-- The stages come to the same whatever is remembered. -/
lemma runStages_memo (h : memo.Sound) (h' : memo'.Sound) (redacted : Option String)
    (nexts : List (Option String → Payload)) :
    (e.runStages memo redacted nexts).1 = (e.runStages memo' redacted nexts).1 ∧
      (e.runStages memo redacted nexts).2.Sound := by
  induction nexts generalizing memo memo' redacted with
  | nil => exact ⟨rfl, h⟩
  | cons next nexts ih =>
    have hsound := e.sound_assess h (next redacted)
    have hassess := assess_memo (e := e) h h' (next redacted)
    simp only [runStages, ← hassess]
    split
    · exact ⟨rfl, hsound⟩
    · obtain ⟨hrest, hmemo⟩ := ih hsound (e.sound_assess h' (next redacted)) _
      exact ⟨by simp only [hrest], hmemo⟩

lemma evaluate_memo (h : memo.Sound) (h' : memo'.Sound) (stages : StageInputs) (context : RequestContext) :
    (e.evaluate memo stages context).1 = (e.evaluate memo' stages context).1 := by
  simp only [evaluate, (runStages_memo h h' none (payloads stages)).1]

/-! ### Histories -/

/-- What may happen to the memo of an engine. -/
inductive Use where
  /-- A text is checked by itself. -/
  | checks (text : List Char)
  /-- A payload is assessed by the rules of a stage. -/
  | assesses (stage : Stage) (payload : Payload)
  /-- A request is evaluated. -/
  | evaluates (stages : StageInputs) (context : RequestContext)
  /-- All but some answers are dropped. -/
  | evicts (keep : List Char → Bool)

/-- The memo afterwards. -/
def Use.after (e : Engine) (memo : Luhn.Memo) : Use → Luhn.Memo
  | .checks text => (Luhn.check memo text).2
  | .assesses stage payload => (e.assessAs stage memo payload).2
  | .evaluates stages context => (e.evaluate memo stages context).2
  | .evicts keep => memo.evict keep

/-- The memo after a history. -/
def memoAfter (e : Engine) (memo : Luhn.Memo) (uses : List Use) : Luhn.Memo := uses.foldl (Use.after e) memo

lemma Use.sound_after (h : memo.Sound) (use : Use) : (use.after e memo).Sound := by
  cases use with
  | checks text => exact (Luhn.check_eq h text).2
  | assesses stage payload => exact sound_assessAs h stage payload
  | evaluates stages context => exact (runStages_memo h h none (payloads stages)).2
  | evicts keep => exact h.evict keep

lemma sound_memoAfter (h : memo.Sound) (uses : List Use) : (e.memoAfter memo uses).Sound := by
  induction uses generalizing memo with
  | nil => exact h
  | cons use uses ih => exact ih (use.sound_after h)

/-- **Nothing that an engine says depends on what it was asked before.** Whatever it has checked, assessed and
evaluated and whatever it has dropped of the answers, it evaluates a request and assesses a payload as one that
remembers nothing. A text passes the check of card numbers exactly if its thirteen to nineteen digits do. Answers may
also come and go while a text is looked at: the personal data found is that of the text alone. -/
theorem evaluate_memoAfter (e : Engine) {memo : Luhn.Memo} (hm : memo.Sound) (uses : List Use) :
    (∀ stages context, (e.evaluate (e.memoAfter memo uses) stages context).1 = (e.evaluate [] stages context).1) ∧
    (∀ stage payload, (e.assessAs stage (e.memoAfter memo uses) payload).1 = (e.assessAs stage [] payload).1) ∧
    (∀ cs, (Luhn.check (e.memoAfter memo uses) cs).1 = true ↔
      (13 ≤ (cs.filter Char.isDigit).length ∧ (cs.filter Char.isDigit).length ≤ 19) ∧
        Luhn.valid (cs.filter Char.isDigit) = true) ∧
    ∀ (pasts : Rules.Compiled → Span → List Use) (rules : List Rules.Compiled) (limit : ℕ) (text : List Char),
      ((Detect.checkSize limit text).map fun _ =>
          Finding.resolve (Detect.candidatesUnder (fun r s => e.memoAfter memo (pasts r s)) rules text))
        = (Detect.pii rules limit [] text).1 := by
  have hnow := sound_memoAfter (e := e) hm uses
  refine ⟨fun stages context => ?_, fun stage payload => ?_, fun cs => ?_, fun pasts rules limit text => ?_⟩
  · exact evaluate_memo hnow Luhn.Memo.sound_nil stages context
  · exact assessAs_memo hnow Luhn.Memo.sound_nil stage payload
  · exact Luhn.check_iff hnow cs
  · exact (Detect.pii_under Luhn.Memo.sound_nil (fun r s => sound_memoAfter hm (pasts r s)) rules limit text).symm

/-- One rule, for card numbers of sixteen digits. -/
def cardRules : Rules.RuleSet where
  version := "1"
  patterns := ⟨[⟨"card", .creditCard, "[0-9]\x7b16\x7d", 1, 1⟩], [], []⟩
  scoring := .standard

/-- A card number that was checked and evaluated and forgotten in between is one as at first. -/
theorem evaluate_memoAfter_card : Luhn.Memo.Sound [("4111111111111111".toList, true)] ∧
    ∃ e, ofRules cardRules = .ok e ∧
      (e.evaluate (e.memoAfter [("4111111111111111".toList, true)] [.checks "4111111111111111".toList,
        .evicts fun _ => false, .evaluates ⟨"4111 1111 1111 1112", none, none⟩ (.anonymous "r")])
        ⟨"4111111111111111", none, none⟩ (.anonymous "s")).1
      = (e.evaluate [] ⟨"4111111111111111", none, none⟩ (.anonymous "s")).1 := by
  have hsound : Luhn.Memo.Sound [("4111111111111111".toList, true)] :=
    Luhn.Memo.sound_nil.cons "4111111111111111".toList
  obtain ⟨e, he, -⟩ := ofRules_of_validate (r := cardRules) (by decide +kernel)
  exact ⟨hsound, e, he, (e.evaluate_memoAfter hsound _).1 _ _⟩

end Engine

end Guardrail
