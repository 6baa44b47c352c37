import Guardrail.Proofs.LogWriters
import Guardrail.Proofs.Rereading
import Guardrail.Proofs.RuleTexts

/-!
Logs are read back.

There is no line break in the text of a document, whatever its texts contain, and only a line break has the byte of one:
split at these bytes, a log gives back the documents that were written into it, each in one piece. From its piece every
entry is decoded as it was, but for doubles that the reader does not give back. This holds of what calls side by side
write, in the order in which they take the lock.
-/

namespace Guardrail

open Decode

/-! ### Bytes -/

namespace Text

/-- The bytes of a text. -/
def bytes (cs : List Char) : List UInt8 := cs.flatMap String.utf8EncodeChar

/-- The bytes of a longer character are 128 or more. -/
lemma le_of_mem_utf8EncodeChar {c : Char} (h : ¬ c.val.toNat ≤ 127) : ∀ b ∈ String.utf8EncodeChar c, 128 ≤ b.toNat := by
  unfold String.utf8EncodeChar
  dsimp only
  rw [if_neg h]
  split_ifs
  all_goals
    simp only [List.forall_mem_cons, List.not_mem_nil, false_imp_iff, implies_true, and_true, UInt8.toNat_ofNat']
    omega

/-- Only a line break has the byte of a line break. -/
lemma newline_mem_utf8EncodeChar {c : Char} (h : 10 ∈ String.utf8EncodeChar c) : c = '\n' := by
  by_cases hone : c.val.toNat ≤ 127
  · simp only [String.utf8EncodeChar, if_pos hone, List.mem_singleton] at h
    have hc : 10 = c.val.toNat % 256 := by simpa using congrArg UInt8.toNat h
    exact Char.ext (UInt32.toNat_inj.mp (show c.val.toNat = 10 by omega))
  · exact absurd (le_of_mem_utf8EncodeChar hone 10 h) (by decide)

lemma newline_mem_bytes {cs : List Char} (h : 10 ∈ bytes cs) : '\n' ∈ cs := by
  obtain ⟨c, hc, hmem⟩ := List.mem_flatMap.mp h
  exact newline_mem_utf8EncodeChar hmem ▸ hc

lemma bytes_append (cs ds : List Char) : bytes (cs ++ ds) = bytes cs ++ bytes ds := List.flatMap_append

lemma fromUTF8?_bytes (cs : List Char) : String.fromUTF8? (bytes cs).toByteArray = some (String.ofList cs) :=
  dif_pos ⟨cs, rfl⟩

/-- Pieces without line breaks are what a text is split into if a line break follows on each. -/
lemma splitOn_flatMap {α : Type} (piece : α → List UInt8) (as : List α) (h : ∀ a ∈ as, 10 ∉ piece a) :
    (as.flatMap fun a => piece a ++ [10]).splitOn 10 = as.map piece ++ [[]] := by
  induction as with
  | nil => rfl
  | cons a as ih =>
    obtain ⟨ha, has⟩ := List.forall_mem_cons.mp h
    rw [List.flatMap_cons, List.append_assoc, List.singleton_append, List.splitOn_append_cons_self_of_not_mem ha,
      ih has, List.map_cons, List.cons_append]

end Text

/-! ### Numbers -/

lemma RiskScore.sized_members (s : RiskScore) : (Json.obj s.members).Sized := by
  simp [members, factorsToJson]

lemma Aggregate.sized_members {a : Aggregate} (h : a.Storable) : (Json.obj a.members).Sized := by
  have hshadow := h.breakdown.shadow
  unfold ShadowDetail.Storable at hshadow
  simpa [members, layersToJson, Breakdown.toJson, LayerDetail.toJson, factorsToJson, ShadowDetail.toJson] using hshadow

lemma Shadow.BreakerView.sized_members {v : BreakerView} (h : v.Storable) : (Json.obj v.members).Sized := by
  have hfailures := h.failures
  have hsuccesses := h.successes
  simp [members]
  omega

lemma Shadow.Result.sized_toJson {r : Result} (h : r.Storable) : r.toJson.Sized := by
  have htokens := h.tokens
  have hlatency := h.latency
  simp [toJson, Threat.toJson]
  omega

lemma Provider.Usage.sized_toJson {u : Usage} (h : u.Storable) : u.toJson.Sized := by
  obtain ⟨htotal, hprompt, hcompletion, hcalls, hhits, hkept⟩ := h
  simp [toJson]
  omega

lemma RequestContext.sized_toJson {c : RequestContext} (h : c.Storable) : c.toJson.Sized := by
  have hviolations := h.violations
  have hescalations := h.escalations
  simp [toJson]
  omega

namespace Audit

section

variable {σ α β τ : Type} {ofScore : σ → Json} {ofRisk : α → Json} {ofBreaker : β → Json} {P : σ → Prop} {Q : α → Prop}
  {R : β → Prop} {clock : Clock τ}

lemma Record.sized_members {r : Record σ α β} (h : r.Storable P Q R) (hscore : ∀ s, P s → (ofScore s).Sized)
    (hrisk : ∀ a, Q a → (ofRisk a).Sized) (hbreaker : ∀ b, R b → (ofBreaker b).Sized) :
    (Json.obj (r.members ofScore ofRisk ofBreaker)).Sized := by
  have hscores : ∀ s ∈ r.scores, (ofScore s).Sized := fun s hs => hscore s (h.scores s hs)
  have haggregated : ∀ a ∈ r.aggregated, (ofRisk a).Sized := fun a ha => hrisk a (h.aggregated a ha)
  have hbreakers : ∀ b ∈ r.breakers, (ofBreaker b).Sized := fun b hb => hbreaker b (h.breakers b hb)
  have hresults : ∀ x ∈ r.results, x.toJson.Sized := fun x hx => Shadow.Result.sized_toJson (h.results x hx)
  simpa [members, HardBlock.toJson, Provider.Usage.sized_toJson h.usage, RequestContext.sized_toJson h.context] using
    ⟨hscores, haggregated, hresults, hbreakers, h.latency⟩

lemma Record.sized_toJson {r : Record}
    (h : r.Storable RiskScore.Storable Aggregate.Storable Shadow.BreakerView.Storable) : r.toJson.Sized :=
  sized_members h (fun s _ => RiskScore.sized_members s) (fun _ ha => Aggregate.sized_members ha)
    fun _ hb => Shadow.BreakerView.sized_members hb

lemma Dated.sized_toJson {d : Dated τ α} {key : String} {members : α → List (String × Json)}
    (h : (Json.obj (members d.value)).Sized) : (d.toJson clock key members).Sized := by
  rw [Json.sized_obj] at h
  rw [toJson, Json.sized_obj, List.forall_mem_append]
  exact ⟨h, by simp [Clock.toJson]⟩

lemma Entry.sized_toJson {e : Entry τ} (h : Storable e) : (toJson clock e).Sized := by
  have hrecord : (Json.obj (DatedRecord.members clock e.value)).Sized :=
    Record.sized_members h (fun s _ => Dated.sized_toJson (RiskScore.sized_members s.value))
      (fun _ ha => Dated.sized_toJson (Aggregate.sized_members ha))
      fun _ hb => Dated.sized_toJson (Shadow.BreakerView.sized_members hb)
  rw [Json.sized_obj] at hrecord
  rw [toJson, Json.sized_obj]
  intro m hm
  rcases mem_members.mp hm with rfl | hm
  · exact Json.sized_str _
  · exact hrecord m hm

end

/-! ### Lines -/

variable {τ ι α : Type} {clock : Clock τ} {decoder : Decoder α} {j : Json} {a : α}

/-- Decodes a piece of a log. -/
def readPiece (decoder : Decoder α) (piece : List UInt8) : Except Fault α :=
  match String.fromUTF8? piece.toByteArray with
  | some text => ofJsonText decoder text
  | none => .error .malformed

lemma readPiece_bytes (decoder : Decoder α) (cs : List Char) :
    readPiece decoder (Text.bytes cs) = ofJsonText decoder (String.ofList cs) := by
  rw [readPiece, Text.fromUTF8?_bytes]

/-- A value is decoded from its text with the doubles that the reader takes their texts for. -/
lemma ofJsonText_chars {f : Float → Float} (h : Reads decoder (j.mapFloats f) a) (hsized : j.Sized)
    (hfloats : ∀ x ∈ j.floats, (Json.Number.float x).ReadsAs (.float (f x))) :
    ofJsonText decoder (String.ofList j.chars) = .ok a := by
  refine ofJsonText_ok.mpr ⟨(j.mapFloats f).toDocument, ?_, h⟩
  rw [String.toList_ofList]
  exact Json.textOf_chars j (hsized.readsAs hfloats)

/-- A value is decoded from its text if the doubles in it are read back. -/
lemma ofJsonText_chars_self (h : Reads decoder j a) (hsized : j.Sized)
    (hfloats : ∀ x ∈ j.floats, (Json.Number.float x).ReadsBack) : ofJsonText decoder (String.ofList j.chars) = .ok a :=
  ofJsonText_chars (f := id) (by rwa [Json.mapFloats_id]) hsized hfloats

lemma newline_not_mem_chars (j : Json) : '\n' ∉ j.chars :=
  fun h => absurd (Json.printable_chars j '\n' h) (by decide)

namespace Record

lemma splitLines_append (seen l rest : List Char) (hl : '\n' ∉ l) :
    splitLines seen (l ++ '\n' :: rest) = (seen.reverse ++ l) :: splitLines [] rest := by
  induction l generalizing seen with
  | nil => simp [splitLines]
  | cons c l ih =>
    have hc := List.ne_of_not_mem_cons hl
    simp [splitLines, Ne.symm hc, ih _ (List.not_mem_of_not_mem_cons hl)]

/-- The lines of a log are what was put into it, if there are no line breaks in that. -/
lemma splitLines_flatMap (lines : List (List Char)) (h : ∀ l ∈ lines, '\n' ∉ l) :
    splitLines [] (lines.flatMap (· ++ ['\n'])) = lines := by
  induction lines with
  | nil => rfl
  | cons l lines ih =>
    obtain ⟨hl, hlines⟩ := List.forall_mem_cons.mp h
    simp only [List.flatMap_cons, List.append_assoc, List.singleton_append]
    rw [splitLines_append [] l _ hl, ih hlines]
    rfl

/-- A log with a document in every line is read back. -/
lemma ofLines_flatMap {docs : ι → Json} {records : ι → Record} (is : List ι)
    (hreads : ∀ i ∈ is, Reads Record.decoder (docs i) (records i)) (hsized : ∀ i ∈ is, (docs i).Sized)
    (hfloats : ∀ i ∈ is, ∀ x ∈ (docs i).floats, (Json.Number.float x).ReadsBack) :
    ofLines (String.ofList (is.flatMap fun i => (docs i).chars ++ ['\n'])) = .ok (is.map records) := by
  have hlines : ∀ l ∈ is.map fun i => (docs i).chars, '\n' ∉ l :=
    List.forall_mem_map.mpr fun i _ => newline_not_mem_chars (docs i)
  have hsplit := splitLines_flatMap _ hlines
  rw [List.flatMap_map] at hsplit
  rw [ofLines, String.toList_ofList, hsplit, mapM_ok, List.forall₂_map_left_iff, List.forall₂_map_right_iff,
    List.forall₂_same]
  exact fun i hi => ofJsonText_chars_self (hreads i hi) (hsized i hi) (hfloats i hi)

end Record

namespace Sink

/-- What is written for records is their lines. -/
lemma foldl_add (records : ι → Record) (is : List ι) (log : String) :
    is.foldl (fun sink i => Sink.add (records i) sink) (Sink.lines log) =
      Sink.lines (log ++ String.ofList (is.flatMap fun i => (records i).line)) := by
  induction is generalizing log with
  | nil => simp
  | cons i is ih => rw [List.foldl_cons, Sink.add, Sink.hand, ih, List.flatMap_cons, String.ofList_append, String.append_assoc]

/-- Records that were written to a log one after another are read back. -/
theorem ofLines_log (records : List Record)
    (hstorable : ∀ r ∈ records, r.Storable RiskScore.Storable Aggregate.Storable Shadow.BreakerView.Storable)
    (hfloats : ∀ r ∈ records, ∀ x ∈ r.toJson.floats, (Json.Number.float x).ReadsBack) :
    Record.ofLines (records.foldl (fun sink r => Sink.add r sink) (Sink.lines "")).log = .ok records := by
  have hread : Record.ofLines (String.ofList (records.flatMap Record.line)) = .ok (records.map id) :=
    Record.ofLines_flatMap records (fun r hr => Record.reads (hstorable r hr))
      (fun r hr => Record.sized_toJson (hstorable r hr)) hfloats
  rw [List.map_id] at hread
  rw [foldl_add (fun r => r), log, String.empty_append]
  exact hread

end Sink

namespace Writers

variable [DecidableEq ι] {s : Writers ι}

/-- Calls side by side write what they would write one after another, in the order in which they take the lock. -/
theorem written_eq_log {records : ι → Record} (h : Reachable (fun i => Text.bytes (records i).line) s)
    (hdone : ∀ i, s.phase i = .done) :
    s.written = Text.bytes (s.order.foldl (fun sink i => Sink.add (records i) sink) (Sink.lines "")).log.toList := by
  obtain ⟨-, -, hwritten⟩ := h.written_of_done hdone
  rw [hwritten, Sink.foldl_add]
  simp [Sink.log, Text.bytes, List.flatMap_assoc]

/-- The log is a text, and what is read from it are the records of the entries. -/
theorem ofLines_written {entries : ι → Entry τ} (hstorable : ∀ i, Entry.Storable (entries i))
    (hfloats : ∀ i, ∀ x ∈ (Entry.toJson clock (entries i)).floats, (Json.Number.float x).ReadsBack)
    (h : Reachable (fun i => Text.bytes (Entry.line clock (entries i))) s) (hdone : ∀ i, s.phase i = .done) :
    ∃ log, String.fromUTF8? s.written.toByteArray = some log ∧
      Record.ofLines log = .ok (s.order.map fun i => Entry.plain (entries i)) := by
  obtain ⟨-, -, hwritten⟩ := h.written_of_done hdone
  have hbytes : s.written = Text.bytes (s.order.flatMap fun i => Entry.line clock (entries i)) := by
    simp [hwritten, Text.bytes, List.flatMap_assoc]
  refine ⟨String.ofList (s.order.flatMap fun i => Entry.line clock (entries i)), ?_, ?_⟩
  · rw [hbytes, Text.fromUTF8?_bytes]
  · exact Record.ofLines_flatMap s.order (fun i _ => Entry.reads_plain clock (hstorable i))
      (fun i _ => Entry.sized_toJson (hstorable i)) fun i _ => hfloats i

/-- An entry is decoded from the bytes of its document with the doubles that the reader takes their texts for. -/
lemma readPiece_chars (hclock : ∀ t, clock.read (clock.text t) = .ok t) {e : Entry τ} (h : Entry.Storable e)
    {f : Float → Float}
    (hfloats : ∀ x ∈ (Entry.toJson clock e).floats, (Json.Number.float x).ReadsAs (.float (f x))) :
    readPiece (Entry.decoder clock) (Text.bytes (Entry.toJson clock e).chars) = .ok (e.mapFloats f) := by
  have hread := Entry.reads hclock (h.mapFloats (f := f))
  rw [Entry.toJson_mapFloats] at hread
  rw [readPiece_bytes]
  exact ofJsonText_chars hread (Entry.sized_toJson h) hfloats

lemma readPiece_chars_self (hclock : ∀ t, clock.read (clock.text t) = .ok t) {e : Entry τ} (h : Entry.Storable e)
    (hfloats : ∀ x ∈ (Entry.toJson clock e).floats, (Json.Number.float x).ReadsBack) :
    readPiece (Entry.decoder clock) (Text.bytes (Entry.toJson clock e).chars) = .ok e := by
  rw [readPiece_bytes]
  exact ofJsonText_chars_self (Entry.reads hclock h) (Entry.sized_toJson h) hfloats

/-- Split at line breaks, a log gives back the documents of its entries. -/
lemma splitOn_written {entries : ι → Entry τ}
    (h : Reachable (fun i => Text.bytes (Entry.line clock (entries i))) s) (hdone : ∀ i, s.phase i = .done) :
    s.written.splitOn 10 = s.order.map (fun i => Text.bytes (Entry.toJson clock (entries i)).chars) ++ [[]] := by
  obtain ⟨-, -, hwritten⟩ := h.written_of_done hdone
  have hpieces : ∀ i ∈ s.order, 10 ∉ Text.bytes (Entry.toJson clock (entries i)).chars :=
    fun i _ hmem => newline_not_mem_chars _ (Text.newline_mem_bytes hmem)
  rw [hwritten, ← Text.splitOn_flatMap _ _ hpieces]
  simp only [Entry.line, Text.bytes_append]
  rfl

/-- **Logs.** When all calls are done, each took the lock once, and the bytes in the log, split at line breaks, are the
documents of their entries in the order in which they took it, with nothing left over. From its piece every entry is
decoded with the doubles that the reader takes their texts for, and as it was if the reader gives them all back. -/
theorem reads_back_entries (hclock : ∀ t, clock.read (clock.text t) = .ok t) {entries : ι → Entry τ}
    (hstorable : ∀ i, Entry.Storable (entries i))
    (h : Reachable (fun i => Text.bytes (Entry.line clock (entries i))) s) (hdone : ∀ i, s.phase i = .done) :
    (s.order.Nodup ∧ ∀ i, i ∈ s.order) ∧
    s.written.splitOn 10 = s.order.map (fun i => Text.bytes (Entry.toJson clock (entries i)).chars) ++ [[]] ∧
    ∀ i,
      (∀ f : Float → Float,
        (∀ x ∈ (Entry.toJson clock (entries i)).floats, (Json.Number.float x).ReadsAs (.float (f x))) →
        readPiece (Entry.decoder clock) (Text.bytes (Entry.toJson clock (entries i)).chars) =
          .ok ((entries i).mapFloats f)) ∧
      ((∀ x ∈ (Entry.toJson clock (entries i)).floats, (Json.Number.float x).ReadsBack) →
        readPiece (Entry.decoder clock) (Text.bytes (Entry.toJson clock (entries i)).chars) = .ok (entries i)) := by
  obtain ⟨hnodup, htaken, -⟩ := h.written_of_done hdone
  refine ⟨⟨hnodup, htaken⟩, splitOn_written h hdone, fun i => ⟨fun f hfloats => ?_, fun hfloats => ?_⟩⟩
  · exact readPiece_chars hclock (hstorable i) hfloats
  · exact readPiece_chars_self hclock (hstorable i) hfloats

/-- Times as they are written. -/
def plainClock : Clock String := ⟨id, .ok⟩

/-- An entry about a score. -/
def scored (requestId : String) (value : Float) (explanation : String) : Entry String where
  time := "2024-05-01T08:30:00Z"
  value :=
    { requestId, ruleVersion := "v1", ruling := .allow, reason := none, hardBlock := none
      scores := [⟨⟨.inputGuard, value, .low, [("pii_risk", 0.57)], explanation⟩, "2024-05-01T08:30:00Z"⟩]
      aggregated := none, escalated := false, results := [], usage := .zero, breakers := []
      context := .anonymous requestId, latency := 3 }

/-- Two entries, one of them with marks and line breaks in its texts. -/
def scoredTwice : Bool → Entry String
  | false => scored "a\r\n\"b\\\u2028" 0.25 "é\x00\n\n😀"
  | true => scored "c" 0.1 ""

lemma storable_scored (requestId explanation : String) (value : Float) :
    Entry.Storable (scored requestId value explanation) where
  scores := by simp [scored, RiskScore.Storable, Keyed.Ascending]
  aggregated := by simp [scored]
  results := by simp [scored]
  usage := by constructor <;> simp [scored, Provider.Usage.zero]
  breakers := by simp [scored]
  context := by constructor <;> simp [scored, RequestContext.anonymous, Keyed.Ascending]
  latency := by simp [scored]

theorem reads_back_entries_two :
    ∃ s : Writers Bool, s.order = [true, false] ∧
      s.written.splitOn 10 =
        [Text.bytes (Entry.toJson plainClock (scoredTwice true)).chars,
          Text.bytes (Entry.toJson plainClock (scoredTwice false)).chars, []] ∧
      ∀ i, readPiece (Entry.decoder plainClock) (Text.bytes (Entry.toJson plainClock (scoredTwice i)).chars) =
        .ok (scoredTwice i) := by
  obtain ⟨s, hs, horder, hdone⟩ := exists_reachable_done
    (fun i => Text.bytes (Entry.line plainClock (scoredTwice i))) [true, false] (by decide) (by decide)
  have hstorable : ∀ i, Entry.Storable (scoredTwice i)
    | false => storable_scored _ _ _
    | true => storable_scored _ _ _
  have hfloats : ∀ i, ∀ x ∈ (Entry.toJson plainClock (scoredTwice i)).floats, (Json.Number.float x).ReadsBack := by
    decide +kernel
  obtain ⟨-, hsplit, hread⟩ := reads_back_entries (fun _ => rfl) hstorable hs hdone
  refine ⟨s, horder, ?_, fun i => (hread i).2 (hfloats i)⟩
  rw [hsplit, horder]
  rfl

/-- The log of one entry. -/
lemma exists_log (clock : Clock τ) (e : Entry τ) : ∃ s : Writers Unit,
    Reachable (fun _ => Text.bytes (Entry.line clock e)) s ∧ (∀ i, s.phase i = .done) ∧
    s.written.splitOn 10 = [Text.bytes (Entry.toJson clock e).chars, []] := by
  obtain ⟨s, hs, horder, hdone⟩ := exists_reachable_done (fun _ => Text.bytes (Entry.line clock e)) [()]
    (List.nodup_singleton _) fun _ => List.mem_singleton.mpr rfl
  refine ⟨s, hs, hdone, ?_⟩
  rw [splitOn_written hs hdone, horder]
  rfl

/-- A reader that takes the text of a double for another one alters an entry in a log of finite numbers. -/
theorem entry_altered :
    ∃ (s : Writers Unit) (e : Entry String),
      Reachable (fun _ => Text.bytes (Entry.line plainClock (scored "a" (0.4 * 0.285) ""))) s ∧
      (∀ i, s.phase i = .done) ∧
      Entry.Storable (scored "a" (0.4 * 0.285) "") ∧
      (∀ x ∈ (Entry.toJson plainClock (scored "a" (0.4 * 0.285) "")).floats, x.isFinite = true) ∧
      s.written.splitOn 10 = [Text.bytes (Entry.toJson plainClock (scored "a" (0.4 * 0.285) "")).chars, []] ∧
      readPiece (Entry.decoder plainClock) (Text.bytes (Entry.toJson plainClock (scored "a" (0.4 * 0.285) "")).chars) =
        .ok e ∧
      e ≠ scored "a" (0.4 * 0.285) "" := by
  let taken (x : Float) : Float := if x = 0.4 * 0.285 then 0.114 else x
  obtain ⟨hfinite, hfloats, hscore⟩ :
      (∀ x ∈ (Entry.toJson plainClock (scored "a" (0.4 * 0.285) "")).floats, x.isFinite = true) ∧
      (∀ x ∈ (Entry.toJson plainClock (scored "a" (0.4 * 0.285) "")).floats,
        (Json.Number.float x).ReadsAs (.float (taken x))) ∧
      taken (0.4 * 0.285) ≠ 0.4 * 0.285 := by decide +kernel
  obtain ⟨s, hs, hdone, hsplit⟩ := exists_log plainClock (scored "a" (0.4 * 0.285) "")
  refine ⟨s, _, hs, hdone, storable_scored _ _ _, hfinite, hsplit,
    readPiece_chars (fun _ => rfl) (storable_scored _ _ _) hfloats, fun h => hscore ?_⟩
  have hscores := congrArg (fun e => e.value.scores.map fun s => s.value.value) h
  exact List.head_eq_of_cons_eq hscores

end Writers

end Audit

end Guardrail
