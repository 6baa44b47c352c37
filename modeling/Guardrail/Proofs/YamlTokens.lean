import Guardrail.Proofs.YamlScan
import Guardrail.Proofs.YamlNumbers

/-!
The tokens of a written YAML text.

A value is written as lines, and where it stands depends on what is in front of it: an item goes on behind its
dash, the value of a member behind the colon or on the lines below. `Reads` says of a value that the scanner gets
over its text in both places and has its tokens then; it is proved by induction on the value.
-/

namespace Guardrail.Json

mutual
/-- The keys in a value. -/
def keys : Json → List String
  | .arr items => itemKeys items
  | .obj members => memberKeys members
  | _ => []
/-- The keys in items. -/
def itemKeys : List Json → List String
  | [] => []
  | j :: rest => keys j ++ itemKeys rest
/-- The keys in members, their own among them. -/
def memberKeys : List (String × Json) → List String
  | [] => []
  | (k, j) :: rest => k :: keys j ++ memberKeys rest
end

lemma itemKeys_eq (items : List Json) : itemKeys items = items.flatMap keys := by
  induction items with
  | nil => rfl
  | cons j items ih => simp [itemKeys, ih]

lemma memberKeys_eq (members : List (String × Json)) :
    memberKeys members = members.flatMap fun m => m.1 :: m.2.keys := by
  induction members with
  | nil => rfl
  | cons m members ih => simp [memberKeys, ih]

lemma forall_keys_arr {P : String → Prop} {items : List Json} :
    (∀ k ∈ (Json.arr items).keys, P k) ↔ ∀ j ∈ items, ∀ k ∈ j.keys, P k := by
  rw [keys, itemKeys_eq, List.forall_mem_flatMap]

lemma forall_keys_obj {P : String → Prop} {members : List (String × Json)} :
    (∀ k ∈ (Json.obj members).keys, P k) ↔ ∀ m ∈ members, P m.1 ∧ ∀ k ∈ m.2.keys, P k := by
  rw [keys, memberKeys_eq, List.forall_mem_flatMap]
  simp only [List.forall_mem_cons]

end Guardrail.Json

namespace Guardrail.Yaml

open Scan

/-! ### Lines -/

/-- Lines behind an indentation. -/
def indented (c : ℕ) (lines : List (List Char)) : List Char :=
  lines.flatMap fun line => List.replicate c ' ' ++ line ++ ['\n']

/-- Lines behind an indentation that the first of them has behind it already. -/
def laid (c : ℕ) : List (List Char) → List Char
  | [] => []
  | line :: lines => line ++ '\n' :: indented c lines

lemma indented_eq (c : ℕ) {lines : List (List Char)} (h : lines ≠ []) :
    indented c lines = List.replicate c ' ' ++ laid c lines := by
  cases lines with
  | nil => exact absurd rfl h
  | cons line lines => simp [indented, laid]

lemma indented_append (c : ℕ) (lines more : List (List Char)) :
    indented c (lines ++ more) = indented c lines ++ indented c more := by
  simp [indented]

/-- Two more blanks in front of each line. -/
lemma indented_shifted (c : ℕ) (lines : List (List Char)) :
    indented c (lines.map fun line => ' ' :: ' ' :: line) = indented (c + 2) lines := by
  simp [indented, List.flatMap_map, List.replicate_succ']

lemma laid_append (c : ℕ) {lines : List (List Char)} (h : lines ≠ []) (more : List (List Char)) :
    laid c (lines ++ more) = laid c lines ++ indented c more := by
  cases lines with
  | nil => exact absurd rfl h
  | cons line lines => simp [laid, indented_append]

lemma laid_dashed (c : ℕ) {lines : List (List Char)} (h : lines ≠ []) :
    laid c (dashed lines) = '-' :: ' ' :: laid (c + 2) lines := by
  cases lines with
  | nil => exact absurd rfl h
  | cons line lines => simp [dashed, laid, indented_shifted]

lemma keyed_ne_nil (k : String) (j : Json) (lines : List (List Char)) : keyed k j lines ≠ [] := by
  unfold keyed
  split
  · exact List.cons_ne_nil _ _
  · exact List.cons_ne_nil _ _
  · split <;> exact List.cons_ne_nil _ _

lemma block_ne_nil (j : Json) : block j ≠ [] := by
  induction j using Json.forall_of_parts with
  | null => exact List.cons_ne_nil _ _
  | bool b => exact List.cons_ne_nil _ _
  | num n => exact List.cons_ne_nil _ _
  | str s => exact List.cons_ne_nil _ _
  | arr items ih =>
    cases items with
    | nil => exact List.cons_ne_nil _ _
    | cons j items =>
      obtain ⟨line, lines, h⟩ := List.exists_cons_of_ne_nil (ih j List.mem_cons_self)
      simp [block, itemBlocks, h, dashed]
  | obj members ih =>
    cases members with
    | nil => exact List.cons_ne_nil _ _
    | cons m members => simp [block, memberBlocks, keyed_ne_nil]

/-! ### The tokens of a value -/

/-- The token of a text. -/
abbrev textToken (s : String) : Token := .scalar s (decide (quotesFor s = .none))

mutual
/-- The tokens of a value. Those of a list that is not indented have no marks around them. -/
def tokens (indentless : Bool) : Json → List Token
  | .null => [.scalar "null" true]
  | .bool b => [.scalar (if b then "true" else "false") true]
  | .num n => [.scalar (String.ofList (numberChars n)) true]
  | .str s => [textToken s]
  | .arr [] => [.flowSequence, .flowSequenceEnd]
  | .arr (j :: rest) =>
    if indentless then itemTokens (j :: rest) else .blockSequence :: itemTokens (j :: rest) ++ [.blockEnd]
  | .obj [] => [.flowMapping, .flowMappingEnd]
  | .obj (m :: rest) => .blockMapping :: memberTokens (m :: rest) ++ [.blockEnd]
/-- The tokens of items. -/
def itemTokens : List Json → List Token
  | [] => []
  | j :: rest => .blockEntry :: tokens false j ++ itemTokens rest
/-- The tokens of members. -/
def memberTokens : List (String × Json) → List Token
  | [] => []
  | (k, j) :: rest => .key :: textToken k :: .value :: tokens true j ++ memberTokens rest
end

/-- What stands behind the colon of a member. -/
def afterColon (c : ℕ) (j : Json) : List Char :=
  match j with
  | .obj (_ :: _) => '\n' :: indented (c + 2) (block j)
  | .arr (_ :: _) => '\n' :: indented c (block j)
  | j => ' ' :: laid c (block j)

lemma laid_keyed (c : ℕ) (k : String) (j : Json) :
    laid c (keyed k j (block j)) = textChars k ++ ':' :: afterColon c j := by
  unfold keyed afterColon
  split
  · simp [laid, indented_shifted]
  · simp [laid]
  · obtain ⟨line, lines, h⟩ := List.exists_cons_of_ne_nil (block_ne_nil j)
    simp [h, laid]

/-- A value is read where its text stands: behind a dash, as it is there that a key may begin, and behind a colon. -/
structure Reads (j : Json) : Prop where
  item : ∀ (c k : ℕ) (rest : List Char) (ts : List Token) (indents : List ℤ), Starts rest →
    (k : ℤ) ≤ indents.headD (-1) → indents.headD (-1) < c →
    Spot.Leads ⟨laid c (block j) ++ List.replicate k ' ' ++ rest, c, ts, indents, true⟩
      ⟨rest, k, ts ++ tokens false j, indents, true⟩
  member : ∀ (c d k : ℕ) (rest : List Char) (ts : List Token) (indents : List ℤ), Starts rest →
    indents.headD (-1) = c → k ≤ c → c < d →
    Spot.Leads ⟨afterColon c j ++ List.replicate k ' ' ++ rest, d, ts, indents, false⟩
      ⟨rest, k, ts ++ tokens true j, indents, true⟩

/-- A value that takes one line. -/
lemma reads_line {j : Json} {line : List Char} {new : List Token} (hline : block j = [line])
    (htokens : ∀ indentless, tokens indentless j = new) (hcolon : ∀ c, afterColon c j = ' ' :: laid c (block j))
    (h : ∀ (a : Spot) (k : ℕ) (rest : List Char), a.rest = line ++ '\n' :: List.replicate k ' ' ++ rest → Starts rest →
      (k : ℤ) ≤ a.indent → a.indent < a.column → a.Leads ⟨rest, k, a.tokens ++ new, a.indents, true⟩) : Reads j where
  item c k rest ts indents hstarts hk hc := by
    rw [htokens]
    exact h _ k rest (by simp [hline, laid, indented]) hstarts hk hc
  member c d k rest ts indents hstarts hc hk hd := by
    rw [htokens, hcolon]
    have hblank : Spot.Leads ⟨' ' :: laid c (block j) ++ List.replicate k ' ' ++ rest, d, ts, indents, false⟩
        ⟨laid c (block j) ++ List.replicate k ' ' ++ rest, d + 1, ts, indents, false⟩ :=
      Spot.leads_blanks (k := 1) (by simp)
    refine hblank.trans (h _ k rest (by simp [hline, laid, indented]) hstarts ?_ ?_)
    · change (k : ℤ) ≤ indents.headD (-1)
      omega
    · change indents.headD (-1) < ((d + 1 : ℕ) : ℤ)
      omega

lemma reads_scalar {j : Json} {line : List Char} {t : Token} (hline : block j = [line])
    (htokens : ∀ indentless, tokens indentless j = [t]) (hcolon : ∀ c, afterColon c j = ' ' :: laid c (block j))
    (h : Writes line t) : Reads j :=
  reads_line hline htokens hcolon fun _ _ _ hrest hstarts hk hc => Spot.leads_scalar h hrest hstarts hk hc

lemma headD_opened {c : ℕ} {indents : List ℤ} (h : indents.headD (-1) ≤ c) :
    (Spot.opened c indents).headD (-1) = c := by
  unfold Spot.opened
  split
  · next hopen => exact le_antisymm h hopen
  · rfl

lemma opening_opened {c : ℕ} {indents : List ℤ} (h : indents.headD (-1) ≤ c) (t : Token) :
    Spot.opening c (Spot.opened c indents) t = [] := if_pos (headD_opened h).ge

lemma opened_opened {c : ℕ} {indents : List ℤ} (h : indents.headD (-1) ≤ c) :
    Spot.opened c (Spot.opened c indents) = Spot.opened c indents := if_pos (headD_opened h).ge

lemma itemBlocks_ne_nil {items : List Json} (h : items ≠ []) : itemBlocks items ≠ [] := by
  cases items with
  | nil => exact absurd rfl h
  | cons j items => exact block_ne_nil (.arr (j :: items))

/-- The first item, and what is left behind it. -/
lemma laid_itemBlocks (c : ℕ) (j : Json) (items : List Json) :
    laid c (itemBlocks (j :: items)) = '-' :: ' ' :: laid (c + 2) (block j) ++ indented c (itemBlocks items) := by
  have hdashed : dashed (block j) ≠ [] := by simpa [itemBlocks] using itemBlocks_ne_nil (List.cons_ne_nil j [])
  rw [itemBlocks, laid_append c hdashed, laid_dashed c (block_ne_nil j)]

/-- Items, one below the other. The first of them opens a list, unless the column is that of an open collection. -/
lemma leads_items {items : List Json} (hne : items ≠ []) (hitems : ∀ j ∈ items, Reads j) {c k : ℕ} {rest : List Char}
    (hstarts : Starts rest) (hk : k ≤ c) (ts : List Token) {indents : List ℤ} (h : indents.headD (-1) ≤ c) :
    Spot.Leads ⟨laid c (itemBlocks items) ++ List.replicate k ' ' ++ rest, c, ts, indents, true⟩
      ⟨rest, k, ts ++ Spot.opening c indents .blockSequence ++ itemTokens items, Spot.opened c indents, true⟩ := by
  induction items generalizing ts indents with
  | nil => exact absurd rfl hne
  | cons j items ih =>
    obtain ⟨hj, hitems⟩ := List.forall_mem_cons.mp hitems
    rw [laid_itemBlocks]
    -- behind the first dash the list is open at this column, so the other items open nothing
    have hopened := headD_opened h
    refine (Spot.leads_dash h).trans ?_
    by_cases hlast : items = []
    · subst hlast
      have hread := hj.item (c + 2) k rest (ts ++ Spot.opening c indents .blockSequence ++ [.blockEntry])
        (Spot.opened c indents) hstarts (by omega) (by omega)
      simpa [itemBlocks, itemTokens, indented] using hread
    · have hnext : Starts (laid c (itemBlocks items) ++ List.replicate k ' ' ++ rest) := by
        obtain ⟨j', items, rfl⟩ := List.exists_cons_of_ne_nil hlast
        rw [laid_itemBlocks]
        rintro _ ⟨⟩
        decide
      have hread := hj.item (c + 2) c _ (ts ++ Spot.opening c indents .blockSequence ++ [.blockEntry])
        (Spot.opened c indents) hnext hopened.ge (by omega)
      have hothers := ih hlast hitems (ts ++ Spot.opening c indents .blockSequence ++ [.blockEntry] ++ tokens false j)
        hopened.le
      rw [opening_opened h, opened_opened h] at hothers
      rw [indented_eq c (itemBlocks_ne_nil hlast)]
      simpa [itemTokens] using hread.trans hothers

lemma memberBlocks_ne_nil {members : List (String × Json)} (h : members ≠ []) : memberBlocks members ≠ [] := by
  cases members with
  | nil => exact absurd rfl h
  | cons m members => exact block_ne_nil (.obj (m :: members))

/-- The first member, and what is left behind it. -/
lemma laid_memberBlocks (c : ℕ) (m : String × Json) (members : List (String × Json)) :
    laid c (memberBlocks (m :: members)) =
      textChars m.1 ++ ':' :: (afterColon c m.2 ++ indented c (memberBlocks members)) := by
  rw [memberBlocks, laid_append c (keyed_ne_nil _ _ _), laid_keyed]
  simp

lemma starts_textChars (s : String) (more : List Char) : Starts (textChars s ++ more) := by
  obtain ⟨c, cs, h, hstarts⟩ := Spot.starts_of_writes (writes_textChars s)
  rw [h]
  exact hstarts

lemma atGap_afterColon (c : ℕ) (j : Json) (more : List Char) : atGap (afterColon c j ++ more) = true := by
  unfold afterColon
  split <;> rfl

/-- Members, one below the other. The first of them opens an object, unless the column is that of an open
collection. -/
lemma leads_members {members : List (String × Json)} (hne : members ≠ [])
    (hmembers : ∀ m ∈ members, (textChars m.1).length ≤ 1024 ∧ Reads m.2) {c k : ℕ} {rest : List Char}
    (hstarts : Starts rest) (hk : k ≤ c) (ts : List Token) {indents : List ℤ} (h : indents.headD (-1) ≤ c) :
    Spot.Leads ⟨laid c (memberBlocks members) ++ List.replicate k ' ' ++ rest, c, ts, indents, true⟩
      ⟨rest, k, ts ++ Spot.opening c indents .blockMapping ++ memberTokens members, Spot.opened c indents, true⟩ := by
  induction members generalizing ts indents with
  | nil => exact absurd rfl hne
  | cons m members ih =>
    obtain ⟨⟨hlength, hvalue⟩, hmembers⟩ := List.forall_mem_cons.mp hmembers
    have hopened := headD_opened h
    have hkey := Spot.leads_key
      (afterColon c m.2 ++ indented c (memberBlocks members) ++ List.replicate k ' ' ++ rest) ts
      (writes_textChars m.1) hlength (by simp [atGap_afterColon]) h
    by_cases hlast : members = []
    · subst hlast
      have hread := hvalue.member c (c + (textChars m.1).length + 1) k rest
        (ts ++ Spot.opening c indents .blockMapping ++ [.key, textToken m.1, .value])
        (Spot.opened c indents) hstarts hopened hk (by omega)
      rw [laid_memberBlocks]
      simpa [memberBlocks, memberTokens, indented] using hkey.trans (by simpa [memberBlocks, indented] using hread)
    · have hnext : Starts (laid c (memberBlocks members) ++ List.replicate k ' ' ++ rest) := by
        obtain ⟨m', members, rfl⟩ := List.exists_cons_of_ne_nil hlast
        rw [laid_memberBlocks, List.append_assoc, List.append_assoc]
        exact starts_textChars _ _
      have hread := hvalue.member c (c + (textChars m.1).length + 1) c _
        (ts ++ Spot.opening c indents .blockMapping ++ [.key, textToken m.1, .value])
        (Spot.opened c indents) hnext hopened le_rfl (by omega)
      have hothers := ih hlast hmembers (ts ++ Spot.opening c indents .blockMapping ++
        [.key, textToken m.1, .value] ++ tokens true m.2) hopened.le
      rw [opening_opened h, opened_opened h] at hothers
      rw [indented_eq c (memberBlocks_ne_nil hlast)] at hkey
      rw [laid_memberBlocks, indented_eq c (memberBlocks_ne_nil hlast)]
      simpa [memberTokens] using hkey.trans (by simpa using hread.trans hothers)

lemma opening_of_lt {c : ℕ} {indents : List ℤ} (h : indents.headD (-1) < c) (t : Token) :
    Spot.opening c indents t = [t] := if_neg (not_le.mpr h)

lemma opened_of_lt {c : ℕ} {indents : List ℤ} (h : indents.headD (-1) < c) :
    Spot.opened c indents = (c : ℤ) :: indents :=
  if_neg (not_le.mpr h)

lemma reads_emptyArr : Reads (.arr []) := by
  refine reads_line rfl (fun _ => rfl) (fun _ => rfl) fun a k rest hrest hstarts _ hc => ?_
  refine Spot.leads_brackets hrest hstarts hc (by rintro _ ⟨⟩; decide) (by rintro _ ⟨⟩; decide) ?_ ?_
  · intro s more hs
    simp [token?, atMarker, hs]
  · intro s more hs
    simp [token?, atMarker, hs]

lemma reads_emptyObj : Reads (.obj []) := by
  refine reads_line rfl (fun _ => rfl) (fun _ => rfl) fun a k rest hrest hstarts _ hc => ?_
  refine Spot.leads_brackets hrest hstarts hc (by rintro _ ⟨⟩; decide) (by rintro _ ⟨⟩; decide) ?_ ?_
  · intro s more hs
    simp [token?, atMarker, hs]
  · intro s more hs
    simp [token?, atMarker, hs]

lemma reads_arr {j : Json} {items : List Json} (h : ∀ k ∈ j :: items, Reads k) : Reads (.arr (j :: items)) where
  item c k rest ts indents hstarts hk hc := by
    have hitems := leads_items (List.cons_ne_nil j items) h hstarts (show k ≤ c by omega) ts hc.le
    rw [opening_of_lt hc, opened_of_lt hc] at hitems
    have hclosed := hitems.trans (Spot.leads_close hstarts rfl (show (k : ℤ) < c by omega))
    simpa [block, tokens] using hclosed
  member c d k rest ts indents hstarts hc hk _ := by
    -- the list stands in the column of the object around it: nothing is opened, and nothing closed
    have hnewline : Spot.Leads ⟨afterColon c (.arr (j :: items)) ++ List.replicate k ' ' ++ rest, d, ts, indents, false⟩
        ⟨laid c (itemBlocks (j :: items)) ++ List.replicate k ' ' ++ rest, c, ts, indents, true⟩ :=
      Spot.leads_newline (by simp [afterColon, block, indented_eq c (itemBlocks_ne_nil (List.cons_ne_nil j items))])
    have hitems := leads_items (List.cons_ne_nil j items) h hstarts hk ts hc.le
    rw [Spot.opening, Spot.opened, if_pos hc.ge, if_pos hc.ge] at hitems
    simpa [tokens] using hnewline.trans hitems

lemma reads_obj {m : String × Json} {members : List (String × Json)}
    (h : ∀ n ∈ m :: members, (textChars n.1).length ≤ 1024 ∧ Reads n.2) : Reads (.obj (m :: members)) where
  item c k rest ts indents hstarts hk hc := by
    have hmembers := leads_members (List.cons_ne_nil m members) h hstarts (show k ≤ c by omega) ts hc.le
    rw [opening_of_lt hc, opened_of_lt hc] at hmembers
    have hclosed := hmembers.trans (Spot.leads_close hstarts rfl (show (k : ℤ) < c by omega))
    simpa [block, tokens] using hclosed
  member c d k rest ts indents hstarts hc hk _ := by
    have hnewline : Spot.Leads
        ⟨afterColon c (.obj (m :: members)) ++ List.replicate k ' ' ++ rest, d, ts, indents, false⟩
        ⟨laid (c + 2) (memberBlocks (m :: members)) ++ List.replicate k ' ' ++ rest, c + 2, ts, indents, true⟩ :=
      Spot.leads_newline
        (by simp [afterColon, block, indented_eq (c + 2) (memberBlocks_ne_nil (List.cons_ne_nil m members))])
    have hdeeper : indents.headD (-1) < ((c + 2 : ℕ) : ℤ) := by omega
    have hmembers := leads_members (List.cons_ne_nil m members) h hstarts (show k ≤ c + 2 by omega) ts hdeeper.le
    rw [opening_of_lt hdeeper, opened_of_lt hdeeper] at hmembers
    have hclosed := hmembers.trans (Spot.leads_close hstarts rfl (show (k : ℤ) < ((c + 2 : ℕ) : ℤ) by omega))
    simpa [tokens] using hnewline.trans hclosed

lemma writes_null : Writes "null".toList (.scalar "null" true) :=
  .plain ⟨by decide, by rintro _ _ ⟨⟩; decide, by decide⟩

lemma writes_bool (b : Bool) :
    Writes (if b then "true" else "false").toList (.scalar (if b then "true" else "false") true) := by
  cases b
  · have hword : Word "false".toList := ⟨by decide, by rintro _ _ ⟨⟩; decide, by decide⟩
    exact .plain hword
  · have hword : Word "true".toList := ⟨by decide, by rintro _ _ ⟨⟩; decide, by decide⟩
    exact .plain hword

/-- **Values.** A value is read where its text stands, if its keys are short enough to be taken for keys. -/
lemma reads {j : Json} (hkeys : ∀ k ∈ j.keys, (textChars k).length ≤ 1024) : Reads j := by
  induction j using Json.forall_of_parts with
  | null => exact reads_scalar rfl (fun _ => rfl) (fun _ => rfl) writes_null
  | bool b => exact reads_scalar rfl (fun _ => by rw [tokens]) (fun _ => rfl) (writes_bool b)
  | num n =>
    exact reads_scalar rfl (fun _ => by rw [tokens]) (fun _ => rfl) (.plain (word_numberChars n))
  | str s => exact reads_scalar rfl (fun _ => by rw [tokens]) (fun _ => rfl) (writes_textChars s)
  | arr items ih =>
    cases items with
    | nil => exact reads_emptyArr
    | cons j items =>
      rw [Json.forall_keys_arr] at hkeys
      exact reads_arr fun k hk => ih k hk (hkeys k hk)
  | obj members ih =>
    cases members with
    | nil => exact reads_emptyObj
    | cons m members =>
      rw [Json.forall_keys_obj] at hkeys
      exact reads_obj fun k hk => ⟨(hkeys k hk).1, ih k hk (hkeys k hk).2⟩

lemma all_end (fuel index line : ℕ) (ts : List Token) :
    Scan.all (fuel + 1) (Spot.scan ⟨[], 0, ts, [0, -1], true⟩ index line none) =
      some (ts ++ [Token.blockEnd, Token.streamEnd]).toArray := by
  have hsettled : (Spot.scan ⟨[], 0, ts, [0, -1], true⟩ index line none).settle? =
      some (Spot.scan ⟨[], 0, ts, [0, -1], true⟩ index line none) :=
    Spot.settle?_of_le (by rintro _ ⟨⟩) (by simp [Spot.indent])
  simp only [Scan.all, next?, hsettled, bind, Option.bind_some]
  simp [Spot.scan, unroll, inFlow, unrollFrom, dropKey, emit]

/-- All tokens of the text of an object. -/
lemma all_write {m : String × Json} {members : List (String × Json)}
    (h : ∀ n ∈ m :: members, (textChars n.1).length ≤ 1024 ∧ Reads n.2) {cs : List Char}
    (hcs : cs = (write (.obj (m :: members))).toList) : (Scan.initial cs).all (cs.length + 2) =
      some (.blockMapping :: memberTokens (m :: members) ++ [Token.blockEnd, Token.streamEnd]).toArray := by
  have hlaid : cs = laid 0 (memberBlocks (m :: members)) ++ List.replicate 0 ' ' ++ [] := by
    have hindented := indented_eq 0 (memberBlocks_ne_nil (List.cons_ne_nil m members))
    rw [hcs]
    simpa [write, block, indented] using hindented
  have hmembers : Spot.Leads ⟨cs, 0, [], [-1], true⟩
      ⟨[], 0, .blockMapping :: memberTokens (m :: members), [0, -1], true⟩ := by
    rw [hlaid]
    exact leads_members (List.cons_ne_nil m members) h (by rintro _ ⟨⟩) le_rfl [] (by decide)
  obtain ⟨n, index, line, hlength, hrun⟩ := hmembers 0 0
  obtain ⟨fuel, hfuel⟩ : ∃ fuel, cs.length + 2 = n + (fuel + 1) := ⟨cs.length + 1 - n, by simp at hlength; omega⟩
  have hread := hrun (fuel + 1)
  rw [all_end, ← hfuel] at hread
  exact hread

/-! ### Admitted characters -/

lemma isAdmitted_of_standsAlone {c : Char} (h : standsAlone c = true) : isAdmitted c = true := by
  have hvalid := toNat_lt c
  simp only [standsAlone, Bool.and_eq_true, Bool.or_eq_true, decide_eq_true_eq, bne_iff_ne] at h
  simp only [isAdmitted, Bool.or_eq_true, Bool.and_eq_true, beq_iff_eq, bne_iff_ne, decide_eq_true_eq]
  omega

lemma standsAlone_hexDigits (places n : ℕ) : (hexDigits places n).all standsAlone = true := by
  induction places generalizing n with
  | zero => rfl
  | succ places ih =>
    have hdigit (d : ℕ) (hd : d < 16) : standsAlone (hexDigit d) = true := by
      interval_cases d <;> decide
    rw [hexDigits, List.all_append, ih, Bool.true_and, List.all_cons, hdigit _ (Nat.mod_lt _ (by decide))]
    rfl

lemma standsAlone_escape (c : Char) : (escape c).all standsAlone = true := by
  unfold escape
  split
  case h_15 =>
    split
    · next halone => simpa using halone
    · split
      · exact standsAlone_hexDigits 2 c.toNat
      · split
        · exact standsAlone_hexDigits 4 c.toNat
        · exact standsAlone_hexDigits 8 c.toNat
  all_goals decide

lemma standsAlone_doubleQuote {c : Char} (h : standsAlone c = true) : (doubleQuote c).all standsAlone = true := by
  unfold doubleQuote
  split
  · decide
  · simpa using h

/-- A written scalar is made of characters that stand as they are. -/
lemma Scan.Writes.alone {w : List Char} {t : Token} (h : Writes w t) : ∀ c ∈ w, standsAlone c = true := by
  rw [← List.all_eq_true]
  cases h with
  | plain h => exact h.alone
  | single h =>
    have hall : (List.flatMap doubleQuote _).all standsAlone = true := List.all_flatMap.trans
      (List.all_eq_true.mpr fun c hc => standsAlone_doubleQuote (List.all_eq_true.mp h c hc))
    simp [hall]
    decide
  | double cs =>
    have hall : (cs.flatMap escape).all standsAlone = true :=
      List.all_flatMap.trans (List.all_eq_true.mpr fun c _ => standsAlone_escape c)
    simp [hall]
    decide

lemma alone_dashed {lines : List (List Char)} (h : ∀ line ∈ lines, ∀ c ∈ line, standsAlone c = true) :
    ∀ line ∈ dashed lines, ∀ c ∈ line, standsAlone c = true := by
  have hblank : standsAlone ' ' = true := by decide
  have hdash : standsAlone '-' = true := by decide
  cases lines with
  | nil => nofun
  | cons line lines => simpa [dashed, hblank, hdash] using h

lemma alone_keyed {k : String} {j : Json} {lines : List (List Char)}
    (h : ∀ line ∈ lines, ∀ c ∈ line, standsAlone c = true) :
    ∀ line ∈ keyed k j lines, ∀ c ∈ line, standsAlone c = true := by
  have hblank : standsAlone ' ' = true := by decide
  have hcolon : standsAlone ':' = true := by decide
  have hkey := (writes_textChars k).alone
  unfold keyed
  split
  · simpa [or_imp, forall_and, hblank, hcolon] using And.intro hkey h
  · simpa [or_imp, forall_and, hcolon] using And.intro hkey h
  · cases lines with
    | nil => simpa [or_imp, forall_and, hcolon] using hkey
    | cons line lines => simpa [or_imp, forall_and, hblank, hcolon, and_assoc] using And.intro hkey h

lemma alone_block (j : Json) : ∀ line ∈ block j, ∀ c ∈ line, standsAlone c = true := by
  induction j using Json.forall_of_parts with
  | null => simpa [block] using writes_null.alone
  | bool b => simpa [block] using (writes_bool b).alone
  | num n => simpa [block] using (word_numberChars n).alone
  | str s => simpa [block] using (writes_textChars s).alone
  | arr items ih =>
    cases items with
    | nil =>
      simp only [block, List.forall_mem_cons]
      exact ⟨⟨by decide, by decide, nofun⟩, nofun⟩
    | cons j items =>
      rw [block]
      generalize j :: items = items at ih
      induction items with
      | nil => nofun
      | cons j items ihitems =>
        obtain ⟨hj, hitems⟩ := List.forall_mem_cons.mp ih
        exact List.forall_mem_append.mpr ⟨alone_dashed hj, ihitems hitems⟩
  | obj members ih =>
    cases members with
    | nil =>
      simp only [block, List.forall_mem_cons]
      exact ⟨⟨by decide, by decide, nofun⟩, nofun⟩
    | cons m members =>
      rw [block]
      generalize m :: members = members at ih
      induction members with
      | nil => nofun
      | cons m members ihmembers =>
        obtain ⟨hm, hmembers⟩ := List.forall_mem_cons.mp ih
        exact List.forall_mem_append.mpr ⟨alone_keyed hm, ihmembers hmembers⟩

/-- A written text is admitted. -/
lemma isAdmitted_write (j : Json) : (write j).toList.all isAdmitted = true := by
  rw [List.all_eq_true]
  intro c hc
  simp only [write, String.toList_ofList, List.mem_flatMap, List.mem_append, List.mem_singleton] at hc
  obtain ⟨line, hline, hc | rfl⟩ := hc
  · exact isAdmitted_of_standsAlone (alone_block j line hline c hc)
  · decide

/-- **Tokens of a text.** What is written for an object is scanned as its tokens. -/
theorem tokens?_write {m : String × Json} {members : List (String × Json)}
    (hkeys : ∀ k ∈ (Json.obj (m :: members)).keys, (textChars k).length ≤ 1024) :
    tokens? (write (.obj (m :: members))).toList =
      some (.blockMapping :: memberTokens (m :: members) ++ [Token.blockEnd, Token.streamEnd]).toArray := by
  have hadmitted := isAdmitted_write (.obj (m :: members))
  have hall : ∀ n ∈ m :: members, (textChars n.1).length ≤ 1024 ∧ Reads n.2 := by
    rw [Json.forall_keys_obj] at hkeys
    exact fun k hk => ⟨(hkeys k hk).1, reads (hkeys k hk).2⟩
  have hread := all_write hall rfl
  generalize (write (.obj (m :: members))).toList = cs at hadmitted hread
  unfold tokens?
  split
  · simp at hadmitted
    exact absurd hadmitted.1 (by decide)
  · rw [if_pos hadmitted, hread]

end Guardrail.Yaml
