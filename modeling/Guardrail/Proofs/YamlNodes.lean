import Guardrail.Proofs.YamlTokens
import Guardrail.Proofs.YamlNumbers
import Guardrail.Proofs.Recovery

/-!
The document of a written YAML text.

The tokens of a value are read as its node, and the document of the node reproduces the value. Together with the
tokens of the text this says what is read from what is written.
-/

namespace Guardrail.Yaml

/-- The node of a text. -/
abbrev textNode (s : String) : Node := .scalar s (decide (quotesFor s = .none))

mutual
/-- The node of a value. -/
def node : Json → Node
  | .null => .scalar "null" true
  | .bool b => .scalar (if b then "true" else "false") true
  | .num n => .scalar (String.ofList (numberChars n)) true
  | .str s => textNode s
  | .arr items => .sequence (itemNodes items)
  | .obj members => .mapping (memberNodes members)
/-- The nodes of items. -/
def itemNodes : List Json → List Node
  | [] => []
  | j :: rest => node j :: itemNodes rest
/-- The nodes of members. -/
def memberNodes : List (String × Json) → List (Node × Node)
  | [] => []
  | (k, j) :: rest => (textNode k, node j) :: memberNodes rest
end

/-- A value is read from its tokens with so much fuel, whatever follows them. Behind the items of a list without
marks no further item may follow. -/
def Parses (j : Json) : Prop :=
  ∀ (handles : List String) (fuel : ℕ) (indentless : Bool) (rest : List Token) (anchors : List (String × Node)),
    2 * (tokens indentless j).length + 2 ≤ fuel → (indentless = true → startsWithAny [.blockEntry] rest = false) →
    nodeFrom handles fuel ⟨true, indentless⟩ ⟨tokens indentless j ++ rest, anchors⟩ = some (node j, ⟨rest, anchors⟩)

section Readers

variable (handles : List String) (fuel : ℕ)

/-- A node begins in front of the tokens of a value: none of the marks that leave one out stands there. -/
lemma startsWithAny_item (j : Json) (rest : List Token) :
    startsWithAny [.blockEntry, .blockEnd] (tokens false j ++ rest) = false ∧
      startsWithAny [.blockEntry, .key, .value, .blockEnd] (tokens false j ++ rest) = false := by
  rcases j with _ | _ | _ | _ | (_ | _) | (_ | _) <;> exact ⟨rfl, rfl⟩

lemma startsWithAny_member (j : Json) (rest : List Token) :
    startsWithAny [.key, .value, .blockEnd] (tokens true j ++ rest) = false := by
  rcases j with _ | _ | _ | _ | (_ | _) | (_ | _) <;> rfl

lemma nodeFrom_scalar (hfuel : 0 < fuel) (place : Place) (s : String) (plain : Bool) (rest : List Token)
    (anchors : List (String × Node)) : nodeFrom handles fuel place ⟨.scalar s plain :: rest, anchors⟩ =
      some (.scalar s plain, ⟨rest, anchors⟩) := by
  cases fuel with
  | zero => cases hfuel
  | succ fuel => rfl

lemma blockItems_tokens {items : List Json} (hitems : ∀ j ∈ items, Parses j) (done : List Node)
    (rest : List Token) (anchors : List (String × Node)) (hfuel : 2 * (itemTokens items).length + 1 ≤ fuel) :
    blockItems handles fuel done ⟨itemTokens items ++ .blockEnd :: rest, anchors⟩ =
      some (.sequence (done.reverse ++ itemNodes items), ⟨rest, anchors⟩) := by
  induction items generalizing fuel done with
  | nil =>
    obtain ⟨fuel, rfl⟩ : ∃ k, fuel = k + 1 := ⟨fuel - 1, by omega⟩
    simp [itemTokens, itemNodes, blockItems]
  | cons j items ih =>
    obtain ⟨fuel, rfl⟩ : ∃ k, fuel = k + 1 := ⟨fuel - 1, by omega⟩
    obtain ⟨hj, hitems⟩ := List.forall_mem_cons.mp hitems
    simp only [itemTokens, List.length_append, List.length_cons] at hfuel
    have hnode := hj handles fuel false (itemTokens items ++ .blockEnd :: rest) anchors (by omega)
      fun h => absurd h Bool.false_ne_true
    have hothers := ih fuel hitems (node j :: done) (by omega)
    simp only [itemTokens, List.cons_append, List.append_assoc, blockItems, (startsWithAny_item j _).1,
      Bool.false_eq_true, if_false, hnode, bind, Option.bind_some, hothers]
    simp [itemNodes]

lemma bareItems_tokens {items : List Json} (hitems : ∀ j ∈ items, Parses j) (done : List Node)
    {rest : List Token} (hrest : startsWithAny [.blockEntry] rest = false) (anchors : List (String × Node))
    (hfuel : 2 * (itemTokens items).length + 1 ≤ fuel) :
    bareItems handles fuel done ⟨itemTokens items ++ rest, anchors⟩ =
      some (.sequence (done.reverse ++ itemNodes items), ⟨rest, anchors⟩) := by
  induction items generalizing fuel done with
  | nil =>
    obtain ⟨fuel, rfl⟩ : ∃ k, fuel = k + 1 := ⟨fuel - 1, by omega⟩
    rw [itemTokens, itemNodes, List.nil_append, List.append_nil, bareItems]
    split
    · next heq =>
      change rest = _ at heq
      rw [heq] at hrest
      cases hrest
    · rfl
  | cons j items ih =>
    obtain ⟨fuel, rfl⟩ : ∃ k, fuel = k + 1 := ⟨fuel - 1, by omega⟩
    obtain ⟨hj, hitems⟩ := List.forall_mem_cons.mp hitems
    simp only [itemTokens, List.length_append, List.length_cons] at hfuel
    have hnode := hj handles fuel false (itemTokens items ++ rest) anchors (by omega)
      fun h => absurd h Bool.false_ne_true
    have hothers := ih fuel hitems (node j :: done) (by omega)
    simp only [itemTokens, List.cons_append, List.append_assoc, bareItems, (startsWithAny_item j _).2,
      Bool.false_eq_true, if_false, hnode, bind, Option.bind_some, hothers]
    simp [itemNodes]

/-- What follows a value in an object: a further key or the end of the object. -/
lemma startsWithAny_memberTokens (members : List (String × Json)) (rest : List Token) :
    startsWithAny [.blockEntry] (memberTokens members ++ .blockEnd :: rest) = false := by
  cases members <;> rfl

lemma blockValue_tokens {j : Json} (hj : Parses j) {rest : List Token}
    (hrest : startsWithAny [.blockEntry] rest = false) (anchors : List (String × Node))
    (hfuel : 2 * (tokens true j).length + 3 ≤ fuel) :
    blockValue handles fuel ⟨.value :: (tokens true j ++ rest), anchors⟩ = some (node j, ⟨rest, anchors⟩) := by
  obtain ⟨fuel, rfl⟩ : ∃ k, fuel = k + 1 := ⟨fuel - 1, by omega⟩
  have hnode := hj handles fuel true rest anchors (by omega) fun _ => hrest
  simp [blockValue, startsWithAny_member, hnode]

lemma blockMembers_tokens {members : List (String × Json)} (hmembers : ∀ m ∈ members, Parses m.2)
    (done : List (Node × Node)) (rest : List Token) (anchors : List (String × Node))
    (hfuel : 2 * (memberTokens members).length + 1 ≤ fuel) :
    blockMembers handles fuel done ⟨memberTokens members ++ .blockEnd :: rest, anchors⟩ =
      some (.mapping (done.reverse ++ memberNodes members), ⟨rest, anchors⟩) := by
  induction members generalizing fuel done with
  | nil =>
    obtain ⟨fuel, rfl⟩ : ∃ k, fuel = k + 1 := ⟨fuel - 1, by omega⟩
    simp [memberTokens, memberNodes, blockMembers]
  | cons m members ih =>
    obtain ⟨hm, hmembers⟩ := List.forall_mem_cons.mp hmembers
    simp only [memberTokens, List.length_append, List.length_cons] at hfuel
    obtain ⟨fuel, rfl⟩ : ∃ k, fuel = k + 1 := ⟨fuel - 1, by omega⟩
    have hfirst (more : List Token) : startsWithAny [.key, .value, .blockEnd] (textToken m.1 :: more) = false := rfl
    have hkey (more : List Token) : nodeFrom handles fuel ⟨true, true⟩ ⟨textToken m.1 :: more, anchors⟩ =
        some (textNode m.1, ⟨more, anchors⟩) := nodeFrom_scalar handles fuel (by omega) _ _ _ _ _
    have hvalue := blockValue_tokens handles fuel hm (startsWithAny_memberTokens members rest) anchors (by omega)
    have hothers := ih fuel hmembers ((textNode m.1, node m.2) :: done) (by omega)
    simp only [memberTokens, List.cons_append, List.append_assoc, blockMembers, hfirst, Bool.false_eq_true, if_false,
      hkey, bind, Option.bind_some, hvalue, hothers]
    simp [memberNodes]

end Readers

lemma parses_scalar {j : Json} {s : String} {plain : Bool}
    (htokens : ∀ indentless, tokens indentless j = [.scalar s plain]) (hnode : node j = .scalar s plain) :
    Parses j := by
  intro handles fuel indentless rest anchors hfuel _
  rw [htokens, hnode]
  exact nodeFrom_scalar handles fuel (by omega) _ _ _ _ _

/-- Every value is read from its tokens. -/
lemma parses (j : Json) : Parses j := by
  induction j using Json.forall_of_parts with
  | null => exact parses_scalar (fun _ => rfl) rfl
  | bool b => exact parses_scalar (fun _ => by rw [tokens]) (by rw [node])
  | num n => exact parses_scalar (fun _ => by rw [tokens]) (by rw [node])
  | str s => exact parses_scalar (fun _ => by rw [tokens]) (by rw [node])
  | arr items ih =>
    intro handles fuel indentless rest anchors hfuel hrest
    obtain ⟨fuel, rfl⟩ : ∃ k, fuel = k + 1 + 1 := ⟨fuel - 2, by omega⟩
    cases items with
    | nil => rfl
    | cons j items =>
      -- with its marks a list ends at the closing one, without them where no item follows
      cases indentless
      · simp only [tokens, Bool.false_eq_true, if_false, List.length_cons, List.length_append] at hfuel
        have hitems := blockItems_tokens handles (fuel + 1) ih [] rest anchors (by omega)
        simp [tokens, nodeFrom, properties, hitems, node]
      · simp only [tokens, if_true] at hfuel
        have hitems := bareItems_tokens handles (fuel + 1) ih [] (hrest rfl) anchors (by omega)
        simp only [itemTokens, List.cons_append, List.append_assoc] at hitems
        simp [tokens, itemTokens, nodeFrom, properties, hitems, node]
  | obj members ih =>
    intro handles fuel indentless rest anchors hfuel _
    obtain ⟨fuel, rfl⟩ : ∃ k, fuel = k + 1 + 1 := ⟨fuel - 2, by omega⟩
    cases members with
    | nil => rfl
    | cons m members =>
      simp only [tokens, List.length_cons, List.length_append] at hfuel
      have hmembers := blockMembers_tokens handles (fuel + 1) ih [] rest anchors (by omega)
      simp [tokens, nodeFrom, properties, hmembers, node]

/-- **Nodes of a text.** What is written for an object is read as its node. -/
theorem root?_write {m : String × Json} {members : List (String × Json)}
    (hkeys : ∀ k ∈ (Json.obj (m :: members)).keys, (textChars k).length ≤ 1024) :
    root? (write (.obj (m :: members))).toList = some (some (node (.obj (m :: members)))) := by
  have hparse := parses (.obj (m :: members)) [] (8 * (memberTokens (m :: members)).length + 32) false [.streamEnd] []
    (by simp [tokens]; omega) nofun
  simp only [tokens, List.cons_append, List.append_assoc, List.nil_append] at hparse
  have hlength : 8 * (.blockMapping :: (memberTokens (m :: members) ++ [Token.blockEnd, Token.streamEnd])).length + 8 =
      8 * (memberTokens (m :: members)).length + 32 := by
    simp
    omega
  unfold root?
  simp only [tokens?_write hkeys, bind, Option.bind_some, List.cons_append, directives, startsWithAny]
  rw [hlength]
  simp [hparse]
  rfl

open Decode (Reproduces Plain.natural? Plain.number?)

/-- A double is read back from its text without quotes. -/
def ReadsBack (x : Float) : Prop := Plain.number? (Decimal.Style.yaml.write x) = some x

lemma reproduces_num {n : Json.Number} (h : ∀ x, n = .float x → ReadsBack x) :
    Reproduces .yaml (.num n) (node (.num n)).toDocument := by
  cases n with
  | nat n =>
    refine .nat fun hn type => ?_
    have hread : Plain.natural? (toString n) = some n := by
      have hdigits := natural?_toDigits n
      rwa [← Nat.toList_repr, String.ofList_toList] at hdigits
    simp only [node, Node.toDocument, numberChars, Json.Number.text, String.ofList_toList, Decode.natural, hread]
    exact if_pos hn
  | neg n => exact .neg (.inr (by simp [node, Node.toDocument, numberChars]))
  | float x =>
    have hread : Plain.number? (Decimal.Style.yaml.write x) = some x := h x rfl
    refine .float fun _ => ?_
    simp [node, Node.toDocument, numberChars, Decode.number, hread]

lemma reproduces_word (s : String) (plain : Bool) : Reproduces .yaml (.str s) (Node.scalar s plain).toDocument := by
  cases plain
  · exact .str (.inl rfl)
  · exact .str (.inr rfl)

/-- The document that is read reproduces the value. -/
lemma reproduces_node {j : Json} (h : ∀ n ∈ j.numbers, ∀ x, n = .float x → ReadsBack x) :
    Reproduces .yaml j (node j).toDocument := by
  induction j using Json.forall_of_parts with
  | null => exact .null fun _ _ => rfl
  | bool b => cases b <;> exact .bool rfl
  | num n => exact reproduces_num (h n List.mem_cons_self)
  | str s => exact reproduces_word s _
  | arr items ih =>
    rw [Json.forall_numbers_arr] at h
    rw [node, Node.toDocument]
    induction items with
    | nil => exact .noItem
    | cons j items ihitems =>
      obtain ⟨hj, hitems⟩ := List.forall_mem_cons.mp ih
      obtain ⟨hread, hreads⟩ := List.forall_mem_cons.mp h
      rw [itemNodes, itemDocuments]
      exact .item (hj hread) (ihitems hitems hreads)
  | obj members ih =>
    rw [Json.forall_numbers_obj] at h
    rw [node, Node.toDocument]
    induction members with
    | nil => exact .noMember
    | cons m members ihmembers =>
      obtain ⟨hm, hmembers⟩ := List.forall_mem_cons.mp ih
      obtain ⟨hread, hreads⟩ := List.forall_mem_cons.mp h
      rw [memberNodes, memberDocuments]
      exact .member m.1 (hm hread) (ihmembers hmembers hreads)

end Guardrail.Yaml
