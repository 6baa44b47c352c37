import Guardrail.Yaml.Token
import Guardrail.Json.Document

/-!
The nodes of a YAML text.

A text holds one document. An alias stands for a copy of the node that its anchor marks.
-/

namespace Guardrail.Yaml

inductive Node where
  | scalar (text : String) (plain : Bool)
  | sequence (items : List Node)
  | mapping (members : List (Node × Node))
deriving Repr, BEq, Inhabited

def Node.empty : Node := .scalar "" true

/-- What reading a node leaves: the tokens after it and the nodes that anchors mark. -/
structure Remainder where
  tokens : List Token
  anchors : List (String × Node)

/-- Reads the anchor and the tag in front of a node, in any order and each at most once. Handles other than
the two standard ones have to be declared. -/
def properties (handles : List String) (tokens : List Token) : Option (Option String × Bool × List Token) :=
  let known (handle : String) : Bool := handle == "" || handle == "!" || handle == "!!" || handles.contains handle
  match tokens with
  | .anchor a :: .tag h _ :: rest => if known h then some (some a, true, rest) else none
  | .tag h _ :: .anchor a :: rest => if known h then some (some a, true, rest) else none
  | .anchor a :: rest => some (some a, true, rest)
  | .tag h _ :: rest => if known h then some (none, true, rest) else none
  | rest => some (none, false, rest)

/-- Whether the first token is among some. -/
def startsWithAny (ts : List Token) (tokens : List Token) : Bool :=
  match tokens with
  | t :: _ => ts.contains t
  | [] => false

/-- What may stand where a node is expected. -/
structure Place where
  /-- Block collections. -/
  block : Bool
  /-- A sequence that is not indented. -/
  indentless : Bool

mutual
def nodeFrom (handles : List String) : Nat → Place → Remainder → Option (Node × Remainder)
  | 0, _, _ => none
  | fuel + 1, place, r =>
    match r.tokens with
    | .alias name :: rest => (r.anchors.lookup name).map fun n => (n, { r with tokens := rest })
    | tokens => do
      let (anchor, marked, tokens) ← properties handles tokens
      let (node, after) ←
        match tokens with
        | .scalar text plain :: rest => some (.scalar text plain, { r with tokens := rest })
        | .flowSequence :: rest => flowItems handles fuel true [] { r with tokens := rest }
        | .flowMapping :: rest => flowMembers handles fuel true [] { r with tokens := rest }
        | .blockEntry :: _ =>
          if place.indentless then bareItems handles fuel [] { r with tokens }
          else if marked then some (.empty, { r with tokens }) else none
        | .blockSequence :: rest =>
          if place.block then blockItems handles fuel [] { r with tokens := rest }
          else if marked then some (.empty, { r with tokens }) else none
        | .blockMapping :: rest =>
          if place.block then blockMembers handles fuel [] { r with tokens := rest }
          else if marked then some (.empty, { r with tokens }) else none
        | tokens => if marked then some (.empty, { r with tokens }) else none
      match anchor with
      | some a => pure (node, { after with anchors := (a, node) :: after.anchors })
      | none => pure (node, after)
def blockItems (handles : List String) : Nat → List Node → Remainder → Option (Node × Remainder)
  | 0, _, _ => none
  | fuel + 1, done, r =>
    match r.tokens with
    | .blockEntry :: rest =>
      if startsWithAny [.blockEntry, .blockEnd] rest then
        blockItems handles fuel (.empty :: done) { r with tokens := rest }
      else do
        let (n, r) ← nodeFrom handles fuel ⟨true, false⟩ { r with tokens := rest }
        blockItems handles fuel (n :: done) r
    | .blockEnd :: rest => some (.sequence done.reverse, { r with tokens := rest })
    | _ => none
/-- Reads the items of a sequence that is not indented. -/
def bareItems (handles : List String) : Nat → List Node → Remainder → Option (Node × Remainder)
  | 0, _, _ => none
  | fuel + 1, done, r =>
    match r.tokens with
    | .blockEntry :: rest =>
      if startsWithAny [.blockEntry, .key, .value, .blockEnd] rest then
        bareItems handles fuel (.empty :: done) { r with tokens := rest }
      else do
        let (n, r) ← nodeFrom handles fuel ⟨true, false⟩ { r with tokens := rest }
        bareItems handles fuel (n :: done) r
    | _ => some (.sequence done.reverse, r)
def blockMembers (handles : List String) : Nat → List (Node × Node) → Remainder → Option (Node × Remainder)
  | 0, _, _ => none
  | fuel + 1, done, r =>
    match r.tokens with
    | .blockEnd :: rest => some (.mapping done.reverse, { r with tokens := rest })
    | .key :: rest => do
      let (k, r) ←
        if startsWithAny [.key, .value, .blockEnd] rest then some (.empty, { r with tokens := rest })
        else nodeFrom handles fuel ⟨true, true⟩ { r with tokens := rest }
      let (v, r) ← blockValue handles fuel r
      blockMembers handles fuel ((k, v) :: done) r
    | .value :: _ => do
      let (v, r) ← blockValue handles fuel r
      blockMembers handles fuel ((.empty, v) :: done) r
    | _ => none
/-- Reads the value of a member of a block mapping. -/
def blockValue (handles : List String) : Nat → Remainder → Option (Node × Remainder)
  | 0, _ => none
  | fuel + 1, r =>
    match r.tokens with
    | .value :: rest =>
      if startsWithAny [.key, .value, .blockEnd] rest then some (.empty, { r with tokens := rest })
      else nodeFrom handles fuel ⟨true, true⟩ { r with tokens := rest }
    | _ => some (.empty, r)
/-- Reads the items of a flow sequence. A pair among them is a mapping of its own. -/
def flowItems (handles : List String) : Nat → Bool → List Node → Remainder → Option (Node × Remainder)
  | 0, _, _, _ => none
  | fuel + 1, first, done, r =>
    match first, r.tokens with
    | _, .flowSequenceEnd :: rest => some (.sequence done.reverse, { r with tokens := rest })
    | false, .flowEntry :: .flowSequenceEnd :: rest => some (.sequence done.reverse, { r with tokens := rest })
    | false, .flowEntry :: rest => flowItem handles fuel done { r with tokens := rest }
    | true, _ => flowItem handles fuel done r
    | false, _ => none
/-- Reads one item of a flow sequence and those after it. -/
def flowItem (handles : List String) : Nat → List Node → Remainder → Option (Node × Remainder)
  | 0, _, _ => none
  | fuel + 1, done, r =>
    match r.tokens with
    | .key :: rest => do
      let (k, r) ←
        if startsWithAny [.value, .flowEntry, .flowSequenceEnd] rest then some (.empty, { r with tokens := rest })
        else nodeFrom handles fuel ⟨false, false⟩ { r with tokens := rest }
      let (v, r) ← match r.tokens with
        | .value :: rest =>
          if startsWithAny [.flowEntry, .flowSequenceEnd] rest then some (.empty, { r with tokens := rest })
          else nodeFrom handles fuel ⟨false, false⟩ { r with tokens := rest }
        | _ => some (.empty, r)
      flowItems handles fuel false (.mapping [(k, v)] :: done) r
    | _ => do
      let (n, r) ← nodeFrom handles fuel ⟨false, false⟩ r
      flowItems handles fuel false (n :: done) r
def flowMembers (handles : List String) : Nat → Bool → List (Node × Node) → Remainder → Option (Node × Remainder)
  | 0, _, _, _ => none
  | fuel + 1, first, done, r =>
    match first, r.tokens with
    | _, .flowMappingEnd :: rest => some (.mapping done.reverse, { r with tokens := rest })
    | false, .flowEntry :: .flowMappingEnd :: rest => some (.mapping done.reverse, { r with tokens := rest })
    | false, .flowEntry :: rest => flowMember handles fuel done { r with tokens := rest }
    | true, _ => flowMember handles fuel done r
    | false, _ => none
/-- Reads one member of a flow mapping and those after it. -/
def flowMember (handles : List String) : Nat → List (Node × Node) → Remainder → Option (Node × Remainder)
  | 0, _, _ => none
  | fuel + 1, done, r =>
    match r.tokens with
    | .key :: rest => do
      let (k, r) ←
        if startsWithAny [.value, .flowEntry, .flowMappingEnd] rest then some (.empty, { r with tokens := rest })
        else nodeFrom handles fuel ⟨false, false⟩ { r with tokens := rest }
      let (v, r) ← match r.tokens with
        | .value :: rest =>
          if startsWithAny [.flowEntry, .flowMappingEnd] rest then some (.empty, { r with tokens := rest })
          else nodeFrom handles fuel ⟨false, false⟩ { r with tokens := rest }
        | _ => some (.empty, r)
      flowMembers handles fuel false ((k, v) :: done) r
    | .value :: rest => do
      let (v, r) ←
        if startsWithAny [.flowEntry, .flowMappingEnd] rest then some (.empty, { r with tokens := rest })
        else nodeFrom handles fuel ⟨false, false⟩ { r with tokens := rest }
      flowMembers handles fuel false ((.empty, v) :: done) r
    | _ => do
      let (k, r) ← nodeFrom handles fuel ⟨false, false⟩ r
      flowMembers handles fuel false ((k, .empty) :: done) r
end

/-- Reads the directives of a document: at most one version, which has to be known, and handles, each
declared once. -/
def directives (version : Bool) (handles : List String) : List Token → Option (Bool × List String × List Token)
  | .version major minor :: rest =>
    if version || major != 1 || !(minor == 1 || minor == 2) then none else directives true handles rest
  | .tagHandle h _ :: rest => if handles.contains h then none else directives version (h :: handles) rest
  | rest => some (version || !handles.isEmpty, handles, rest)

/-- The root of a text. The outer answer is missing where the text is malformed or holds several documents,
the inner one where it holds none. -/
def root? (text : List Char) : Option (Option Node) := do
  let tokens := (← tokens? text).toList
  -- each node takes a token or follows one, and the readers call each other a few times for each
  let fuel := 8 * tokens.length + 8
  match tokens with
  | [.streamEnd] => some none
  | tokens => do
    let (declared, handles, rest) ← directives false [] tokens
    let rest ← match declared, rest with
      | _, .documentStart :: rest => some rest
      | true, _ => none
      | false, rest => some rest
    let (node, r) ←
      if startsWithAny [.documentStart, .documentEnd, .streamEnd] rest then some (.empty, ⟨rest, []⟩)
      else nodeFrom handles fuel ⟨true, false⟩ ⟨rest, []⟩
    let rest := r.tokens.dropWhile (· == .documentEnd)
    if rest == [.streamEnd] then some (some node) else none

/-- The text of a key; only scalars are keys. -/
def Node.keyText? : Node → Option String
  | .scalar text _ => some text
  | _ => none

mutual
/-- A node as a document. A key that is not a scalar makes it unreadable. -/
def Node.toDocument : Node → Json.Document
  | .scalar text true => .plain text
  | .scalar text false => .str text
  | .sequence items => .arr (itemDocuments items) true
  | .mapping members => .obj (memberDocuments members) true
def itemDocuments : List Node → List Json.Document
  | [] => []
  | n :: rest => n.toDocument :: itemDocuments rest
def memberDocuments : List (Node × Node) → List (String × Json.Document)
  | [] => []
  | (k, v) :: rest =>
    (match k.keyText? with
      | some text => (text, v.toDocument)
      | none => ("", .broken)) :: memberDocuments rest
end

/-- The document of a text. An empty text holds an empty document. -/
def document? (text : String) : Option Json.Document :=
  (root? text.toList).map fun n => (n.getD .empty).toDocument

end Guardrail.Yaml
