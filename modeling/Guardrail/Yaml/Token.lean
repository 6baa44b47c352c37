/-!
The tokens of a YAML text.

A block collection has no brackets of its own: its tokens are made where the indentation grows and where it
shrinks again. That a scalar was the key of a pair shows only at the colon after it, so a place where a key
may have begun is remembered and the tokens for it are inserted later.
-/

namespace Guardrail.Yaml

inductive Token where
  | version (major minor : Nat)
  | tagHandle (handle meaning : String)
  | documentStart
  | documentEnd
  | blockSequence
  | blockMapping
  | blockEnd
  | flowSequence
  | flowSequenceEnd
  | flowMapping
  | flowMappingEnd
  | blockEntry
  | flowEntry
  | key
  | value
  | anchor (name : String)
  | alias (name : String)
  | tag (handle suffix : String)
  | scalar (text : String) (plain : Bool)
  | streamEnd
deriving Repr, BEq, Inhabited

/-- A place where the key of a pair may have begun. -/
structure PendingKey where
  token : Nat
  index : Nat
  line : Nat
  column : Nat
  /-- Nothing but a key may stand there. -/
  required : Bool
deriving Repr

/-- How far a text is read. -/
structure Scan where
  rest : List Char
  index : Nat
  line : Nat
  column : Nat
  tokens : Array Token
  /-- The columns of the open block collections, the innermost first. -/
  indents : List Int
  keyAllowed : Bool
  /-- One entry for the block context and one for each open flow collection, the innermost first. -/
  keys : List (Option PendingKey)

namespace Scan

def initial (cs : List Char) : Scan := ⟨cs, 0, 0, 0, #[], [-1], true, [none]⟩

def indent (s : Scan) : Int := s.indents.headD (-1)

def inFlow (s : Scan) : Bool := 1 < s.keys.length

def isBreak (c : Char) : Bool :=
  c == '\n' || c == '\r' || c == '\u0085' || c == '\u2028' || c == '\u2029'

def isBlank (c : Char) : Bool := c == ' ' || c == '\t'

/-- Whether a text ends here, or a line, or a blank follows. -/
def atGap : List Char → Bool
  | [] => true
  | c :: _ => isBreak c || isBlank c

def skip (n : Nat) (s : Scan) : Scan :=
  { s with rest := s.rest.drop n, index := s.index + n, column := s.column + n }

/-- Skips the end of a line and gives what it stands for. -/
def skipBreak (s : Scan) : List Char × Scan :=
  match s.rest with
  | '\r' :: '\n' :: rest => (['\n'], { s with rest, index := s.index + 2, line := s.line + 1, column := 0 })
  | c :: rest =>
    ([if c == '\u2028' || c == '\u2029' then c else '\n'],
      { s with rest, index := s.index + 1, line := s.line + 1, column := 0 })
  | [] => ([], s)

def emit (t : Token) (s : Scan) : Scan := { s with tokens := s.tokens.push t }

/-- Gives up the pending key, unless it is required. -/
def dropKey (s : Scan) : Option Scan :=
  match s.keys with
  | some k :: rest => if k.required then none else some { s with keys := none :: rest }
  | _ => some s

def saveKey (s : Scan) : Option Scan :=
  if !s.keyAllowed then some s else do
    let s ← s.dropKey
    let required := !s.inFlow && s.indent == s.column
    pure { s with keys := some ⟨s.tokens.size, s.index, s.line, s.column, required⟩ :: s.keys.drop 1 }

/-- Gives up keys that began on an earlier line or too far back. -/
def dropStale (s : Scan) : Option Scan := do
  let keys ← s.keys.mapM fun k =>
    match k with
    | some k =>
      if k.line < s.line || k.index + 1024 < s.index then (if k.required then none else some none) else some (some k)
    | none => some none
  pure { s with keys }

/-- Opens a block collection at a column, unless one is open there. `place` is where its token belongs. -/
def roll (column : Nat) (place : Option Nat) (t : Token) (s : Scan) : Scan :=
  if s.inFlow || (column : Int) ≤ s.indent then s
  else
    let tokens := match place with
      | some n => s.tokens.insertIdxIfInBounds n t
      | none => s.tokens.push t
    { s with indents := column :: s.indents, tokens }

/-- The open block collections further right than a column are closed. -/
def unrollFrom (column : Int) : List Int → Array Token → List Int × Array Token
  | i :: rest, tokens => if column < i then unrollFrom column rest (tokens.push .blockEnd) else (i :: rest, tokens)
  | [], tokens => ([], tokens)

def unroll (column : Int) (s : Scan) : Scan :=
  if s.inFlow then s else
  let (indents, tokens) := unrollFrom column s.indents s.tokens
  { s with indents, tokens }

/-- Skips blanks, comments and line ends in front of a token. -/
def toToken : Nat → Scan → Scan
  | 0, s => s
  | fuel + 1, s =>
    match s.rest with
    | ' ' :: _ => toToken fuel (s.skip 1)
    | '\t' :: _ => if s.inFlow || !s.keyAllowed then toToken fuel (s.skip 1) else s
    | '\ufeff' :: _ => if s.column == 0 then toToken fuel (s.skip 1) else s
    | '#' :: rest => toToken fuel (s.skip (1 + (rest.takeWhile fun c => !isBreak c).length))
    | c :: _ =>
      if isBreak c then
        let s := s.skipBreak.2
        toToken fuel (if s.inFlow then s else { s with keyAllowed := true })
      else s
    | [] => s

/-- Whether `---` or `...` stands at the start of a line. -/
def atMarker (s : Scan) : Bool :=
  s.column == 0 && match s.rest with
    | '-' :: '-' :: '-' :: rest => atGap rest
    | '.' :: '.' :: '.' :: rest => atGap rest
    | _ => false

/-- A letter, a digit, a hyphen or a low line. -/
def isNameChar (c : Char) : Bool := c.isAlphanum || c == '-' || c == '_'

/-- Skips blanks and a comment up to the end of the line, which has to follow. -/
def toLineEnd (s : Scan) : Option Scan :=
  let s := s.skip (s.rest.takeWhile isBlank).length
  let s := match s.rest with
    | '#' :: _ => s.skip (s.rest.takeWhile fun c => !isBreak c).length
    | _ => s
  match s.rest with
  | [] => some s
  | c :: _ => if isBreak c then some s.skipBreak.2 else none

def number? (s : Scan) : Option (Nat × Scan) :=
  let ds := s.rest.takeWhile Char.isDigit
  if ds.isEmpty || 9 < ds.length then none
  else some (ds.foldl (fun n c => 10 * n + (c.toNat - 48)) 0, s.skip ds.length)

/-- The characters of a tag, apart from the separators of flow collections. -/
def isTagChar (verbatim : Bool) (c : Char) : Bool :=
  isNameChar c || ";/?:@&=+$.!~*'()%".toList.contains c || (verbatim && ",[]".toList.contains c)

def tagHandle? (s : Scan) : Option (String × Scan) :=
  match s.rest with
  | '!' :: rest =>
    let name := rest.takeWhile isNameChar
    match rest.drop name.length with
    | '!' :: _ => some (String.ofList ('!' :: name ++ ['!']), s.skip (name.length + 2))
    | _ => some (String.ofList ('!' :: name), s.skip (name.length + 1))
  | _ => none

def directive? (s : Scan) : Option Scan := do
  let s := s.unroll (-1)
  let s ← s.dropKey
  let s := { s with keyAllowed := false }.skip 1
  let name := s.rest.takeWhile isNameChar
  let s := s.skip name.length
  if !atGap s.rest then none
  else
    let s := s.skip (s.rest.takeWhile isBlank).length
    if name == "YAML".toList then
      let (major, s) ← s.number?
      match s.rest with
      | '.' :: _ =>
        let (minor, s) ← (s.skip 1).number?
        (s.emit (.version major minor)).toLineEnd
      | _ => none
    else if name == "TAG".toList then
      let (handle, s) ← s.tagHandle?
      if !(handle.endsWith "!") || !(s.rest.head?.map isBlank).getD false then none
      else
        let s := s.skip (s.rest.takeWhile isBlank).length
        let meaning := s.rest.takeWhile (isTagChar true)
        let s := s.skip meaning.length
        if meaning.isEmpty || !atGap s.rest then none
        else (s.emit (.tagHandle handle (String.ofList meaning))).toLineEnd
    else none

def anchor? (make : String → Token) (s : Scan) : Option Scan := do
  let s ← s.saveKey
  let s := { s with keyAllowed := false }.skip 1
  let name := s.rest.takeWhile isNameChar
  let s := s.skip name.length
  let ends := atGap s.rest || match s.rest with
    | c :: _ => "?:,]\x7d%@`".toList.contains c
    | [] => true
  if name.isEmpty || !ends then none else some (s.emit (make (String.ofList name)))

def tag? (s : Scan) : Option Scan := do
  let s ← s.saveKey
  let s := { s with keyAllowed := false }
  let (handle, suffix, s) ← match s.rest with
    | '!' :: '<' :: rest =>
      let uri := rest.takeWhile (isTagChar true)
      match rest.drop uri.length with
      | '>' :: _ => if uri.isEmpty then none else some ("", String.ofList uri, s.skip (uri.length + 3))
      | _ => none
    | _ => do
      let (handle, after) ← s.tagHandle?
      if 1 < handle.length && handle.endsWith "!" then
        let suffix := after.rest.takeWhile (isTagChar false)
        if suffix.isEmpty then none else some (handle, String.ofList suffix, after.skip suffix.length)
      else
        let suffix := (s.rest.drop 1).takeWhile (isTagChar false)
        some ("!", String.ofList suffix, s.skip (suffix.length + 1))
  let ends := atGap s.rest || (s.inFlow && s.rest.head? == some ',')
  if ends then some (s.emit (.tag handle suffix)) else none

/-- What has been read of a scalar. Blanks and line ends count only if more text follows them. -/
structure Pending where
  /-- The text so far, in reverse. -/
  text : List Char
  /-- Blanks since then, in reverse. -/
  blanks : List Char
  /-- The first line end since then. -/
  first : List Char
  /-- The line ends after it, in reverse. -/
  more : List Char
  /-- A line has ended since then. -/
  broken : Bool

namespace Pending

def empty : Pending := ⟨[], [], [], [], false⟩

/-- Settles the blanks and line ends in front of more text: one line end is folded to a space. -/
def join (p : Pending) : Pending :=
  if p.broken then
    let gap := if p.first == ['\n'] then (if p.more.isEmpty then [' '] else p.more) else p.more ++ p.first
    { empty with text := gap ++ p.text }
  else { empty with text := p.blanks ++ p.text }

def addBreak (line : List Char) (p : Pending) : Pending :=
  if p.broken then { p with more := line.reverse ++ p.more }
  else { p with blanks := [], first := line, broken := true }

end Pending

def hex? (c : Char) : Option Nat :=
  if c.isDigit then some (c.toNat - 48)
  else if 'a' ≤ c && c ≤ 'f' then some (c.toNat - 87)
  else if 'A' ≤ c && c ≤ 'F' then some (c.toNat - 55)
  else none

def codePoint? (ds : List Char) (count : Nat) : Option Char := do
  if ds.length < count then none
  else
    let n ← ds.foldlM (fun n c => (hex? c).map (16 * n + ·)) 0
    if (0xD800 ≤ n && n ≤ 0xDFFF) || 0x10FFFF < n then none else some (Char.ofNat n)

/-- The character that a letter stands for after a backslash. -/
def escape? (c : Char) : Option Char :=
  [('0', '\x00'), ('a', '\x07'), ('b', '\x08'), ('t', '\t'), ('\t', '\t'), ('n', '\n'), ('v', '\x0b'), ('f', '\x0c'),
    ('r', '\r'), ('e', '\x1b'), (' ', ' '), ('"', '"'), ('/', '/'), ('\\', '\\'), ('N', '\u0085'), ('_', '\u00a0'),
    ('L', '\u2028'), ('P', '\u2029')].lookup c

def quotedFrom (double : Bool) : Nat → Pending → Scan → Option Scan
  | 0, _, _ => none
  | fuel + 1, p, s =>
    if s.atMarker then none else
    match double, s.rest with
    | _, [] => none
    | false, '\'' :: '\'' :: _ => quotedFrom double fuel { p.join with text := '\'' :: p.join.text } (s.skip 2)
    | false, '\'' :: _ => some ((s.skip 1).emit (.scalar (String.ofList p.join.text.reverse) false))
    | true, '"' :: _ => some ((s.skip 1).emit (.scalar (String.ofList p.join.text.reverse) false))
    | true, '\\' :: c :: rest =>
      if isBreak c then
        -- the line end is dropped, the blanks after it too
        quotedFrom double fuel { p.join with broken := true } (s.skip 1).skipBreak.2
      else
        let count := match c with
          | 'x' => 2
          | 'u' => 4
          | 'U' => 8
          | _ => 0
        let found := if count = 0 then escape? c else codePoint? (rest.take count) count
        match found with
        | some d => quotedFrom double fuel { p.join with text := d :: p.join.text } (s.skip (2 + count))
        | none => none
    | true, ['\\'] => none
    | _, c :: _ =>
      if isBreak c then
        let (line, s) := s.skipBreak
        quotedFrom double fuel (p.addBreak line) s
      else if isBlank c then
        quotedFrom double fuel (if p.broken then p else { p with blanks := c :: p.blanks }) (s.skip 1)
      else quotedFrom double fuel { p.join with text := c :: p.join.text } (s.skip 1)

/-- Reads a plain scalar. `started` says that its first character has been read. -/
def plainFrom (least : Int) : Nat → Pending → Scan → Option (Pending × Scan)
  | 0, _, _ => none
  | fuel + 1, p, s =>
    let fresh := p.broken || !p.blanks.isEmpty || p.text.isEmpty
    if fresh && s.atMarker then some (p, s) else
    match s.rest with
    | [] => some (p, s)
    | c :: rest =>
      if fresh && c == '#' then some (p, s)
      else if isBreak c then
        let (line, s) := s.skipBreak
        plainFrom least fuel (p.addBreak line) s
      else if isBlank c then
        if p.broken && (s.column : Int) < least && c == '\t' then none
        else plainFrom least fuel (if p.broken then p else { p with blanks := c :: p.blanks }) (s.skip 1)
      else if fresh && !p.text.isEmpty && !s.inFlow && (s.column : Int) < least then some (p, s)
      else if s.inFlow && c == ':' && (rest.head?.map fun d => ",?[]\x7b\x7d".toList.contains d).getD false then none
      else if (c == ':' && atGap rest) || (s.inFlow && ",[]\x7b\x7d".toList.contains c) then some (p, s)
      else plainFrom least fuel { p.join with text := c :: p.join.text } (s.skip 1)

/-- The header of a block scalar: how line ends at the end are kept, and the indentation if it is given. -/
def blockHeader? (s : Scan) : Option (Option Bool × Option Nat × Scan) :=
  let chomp (c : Char) : Option (Option Bool) :=
    if c == '+' then some (some true) else if c == '-' then some (some false) else none
  let digit (c : Char) : Bool := '1' ≤ c && c ≤ '9'
  match s.rest with
  | c :: d :: _ =>
    match chomp c, chomp d with
    | some k, _ => if digit d then some (k, some (d.toNat - 48), s.skip 2) else if d == '0' then none else some (k, none, s.skip 1)
    | none, some k => if digit c then some (k, some (c.toNat - 48), s.skip 2) else if c == '0' then none else some (none, none, s)
    | none, none => if digit c then some (none, some (c.toNat - 48), s.skip 1) else if c == '0' then none else some (none, none, s)
  | [c] =>
    match chomp c with
    | some k => some (k, none, s.skip 1)
    | none => if digit c then some (none, some (c.toNat - 48), s.skip 1) else if c == '0' then none else some (none, none, s)
  | [] => some (none, none, s)

/-- Skips the indentation of empty lines of a block scalar: their line ends in reverse, and the widest
indentation. Without a known indentation every blank counts as some. -/
def blockBreaks (indent : Option Nat) : Nat → List Char → Nat → Scan → Option (List Char × Nat × Scan)
  | 0, _, _, _ => none
  | fuel + 1, breaks, widest, s =>
    let room := match indent with
      | some n => n - s.column
      | none => s.rest.length
    let spaces := ((s.rest.takeWhile (· == ' ')).take room).length
    let s := s.skip spaces
    let widest := max widest s.column
    let short := match indent with
      | some n => s.column < n
      | none => true
    match s.rest with
    | c :: _ =>
      if short && c == '\t' then none
      else if isBreak c then
        let (line, s) := s.skipBreak
        blockBreaks indent fuel (line.reverse ++ breaks) widest s
      else some (breaks, widest, s)
    | [] => some (breaks, widest, s)

/-- Reads the lines of a block scalar. `text`, `lead` and `trail` are in reverse. -/
def blockLines (literal : Bool) (indent : Nat) :
    Nat → (text lead trail : List Char) → (leadingBlank : Bool) → Scan → Option (List Char × List Char × List Char × Scan)
  | 0, _, _, _, _, _ => none
  | fuel + 1, text, lead, trail, leadingBlank, s =>
    if s.column != indent || s.rest.isEmpty then some (text, lead, trail, s)
    else do
      let blank := (s.rest.head?.map isBlank).getD false
      let text :=
        if !literal && lead == ['\n'] && !leadingBlank && !blank then (if trail.isEmpty then ' ' :: text else text)
        else lead ++ text
      let line := s.rest.takeWhile fun c => !isBreak c
      let text := line.reverse ++ (trail ++ text)
      let (lead, s) := (s.skip line.length).skipBreak
      let (trail, _, s) ← blockBreaks (some indent) (s.rest.length + 1) [] 0 s
      blockLines literal indent fuel text lead.reverse trail blank s

def block? (literal : Bool) (s : Scan) : Option Scan := do
  let s ← s.dropKey
  let s := { s with keyAllowed := true }.skip 1
  let (chomp, given, s) ← s.blockHeader?
  let s ← s.toLineEnd
  let base := s.indent.toNat
  let fuel := s.rest.length + 1
  let known := given.map (base + ·)
  let (trail, widest, s) ← blockBreaks known fuel [] 0 s
  let indent := known.getD (max widest (max (s.indent + 1).toNat 1))
  let (text, lead, trail, s) ← blockLines literal indent fuel [] [] trail false s
  let text := match chomp with
    | some false => text
    | none => lead ++ text
    | some true => trail ++ (lead ++ text)
  pure (s.emit (.scalar (String.ofList text.reverse) false))

def value? (s : Scan) : Option Scan :=
  match s.keys with
  | some k :: rest =>
    let s := { s with keys := none :: rest, tokens := s.tokens.insertIdxIfInBounds k.token .key, keyAllowed := false }
    let s := s.roll k.column (some k.token) .blockMapping
    some ((s.skip 1).emit .value)
  | _ =>
    if s.inFlow then some ({ s with keyAllowed := false }.skip 1 |>.emit .value)
    else if !s.keyAllowed then none
    else some ((s.roll s.column none .blockMapping).skip 1 |>.emit .value)

def openFlow (t : Token) (s : Scan) : Option Scan := do
  let s ← s.saveKey
  pure ({ s with keys := none :: s.keys, keyAllowed := true }.skip 1 |>.emit t)

def closeFlow (t : Token) (s : Scan) : Option Scan := do
  let s ← s.dropKey
  let keys := if s.inFlow then s.keys.drop 1 else s.keys
  pure ({ s with keys, keyAllowed := false }.skip 1 |>.emit t)

def marker? (s : Scan) : Option Scan := do
  let start := s.rest.head? == some '-'
  let s ← (s.unroll (-1)).dropKey
  pure ({ s with keyAllowed := false }.skip 3 |>.emit (if start then .documentStart else .documentEnd))

def plain? (s : Scan) : Option Scan := do
  let s ← s.saveKey
  let s := { s with keyAllowed := false }
  let (p, s) ← plainFrom (s.indent + 1) (s.rest.length + 1) .empty s
  let s := if p.broken then { s with keyAllowed := true } else s
  pure (s.emit (.scalar (String.ofList p.text.reverse) true))

/-- Goes to where the next token begins: past blanks and line ends, giving up keys that are too old and closing
the block collections that end there. -/
def settle? (s : Scan) : Option Scan :=
  (toToken (s.rest.length + 1) s).dropStale.map fun s => s.unroll s.column

def token? (c : Char) (rest : List Char) (s : Scan) : Option Scan :=
  if s.column == 0 && c == '%' then s.directive?
  else if s.atMarker then s.marker?
  else match c with
    | '[' => s.openFlow .flowSequence
    | '\x7b' => s.openFlow .flowMapping
    | ']' => s.closeFlow .flowSequenceEnd
    | '\x7d' => s.closeFlow .flowMappingEnd
    | ',' => do
      let s ← s.dropKey
      pure ({ s with keyAllowed := true }.skip 1 |>.emit .flowEntry)
    | '*' => s.anchor? .alias
    | '&' => s.anchor? .anchor
    | '!' => s.tag?
    | '\'' => do quotedFrom false (s.rest.length + 1) .empty ({ ← s.saveKey with keyAllowed := false }.skip 1)
    | '"' => do quotedFrom true (s.rest.length + 1) .empty ({ ← s.saveKey with keyAllowed := false }.skip 1)
    | _ =>
      if c == '-' && atGap rest then
        if !s.inFlow && !s.keyAllowed then none
        else do
          let s ← (s.roll s.column none .blockSequence).dropKey
          pure ({ s with keyAllowed := true }.skip 1 |>.emit .blockEntry)
      else if c == '?' && (s.inFlow || atGap rest) then
        if !s.inFlow && !s.keyAllowed then none
        else do
          let s ← (s.roll s.column none .blockMapping).dropKey
          pure ({ s with keyAllowed := !s.inFlow }.skip 1 |>.emit .key)
      else if c == ':' && (s.inFlow || atGap rest) then s.value?
      else if c == '|' && !s.inFlow then s.block? true
      else if c == '>' && !s.inFlow then s.block? false
      else if "-?:".toList.contains c || !("#|>%@`".toList.contains c || isBlank c) then s.plain?
      else none

/-- Reads the next token, and says whether there may be more. -/
def next? (s : Scan) : Option (Scan × Bool) := do
  let s ← s.settle?
  match s.rest with
  | [] =>
    let s ← ({ s with line := s.line + 1, column := 0 }.unroll (-1)).dropKey
    pure (s.emit .streamEnd, false)
  | c :: rest =>
    let s ← s.token? c rest
    pure (s, true)

def all : Nat → Scan → Option (Array Token)
  | 0, _ => none
  | fuel + 1, s => do
    let (s, more) ← s.next?
    if more then all fuel s else pure s.tokens

end Scan

def isAdmitted (c : Char) : Bool :=
  let n := c.toNat
  n == 9 || n == 10 || n == 13 || (0x20 ≤ n && n ≤ 0x7E) || n == 0x85 || (0xA0 ≤ n && n ≤ 0xD7FF)
    || (0xE000 ≤ n && n ≤ 0xFFFD && n != 0xFEFF) || 0x10000 ≤ n

/-- The tokens of a text, unless it is malformed. A mark of the byte order may stand in front. -/
def tokens? (text : List Char) : Option (Array Token) :=
  let text := match text with
    | '\ufeff' :: rest => rest
    | cs => cs
  if text.all isAdmitted then (Scan.initial text).all (text.length + 2) else none

end Guardrail.Yaml
