import Guardrail.Pattern.Syntax

/-!
Reading the text of a pattern.

The reader goes through the text once. Flags such as `(?i)` hold from where they stand to the end of the
group around them; a repetition binds the last item read. What is not a pattern is refused with a `Fault`.
-/

namespace Guardrail.Pattern

/-- Why a text is not a pattern. -/
inductive Fault where
  | unclosedGroup
  | unopenedGroup
  | unclosedClass
  | badClassRange
  | badClassItem
  | missingOperand
  | badCount
  | badEscape
  | badCodePoint
  | badFlags
  | badGroupName
  | lookAround
  | unknownProperty
  /-- It could match part of a character. -/
  | splitsCharacters
  | nestedTooDeep
  | tooLarge
deriving Repr, DecidableEq

def Fault.message : Fault → String
  | .unclosedGroup => "unclosed group"
  | .unopenedGroup => "unopened group"
  | .unclosedClass => "unclosed character class"
  | .badClassRange => "invalid range in a character class"
  | .badClassItem => "invalid item of a character class"
  | .missingOperand => "repetition of nothing"
  | .badCount => "invalid count of repetitions"
  | .badEscape => "unknown escape"
  | .badCodePoint => "invalid code point"
  | .badFlags => "invalid flags"
  | .badGroupName => "invalid name of a group"
  | .lookAround => "look-around"
  | .unknownProperty => "unknown property"
  | .splitsCharacters => "matches part of a character"
  | .nestedTooDeep => "nested too deep"
  | .tooLarge => "too large"

/-- What the flags of a group say. -/
structure Flags where
  ignoreCase : Bool
  multiLine : Bool
  dotAll : Bool
  swapGreed : Bool
  unicode : Bool
  verbose : Bool
  crlf : Bool
deriving Repr, DecidableEq, Inhabited

def Flags.initial : Flags := ⟨false, false, false, false, true, false, false⟩

def skipLine (cs : List Char) : List Char := (cs.dropWhile (· != '\n')).drop 1

/-- Skips blanks and comments where the flags say that they mean nothing. -/
def skipVerbose (f : Flags) (cs : List Char) : List Char :=
  if f.verbose then go cs.length cs else cs
where
  go : Nat → List Char → List Char
    | 0, cs => cs
    | fuel + 1, cs =>
      match cs with
      | c :: rest =>
        if Unicode.isSpace c then go fuel rest
        else if c == '#' then go fuel (skipLine rest)
        else cs
      | [] => []

/-- A set closed under change of case, if the flags say so. Without Unicode only the letters of ASCII have
case. -/
def caseClosed (f : Flags) (set : CharClass) : CharClass :=
  let ascii : CharClass := .range '\x00' '\x7f'
  if !f.ignoreCase then set
  else if f.unicode then .anyCase set
  else .union set (.inter (.anyCase (.inter set ascii)) ascii)

/-- The set of a class under the flags: closed under change of case, then complemented. -/
def closed (f : Flags) (negated : Bool) (set : CharClass) : CharClass :=
  let set := caseClosed f set
  if negated then .complement set else set

def literal (f : Flags) (c : Char) : Regex := .one (closed f false (.single c))

def asciiClass : Char → CharClass
  | 'd' => .range '0' '9'
  | 's' => .unions [.range '\t' '\r', .single ' ']
  | _ => .unions [.range 'a' 'z', .range 'A' 'Z', .range '0' '9', .single '_']

def perlClass (f : Flags) (c : Char) : Except Fault CharClass :=
  let lower := c.toLower
  let negated := c != lower
  if f.unicode then
    let set : CharClass := match lower with
      | 'd' => .digit
      | 's' => .space
      | _ => .word
    .ok (if negated then .complement set else set)
  else if negated then .error .splitsCharacters
  else .ok (asciiClass lower)

/-- Names of properties are compared without blanks, hyphens, underscores and case. -/
def normalName (cs : List Char) : String :=
  let cs := (cs.filter fun c => !(c == ' ' || c == '-' || c == '_')).map Char.toLower
  String.ofList (if ['i', 's'].isPrefixOf cs && cs.length > 2 then cs.drop 2 else cs)

open Unicode.Category in
def generalCategory? (name : String) : Option CharClass :=
  let t := CharClass.table
  let letterCased := CharClass.unions [t uppercaseLetter, t lowercaseLetter, t titlecaseLetter]
  let letter := CharClass.unions [letterCased, t modifierLetter, t otherLetter]
  let mark := CharClass.unions [t nonspacingMark, t spacingMark, t enclosingMark]
  let num := CharClass.unions [t decimalNumber, t letterNumber, t otherNumber]
  let punctuation := CharClass.unions [t connectorPunctuation, t dashPunctuation, t openPunctuation,
    t closePunctuation, t initialPunctuation, t finalPunctuation, t otherPunctuation]
  let symbol := CharClass.unions [t mathSymbol, t currencySymbol, t modifierSymbol, t otherSymbol]
  let separator := CharClass.unions [t spaceSeparator, t lineSeparator, t paragraphSeparator]
  let assigned := CharClass.unions [letter, mark, num, punctuation, symbol, separator, t control, t format,
    t privateUse]
  match name with
  | "lu" | "uppercaseletter" => some (t uppercaseLetter)
  | "ll" | "lowercaseletter" => some (t lowercaseLetter)
  | "lt" | "titlecaseletter" => some (t titlecaseLetter)
  | "lc" | "casedletter" => some letterCased
  | "lm" | "modifierletter" => some (t modifierLetter)
  | "lo" | "otherletter" => some (t otherLetter)
  | "l" | "letter" => some letter
  | "mn" | "nonspacingmark" => some (t nonspacingMark)
  | "mc" | "spacingmark" => some (t spacingMark)
  | "me" | "enclosingmark" => some (t enclosingMark)
  | "m" | "mark" | "combiningmark" => some mark
  | "nd" | "decimalnumber" | "digit" => some (t decimalNumber)
  | "nl" | "letternumber" => some (t letterNumber)
  | "no" | "othernumber" => some (t otherNumber)
  | "n" | "number" => some num
  | "pc" | "connectorpunctuation" => some (t connectorPunctuation)
  | "pd" | "dashpunctuation" => some (t dashPunctuation)
  | "ps" | "openpunctuation" => some (t openPunctuation)
  | "pe" | "closepunctuation" => some (t closePunctuation)
  | "pi" | "initialpunctuation" => some (t initialPunctuation)
  | "pf" | "finalpunctuation" => some (t finalPunctuation)
  | "po" | "otherpunctuation" => some (t otherPunctuation)
  | "p" | "punctuation" | "punct" => some punctuation
  | "sm" | "mathsymbol" => some (t mathSymbol)
  | "sc" | "currencysymbol" => some (t currencySymbol)
  | "sk" | "modifiersymbol" => some (t modifierSymbol)
  | "so" | "othersymbol" => some (t otherSymbol)
  | "s" | "symbol" => some symbol
  | "zs" | "spaceseparator" => some (t spaceSeparator)
  | "zl" | "lineseparator" => some (t lineSeparator)
  | "zp" | "paragraphseparator" => some (t paragraphSeparator)
  | "z" | "separator" => some separator
  | "cc" | "control" | "cntrl" => some (t control)
  | "cf" | "format" => some (t format)
  | "co" | "privateuse" => some (t privateUse)
  | "cs" | "surrogate" => some .empty
  | "cn" | "unassigned" => some (.complement assigned)
  | "c" | "other" => some (.unions [t control, t format, t privateUse, .complement assigned])
  | "any" => some .all
  | "assigned" => some assigned
  | "ascii" => some (.range '\x00' '\x7f')
  | _ => none

open Unicode.Script in
def script? : String → Option CharClass
  | "latin" | "latn" => some (.table latin)
  | "greek" | "grek" => some (.table greek)
  | "cyrillic" | "cyrl" => some (.table cyrillic)
  | "armenian" | "armn" => some (.table armenian)
  | "hebrew" | "hebr" => some (.table hebrew)
  | "arabic" | "arab" => some (.table arabic)
  | "devanagari" | "deva" => some (.table devanagari)
  | "bengali" | "beng" => some (.table bengali)
  | "tamil" | "taml" => some (.table tamil)
  | "thai" => some (.table thai)
  | "georgian" | "geor" => some (.table georgian)
  | "hangul" | "hang" => some (.table hangul)
  | "hiragana" | "hira" => some (.table hiragana)
  | "katakana" | "kana" => some (.table katakana)
  | "han" | "hani" => some (.table han)
  | "common" | "zyyy" => some (.table common)
  | "inherited" | "zinh" | "qaai" => some (.table inherited)
  | _ => none

open Unicode.Category in
/-- The properties that are true or false of a character, by their names. -/
def binaryProperty? : String → Option CharClass
  | "whitespace" | "wspace" | "space" => some .space
  | "alphabetic" | "alpha" =>
    some (.unions [.table uppercaseLetter, .table lowercaseLetter, .table titlecaseLetter,
      .table modifierLetter, .table otherLetter, .table letterNumber])
  | "uppercase" | "upper" => some (.table uppercaseLetter)
  | "lowercase" | "lower" => some (.table lowercaseLetter)
  | _ => none

/-- The class of a property, such as `L`, `Greek` or `gc=Lu`. -/
def property (cs : List Char) : Except Fault CharClass :=
  let split := cs.span fun c => !(c == '=' || c == ':' || c == '!')
  let found : Option CharClass :=
    match split with
    | (name, []) =>
      let name := normalName name
      generalCategory? name <|> script? name <|> binaryProperty? name
    | (key, '!' :: '=' :: value) => (keyed (normalName key) (normalName value)).map .complement
    | (key, '=' :: value) => keyed (normalName key) (normalName value)
    | (key, ':' :: value) => keyed (normalName key) (normalName value)
    | _ => none
  match found with
  | some set => .ok set
  | none => .error .unknownProperty
where
  keyed (key value : String) : Option CharClass :=
    match key with
    | "gc" | "generalcategory" => generalCategory? value
    | "sc" | "script" | "scx" | "scriptextensions" => script? value
    | _ => none

def hex? (c : Char) : Option Nat :=
  if c.isDigit then some (c.toNat - 48)
  else if 'a' ≤ c ∧ c ≤ 'f' then some (c.toNat - 87)
  else if 'A' ≤ c ∧ c ≤ 'F' then some (c.toNat - 55)
  else none

def codePoint (ds : List Char) : Except Fault Char :=
  match ds.mapM hex? with
  | none => .error .badCodePoint
  | some vs =>
    let n := vs.foldl (fun n v => 16 * n + v) 0
    if vs.isEmpty || n ≥ 0x110000 || (0xD800 ≤ n && n < 0xE000) then .error .badCodePoint else .ok (Char.ofNat n)

/-- A code point after `\x`, `\u` or `\U`: so many digits, or any number in braces. -/
def hexEscape (digits : Nat) (cs : List Char) : Except Fault (Char × List Char) :=
  match cs with
  | '\x7b' :: rest =>
    let ds := rest.takeWhile (· != '\x7d')
    match rest.drop ds.length with
    | [] => .error .badCodePoint
    | _ :: rest => do pure (← codePoint ds, rest)
  | cs =>
    let ds := cs.take digits
    if ds.length < digits then .error .badCodePoint else do pure (← codePoint ds, cs.drop digits)

/-- Characters that stand for something else unless escaped. -/
def isMeta (c : Char) : Bool := "\\.+*?()|[]\x7b\x7d^$#&-~".toList.contains c

/-- What an escape stands for. -/
inductive Escape where
  | char (c : Char)
  | set (s : CharClass)
  | look (l : Look)

def boundaryWord (cs : List Char) : Except Fault (Look × List Char) :=
  let isPart := fun c : Char => c.isAlpha || c == '-'
  match cs with
  | '\x7b' :: rest =>
    let word := rest.takeWhile isPart
    if word.isEmpty then .ok (.wordBoundary, cs)
    else
      match rest.drop word.length with
      | '\x7d' :: rest =>
        match String.ofList word with
        | "start" => .ok (.wordStart, rest)
        | "end" => .ok (.wordEnd, rest)
        | "start-half" => .ok (.wordStartHalf, rest)
        | "end-half" => .ok (.wordEndHalf, rest)
        | _ => .error .badEscape
      | _ => .error .badEscape
  | cs => .ok (.wordBoundary, cs)

def escape (f : Flags) (cs : List Char) : Except Fault (Escape × List Char) :=
  match cs with
  | [] => .error .badEscape
  | c :: rest =>
    if c.isDigit then .error .badEscape
    else if c == 'x' then
      match hexEscape 2 rest with
      | .error e => .error e
      | .ok (c, after) =>
        -- two digits stand for a byte unless the pattern is one of characters
        if !f.unicode && 0x80 ≤ c.toNat && rest.head? != some '\x7b' then .error .splitsCharacters
        else .ok (.char c, after)
    else if c == 'u' then (hexEscape 4 rest).map fun (c, r) => (.char c, r)
    else if c == 'U' then (hexEscape 8 rest).map fun (c, r) => (.char c, r)
    else if c == 'p' || c == 'P' then
      if !f.unicode then .error .splitsCharacters
      else
        let parts : Except Fault (List Char × List Char) := match rest with
          | '\x7b' :: rest =>
            let name := rest.takeWhile (· != '\x7d')
            match rest.drop name.length with
            | [] => .error .badEscape
            | _ :: rest => .ok (name, rest)
          | c :: rest => .ok ([c], rest)
          | [] => .error .badEscape
        match parts with
        | .error e => .error e
        | .ok (name, rest) =>
          match property name with
          | .error e => .error e
          | .ok set => .ok (.set (closed f (c == 'P') set), rest)
    else if c == 'd' || c == 's' || c == 'w' || c == 'D' || c == 'S' || c == 'W' then
      (perlClass f c).map fun set => (.set set, rest)
    else if isMeta c then .ok (.char c, rest)
    else
      match c with
      | 'a' => .ok (.char '\x07', rest)
      | 'f' => .ok (.char '\x0c', rest)
      | 't' => .ok (.char '\t', rest)
      | 'n' => .ok (.char '\n', rest)
      | 'r' => .ok (.char '\r', rest)
      | 'v' => .ok (.char '\x0b', rest)
      | 'A' => .ok (.look .textStart, rest)
      | 'z' => .ok (.look .textEnd, rest)
      | 'b' => (boundaryWord rest).map fun (l, r) => (.look l, r)
      | 'B' => .ok (.look .notWordBoundary, rest)
      | '<' => .ok (.look .wordStart, rest)
      | '>' => .ok (.look .wordEnd, rest)
      | c => if c.toNat < 0x80 && !c.isAlphanum then .ok (.char c, rest) else .error .badEscape

def posixClass? : String → Option CharClass
  | "alnum" => some (.unions [.range '0' '9', .range 'A' 'Z', .range 'a' 'z'])
  | "alpha" => some (.unions [.range 'A' 'Z', .range 'a' 'z'])
  | "ascii" => some (.range '\x00' '\x7f')
  | "blank" => some (.unions [.single '\t', .single ' '])
  | "cntrl" => some (.unions [.range '\x00' '\x1f', .single '\x7f'])
  | "digit" => some (.range '0' '9')
  | "graph" => some (.range '!' '~')
  | "lower" => some (.range 'a' 'z')
  | "print" => some (.range ' ' '~')
  | "punct" => some (.unions [.range '!' '/', .range ':' '@', .range '[' '`', .range '\x7b' '~'])
  | "space" => some (.unions [.range '\t' '\r', .single ' '])
  | "upper" => some (.range 'A' 'Z')
  | "word" => some (.unions [.range '0' '9', .range 'A' 'Z', .single '_', .range 'a' 'z'])
  | "xdigit" => some (.unions [.range '0' '9', .range 'A' 'F', .range 'a' 'f'])
  | _ => none

def posix? (cs : List Char) : Option (CharClass × List Char) :=
  match cs with
  | ':' :: rest =>
    let (negated, rest) := match rest with
      | '^' :: rest => (true, rest)
      | rest => (false, rest)
    let name := rest.takeWhile (· != ':')
    match rest.drop name.length with
    | ':' :: ']' :: rest =>
      (posixClass? (String.ofList name)).map fun set => (if negated then .complement set else set, rest)
    | _ => none
  | _ => none

/-- A member of a bracketed class: a character, which may begin a range, or a set. -/
inductive Member where
  | char (c : Char)
  | set (s : CharClass)

def member (f : Flags) (cs : List Char) : Except Fault (Member × List Char) :=
  match cs with
  | [] => .error .unclosedClass
  | '\\' :: rest =>
    match escape f rest with
    | .error e => .error e
    | .ok (.char c, rest) => plain c rest
    | .ok (.set s, rest) => .ok (.set s, rest)
    | .ok (.look _, _) => .error .badClassItem
  | c :: rest => plain c rest
where
  /-- Without Unicode the members of a class are bytes. -/
  plain (c : Char) (rest : List Char) : Except Fault (Member × List Char) :=
    if f.unicode || c.toNat < 0x80 then .ok (.char c, rest) else .error .splitsCharacters

/-- The set of a member that begins no range. -/
def Member.toClass : Member → CharClass
  | .char c => .single c
  | .set s => s

/-- Reads a member, and the range that it begins if it begins one. -/
def memberRange (f : Flags) (cs : List Char) : Except Fault (CharClass × List Char) := do
  let (first, rest) ← member f cs
  let rest := skipVerbose f rest
  let single : Except Fault (CharClass × List Char) := .ok (first.toClass, rest)
  match rest with
  | '-' :: more =>
    -- a hyphen before the closing bracket or another hyphen stands for itself
    match skipVerbose f more with
    | ']' :: _ => single
    | _ =>
      match more with
      | '-' :: _ => single
      | [] => .error .unclosedClass
      | _ => do
        let (last, rest) ← member f (skipVerbose f more)
        match first, last with
        | .char a, .char b => if a ≤ b then pure (.range a b, rest) else throw .badClassRange
        | _, _ => throw .badClassRange
  | _ => single

inductive SetOp where
  | inter
  | minus
  | xor

/-- Applies a pending operator. Under change of case both sides are closed first. -/
def SetOp.apply (f : Flags) (left : Option (SetOp × CharClass)) (right : CharClass) : CharClass :=
  let close := caseClosed f
  match left with
  | none => right
  | some (.inter, a) => .inter (close a) (close right)
  | some (.minus, a) => .minus (close a) (close right)
  | some (.xor, a) => .xor (close a) (close right)

def leadingHyphens (f : Flags) (items : List CharClass) : Nat → List Char → List CharClass × List Char
  | 0, cs => (items, cs)
  | fuel + 1, cs =>
    match cs with
    | '-' :: rest => leadingHyphens f (.single '-' :: items) fuel (skipVerbose f rest)
    | cs => (items, cs)

mutual
def bracketed (f : Flags) : Nat → List Char → Except Fault (CharClass × List Char)
  | 0, _ => .error .nestedTooDeep
  | fuel + 1, cs => do
    let cs := skipVerbose f cs
    let (negated, cs) := match cs with
      | '^' :: rest => (true, skipVerbose f rest)
      | cs => (false, cs)
    if negated && !f.unicode then throw .splitsCharacters
    let (items, cs) := leadingHyphens f [] cs.length cs
    let (items, cs) := match items, cs with
      | [], ']' :: rest => ([CharClass.single ']'], skipVerbose f rest)
      | items, cs => (items, cs)
    let (set, rest) ← classItems f fuel none items cs
    pure (closed f negated set, rest)
/-- Reads the items of a class up to its closing bracket. -/
def classItems (f : Flags) : Nat → Option (SetOp × CharClass) → List CharClass → List Char → Except Fault (CharClass × List Char)
  | 0, _, _, _ => .error .unclosedClass
  | fuel + 1, left, items, cs =>
    match skipVerbose f cs with
    | [] => .error .unclosedClass
    | ']' :: rest => .ok (SetOp.apply f left (.unions items.reverse), rest)
    | '[' :: rest =>
      match posix? rest with
      | some (set, rest) => classItems f fuel left (set :: items) rest
      | none => do
        let (set, rest) ← bracketed f fuel rest
        classItems f fuel left (set :: items) rest
    | '&' :: '&' :: rest =>
      classItems f fuel (some (.inter, SetOp.apply f left (.unions items.reverse))) [] rest
    | '-' :: '-' :: rest =>
      classItems f fuel (some (.minus, SetOp.apply f left (.unions items.reverse))) [] rest
    | '~' :: '~' :: rest =>
      classItems f fuel (some (.xor, SetOp.apply f left (.unions items.reverse))) [] rest
    | cs => do
      let (set, rest) ← memberRange f cs
      classItems f fuel left (set :: items) rest
end

/-- Reads flags up to a colon or a closing parenthesis, which is left. -/
def flagLetters (f : Flags) (on : Bool) (seen : List Char) (justNegated : Bool) : List Char → Except Fault (Flags × List Char)
  | [] => .error .badFlags
  | ':' :: rest => if justNegated then .error .badFlags else .ok (f, ':' :: rest)
  | ')' :: rest => if justNegated then .error .badFlags else .ok (f, ')' :: rest)
  | '-' :: rest => if on then flagLetters f false seen true rest else .error .badFlags
  | c :: rest =>
    if seen.contains c then .error .badFlags
    else
      match c with
      | 'i' => flagLetters { f with ignoreCase := on } on (c :: seen) false rest
      | 'm' => flagLetters { f with multiLine := on } on (c :: seen) false rest
      | 's' => flagLetters { f with dotAll := on } on (c :: seen) false rest
      | 'U' => flagLetters { f with swapGreed := on } on (c :: seen) false rest
      | 'u' => flagLetters { f with unicode := on } on (c :: seen) false rest
      | 'x' => flagLetters { f with verbose := on } on (c :: seen) false rest
      | 'R' => flagLetters { f with crlf := on } on (c :: seen) false rest
      | _ => .error .badFlags

/-- Reads the name of a group up to its closing angle bracket. -/
def groupName (seen : List String) (cs : List Char) : Except Fault (List String × List Char) :=
  let name := cs.takeWhile (· != '>')
  match cs.drop name.length with
  | [] => .error .badGroupName
  | _ :: rest =>
    let isFirst := fun c : Char => c == '_' || Unicode.isLetter c || Unicode.isEnclosedLetter c
    let isPart := fun c : Char => isFirst c || c == '.' || c == '[' || c == ']' || Unicode.isDigit c
    let word := String.ofList name
    match name with
    | [] => .error .badGroupName
    | c :: more =>
      if !isFirst c || !more.all isPart || seen.contains word then .error .badGroupName
      else .ok (word :: seen, rest)

def countDigits (cs : List Char) : Except Fault (Nat × List Char) :=
  let cs := cs.dropWhile Unicode.isSpace
  let ds := cs.takeWhile Char.isDigit
  let n := ds.foldl (fun n c => 10 * n + (c.toNat - 48)) 0
  if ds.isEmpty || n ≥ Nat.pow 2 32 then .error .badCount
  else .ok (n, (cs.drop ds.length).dropWhile Unicode.isSpace)

def countRange (f : Flags) (cs : List Char) : Except Fault ((Nat × Option Nat) × List Char) := do
  let (least, rest) ← countDigits (skipVerbose f cs)
  match skipVerbose f rest with
  | '\x7d' :: rest => pure ((least, some least), rest)
  | ',' :: rest =>
    match skipVerbose f rest with
    | '\x7d' :: rest => pure ((least, none), rest)
    | rest => do
      let (most, rest) ← countDigits rest
      match skipVerbose f rest with
      | '\x7d' :: rest => if least ≤ most then pure ((least, some most), rest) else throw .badCount
      | _ => throw .badCount
  | _ => throw .badCount

/-- What may be repeated, or a change of flags, which may not. -/
inductive Item where
  | regex (r : Regex)
  | flags

/-- The expression of the items of one branch, which are given last first. -/
def branch (items : List Item) : Regex :=
  .sequence (items.reverse.filterMap fun
    | .regex r => some r
    | .flags => none)

def repeatLast (f : Flags) (least : Nat) (most : Option Nat) (items : List Item) (cs : List Char) :
    Except Fault (List Item × List Char) :=
  match items with
  | .regex r :: before =>
    let (lazy, rest) := match skipVerbose f cs with
      | '?' :: rest => (true, rest)
      | rest => (false, rest)
    .ok (.regex (.loop r least most (lazy == f.swapGreed)) :: before, rest)
  | _ => .error .missingOperand

def dot (f : Flags) : Except Fault Regex :=
  if !f.unicode then .error .splitsCharacters
  else if f.dotAll then .ok (.one .all)
  else if f.crlf then .ok (.one (.complement (.unions [.single '\n', .single '\r'])))
  else .ok (.one (.complement (.single '\n')))

def maxNesting : Nat := 250

/-- A branch in reading: the flags, the names of groups so far, the branches before, and the items. -/
structure Reading where
  flags : Flags
  names : List String
  branches : List Regex
  items : List Item

/-- The expression read so far. Of the branches the first is preferred. -/
def Reading.regex (r : Reading) : Regex :=
  r.branches.foldl (fun acc b => .alt b acc) (branch r.items)

/-- Reads alternatives up to a closing parenthesis, which is left, or the end. -/
def alternatives : Nat → Nat → Reading → List Char → Except Fault (Reading × List Char)
  | 0, _, _, _ => .error .nestedTooDeep
  | fuel + 1, depth, st, cs =>
    let f := st.flags
    let push := fun (r : Regex) (rest : List Char) =>
      alternatives fuel depth { st with items := .regex r :: st.items } rest
    match skipVerbose f cs with
    | [] => .ok (st, [])
    | ')' :: rest => .ok (st, ')' :: rest)
    | '|' :: rest =>
      alternatives fuel depth { st with branches := branch st.items :: st.branches, items := [] } rest
    | '(' :: rest => do
      let enter := fun (inner : Flags) (names : List String) (rest : List Char) => do
        if depth = 0 then throw Fault.nestedTooDeep
        let (got, rest) ← alternatives fuel (depth - 1) ⟨inner, names, [], []⟩ rest
        match rest with
        | ')' :: rest =>
          alternatives fuel depth { st with names := got.names, items := .regex got.regex :: st.items } rest
        | _ => throw .unclosedGroup
      match skipVerbose f rest with
      | '?' :: rest =>
        match rest with
        -- no conditions on what stands around a match
        | '=' :: _ | '!' :: _ | '<' :: '=' :: _ | '<' :: '!' :: _ => throw .lookAround
        | 'P' :: '<' :: rest => do
          let (names, rest) ← groupName st.names rest
          enter f names rest
        | '<' :: rest => do
          let (names, rest) ← groupName st.names rest
          enter f names rest
        | rest => do
          let (inner, after) ← flagLetters f true [] false rest
          match after with
          -- flags without a group count up to the end of the group around them
          | ')' :: more =>
            if rest.head? == some ')' then throw .missingOperand
            else alternatives fuel depth { st with flags := inner, items := .flags :: st.items } more
          | _ :: more => enter inner st.names more
          | [] => throw .unclosedGroup
      | rest => enter f st.names rest
    | '[' :: rest => do
      let (set, rest) ← bracketed f fuel rest
      push (.one set) rest
    | '?' :: rest => do
      let (items, rest) ← repeatLast f 0 (some 1) st.items rest
      alternatives fuel depth { st with items := items } rest
    | '*' :: rest => do
      let (items, rest) ← repeatLast f 0 none st.items rest
      alternatives fuel depth { st with items := items } rest
    | '+' :: rest => do
      let (items, rest) ← repeatLast f 1 none st.items rest
      alternatives fuel depth { st with items := items } rest
    | '\x7b' :: rest => do
      match st.items with
      | .regex _ :: _ => pure ()
      | _ => throw .missingOperand
      let ((least, most), rest) ← countRange f rest
      let (items, rest) ← repeatLast f least most st.items rest
      alternatives fuel depth { st with items := items } rest
    | '\\' :: rest => do
      let (e, rest) ← escape f rest
      match e with
      | .char c => push (literal f c) rest
      | .set s => push (.one s) rest
      | .look l => push (.look l (!f.unicode)) rest
    | '.' :: rest => do
      let r ← dot f
      push r rest
    | '^' :: rest =>
      let l := if !f.multiLine then Look.textStart else if f.crlf then .breakStart else .lineStart
      push (.look l false) rest
    | '$' :: rest =>
      let l := if !f.multiLine then Look.textEnd else if f.crlf then .breakEnd else .lineEnd
      push (.look l false) rest
    | c :: rest => push (literal f c) rest

def read (text : String) : Except Fault Regex := do
  let cs := text.toList
  let (got, rest) ← alternatives (2 * cs.length + 2) maxNesting ⟨.initial, [], [], []⟩ cs
  if !rest.isEmpty then throw .unopenedGroup
  let r := got.regex
  if r.cost > Regex.maxCost then throw .tooLarge
  pure r

end Guardrail.Pattern
