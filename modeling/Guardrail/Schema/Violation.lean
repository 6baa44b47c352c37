import Guardrail.Schema.Pattern
import Guardrail.Schema.Reference

/-!
What a value violates in a schema.

`violations` lists the places in a value at which a keyword is violated, one entry for each violation. A
schema may refer to itself as long as it descends into the value on the way; the depth allowed for suffices
for that.
-/

namespace Guardrail.Schema

/-- A place in a value: the keys to it, the innermost first. -/
abbrev Place := List String

def Place.text (p : Place) : String :=
  String.join (p.reverse.map fun k => "/" ++ String.ofList (k.toList.flatMap fun c =>
    if c = '~' then ['~', '0'] else if c = '/' then ['~', '1'] else [c]))

/-- A schema to judge by. -/
structure Scope where
  draft : Draft
  root : Json

def hasType (d : Draft) (name : String) (value : Json) : Bool :=
  match name, value with
  | "array", .arr _ => true
  | "boolean", .bool _ => true
  | "null", .null => true
  | "number", .num _ => true
  | "object", .obj _ => true
  | "string", .str _ => true
  | "integer", .num (.float x) => d != .four && (Json.Number.float x).whole?.isSome
  | "integer", .num _ => true
  | _, _ => false

def countOf : Json → Nat
  | .num n => (n.whole?.getD 0).toNat
  | _ => 0

/-- The distance below which two numbers count as one constant. -/
def constantTolerance : Float := Float.ofBits 0x3cb0000000000000

/-- Whether a value is a constant. A number is compared as a double, with a tolerance. -/
def isConstant (constant value : Json) : Bool :=
  match constant, value with
  | .num a, .num b => Scalar.abs (a.toFloat - b.toFloat) < constantTolerance
  | a, b => Json.same a b

/-- Whether a number is a multiple of another. Where the step is not whole the quotient is taken as a
double, and one below zero always passes. -/
def isMultiple (step value : Json.Number) : Bool :=
  match (Json.Number.float step.toFloat).whole? with
  | some s =>
    match (Json.Number.float value.toFloat).whole? with
    | some v => v % s == 0
    | none => false
  | none =>
    let q := value.toFloat / step.toFloat
    if q.isInf then
      let (m, e) := (Json.Number.float value.toFloat).exact
      let (n, f) := (Json.Number.float step.toFloat).exact
      (m * Int.pow 2 (e - f).toNat) % (n * Int.pow 2 (f - e).toNat) == 0
    else
      let remainder := q - (if q < 0 then q.ceil else q.floor)
      remainder < constantTolerance

/-- The members of an object that a schema names, or matches by a pattern. -/
def isNamed (keywords : List (String × Json)) (key : String) : Bool :=
  (match keywords.lookup "properties" with
    | some (.obj ps) => (ps.lookup key).isSome
    | _ => false)
  || (match keywords.lookup "patternProperties" with
    | some (.obj ps) => ps.any fun p => matchesPattern p.1 key
    | _ => false)

def textsOf : Json → List String
  | .arr items => items.filterMap fun | .str s => some s | _ => none
  | _ => []

def numbered (items : List Json) : List (Nat × Json) := (List.range items.length).zip items

/-- A violation at a place, unless something holds there. -/
def demand (holds : Bool) (p : Place) : List Place := if holds then [] else [p]

/-- The violations of one keyword. `check` judges by another schema, `names` and `positions` say which
members and items a schema covers. -/
def keywordViolations (s : Scope) (check : Json → Json → Place → List Place)
    (names : Json → Json → List String) (positions : Json → Json → List Nat)
    (keywords : List (String × Json)) (keyword : String) (held : Json) (value : Json) (p : Place) : List Place :=
  let valid (schema value : Json) : Bool := (check schema value []).isEmpty
  let later (d : Draft) (vs : Unit → List Place) : List Place := if s.draft.since d then vs () else []
  let limit (d : Draft) (holds : Ordering → Bool) : List Place :=
    if !s.draft.since d then [] else
    match held, value with
    | .num a, .num b => demand (holds (b.order a)) p
    | _, _ => []
  let bound (strict : String) (holds : Ordering → Bool) : List Place :=
    -- a flag in draft four, a bound of its own in later ones
    let exclusive := s.draft == .four && (keywords.lookup strict == some (.bool true))
    limit .four fun o => holds o && !(exclusive && o == .eq)
  let memberViolations (f : String → Json → List Place) : List Place :=
    match value with
    | .obj members => members.flatMap fun (k, v) => f k v
    | _ => []
  let itemViolations (f : Nat → Json → List Place) : List Place :=
    match value with
    | .arr items => (numbered items).flatMap fun (n, v) => f n v
    | _ => []
  let refer (reference : Json) : List Place :=
    match reference with
    | .str r => match resolve? s.root r with
      | some target => check target value p
      | none => []
    | _ => []
  match keyword with
  | "$ref" => refer held
  | "$recursiveRef" => if s.draft = .year2019 then refer held else []
  | "$dynamicRef" => later .year2020 fun _ => refer held
  | "type" =>
    match held with
    | .str t => demand (hasType s.draft t value) p
    | held => demand ((textsOf held).any fun t => hasType s.draft t value) p
  | "const" => later .six fun _ => demand (isConstant held value) p
  | "enum" =>
    match held with
    | .arr items => demand (items.any fun j => Json.same j value) p
    | _ => []
  | "minimum" => bound "exclusiveMinimum" (· != .lt)
  | "maximum" => bound "exclusiveMaximum" (· != .gt)
  | "exclusiveMinimum" => limit .six (· == .gt)
  | "exclusiveMaximum" => limit .six (· == .lt)
  | "multipleOf" =>
    match held, value with
    | .num a, .num b => demand (isMultiple a b) p
    | _, _ => []
  | "minLength" => match value with | .str t => demand (countOf held ≤ t.length) p | _ => []
  | "maxLength" => match value with | .str t => demand (t.length ≤ countOf held) p | _ => []
  | "pattern" =>
    match held, value with
    | .str r, .str t => demand (matchesPattern r t) p
    | _, _ => []
  | "minItems" => match value with | .arr items => demand (countOf held ≤ items.length) p | _ => []
  | "maxItems" => match value with | .arr items => demand (items.length ≤ countOf held) p | _ => []
  | "uniqueItems" =>
    match held, value with
    | .bool true, .arr items => demand (distinct items) p
    | _, _ => []
  | "minProperties" => match value with | .obj ms => demand (countOf held ≤ ms.length) p | _ => []
  | "maxProperties" => match value with | .obj ms => demand (ms.length ≤ countOf held) p | _ => []
  | "required" =>
    match value with
    | .obj ms => (textsOf held).flatMap fun k => demand (ms.lookup k).isSome p
    | _ => []
  | "dependentRequired" => later .year2019 fun _ =>
    match held, value with
    | .obj ds, .obj ms => ds.flatMap fun (k, ns) =>
      if (ms.lookup k).isSome then (textsOf ns).flatMap fun n => demand (ms.lookup n).isSome p else []
    | _, _ => []
  | "dependentSchemas" => later .year2019 fun _ =>
    match held, value with
    | .obj ds, .obj ms => ds.flatMap fun (k, schema) => if (ms.lookup k).isSome then check schema value p else []
    | _, _ => []
  | "dependencies" =>
    match held, value with
    | .obj ds, .obj ms => ds.flatMap fun (k, d) =>
      if (ms.lookup k).isNone then [] else
      match d with
      | .arr _ => (textsOf d).flatMap fun n => demand (ms.lookup n).isSome p
      | schema => check schema value p
    | _, _ => []
  | "properties" =>
    match held with
    | .obj schemas => memberViolations fun k v =>
      match schemas.lookup k with
      | some schema => check schema v (k :: p)
      | none => []
    | _ => []
  | "patternProperties" =>
    match held with
    | .obj schemas => schemas.flatMap fun (r, schema) =>
      memberViolations fun k v => if matchesPattern r k then check schema v (k :: p) else []
    | _ => []
  | "additionalProperties" =>
    match held with
    | .bool false =>
      match value with
      -- one violation, however many members there are too many
      | .obj ms => demand (ms.all fun m => isNamed keywords m.1) p
      | _ => []
    | schema => memberViolations fun k v => if isNamed keywords k then [] else check schema v (k :: p)
  | "propertyNames" => later .six fun _ =>
    match held, value with
    | .bool false, .obj ms => demand ms.isEmpty p
    -- a wrong name is a violation at the object
    | schema, .obj ms => ms.flatMap fun (k, _) => (check schema (.str k) []).map fun _ => p
    | _, _ => []
  | "prefixItems" => later .year2020 fun _ =>
    match held with
    | .arr schemas => itemViolations fun n v =>
      match schemas[n]? with
      | some schema => check schema v (toString n :: p)
      | none => []
    | _ => []
  | "items" =>
    match held with
    | .arr schemas => itemViolations fun n v =>
      match schemas[n]? with
      | some schema => check schema v (toString n :: p)
      | none => []
    | schema =>
      let skipped := match s.draft, keywords.lookup "prefixItems" with
        | .year2020, some (.arr schemas) => schemas.length
        | _, _ => 0
      itemViolations fun n v => if n < skipped then [] else check schema v (toString n :: p)
  | "additionalItems" =>
    match keywords.lookup "items", held with
    | some (.arr schemas), .bool false =>
      match value with
      | .arr items => demand (items.length ≤ schemas.length) p
      | _ => []
    | some (.arr schemas), schema =>
      itemViolations fun n v => if n < schemas.length then [] else check schema v (toString n :: p)
    | _, _ => []
  | "contains" => later .six fun _ =>
    match value with
    | .arr items =>
      let met := (items.filter (valid held)).length
      let counted := s.draft.since .year2019
      let least := if counted then ((keywords.lookup "minContains").map countOf).getD 1 else 1
      let most := if counted then (keywords.lookup "maxContains").map countOf else none
      demand (least ≤ met && (match most with | some n => met ≤ n | none => true)) p
    | _ => []
  | "allOf" => match held with | .arr schemas => schemas.flatMap fun schema => check schema value p | _ => []
  | "anyOf" => match held with | .arr schemas => demand (schemas.any fun schema => valid schema value) p | _ => []
  | "oneOf" =>
    match held with
    | .arr schemas => demand ((schemas.filter fun schema => valid schema value).length == 1) p
    | _ => []
  | "not" => demand (!valid held value) p
  | "if" => later .seven fun _ =>
    match keywords.lookup (if valid held value then "then" else "else") with
    | some schema => check schema value p
    | none => []
  | "unevaluatedProperties" => later .year2019 fun _ =>
    match value with
    | .obj ms =>
      let covered := names (.obj keywords) value
      demand (ms.all fun m => covered.contains m.1) p
    | _ => []
  | "unevaluatedItems" => later .year2019 fun _ =>
    match value with
    | .arr items =>
      let covered := positions (.obj keywords) value
      demand ((List.range items.length).all covered.contains) p
    | _ => []
  | _ => []

/-- Collects what schemas applied to the same value cover: those referred to, the branch of a condition,
and the alternatives that hold. -/
def coveredBeside {α : Type} (s : Scope) (valid : Json → Json → Bool) (covers : Json → Json → List α)
    (keywords : List (String × Json)) (value : Json) : List α :=
  let refer (key : String) : List α :=
    match keywords.lookup key with
    | some (.str r) => match resolve? s.root r with
      | some target => covers target value
      | none => []
    | _ => []
  let holding (key : String) : List Json :=
    match keywords.lookup key with
    | some (.arr schemas) => schemas.filter fun schema => valid schema value
    | _ => []
  let branch (key : String) : List α :=
    match keywords.lookup key with
    | some schema => covers schema value
    | none => []
  let one := holding "oneOf"
  refer "$ref" ++ refer "$dynamicRef" ++ refer "$recursiveRef"
    ++ (match keywords.lookup "if" with
      | some test => if valid test value then covers test value ++ branch "then" else branch "else"
      | none => [])
    ++ (holding "allOf" ++ holding "anyOf" ++ (if one.length = 1 then one else [])).flatMap fun schema => covers schema value

/-- The members of a value that the keywords of a schema cover by themselves. -/
def ownNames (valid : Json → Json → Bool) (keywords : List (String × Json)) (value : Json) : List String :=
  let admits (key : String) (v : Json) : Bool :=
    match keywords.lookup key with
    | some schema => valid schema v
    | none => false
  match value with
  | .obj ms => (ms.filter fun (k, v) =>
      (match keywords.lookup "properties" with
        | some (.obj ps) => match ps.lookup k with
          | some schema => valid schema v
          | none => false
        | _ => false)
      || (match keywords.lookup "patternProperties" with
        | some (.obj ps) => ps.any fun (r, schema) => matchesPattern r k && valid schema v
        | _ => false)
      || admits "additionalProperties" v || admits "unevaluatedProperties" v).map (·.1)
  | _ => []

/-- The items of a value that the keywords of a schema cover by themselves. -/
def ownPositions (s : Scope) (valid : Json → Json → Bool) (keywords : List (String × Json)) (value : Json) : List Nat :=
  match value with
  | .arr items =>
    let first := match s.draft, keywords.lookup "prefixItems", keywords.lookup "items" with
      | .year2020, some (.arr schemas), none => schemas.length
      | .year2020, _, some _ => items.length
      | .year2020, _, none => 0
      | _, _, some (.arr schemas) => if (keywords.lookup "additionalItems").isSome then items.length else schemas.length
      | _, _, some _ => items.length
      | _, _, none => 0
    ((numbered items).filter fun (n, v) =>
      n < first
      || (s.draft == .year2020 && match keywords.lookup "contains" with
        | some schema => valid schema v
        | none => false)
      || (match keywords.lookup "unevaluatedItems" with
        | some schema => valid schema v
        | none => false)).map (·.1)
  | _ => []

mutual
/-- The places at which a value violates a schema. `fuel` bounds how deep schemas are nested. -/
def violationsWithin (s : Scope) : Nat → Json → Json → Place → List Place
  | 0, _, _, _ => []
  | _ + 1, .bool b, _, p => demand b p
  | fuel + 1, .obj keywords, value, p =>
    let judge := keywordViolations s (violationsWithin s fuel) (namesWithin s fuel) (positionsWithin s fuel) keywords
    match keywords.lookup "$ref" with
    | some reference =>
      if s.draft.since .year2019 then keywords.flatMap fun (k, held) => judge k held value p
      else judge "$ref" reference value p
    | none => keywords.flatMap fun (k, held) => judge k held value p
  | _ + 1, _, _, _ => []
def namesWithin (s : Scope) : Nat → Json → Json → List String
  | fuel + 1, .obj keywords, value =>
    let valid (schema value : Json) : Bool := (violationsWithin s fuel schema value []).isEmpty
    ownNames valid keywords value
      ++ coveredBeside s valid (namesWithin s fuel) keywords value
      ++ (match keywords.lookup "dependentSchemas", value with
        | some (.obj ds), .obj ms =>
          ds.flatMap fun (k, schema) => if (ms.lookup k).isSome then namesWithin s fuel schema value else []
        | _, _ => [])
  | _, _, _ => []
def positionsWithin (s : Scope) : Nat → Json → Json → List Nat
  | fuel + 1, .obj keywords, value =>
    let valid (schema value : Json) : Bool := (violationsWithin s fuel schema value []).isEmpty
    ownPositions s valid keywords value ++ coveredBeside s valid (positionsWithin s fuel) keywords value
  | _, _, _ => []
end

def violations (s : Scope) (value : Json) : List Place :=
  violationsWithin s ((s.root.nodes + 1) * (value.nodes + 1)) s.root value []

/-- The schemas that stand directly in a schema and are applied. -/
def applied (d : Draft) : Json → List Json
  | .obj keywords => keywords.flatMap fun (k, held) =>
    if k == "$defs" || k == "definitions" || k == "contentSchema" then [] else
    match shape? d k, held with
    | some .schema, j => [j]
    | some .schemaOrFlag, j => [j]
    | some .schemas, .arr items => items
    | some .schemaOrSchemas, .arr items => items
    | some .schemaOrSchemas, j => [j]
    | some .named, .obj members => members.map (·.2)
    | some .schemaOrNames, .obj members => members.filterMap fun m => match m.2 with | .arr _ => none | j => some j
    | _, _ => []
  | _ => []

def patternsReadable : Json → Bool
  | .obj keywords =>
    (match keywords.lookup "pattern" with
      | some (.str r) => (pattern? r).isSome
      | _ => true)
    && (match keywords.lookup "patternProperties" with
      | some (.obj ps) => ps.all fun p => (pattern? p.1).isSome
      | _ => true)
  | _ => true

def referencesOf (d : Draft) : Json → List String
  | .obj keywords =>
    let later := if d.since .year2020 then ["$dynamicRef"] else if d = .year2019 then ["$recursiveRef"] else []
    (["$ref"] ++ later).filterMap fun k =>
      match keywords.lookup k with
      | some (.str r) => some r
      | _ => none
  | _ => []

/-- Whether all schemas that can be reached have readable patterns and references that lead somewhere.
`seen` holds the references followed so far. -/
def usableFrom (s : Scope) : Nat → List String → List Json → Bool
  | 0, _, _ => true
  | _, _, [] => true
  | fuel + 1, seen, schema :: work =>
    let refs := (referencesOf s.draft schema).filter fun r => !seen.contains r
    let targets := refs.map (resolve? s.root)
    -- before 2019 a reference stands alone
    let alone := !s.draft.since .year2019 && !(referencesOf s.draft schema).isEmpty
    (alone || patternsReadable schema) && targets.all Option.isSome
      && usableFrom s fuel (refs ++ seen)
        ((if alone then [] else applied s.draft schema) ++ targets.filterMap id ++ work)

/-- What to judge values by, if the schema is one. -/
def Scope.of? (schema : Json) : Option Scope := do
  let draft ← Draft.of? schema
  let s : Scope := ⟨draft, schema⟩
  if wellFormed draft schema && usableFrom s ((schema.nodes + 1) * (schema.nodes + 1)) [] [schema] then some s else none

end Guardrail.Schema
