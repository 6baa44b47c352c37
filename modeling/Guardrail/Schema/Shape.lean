import Guardrail.Schema.Draft
import Guardrail.Json.Exact

/-!
What the keywords of a schema may hold.

`wellFormed` says whether every keyword of a schema, and of the schemas inside it, holds a value of its
shape. Keywords that a draft does not know may hold anything.
-/

namespace Guardrail.Schema

/-- What a keyword may hold. -/
inductive Shape where
  | schema
  | schemaOrFlag
  | schemas
  | schemaOrSchemas
  | named
  | schemaOrNames
  | text
  | anchor
  | flag
  | number
  | positive
  | count
  | names
  | namesByKey
  | types
  | list
  | choices
  | flags
deriving Repr, DecidableEq

def typeNames : List String := ["array", "boolean", "integer", "null", "number", "object", "string"]

/-- What a keyword may hold, if a draft knows it. -/
def shape? (d : Draft) (keyword : String) : Option Shape :=
  let upFrom (e : Draft) (s : Shape) : Option Shape := if d.since e then some s else none
  match keyword with
  | "$schema" | "title" | "description" | "format" => some .text
  | "id" => if d = .four then some .text else none
  | "$id" | "$ref" => upFrom .six .text
  | "$comment" => upFrom .seven .text
  | "contentEncoding" | "contentMediaType" => upFrom .seven .text
  | "contentSchema" => upFrom .year2019 .schema
  | "$anchor" | "$dynamicAnchor" => upFrom .year2019 .anchor
  | "$dynamicRef" | "$recursiveRef" => upFrom .year2019 .text
  | "$vocabulary" => upFrom .year2019 .flags
  | "$defs" => upFrom .year2019 .named
  | "definitions" | "properties" | "patternProperties" => some .named
  | "dependentSchemas" => upFrom .year2019 .named
  | "dependentRequired" => upFrom .year2019 .namesByKey
  | "dependencies" => some .schemaOrNames
  | "prefixItems" => upFrom .year2020 .schemas
  | "items" => some (if d.since .year2020 then .schema else .schemaOrSchemas)
  | "additionalItems" => if d.since .year2020 then none else some (if d = .four then .schemaOrFlag else .schema)
  | "additionalProperties" => some (if d = .four then .schemaOrFlag else .schema)
  | "unevaluatedItems" | "unevaluatedProperties" => upFrom .year2019 .schema
  | "contains" | "propertyNames" => upFrom .six .schema
  | "if" | "then" | "else" => upFrom .seven .schema
  | "not" => some .schema
  | "allOf" | "anyOf" | "oneOf" => some .schemas
  | "type" => some .types
  | "enum" => some (if d.since .seven then .list else .choices)
  | "examples" => upFrom .six .list
  | "multipleOf" => some .positive
  | "maximum" | "minimum" => some .number
  | "exclusiveMaximum" | "exclusiveMinimum" => some (if d = .four then .flag else .number)
  | "maxLength" | "minLength" | "maxItems" | "minItems" | "maxProperties" | "minProperties" => some .count
  | "maxContains" | "minContains" => upFrom .year2019 .count
  | "pattern" => some .text
  | "uniqueItems" => some .flag
  | "readOnly" => upFrom .seven .flag
  | "writeOnly" | "deprecated" => upFrom .year2019 .flag
  | "required" => some .names
  | _ => none

/-- Whether no value of a list stands for the same thing as another. -/
def distinct : List Json → Bool
  | [] => true
  | j :: rest => !rest.any (same j) && distinct rest
where
  /-- Whether two values stand for the same thing. -/
  same (a b : Json) : Bool := Json.same a b

def isNames (least : Nat) : Json → Bool
  | .arr items => least ≤ items.length && items.all (fun | .str _ => true | _ => false) && distinct items
  | _ => false

def isTypeName : Json → Bool
  | .str s => typeNames.contains s
  | _ => false

/-- A letter or a line below, then letters, digits and `-`, `.`, `_`. -/
def isAnchor (s : String) : Bool :=
  match s.toList with
  | c :: cs => (c.isAlpha || c == '_') && cs.all fun c => c.isAlphanum || "-._".toList.contains c
  | [] => false

/-- Whether a value has a shape, given what a schema is. -/
def Shape.admits (d : Draft) (isSchema : Json → Bool) : Shape → Json → Bool
  | .schema, j => isSchema j
  | .schemaOrFlag, .bool _ => true
  | .schemaOrFlag, j => isSchema j
  | .schemas, .arr items => !items.isEmpty && items.all isSchema
  | .schemaOrSchemas, .arr items => !items.isEmpty && items.all isSchema
  | .schemaOrSchemas, j => isSchema j
  | .named, .obj members => members.all fun m => isSchema m.2
  | .schemaOrNames, .obj members =>
    members.all fun m => isSchema m.2 || isNames (if d = .four then 1 else 0) m.2
  | .text, .str _ => true
  | .anchor, .str s => isAnchor s
  | .flag, .bool _ => true
  | .number, .num _ => true
  | .positive, .num n => n.order (.nat 0) == .gt
  | .count, .num n =>
    match n, n.whole? with
    | .float _, some w => d != .four && 0 ≤ w
    | _, some w => 0 ≤ w
    | _, none => false
  | .names, j => isNames (if d = .four then 1 else 0) j
  | .namesByKey, .obj members => members.all fun m => isNames 0 m.2
  | .types, .arr items => !items.isEmpty && items.all isTypeName && distinct items
  | .types, j => isTypeName j
  | .list, .arr _ => true
  | .choices, .arr items => !items.isEmpty && distinct items
  | .flags, .obj members => members.all fun m => match m.2 with | .bool _ => true | _ => false
  | _, _ => false

/-- Whether every keyword, down to a depth of `fuel`, holds a value of its shape. -/
def wellFormedWithin (d : Draft) : Nat → Json → Bool
  | 0, _ => true
  | _ + 1, .bool _ => d != .four
  | fuel + 1, .obj members =>
    (members.all fun (k, v) =>
      match shape? d k with
      | some s => s.admits d (wellFormedWithin d fuel) v
      | none => true)
    && (d != .four || needs members "exclusiveMaximum" "maximum" && needs members "exclusiveMinimum" "minimum")
  | _ + 1, _ => false
where
  /-- The first keyword makes no sense without the second. -/
  needs (members : List (String × Json)) (k l : String) : Bool :=
    (members.lookup k).isNone || (members.lookup l).isSome

/-- Whether every keyword of a schema holds a value of its shape. -/
def wellFormed (d : Draft) (schema : Json) : Bool := wellFormedWithin d (schema.nodes + 1) schema

end Guardrail.Schema
