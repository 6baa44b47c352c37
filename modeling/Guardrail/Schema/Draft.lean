import Guardrail.Json.Basic

/-!
The drafts of JSON Schema.
-/

namespace Guardrail.Schema

/-- A draft of JSON Schema. -/
inductive Draft where
  | four
  | six
  | seven
  | year2019
  | year2020
deriving Repr, DecidableEq

namespace Draft

def rank : Draft → Nat
  | .four => 4
  | .six => 6
  | .seven => 7
  | .year2019 => 2019
  | .year2020 => 2020

/-- Whether a draft is at least as new as another. -/
def since (d e : Draft) : Bool := e.rank ≤ d.rank

/-- The draft of an address. A mark at the end of the address counts for nothing. -/
def ofAddress? (address : String) : Option Draft :=
  let core := String.ofList (address.toList.reverse.dropWhile (· == '#')).reverse
  [("https://json-schema.org/draft/2020-12/schema", year2020), ("https://json-schema.org/draft/2019-09/schema", year2019),
    ("http://json-schema.org/draft-07/schema", seven), ("http://json-schema.org/draft-06/schema", six),
    ("http://json-schema.org/draft-04/schema", four)].lookup core

/-- The draft that a schema names; without a name it is the newest. -/
def of? (schema : Json) : Option Draft :=
  match schema.get? "$schema" with
  | some (.str address) => ofAddress? address
  | _ => some year2020

end Draft

end Guardrail.Schema
