import Guardrail.Decode.Fault
import Guardrail.Decode.Plain

/-!
Decoders: from documents to typed values.

A document comes from JSON text, from YAML text, from a value already built, or from the members of a
tagged value. The four differ in how surplus items and misplaced kinds are reported, and in that YAML gives
no record by an array; in nothing else.

Records are described by `Fields`, which reads members by name or, from an array, items by position. All
faults of a record carry the place where a reader that goes through the document once meets them, and the
earliest is reported.
-/

namespace Guardrail.Decode

open Json (Document)

/-- Where a document comes from. -/
inductive Origin where
  | text
  | yaml
  | value
  | tagged
deriving Repr, BEq, DecidableEq

abbrev Decoder (α : Type) := Origin → Document → Except Fault α

def boolean : Decoder Bool
  | _, .bool b => .ok b
  | _, .plain s => (Plain.boolean? s).elim (.error (mismatch (.plain s) "a boolean")) .ok
  | _, d => .error (mismatch d "a boolean")

def string : Decoder String
  | _, .str s => .ok s
  | _, .plain s => .ok s
  | _, d => .error (mismatch d "a string")

def number : Decoder Float
  | _, .num n => .ok n.toFloat
  | _, .plain s => (Plain.number? s).elim (.error (mismatch (.plain s) "f64")) .ok
  | _, d => .error (mismatch d "f64")

def single : Decoder Float32
  | _, .num (.nat n) => .ok n.toUInt64.toFloat32
  | _, .num (.neg n) => .ok (-((n + 1).toUInt64.toFloat32))
  | _, .num (.float x) => .ok x.toFloat32
  | _, .plain s => (Plain.number? s).elim (.error (mismatch (.plain s) "f32")) fun x => .ok x.toFloat32
  | _, d => .error (mismatch d "f32")

/-- A whole number below `2 ^ bits`, of a type with the given name. -/
def natural (bits : Nat) (type : String) : Decoder Nat
  | _, .num (.nat n) => if n < Nat.pow 2 bits then .ok n else .error (.invalidValue (describeNumber (.nat n)) type)
  | _, .num (.neg n) => .error (.invalidValue (describeNumber (.neg n)) type)
  | _, .plain s =>
    match Plain.natural? s with
    | some n => if n < Nat.pow 2 bits then .ok n else .error (.invalidValue (describeNumber (.nat n)) type)
    | none => .error (mismatch (.plain s) type)
  | _, d => .error (mismatch d type)

def word32 : Decoder Nat := natural 32 "u32"
def word64 : Decoder Nat := natural 64 "u64"
def size : Decoder Nat := natural 64 "usize"

def optional {α : Type} (item : Decoder α) : Decoder (Option α)
  | _, .null => .ok none
  | o, .plain s => if Plain.isNull s then .ok none else (item o (.plain s)).map some
  | o, d => (item o d).map some

def json (depth : Nat) : Decoder Json
  | _, d => match d.toJson? depth with
    | some j => .ok j
    | none => .error .malformed

/-- The items of an array, in order. -/
def items {α : Type} (item : Decoder α) (o : Origin) : List Document → Except Fault (List α)
  | [] => .ok []
  | d :: rest => do
    let x ← item o d
    let xs ← items item o rest
    pure (x :: xs)

def list {α : Type} (item : Decoder α) : Decoder (List α)
  | o, .arr ds closed => do
    let xs ← items item o ds
    if closed then pure xs else throw .malformed
  | _, .plain "" => .ok []
  | _, d => .error (mismatch d "a sequence")

/-- The members of an object, in order. -/
def entries {κ α : Type} (key : String → Except Fault κ) (item : Decoder α) (o : Origin) :
    List (String × Document) → Except Fault (List (κ × α))
  | [] => .ok []
  | (k, d) :: rest => do
    let k ← key k
    let x ← item o d
    let xs ← entries key item o rest
    pure ((k, x) :: xs)

/-- An object with arbitrary keys, as the list of its members in the order of the document. -/
def members {κ α : Type} (key : String → Except Fault κ) (item : Decoder α) : Decoder (List (κ × α))
  | o, .obj ms closed => do
    let xs ← entries key item o ms
    if closed then pure xs else throw .malformed
  | _, .plain "" => .ok []
  | _, d => .error (mismatch d "a map")

def variant {α : Type} (names : List (String × α)) (s : String) : Except Fault α :=
  match names.lookup s with
  | some a => .ok a
  | none => .error (.unknownVariant s (names.map (·.1)))

/-- One of finitely many names, alone or as the only member of an object whose value is null. -/
def choice {α : Type} (names : List (String × α)) : Decoder α
  | _, .str s => variant names s
  | _, .plain s => variant names s
  | o, .obj ms closed =>
    match ms with
    | [] => .error (if o == .text then .malformed else .invalidValue "map" "map with a single key")
    | (k, d) :: rest =>
      if o != .text && !rest.isEmpty then .error (.invalidValue "map" "map with a single key")
      else do
        let a ← variant names k
        match d with
        | .null => if rest.isEmpty && closed then pure a else throw .malformed
        | d => throw (mismatch d "unit")
  | .text, _ => .error .malformed
  | _, d => .error (mismatch d "string or map")

/-- What the fields of a record are read from. -/
inductive Source where
  | members (ms : List (String × Document))
  | items (ds : List Document)

/-- A description of fields. `run` is given the position of the first of them. A fault comes with the
place at which it is met. -/
structure Fields (α : Type) where
  names : List String
  run : Origin → Source → Nat → Except (Nat × Fault) α

namespace Fields

def earlier (e e' : Nat × Fault) : Nat × Fault := if e'.1 < e.1 then e' else e

def pure {α : Type} (a : α) : Fields α := ⟨[], fun _ _ _ => .ok a⟩

def map {α β : Type} (f : α → β) (x : Fields α) : Fields β := ⟨x.names, fun o s n => (x.run o s n).map f⟩

def seq {α β : Type} (f : Fields (α → β)) (x : Unit → Fields α) : Fields β :=
  ⟨f.names ++ (x ()).names, fun o s n =>
    match f.run o s n, (x ()).run o s (n + f.names.length) with
    | .ok g, .ok a => .ok (g a)
    | .error e, .ok _ => .error e
    | .ok _, .error e => .error e
    | .error e, .error e' => .error (earlier e e')⟩

instance : Applicative Fields where
  pure := pure
  map := map
  seq := seq

/-- The place and the document of the first member with a name. -/
def find? (name : String) (place : Nat) : List (String × Document) → Option (Nat × Document)
  | [] => none
  | (k, d) :: rest => if k = name then some (place, d) else find? name (place + 1) rest

/-- A field. `absent` is its value where the object has no such member, `short` where the array ends
before it. -/
def field {α : Type} (name : String) (item : Decoder α) (absent short : Option α) : Fields α :=
  ⟨[name], fun o s n =>
    match s with
    | .members ms =>
      match find? name 0 ms with
      | some (place, d) => (item o d).mapError (place, ·)
      | none =>
        match absent with
        | some a => .ok a
        -- met when the whole object has been read
        | none => .error (ms.length + 1, .missingField name)
    | .items ds =>
      match ds[n]? with
      | some d => (item o d).mapError (n, ·)
      | none =>
        match short with
        | some a => .ok a
        -- the record says what was expected
        | none => .error (n, .invalidLength n "")⟩

def required {α : Type} (name : String) (item : Decoder α) : Fields α := field name item none none

def withDefault {α : Type} (name : String) (item : Decoder α) (value : α) : Fields α :=
  field name item (some value) (some value)

/-- A field that may be null, or left out of an object. -/
def nullable {α : Type} (name : String) (item : Decoder α) : Fields (Option α) :=
  field name (optional item) (some none) none

def nullableDefault {α : Type} (name : String) (item : Decoder α) : Fields (Option α) :=
  field name (optional item) (some none) (some none)

/-- The place of the first name that occurs a second time. -/
def duplicate? (names seen : List String) (place : Nat) : List (String × Document) → Option (Nat × String)
  | [] => none
  | (k, _) :: rest =>
    if names.contains k then
      if seen.contains k then some (place, k) else duplicate? names (k :: seen) (place + 1) rest
    else duplicate? names seen (place + 1) rest

/-- The place of the first member under another name that is not even JSON. -/
def brokenSkip? (names : List String) (place : Nat) : List (String × Document) → Option Nat
  | [] => none
  | (k, d) :: rest =>
    if names.contains k || d.sound then brokenSkip? names (place + 1) rest else some place

def report {α : Type} (faults : List (Option (Nat × Fault))) (result : Except (Nat × Fault) α) : Except Fault α :=
  let all := faults.filterMap id
  match result, all with
  | .ok a, [] => .ok a
  | .ok _, e :: rest => .error (rest.foldl earlier e).2
  | .error e, all => .error (all.foldl earlier e).2

def ofMembers {α : Type} (fields : Fields α) (o : Origin) (ms : List (String × Document)) (closed : Bool) :
    Except Fault α :=
  report
    [ (duplicate? fields.names [] 0 ms).map fun (p, k) => (p, .duplicateField k),
      (brokenSkip? fields.names 0 ms).map fun p => (p, .malformed),
      if closed then none else some (ms.length, .malformed) ]
    (fields.run o (.members ms) 0)

def ofItems {α : Type} (title : String) (fields : Fields α) (o : Origin) (ds : List Document) (closed : Bool) :
    Except Fault α :=
  let count := fields.names.length
  let expected := s!"{title} with {count} element" ++ (if count = 1 then "" else "s")
  let result := (fields.run o (.items ds) 0).mapError fun e =>
    (e.1, match e.2 with
      | .invalidLength n _ => if closed then .invalidLength n expected else .malformed
      | fault => fault)
  let surplus : Option (Nat × Fault) :=
    if ds.length ≤ count then none
    else some (count, match o with
      | .text | .yaml => .malformed
      | .value => .invalidLength ds.length "fewer elements in array"
      | .tagged => .invalidLength ds.length
          (if count = 1 then "1 element in sequence" else s!"{count} elements in sequence"))
  report [surplus, if closed then none else some (ds.length, .malformed)] result

/-- A record. `title` names it where something else stands in its place. -/
def record {α : Type} (title : String) (fields : Fields α) : Decoder α
  | o, .obj ms closed => ofMembers fields o ms closed
  | o, .plain "" => ofMembers fields o [] true
  | o, .arr ds closed =>
    if o == .yaml then .error (mismatch (.arr ds closed) title) else ofItems title fields o ds closed
  | _, d => .error (mismatch d title)

end Fields

export Fields (record)

end Guardrail.Decode
