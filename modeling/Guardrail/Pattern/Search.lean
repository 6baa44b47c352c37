import Guardrail.Pattern.Program
import Guardrail.Finding.Basic

/-!
Running a program over a text.

`Program.attempt` explores, most preferred first, the instructions that a place in the text leads to. A
pair of instruction and place that led nowhere is not tried twice, so that the work is bounded by their
number. `Program.occurrences` lists the matches of a text from left to right; each begins at or after the end
of the one before, and an empty match never touches it.
-/

namespace Guardrail.Pattern

/-- A place in a text. -/
structure Place where
  /-- The character before it. -/
  before : Option Char
  /-- The text after it. -/
  rest : List Char
  /-- Characters before it. -/
  index : Nat
  /-- Bytes before it. -/
  offset : Nat
deriving Repr

namespace Place

def start (cs : List Char) : Place := ⟨none, cs, 0, 0⟩

def past (p : Place) (c : Char) (rest : List Char) : Place := ⟨some c, rest, p.index + 1, p.offset + c.utf8Size⟩

end Place

/-- The pairs of instruction and place that have been tried, as bits by place from `base` on. -/
structure Tried where
  base : Nat
  bits : Array Nat

namespace Tried

def none (base : Nat) : Tried := ⟨base, #[]⟩

def has (t : Tried) (instr index : Nat) : Bool := (t.bits.getD (index - t.base) 0).testBit instr

def grow (bits : Array Nat) : Nat → Array Nat
  | 0 => bits
  | n + 1 => grow (bits.push 0) n

def add (t : Tried) (instr index : Nat) : Tried :=
  let i := index - t.base
  let bits := grow t.bits (i + 1 - t.bits.size)
  { t with bits := bits.modify i (· ||| 1 <<< instr) }

end Tried

/-- Whether a character belongs to words, of ASCII or at all. -/
def isWordChar (ascii : Bool) (c : Char) : Bool :=
  if ascii then c.toNat < 0x80 && Unicode.isWord c else Unicode.isWord c

namespace Program

/-- Explores a list of pairs, the first one first. The result is the end of the preferred match. -/
def explore (p : Program) : Nat → List (Nat × Place) → Tried → Option Place × Tried
  | 0, _, tried => (none, tried)
  | _ + 1, [], tried => (none, tried)
  | fuel + 1, (instr, place) :: jobs, tried =>
    if tried.has instr place.index then explore p fuel jobs tried
    else
      let tried := tried.add instr place.index
      match p.code[instr]? with
      | none => explore p fuel jobs tried
      | some .accept => (some place, tried)
      | some (.fork first second) => explore p fuel ((first, place) :: (second, place) :: jobs) tried
      | some (.look condition ascii next) =>
        if condition.holds (isWordChar ascii) place.before place.rest.head? then
          explore p fuel ((next, place) :: jobs) tried
        else explore p fuel jobs tried
      | some (.eat set next) =>
        match place.rest with
        | [] => explore p fuel jobs tried
        | c :: rest =>
          if set.contains c then explore p fuel ((next, place.past c rest) :: jobs) tried
          else explore p fuel jobs tried

/-- Each pair is entered at most once and leaves at most two behind. -/
def steps (p : Program) (length : Nat) : Nat := 2 * (p.code.size * (length + 1)) + 2

/-- The end of the preferred match that begins at a place. -/
def attempt (p : Program) (length : Nat) (place : Place) (tried : Tried) : Option Place × Tried :=
  p.explore (p.steps length) [(p.start, place)] tried

/-- The leftmost match that begins at a place or later, as its two ends. -/
def findFrom (p : Program) (length : Nat) (before : Option Char) (index offset : Nat) (tried : Tried) :
    List Char → Option (Place × Place)
  | [] =>
    let place : Place := ⟨before, [], index, offset⟩
    ((p.attempt length place tried).1).map (place, ·)
  | c :: rest =>
    let place : Place := ⟨before, c :: rest, index, offset⟩
    match p.attempt length place tried with
    | (some stop, _) => some (place, stop)
    | (none, tried) => findFrom p length (some c) (index + 1) (offset + c.utf8Size) tried rest

def find? (p : Program) (place : Place) : Option (Place × Place) :=
  p.findFrom place.rest.length place.before place.index place.offset (.none place.index) place.rest

/-- The matches from a place on. `last` is the end of the match before, which an empty match may not
touch. Every round moves on by a character or ends at a later place. -/
def occurrencesFrom (p : Program) : Nat → Option Nat → Place → List Span
  | 0, _, _ => []
  | fuel + 1, last, place =>
    match p.find? place with
    | none => []
    | some (start, stop) =>
      if start.offset = stop.offset ∧ last = some stop.offset then
        match place.rest with
        | [] => []
        | c :: rest => occurrencesFrom p fuel last (place.past c rest)
      else ⟨start.offset, stop.offset⟩ :: occurrencesFrom p fuel (some stop.offset) stop

def occurrences (p : Program) (cs : List Char) : List Span := p.occurrencesFrom (2 * cs.length + 2) none (.start cs)

def isMatch (p : Program) (cs : List Char) : Bool := (p.find? (.start cs)).isSome

end Program

end Guardrail.Pattern
