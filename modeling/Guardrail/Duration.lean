import Guardrail.Decode.Basic
import Guardrail.Unicode.Class

/-!
Lengths of time.

A length is counted in nanoseconds and has two texts. `text`, for messages, is a decimal in the largest unit
that leaves something in front of the point, none above a second. `spelled`, for documents, is a sum of whole
units (`1h 30m`). Spelled lengths are read by `ofSpelled?`, which knows more names for the units, takes units
in any order and repeatedly, and allows a decimal point.
-/

namespace Guardrail

structure Duration where
  nanoseconds : Nat
deriving Repr, DecidableEq, Inhabited

namespace Duration

def zero : Duration := ⟨0⟩
def ofMillis (n : Nat) : Duration := ⟨n * 1000000⟩
def ofSeconds (n : Nat) : Duration := ⟨n * 1000000000⟩

def isZero (d : Duration) : Bool := d.nanoseconds == 0

def add (a b : Duration) : Duration := ⟨a.nanoseconds + b.nanoseconds⟩

instance : Add Duration := ⟨add⟩

def millis (d : Duration) : Nat := d.nanoseconds / 1000000

/-! ### In messages -/

/-- A decimal: a whole part, and a fraction of so many places without its trailing zeros. -/
def decimal (whole fraction places : Nat) : String :=
  if fraction = 0 then toString whole
  else
    let digits := Nat.toDigits 10 fraction
    let digits := List.replicate (places - digits.length) '0' ++ digits
    toString whole ++ "." ++ String.ofList (digits.reverse.dropWhile (· == '0')).reverse

def text (d : Duration) : String :=
  let n := d.nanoseconds
  if 1000000000 ≤ n then decimal (n / 1000000000) (n % 1000000000) 9 ++ "s"
  else if 1000000 ≤ n then decimal (n / 1000000) (n % 1000000) 6 ++ "ms"
  else if 1000 ≤ n then decimal (n / 1000) (n % 1000) 3 ++ "µs"
  else toString n ++ "ns"

/-! ### In documents -/

/-- A unit in which lengths are spelled. -/
structure TimeUnit where
  nanoseconds : Nat
  /-- How it is written. -/
  name : String
  /-- The name takes an `s` where there are several. -/
  plural : Bool
  /-- The names by which it is read. -/
  names : List String
deriving Repr

def second : Nat := 1000000000

/-- The units, the longest first. A month is 30.44 days, a year 365.25. -/
def units : List TimeUnit :=
  [ ⟨31557600 * second, "year", true, ["years", "year", "yr", "yrs", "y"]⟩,
    ⟨2630016 * second, "month", true, ["months", "month", "M"]⟩,
    ⟨86400 * second, "day", true, ["days", "day", "d"]⟩,
    ⟨3600 * second, "h", false, ["hours", "hour", "hr", "hrs", "h"]⟩,
    ⟨60 * second, "m", false, ["minutes", "minute", "min", "mins", "m"]⟩,
    ⟨second, "s", false, ["seconds", "second", "secs", "sec", "s"]⟩,
    ⟨1000000, "ms", false, ["millis", "msec", "ms"]⟩,
    ⟨1000, "us", false, ["usec", "us", "µs"]⟩,
    ⟨1, "ns", false, ["nanos", "nsec", "ns"]⟩ ]

/-- A unit that is read and never written. -/
def week : TimeUnit := ⟨7 * 86400 * second, "week", true, ["weeks", "week", "wk", "wks", "w"]⟩

def unit? (name : String) : Option TimeUnit := (week :: units).find? (·.names.contains name)

/-- The parts of a length of so many nanoseconds in units, the longest first, those of zero left out. -/
def parts : List TimeUnit → Nat → List String
  | [], _ => []
  | u :: rest, n =>
    let count := n / u.nanoseconds
    let others := parts rest (n % u.nanoseconds)
    if count = 0 then others
    else (toString count ++ u.name ++ if u.plural && 1 < count then "s" else "") :: others

def spelled (d : Duration) : String :=
  if d.isZero then "0s" else " ".intercalate (parts units d.nanoseconds)

def counted (n : Nat) : Option Nat := if n < Nat.pow 2 64 then some n else none

/-- What a part comes to: a count of a unit and a decimal fraction of one more. A unit below a second is
counted in nanoseconds, a longer one in seconds, and the count has to fit sixty-four bits. Of a unit of an
hour or more the fraction is counted in seconds too, and a nanosecond has none. -/
def part (u : TimeUnit) (count fraction places : Nat) : Option Nat := do
  let whole ← if second ≤ u.nanoseconds then (counted (count * (u.nanoseconds / second))).map (· * second)
    else counted (count * u.nanoseconds)
  if fraction = 0 then pure whole
  else if u.nanoseconds = 1 then none
  else
    let _ ← counted fraction
    let scale ← counted (Nat.pow 10 places)
    let rest ← if 3600 * second ≤ u.nanoseconds then
        (counted (fraction * (u.nanoseconds / second))).map (· / scale * second)
      else (counted (fraction * u.nanoseconds)).map (· / scale)
    pure (whole + rest)

/-- Where the reading of a spelled length stands. -/
inductive Reading where
  /-- A count is due. -/
  | start
  /-- Within a count. -/
  | count (n : Nat)
  /-- Within the digits after a point; so many there are. -/
  | fraction (n fraction places : Nat)
  /-- Within the name of a unit, whose letters are given the latest first. -/
  | unit (n fraction places : Nat) (letters : List Char)
deriving Repr

/-- Whether a character may stand in the name of a unit. -/
def isUnitLetter (c : Char) : Bool := c.isAlpha || c == 'µ'

/-- Adds the part that a name completes to a sum. -/
def addPart (sum n fraction places : Nat) (letters : List Char) : Option Nat := do
  let u ← unit? (String.ofList letters.reverse)
  let x ← part u n fraction places
  if (sum + x) / second < Nat.pow 2 64 then some (sum + x) else none

/-- Reads on; `seen` says whether anything has been read yet. White space is skipped in front of counts and within
them, and ends a name. -/
def read (sum : Nat) (seen : Bool) : Reading → List Char → Option Nat
  | .start, [] => if seen then some sum else none
  | .start, c :: cs =>
    if c.isDigit then read sum true (.count (c.toNat - 48)) cs
    else if Unicode.isSpace c then read sum seen .start cs
    else none
  | .count _, [] => none
  | .count n, c :: cs =>
    if c.isDigit then (counted (10 * n + (c.toNat - 48))).bind fun n => read sum true (.count n) cs
    else if Unicode.isSpace c then read sum true (.count n) cs
    else if isUnitLetter c then read sum true (.unit n 0 0 [c]) cs
    else if c == '.' then read sum true (.fraction n 0 0) cs
    else none
  | .fraction _ _ _, [] => none
  | .fraction n f places, c :: cs =>
    if c.isDigit then
      (counted (10 * f + (c.toNat - 48))).bind fun f => read sum true (.fraction n f (places + 1)) cs
    else if Unicode.isSpace c then read sum true (.fraction n f places) cs
    else if isUnitLetter c then read sum true (.unit n f places [c]) cs
    else none
  | .unit n f places letters, [] => addPart sum n f places letters
  | .unit n f places letters, c :: cs =>
    if c.isDigit then
      (addPart sum n f places letters).bind fun sum => read sum true (.count (c.toNat - 48)) cs
    else if Unicode.isSpace c then (addPart sum n f places letters).bind fun sum => read sum true .start cs
    else if isUnitLetter c then read sum true (.unit n f places (c :: letters)) cs
    else none

def ofSpelled? (s : String) : Option Duration :=
  if s == "0" then some zero else (read 0 false .start s.toList).map Duration.mk

def decoder : Decode.Decoder Duration := fun o d => do
  let s ← Decode.string o d
  match ofSpelled? s with
  | some d => pure d
  | none => throw .malformed

def toJson (d : Duration) : Json := .str d.spelled

end Duration

end Guardrail
