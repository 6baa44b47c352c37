/-!
The check digit of payment cards.

From the right, every second digit is doubled, a result of two digits counting as their sum; the total has
to be a multiple of ten. It is kept in 32 bits and wraps around in a text of some hundreds of millions of digits.
A `Memo` remembers the answers already worked out; it never changes an answer.
-/

namespace Guardrail.Luhn

def digit (c : Char) : Nat := c.toNat - 48

/-- A digit doubled, the two digits of the result added. -/
def doubled (d : Nat) : Nat := if 9 < 2 * d then 2 * d - 9 else 2 * d

def share (double : Bool) (d : Nat) : Nat := if double then doubled d else d

/-- The weighted total of digits given from the right; `double` says how the first of them counts. -/
def total (double : Bool) : List Nat → UInt32
  | [] => 0
  | d :: rest => .ofNat (share double d) + total (!double) rest

/-- Whether a text is a number whose check digit is right. -/
def valid (cs : List Char) : Bool :=
  !cs.isEmpty && cs.all Char.isDigit && total false (cs.reverse.map digit) % 10 == 0

/-- The first `n` bytes of a text from the right, their total added to `sum`; nothing where one of them is no digit. -/
def totalBytes (bytes : ByteArray) : Nat → Bool → UInt32 → Option UInt32
  | 0, _, sum => some sum
  | n + 1, double, sum =>
    let b := bytes.get! n
    if 48 ≤ b && b ≤ 57 then totalBytes bytes n (!double) (sum + .ofNat (share double (b.toNat - 48))) else none

/-- The same for a text whose parts are given from the right. -/
def totalParts : List String → Bool → UInt32 → Option UInt32
  | [], _, sum => some sum
  | s :: rest, double, sum =>
    let bytes := s.toUTF8
    (totalBytes bytes bytes.size double sum).bind (totalParts rest (double ^^ bytes.size % 2 == 1))

/-- `valid` of a text in parts, however long, without a list of its characters. -/
def validParts (parts : List String) : Bool :=
  parts.any (!·.isEmpty) && (totalParts parts.reverse false 0).any (· % 10 == 0)

def normalize (cs : List Char) : List Char := cs.filter Char.isDigit

abbrev Memo := List (List Char × Bool)

/-- Whether a text holds thirteen to nineteen digits, as the numbers of payment cards do. -/
def hasCardLength (digits : List Char) : Bool := 13 ≤ digits.length && digits.length ≤ 19

/-- Whether a text is a card number, and the memo afterwards. -/
def check (memo : Memo) (cs : List Char) : Bool × Memo :=
  let digits := normalize cs
  if hasCardLength digits then
    match memo.lookup digits with
    | some answer => (answer, memo)
    | none => (valid digits, (digits, valid digits) :: memo)
  else (false, memo)

/-- Whether a digit string has an answer in the memo. -/
def Memo.contains (memo : Memo) (digits : List Char) : Bool := (memo.lookup digits).isSome

end Guardrail.Luhn
