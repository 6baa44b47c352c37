import Guardrail.Checksum.Luhn
import Guardrail.Checksum.Iban
import Guardrail.Detect.Basic
import Guardrail.Finding.Overlap

/-!
Personal data.

A match for a card or account number counts only if its check digits are right. Of confirmed matches that
overlap, one is kept.
-/

namespace Guardrail.Detect

def confirmed (category : Category) (matched : List Char) : Bool :=
  match category with
  | .creditCard => Luhn.hasCardLength (Luhn.normalize matched) && Luhn.valid (Luhn.normalize matched)
  | .iban => Iban.valid matched
  | _ => true

/-- Whether a match is what its category says, and the memo of card numbers afterwards. -/
def confirm (memo : Luhn.Memo) (category : Category) (matched : List Char) : Bool × Luhn.Memo :=
  match category with
  | .creditCard => Luhn.check memo matched
  | _ => (confirmed category matched, memo)

/-- The confirmed ones among matches of a rule, and the memo afterwards. -/
def confirmSpans (rule : Rules.Compiled) (text : List Char) (memo : Luhn.Memo) :
    List Span → List Finding × Luhn.Memo
  | [] => ([], memo)
  | s :: rest =>
    let (holds, memo) := confirm memo rule.category ((Text.slice? s.start s.stop text).getD [])
    let (found, memo) := confirmSpans rule text memo rest
    (if holds then rule.finding s :: found else found, memo)

/-- The confirmed matches of all rules, and the memo afterwards. -/
def candidates (text : List Char) (memo : Luhn.Memo) : List Rules.Compiled → List Finding × Luhn.Memo
  | [] => ([], memo)
  | rule :: rest =>
    let (found, memo) := confirmSpans rule text memo (rule.find text)
    let (more, memo) := candidates text memo rest
    (found ++ more, memo)

/-- Looks for personal data in a text of at most `limit` bytes. -/
def pii (rules : List Rules.Compiled) (limit : Nat) (memo : Luhn.Memo) (text : List Char) :
    Except DetectorError (List Finding) × Luhn.Memo :=
  match checkSize limit text with
  | .error e => (.error e, memo)
  | .ok () =>
    let (found, memo) := candidates text memo rules
    (.ok (Finding.resolve found), memo)

end Guardrail.Detect
