import Guardrail.Finding.Basic
import Guardrail.Text.Bytes

/-!
Writing labels over findings.

Findings are taken in the order in which they start. One that starts before the end of the last one, or
whose ends do not lie between characters of the text, is left alone.
-/

namespace Guardrail.Finding

/-- What follows a place of a text, given what follows an earlier place of it. -/
def seek (text : List Char) (cursor : Nat) (rest : List Char) (place : Nat) : Option (List Char) :=
  if cursor ≤ place then Text.dropBytes? (place - cursor) rest else Text.dropBytes? place text

/-- Writes labels over findings in what follows the place `cursor` of a text. -/
def redactFrom (text : List Char) (cursor : Nat) (rest : List Char) : List Finding → List Char
  | [] => rest
  | f :: fs =>
    if f.span.start < cursor then redactFrom text cursor rest fs
    else match seek text cursor rest f.span.start, seek text cursor rest f.span.stop with
      | some _, some after =>
        Text.takeBytes (f.span.start - cursor) rest ++ f.category.label.toList
          ++ redactFrom text f.span.stop after fs
      | _, _ => redactFrom text cursor rest fs

/-- The text with a label in the place of each finding. -/
def redact (text : List Char) (findings : List Finding) : List Char :=
  redactFrom text 0 text (findings.mergeSort fun a b => a.span.start ≤ b.span.start)

end Guardrail.Finding
