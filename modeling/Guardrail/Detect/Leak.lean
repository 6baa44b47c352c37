import Guardrail.Detect.Basic
import Guardrail.Text.Words

/-!
What an answer gives away: secrets, and the words of the system prompt.

An echo of the prompt is a run of its words of a given length that occurs in the answer. All echoes make
one finding; it is the surer the more of the prompt's runs are met.
-/

namespace Guardrail.Detect

def leakOrder (a b : Finding) : Ordering :=
  (compare a.span.start b.span.start).then (compare a.rule b.rule)

/-- Looks for secrets in a text of at most `limit` bytes. -/
def leak (rules : List Rules.Compiled) (limit : Nat) (text : List Char) :
    Except DetectorError (List Finding) := do
  checkSize limit text
  pure ((rules.flatMap (·.findings text)).mergeSort fun a b => (leakOrder a b).isLE)

def promptRuns (n : Nat) (prompt : List Char) : List (List (List Char)) :=
  (Text.windows n ((Text.words prompt).map (·.letters))).eraseDups

/-- How sure an echo is that meets `matched` of `total` runs. -/
def echoConfidence {ν : Type} [Scalar ν] (matched total : Nat) : ν :=
  Scalar.decimal 6 1 + Scalar.decimal 4 1 * (Scalar.ofNat matched / Scalar.ofNat total)

/-- The runs of words of a text that are runs of the prompt. -/
def echoes (n : Nat) (runs : List (List (List Char))) (text : List Char) : List (List Text.Word) :=
  (Text.windows n (Text.words text)).filter fun w => runs.contains (w.map (·.letters))

/-- The span from the first to the last of some runs of words. -/
def echoSpan (found : List (List Text.Word)) : Option Span :=
  match found.head? >>= List.head?, found.getLast? >>= List.getLast? with
  | some first, some last => some ⟨first.start, last.stop⟩
  | _, _ => none

/-- Looks for runs of `n` words of a prompt in a text of at most `limit` bytes; `n` counts as one at
least. -/
def promptEcho (prompt : List Char) (n : Nat) (limit : Nat) (text : List Char) :
    Except DetectorError (List Finding) := do
  let n := max n 1
  checkSize limit text
  let runs := promptRuns n prompt
  let found := echoes n runs text
  match echoSpan found with
  | none => pure []
  | some span =>
    let matched := (found.map fun w => w.map (·.letters)).eraseDups.length
    pure [.make .systemPromptLeak span (echoConfidence matched runs.length) 1 "leak.system_prompt_echo"]

end Guardrail.Detect
