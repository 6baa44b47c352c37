import Guardrail.Detect.Basic

/-!
Attempts to take the agent over.

Invisible characters may stand between the letters of a trigger word. A text that has some is looked at a
second time without them; what only then is found is reported for the whole text, once for each rule.
-/

namespace Guardrail.Detect

/-- Characters without width, and controls of the writing direction. -/
def isInvisible (c : Char) : Bool :=
  let n := c.toNat
  (0x200B ≤ n && n ≤ 0x200F) || (0x202A ≤ n && n ≤ 0x202E) || (0x2060 ≤ n && n ≤ 0x2064) || n == 0xFEFF

def visible (text : List Char) : List Char := text.filter fun c => !isInvisible c

def scan (rules : List Rules.Compiled) (text : List Char) : List Finding := rules.flatMap (·.findings text)

/-- Adds a finding for the whole text, unless its rule has one. -/
def addHidden (whole : Span) (found : List Finding) (hidden : Finding) : List Finding :=
  if found.any (·.rule == hidden.rule) then found else found ++ [{ hidden with span := whole }]

def injectionOrder (a b : Finding) : Ordering :=
  (compare a.span.start b.span.start).then <| (compare a.span.stop b.span.stop).then <| compare a.rule b.rule

/-- The findings of all rules in a text, those that invisible characters hide included. -/
def revealed (rules : List Rules.Compiled) (text : List Char) : List Finding :=
  let found := scan rules text
  if text.any isInvisible then
    (scan rules (visible text)).foldl (addHidden ⟨0, Text.byteLength text⟩) found
  else found

/-- Looks for attempts to take the agent over in a text of at most `limit` bytes. -/
def injection (rules : List Rules.Compiled) (limit : Nat) (text : List Char) :
    Except DetectorError (List Finding) := do
  checkSize limit text
  pure ((revealed rules text).mergeSort fun a b => (injectionOrder a b).isLE)

end Guardrail.Detect
