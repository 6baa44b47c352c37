import Guardrail.Finding.Basic

/-!
Findings that overlap.

Of findings that overlap the more severe is kept; ties go to the surer one, then to the longer, then to
the earlier, then to the rule that comes first in the alphabet. The order in which findings are given
plays no part.
-/

namespace Guardrail

/-- Doubles in their total order: by sign, then by magnitude, so that minus zero comes before zero and
what is not a number after everything else. -/
def totalOrder (x : Float) : Int :=
  let bits := x.toBits.toNat
  if bits < Nat.pow 2 63 then bits else -((bits - Nat.pow 2 63 : Nat) : Int) - 1

namespace Finding

def precedence (a b : Finding) : Ordering :=
  (compare (totalOrder b.severity) (totalOrder a.severity)).then <|
  (compare (totalOrder b.confidence) (totalOrder a.confidence)).then <|
  (compare b.span.length a.span.length).then <|
  (compare a.span.start b.span.start).then <|
  compare a.rule b.rule

def placeOrder (a b : Finding) : Ordering :=
  (compare a.span.start b.span.start).then (compare a.span.stop b.span.stop)

/-- Keeps one more finding, unless it overlaps one that is kept already. -/
def keep (kept : List Finding) (f : Finding) : List Finding :=
  if kept.any fun k => k.span.overlaps f.span then kept else kept ++ [f]

/-- The findings that are kept where spans overlap, ordered by place. -/
def resolve (found : List Finding) : List Finding :=
  ((found.mergeSort fun a b => (precedence a b).isLE).foldl keep []).mergeSort
    fun a b => (placeOrder a b).isLE

end Finding

end Guardrail
