import Guardrail.Scalar
import Guardrail.Decode.Basic

/-!
Findings: what a detector saw, where, and how sure it is.

A finding never holds the text that it is about, only its place in bytes.
-/

namespace Guardrail

/-- What a finding is about. -/
inductive Category where
  | email
  | phone
  | creditCard
  | ssn
  | iban
  | ipAddress
  | credential
  | injectionDirect
  | injectionJailbreak
  | injectionDelimiter
  | injectionExtraction
  | dataLeak
  | systemPromptLeak
  | loopDetected
  | costOverrun
  | noProgress
  | validationFailure
deriving Repr, DecidableEq, Inhabited

namespace Category

def all : List Category :=
  [.email, .phone, .creditCard, .ssn, .iban, .ipAddress, .credential, .injectionDirect,
    .injectionJailbreak, .injectionDelimiter, .injectionExtraction, .dataLeak, .systemPromptLeak,
    .loopDetected, .costOverrun, .noProgress, .validationFailure]

def text : Category → String
  | .email => "email"
  | .phone => "phone"
  | .creditCard => "credit_card"
  | .ssn => "ssn"
  | .iban => "iban"
  | .ipAddress => "ip_address"
  | .credential => "credential"
  | .injectionDirect => "injection_direct"
  | .injectionJailbreak => "injection_jailbreak"
  | .injectionDelimiter => "injection_delimiter"
  | .injectionExtraction => "injection_extraction"
  | .dataLeak => "data_leak"
  | .systemPromptLeak => "system_prompt_leak"
  | .loopDetected => "loop_detected"
  | .costOverrun => "cost_overrun"
  | .noProgress => "no_progress"
  | .validationFailure => "validation_failure"

def rank : Category → Nat
  | .email => 0
  | .phone => 1
  | .creditCard => 2
  | .ssn => 3
  | .iban => 4
  | .ipAddress => 5
  | .credential => 6
  | .injectionDirect => 7
  | .injectionJailbreak => 8
  | .injectionDelimiter => 9
  | .injectionExtraction => 10
  | .dataLeak => 11
  | .systemPromptLeak => 12
  | .loopDetected => 13
  | .costOverrun => 14
  | .noProgress => 15
  | .validationFailure => 16

def isPii : Category → Bool
  | .email | .phone | .creditCard | .ssn | .iban | .ipAddress | .credential => true
  | _ => false

def isInjection : Category → Bool
  | .injectionDirect | .injectionJailbreak | .injectionDelimiter | .injectionExtraction => true
  | _ => false

def label (c : Category) : String := s!"[REDACTED_{c.text.toUpper}]"

def decoder : Decode.Decoder Category := Decode.choice (all.map fun c => (c.text, c))

end Category

/-- A range of bytes of a text: from `start` up to, and without, `stop`. -/
structure Span where
  start : Nat
  stop : Nat
deriving Repr, DecidableEq, Inhabited

namespace Span

/-- The number of bytes. A reversed span has none. -/
def length (s : Span) : Nat := s.stop - s.start

/-- Whether there is no byte in it. -/
def isEmpty (s : Span) : Bool := s.length == 0

def overlaps (a b : Span) : Bool := a.start < b.stop && b.start < a.stop

def before (a b : Span) : Bool := a.start < b.start || (a.start == b.start && a.stop < b.stop)

def decoder : Decode.Decoder Span :=
  Decode.record "struct Span" <|
    Span.mk <$> .required "start" Decode.size <*> .required "end" Decode.size

def toJson (s : Span) : Json := .obj [("start", .ofNat s.start), ("end", .ofNat s.stop)]

end Span

structure Finding where
  category : Category
  span : Span
  confidence : Float
  severity : Float
  /-- The pattern or rule that found it. -/
  rule : String
deriving Repr, DecidableEq, Inhabited

namespace Finding

/-- A finding whose confidence and severity are brought into `[0, 1]`. -/
def make (category : Category) (span : Span) (confidence severity : Float) (rule : String) : Finding :=
  ⟨category, span, Scalar.clampUnit confidence, Scalar.clampUnit severity, rule⟩

def weight (f : Finding) : Float := f.severity * f.confidence

def decoder : Decode.Decoder Finding :=
  Decode.record "struct Entity" <|
    Finding.mk <$> .required "category" Category.decoder <*> .required "span" Span.decoder
      <*> .required "confidence" Decode.number <*> .required "severity" Decode.number
      <*> .required "rule_id" Decode.string

def toJson (f : Finding) : Json :=
  .obj [("category", .str f.category.text), ("span", f.span.toJson), ("confidence", .ofFloat f.confidence),
    ("severity", .ofFloat f.severity), ("rule_id", .str f.rule)]

end Finding

end Guardrail
