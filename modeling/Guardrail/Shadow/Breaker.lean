import Guardrail.Duration

/-!
A circuit breaker: after repeated failures calls are refused for a while, then let through one at a time.

Time is counted in ticks of a millisecond. A closed breaker grants every permit and counts failures in a
row; at the threshold it opens. An open breaker refuses until its recovery time has passed since it opened,
and is half-open from then on. A half-open breaker grants one probe at a time; enough successful probes
close it, one failed probe opens it again. Reports on permits that were granted under an earlier state
change nothing.
-/

namespace Guardrail

/-- The number of ticks after which a length of time is over. -/
def Duration.ticks (d : Duration) : Nat := (d.nanoseconds + 999999) / 1000000

/-- Whether the clock goes as far as the end of a length of time. It counts seconds in sixty-three bits. -/
def Duration.onClock (d : Duration) (now : Nat) : Bool :=
  (now * 1000000 + d.nanoseconds) / Duration.second < Nat.pow 2 63

end Guardrail

namespace Guardrail.Shadow

open Decode

/-- When a breaker opens and closes. -/
structure BreakerConfig where
  /-- So many failures in a row open the breaker. -/
  failureThreshold : Nat
  /-- So long it stays open. -/
  recovery : Duration
  /-- So many successful probes close it. -/
  successThreshold : Nat
deriving Repr, DecidableEq

namespace BreakerConfig

def standard : BreakerConfig := ⟨5, .ofSeconds 60, 3⟩

def decoder : Decoder BreakerConfig :=
  record "struct CircuitBreakerConfig" <|
    BreakerConfig.mk <$> .withDefault "failure_threshold" word32 standard.failureThreshold
      <*> .withDefault "recovery_timeout" Duration.decoder standard.recovery
      <*> .withDefault "success_threshold" word32 standard.successThreshold

def toJson (c : BreakerConfig) : Json :=
  .obj [("failure_threshold", .ofNat c.failureThreshold), ("recovery_timeout", c.recovery.toJson),
    ("success_threshold", .ofNat c.successThreshold)]

end BreakerConfig

/-- The state of a breaker. -/
inductive Circuit where
  | closed
  | opened
  | halfOpen
deriving Repr, DecidableEq

namespace Circuit

def all : List Circuit := [.closed, .opened, .halfOpen]

def text : Circuit → String
  | .closed => "CLOSED"
  | .opened => "OPEN"
  | .halfOpen => "HALF_OPEN"

def label : Circuit → String
  | .closed => "Closed"
  | .opened => "Open"
  | .halfOpen => "HalfOpen"

def decoder : Decoder Circuit := choice (all.map fun c => (c.text, c))

end Circuit

/-- Leave to make one call. -/
structure Permit where
  /-- It was granted while the breaker was half-open. -/
  probe : Bool
deriving Repr, DecidableEq

structure Breaker where
  name : String
  config : BreakerConfig
  state : Circuit
  failures : Nat
  successes : Nat
  openedAt : Option Nat
  /-- A probe is out. -/
  probing : Bool
deriving Repr, DecidableEq

namespace Breaker

/-- A breaker that has seen nothing yet. -/
def fresh (name : String) (config : BreakerConfig) : Breaker := ⟨name, config, .closed, 0, 0, none, false⟩

def transition (b : Breaker) (now : Nat) : Circuit → Breaker
  | .closed => { b with state := .closed, failures := 0, successes := 0, openedAt := none, probing := false }
  | .opened => { b with state := .opened, successes := 0, openedAt := some now, probing := false }
  | .halfOpen => { b with state := .halfOpen, successes := 0, probing := false }

/-- Whether an open breaker has been open for its recovery time. -/
def recovered (b : Breaker) (now : Nat) : Bool :=
  match b.openedAt with
  | some since => since + b.config.recovery.ticks ≤ now
  | none => true

def refresh (b : Breaker) (now : Nat) : Breaker :=
  if b.state = .opened ∧ b.recovered now then b.transition now .halfOpen else b

def acquire (b : Breaker) (now : Nat) : Option Permit × Breaker :=
  let b := b.refresh now
  match b.state with
  | .closed => (some ⟨false⟩, b)
  | .opened => (none, b)
  | .halfOpen => if b.probing then (none, b) else (some ⟨true⟩, { b with probing := true })

def success (b : Breaker) (now : Nat) (p : Permit) : Breaker :=
  match b.state with
  | .closed => { b with failures := 0 }
  | .opened => b
  | .halfOpen =>
    if p.probe then
      let b := { b with probing := false, successes := b.successes + 1 }
      if b.config.successThreshold ≤ b.successes then b.transition now .closed else b
    else b

def failure (b : Breaker) (now : Nat) (p : Permit) : Breaker :=
  match b.state with
  | .closed =>
    let b := { b with failures := b.failures + 1 }
    if b.config.failureThreshold ≤ b.failures then b.transition now .opened else b
  | .opened => b
  | .halfOpen => if p.probe then { b with failures := b.failures + 1 }.transition now .opened else b

/-- Gives a permit back without a report. -/
def release (b : Breaker) (p : Permit) : Breaker :=
  if p.probe && b.state == .halfOpen then { b with probing := false } else b

def reset (b : Breaker) (now : Nat) : Breaker :=
  let b := if b.state = .closed then b else b.transition now .closed
  { b with failures := 0 }

def fields (b : Breaker) : String :=
  s!"CircuitBreaker \x7b name: {Text.quoted b.name}, state: {b.state.label} \x7d"

end Breaker

/-- What an audit says about a breaker. -/
structure BreakerView where
  name : String
  state : Circuit
  failures : Nat
  successes : Nat
deriving Repr, DecidableEq

namespace BreakerView

def fields : Fields BreakerView :=
  BreakerView.mk <$> .required "name" string <*> .required "state" Circuit.decoder
    <*> .required "failure_count" word32 <*> .required "success_count" word32

def decoder : Decoder BreakerView := record "struct CircuitSnapshot" fields

def members (v : BreakerView) : List (String × Json) :=
  [("name", .str v.name), ("state", .str v.state.text), ("failure_count", .ofNat v.failures),
    ("success_count", .ofNat v.successes)]

def toJson (v : BreakerView) : Json := .obj v.members

end BreakerView

def Breaker.view (b : Breaker) : BreakerView := ⟨b.name, b.state, b.failures, b.successes⟩

/-- Why a guarded call gave nothing. -/
inductive CallError (ε : Type) where
  /-- The breaker refused. -/
  | rejected
  | timeout (after : Duration)
  | failed (error : ε)
deriving Repr, DecidableEq

def CallError.message {ε : Type} (text : ε → String) : CallError ε → String
  | .rejected => "Circuit open, call rejected"
  | .timeout after => s!"Timeout after {after.text}"
  | .failed e => s!"Call failed: {text e}"

/-- An operation: how many ticks it takes and what comes of it. One that never ends takes no number of
ticks. -/
structure Operation (ε α : Type) where
  takes : Option Nat
  outcome : Except ε α

/-- How an operation that was waited for ends. -/
inductive Ending (ε α : Type) where
  | completed (outcome : Except ε α)
  | timedOut
  /-- Given up when the deadline of the whole was reached. -/
  | dropped

namespace Operation

variable {ε α : Type}

/-- How an operation begun at `start` ends, and when. What happens at one tick happens in this order: the
operation completes, its own time runs out, the deadline is reached. A deadline that has passed is reached at
`start`, so that an operation which is ready at once still completes. -/
def ending (op : Operation ε α) (start : Nat) (timeout : Duration) (deadline : Nat) : Ending ε α × Nat :=
  let limit := start + timeout.ticks
  let deadline := Nat.max start deadline
  let stop := Nat.min limit deadline
  match op.takes with
  | some n =>
    if start + n ≤ stop then (.completed op.outcome, start + n)
    else if limit ≤ deadline then (.timedOut, limit)
    else (.dropped, deadline)
  | none => if limit ≤ deadline then (.timedOut, limit) else (.dropped, deadline)

end Operation

/-- What a guarded call tells its breaker. -/
inductive Report where
  | success
  | failure
  /-- The permit went back without a report. -/
  | released
  /-- There was no permit. -/
  | nothing
deriving Repr, DecidableEq

/-- What comes of a permitted call. -/
structure Settled (ε α : Type) where
  /-- Absent where the call was given up. -/
  result : Option (Except (CallError ε) α)
  report : Report
  breaker : Breaker

def Breaker.settle {ε α : Type} (b : Breaker) (now : Nat) (permit : Permit) (timeout : Duration) :
    Ending ε α → Settled ε α
  | .completed (.ok a) => ⟨some (.ok a), .success, b.success now permit⟩
  | .completed (.error e) => ⟨some (.error (.failed e)), .failure, b.failure now permit⟩
  | .timedOut => ⟨some (.error (.timeout timeout)), .failure, b.failure now permit⟩
  | .dropped => ⟨none, .released, b.release permit⟩

end Guardrail.Shadow
