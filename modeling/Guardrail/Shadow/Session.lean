import Guardrail.Shadow.Breaker

/-!
A breaker in use: a clock, and the permits that are still out.

`Session.run` plays a list of events. A permit is named by the number of permits granted before it.
-/

namespace Guardrail.Shadow

/-- A breaker, the time, and the permits that were neither reported nor given back. -/
structure Session where
  breaker : Breaker
  now : Nat
  granted : Nat
  held : List (Nat × Permit)
deriving Repr

/-- What may happen to a breaker. -/
inductive Event where
  | acquire
  | success (permit : Nat)
  | failure (permit : Nat)
  | drop (permit : Nat)
  | advance (ticks : Nat)
  /-- The state is looked at. -/
  | read
  | reset
deriving Repr, DecidableEq

namespace Session

def start (name : String) (config : BreakerConfig) : Session := ⟨.fresh name config, 0, 0, []⟩

def acquire (s : Session) : Option (Nat × Permit) × Session :=
  match s.breaker.acquire s.now with
  | (some p, b) =>
    (some (s.granted, p), { s with breaker := b, granted := s.granted + 1, held := (s.granted, p) :: s.held })
  | (none, b) => (none, { s with breaker := b })

/-- Takes a permit off those that are out and lets the breaker hear of it. -/
def settle (s : Session) (permit : Nat) (tell : Breaker → Permit → Breaker) : Option Session :=
  (s.held.lookup permit).map fun p =>
    { s with breaker := tell s.breaker p, held := s.held.filter (·.1 != permit) }

/-- Reports that a permitted call went well, if the permit is out. -/
def success? (s : Session) (permit : Nat) : Option Session := s.settle permit fun b p => b.success s.now p
/-- Reports that a permitted call failed, if the permit is out. -/
def failure? (s : Session) (permit : Nat) : Option Session := s.settle permit fun b p => b.failure s.now p
/-- Gives a permit back, if it is out. -/
def drop? (s : Session) (permit : Nat) : Option Session := s.settle permit Breaker.release

def advance (s : Session) (ticks : Nat) : Session := { s with now := s.now + ticks }
def read (s : Session) : Session := { s with breaker := s.breaker.refresh s.now }
def reset (s : Session) : Session := { s with breaker := s.breaker.reset s.now }

def call {ε α : Type} (s : Session) (timeout : Duration) (op : Operation ε α) :
    Except (CallError ε) α × Session :=
  match s.breaker.acquire s.now with
  | (none, b) => (.error .rejected, { s with breaker := b })
  | (some permit, b) =>
    let (ending, now) := op.ending s.now timeout (s.now + timeout.ticks)
    let settled := b.settle now permit timeout ending
    (settled.result.getD (.error (.timeout timeout)), { s with breaker := settled.breaker, now })

/-- Begins a call and gives it up after some ticks. The answer says whether it was begun. -/
def abandon (s : Session) (ticks : Nat) : Bool × Session :=
  match s.breaker.acquire s.now with
  | (some p, b) => (true, { s with breaker := b.release p, now := s.now + ticks })
  | (none, b) => (false, { s with breaker := b })

/-- What one event does. Reports on permits that are not out do nothing. -/
def step (s : Session) : Event → Session
  | .acquire => s.acquire.2
  | .success n => (s.success? n).getD s
  | .failure n => (s.failure? n).getD s
  | .drop n => (s.drop? n).getD s
  | .advance n => s.advance n
  | .read => s.read
  | .reset => s.reset

def run (s : Session) (events : List Event) : Session := events.foldl step s

@[simp] theorem run_nil (s : Session) : s.run [] = s := rfl

@[simp] theorem run_cons (s : Session) (e : Event) (es : List Event) :
    s.run (e :: es) = (s.step e).run es := rfl

end Session

end Guardrail.Shadow
