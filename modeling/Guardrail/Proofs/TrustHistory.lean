import Guardrail.Proofs.InRange
import Guardrail.Trust.Ledger

/-!
What a ledger knows about a user.

A ledger is called for many users in any order. What it answers about one of them is what that user's own updates
make of a new record, one after another; the updates of others and calls that only read leave no trace in it.
-/

namespace Guardrail

namespace TrustEvent

variable {ν : Type}

def isViolation : TrustEvent ν → Bool
  | violation => true
  | _ => false

def isEscalation : TrustEvent ν → Bool
  | escalation => true
  | _ => false

def isClean : TrustEvent ν → Bool
  | clean => true
  | _ => false

end TrustEvent

/-- What may be asked of a ledger. -/
inductive TrustCall (ν : Type := Float) where
  | update (user : String) (event : TrustEvent ν)
  | record (user : String)
  | score (user : String)
  | context (requestId user : String)

/-- What a ledger answers. -/
inductive TrustAnswer (ν : Type := Float) where
  | score (trust : ν)
  | record (r : TrustRecord ν)
  | context (c : RequestContext ν)

namespace TrustCall

variable {ν : Type}

/-- Whether a call is an update of a user. -/
def updates (user : String) : TrustCall ν → Bool
  | update u _ => u == user
  | _ => false

/-- Whether a call is an update at all. -/
def isUpdate : TrustCall ν → Bool
  | update _ _ => true
  | _ => false

/-- What happened to a user, if the call is an update of that user. -/
def event? (user : String) : TrustCall ν → Option (TrustEvent ν)
  | update u event => if u = user then some event else none
  | _ => none

end TrustCall

namespace TrustLedger

variable {ν : Type} [Scalar ν]

/-- What a call is answered, and the ledger afterwards. An update is answered with the new trust. -/
def call (l : TrustLedger ν) : TrustCall ν → TrustAnswer ν × TrustLedger ν
  | .update user event => (.score ((l.record user).apply l.config event).trust, l.update user event)
  | .record user => (.record (l.record user), l)
  | .score user => (.score (l.record user).trust, l)
  | .context requestId user => (.context (l.contextFor requestId user), l)

/-- The ledger after a list of calls. -/
def after (l : TrustLedger ν) (calls : List (TrustCall ν)) : TrustLedger ν :=
  calls.foldl (fun l c => (l.call c).2) l

/-- What each of a list of calls is answered. -/
def answers (l : TrustLedger ν) : List (TrustCall ν) → List (TrustAnswer ν)
  | [] => []
  | c :: calls => (l.call c).1 :: (l.call c).2.answers calls

/-- The answer to the last update of a user among calls, if there is one. -/
def lastUpdate? (l : TrustLedger ν) (user : String) (calls : List (TrustCall ν)) : Option (TrustAnswer ν) :=
  ((calls.zip (l.answers calls)).filter fun x => x.1.updates user).getLast?.map (·.2)

variable {l : TrustLedger ν} {user : String} {calls : List (TrustCall ν)}

/-! ### One call -/

@[simp] lemma after_nil (l : TrustLedger ν) : l.after [] = l := rfl

@[simp] lemma after_cons (l : TrustLedger ν) (c : TrustCall ν) (calls : List (TrustCall ν)) :
    l.after (c :: calls) = (l.call c).2.after calls := rfl

lemma config_call (l : TrustLedger ν) (c : TrustCall ν) : (l.call c).2.config = l.config := by
  cases c <;> rfl

lemma record_update_self (l : TrustLedger ν) (user : String) (event : TrustEvent ν) :
    (l.update user event).record user = (l.record user).apply l.config event := by
  simp [record, update, Keyed.get?_set_self]

lemma record_update_of_ne {other : String} (h : user ≠ other) (event : TrustEvent ν) :
    (l.update other event).record user = l.record user := by
  simp [record, update, Keyed.get?_set_of_ne h]

/-- A call leaves a record alone unless it is an update of that user. -/
lemma record_call (l : TrustLedger ν) (c : TrustCall ν) (user : String) :
    (l.call c).2.record user = (c.event? user).elim (l.record user) ((l.record user).apply l.config) := by
  cases c with
  | update u event =>
    by_cases hu : u = user
    · subst hu
      simp [call, TrustCall.event?, record_update_self]
    · simp [call, TrustCall.event?, hu, record_update_of_ne (Ne.symm hu)]
  | record u => rfl
  | score u => rfl
  | context q u => rfl

/-- A call that is no update leaves the ledger as it is. -/
lemma call_of_not_isUpdate {c : TrustCall ν} (h : c.isUpdate = false) : (l.call c).2 = l := by
  cases c with
  | update u event => cases h
  | record u => rfl
  | score u => rfl
  | context q u => rfl

/-! ### Many calls -/

/-- Calls change a record by the updates of that user among them, in their order. -/
lemma record_after (l : TrustLedger ν) (calls : List (TrustCall ν)) (user : String) :
    (l.after calls).record user
      = (calls.filterMap (TrustCall.event? user)).foldl (TrustRecord.apply l.config) (l.record user) := by
  induction calls generalizing l with
  | nil => rfl
  | cons c calls ih =>
    rw [after_cons, ih, config_call, record_call, List.filterMap_cons]
    cases c.event? user <;> rfl

/-- What is left of a list of calls without those that only read does the same. -/
lemma after_filter_isUpdate (l : TrustLedger ν) (calls : List (TrustCall ν)) :
    l.after (calls.filter TrustCall.isUpdate) = l.after calls := by
  induction calls generalizing l with
  | nil => rfl
  | cons c calls ih =>
    rw [List.filter_cons, after_cons]
    split
    · rw [after_cons, ih]
    · next h => rw [ih, call_of_not_isUpdate (by simpa using h)]

omit [Scalar ν] in
lemma filterMap_event?_filter (user : String) (calls : List (TrustCall ν)) :
    (calls.filter (TrustCall.updates user)).filterMap (TrustCall.event? user)
      = calls.filterMap (TrustCall.event? user) := by
  rw [List.filterMap_filter]
  refine List.filterMap_congr fun c _ => ?_
  cases c <;> simp [TrustCall.updates, TrustCall.event?]

lemma lastUpdate?_cons (l : TrustLedger ν) (user : String) (c : TrustCall ν) (calls : List (TrustCall ν)) :
    l.lastUpdate? user (c :: calls) = if c.updates user then
      some (((l.call c).2.lastUpdate? user calls).getD (l.call c).1) else (l.call c).2.lastUpdate? user calls := by
  simp only [lastUpdate?, answers, List.zip_cons_cons, List.filter_cons]
  split
  · rw [List.getLast?_cons, Option.map_some, Option.getD_map (·.2) (c, (l.call c).1)]
  · rfl

/-- The trust in a user is what the last update of that user was answered with. -/
lemma lastUpdate?_getD (l : TrustLedger ν) (user : String) (calls : List (TrustCall ν)) :
    (l.lastUpdate? user calls).getD (.score (l.record user).trust) = .score ((l.after calls).record user).trust := by
  induction calls generalizing l with
  | nil => rfl
  | cons c calls ih =>
    rw [lastUpdate?_cons, after_cons, ← ih]
    cases c with
    | update u event =>
      by_cases hu : u = user
      · subst hu
        simp [TrustCall.updates, call, record_update_self]
      · simp [TrustCall.updates, call, hu, record_update_of_ne (Ne.symm hu)]
    | record u => rfl
    | score u => rfl
    | context q u => rfl

end TrustLedger

/-! ### One record -/

namespace TrustRecord

variable {ν : Type} [Scalar ν]

/-- Every event adds to the counter of its kind and to no other. -/
lemma counts_foldl (c : TrustConfig ν) (events : List (TrustEvent ν)) (r : TrustRecord ν) :
    (events.foldl (apply c) r).violations = r.violations + events.countP TrustEvent.isViolation ∧
      (events.foldl (apply c) r).escalations = r.escalations + events.countP TrustEvent.isEscalation ∧
      (events.foldl (apply c) r).clean = r.clean + events.countP TrustEvent.isClean := by
  induction events generalizing r with
  | nil => exact ⟨rfl, rfl, rfl⟩
  | cons event events ih =>
    obtain ⟨hviolations, hescalations, hclean⟩ := ih (r.apply c event)
    rw [List.foldl_cons, hviolations, hescalations, hclean]
    simp only [List.countP_cons]
    cases event <;> simp [apply, TrustEvent.isViolation, TrustEvent.isEscalation, TrustEvent.isClean,
      Nat.add_assoc, Nat.add_comm 1]

variable [Scalar.Ordered ν]

lemma inUnit_apply (c : TrustConfig ν) (r : TrustRecord ν) (event : TrustEvent ν) :
    Scalar.InUnit (r.apply c event).trust := by
  cases event <;> exact Scalar.inUnit_clampUnit _

lemma inUnit_foldl (c : TrustConfig ν) (events : List (TrustEvent ν)) {r : TrustRecord ν}
    (h : Scalar.InUnit r.trust) : Scalar.InUnit (events.foldl (apply c) r).trust := by
  induction events generalizing r with
  | nil => exact h
  | cons event events ih => exact ih (inUnit_apply c r event)

end TrustRecord

namespace TrustLedger

/-- **Users apart.** Whatever is called, for whatever users and in whatever order, what is known about a user is what
that user's own updates make of an empty ledger. Each counter is the number of updates of its kind; the trust is a
number in `[0, 1]`, the one that the last update was answered with or else the initial one brought into range; and
what a request of the user is given is just that. Calls that only read change no later answer. -/
theorem record_eq_own_updates (config : TrustConfig) (calls : List TrustCall) (user : String) :
    let l := (empty config).after calls
    let events := calls.filterMap (TrustCall.event? user)
    l.record user = ((empty config).after (calls.filter (TrustCall.updates user))).record user ∧
      (l.record user).violations = events.countP TrustEvent.isViolation ∧
      (l.record user).escalations = events.countP TrustEvent.isEscalation ∧
      (l.record user).clean = events.countP TrustEvent.isClean ∧
      Scalar.InUnit (l.record user).trust ∧
      ((empty config).lastUpdate? user calls).getD (.score (Scalar.clampUnit config.initial))
        = .score (l.record user).trust ∧
      (∀ requestId, l.contextFor requestId user = { (.anonymous requestId : RequestContext) with
        userId := some user, trust := (l.record user).trust, violations := (l.record user).violations,
        escalations := (l.record user).escalations }) ∧
      ∀ later, l.answers later = ((empty config).after (calls.filter TrustCall.isUpdate)).answers later := by
  intro l events
  have hrecord : l.record user = events.foldl (TrustRecord.apply config) (.fresh config) :=
    record_after (empty config) calls user
  obtain ⟨hviolations, hescalations, hclean⟩ := TrustRecord.counts_foldl config events (.fresh config)
  refine ⟨?_, ?_, ?_, ?_, ?_, lastUpdate?_getD (empty config) user calls, fun requestId => rfl, fun later => ?_⟩
  · rw [hrecord, record_after, filterMap_event?_filter]
    rfl
  · rw [hrecord, hviolations]
    exact Nat.zero_add _
  · rw [hrecord, hescalations]
    exact Nat.zero_add _
  · rw [hrecord, hclean]
    exact Nat.zero_add _
  · rw [hrecord]
    exact TrustRecord.inUnit_foldl config events (Scalar.inUnit_clampUnit config.initial)
  · rw [after_filter_isUpdate]

end TrustLedger

end Guardrail
