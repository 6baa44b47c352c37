import Guardrail.Shadow.Cache
import Guardrail.Proofs.JsonText

/-!
Keys are not ambiguous.

A key is the hash of three texts with a zero byte in between. Version texts may be anything, zero bytes
included, but neither the name of an agent nor compact text has one, so that the last two zero bytes are
where the key was put together. The payload can be told from its compact text if its numbers are finite and
its schema, if there is one, is not null.
-/

namespace Guardrail

open Json (Finite)

/-! ### Payloads as documents -/

/-- A payload like those that are read from JSON text: no number in it is infinite or not a number, and
where null stands for a schema there is none. -/
inductive Payload.Plain : Payload → Prop
  | input (text : String) : Plain (.input text)
  | state (s : Snapshot) (cost : s.costUsd.isFinite = true) (budget : ∀ x ∈ s.costBudgetUsd, x.isFinite = true) :
    Plain (.state s)
  | output (a : OutputPayload) (schema : ∀ j ∈ a.expectedSchema, j.Finite ∧ j ≠ .null) : Plain (.output a)

lemma Json.finite_obj {members : List (String × Json)} (h : ∀ j ∈ members.map Prod.snd, Finite j) :
    Finite (.obj members) :=
  .obj members fun m hm => h m.2 (List.mem_map_of_mem hm)

lemma Json.finite_ofOption {α : Type} {f : α → Json} {a : Option α} (h : ∀ x ∈ a, Finite (f x)) :
    Finite (.ofOption f a) := by
  cases a with
  | none => exact .null
  | some x => exact h x rfl

lemma Json.ofOption_inj {α : Type} {f : α → Json} {a b : Option α} (hf : ∀ x ∈ a, ∀ y ∈ b, f x = f y → x = y)
    (ha : ∀ x ∈ a, f x ≠ .null) (hb : ∀ x ∈ b, f x ≠ .null) (h : Json.ofOption f a = .ofOption f b) : a = b := by
  cases a with
  | none =>
    cases b with
    | none => rfl
    | some y => exact absurd h.symm (hb y rfl)
  | some x =>
    cases b with
    | none => exact absurd h (ha x rfl)
    | some y => rw [hf x rfl y rfl h]

lemma AgentAction.toJson_inj : Function.Injective AgentAction.toJson := by
  rintro ⟨t, a, m⟩ ⟨t', a', m'⟩ h
  simp_all [toJson]

lemma AgentAction.finite_toJson (a : AgentAction) : a.toJson.Finite := by
  refine Json.finite_obj ?_
  simp only [List.map_cons, List.map_nil, List.forall_mem_cons]
  exact ⟨.str _, .str _, .bool _, nofun⟩

lemma Payload.Plain.finite {p : Payload} (hp : p.Plain) : p.toJson.Finite := by
  cases hp with
  | input text =>
    refine Json.finite_obj ?_
    simp only [List.map_cons, List.map_nil, List.forall_mem_cons]
    exact ⟨.str _, .str _, nofun⟩
  | state s cost budget =>
    refine Json.finite_obj ?_
    simp only [Snapshot.toMembers, List.map_cons, List.map_nil, List.forall_mem_cons]
    have hactions : Finite (.arr (s.actions.map AgentAction.toJson)) := by
      refine .arr _ fun j hj => ?_
      obtain ⟨a, -, rfl⟩ := List.mem_map.mp hj
      exact a.finite_toJson
    exact ⟨.str _, hactions, .num _ trivial, Json.finite_ofOption fun _ _ => .num _ trivial, .num _ cost,
      Json.finite_ofOption fun x hx => .num _ (budget x hx), .num _ trivial, nofun⟩
  | output a schema =>
    refine Json.finite_obj ?_
    simp only [OutputPayload.toMembers, List.map_cons, List.map_nil, List.forall_mem_cons]
    exact ⟨.str _, .str _, Json.finite_ofOption fun _ _ => .str _, Json.finite_ofOption fun j hj => (schema j hj).1,
      Json.finite_ofOption fun _ _ => .str _, nofun⟩

lemma Json.ofOption_ofFloat_inj {a b : Option Float} (h : Json.ofOption Json.ofFloat a = .ofOption Json.ofFloat b) :
    a = b :=
  Json.ofOption_inj (fun _ _ _ _ h => Json.Number.float.inj (Json.num.inj h)) nofun nofun h

lemma Json.ofOption_ofNat_inj {a b : Option ℕ} (h : Json.ofOption Json.ofNat a = .ofOption Json.ofNat b) : a = b :=
  Json.ofOption_inj (fun _ _ _ _ h => Json.Number.nat.inj (Json.num.inj h)) nofun nofun h

lemma Json.ofOption_str_inj {a b : Option String} (h : Json.ofOption .str a = .ofOption .str b) : a = b :=
  Json.ofOption_inj (fun _ _ _ _ h => Json.str.inj h) nofun nofun h

lemma Snapshot.toMembers_inj {s s' : Snapshot} (h : s.toMembers = s'.toMembers) : s = s' := by
  obtain ⟨actions, tokens, budget, cost, limit, iterations⟩ := s
  obtain ⟨actions', tokens', budget', cost', limit', iterations'⟩ := s'
  simp only [toMembers, List.cons.injEq, Prod.mk.injEq, true_and, and_true, Json.arr.injEq] at h
  obtain ⟨hactions, htokens, hbudget, hcost, hlimit, hiterations⟩ := h
  rw [List.map_injective_iff.mpr AgentAction.toJson_inj hactions, Json.Number.nat.inj (Json.num.inj htokens),
    Json.ofOption_ofNat_inj hbudget, Json.Number.float.inj (Json.num.inj hcost), Json.ofOption_ofFloat_inj hlimit,
    Json.Number.nat.inj (Json.num.inj hiterations)]

lemma OutputPayload.toMembers_inj {a a' : OutputPayload} (ha : ∀ j ∈ a.expectedSchema, j ≠ .null)
    (ha' : ∀ j ∈ a'.expectedSchema, j ≠ .null) (h : a.toMembers = a'.toMembers) : a = a' := by
  obtain ⟨text, input, schema, prompt⟩ := a
  obtain ⟨text', input', schema', prompt'⟩ := a'
  simp only [toMembers, List.cons.injEq, Prod.mk.injEq, true_and, and_true, Json.str.injEq] at h
  obtain ⟨htext, hinput, hschema, hprompt⟩ := h
  obtain rfl : schema = schema' := Json.ofOption_inj (fun _ _ _ _ h => h) ha ha' hschema
  rw [htext, Json.ofOption_str_inj hinput, Json.ofOption_str_inj hprompt]

lemma Payload.Plain.toJson_inj {p q : Payload} (hp : p.Plain) (hq : q.Plain) (h : p.toJson = q.toJson) : p = q := by
  cases hp with
  | input text =>
    cases hq with
    | input text' => simpa [toJson] using h
    | state s' _ _ => simp [toJson] at h
    | output a' _ => simp [toJson] at h
  | state s _ _ =>
    cases hq with
    | input text' => simp [toJson] at h
    | output a' _ => simp [toJson] at h
    | state s' _ _ => rw [Snapshot.toMembers_inj (List.cons.inj (Json.obj.inj h)).2]
  | output a schema =>
    cases hq with
    | input text' => simp [toJson] at h
    | state s' _ _ => simp [toJson] at h
    | output a' schema' =>
      rw [OutputPayload.toMembers_inj (fun j hj => (schema j hj).2) (fun j hj => (schema' j hj).2)
        (List.cons.inj (Json.obj.inj h)).2]

/-! ### Keys -/

lemma append_cons_inj {α : Type} {x : α} {as bs cs ds : List α} (hbs : x ∉ bs) (hds : x ∉ ds)
    (h : as ++ x :: bs = cs ++ x :: ds) : as = cs ∧ bs = ds := by
  rcases List.append_eq_append_iff.mp h with ⟨es, rfl, htail⟩ | ⟨es, rfl, htail⟩
  · cases es with
    | nil => exact ⟨by simp, (List.cons.inj htail).2⟩
    | cons e es => exact absurd (by rw [(List.cons.inj htail).2]; simp) hbs
  · cases es with
    | nil => exact ⟨by simp, (List.cons.inj htail).2.symm⟩
    | cons e es => exact absurd (by rw [(List.cons.inj htail).2]; simp) hds

namespace Shadow.CacheKey

lemma toList_text (k : CacheKey) : k.text.toList
    = (k.ruleVersion.toList ++ '\x00' :: k.agent.text.toList) ++ '\x00' :: k.payload.toJson.chars := by
  simp [text, Json.compact]

lemma zero_notMem_agent (s : Stage) : '\x00' ∉ s.text.toList := by
  cases s <;> decide

lemma agent_inj {s t : Stage} (h : s.text = t.text) : s = t := by
  cases s <;> cases t <;> first | rfl | exact absurd h (by decide)

/-- Where the text of a key was put together can be seen: at its last two zero bytes. -/
lemma parts_of_text {k k' : CacheKey} (h : k.text = k'.text) : k.ruleVersion = k'.ruleVersion ∧
    k.agent = k'.agent ∧ k.payload.toJson.compact = k'.payload.toJson.compact := by
  have hzero (p : Payload) : '\x00' ∉ p.toJson.chars := fun h =>
    absurd (Json.printable_chars _ _ h) (by decide)
  have htext : k.text.toList = k'.text.toList := congrArg String.toList h
  rw [toList_text, toList_text] at htext
  obtain ⟨hfront, hpayload⟩ := append_cons_inj (hzero k.payload) (hzero k'.payload) htext
  obtain ⟨hversion, hagent⟩ := append_cons_inj (zero_notMem_agent k.agent) (zero_notMem_agent k'.agent) hfront
  exact ⟨String.toList_inj.mp hversion, agent_inj (String.toList_inj.mp hagent), congrArg String.ofList hpayload⟩

end Shadow.CacheKey

/-- Payloads like those that are read from JSON text can be told from their compact text. -/
lemma Payload.Plain.eq_of_compact {p q : Payload} (hp : p.Plain) (hq : q.Plain)
    (h : p.toJson.compact = q.toJson.compact) : p = q :=
  hp.toJson_inj hq (Json.compact_inj hp.finite hq.finite h)

namespace Shadow.CacheKey

/-- **Keys are not ambiguous.** Two keys for payloads read from JSON text are the same if the bytes that
are hashed for them are: the version, whatever is in it, the agent and the payload can be told from these
bytes. -/
theorem bytes_unambiguous {k k' : CacheKey} (hk : k.payload.Plain) (hk' : k'.payload.Plain) :
    k.text.toUTF8 = k'.text.toUTF8 ↔ k = k' := by
  refine ⟨fun h => ?_, fun h => h ▸ rfl⟩
  obtain ⟨hversion, hagent, hpayload⟩ := parts_of_text (String.toByteArray_inj.mp h)
  obtain ⟨version, agent, payload⟩ := k
  obtain rfl : version = _ := hversion
  obtain rfl : agent = _ := hagent
  obtain rfl : payload = _ := hk.eq_of_compact hk' hpayload
  rfl

/-- A version with a zero byte in it is not taken for a shorter one and the name of another agent. -/
theorem bytes_unambiguous_zero_byte :
    let k : CacheKey := ⟨"1\x00state", .input, .input "0.5"⟩
    let k' : CacheKey := ⟨"1", .state, .state ⟨[⟨"search", "", true⟩], 7, none, 0.5, some 0.1, 1⟩⟩
    k.payload.Plain ∧ k'.payload.Plain ∧ k.text.toUTF8 ≠ k'.text.toUTF8 := by
  intro k k'
  have hk : k.payload.Plain := .input _
  have hk' : k'.payload.Plain := by
    refine .state _ (by decide +kernel) ?_
    rintro _ ⟨⟩
    decide +kernel
  refine ⟨hk, hk', fun h => ?_⟩
  have hversion := congrArg ruleVersion ((bytes_unambiguous hk hk').mp h)
  exact absurd hversion (by decide)

end Shadow.CacheKey

end Guardrail
