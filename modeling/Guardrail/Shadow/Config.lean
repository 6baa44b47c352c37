import Guardrail.Shadow.Breaker
import Guardrail.Provider.Basic
import Guardrail.Config.Source
import Guardrail.Yaml.Printer
import Guardrail.Text.Trim

/-!
The parameters of second opinions and what makes them acceptable.
-/

namespace Guardrail.Shadow

open Decode

/-- Who is asked, and for how long. -/
structure AgentsConfig where
  enabled : List Stage
  /-- So long an agent may take. -/
  agentTimeout : Duration
  /-- So long a request may take, second opinions included. -/
  requestDeadline : Duration
deriving Repr, DecidableEq

namespace AgentsConfig

def standard : AgentsConfig := ⟨Stage.all, .ofSeconds 5, .ofSeconds 10⟩

def decoder : Decoder AgentsConfig :=
  record "struct ShadowConfig" <|
    AgentsConfig.mk <$> .withDefault "enabled_agents" (list Stage.decoder) standard.enabled
      <*> .withDefault "agent_timeout" Duration.decoder standard.agentTimeout
      <*> .withDefault "request_deadline" Duration.decoder standard.requestDeadline

def toJson (c : AgentsConfig) : Json :=
  .obj [("enabled_agents", .arr (c.enabled.map fun s => .str s.text)),
    ("agent_timeout", c.agentTimeout.toJson), ("request_deadline", c.requestDeadline.toJson)]

end AgentsConfig

/-- Whether opinions are remembered, how many and for how long. -/
structure CacheConfig where
  enabled : Bool
  capacity : Nat
  lifetime : Duration
deriving Repr, DecidableEq

namespace CacheConfig

def standard : CacheConfig := ⟨true, 10000, .ofSeconds 3600⟩

def decoder : Decoder CacheConfig :=
  record "struct CacheConfig" <|
    CacheConfig.mk <$> .withDefault "enabled" boolean standard.enabled
      <*> .withDefault "max_capacity" word64 standard.capacity
      <*> .withDefault "ttl" Duration.decoder standard.lifetime

def toJson (c : CacheConfig) : Json :=
  .obj [("enabled", .bool c.enabled), ("max_capacity", .ofNat c.capacity), ("ttl", c.lifetime.toJson)]

end CacheConfig

/-- The parameters of second opinions. -/
structure Config where
  breaker : BreakerConfig
  agents : AgentsConfig
  cache : CacheConfig
  settings : Provider.Settings
deriving Repr

namespace Config

def standard : Config := ⟨.standard, .standard, .standard, .standard⟩

def decoder : Decoder Config :=
  record "struct RuntimeConfig" <|
    Config.mk <$> .withDefault "circuit_breaker" BreakerConfig.decoder .standard
      <*> .withDefault "shadow" AgentsConfig.decoder .standard
      <*> .withDefault "cache" CacheConfig.decoder .standard
      <*> .withDefault "completion" Provider.Settings.decoder .standard

def toJson (c : Config) : Json :=
  .obj [("circuit_breaker", c.breaker.toJson), ("shadow", c.agents.toJson), ("cache", c.cache.toJson),
    ("completion", c.settings.toJson)]

def validate (c : Config) : Except ConfigError Unit := do
  checkValue "circuit_breaker.failure_threshold" (c.breaker.failureThreshold != 0) "must be at least 1"
  checkValue "circuit_breaker.success_threshold" (c.breaker.successThreshold != 0) "must be at least 1"
  checkValue "circuit_breaker.recovery_timeout" (!c.breaker.recovery.isZero) "must be positive"
  checkValue "shadow.agent_timeout" (!c.agents.agentTimeout.isZero) "must be positive"
  checkValue "shadow.request_deadline" (!c.agents.requestDeadline.isZero) "must be positive"
  checkValue "cache" (!c.cache.enabled || (c.cache.capacity != 0 && !c.cache.lifetime.isZero))
    "an enabled cache needs a capacity and a ttl"
  checkValue "completion.model" (!(Text.trim c.settings.model.toList).isEmpty) "must not be empty"
  checkValue "completion.temperature" (0 ≤ c.settings.temperature && c.settings.temperature ≤ 2)
    "must be in [0, 2]"

def ofYaml (text : String) : Except ConfigError Config := do
  let c ← Guardrail.ofYaml decoder text
  c.validate
  pure c

def toYaml (c : Config) : String := Format.yaml.write c.toJson

end Config

end Guardrail.Shadow
