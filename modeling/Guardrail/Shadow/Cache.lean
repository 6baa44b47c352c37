import Guardrail.Shadow.Result
import Guardrail.Digest.Sha256
import Guardrail.Json.Printer

/-!
Remembered opinions.

An opinion is remembered under the version of the rules, the agent and the payload. The key is the hash of
these three, put one after another with a zero byte in between. Only opinions are remembered, never
fallbacks.
-/

namespace Guardrail.Shadow

/-- What an opinion is remembered by. -/
structure CacheKey where
  ruleVersion : String
  agent : Stage
  payload : Payload

namespace CacheKey

def text (k : CacheKey) : String := k.ruleVersion ++ "\x00" ++ k.agent.text ++ "\x00" ++ k.payload.toJson.compact

def hash (k : CacheKey) : String := Sha256.hex k.text.toUTF8

end CacheKey

/-- Remembered opinions by the hashes of their keys. -/
structure Cache where
  entries : Keyed String Result

namespace Cache

def empty : Cache := ⟨[]⟩

def get? (c : Cache) (hash : String) : Option Result := Keyed.get? hash c.entries

def insert (c : Cache) (hash : String) (r : Result) : Cache :=
  if r.fallbackUsed then c else ⟨Keyed.set hash r c.entries⟩

def size (c : Cache) : Nat := c.entries.length

def fields (c : Cache) : String := s!"ShadowCache \x7b entries: {c.size} \x7d"

end Cache

end Guardrail.Shadow
