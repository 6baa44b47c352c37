import Guardrail.Rules.Definition

/-!
The rules that apply where a rule set brings none of its own.
-/

namespace Guardrail.Rules

def personalData : List Definition := [
  ⟨"pii.email", .email,
    "[a-zA-Z0-9._%+-]+@[a-zA-Z0-9.-]+\\.[a-zA-Z]\x7b2,\x7d",
    0.95, 0.6⟩,
  ⟨"pii.phone", .phone,
    "(?:\\+?1[-.\\s]?)?(?:\\([0-9]\x7b3\x7d\\)\\s?|\\b[0-9]\x7b3\x7d[-.\\s])[0-9]\x7b3\x7d[-.\\s][0-9]\x7b4\x7d\\b",
    0.7, 0.5⟩,
  ⟨"pii.ssn", .ssn,
    "\\b\\d\x7b3\x7d[-\\s]\\d\x7b2\x7d[-\\s]\\d\x7b4\x7d\\b",
    0.85, 1.0⟩,
  ⟨"pii.credit_card", .creditCard,
    "\\b(?:\\d[ -]?)\x7b12,18\x7d\\d\\b",
    0.95, 1.0⟩,
  ⟨"pii.iban", .iban,
    "\\b[A-Z]\x7b2\x7d\\d\x7b2\x7d(?: ?[A-Z0-9]\x7b4\x7d)\x7b2,7\x7d(?: ?[A-Z0-9]\x7b1,4\x7d)?\\b",
    0.9, 0.9⟩,
  ⟨"pii.ipv4", .ipAddress,
    "\\b(?:(?:25[0-5]|2[0-4]\\d|1?\\d?\\d)\\.)\x7b3\x7d(?:25[0-5]|2[0-4]\\d|1?\\d?\\d)\\b",
    0.6, 0.3⟩,
  ⟨"pii.credential", .credential,
    "(?i)\\b(api[_-]?key|secret[_-]?key|access[_-]?token|auth[_-]?token|password|secret|token)[\\s:=]+['\"]?[a-zA-Z0-9_\\-]\x7b16,\x7d['\"]?",
    0.8, 0.9⟩]

def injectionTechniques : List Definition := [
  ⟨"injection.override_previous", .injectionDirect,
    "(?i)\\b(ignore|disregard|forget|override|bypass)\\b[\\w\\s,]\x7b0,30\x7d\\b(previous|prior|above|earlier|all|any|your)\\b[\\w\\s,]\x7b0,20\x7d\\b(instructions?|prompts?|rules|directions|guidelines|constraints)\\b",
    0.9, 1.0⟩,
  ⟨"injection.new_instructions", .injectionDirect,
    "(?i)\\b(new|updated|real|actual)\\s+(system\\s+)?instructions?\\s*:",
    0.75, 1.0⟩,
  ⟨"injection.roleplay_unrestricted", .injectionJailbreak,
    "(?i)\\b(you are now|act as|pretend (to be|you are)|roleplay as|from now on,? you)\\b[^.\\n]\x7b0,60\x7d\\b(unrestricted|unfiltered|uncensored|jailbroken|without (any )?(restrictions|limits|filters|rules))",
    0.85, 1.0⟩,
  ⟨"injection.dan", .injectionJailbreak,
    "(?i)\\bdo anything now\\b|\\bDAN mode\\b",
    0.8, 1.0⟩,
  ⟨"injection.privileged_mode", .injectionJailbreak,
    "(?i)\\b(developer|god|admin|debug) mode\\b\\s*(enabled|on|activated)?",
    0.7, 1.0⟩,
  ⟨"injection.chat_template_tokens", .injectionDelimiter,
    "(?i)(<\\|im_(start|end)\\|>|\\[/?INST\\]|<\\|(system|assistant)\\|>|<</?SYS>>)",
    0.8, 1.0⟩,
  ⟨"injection.fake_section", .injectionDelimiter,
    "(?im)^\\s*(#\x7b2,\x7d|-\x7b3,\x7d|=\x7b3,\x7d)\\s*(system|instructions?|admin)\\b",
    0.7, 1.0⟩,
  ⟨"injection.prompt_extraction", .injectionExtraction,
    "(?i)\\b(reveal|show|print|display|repeat|output|tell me|what (is|are))\\b[\\w\\s]\x7b0,20\x7d\\b(your|the)\\s+(system\\s+prompt|initial\\s+(instructions|prompt)|hidden\\s+(instructions|prompt)|original\\s+instructions)",
    0.85, 1.0⟩]

def secretLeaks : List Definition := [
  ⟨"leak.api_key", .dataLeak,
    "(?i)\\b(api[_-]?key|secret[_-]?key|access[_-]?token|auth[_-]?token|bearer|password|secret|token)[\\s:=]+['\"]?[a-zA-Z0-9_\\-]\x7b16,\x7d['\"]?",
    0.9, 1.0⟩,
  ⟨"leak.aws_access_key", .dataLeak,
    "\\b(AKIA|ABIA|ACCA|AGPA|AIDA|AIPA|ANPA|ANVA|AROA|ASCA|ASIA)[A-Z0-9]\x7b16\x7d\\b",
    0.95, 1.0⟩,
  ⟨"leak.private_key", .dataLeak,
    "-----BEGIN (?:RSA |EC |DSA |OPENSSH |ENCRYPTED )?PRIVATE KEY-----",
    0.98, 1.0⟩,
  ⟨"leak.connection_string", .dataLeak,
    "(?i)\\b(postgres(?:ql)?|mysql|mongodb(?:\\+srv)?|redis|amqp)://[^\\s:@/]+:[^\\s@/]+@",
    0.9, 1.0⟩,
  ⟨"leak.jwt", .dataLeak,
    "\\beyJ[A-Za-z0-9_-]\x7b10,\x7d\\.[A-Za-z0-9_-]\x7b10,\x7d\\.[A-Za-z0-9_-]\x7b10,\x7d",
    0.8, 1.0⟩]

def Library.builtin : Library := ⟨personalData, injectionTechniques, secretLeaks⟩

def builtinVersion : String := "builtin-1"

def RuleSet.builtin : RuleSet := ⟨builtinVersion, .builtin, .standard⟩

end Guardrail.Rules
