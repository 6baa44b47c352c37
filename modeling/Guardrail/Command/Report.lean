import Guardrail.Pipeline

/-!
What the program says about a decision and about a rule set.
-/

namespace Guardrail

def padded (width : Nat) (s : String) : String := s ++ String.ofList (List.replicate (width - s.length) ' ')

namespace Command

def scoreLine (layer : Layer) (score : Float) (level : RiskLevel) : String :=
  s!"  {padded 13 layer.text} {Decimal.fixed 3 score} {level.text}"

/-- The lines about a score: the score, and those of its factors that are above zero. -/
def scoreLines (s : RiskScore) : List String :=
  scoreLine s.layer s.value s.level ::
    (s.factors.filter fun f => 0 < f.2).map fun f => s!"    {padded 20 f.1} {Decimal.fixed 3 f.2}"

def origin (r : Shadow.Result) : String :=
  if r.fallbackUsed then
    match r.fallbackReason with
    | some reason => s!"fallback: {reason.text}"
    | none => "fallback"
  else if r.cached then "cached"
  else r.model

/-- The line about what second opinions took. -/
def usageLine (u : Provider.Usage) : String :=
  s!"  llm:      {u.calls} calls, {u.total} tokens, ${Decimal.fixed 5 u.cost}"

end Command

namespace Decision

def lines (d : Decision) : List String :=
  let ruling := if d.blocked then "BLOCK" else "ALLOW"
  let overall (a : Aggregate) : List String :=
    s!"  overall:  {Decimal.fixed 3 a.score} {a.level.text}" ::
      (a.reason.map fun reason => s!"  escalate: {reason}").toList
  [match d.reason with
    | some reason => s!"{ruling} ({reason.text})"
    | none => ruling,
    s!"  rules:    {d.ruleVersion}"]
    ++ ((d.aggregated.map overall).getD [])
    ++ d.scores.flatMap Command.scoreLines
    ++ (d.results.map fun r => s!"{Command.scoreLine r.layer r.score r.level} [{Command.origin r}]")
    ++ (d.redactedInput.map fun text => s!"  redacted: {text}").toList
    ++ if d.usage.isEmpty then [] else [Command.usageLine d.usage]

end Decision

namespace Command

/-- What a run of the program leaves behind: what it prints, what it complains of, and whether it succeeded. -/
structure Report where
  output : String
  complaint : Option String
  exitCode : Nat
deriving Repr, DecidableEq

namespace Report

def success : Nat := 0
def failure : Nat := 1
/-- The code for a request that is blocked, and for arguments that make no sense. -/
def refusal : Nat := 2

def abortion : Nat := 101

def line (s : String) : String := s ++ "\n"

/-- A cause with something in front of it; its further lines are shifted. -/
def causeText (mark : String) (shift : List Char) (cause : String) : String :=
  mark ++ String.ofList (cause.toList.flatMap fun c => if c = '\n' then '\n' :: shift else [c])

/-- The words for a trouble and for what it comes from. Where there are several causes, each has a number. -/
def complaintText (message : String) (causes : List String) : String :=
  let below := match causes with
    | [] => []
    | [cause] => ["", "Caused by:", causeText "    " "    ".toList cause]
    | causes => "" :: "Caused by:" :: causes.zipIdx.map fun (cause, n) => causeText s!"    {n}: " "       ".toList cause
  "\n".intercalate (s!"Error: {message}" :: below)

def ofTrouble (message : String) (causes : List String) : Report := ⟨"", some (complaintText message causes), failure⟩

/-- A run that breaks off since the clock does not go as far as a deadline. -/
def brokenOff : Report := ⟨"", some "overflow when adding duration to instant", abortion⟩

def ofText (text : String) : Report := ⟨text, none, success⟩

def ofDecision (json : Bool) (d : Decision) : Report :=
  { output := if json then line d.toJson.pretty else String.join (d.lines.map line)
    complaint := none
    exitCode := if d.blocked then refusal else success }

/-- The report on rules, given whether they can be made ready. -/
def ofRules (json : Bool) (r : Rules.RuleSet) (ready : Except ConfigError Unit) : Report :=
  let p := r.patterns
  match ready with
  | .ok () =>
    let counts : Json :=
      .obj [("injection", .ofNat p.injection.length), ("leak", .ofNat p.leak.length), ("pii", .ofNat p.pii.length)]
    let document : Json := .obj [("patterns", counts), ("valid", .bool true), ("version", .str r.version)]
    ofText <| line <|
      if json then document.pretty
      else s!"OK {r.version} ({p.pii.length} pii, {p.injection.length} injection, {p.leak.length} leak patterns)"
  | .error e =>
    let document : Json := .obj [("error", .str e.message), ("valid", .bool false), ("version", .str r.version)]
    ⟨line (if json then document.pretty else s!"INVALID {r.version}: {e.message}"), none, failure⟩

end Report

end Command

end Guardrail
