import Guardrail.Command.Run

/-!
The command line.

Files, environment, standard input and log are touched here and nowhere else. No provider can be reached from
here: every request to one fails, and what the rules say stands.
-/

namespace Guardrail.Command

def attempt {α : Type} (act : IO α) : IO (Except String α) := do
  try return .ok (← act) catch e => return .error (toString e)

/-- The standard input up to its end, if it is text. -/
def readInput : IO String := do
  match String.fromUTF8? (← (← IO.getStdin).readBinToEnd) with
  | some text => return text
  | none => throw (.userError "stream did not contain valid UTF-8")

/-- A name for a request that no other has. -/
def freshName : IO String := do
  let digits ← (List.range 32).mapM fun _ => return Json.hexChar (← IO.rand 0 15)
  let part (start count : Nat) : String := String.ofList ((digits.drop start).take count)
  return "-".intercalate [part 0 8, part 8 4, part 12 4, part 16 4, part 20 12]

def Report.print (r : Report) : IO UInt32 := do
  IO.print r.output
  if let some complaint := r.complaint then IO.eprintln complaint
  return r.exitCode.toUInt32

/-- Adds to a log. What cannot be kept is no error of the request. -/
def addTo (log : IO.FS.Handle) (records : String) : IO Unit := do
  try
    log.putStr records
    log.flush
  catch _ => pure ()

def Prepared.perform (x : Prepared) (json : Bool) : IO UInt32 := do
  let log ← attempt (x.log.mapM fun path => IO.FS.Handle.mk path .append)
  let (report, records) := x.report json (log.map fun _ => ()) fun _ => (.failed "no connection", 1)
  if let .ok (some log) := log then addTo log records
  report.print

def Invocation.perform (i : Invocation) : IO UInt32 := do
  let files ← i.paths.mapM fun (path : String) => return (path, ← attempt (IO.FS.readFile path))
  let settings ← [Provider.Endpoint.anthropicVariable, Provider.Endpoint.openAiVariable].mapM fun v =>
    return (v, ← IO.getEnv v)
  let s : Sources :=
    ⟨fun p => (files.lookup p).getD (.error ""), fun v => (settings.lookup v).join, .error ""⟩
  let name ← freshName
  let course ← match s.course name i with
    | .lacksInput _ => pure ({ s with input := ← attempt readInput }.course name i)
    | course => pure course
  match course with
  | .ended r => r.print
  | .evaluates json x => x.perform json
  | .lacksInput cause => (Trouble.input cause).report.print

end Guardrail.Command

def main (args : List String) : IO UInt32 :=
  match Guardrail.Command.Invocation.ofArguments args with
  | .error stop => stop.report.print
  | .ok i => i.perform
