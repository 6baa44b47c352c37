import Guardrail.Detect.Activity
import Guardrail.Guard.Assessment

/-!
The state monitor: repetition, spending and standstill of an agent.
-/

namespace Guardrail.StateMonitor

def signals {ν : Type} [Scalar ν] (w : StateWeights ν) (looping cost progress : ν) : List (Signal ν) :=
  [.make "loop_risk" w.looping looping, .make "cost_risk" w.cost cost,
    .make "progress_risk" w.progress progress]

def score {ν : Type} [Scalar ν] (config : StateMonitorConfig ν) (thresholds : Thresholds ν)
    (looping cost progress : ν) (failed : List String) : RiskScore ν :=
  Signal.combine .stateMonitor (signals config.weights looping cost progress) "loop_risk"
    config.dominantFloor failed thresholds

/-- Assesses the state of an agent by what the detector reports. -/
def assemble (config : StateMonitorConfig) (thresholds : Thresholds) (report : Except Failure Detect.Activity) :
    Assessment :=
  let (activity, fault) := Detect.guarded "state" Detect.Activity.quiet report
  let faults := fault.toList
  { score := score config thresholds activity.looping activity.cost activity.progress (faults.map (·.detector))
    findings := Assessment.merge [activity.findings]
    redacted := none
    faults }

def assess (config : StateMonitorConfig) (thresholds : Thresholds) (snapshot : Snapshot) : Assessment :=
  assemble config thresholds (.ok (Detect.Activity.observe config snapshot))

end Guardrail.StateMonitor
