import Benchmarker.Scheduler.Data

/-!
# The verdict of a recommendation report

What `buildRecommendationReport` makes of a pipeline run: the scores of its suites against the pass
threshold, the verdict and the confidence.
-/

namespace Benchmarker

inductive Verdict
  | reject | investigate | support
  deriving DecidableEq, Repr

inductive Confidence
  | high | medium | low
  deriving DecidableEq, Repr

/-- `EvalScore`. -/
structure EvalScore where
  suite : String
  score : ℚ
  threshold : ℚ
  passed : Bool
  deriving DecidableEq

def computeVerdict (stage1Passed : Bool) (stage2Passed : Option Bool) (stage2Ran : Bool)
    (passingEvals : List EvalScore) : Verdict :=
  if !stage1Passed then .reject
  else if !stage2Ran then .investigate
  else if stage2Passed = some false then
    if passingEvals = [] ∨ passingEvals.all (fun e => !e.passed) then .reject else .investigate
  else if passingEvals ≠ [] ∧ passingEvals.all (·.passed) then .support
  else .investigate

def computeConfidence (stage1Passed stage2Ran stage3Ran : Bool) (passingEvals : List EvalScore) :
    Confidence :=
  if !stage1Passed then .high
  else if !stage2Ran then .low
  else if !stage3Ran then .medium
  else if passingEvals ≠ [] ∧ passingEvals.all (·.passed) then .high
  else .medium

namespace PipelineRun

variable (run : PipelineRun)

def stage1Passed : Bool := run.benchmarkResult.any fun r => r.status = .success

/-- The Stage 2 result, if Stage 2 ran. -/
def stage2Run : Option Stage2Result := run.stage2Result.filter fun r => r.status ≠ .skipped

def stage2Passed : Option Bool := run.stage2Run.map fun r => r.status = .success

/-- `passingEvals`, with `passThreshold` in percent. -/
def passingEvals (passThreshold : ℚ) : List EvalScore :=
  ((run.stage2Run.bind (·.suiteResults)).getD []).map fun sr =>
    ⟨sr.suite, sr.score.getD 0, passThreshold / 100, sr.score.getD 0 ≥ passThreshold / 100⟩

/-- The verdict of the report. -/
def verdict (passThreshold : ℚ) : Verdict :=
  computeVerdict run.stage1Passed run.stage2Passed run.stage2Run.isSome (run.passingEvals passThreshold)

/-- The confidence of the report. -/
def confidence (passThreshold : ℚ) : Confidence :=
  computeConfidence run.stage1Passed run.stage2Run.isSome run.stage3Result.isSome
    (run.passingEvals passThreshold)

end PipelineRun

end Benchmarker
