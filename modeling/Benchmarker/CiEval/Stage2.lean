import Benchmarker.Js.Json
import Benchmarker.Queue.Index

/-!
# Stage 2 results of CI evals

The mapper from Buildkite builds to Stage 2 results: one build to one result, the results of all
suites to one, the result of a resumed run that has nothing left to run, and the eval summary read
from a build artifact.

* `mapBuildkiteResultToStage2`, `buildResumeStage2Result`, `mergeStage2Results`.
* `SuiteOutcome`, **`merge_outcomes`**: the merged result of the final builds of some suites.
-/

namespace Benchmarker

open Js

/-- An entry of `suiteResults`. -/
structure SuiteResult where
  suite : String
  status : String
  score : Option ℚ := none
  error : Option String := none
  durationMs : Option ℚ := none
  logPath : Option String := none
  deriving DecidableEq

/-- `Stage2Result['status']`. -/
inductive Stage2Status
  | success | partialRun | skipped | failed | error
  deriving DecidableEq, Repr

structure Stage2Result where
  runId : String
  modelId : String
  status : Stage2Status
  scores : Option (JsMap String ℚ) := none
  suiteResults : Option (List SuiteResult) := none
  tracesIndex : Option String := none
  reason : Option String := none
  batchSummaryPath : Option String := none
  stdoutLogPath : Option String := none
  startedAt : Time
  completedAt : Time
  deriving DecidableEq

structure BuildkiteArtifact where
  filename : String
  url : String
  deriving DecidableEq

/-- `BuildkiteBuildResult['status']`. -/
inductive BuildStatus
  | passed | failed | running
  deriving DecidableEq, Repr

structure BuildkiteBuildResult where
  buildUrl : String
  buildNumber : ℕ
  status : BuildStatus
  terminalState : Option String := none
  artifacts : Option (List BuildkiteArtifact) := none
  deriving DecidableEq

/-- `RETRIABLE_INFRA_BUILDKITE_STATES`. -/
def retriableInfraBuildkiteStates : List String := ["skipped", "not_run"]

def isRetriableInfraState (state : Option String) : Bool :=
  state.any fun s => retriableInfraBuildkiteStates.contains s

/-! ## Artifacts -/

/-- A case of an eval summary. -/
structure EvalCase where
  name : String
  status : String
  error : Option String
  deriving DecidableEq

structure EvalArtifactSummary where
  total : Option ℚ := none
  passed : Option ℚ := none
  failed : Option ℚ := none
  passRate : Option ℚ := none
  cases : Option (List EvalCase) := none
  deriving DecidableEq

/-- `t[k] === s`, for a test record `t`. -/
def fieldIs (t : Json) (k s : String) : Bool := (t.field k).any fun v => v.asStr == some s

/-- One test record as a case; `none` is a thrown `TypeError`. -/
def evalCase (t : Json) : Option EvalCase := do
  let name ← (Json.nullish (t.field "name") (Json.nullish (t.field "title")
    (some (.str "unknown")))).bind Json.toText
  let status ← (Json.nullish (t.field "status") (some (.str "unknown"))).bind Json.toText
  return ⟨name, status, (t.field "error").bind Json.asStr⟩

/-- The summary of a list of test records; `none` is a thrown `TypeError`. -/
def summarizeTests (tests : List Json) : Option EvalArtifactSummary := do
  if tests.any fun t => t matches .null then none
  else
    let passed := tests.countP fun t => fieldIs t "status" "passed" || fieldIs t "status" "pass"
    let failed := tests.countP fun t => fieldIs t "status" "failed" || fieldIs t "status" "fail"
    let total := tests.length
    let cases ← tests.mapM evalCase
    return {
      total := some total
      passed := some passed
      failed := some failed
      passRate := some (if total > 0 then (passed : ℚ) / total else 0)
      cases := some cases }

/-- The summary of a record of tallies. -/
def summarizeTallies (o : Json) : Option EvalArtifactSummary :=
  match (o.field "total").bind Json.asNum, (o.field "passed").bind Json.asNum with
  | some total, some passed => some {
      total := some total
      passed := some passed
      failed := (o.field "failed").bind Json.asNum
      passRate := some (if total > 0 then passed / total else 0) }
  | _, _ => none

/-- `parseEvalArtifactJson`, on what `JSON.parse` makes of the text; `none` is a thrown error. -/
def parseEvalArtifactJson (raw : Option Json) : Option EvalArtifactSummary :=
  match raw with
  | some o =>
    match o.field "tests" with
    | some (.arr tests) => summarizeTests tests
    | _ => summarizeTallies o
  | none => none

/-! ## Results -/

/-- The pass rate of a build: the summary's, else from its tallies, else from the build status. -/
def buildPassRate (status : BuildStatus) (summary : Option EvalArtifactSummary) : ℚ :=
  match summary.bind (·.passRate) with
  | some rate => rate
  | none =>
    match (summary.bind (·.total)).filter (· > 0) with
    | some total => ((summary.bind (·.passed)).getD 0) / total
    | none => if status = .passed then 1 else 0

/-- The suite result of one case. -/
def caseResult (c : EvalCase) : SuiteResult :=
  let passed := c.status = "passed" ∨ c.status = "pass"
  { suite := c.name
    status := if passed then "pass" else "fail"
    score := some (if passed then 1 else 0)
    error := c.error }

/-- The suite results of one build: one for each case, or one for the whole suite. -/
def buildSuiteResults (suite : String) (buildResult : BuildkiteBuildResult)
    (summary : Option EvalArtifactSummary) : List SuiteResult :=
  match (summary.bind (·.cases)).getD [] with
  | [] => [{
      suite := suite
      status := if buildResult.status = .passed then "pass" else "fail"
      score := some (buildPassRate buildResult.status summary)
      error := if buildResult.status = .failed
        then some s!"Buildkite eval build #{buildResult.buildNumber} failed" else none }]
  | cases => cases.map caseResult

def mapBuildkiteResultToStage2 (runId modelId : String) (evalSuites : List String)
    (buildResult : BuildkiteBuildResult) (artifactSummary : Option EvalArtifactSummary)
    (startedAt : Option Time) (now : Time) : Stage2Result :=
  let suite := evalSuites.head?.getD "kibana-ci-eval"
  { runId := runId
    modelId := modelId
    status := if buildResult.status = .passed then .success else .failed
    scores := some [(suite, buildPassRate buildResult.status artifactSummary)]
    suiteResults := some (buildSuiteResults suite buildResult artifactSummary)
    reason := match buildResult.status with
      | .running => some "Buildkite eval poll timed out before completion"
      | .failed => some s!"Kibana CI eval failed (build #{buildResult.buildNumber})"
      | .passed => none
    startedAt := startedAt.getD now
    completedAt := now }

def buildResumeStage2Result (runId modelId : String) (evalSuites : List String)
    (startedAt now : Time) : Stage2Result where
  runId := runId
  modelId := modelId
  status := .success
  scores := some (JsMap.assign [] (evalSuites.map fun suite => (suite, 1)))
  suiteResults := some (evalSuites.map fun suite =>
    { suite := suite, status := "pass", score := some 1 })
  reason := some "All suites completed before resume"
  startedAt := startedAt
  completedAt := now

/-- A part counts as failed unless it is a success or partial. -/
def Stage2Status.fails : Stage2Status → Bool
  | .success | .partialRun => false
  | _ => true

def mergeStage2Results : List Stage2Result → Except JsError Stage2Result
  | [] => .error ⟨"mergeStage2Results requires at least one Stage2Result", none⟩
  | [result] => .ok result
  | first :: rest =>
    let results := first :: rest
    let failed := results.filter (·.status.fails)
    .ok {
      runId := first.runId
      modelId := first.modelId
      status := if failed = [] then
          if results.any (·.status = .partialRun) then .partialRun else .success
        else .failed
      scores := some (results.foldl (fun m r => m.assign (r.scores.getD [])) [])
      suiteResults := some (results.flatMap fun r => r.suiteResults.getD [])
      reason := if failed = [] then none
        else some ("; ".intercalate
          ((failed.map fun r => r.reason.getD s!"{r.modelId} suite failed").filter (· ≠ "")))
      startedAt := first.startedAt
      completedAt := (results.getLastD first).completedAt }

/-! ## Final builds -/

theorem buildSuiteResults_ne_nil (suite : String) (build : BuildkiteBuildResult)
    (summary : Option EvalArtifactSummary) : buildSuiteResults suite build summary ≠ [] := by
  unfold buildSuiteResults
  split <;> simp_all

/-- A suite with its final build and the summary among the artifacts of that build. -/
structure SuiteOutcome where
  suite : String
  build : BuildkiteBuildResult
  summary : Option EvalArtifactSummary
  now : Time
  deriving DecidableEq

namespace SuiteOutcome

variable (o : SuiteOutcome)

def passed : Bool := o.build.status = .passed

def results : List SuiteResult := buildSuiteResults o.suite o.build o.summary

def rate : ℚ := buildPassRate o.build.status o.summary

/-- The result of the suite. -/
def stage2 (runId modelId : String) (startedAt : Time) : Stage2Result :=
  mapBuildkiteResultToStage2 runId modelId [o.suite] o.build o.summary (some startedAt) o.now

theorem results_ne_nil : o.results ≠ [] := buildSuiteResults_ne_nil _ _ _

theorem fails_stage2 {runId modelId : String} {startedAt : Time} :
    (o.stage2 runId modelId startedAt).status.fails = !o.passed := by
  simp only [stage2, mapBuildkiteResultToStage2, passed]
  by_cases h : o.build.status = .passed <;> simp [Stage2Status.fails, h]

/-- No result of a build points to a log. -/
theorem logPath_of_mem_results {sr : SuiteResult} (h : sr ∈ o.results) : sr.logPath = none := by
  unfold results buildSuiteResults at h
  split at h
  · rw [List.mem_singleton.mp h]
  · obtain ⟨c, -, rfl⟩ := List.mem_map.mp h
    rfl

end SuiteOutcome

section Merge

variable {outcomes : List SuiteOutcome} {runId modelId : String} {startedAt : Time}

/-- **The merged result reports the suites one by one**, and is a success if every build passed. -/
theorem merge_outcomes (h : outcomes ≠ []) :
    ∃ r, mergeStage2Results (outcomes.map (·.stage2 runId modelId startedAt)) = .ok r ∧
      r.status = (if ∀ o ∈ outcomes, o.passed = true then .success else .failed) ∧
      r.scores = some (JsMap.assign [] (outcomes.map fun o => (o.suite, o.rate))) ∧
      r.suiteResults = some (outcomes.flatMap (·.results)) ∧ r.batchSummaryPath = none := by
  match outcomes, h with
  | [o], _ =>
    refine ⟨_, rfl, ?_⟩
    simp [SuiteOutcome.stage2, mapBuildkiteResultToStage2, SuiteOutcome.passed, SuiteOutcome.rate,
      SuiteOutcome.results, JsMap.assign, JsMap.set]
  | o :: o' :: rest, _ =>
    refine ⟨_, rfl, ?_⟩
    set outcomes := o :: o' :: rest
    have hfailed : (outcomes.map (·.stage2 runId modelId startedAt)).filter (·.status.fails) = [] ↔
        ∀ o ∈ outcomes, o.passed = true := by
      simp only [List.filter_eq_nil_iff, List.forall_mem_map, SuiteOutcome.fails_stage2,
        Bool.not_eq_true, Bool.not_eq_false']
    have hpart : (outcomes.map (·.stage2 runId modelId startedAt)).any (·.status = .partialRun) =
        false := by
      simp only [List.any_map, List.any_eq_false, Function.comp_apply, decide_eq_true_eq]
      intro o _
      simp only [SuiteOutcome.stage2, mapBuildkiteResultToStage2]
      split_ifs <;> decide
    refine ⟨?_, congrArg some ?_, congrArg some ?_, rfl⟩
    · rw [← if_congr hfailed rfl rfl]
      exact if_congr Iff.rfl (if_neg (Bool.eq_false_iff.mp hpart)) rfl
    · show (outcomes.map (·.stage2 runId modelId startedAt)).foldl _ [] = _
      rw [List.foldl_map, JsMap.assign, List.foldl_map]
      rfl
    · show (outcomes.map (·.stage2 runId modelId startedAt)).flatMap _ = _
      rw [List.flatMap_map]
      rfl

end Merge

end Benchmarker
