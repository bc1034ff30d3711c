import Benchmarker.Js.Regex
import Benchmarker.Scheduler.Ops

/-!
# The suites of a CI eval run

`pollWeeklyMatrix`: one on-demand Buildkite build for each suite that is not skipped, re-triggered
after an infrastructure outcome and once after a failure, and the results merged. The skip set of a
resumed run comes from the rows that an earlier run of the same entry recorded.

* `getCompletedEvalSuites`, `resolveCompletedEvalSuites`, `resumeSkipSet`.
* `runSuiteBuild`, `resolveEvalArtifactSummary`, `suiteStage2`, `pollWeeklyMatrix`.
-/

namespace Benchmarker

open Js Async Async.Prog

/-! ## The skip set -/

/-- The suites of a row that are configured, added to a set. -/
def addSuites (evalSuites : List String) (suites completed : List String) : List String :=
  suites.foldl (fun set s => if s ∈ evalSuites then setAdd set s else set) completed

def getCompletedEvalSuites (ciEvalResults : List CIEvalResult) (evalSuites : List String) :
    List String :=
  ciEvalResults.foldl (fun terminal result =>
    if result.status = .running then terminal
    else if isRetriableInfraState result.buildkiteState then terminal
    else addSuites evalSuites result.evalSuites terminal) []

/-- The inner loop of `resolveCompletedEvalSuites`, over the suites of one `running` row. -/
def resolveRunningRow (evalSuites : List String) (result : CIEvalResult) :
    List String → List String → SchedJs (List String)
  | [], completed => return completed
  | suiteId :: suites, completed => do
    if suiteId ∉ evalSuites ∨ suiteId ∈ completed then
      resolveRunningRow evalSuites result suites completed
    else
      let buildState ← extCall (.getBuildState result.pipelineSlug result.buildkiteBuildNumber)
      resolveRunningRow evalSuites result suites
        (if buildState = some "passed" then setAdd completed suiteId else completed)

/-- The outer loop of `resolveCompletedEvalSuites`. -/
def resolveRunningRows (evalSuites : List String) :
    List CIEvalResult → List String → SchedJs (List String)
  | [], completed => return completed
  | result :: results, completed => do
    if result.status ≠ .running then resolveRunningRows evalSuites results completed
    else
      let completed ← resolveRunningRow evalSuites result result.evalSuites completed
      resolveRunningRows evalSuites results completed

def resolveCompletedEvalSuites (ciEvalResults : List CIEvalResult) (evalSuites : List String) :
    SchedJs (List String) :=
  resolveRunningRows evalSuites ciEvalResults (getCompletedEvalSuites ciEvalResults evalSuites)

/-- The skip set that `processEntry` hands to `runCIEvals`: only a resumed run has one, and only
rows of its own entry count. -/
def resumeSkipSet (settings : BuildkiteSettings) (modelId : String) (entryId : ℕ)
    (resume : Bool) : SchedJs (Option (List String)) := do
  if !resume then return none
  else
    let priorResults ← extCall (.getCIEvalResults modelId 30)
    let entryResults := priorResults.filter (·.queueEntryId = some entryId)
    let skip ← resolveCompletedEvalSuites entryResults (settings.defaultEvalSuites.getD [])
    return some skip

/-! ## One suite -/

/-- The stored status of a build. -/
def BuildStatus.toCIEval : BuildStatus → CIEvalStatus
  | .passed => .passed
  | .failed => .failed
  | .running => .running

section Suite

variable (settings : BuildkiteSettings) (run : PipelineRun) (session : EvalSession)

def persistOnDemandResult (result : BuildkiteBuildResult) (retryCount : ℕ)
    (suiteIds : List String) : SchedJs Unit := do
  let completedAt ← clock
  extCall (.saveCIEvalResult {
    runId := run.runId
    queueEntryId := some run.queueEntryId
    modelId := run.modelId
    buildkiteBuildUrl := result.buildUrl
    buildkiteBuildNumber := result.buildNumber
    pipelineSlug := settings.weeklyPipelineSlug.getD "kibana-evals-weekly-llm-evals"
    status := result.status.toCIEval
    buildkiteState := result.terminalState
    evalSuites := suiteIds
    artifacts := result.artifacts.map fun as => JsMap.assign [] (as.map fun a => (a.filename, a.url))
    startedAt := session.startedAt
    completedAt := completedAt
    retryCount := retryCount
    connectorJson := session.connectorJson })

/-- What `runSuiteBuild` returns when the trigger is rejected. -/
def rejectedBuild : BuildkiteBuildResult where
  buildUrl := ""
  buildNumber := 0
  status := .failed
  terminalState := some "failed"

/-- The request for a build of one suite. -/
def triggerOptions (suite : String) : TriggerOnDemandOptions where
  connectorJson := session.connectorJson
  connectorId := session.connectorId
  evalSuiteIds := [suite]
  modelId := run.modelId

/-- One pass of the loop of `runSuiteBuild` up to the finished build; `none` when the trigger was
rejected. -/
def triggerAndWait (suite : String) (attemptCount : ℕ) : SchedJs (Option BuildkiteBuildResult) := do
  match ← extCall (.createOnDemandBuildOrAdopt (triggerOptions run session suite)) with
  | .error _ => return none
  | .ok triggered =>
    persistOnDemandResult settings run session
      ⟨triggered.buildUrl, triggered.buildNumber, .running, none, none⟩ attemptCount [suite]
    let buildResult ← extCall
      (.waitForBuild triggered.pipelineSlug triggered.buildNumber triggered.buildUrl)
    persistOnDemandResult settings run session buildResult (attemptCount + 1) [suite]
    return some buildResult

/-- The pause before a skipped build is triggered again. -/
def skipBackoff : SchedJs Unit :=
  let ms := settings.skipRetryBackoffMs.getD 30000
  if ms > 0 then extFire (.sleep ms) else pure ()

/-- The loop of `runSuiteBuild`, with the number of infrastructure retries left. `evalRetry` is the
rest of the loop after the one retry of a failed eval, while that retry is still there. -/
def suiteLoop (suite : String) (evalRetry : Option (ℕ → ℕ → SchedJs BuildkiteBuildResult)) :
    ℕ → ℕ → SchedJs BuildkiteBuildResult
  | 0, attemptCount => do
    match ← triggerAndWait settings run session suite attemptCount with
    | none => return rejectedBuild
    | some buildResult =>
      if buildResult.status = .failed ∧ ¬isRetriableInfraState buildResult.terminalState then
        match evalRetry with
        | some again => again 0 (attemptCount + 1)
        | none => return buildResult
      else return buildResult
  | infraLeft + 1, attemptCount => do
    match ← triggerAndWait settings run session suite attemptCount with
    | none => return rejectedBuild
    | some buildResult =>
      if isRetriableInfraState buildResult.terminalState then
        skipBackoff settings
        suiteLoop suite evalRetry infraLeft (attemptCount + 1)
      else if buildResult.status = .failed then
        match evalRetry with
        | some again => again (infraLeft + 1) (attemptCount + 1)
        | none => return buildResult
      else return buildResult

def runSuiteBuild (suite : String) : SchedJs BuildkiteBuildResult :=
  suiteLoop settings run session suite
    (if settings.retryOnFailure ≠ some false then some (suiteLoop settings run session suite none)
      else none)
    (settings.maxSkipRetries.getD 5) 0

/-- The artifacts that may hold an eval summary. -/
def isSummaryArtifact (a : BuildkiteArtifact) : Bool :=
  endsWith a.filename ".json" &&
  (includes a.filename "eval" || includes a.filename "result" || includes a.filename "summary")

/-- The loop of `resolveEvalArtifactSummary`. -/
def firstSummary : List BuildkiteArtifact → SchedJs (Option EvalArtifactSummary)
  | [] => return none
  | artifact :: artifacts => do
    let body ← extCall (.downloadArtifact artifact.url)
    match parseEvalArtifactJson body with
    | some summary => return some summary
    | none => firstSummary artifacts

def resolveEvalArtifactSummary (buildResult : BuildkiteBuildResult) :
    SchedJs (Option EvalArtifactSummary) :=
  firstSummary ((buildResult.artifacts.getD []).filter isSummaryArtifact)

/-- The loop body of `pollWeeklyMatrix`: the build of one suite and its result. -/
def suiteStage2 (suite : String) : SchedJs Stage2Result := do
  let buildResult ← runSuiteBuild settings run session suite
  let summary ← resolveEvalArtifactSummary buildResult
  let now ← clock
  return mapBuildkiteResultToStage2 run.runId run.modelId [suite] buildResult summary
    (some session.startedAt) now

/-! ## All suites -/

/-- The loop of `pollWeeklyMatrix`. -/
def perSuiteStage2 : List String → SchedJs (List Stage2Result)
  | [] => return []
  | suite :: suites => do
    let result ← suiteStage2 settings run session suite
    let results ← perSuiteStage2 suites
    return result :: results

/-- The variables of `runCIEvals` for one run. -/
def ciMatrix (skipSuiteIds : Option (List String)) : MatrixRun where
  evalSuites := settings.defaultEvalSuites.getD ["security_ai_assistant"]
  skipSuiteIds := skipSuiteIds
  session := session

/-- The suites that are not skipped. -/
def MatrixRun.suitesToRun (matrix : MatrixRun) : List String :=
  matrix.evalSuites.filter fun id => id ∉ matrix.skipSuiteIds.getD []

def pollWeeklyMatrix (matrix : MatrixRun) : SchedJs Stage2Result := do
  if matrix.suitesToRun = [] then
    let now ← clock
    return buildResumeStage2Result run.runId run.modelId matrix.evalSuites matrix.session.startedAt now
  else
    let results ← perSuiteStage2 settings run matrix.session matrix.suitesToRun
    if results = [] then
      let now ← clock
      return {
        status := .failed
        modelId := run.modelId
        runId := run.runId
        suiteResults := some []
        reason := some "No suites ran"
        startedAt := matrix.session.startedAt
        completedAt := now }
    else
      match mergeStage2Results results with
      | .ok result => return result
      | .error err => throw err

end Suite

end Benchmarker
