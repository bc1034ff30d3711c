import Benchmarker.CiEval.Rows
import Benchmarker.LocalBatch.Runner
import Benchmarker.Report.Builder

/-!
# Regenerated reports

`regenerateRecommendationHandler` rebuilds the latest report on a model from what the results store
holds of its run: the rows of its CI evals, or the logs of a local batch where there are none.

* `RegenStore`, `StoredReport`: the documents that the handler reads. `latestBySuite`.
* `regenerateRecommendation`: the handler.
-/

namespace Benchmarker

open Js

/-! ## The store -/

/-- `Stage1Metrics` of a report: a latency with its percentiles. -/
structure LatencyStats where
  p50 : ℚ
  p99 : ℚ
  mean : ℚ
  deriving DecidableEq

structure ReportMetrics where
  itl : LatencyStats
  ttft : LatencyStats
  throughputTps : ℚ
  deriving DecidableEq

def reportMetrics (m : Stage1Metrics) : ReportMetrics where
  itl := ⟨m.itlP50Ms, m.itlP99Ms, m.itlP50Ms⟩
  ttft := ⟨m.ttftMs, m.ttftMs, m.ttftMs⟩
  throughputTps := m.throughputTps

/-- A recommendation document, with what the handler reads of it besides the report. -/
structure StoredReport extends BuiltReport where
  stage1Metrics : Option ReportMetrics
  evaluatedAt : Time
  deriving DecidableEq

/-- The report on a run as it is stored. -/
def storedReport (run : PipelineRun) (passThreshold : ℚ) (evaluatedAt : Time) : StoredReport where
  toBuiltReport := buildRecommendationReport run passThreshold
  stage1Metrics := (run.benchmarkResult.bind (·.metrics)).map reportMetrics
  evaluatedAt := evaluatedAt

/-- The documents that the handler reads, each list with the newest document first. -/
structure RegenStore where
  ciEvals : List CIEvalResult := []
  recommendations : List StoredReport := []
  stage2 : List Stage2Doc := []
  reasoning : List Stage3Result := []

/-- The result that is read back from a Stage 2 document. -/
def Stage2Doc.read (d : Stage2Doc) : Stage2Result where
  runId := d.runId
  modelId := d.modelId
  status := d.status
  scores := d.scores
  suiteResults := some (d.suiteResults.map fun sr =>
    { sr with error := truthy sr.error, logPath := truthy sr.logPath })
  batchSummaryPath := truthy d.batchSummaryPath
  stdoutLogPath := truthy d.stdoutLogPath
  reason := truthy d.reason
  startedAt := d.startedAt
  completedAt := d.completedAt

namespace RegenStore

variable (store : RegenStore) (modelId : String)

def getLatestRecommendation : Option StoredReport :=
  store.recommendations.find? fun r => r.modelId = modelId

def getCIEvalResults (limit : ℕ) : List CIEvalResult :=
  (store.ciEvals.filter fun row => row.modelId = modelId).take limit

def getLatestStage2ForModel : Option Stage2Result :=
  (store.stage2.find? fun d => d.modelId = modelId).map (·.read)

def getLatestReasoningResult : Option Stage3Result :=
  store.reasoning.find? fun r => r.modelId = modelId && r.success

end RegenStore

/-! ## Stage 2 from the rows -/

/-- The suite of a terminal row. -/
def CIEvalResult.terminalSuite (row : CIEvalResult) : Option String :=
  if row.status = .running then none else truthy row.evalSuites.head?

/-- `latestBySuite`: the first row of each suite is the latest terminal one. -/
def latestBySuite (runCi : List CIEvalResult) : JsMap String CIEvalResult :=
  runCi.foldl (fun latest row =>
    match row.terminalSuite with
    | none => latest
    | some suite => latest.setNew suite row) []

/-- `buildResult`. -/
def CIEvalResult.buildResult (row : CIEvalResult) : BuildkiteBuildResult where
  buildUrl := row.buildkiteBuildUrl
  buildNumber := row.buildkiteBuildNumber
  status := if row.status = .passed then .passed else .failed
  artifacts := row.artifacts.map fun as => as.map fun a => ⟨a.1, a.2⟩

/-! ## Stage 2 from the logs -/

/-- What the handler reads from files: the logs that a batch summary names for its suites, and the
tally of a log; nothing of a file that cannot be read. -/
structure BatchFiles where
  summaryLogs : String → List (String × String)
  logTally : String → Option SpecTally

section Logs

variable (files : BatchFiles)

/-- `suiteLogPaths`. -/
def suiteLogPaths (persisted : Stage2Result) (suites : List SuiteResult) : JsMap String String :=
  if suites.any fun sr => sr.logPath.isSome then []
  else match persisted.batchSummaryPath with
    | none => []
    | some path =>
      JsMap.assign [] ((files.summaryLogs path).filter fun sl => sl.1 ≠ "" ∧ sl.2 ≠ "")

/-- A suite result with the score that its log gives. -/
def rescored (logs : JsMap String String) (sr : SuiteResult) : SuiteResult :=
  let logPath := sr.logPath <|> logs.get sr.suite
  let rate := (truthy (logPath.filter fun _ => sr.status ≠ "pass")).bind fun path =>
    (files.logTally path).bind parsePlaywrightSpecPassRate
  { sr with logPath := logPath, score := rate <|> sr.score }

/-- `No terminal CI eval builds found for run …`. -/
def noTerminalBuilds (runId : String) : String := "No terminal CI eval builds found for run " ++ runId

/-- The Stage 2 result of a local batch, with the scores that its logs give. -/
def rescoredStage2 (runId : String) (persistedStage2 : Option Stage2Result) :
    Except String Stage2Result :=
  match persistedStage2 with
  | none => .error (noTerminalBuilds runId)
  | some persisted =>
    match persisted.suiteResults with
    | none => .error (noTerminalBuilds runId)
    | some suites =>
      if persisted.runId ≠ runId then .error (noTerminalBuilds runId)
      else
        let logs := suiteLogPaths files persisted suites
        if (suites.any fun sr => sr.logPath.isSome) = false ∧ logs = [] then
          .error (noTerminalBuilds runId)
        else
          let suiteResults := suites.map (rescored files logs)
          .ok { persisted with
            scores := some (JsMap.assign [] (suiteResults.map fun sr => (sr.suite, sr.score.getD 0)))
            suiteResults := some suiteResults }

end Logs

/-! ## The handler -/

section Handler

variable (files : BatchFiles) (store : RegenStore) (passThreshold : ℚ) (modelId : String) (now : Time)

/-- `runCi`: the rows of the run among the newest rows of the model. -/
def RegenStore.runCi (prior : StoredReport) : List CIEvalResult :=
  (store.getCIEvalResults modelId 50).filter fun row => row.runId = prior.runId

/-- `perSuiteStage2`. -/
def perSuiteRows (prior : StoredReport) : Except String (List Stage2Result) :=
  let latest := latestBySuite (store.runCi modelId prior)
  if latest = [] then do
    let result ← rescoredStage2 files prior.runId (store.getLatestStage2ForModel modelId)
    return [result]
  else .ok (latest.map fun sr =>
    mapBuildkiteResultToStage2 prior.runId modelId [sr.1] sr.2.buildResult none
      (some prior.evaluatedAt) now)

/-- The Stage 1 result that stands for the one of the run. -/
def priorStage1 (prior : StoredReport) : Stage1Result :=
  let stage1Base : Stage1Result := {
    runId := prior.runId
    modelId := modelId
    -- `''` in the source
    queueEntryId := 0
    status := .failed
    startedAt := prior.evaluatedAt
    completedAt := prior.evaluatedAt }
  match prior.stage1Metrics.filter fun _ => prior.stage1Passed with
  | some m => { stage1Base with
      status := .success
      metrics := some ⟨m.itl.p50, m.itl.p99, m.ttft.p50, m.throughputTps, 0⟩ }
  | none => stage1Base

/-- The minimal run that the report is rebuilt from. -/
def regenRun (prior : StoredReport) (stage2Result : Stage2Result) : PipelineRun where
  runId := prior.runId
  modelId := modelId
  queueEntryId := 0
  startedAt := prior.evaluatedAt
  benchmarkResult := some (priorStage1 modelId prior)
  stage2Result := some stage2Result
  stage3Result := store.getLatestReasoningResult modelId

/-- `regenerateRecommendationHandler`: the report that it stores, or the message with which it
exits. -/
def regenerateRecommendation : Except String StoredReport :=
  match store.getLatestRecommendation modelId with
  | none => .error ("No prior recommendation for " ++ modelId ++ " — nothing to rebuild from")
  | some prior => do
    let perSuiteStage2 ← perSuiteRows files store modelId now prior
    match mergeStage2Results perSuiteStage2 with
    | .error err => .error err.message
    | .ok stage2Result =>
      return storedReport (regenRun store modelId prior stage2Result) passThreshold now

end Handler

end Benchmarker
