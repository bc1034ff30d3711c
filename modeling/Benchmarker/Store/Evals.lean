import Benchmarker.Stage2.EvalTasks
import Benchmarker.Store.Results

/-!
# The store of evaluation reports

`KibanaEvalStore` on its three tables: the reports, their task results, and the links from benchmark results to reports.
`metadata` and `evalConfig` are given as their JSON texts.

* `KibanaEvalReport`; `TaskResultRow`, `BenchmarkEvalLink`, `EvalTables`.
* `saveReport`, `linkToBenchmark`, `delete`; `Call`, `EvalTables.call`: what a call leaves in the tables.
* `hydrateReport`, `getById`, `Linked`: what is read.
-/

namespace Benchmarker.Store.KibanaEvalStore

open Sql
open Stage2 (EvalSeverity EvalOutcome)

/-! ## Reports -/

/-- `'connector_health' | 'chat_completion' | 'tool_calling' | 'streaming' | 'error_handling'` -/
inductive KibanaEvalTaskCategory
  | connectorHealth | chatCompletion | toolCalling | streaming | errorHandling
  deriving DecidableEq

structure KibanaEvalTaskDefinition where
  id : String
  name : String
  description : String
  category : KibanaEvalTaskCategory
  severity : EvalSeverity
  timeoutMs : JsNumber
  retryAttempts : JsNumber
  deriving DecidableEq

structure KibanaEvalTaskResult where
  task : KibanaEvalTaskDefinition
  outcome : EvalOutcome
  durationMs : JsNumber
  message : String
  error : Option String
  score : JsNumber
  weightedScore : JsNumber
  attempts : JsNumber
  metadata : String
  deriving DecidableEq

structure KibanaEvalScoring where
  totalScore : JsNumber
  maxScore : JsNumber
  totalWeightedScore : JsNumber
  maxWeightedScore : JsNumber
  percentageScore : JsNumber
  passedCount : JsNumber
  failedCount : JsNumber
  skippedCount : JsNumber
  erroredCount : JsNumber
  totalCount : JsNumber
  deriving DecidableEq

structure KibanaEvalReport where
  modelId : String
  connectorId : String
  timestamp : String
  classification : KibanaEvalClassification
  summary : String
  scoring : KibanaEvalScoring
  taskResults : List KibanaEvalTaskResult
  failedTasks : List KibanaEvalTaskResult
  totalDurationMs : JsNumber
  evalConfig : String
  deriving DecidableEq

/-- What is unique: the model, the connector and the time. -/
abbrev ReportKey : Type := String × String × String

def KibanaEvalReport.key (r : KibanaEvalReport) : ReportKey := (r.modelId, r.connectorId, r.timestamp)

/-! ## Tables -/

/-- A row of `kibana_eval_task_results`, with the members of the enumerations for their texts. -/
structure TaskResultRow where
  evalId : ℕ
  taskId : String
  taskName : String
  taskCategory : KibanaEvalTaskCategory
  taskSeverity : EvalSeverity
  outcome : EvalOutcome
  durationMs : Number
  message : String
  error : Option String
  score : Number
  weightedScore : Number
  attempts : Number
  metadataJson : String
  deriving DecidableEq

/-- A row of `benchmark_eval_links`. -/
structure BenchmarkEvalLink where
  benchmarkResultId : ℕ
  kibanaEvalId : ℕ
  modelId : String
  connectorId : String
  deriving DecidableEq

/-- The tables. The rows of tasks and links stand in the order of their ids, and only the ids of reports are read. -/
structure EvalTables where
  reports : List EvalReportRow := []
  tasks : List TaskResultRow := []
  links : List BenchmarkEvalLink := []
  reportSeq : ℕ := 0
  deriving DecidableEq

inductive EvalDbError
  | notNull (column : String)
  | uniqueReport
  | foreignKey
  | fault (f : Fault)
  deriving DecidableEq

def rowKey (row : EvalReportRow) : ReportKey := (row.modelId, row.connectorId, row.timestamp)

/-! ## Writing -/

def notNull (column : String) : JsNumber → Except EvalDbError Number
  | none => .error (.notNull column)
  | some n => .ok n

def reportRow (id : ℕ) (createdAt : String) (r : KibanaEvalReport) : Except EvalDbError EvalReportRow := do
  let percentageScore ← notNull "percentage_score" r.scoring.percentageScore
  let totalScore ← notNull "total_score" r.scoring.totalScore
  let maxScore ← notNull "max_score" r.scoring.maxScore
  let totalWeightedScore ← notNull "total_weighted_score" r.scoring.totalWeightedScore
  let maxWeightedScore ← notNull "max_weighted_score" r.scoring.maxWeightedScore
  let passedCount ← notNull "passed_count" r.scoring.passedCount
  let failedCount ← notNull "failed_count" r.scoring.failedCount
  let skippedCount ← notNull "skipped_count" r.scoring.skippedCount
  let erroredCount ← notNull "errored_count" r.scoring.erroredCount
  let totalCount ← notNull "total_count" r.scoring.totalCount
  let totalDurationMs ← notNull "total_duration_ms" r.totalDurationMs
  return {
    id, percentageScore, totalScore, maxScore, totalWeightedScore, maxWeightedScore, passedCount, failedCount, skippedCount
    erroredCount, totalCount, totalDurationMs, createdAt
    modelId := r.modelId
    connectorId := r.connectorId
    timestamp := r.timestamp
    classification := r.classification.text
    summary := r.summary
    evalConfigJson := r.evalConfig }

def taskRow (evalId : ℕ) (taskResult : KibanaEvalTaskResult) : Except EvalDbError TaskResultRow := do
  let durationMs ← notNull "duration_ms" taskResult.durationMs
  let score ← notNull "score" taskResult.score
  let weightedScore ← notNull "weighted_score" taskResult.weightedScore
  let attempts ← notNull "attempts" taskResult.attempts
  return {
    evalId, durationMs, score, weightedScore, attempts
    taskId := taskResult.task.id
    taskName := taskResult.task.name
    taskCategory := taskResult.task.category
    taskSeverity := taskResult.task.severity
    outcome := taskResult.outcome
    message := taskResult.message
    error := taskResult.error
    metadataJson := taskResult.metadata }

theorem lawfulBEq_reportKey : LawfulBEq ReportKey := inferInstance

attribute [local instance] lawfulBEq_reportKey in
/-- `insertReport.run(…)`; the answer is `lastInsertRowid`. -/
def insertReport (now : String) (r : KibanaEvalReport) (s : EvalTables) : Except EvalDbError (ℕ × EvalTables) := do
  let row ← reportRow (s.reportSeq + 1) now r
  if rowKey row ∈ s.reports.map rowKey then throw .uniqueReport
  return (row.id, { s with reports := s.reports ++ [row], reportSeq := row.id })

/-- `insertTask.run(…)` -/
def insertTask (evalId : ℕ) (taskResult : KibanaEvalTaskResult) (s : EvalTables) :
    Except EvalDbError (Unit × EvalTables) := do
  let row ← taskRow evalId taskResult
  if evalId ∉ s.reports.map EvalReportRow.id then throw .foreignKey
  return ((), { s with tasks := s.tasks ++ [row] })

/-- The statement with this number in the transaction of `saveReport`. -/
def run (moment : Moment) (k : ℕ) {α : Type} (write : EvalTables → Except EvalDbError (α × EvalTables)) :
    Db EvalDbError EvalTables α :=
  statement ((moment.fault k).map .fault) write

/-- The loop over the task results, the first with the statement `k`. -/
def insertTasks (moment : Moment) (evalId : ℕ) : ℕ → List KibanaEvalTaskResult → Db EvalDbError EvalTables Unit
  | _, [] => return
  | k, taskResult :: rest => do
    run moment k (insertTask evalId taskResult)
    insertTasks moment evalId (k + 1) rest

/-- `saveReport(report)`: the id of the stored report. -/
def saveReport (moment : Moment) (report : KibanaEvalReport) : Db EvalDbError EvalTables ℕ :=
  transaction do
    let evalId ← run moment 0 (insertReport moment.now report)
    insertTasks moment evalId 1 report.taskResults
    return evalId

/-- `INSERT OR IGNORE`: a pair that is linked already is left alone, but a report that does not exist is an error. -/
def insertLink (link : BenchmarkEvalLink) (s : EvalTables) : Except EvalDbError (Unit × EvalTables) :=
  if s.links.any fun l => l.benchmarkResultId = link.benchmarkResultId && l.kibanaEvalId = link.kibanaEvalId then
    .ok ((), s)
  else if link.kibanaEvalId ∉ s.reports.map EvalReportRow.id then .error .foreignKey
  else .ok ((), { s with links := s.links ++ [link] })

def linkToBenchmark (moment : Moment) (evalId benchmarkResultId : ℕ) (modelId connectorId : String) :
    Db EvalDbError EvalTables Unit :=
  run moment 0 (insertLink { benchmarkResultId, kibanaEvalId := evalId, modelId, connectorId })

/-- `DELETE`, which cascades to the task results and the links. -/
def deleteReport (id : ℕ) (s : EvalTables) : Except EvalDbError (Bool × EvalTables) :=
  .ok (s.reports.any fun row => row.id = id,
    { s with
      reports := s.reports.filter fun row => row.id ≠ id
      tasks := s.tasks.filter fun row => row.evalId ≠ id
      links := s.links.filter fun link => link.kibanaEvalId ≠ id })

/-- `delete(id)`: whether a report was deleted. -/
def delete (moment : Moment) (id : ℕ) : Db EvalDbError EvalTables Bool := run moment 0 (deleteReport id)

/-! ## Reading -/

/-- What is not stored of a task is filled in. -/
def TaskResultRow.hydrate (tr : TaskResultRow) : KibanaEvalTaskResult where
  task := {
    id := tr.taskId
    name := tr.taskName
    description := ""
    category := tr.taskCategory
    severity := tr.taskSeverity
    timeoutMs := some (.fin 0)
    retryAttempts := some (.fin 0) }
  outcome := tr.outcome
  durationMs := some tr.durationMs
  message := tr.message
  error := tr.error
  score := some tr.score
  weightedScore := some tr.weightedScore
  attempts := some tr.attempts
  metadata := tr.metadataJson

/-- `r.outcome === 'FAIL' || r.outcome === 'ERROR'` -/
def KibanaEvalTaskResult.hasFailed (r : KibanaEvalTaskResult) : Bool := r.outcome = .fail || r.outcome = .error

/-- The member with this text. -/
def classificationOf (text : String) : Option KibanaEvalClassification :=
  [.pass, .partly, .fail].find? fun c => c.text = text

/-- `hydrateReport(row)`; `none` for a text that is no classification. -/
def hydrateReport (s : EvalTables) (row : EvalReportRow) : Option KibanaEvalReport :=
  (classificationOf row.classification).map fun classification =>
    let taskResults := (s.tasks.filter fun tr => tr.evalId = row.id).map TaskResultRow.hydrate
    { modelId := row.modelId
      connectorId := row.connectorId
      timestamp := row.timestamp
      classification := classification
      summary := row.summary
      scoring := {
        totalScore := some row.totalScore
        maxScore := some row.maxScore
        totalWeightedScore := some row.totalWeightedScore
        maxWeightedScore := some row.maxWeightedScore
        percentageScore := some row.percentageScore
        passedCount := some row.passedCount
        failedCount := some row.failedCount
        skippedCount := some row.skippedCount
        erroredCount := some row.erroredCount
        totalCount := some row.totalCount }
      taskResults := taskResults
      failedTasks := taskResults.filter KibanaEvalTaskResult.hasFailed
      totalDurationMs := some row.totalDurationMs
      evalConfig := row.evalConfigJson }

/-- `getById(id)` -/
def getById (s : EvalTables) (id : ℕ) : Option KibanaEvalReport :=
  (s.reports.find? fun row => row.id = id).bind (hydrateReport s)

/-- The join of the reports with the links of a benchmark result. -/
def joined (s : EvalTables) (benchmarkResultId : ℕ) : List EvalReportRow :=
  s.links.flatMap fun l =>
    if l.benchmarkResultId = benchmarkResultId then s.reports.filter fun r => r.id = l.kibanaEvalId else []

/-- `getByBenchmarkResultId(benchmarkResultId)` may return `out`: reports of one timestamp stand in any order. -/
def Linked (s : EvalTables) (benchmarkResultId : ℕ) (out : List KibanaEvalReport) : Prop :=
  ∃ rows : List EvalReportRow, rows.Perm (joined s benchmarkResultId) ∧
    (rows.Pairwise fun a b => b.timestamp ≤ a.timestamp) ∧ rows.map (hydrateReport s) = out.map some

/-! ## Calls -/

inductive Call
  | saveReport (moment : Moment) (report : KibanaEvalReport)
  | linkToBenchmark (moment : Moment) (evalId benchmarkResultId : ℕ) (modelId connectorId : String)
  | delete (moment : Moment) (id : ℕ)

/-- The tables that a call leaves, whether it throws or not. -/
def left {α : Type} : EStateM.Result EvalDbError EvalTables α → EvalTables
  | .ok _ s => s
  | .error _ s => s

def EvalTables.call (s : EvalTables) : Call → EvalTables
  | .saveReport moment report => left (saveReport moment report s)
  | .linkToBenchmark moment evalId benchmarkResultId modelId connectorId =>
    left (linkToBenchmark moment evalId benchmarkResultId modelId connectorId s)
  | .delete moment id => left (delete moment id s)

end Benchmarker.Store.KibanaEvalStore
