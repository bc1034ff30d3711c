import Mathlib.Data.List.Sort
import Benchmarker.Js.Regex
import Benchmarker.Js.StringArray
import Benchmarker.Sql.Transaction
import Benchmarker.Store.Query

/-!
# The results store

`ResultsStore` on its three tables: `save`, `importResults`, `exportAll`, and the other writes. A statement can also
fail for a reason of the database's own (`Fault`).

* `BenchmarkResult`; `MetricRow`, `ToolCallRow`, `Tables`.
* `save`, `importResults`, `updatePassedStatus`, `delete`; `hydrateResult`, `Exports`.
* `Tables.Valid`: the constraints of the schema. `StoredResults`: tables that meet them.
-/

namespace Benchmarker.Store

open Sql

/-! ## Results -/

/-- A number of a result: `none` is `NaN`, which is bound as `NULL`. -/
abbrev JsNumber : Type := Option Number

structure BenchmarkMetrics where
  itlMs : JsNumber
  ttftMs : JsNumber
  throughputTokensPerSec : JsNumber
  p99LatencyMs : JsNumber
  concurrencyLevel : JsNumber
  deriving DecidableEq

structure ToolCallResult where
  supportsParallelCalls : Bool
  maxConcurrentCalls : JsNumber
  avgToolCallLatencyMs : JsNumber
  successRate : JsNumber
  totalTests : JsNumber
  deriving DecidableEq

structure HardwareConfig where
  gpuType : String
  gpuCount : JsNumber
  ramGb : JsNumber
  cpuCores : JsNumber
  diskGb : JsNumber
  machineType : String
  hardwareProfileId : Option String
  deriving DecidableEq

/-- A result, with the fields that are stored. -/
structure BenchmarkResult where
  modelId : String
  timestamp : String
  vllmVersion : String
  dockerCommand : String
  hardwareConfig : HardwareConfig
  benchmarkMetrics : List BenchmarkMetrics
  toolCallResults : Option ToolCallResult
  passed : Bool
  rejectionReasons : List String
  tensorParallelSize : JsNumber
  toolCallParser : String
  rawOutput : String
  deriving DecidableEq

/-- What is unique: the model, the version and the time. -/
abbrev Key : Type := String × String × String

def BenchmarkResult.key (res : BenchmarkResult) : Key := (res.modelId, res.vllmVersion, res.timestamp)

def ResultRow.key (row : ResultRow) : Key := (row.modelId, row.vllmVersion, row.timestamp)

/-! ## Tables -/

/-- A row of `benchmark_metrics`. -/
structure MetricRow where
  id : ℕ
  resultId : ℕ
  itlMs : Number
  ttftMs : Number
  throughputTokensPerSec : Number
  p99LatencyMs : Number
  concurrencyLevel : Number
  deriving DecidableEq

/-- A row of `tool_call_results`. -/
structure ToolCallRow where
  id : ℕ
  resultId : ℕ
  supportsParallelCalls : Bool
  maxConcurrentCalls : Number
  avgToolCallLatencyMs : Number
  successRate : Number
  totalTests : Number
  deriving DecidableEq

/-- The tables, each with the last id that it has given. -/
structure Tables where
  results : List ResultRow
  metrics : List MetricRow
  toolCalls : List ToolCallRow
  resultSeq : ℕ
  metricSeq : ℕ
  toolCallSeq : ℕ
  deriving DecidableEq

def Tables.keys (s : Tables) : List Key := s.results.map ResultRow.key

/-- The constraints of the schema, and what the store writes as rejection reasons. -/
structure Tables.Valid (s : Tables) : Prop where
  results : Numbered ResultRow.id s.results s.resultSeq
  metrics : Numbered MetricRow.id s.metrics s.metricSeq
  toolCalls : Numbered ToolCallRow.id s.toolCalls s.toolCallSeq
  keys : s.keys.Nodup
  metricParents : ∀ m ∈ s.metrics, m.resultId ∈ s.results.map ResultRow.id
  toolCallParents : ∀ t ∈ s.toolCalls, t.resultId ∈ s.results.map ResultRow.id
  toolCallOnce : (s.toolCalls.map ToolCallRow.resultId).Nodup
  reasons : ∀ row ∈ s.results, ∃ reasons, row.rejectionReasons = Js.stringifyStrings reasons

/-- What a store contains. -/
structure StoredResults extends Tables where
  valid : toTables.Valid

def Tables.empty : Tables := ⟨[], [], [], 0, 0, 0⟩

theorem valid_empty : Tables.empty.Valid where
  results := numbered_nil
  metrics := numbered_nil
  toolCalls := numbered_nil
  keys := List.nodup_nil
  metricParents := List.forall_mem_nil _
  toolCallParents := List.forall_mem_nil _
  toolCallOnce := List.nodup_nil
  reasons := List.forall_mem_nil _

/-! ## Errors -/

/-- The columns of numbers, which are `NOT NULL`. -/
inductive Column
  | gpuCount | ramGb | cpuCores | diskGb | tensorParallelSize
  | itlMs | ttftMs | throughputTokensPerSec | p99LatencyMs | concurrencyLevel
  | maxConcurrentCalls | avgToolCallLatencyMs | successRate | totalTests
  deriving DecidableEq

def Column.text : Column → String
  | gpuCount => "benchmark_results.gpu_count"
  | ramGb => "benchmark_results.ram_gb"
  | cpuCores => "benchmark_results.cpu_cores"
  | diskGb => "benchmark_results.disk_gb"
  | tensorParallelSize => "benchmark_results.tensor_parallel_size"
  | itlMs => "benchmark_metrics.itl_ms"
  | ttftMs => "benchmark_metrics.ttft_ms"
  | throughputTokensPerSec => "benchmark_metrics.throughput_tokens_per_sec"
  | p99LatencyMs => "benchmark_metrics.p99_latency_ms"
  | concurrencyLevel => "benchmark_metrics.concurrency_level"
  | maxConcurrentCalls => "tool_call_results.max_concurrent_calls"
  | avgToolCallLatencyMs => "tool_call_results.avg_tool_call_latency_ms"
  | successRate => "tool_call_results.success_rate"
  | totalTests => "tool_call_results.total_tests"

/-- Why the database fails, whatever the statement. -/
inductive Fault
  | full | ioError | locked | noMemory
  deriving DecidableEq

inductive DbError
  | notNull (column : Column)
  | uniqueKey
  | uniqueResultId
  | foreignKey
  | fault (f : Fault)
  deriving DecidableEq

def DbError.message : DbError → String
  | notNull column => "NOT NULL constraint failed: " ++ column.text
  | uniqueKey => "UNIQUE constraint failed: benchmark_results.model_id, benchmark_results.vllm_version, " ++
      "benchmark_results.timestamp"
  | uniqueResultId => "UNIQUE constraint failed: tool_call_results.result_id"
  | foreignKey => "FOREIGN KEY constraint failed"
  | fault .full => "database or disk is full"
  | fault .ioError => "disk I/O error"
  | fault .locked => "database is locked"
  | fault .noMemory => "out of memory"

/-- `err.message.includes('UNIQUE constraint failed')` -/
def DbError.isDuplicate (e : DbError) : Bool := Js.includes e.message "UNIQUE constraint failed"

/-! ## Saving -/

/-- What a call of `save` meets: `datetime('now')`, and at which of its statements the database fails. -/
structure Moment where
  now : String
  fault : ℕ → Option Fault

def notNull (column : Column) : JsNumber → Except DbError Number
  | none => .error (.notNull column)
  | some n => .ok n

def resultRow (id : ℕ) (createdAt : String) (res : BenchmarkResult) : Except DbError ResultRow := do
  let gpuCount ← notNull .gpuCount res.hardwareConfig.gpuCount
  let ramGb ← notNull .ramGb res.hardwareConfig.ramGb
  let cpuCores ← notNull .cpuCores res.hardwareConfig.cpuCores
  let diskGb ← notNull .diskGb res.hardwareConfig.diskGb
  let tensorParallelSize ← notNull .tensorParallelSize res.tensorParallelSize
  return {
    id, gpuCount, ramGb, cpuCores, diskGb, tensorParallelSize, createdAt
    modelId := res.modelId
    timestamp := res.timestamp
    vllmVersion := res.vllmVersion
    dockerCommand := res.dockerCommand
    gpuType := res.hardwareConfig.gpuType
    machineType := res.hardwareConfig.machineType
    hardwareProfileId := res.hardwareConfig.hardwareProfileId
    passed := res.passed
    rejectionReasons := Js.stringifyStrings res.rejectionReasons
    toolCallParser := res.toolCallParser
    rawOutput := res.rawOutput }

def metricRow (id resultId : ℕ) (metric : BenchmarkMetrics) : Except DbError MetricRow := do
  let itlMs ← notNull .itlMs metric.itlMs
  let ttftMs ← notNull .ttftMs metric.ttftMs
  let throughputTokensPerSec ← notNull .throughputTokensPerSec metric.throughputTokensPerSec
  let p99LatencyMs ← notNull .p99LatencyMs metric.p99LatencyMs
  let concurrencyLevel ← notNull .concurrencyLevel metric.concurrencyLevel
  return { id, resultId, itlMs, ttftMs, throughputTokensPerSec, p99LatencyMs, concurrencyLevel }

def toolCallRow (id resultId : ℕ) (calls : ToolCallResult) : Except DbError ToolCallRow := do
  let maxConcurrentCalls ← notNull .maxConcurrentCalls calls.maxConcurrentCalls
  let avgToolCallLatencyMs ← notNull .avgToolCallLatencyMs calls.avgToolCallLatencyMs
  let successRate ← notNull .successRate calls.successRate
  let totalTests ← notNull .totalTests calls.totalTests
  return { id, resultId, maxConcurrentCalls, avgToolCallLatencyMs, successRate, totalTests
           supportsParallelCalls := calls.supportsParallelCalls }

/-- `INSERT INTO benchmark_results`; the answer is `lastInsertRowid`. -/
def addResult (createdAt : String) (res : BenchmarkResult) (s : Tables) : Except DbError (ℕ × Tables) := do
  let row ← resultRow (s.resultSeq + 1) createdAt res
  if row.key ∈ s.keys then throw .uniqueKey
  return (row.id, { s with results := s.results ++ [row], resultSeq := row.id })

/-- `INSERT INTO benchmark_metrics` -/
def addMetric (resultId : ℕ) (metric : BenchmarkMetrics) (s : Tables) : Except DbError (Unit × Tables) := do
  let row ← metricRow (s.metricSeq + 1) resultId metric
  if resultId ∉ s.results.map ResultRow.id then throw .foreignKey
  return ((), { s with metrics := s.metrics ++ [row], metricSeq := row.id })

/-- `INSERT INTO tool_call_results` -/
def addToolCall (resultId : ℕ) (calls : ToolCallResult) (s : Tables) : Except DbError (Unit × Tables) := do
  let row ← toolCallRow (s.toolCallSeq + 1) resultId calls
  if resultId ∈ s.toolCalls.map ToolCallRow.resultId then throw .uniqueResultId
  if resultId ∉ s.results.map ResultRow.id then throw .foreignKey
  return ((), { s with toolCalls := s.toolCalls ++ [row], toolCallSeq := row.id })

/-- The statement with this number in the transaction of `save`. -/
def Moment.run (moment : Moment) (k : ℕ) {α : Type} (write : Tables → Except DbError (α × Tables)) :
    Db DbError Tables α :=
  statement ((moment.fault k).map .fault) write

/-- The metrics in turn, the first with the statement `k`. -/
def addMetrics (moment : Moment) (resultId : ℕ) : ℕ → List BenchmarkMetrics → Db DbError Tables Unit
  | _, [] => return
  | k, metric :: metrics => do
    moment.run k (addMetric resultId metric)
    addMetrics moment resultId (k + 1) metrics

/-- `if (res.toolCallResults) { insertToolCall.run(…); }`, with the statement `k`. -/
def addToolCalls (moment : Moment) (resultId k : ℕ) : Option ToolCallResult → Db DbError Tables Unit
  | none => return
  | some calls => moment.run k (addToolCall resultId calls)

/-- `save(result)`: the id of the stored result. -/
def save (moment : Moment) (res : BenchmarkResult) : Db DbError Tables ℕ :=
  transaction do
    let resultId ← moment.run 0 (addResult moment.now res)
    addMetrics moment resultId 1 res.benchmarkMetrics
    addToolCalls moment resultId (res.benchmarkMetrics.length + 1) res.toolCallResults
    return resultId

/-- `try { this.save(result); imported++; } catch (err) { … }` -/
def importOne (moment : Moment) (imported : ℕ) (res : BenchmarkResult) : Db DbError Tables ℕ :=
  tryCatch (do
      let _ ← save moment res
      return imported + 1)
    fun err => if err.isDuplicate then return imported else throw err

/-- The loop over the items, of which the first is the `i`th. -/
def importAll (moments : ℕ → Moment) : ℕ → ℕ → List BenchmarkResult → Db DbError Tables ℕ
  | _, imported, [] => return imported
  | i, imported, res :: rest => do
    let imported ← importOne (moments i) imported res
    importAll moments (i + 1) imported rest

/-- `importResults(results)`: how many were imported. -/
def importResults (moments : ℕ → Moment) (results : List BenchmarkResult) : Db DbError Tables ℕ :=
  transaction (importAll moments 0 0 results)

/-! ## Updates -/

/-- `UPDATE benchmark_results SET passed = ?, rejection_reasons = ? WHERE id = ?`, on one row. -/
def ResultRow.update (id : ℕ) (passed : Bool) (rejectionReasons : List String) (row : ResultRow) : ResultRow :=
  if row.id = id then { row with passed, rejectionReasons := Js.stringifyStrings rejectionReasons } else row

/-- `updatePassedStatus(id, passed, rejectionReasons)`: whether a row was updated. -/
def updatePassedStatus (id : ℕ) (passed : Bool) (rejectionReasons : List String) (s : Tables) : Bool × Tables :=
  (s.results.any fun row => row.id = id,
    { s with results := s.results.map (ResultRow.update id passed rejectionReasons) })

/-- `delete(id)`, with `ON DELETE CASCADE`: whether a row was deleted. -/
def delete (id : ℕ) (s : Tables) : Bool × Tables :=
  (s.results.any fun row => row.id = id,
    { s with
      results := s.results.filter fun row => row.id ≠ id
      metrics := s.metrics.filter fun row => row.resultId ≠ id
      toolCalls := s.toolCalls.filter fun row => row.resultId ≠ id })

/-! ## Reading -/

def MetricRow.hydrate (row : MetricRow) : BenchmarkMetrics where
  itlMs := some row.itlMs
  ttftMs := some row.ttftMs
  throughputTokensPerSec := some row.throughputTokensPerSec
  p99LatencyMs := some row.p99LatencyMs
  concurrencyLevel := some row.concurrencyLevel

def ToolCallRow.hydrate (row : ToolCallRow) : ToolCallResult where
  supportsParallelCalls := row.supportsParallelCalls
  maxConcurrentCalls := some row.maxConcurrentCalls
  avgToolCallLatencyMs := some row.avgToolCallLatencyMs
  successRate := some row.successRate
  totalTests := some row.totalTests

/-- `WHERE result_id = ? ORDER BY concurrency_level ASC`: rows of one level stay in the order of their ids. -/
def Tables.metricsOf (s : Tables) (resultId : ℕ) : List MetricRow :=
  (s.metrics.filter fun row => row.resultId = resultId).insertionSort
    fun a b => a.concurrencyLevel.le b.concurrencyLevel = true

/-- The result that is made of a row, its parsed reasons and its rows in the other tables. -/
def ResultRow.hydrate (row : ResultRow) (rejectionReasons : List String) (benchmarkMetrics : List BenchmarkMetrics)
    (toolCallResults : Option ToolCallResult) : BenchmarkResult where
  modelId := row.modelId
  timestamp := row.timestamp
  vllmVersion := row.vllmVersion
  dockerCommand := row.dockerCommand
  hardwareConfig := {
    gpuType := row.gpuType
    gpuCount := some row.gpuCount
    ramGb := some row.ramGb
    cpuCores := some row.cpuCores
    diskGb := some row.diskGb
    machineType := row.machineType
    hardwareProfileId := row.hardwareProfileId }
  benchmarkMetrics := benchmarkMetrics
  toolCallResults := toolCallResults
  passed := row.passed
  rejectionReasons := rejectionReasons
  tensorParallelSize := some row.tensorParallelSize
  toolCallParser := row.toolCallParser
  rawOutput := row.rawOutput

/-- `WHERE result_id = ?` -/
def Tables.toolCallOf (s : Tables) (resultId : ℕ) : Option ToolCallRow :=
  s.toolCalls.find? fun row => row.resultId = resultId

/-- `hydrateResult(row)`; `none` where `JSON.parse` throws. -/
def hydrateResult (s : Tables) (row : ResultRow) : Option BenchmarkResult :=
  (Js.parseStrings row.rejectionReasons).map fun rejectionReasons =>
    row.hydrate rejectionReasons ((s.metricsOf row.id).map MetricRow.hydrate)
      ((s.toolCallOf row.id).map ToolCallRow.hydrate)

/-- `exportAll()` may return `out`. -/
def Exports (s : Tables) (out : List BenchmarkResult) : Prop :=
  ∃ answers, ResultsStore.query s.results { orderBy := some .asc } = .ok answers ∧
    ∃ rows ∈ answers, rows.mapM (hydrateResult s) = some out

end Benchmarker.Store
