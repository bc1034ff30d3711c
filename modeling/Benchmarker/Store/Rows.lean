import Benchmarker.Sql.Select

/-!
# The stored rows

* `ResultRow`, `resultsTable`: `benchmark_results`.
* `EvalReportRow`, `reportsTable`: `kibana_eval_reports`.
-/

namespace Benchmarker.Store

open Sql

/-- `flag ? 1 : 0` -/
def flagValue (flag : Bool) : Value := Value.ofNat (if flag then 1 else 0)

def optionalText : Option String → Value
  | none => .null
  | some text => .text text

/-- A row of `benchmark_results`. The flag is stored as `1` or `0`. -/
structure ResultRow where
  id : ℕ
  modelId : String
  timestamp : String
  vllmVersion : String
  dockerCommand : String
  gpuType : String
  gpuCount : Number
  ramGb : Number
  cpuCores : Number
  diskGb : Number
  machineType : String
  hardwareProfileId : Option String
  passed : Bool
  rejectionReasons : String
  tensorParallelSize : Number
  toolCallParser : String
  rawOutput : String
  createdAt : String
  deriving DecidableEq

def resultColumns : List (String × (ResultRow → Value)) :=
  [("id", fun r => Value.ofNat r.id),
    ("model_id", fun r => .text r.modelId),
    ("timestamp", fun r => .text r.timestamp),
    ("vllm_version", fun r => .text r.vllmVersion),
    ("docker_command", fun r => .text r.dockerCommand),
    ("gpu_type", fun r => .text r.gpuType),
    ("gpu_count", fun r => .num r.gpuCount),
    ("ram_gb", fun r => .num r.ramGb),
    ("cpu_cores", fun r => .num r.cpuCores),
    ("disk_gb", fun r => .num r.diskGb),
    ("machine_type", fun r => .text r.machineType),
    ("hardware_profile_id", fun r => optionalText r.hardwareProfileId),
    ("passed", fun r => flagValue r.passed),
    ("rejection_reasons", fun r => .text r.rejectionReasons),
    ("tensor_parallel_size", fun r => .num r.tensorParallelSize),
    ("tool_call_parser", fun r => .text r.toolCallParser),
    ("raw_output", fun r => .text r.rawOutput),
    ("created_at", fun r => .text r.createdAt)]

def resultsTable (rows : List ResultRow) : Table ResultRow := ⟨"benchmark_results", resultColumns, rows⟩

/-- A row of `kibana_eval_reports`. -/
structure EvalReportRow where
  id : ℕ
  modelId : String
  connectorId : String
  timestamp : String
  classification : String
  summary : String
  percentageScore : Number
  totalScore : Number
  maxScore : Number
  totalWeightedScore : Number
  maxWeightedScore : Number
  passedCount : Number
  failedCount : Number
  skippedCount : Number
  erroredCount : Number
  totalCount : Number
  totalDurationMs : Number
  evalConfigJson : String
  createdAt : String
  deriving DecidableEq

def reportColumns : List (String × (EvalReportRow → Value)) :=
  [("id", fun r => Value.ofNat r.id),
    ("model_id", fun r => .text r.modelId),
    ("connector_id", fun r => .text r.connectorId),
    ("timestamp", fun r => .text r.timestamp),
    ("classification", fun r => .text r.classification),
    ("summary", fun r => .text r.summary),
    ("percentage_score", fun r => .num r.percentageScore),
    ("total_score", fun r => .num r.totalScore),
    ("max_score", fun r => .num r.maxScore),
    ("total_weighted_score", fun r => .num r.totalWeightedScore),
    ("max_weighted_score", fun r => .num r.maxWeightedScore),
    ("passed_count", fun r => .num r.passedCount),
    ("failed_count", fun r => .num r.failedCount),
    ("skipped_count", fun r => .num r.skippedCount),
    ("errored_count", fun r => .num r.erroredCount),
    ("total_count", fun r => .num r.totalCount),
    ("total_duration_ms", fun r => .num r.totalDurationMs),
    ("eval_config_json", fun r => .text r.evalConfigJson),
    ("created_at", fun r => .text r.createdAt)]

def reportsTable (rows : List EvalReportRow) : Table EvalReportRow := ⟨"kibana_eval_reports", reportColumns, rows⟩

end Benchmarker.Store
