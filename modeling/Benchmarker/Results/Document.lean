import Mathlib.Algebra.GroupWithZero.Nat
import Benchmarker.Js.Codec

/-!
# Benchmark results as documents

`resultToEs` writes a benchmark result as the document that is indexed, `esHitToResult` reads it
back. A field of a record is `none` where the source has `null` or leaves it out.

* `BenchmarkResult`, `resultToEs`, `esHitToResult`, `truncateRawOutput`.
* `esToHardwareConfig_toEs`, `esToMetrics_toEs`, `esToToolCall_toEs`, `esToGpu_toEs`: the parts.
* `stored`, **`esHitToResult_toEs`**: what is read of a written result. The results by mode and the
  reasoning results have no field in the document.
-/

namespace Benchmarker.Results

open Js Js.Json

/-! ## Records -/

structure HardwareConfig where
  gpuType : String
  gpuCount : ℚ
  ramGb : ℚ
  cpuCores : ℚ
  diskGb : ℚ
  machineType : String
  hardwareProfileId : Option String

structure BenchmarkMetrics where
  itlMs : ℚ
  ttftMs : ℚ
  throughputTokensPerSec : ℚ
  p99LatencyMs : ℚ
  concurrencyLevel : ℚ

/-- `ToolCallModeResult['toolChoiceMode']`. -/
inductive ToolChoiceMode
  | auto | required
  deriving DecidableEq

structure ToolCallModeResult where
  toolChoiceMode : ToolChoiceMode
  supportsParallelCalls : Bool
  maxConcurrentCalls : ℚ
  avgToolCallLatencyMs : ℚ
  successRate : ℚ
  singleToolSuccessRate : Option ℚ := none
  totalTests : ℚ

structure ToolCallResult where
  supportsParallelCalls : Bool
  maxConcurrentCalls : ℚ
  avgToolCallLatencyMs : ℚ
  successRate : ℚ
  singleToolSuccessRate : Option ℚ := none
  totalTests : ℚ
  modeResults : Option (List ToolCallModeResult) := none

structure GpuUtilization where
  vramUsedGb : List ℚ
  vramTotalGb : List ℚ
  totalVramUsedGb : ℚ
  totalVramTotalGb : ℚ
  vramUtilizationPct : ℚ
  gpuUtilizationPct : Option (List ℚ)

/-- A benchmark result; the reasoning results are a JSON value, which no function here reads. -/
structure BenchmarkResult where
  modelId : String
  modelName : Option String := none
  architecture : Option String := none
  parameterCount : Option ℚ := none
  contextWindow : Option ℚ := none
  supportsToolCalling : Option Bool := none
  timestamp : String
  vllmVersion : String
  dockerCommand : String
  hardwareConfig : HardwareConfig
  benchmarkMetrics : List BenchmarkMetrics
  toolCallResults : Option ToolCallResult
  reasoningResults : Option Json := none
  passed : Bool
  rejectionReasons : List String
  tensorParallelSize : ℚ
  toolCallParser : String
  rawOutput : String
  gpuUtilization : Option GpuUtilization := none
  runId : Option String := none

/-! ## Raw output -/

/-- The UTF-16 code units of a character. -/
def utf16Units (c : Char) : ℕ := if c.toNat < 65536 then 1 else 2

/-- `s.length`. -/
def utf16Length (s : String) : ℕ := (s.toList.map utf16Units).sum

/-- `s.slice(0, n)`; a character that the cut would halve is left out. -/
def utf16Slice (n : ℕ) (s : String) : String := String.ofList (go n s.toList)
where
  go : ℕ → List Char → List Char
    | _, [] => []
    | n, c :: cs => if utf16Units c ≤ n then c :: go (n - utf16Units c) cs else []

/-- `MAX_RAW_OUTPUT_BYTES` -/
def maxRawOutputBytes : ℕ := 512000

def truncateRawOutput (raw : String) : String :=
  if utf16Length raw ≤ maxRawOutputBytes then raw
  else utf16Slice maxRawOutputBytes raw ++ "\n...[truncated for ES indexing]"

theorem truncateRawOutput_of_le {raw : String} (h : utf16Length raw ≤ maxRawOutputBytes) :
    truncateRawOutput raw = raw := if_pos h

/-! ## Writing -/

section Write

variable (print : ℚ → String)

/-- A number as `JSON.stringify` prints it. -/
def number (v : ℚ) : Json := num v (print v)

def numbers (vs : List ℚ) : Json := arr (vs.map (number print))

def hardwareConfigToEs (hardwareConfig : HardwareConfig) : Json :=
  obj [("gpu_type", str hardwareConfig.gpuType),
    ("gpu_count", number print hardwareConfig.gpuCount),
    ("ram_gb", number print hardwareConfig.ramGb),
    ("cpu_cores", number print hardwareConfig.cpuCores),
    ("disk_gb", number print hardwareConfig.diskGb),
    ("machine_type", str hardwareConfig.machineType),
    ("hardware_profile_id", ofOption str hardwareConfig.hardwareProfileId)]

def metricsToEs (m : BenchmarkMetrics) : Json :=
  obj [("itl_ms", number print m.itlMs),
    ("ttft_ms", number print m.ttftMs),
    ("throughput_tokens_per_sec", number print m.throughputTokensPerSec),
    ("p99_latency_ms", number print m.p99LatencyMs),
    ("concurrency_level", number print m.concurrencyLevel)]

def toolCallToEs (toolCall : ToolCallResult) : Json :=
  obj [("supports_parallel_calls", bool toolCall.supportsParallelCalls),
    ("max_concurrent_calls", number print toolCall.maxConcurrentCalls),
    ("avg_tool_call_latency_ms", number print toolCall.avgToolCallLatencyMs),
    ("success_rate", number print toolCall.successRate),
    ("single_tool_success_rate", ofOption (number print) toolCall.singleToolSuccessRate),
    ("total_tests", number print toolCall.totalTests)]

def gpuToEs (gpu : GpuUtilization) : Json :=
  obj [("vram_used_gb", numbers print gpu.vramUsedGb),
    ("vram_total_gb", numbers print gpu.vramTotalGb),
    ("total_vram_used_gb", number print gpu.totalVramUsedGb),
    ("total_vram_total_gb", number print gpu.totalVramTotalGb),
    ("vram_utilization_pct", number print gpu.vramUtilizationPct),
    ("gpu_utilization_pct", ofOption (numbers print) gpu.gpuUtilizationPct)]

def resultToEs (result : BenchmarkResult) : Json :=
  obj [("@timestamp", str result.timestamp),
    ("model_id", str result.modelId),
    ("model_name", ofOption str result.modelName),
    ("architecture", ofOption str result.architecture),
    ("parameter_count", ofOption (number print) result.parameterCount),
    ("context_window", ofOption (number print) result.contextWindow),
    ("supports_tool_calling", ofOption bool result.supportsToolCalling),
    ("timestamp", str result.timestamp),
    ("vllm_version", str result.vllmVersion),
    ("docker_command", str result.dockerCommand),
    ("hardware_config", hardwareConfigToEs print result.hardwareConfig),
    ("benchmark_metrics", arr (result.benchmarkMetrics.map (metricsToEs print))),
    ("tool_call_results", ofOption (toolCallToEs print) result.toolCallResults),
    ("passed", bool result.passed),
    ("rejection_reasons", arr (result.rejectionReasons.map str)),
    ("tensor_parallel_size", number print result.tensorParallelSize),
    ("tool_call_parser", str result.toolCallParser),
    ("raw_output", str (truncateRawOutput result.rawOutput)),
    ("gpu_utilization", ofOption (gpuToEs print) result.gpuUtilization),
    ("run_id", ofOption str result.runId)]

end Write

/-! ## Reading -/

def esToHardwareConfig (hc : Json) : Option HardwareConfig := do
  let gpuType ← required asStr (hc.field "gpu_type")
  let gpuCount ← orElse asNum 0 (hc.field "gpu_count")
  let ramGb ← orElse asNum 0 (hc.field "ram_gb")
  let cpuCores ← orElse asNum 0 (hc.field "cpu_cores")
  let diskGb ← orElse asNum 0 (hc.field "disk_gb")
  let machineType ← orElse asStr "" (hc.field "machine_type")
  let hardwareProfileId ← optional asStr (hc.field "hardware_profile_id")
  return { gpuType, gpuCount, ramGb, cpuCores, diskGb, machineType, hardwareProfileId }

def esToMetrics (m : Json) : Option BenchmarkMetrics := do
  let itlMs ← required asNum (m.field "itl_ms")
  let ttftMs ← required asNum (m.field "ttft_ms")
  let throughputTokensPerSec ← required asNum (m.field "throughput_tokens_per_sec")
  let p99LatencyMs ← required asNum (m.field "p99_latency_ms")
  let concurrencyLevel ← required asNum (m.field "concurrency_level")
  return { itlMs, ttftMs, throughputTokensPerSec, p99LatencyMs, concurrencyLevel }

def esToToolCall (tcr : Json) : Option ToolCallResult := do
  let supportsParallelCalls ← required asBool (tcr.field "supports_parallel_calls")
  let maxConcurrentCalls ← required asNum (tcr.field "max_concurrent_calls")
  let avgToolCallLatencyMs ← required asNum (tcr.field "avg_tool_call_latency_ms")
  let successRate ← required asNum (tcr.field "success_rate")
  let singleToolSuccessRate ← optional asNum (tcr.field "single_tool_success_rate")
  let totalTests ← required asNum (tcr.field "total_tests")
  return {
    supportsParallelCalls, maxConcurrentCalls, avgToolCallLatencyMs, successRate,
    singleToolSuccessRate, totalTests }

def esToGpu (gpu : Json) : Option GpuUtilization := do
  let vramUsedGb ← orElse (asList asNum) [] (gpu.field "vram_used_gb")
  let vramTotalGb ← orElse (asList asNum) [] (gpu.field "vram_total_gb")
  let totalVramUsedGb ← orElse asNum 0 (gpu.field "total_vram_used_gb")
  let totalVramTotalGb ← orElse asNum 0 (gpu.field "total_vram_total_gb")
  let vramUtilizationPct ← orElse asNum 0 (gpu.field "vram_utilization_pct")
  let gpuUtilizationPct ← optional (asList asNum) (gpu.field "gpu_utilization_pct")
  return {
    vramUsedGb, vramTotalGb, totalVramUsedGb, totalVramTotalGb, vramUtilizationPct,
    gpuUtilizationPct }

def esHitToResult (hit : Json) : Option BenchmarkResult := do
  let hc ← nullish (hit.field "hardware_config") (some (obj []))
  let modelId ← required asStr (hit.field "model_id")
  let modelName ← optional asStr (hit.field "model_name")
  let architecture ← optional asStr (hit.field "architecture")
  let parameterCount ← optional asNum (hit.field "parameter_count")
  let contextWindow ← optional asNum (hit.field "context_window")
  let supportsToolCalling ← optional asBool (hit.field "supports_tool_calling")
  let timestamp ← required asStr (hit.field "timestamp")
  let vllmVersion ← required asStr (hit.field "vllm_version")
  let dockerCommand ← required asStr (hit.field "docker_command")
  let hardwareConfig ← esToHardwareConfig hc
  let benchmarkMetrics ← orElse (asList esToMetrics) [] (hit.field "benchmark_metrics")
  let toolCallResults ← whenTruthy esToToolCall (hit.field "tool_call_results")
  let passed ← required asBool (hit.field "passed")
  let rejectionReasons ← orElse (asList asStr) [] (hit.field "rejection_reasons")
  let tensorParallelSize ← orElse asNum 1 (hit.field "tensor_parallel_size")
  let toolCallParser ← orElse asStr "" (hit.field "tool_call_parser")
  let rawOutput ← orElse asStr "" (hit.field "raw_output")
  let gpuUtilization ← whenTruthy esToGpu (hit.field "gpu_utilization")
  let runId ← optional asStr (hit.field "run_id")
  return {
    modelId, modelName, architecture, parameterCount, contextWindow, supportsToolCalling,
    timestamp, vllmVersion, dockerCommand, hardwareConfig, benchmarkMetrics, toolCallResults, passed,
    rejectionReasons, tensorParallelSize, toolCallParser, rawOutput, gpuUtilization, runId }

/-! ## Round trip -/

section RoundTrip

variable (print : ℚ → String)

theorem lawful_number : Lawful (number print) asNum := lawful_num print

theorem lawful_numbers : Lawful (numbers print) (asList asNum) :=
  lawful_list (lawful_number print).read_write

theorem esToHardwareConfig_toEs (hardwareConfig : HardwareConfig) :
    esToHardwareConfig (hardwareConfigToEs print hardwareConfig) = some hardwareConfig := by
  simp only [esToHardwareConfig, hardwareConfigToEs, field_obj_cons, String.reduceEq, if_true, if_false,
    required_write lawful_str, orElse_write lawful_str, orElse_write (lawful_number print),
    optional_ofOption lawful_str]
  rfl

theorem esToMetrics_toEs (m : BenchmarkMetrics) : esToMetrics (metricsToEs print m) = some m := by
  simp only [esToMetrics, metricsToEs, field_obj_cons, String.reduceEq, if_true, if_false,
    required_write (lawful_number print)]
  rfl

/-- The results by mode are not written. -/
theorem esToToolCall_toEs (toolCall : ToolCallResult) :
    esToToolCall (toolCallToEs print toolCall) = some { toolCall with modeResults := none } := by
  simp only [esToToolCall, toolCallToEs, field_obj_cons, String.reduceEq, if_true, if_false,
    required_write lawful_bool, required_write (lawful_number print),
    optional_ofOption (lawful_number print)]
  rfl

theorem esToGpu_toEs (gpu : GpuUtilization) : esToGpu (gpuToEs print gpu) = some gpu := by
  simp only [esToGpu, gpuToEs, field_obj_cons, String.reduceEq, if_true, if_false,
    orElse_write (lawful_number print), orElse_write (lawful_numbers print),
    optional_ofOption (lawful_numbers print)]
  rfl

/-- What the document of a result holds of it. -/
def stored (result : BenchmarkResult) : BenchmarkResult :=
  { result with
    toolCallResults := result.toolCallResults.map fun toolCall => { toolCall with modeResults := none }
    reasoningResults := none }

/-- **A written result is read back**, apart from the results by mode and the reasoning results. -/
theorem esHitToResult_toEs (result : BenchmarkResult)
    (hraw : utf16Length result.rawOutput ≤ maxRawOutputBytes) :
    esHitToResult (resultToEs print result) = some (stored result) := by
  simp only [esHitToResult, resultToEs, field_obj_cons, String.reduceEq, if_true, if_false,
    truncateRawOutput_of_le hraw, required_write lawful_str, required_write lawful_bool,
    orElse_write lawful_str, orElse_write (lawful_number print), optional_ofOption lawful_str,
    optional_ofOption lawful_bool, optional_ofOption (lawful_number print),
    orElse_write (lawful_list (esToMetrics_toEs print)), orElse_write (lawful_list lawful_str.read_write),
    whenTruthy_ofOption (esToToolCall_toEs print) fun _ => rfl,
    whenTruthy_ofOption (esToGpu_toEs print) fun _ => rfl]
  rw [show nullish (some (hardwareConfigToEs print result.hardwareConfig)) (some (obj [])) =
    some (hardwareConfigToEs print result.hardwareConfig) from rfl]
  simp only [Option.bind_eq_bind, Option.bind_some, esToHardwareConfig_toEs, Option.map_id']
  rfl

end RoundTrip

end Benchmarker.Results
