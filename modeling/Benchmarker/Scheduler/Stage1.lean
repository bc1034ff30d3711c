import Mathlib.Algebra.Order.Monoid.Unbundled.WithTop
import Mathlib.Algebra.Order.Ring.Unbundled.Rat
import Mathlib.Algebra.Ring.Rat
import Mathlib.Data.List.Sort
import Benchmarker.Js.Number
import Benchmarker.Js.Regex
import Benchmarker.Scheduler.Ops

/-!
# The Stage 1 worker

`Stage1WorkerImpl.execute`: parse the card, deploy, benchmark, test tool calls, decide on Stage 2.
The body fills the result only after its last `await`, so a throw leaves none of its fields.

* `parseVllmOverridesFromSuggestions`, `stage1Overrides`: deployment flags from Stage 3's advice.
* `resolveMaxItlP50Ms`, `resolveMinToolCallSuccessRate`, `stage2Gate`: the gate of Stage 2.
* `stage1Prepare`, `stage1Measure`, `stage1Body`, `execute`.
-/

namespace Benchmarker

open Js Js.Re Async Async.Prog

/-! ## Deployment overrides -/

/-- `parseInt(digits, 10)`, without the rounding below `Infinity`. -/
def parseInt (digits : String) : WithTop ℕ :=
  if digitsValue digits.toList < numberOverflow then (digitsValue digits.toList : ℕ) else ⊤

/-- The number that a decimal numeral denotes. -/
def decimalValue (s : String) : ℚ :=
  let frac := (s.toList.dropWhile (· ≠ '.')).drop 1
  digitsValue (s.toList.takeWhile (· ≠ '.')) + (digitsValue frac : ℚ) / 10 ^ frac.length

/-- `--flag\s+(value)`, and a boundary after the value where the source asks for one. -/
def flagValue (flag : String) (value after : Re) (text : String) : Option String :=
  capture (seqs [txt flag, spaces]) value after text

/-- `\d+(?:\.\d+)?|\.\d+`. -/
def decimalPattern : Re := alts [
  seqs [plus digit, opt (seqs [txt ".", plus digit])], seqs [txt ".", plus digit]]

/-- `auto|half|float16|bfloat16|float|float32`. -/
def dtypePattern : Re :=
  alts (["auto", "half", "float16", "bfloat16", "float", "float32"].map txt)

/-- A path of word characters, dots, slashes and dashes that ends in `.jinja`, or any text with a
slash. -/
def isTemplatePath (s : String) : Bool :=
  (s.toList.all (fun c => isWordChar c || c = '.' || c = '/' || c = '-') &&
    endsWith s ".jinja" && s.toList.length > 6) || includes s "/"

/-- The flags found in one suggestion, added to those found before. -/
def addSuggestion (o : VllmDeploymentOptions) (sug : Stage3Suggestion) : VllmDeploymentOptions :=
  let text := sug.title ++ " " ++ sug.description
  let gpuMem := ((flagValue "--gpu-memory-utilization" decimalPattern eps text).map
    decimalValue).filter fun val => 0 < val ∧ val ≤ 1
  let maxLen := (flagValue "--max-model-len" (plus digit) eps text).map parseInt
  let maxSeqs := flagValue "--max-num-seqs" (plus digit) eps text
  let dtype := flagValue "--dtype" dtypePattern wordBoundary text
  let chatTpl := (flagValue "--chat-template" (plus (chr fun c => !isSpace c)) eps text).filter
    isTemplatePath
  let extraArgs := maxSeqs.toList.map ("--max-num-seqs " ++ ·) ++ dtype.toList.map ("--dtype " ++ ·)
  { gpuMemoryUtilization := gpuMem.or o.gpuMemoryUtilization
    maxModelLen := maxLen.or o.maxModelLen
    additionalDockerArgs :=
      if extraArgs = [] then o.additionalDockerArgs
      else some (o.additionalDockerArgs.getD [] ++ extraArgs)
    chatTemplate := chatTpl.or o.chatTemplate }

def parseVllmOverridesFromSuggestions (suggestions : List Stage3Suggestion) :
    Option VllmDeploymentOptions :=
  let overrides := suggestions.foldl addSuggestion {}
  if overrides = {} then none else some overrides

/-- The context floor: an override below what Stage 2 needs is dropped. -/
def dropShortContext (contextFloor : ℕ) (o : VllmDeploymentOptions) : VllmDeploymentOptions :=
  if o.maxModelLen.any (· < (contextFloor : WithTop ℕ)) then { o with maxModelLen := none } else o

/-- The overrides that `execute` deploys with; a failed query gives none. -/
def stage1Overrides (deps : SchedulerDeps) (modelId : String) :
    SchedJs (Option VllmDeploymentOptions) := do
  match ← attempt (extCall (.getLatestReasoningResult modelId)) with
  | .error _ => return none
  | .ok previous =>
    let overrides := (previous.bind (·.suggestions)).bind parseVllmOverridesFromSuggestions
    return overrides.map (dropShortContext deps.config.stage2Thresholds.minContextWindow)

/-! ## The Stage 2 gate -/

/-- A value that depends on the parameter count: the first tier that covers it, else the last. -/
def resolveTier {τ : Type} (maxParamsBillions : τ → WithTop ℚ) (value : τ → ℚ) (tiers : List τ)
    (flatFallback : ℚ) (parameterCountBillions : Option ℚ) : ℚ :=
  match parameterCountBillions.filter (0 < ·) with
  | none => flatFallback
  | some params =>
    let sorted := tiers.insertionSort fun a b => maxParamsBillions a ≤ maxParamsBillions b
    match sorted.find? fun tier => params ≤ maxParamsBillions tier with
    | some tier => value tier
    | none => (sorted.getLast?.map value).getD flatFallback

def resolveMaxItlP50Ms (thresholds : Stage2Thresholds) : Option ℚ → ℚ :=
  resolveTier ItlTier.maxParamsBillions ItlTier.maxITLMs thresholds.maxItlP50MsTiers
    thresholds.maxItlP50Ms

def resolveMinToolCallSuccessRate (thresholds : BenchmarkThresholds) : Option ℚ → ℚ :=
  resolveTier ToolCallTier.maxParamsBillions ToolCallTier.minSuccessRate
    thresholds.minToolCallSuccessRateTiers thresholds.minToolCallSuccessRate

/-- The mean of a list; an empty list has none, which the source writes as `Infinity`. -/
def mean (xs : List ℚ) : Option ℚ := if xs = [] then none else some (xs.sum / xs.length)

/-- The best throughput of the successful runs. -/
def bestThroughput (metrics : List BenchmarkMetrics) : ℚ :=
  match metrics with
  | [] => 0
  | m :: ms => ms.foldl (fun best m => max best m.throughputTokensPerSec) m.throughputTokensPerSec

/-- `gateSuccessRate`. -/
def gateSuccessRate (toolCallResults : Option ToolCallResult) : Option ℚ :=
  toolCallResults.map fun t => t.singleToolSuccessRate.getD t.successRate

/-- `stage2Eligible`. -/
def stage2Gate (config : AppConfig) (paramBillions : Option ℚ) (metrics : List BenchmarkMetrics)
    (contextWindow : ℕ) (toolCallResults : Option ToolCallResult) : Bool :=
  let t := config.stage2Thresholds
  (mean (metrics.map (·.itlMs))).any (· < resolveMaxItlP50Ms t paramBillions) &&
  bestThroughput metrics > t.minThroughputTps &&
  (mean (metrics.map (·.ttftMs))).any (· < t.maxTtftMs) &&
  contextWindow ≥ t.minContextWindow &&
  (gateSuccessRate toolCallResults).all
    (· ≥ resolveMinToolCallSuccessRate config.benchmarkThresholds paramBillions)

/-! ## The worker -/

/-- `reportQueueProgress` of `progressNow`. -/
def reportQueueProgress (id : ℕ) (stage : ProgressStage) (detail : String)
    (steps : Option (ℕ × ℕ)) (leaseToken : Option String) : SchedJs Unit := do
  let updatedAt ← clock
  let _ ← attempt (queueCall (.updateProgress id {
    stage := stage
    detail := detail
    step := steps.map (·.1)
    stepTotal := steps.map (·.2)
    updatedAt := updatedAt } leaseToken))
  return ()

def normalizeParameterCount (raw : Option ℚ) : Option ℚ :=
  raw.map fun n => if 0 < n ∧ n < 1000 then n * 1000000000 else n

/-- The model info that Stage 1 builds from a parsed card. -/
def modelInfoOfCard (card : HFCard) : ModelInfo where
  id := card.modelId
  name := card.name
  architecture := card.architecture
  contextWindow := card.contextWindow
  license := card.license
  parameterCount := normalizeParameterCount card.parameterCount
  quantizations := card.quantizations
  supportsToolCalling := card.supportsToolCalling

/-- `paramBillions`. -/
def ModelInfo.paramBillions (m : ModelInfo) : Option ℚ :=
  (m.parameterCount.filter (· ≠ 0)).map (· / 1000000000)

section Worker

variable (deps : SchedulerDeps) (run : PipelineRun)

def resolveContextWindow (modelInfo : ModelInfo) : SchedJs ℕ := do
  match ← extCall (.fetchModelConfig run.modelId) with
  | none => return modelInfo.contextWindow
  | some fromConfig => return max modelInfo.contextWindow fromConfig

/-- The result that `execute` starts from. -/
def freshStage1Result (startedAt : Time) : Stage1Result where
  runId := run.runId
  modelId := run.modelId
  queueEntryId := run.queueEntryId
  status := .success
  startedAt := startedAt
  completedAt := startedAt

/-- The record that Stage 1 stores. -/
def benchmarkRecord (modelInfo : ModelInfo) (deployment : EngineDeploymentResult)
    (bench : EngineFullBenchmarkResult) (toolCallResults : Option ToolCallResult)
    (timestamp : Time) : BenchmarkResult where
  modelId := run.modelId
  modelName := modelInfo.name
  architecture := modelInfo.architecture
  parameterCount := modelInfo.parameterCount
  contextWindow := modelInfo.contextWindow
  supportsToolCalling := modelInfo.supportsToolCalling
  timestamp := timestamp
  vllmVersion := deployment.engineImage
  dockerCommand := deployment.deploymentCommand
  hardwareConfig := deps.config.vmHardwareProfile
  hardwareProfileId := deps.config.hardwareProfileId
  benchmarkMetrics := bench.runs.map (·.metrics)
  toolCallResults := toolCallResults
  passed := bench.passed
  rejectionReasons := bench.rejectionReasons
  tensorParallelSize := deployment.parallelismConfig
  toolCallParser := deployment.toolCallParser
  rawOutput := bench.combinedRawOutput
  gpuUtilizationPct := deployment.gpuUtilizationPct
  runId := run.runId

/-- The error of a benchmark that did not pass. -/
def rejectionError (bench : EngineFullBenchmarkResult) : String :=
  if bench.rejectionReasons = [] then
    "Stage 1 benchmark did not pass (no rejection reason reported)"
  else "; ".intercalate bench.rejectionReasons

/-- The filled result of a benchmark that ran to completion. -/
def filledStage1Result (startedAt : Time) (modelInfo : ModelInfo)
    (deployment : EngineDeploymentResult) (bench : EngineFullBenchmarkResult)
    (toolCallResults : Option ToolCallResult) (contextWindow : ℕ) (durationSec : ℚ) :
    Stage1Result :=
  let metrics := (bench.runs.filter (·.success)).map (·.metrics)
  { freshStage1Result run startedAt with
    status := if bench.passed then .success else .failed
    error := if bench.passed then none else some (rejectionError bench)
    rawOutput := bench.combinedRawOutput
    metrics := do some {
      itlP50Ms := ← mean (metrics.map (·.itlMs))
      itlP99Ms := ← mean (metrics.map (·.p99LatencyMs))
      ttftMs := ← mean (metrics.map (·.ttftMs))
      throughputTps := bestThroughput metrics
      durationSec := durationSec }
    endpointUrl := some deployment.apiEndpoint
    deploymentName := some deployment.deploymentName
    stage2Eligible := some
      (stage2Gate deps.config modelInfo.paramBillions metrics contextWindow toolCallResults)
    parameterCountBillions := modelInfo.paramBillions
    toolCallSuccessRate := toolCallResults.map (·.successRate)
    singleToolSuccessRate := gateSuccessRate toolCallResults }

/-- The body of `execute` up to the deployment. -/
def stage1Prepare : SchedJs (ModelInfo × EngineDeploymentResult) := do
  let _ ← queueCall (.updateStatus run.queueEntryId .deploying none none)
  reportQueueProgress run.queueEntryId .stage1Deploy
    "Parsing HuggingFace card and preparing vLLM deploy" none none
  let card ← extCall (.parseCard run.modelId)
  let modelInfo := modelInfoOfCard card
  let _ ← queueCall (.updateStatus run.queueEntryId .benchmarking none none)
  let overrides ← stage1Overrides deps run.modelId
  reportQueueProgress run.queueEntryId .stage1Health
    "Pulling image and starting vLLM container — health check pending" none none
  let deployment ← extCall (.deploy modelInfo deps.config.vmHardwareProfile overrides)
  return (modelInfo, deployment)

/-- The tool-call benchmark, for a model that advertises tool calls. -/
def stage1ToolCalls (modelInfo : ModelInfo) : SchedJs (Option ToolCallResult) := do
  if deps.supportsToolCalling modelInfo then
    reportQueueProgress run.queueEntryId .stage1ToolCall "Single-tool calling competence gate"
      none none
    extCall (.toolCallBenchmark run.modelId)
  else return none

/-- The body of `execute` after the deployment. -/
def stage1Measure (startTime startedAt : Time) (modelInfo : ModelInfo)
    (deployment : EngineDeploymentResult) : SchedJs Stage1Result := do
  let levels := deps.config.benchmarkThresholds.concurrencyLevels
  reportQueueProgress run.queueEntryId .stage1Benchmark
    ("Running throughput benchmark (" ++ toString levels.length ++ " concurrency levels)")
    (some (0, levels.length)) none
  let bench ← extCall
    (.runBenchmarks run.modelId levels deployment.deploymentName modelInfo.paramBillions)
  let toolCallResults ← stage1ToolCalls deps run modelInfo
  let timestamp ← clock
  let _ ← attempt (extCall (.saveBenchmark
    (benchmarkRecord deps run modelInfo deployment bench toolCallResults timestamp)))
  let contextWindow ← resolveContextWindow run modelInfo
  let now ← clock
  return filledStage1Result deps run startedAt modelInfo deployment bench toolCallResults
    contextWindow (((now : ℚ) - startTime) / 1000)

/-- The `try` block of `execute`. -/
def stage1Body (startTime startedAt : Time) : SchedJs Stage1Result := do
  let (modelInfo, deployment) ← stage1Prepare deps run
  stage1Measure deps run startTime startedAt modelInfo deployment

/-- The `catch` block of `execute`: log the error and mark the entry failed, without a lease. -/
def stage1Catch (startedAt : Time) (err : JsError) : SchedJs Stage1Result := do
  ExceptT.lift (schedRequest (.stage1Failed err.message))
  let _ ← attempt (queueCall (.updateStatus run.queueEntryId .failed (some err.message) none))
  return { freshStage1Result run startedAt with status := .failed, error := some err.message }

/-- `Stage1WorkerImpl.execute`. -/
def execute : SchedJs Stage1Result := do
  let startTime ← clock
  let startedAt ← clock
  let outcome ← attempt (stage1Body deps run startTime startedAt)
  let result ← match outcome with
    | .ok result => pure result
    | .error err => stage1Catch run startedAt err
  let completedAt ← clock
  return { result with completedAt := completedAt }

end Worker

end Benchmarker
