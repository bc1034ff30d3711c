import Mathlib.Order.WithBot
import Benchmarker.CiEval.Stage2
import Benchmarker.Queue.Service

/-!
# Pipeline data

The records that the scheduler and the stages hand to each other: the pipeline run with its
deployment and stage results, what the engine, the tunnel and Buildkite answer, and the parts of
the configuration that the scheduler reads. Text that is only shown to an operator is left out.
-/

namespace Benchmarker

open Js

/-! ## Pipeline runs -/

/-- `DeploymentInfo`, of a deployment that is up. -/
structure DeploymentInfo where
  deploymentName : String
  endpointUrl : String
  publicEndpointUrl : Option String := none
  deriving DecidableEq

/-- `Stage1Result['status']`. -/
inductive Stage1Status
  | success | failed | skipped
  deriving DecidableEq, Repr

/-- `Stage1Result['metrics']`. -/
structure Stage1Metrics where
  itlP50Ms : ℚ
  itlP99Ms : ℚ
  ttftMs : ℚ
  throughputTps : ℚ
  durationSec : ℚ
  deriving DecidableEq

structure Stage1Result where
  runId : String
  modelId : String
  queueEntryId : ℕ
  status : Stage1Status
  metrics : Option Stage1Metrics := none
  rawOutput : String := ""
  error : Option String := none
  startedAt : Time
  completedAt : Time
  endpointUrl : Option String := none
  deploymentName : Option String := none
  stage2Eligible : Option Bool := none
  parameterCountBillions : Option ℚ := none
  toolCallSuccessRate : Option ℚ := none
  singleToolSuccessRate : Option ℚ := none
  deriving DecidableEq

/-- `Stage3Suggestion`, the texts that Stage 1 scans. -/
structure Stage3Suggestion where
  title : String
  description : String
  deriving DecidableEq

structure Stage3Result where
  runId : String
  modelId : String
  /-- `status === 'success'`. -/
  success : Bool
  suggestions : Option (List Stage3Suggestion) := none
  error : Option String := none
  startedAt : Time
  completedAt : Time
  deriving DecidableEq

structure PipelineRun where
  runId : String
  modelId : String
  queueEntryId : ℕ
  startedAt : Time
  skipStage2Suites : Option (List String) := none
  skipReasoning : Option Bool := none
  deployment : Option DeploymentInfo := none
  benchmarkResult : Option Stage1Result := none
  stage2Result : Option Stage2Result := none
  stage3Result : Option Stage3Result := none
  deriving DecidableEq

/-- `RecommendationReport`: the scheduler only hands it on. -/
structure RecommendationReport where
  runId : String
  modelId : String
  deriving DecidableEq

/-! ## What the engine answers -/

structure ModelInfo where
  id : String
  name : String
  architecture : String
  contextWindow : ℕ
  license : String
  parameterCount : Option ℚ
  quantizations : List String
  supportsToolCalling : Bool
  deriving DecidableEq

/-- The `card` of a parsed HuggingFace card. -/
structure HFCard where
  modelId : String
  name : String
  architecture : String
  contextWindow : ℕ
  license : String
  parameterCount : Option ℚ
  quantizations : List String
  supportsToolCalling : Bool
  deriving DecidableEq

/-- The deployment options that Stage 1 may override; a length may be `Infinity`. -/
structure VllmDeploymentOptions where
  gpuMemoryUtilization : Option ℚ := none
  maxModelLen : Option (WithTop ℕ) := none
  additionalDockerArgs : Option (List String) := none
  chatTemplate : Option String := none
  deriving DecidableEq

/-- `EngineDeploymentResult`. The engine names every container `vllm-…` and serves it under
`http://…`, so neither text is empty. -/
structure EngineDeploymentResult where
  deploymentName : String
  apiEndpoint : String
  deploymentCommand : String := ""
  toolCallParser : String := ""
  parallelismConfig : ℕ := 1
  engineImage : String := ""
  gpuUtilizationPct : Option ℚ := none
  deploymentName_ne : deploymentName ≠ ""
  apiEndpoint_ne : apiEndpoint ≠ ""
  deriving DecidableEq

/-- What `findRunningDeployment` reports. -/
structure RunningDeployment where
  deploymentName : String
  endpointUrl : String
  deriving DecidableEq

structure BenchmarkMetrics where
  itlMs : ℚ
  ttftMs : ℚ
  throughputTokensPerSec : ℚ
  p99LatencyMs : ℚ
  concurrencyLevel : ℕ
  deriving DecidableEq

structure EngineBenchmarkRunResult where
  metrics : BenchmarkMetrics
  success : Bool
  deriving DecidableEq

structure EngineFullBenchmarkResult where
  runs : List EngineBenchmarkRunResult
  combinedRawOutput : String
  rejectionReasons : List String
  passed : Bool
  deriving DecidableEq

structure ToolCallResult where
  successRate : ℚ
  singleToolSuccessRate : Option ℚ := none
  totalTests : ℕ := 0
  deriving DecidableEq

structure VMHardwareProfile where
  gpuType : String := "nvidia-a100-80gb"
  gpuCount : ℕ := 2
  ramGb : ℚ := 340
  cpuCores : ℕ := 24
  diskGb : ℕ := 1000
  machineType : String := "a2-ultragpu-2g"
  deriving DecidableEq

/-- `BenchmarkResult`: the record that Stage 1 stores. -/
structure BenchmarkResult where
  modelId : String
  modelName : String
  architecture : String
  parameterCount : Option ℚ
  contextWindow : ℕ
  supportsToolCalling : Bool
  timestamp : Time
  vllmVersion : String
  dockerCommand : String
  hardwareConfig : VMHardwareProfile
  hardwareProfileId : Option String
  benchmarkMetrics : List BenchmarkMetrics
  toolCallResults : Option ToolCallResult
  passed : Bool
  rejectionReasons : List String
  tensorParallelSize : ℕ
  toolCallParser : String
  rawOutput : String
  gpuUtilizationPct : Option ℚ
  runId : String
  deriving DecidableEq

/-! ## What the tunnel and Buildkite answer -/

/-- `PublicEndpointResult`; `cleanup` names the resolution that the closure releases. -/
structure PublicEndpointResult where
  endpointUrl : String
  publicEndpointUrl : Option String := none
  directUrl : String
  tunneled : Bool
  localPort : Option ℕ := none
  sshForward : Bool := false
  tunnelService : Bool := false
  cleanup : ℕ
  deriving DecidableEq

structure SmokeTestResult where
  passed : Bool
  tier : String
  deriving DecidableEq

structure TriggerOnDemandOptions where
  connectorJson : String
  connectorId : String
  evalSuiteIds : List String
  modelId : String
  deriving DecidableEq

structure BuildkiteTriggeredBuild where
  pipelineSlug : String
  buildNumber : ℕ
  buildUrl : String
  adopted : Option Bool := none
  deriving DecidableEq

/-- `CIEvalResult['status']`. -/
inductive CIEvalStatus
  | passed | failed | error | running
  deriving DecidableEq, Repr

structure CIEvalResult where
  runId : String
  queueEntryId : Option ℕ
  modelId : String
  buildkiteBuildUrl : String
  buildkiteBuildNumber : ℕ
  pipelineSlug : String
  status : CIEvalStatus
  buildkiteState : Option String
  evalSuites : List String
  artifacts : Option (JsMap String String) := none
  startedAt : Time
  completedAt : Time
  retryCount : ℕ
  connectorJson : String
  deriving DecidableEq

/-! ## Configuration -/

/-- `config.retry`. -/
structure RetryConfig where
  enabled : Option Bool := none
  maxInfraRetries : Option ℕ := none
  maxResourceFitRetries : Option ℕ := none
  deriving DecidableEq

structure CostCaps where
  enabled : Bool
  maxModelsPerDay : ℕ
  deriving DecidableEq

/-- `config.buildkite`. -/
structure BuildkiteSettings where
  defaultEvalSuites : Option (List String) := none
  weeklyPipelineSlug : Option String := none
  maxSkipRetries : Option ℕ := none
  skipRetryBackoffMs : Option ℕ := none
  retryOnFailure : Option Bool := none
  deriving DecidableEq

/-- `config.stage2Local`. -/
structure Stage2LocalConfig where
  useBatchRunner : Bool := false
  evalSuites : Option (List String) := none
  skillDevPluginDir : Option String := none
  deriving DecidableEq

/-- A tier of ITL caps. The last tier of a list has the boundary `Infinity` by default. -/
structure ItlTier where
  maxParamsBillions : WithTop ℚ
  maxITLMs : ℚ
  deriving DecidableEq

/-- A tier of `minToolCallSuccessRateTiers`. -/
structure ToolCallTier where
  maxParamsBillions : WithTop ℚ
  minSuccessRate : ℚ
  deriving DecidableEq

/-- `BenchmarkThresholds`, the parts that Stage 1 reads. -/
structure BenchmarkThresholds where
  concurrencyLevels : List ℕ := [1]
  minToolCallSuccessRate : ℚ := 1
  minToolCallSuccessRateTiers : List ToolCallTier := []
  deriving DecidableEq

structure Stage2Thresholds where
  maxItlP50Ms : ℚ
  maxItlP50MsTiers : List ItlTier := []
  minThroughputTps : ℚ
  maxTtftMs : ℚ
  minContextWindow : ℕ
  deriving DecidableEq

/-- An entry of `excludeModelPatterns`: its text, and the matcher that `new RegExp(text, 'i')`
returns, unless it throws. -/
structure ExcludePattern where
  source : String
  matcher : Option (String → Bool)

/-- `AppConfig`, the parts that the scheduler and Stage 1 read. -/
structure AppConfig where
  sshHost : String := ""
  entryStaleAfterMs : Option ℕ := none
  costCaps : Option CostCaps := none
  excludeModelPatterns : Option (List ExcludePattern) := none
  vmHardwareProfile : VMHardwareProfile := {}
  hardwareProfileId : Option String := none
  retry : Option RetryConfig := none
  tunnelEnabled : Bool := false
  buildkite : BuildkiteSettings := {}
  stage2Local : Stage2LocalConfig := {}
  benchmarkThresholds : BenchmarkThresholds := {}
  stage2Thresholds : Stage2Thresholds

structure CIEvalsOptions where
  enabled : Bool
  detachPoll : Bool
  /-- An `sshPool` is present. -/
  sshPool : Bool := false
  deriving DecidableEq

/-- The constructor arguments of `Scheduler`, as the daemon wires them: the results store, the
configuration and the engine are always there, and the other workers may be absent. -/
structure SchedulerDeps where
  maxConcurrentRuns : ℕ
  config : AppConfig
  stage2Worker : Bool := false
  stage3Worker : Bool := false
  slackNotifier : Bool := false
  onModelCompleted : Bool := false
  ciEvals : Option CIEvalsOptions := none
  /-- `vllmEngine.supportsToolCalling`. -/
  supportsToolCalling : ModelInfo → Bool

/-- `this.ciEvals?.enabled`. -/
def SchedulerDeps.ciEvalsEnabled (deps : SchedulerDeps) : Bool := deps.ciEvals.any (·.enabled)

end Benchmarker
