import Mathlib.Data.Rat.Defs

/-!
# Queue documents and queue entries

The documents of the queue index (`EsSource`), the entries that the queue service hands out
(`QueueEntry`), and `toEntry` between them. A field that is optional or nullable in the source is
an `Option`; a field that is both is an `Option (Option _)` where the difference survives. Times
are milliseconds since the epoch: `toISOString` and `Date.parse` are inverse to each other on them.
-/

namespace Benchmarker

/-- Milliseconds since the epoch. -/
abbrev Time := ℕ

/-- `QueueEntry['status']`. -/
inductive Status
  | pending | deploying | benchmarking | completed | failed | cancelled
  deriving DecidableEq, Repr

/-- The statuses of a claimed entry. -/
def Status.inFlight : Status → Bool
  | .deploying | .benchmarking => true
  | _ => false

/-- The statuses that no queue operation but a re-enqueue should leave. -/
def Status.terminal : Status → Bool
  | .completed | .failed | .cancelled => true
  | _ => false

/-- The statuses that `enqueue` counts as an existing entry of the model. -/
def Status.active : Status → Bool
  | .pending | .deploying | .benchmarking => true
  | _ => false

@[simp] theorem Status.active_eq_not_terminal (s : Status) : s.active = !s.terminal := by
  cases s <;> rfl

theorem Status.inFlight_not_terminal {s : Status} (h : s.inFlight = true) : s.terminal = false := by
  cases s <;> simp_all [inFlight, terminal]

theorem Status.inFlight_active {s : Status} (h : s.inFlight = true) : s.active = true := by
  rw [active_eq_not_terminal, inFlight_not_terminal h]; rfl

/-- `QueueEntry['source']`. -/
inductive Source
  | user | discovery
  deriving DecidableEq, Repr

/-- `PipelineStage` of `types/pipeline-progress.ts`. -/
inductive ProgressStage
  | stage1Deploy | stage1Health | stage1Benchmark | stage1ToolCall | stage2Evals | stage3Reasoning
  | finalize
  deriving DecidableEq, Repr

structure PipelineProgress where
  stage : ProgressStage
  detail : String
  evalSuites : Option (List String) := none
  evalCompleted : Option (List String) := none
  evalCurrent : Option (Option String) := none
  evalTotal : Option ℕ := none
  step : Option ℕ := none
  stepTotal : Option ℕ := none
  updatedAt : Time
  deriving DecidableEq, Repr

/-- `configOverrides` of an entry's metadata. -/
structure ConfigOverrides where
  tensorParallelSize : Option ℕ := none
  maxModelLen : Option ℕ := none
  deriving DecidableEq, Repr

/-- `QueueEntry['metadata']`. -/
structure EntryMetadata where
  configOverrides : Option ConfigOverrides := none
  skipReasoning : Option Bool := none
  trendingScore : Option ℚ := none
  hardwareFit : Option Bool := none
  hardwareProfileId : Option String := none
  estimatedGb : Option (Option ℚ) := none
  fits : Option (Option Bool) := none
  force : Option Bool := none
  reason : Option String := none
  infraRetryCount : Option ℕ := none
  pipelineProgress : Option PipelineProgress := none
  skipStage1 : Option Bool := none
  endpointUrl : Option String := none
  deploymentName : Option String := none
  skipPassedSuites : Option Bool := none
  baselineWarnings : Option (List String) := none
  profileId : Option String := none
  deriving DecidableEq

structure QueueEntry where
  id : ℕ
  modelId : String
  source : Source
  priority : ℤ
  status : Status
  requestedAt : Time
  startedAt : Option Time
  completedAt : Option Time
  errorMessage : Option String
  requestedBy : Option String
  leaseToken : Option String
  heartbeatAt : Option Time
  metadata : Option EntryMetadata
  deriving DecidableEq

/-- The stored form of `PipelineProgress` (`pipeline_progress`). -/
structure EsProgress where
  stage : ProgressStage
  detail : String
  evalSuites : Option (List String)
  evalCompleted : Option (List String)
  evalCurrent : Option (Option String)
  evalTotal : Option ℕ
  step : Option ℕ
  stepTotal : Option ℕ
  updatedAt : Time
  deriving DecidableEq, Repr

/-- The stored form of an entry's metadata. -/
structure EsMetadata where
  configOverrides : Option ConfigOverrides := none
  skipReasoning : Option Bool := none
  trendingScore : Option ℚ := none
  hardwareFit : Option Bool := none
  hardwareProfileId : Option String := none
  estimatedGb : Option (Option ℚ) := none
  fits : Option (Option Bool) := none
  force : Option Bool := none
  reason : Option String := none
  infraRetryCount : Option ℕ := none
  pipelineProgress : Option EsProgress := none
  skipStage1 : Option Bool := none
  endpointUrl : Option String := none
  deploymentName : Option String := none
  skipPassedSuites : Option Bool := none
  baselineWarnings : Option (List String) := none
  profileId : Option String := none
  deriving DecidableEq

/-- `EsSource`: a document of the queue index. -/
structure EsSource where
  modelId : String
  source : Source
  priority : ℤ
  status : Status
  requestedAt : Time
  startedAt : Option Time
  completedAt : Option Time
  errorMessage : Option String
  requestedBy : Option String
  leaseToken : Option String
  heartbeatAt : Option Time
  metadata : Option EsMetadata
  deriving DecidableEq

def mapPipelineProgressFromEs (raw : EsProgress) : PipelineProgress where
  stage := raw.stage
  detail := raw.detail
  evalSuites := raw.evalSuites
  evalCompleted := raw.evalCompleted
  evalCurrent := raw.evalCurrent
  evalTotal := raw.evalTotal
  step := raw.step
  stepTotal := raw.stepTotal
  updatedAt := raw.updatedAt

def mapPipelineProgressToEs (progress : PipelineProgress) : EsProgress where
  stage := progress.stage
  detail := progress.detail
  evalSuites := progress.evalSuites
  evalCompleted := progress.evalCompleted
  evalCurrent := progress.evalCurrent
  evalTotal := progress.evalTotal
  step := progress.step
  stepTotal := progress.stepTotal
  updatedAt := progress.updatedAt

@[simp] theorem mapPipelineProgress_fromEs_toEs (p : PipelineProgress) :
    mapPipelineProgressFromEs (mapPipelineProgressToEs p) = p := rfl

/-- The `metadata` part of `toEntry`. -/
def toEntryMetadata (m : EsMetadata) : EntryMetadata where
  configOverrides := m.configOverrides
  skipReasoning := m.skipReasoning
  trendingScore := m.trendingScore
  hardwareFit := m.hardwareFit
  hardwareProfileId := m.hardwareProfileId
  estimatedGb := m.estimatedGb
  fits := m.fits
  force := m.force
  reason := m.reason
  infraRetryCount := m.infraRetryCount
  pipelineProgress := m.pipelineProgress.map mapPipelineProgressFromEs
  skipStage1 := m.skipStage1
  endpointUrl := m.endpointUrl
  deploymentName := m.deploymentName
  skipPassedSuites := m.skipPassedSuites
  baselineWarnings := m.baselineWarnings
  profileId := m.profileId

def toEntry (id : ℕ) (src : EsSource) : QueueEntry where
  id := id
  modelId := src.modelId
  source := src.source
  priority := src.priority
  status := src.status
  requestedAt := src.requestedAt
  startedAt := src.startedAt
  completedAt := src.completedAt
  errorMessage := src.errorMessage
  requestedBy := src.requestedBy
  leaseToken := src.leaseToken
  heartbeatAt := src.heartbeatAt
  metadata := src.metadata.map toEntryMetadata

/-- The `metadata` part of the document that `enqueue` writes. The progress of an earlier run is
not carried over. -/
def enqueueMetadata (m : EntryMetadata) : EsMetadata where
  configOverrides := m.configOverrides
  skipReasoning := m.skipReasoning
  trendingScore := m.trendingScore
  hardwareFit := m.hardwareFit
  hardwareProfileId := m.hardwareProfileId
  estimatedGb := m.estimatedGb
  fits := m.fits
  force := m.force
  reason := m.reason
  infraRetryCount := m.infraRetryCount
  skipStage1 := m.skipStage1
  endpointUrl := m.endpointUrl
  deploymentName := m.deploymentName
  skipPassedSuites := m.skipPassedSuites
  baselineWarnings := m.baselineWarnings
  profileId := m.profileId

/-- **Metadata read back**: `enqueue` keeps everything but the pipeline progress. -/
@[simp] theorem toEntryMetadata_enqueueMetadata (m : EntryMetadata) :
    toEntryMetadata (enqueueMetadata m) = { m with pipelineProgress := none } := rfl

end Benchmarker
