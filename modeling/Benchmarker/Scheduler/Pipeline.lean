import Benchmarker.CiEval.Matrix
import Benchmarker.Failure.Classifier
import Benchmarker.Scheduler.Format
import Benchmarker.Scheduler.Stage1

/-!
# The steps of a pipeline run

What `processEntry` calls: the fenced terminal write, the failure path with its retry and its
cooldown, the finalization, the release of the infrastructure, and the CI evals with their detached
poll.

* `writeTerminal`, `failEntry`, `finalizePipeline`, `releaseInfrastructure`.
* `detachedPoll`: the promise chain of a detached Buildkite poll. `runCIEvals`.
-/

namespace Benchmarker

open Js Async Async.Prog

variable (deps : SchedulerDeps)

/-! ## Cooldowns -/

def isModelCooldown (modelId : String) : SchedJs Bool := do
  let now ← clock
  let (active, expired) ← own (.isModelCooldown modelId now)
  if expired then extFire (.clearModelCooldown modelId)
  return active

def recordModelFailure (modelId errorType : String) : SchedJs Unit := do
  let now ← clock
  match ← own (.recordModelFailure modelId errorType now) with
  | some (expireAt, count) => extFire (.persistModelCooldown modelId expireAt errorType count)
  | none => return ()

/-- The cooldown that `failEntry` puts a model on after a non-retriable failure. -/
def quarantine (modelId : String) (category : FailureCategory) : SchedJs Unit := do
  if ← isModelCooldown modelId then return ()
  else
    let now ← clock
    own (.setCooldown modelId (now + sixHoursMs))
    extFire (.persistModelCooldown modelId (now + sixHoursMs) category.text 1)

/-! ## Terminal writes -/

/-- `writeTerminal`, with `status` either `completed` or `failed`. -/
def writeTerminal (id : ℕ) (status : Status) (errorMessage leaseToken : Option String) :
    SchedJs Bool := do
  match truthy leaseToken with
  | none => queueCall (.updateStatus id status errorMessage none)
  | some token =>
    let result ← queueCall (.terminal
      (if status = .completed then .complete id token
        else .fail id (errorMessage.getD "failed") token))
    return result.applied

/-- `retryCount`. -/
def QueueEntry.retryCount (entry : QueueEntry) : ℕ :=
  (entry.metadata.bind (·.infraRetryCount)).getD 0

/-- `budget`. -/
def retryBudget (category : FailureCategory) : ℕ :=
  match category with
  | .resourceFit => (deps.config.retry.bind (·.maxResourceFitRetries)).getD 1
  | _ => (deps.config.retry.bind (·.maxInfraRetries)).getD 2

/-- `willRetry`. -/
def willRetry (entry : QueueEntry) (message : String) : Bool :=
  let classification := classifyFailure message
  (deps.config.retry.bind (·.enabled)) ≠ some false && classification.retriable &&
    entry.retryCount < retryBudget deps classification.category

/-- `tagged`. -/
def taggedMessage (message : String) : String :=
  match (classifyFailure message).category with
  | .unknown => message
  | category => "[" ++ category.text ++ "] " ++ message

/-- `statusMessage`. -/
def statusMessage (entry : QueueEntry) (message : String) : String :=
  let category := (classifyFailure message).category
  if willRetry deps entry message then
    taggedMessage message ++ " (auto-retry " ++ toString (entry.retryCount + 1) ++ "/" ++
      toString (retryBudget deps category) ++ ")"
  else taggedMessage message

/-- The metadata of the retry entry. -/
def retryMetadata (entry : QueueEntry) (category : FailureCategory) : EntryMetadata :=
  { entry.metadata.getD {} with
    infraRetryCount := some (entry.retryCount + 1)
    reason := some ("auto-retry after " ++ category.text ++ " failure") }

/-- The call that enqueues the retry entry. -/
def retryCall (entry : QueueEntry) (category : FailureCategory) : QueueCall :=
  .enqueue entry.modelId entry.source (some entry.priority) entry.requestedBy
    (some (retryMetadata entry category))

def failEntry (entry : QueueEntry) (message : String) (leaseToken : Option String) :
    SchedJs Unit := do
  let classification := classifyFailure message
  let applied ← writeTerminal entry.id .failed (some (statusMessage deps entry message)) leaseToken
  if !applied then return ()
  else
    recordModelFailure entry.modelId classification.category.text
    if !classification.retriable then quarantine entry.modelId classification.category
    if willRetry deps entry message then
      let _ ← attempt (queueCall (retryCall entry classification.category))
    return ()

/-! ## Finalization -/

def isHardStage2InfraFail (run : PipelineRun) : Bool :=
  match run.stage2Result with
  | none => false
  | some s2 =>
    match s2.status with
    | .error => true
    | .failed =>
      ((s2.suiteResults.getD []).filter fun sr => sr.status = "pass" ∨ sr.score.getD 0 ≥ 1) = []
    | _ => false

/-- The terminal status that `finalizePipeline` writes, with its message. -/
def finalVerdict (run : PipelineRun) : Status × Option String :=
  let stage2Failed := run.stage2Result.any fun r => r.status = .failed ∨ r.status = .error
  let stage1FailedPerf := run.benchmarkResult.any fun r =>
    r.status = .failed ∧ r.stage2Eligible = some true
  if stage2Failed then
    (.failed, some ((run.stage2Result.bind (·.reason)).getD "Stage 2 Kibana CI eval failed"))
  else if stage1FailedPerf then
    (.failed, some ((run.benchmarkResult.bind (·.error)).getD "Stage 1 perf gate failed"))
  else (.completed, none)

/-- Stage 3, unless it is absent or skipped. -/
def reasoningStage (run : PipelineRun) (queueEntryId : ℕ) (leaseToken : Option String) :
    SchedJs PipelineRun := do
  let skipStage3 := run.skipReasoning = some true ∨ isHardStage2InfraFail run
  if deps.stage3Worker ∧ ¬skipStage3 then
    reportQueueProgress queueEntryId .stage3Reasoning "Generating recommendation via EIS reasoning"
      none leaseToken
    let stage3Result ← extCall (.stage3Execute run)
    extCall (.saveReasoningResult stage3Result)
    return { run with stage3Result := some stage3Result }
  else return run

/-- The report, if it could be built; a failed save keeps it. -/
def buildReport (run : PipelineRun) : SchedJs (Option RecommendationReport) := do
  match ← attempt (extCall (.buildRecommendationReport run)) with
  | .error _ => return none
  | .ok report =>
    let _ ← attempt (extCall (.saveRecommendationReport report))
    return some report

/-- What `finalizePipeline` does before its terminal write. -/
def finalizeBefore (run : PipelineRun) (queueEntryId : ℕ) (leaseToken : Option String) :
    SchedJs (PipelineRun × Option RecommendationReport) := do
  let run ← reasoningStage deps run queueEntryId leaseToken
  reportQueueProgress queueEntryId .finalize "Building recommendation report" none leaseToken
  let report ← buildReport run
  return (run, report)

/-- What `finalizePipeline` does after its terminal write. -/
def finalizeAfter (run : PipelineRun) (report : Option RecommendationReport) : SchedJs Unit := do
  if deps.onModelCompleted then extCall (.onModelCompleted run.modelId)
  match report.filter fun _ => deps.slackNotifier with
  | some report =>
    let _ ← attempt (extCall (.notifyVerdict report))
    return ()
  | none => return ()

def finalizePipeline (run : PipelineRun) (queueEntryId : ℕ) (leaseToken : Option String) :
    SchedJs Unit := do
  let (run, report) ← finalizeBefore deps run queueEntryId leaseToken
  let verdict := finalVerdict run
  let _ ← writeTerminal queueEntryId verdict.1 verdict.2 leaseToken
  finalizeAfter deps run report

/-! ## Releasing the infrastructure -/

/-- Call the cleanup of the public endpoint, if there is one. -/
def releaseEndpoint : Option ℕ → SchedJs Unit
  | some cleanup => do
    let _ ← attempt (extCall (.cleanupEndpoint cleanup))
    return ()
  | none => return ()

/-- Stop the deployment, if it has a name. -/
def stopDeployment (deploymentName : Option String) : SchedJs Unit := do
  match truthy deploymentName with
  | some name =>
    let _ ← attempt (extCall (.stop name))
    return ()
  | none => return ()

def releaseInfrastructure (releasePublicEndpoint : Option ℕ) (deploymentName : Option String)
    (stopGuard : Bool) : SchedJs Unit := do
  if stopGuard then extFire .guardStop
  releaseEndpoint releasePublicEndpoint
  stopDeployment deploymentName

/-! ## Detached polls -/

/-- The messages that the detached poll takes for a transient network error. -/
def isTransientNetworkError (msg : String) : Bool :=
  includes msg "fetch failed" || includes msg "ECONNRESET" || includes msg "ETIMEDOUT" ||
  includes msg "ENOTFOUND" || includes (toLowerCase msg) "network"

/-- The first `then` handler of the chain. -/
def pollHandler (job : DetachedPoll) (stage2Result : Stage2Result) : SchedJs Unit := do
  extCall (.saveStage2Result stage2Result)
  finalizePipeline deps { job.run with stage2Result := some stage2Result } job.queueEntryId
    job.leaseToken

/-- The `catch` handler of the chain. -/
def pollCatch (job : DetachedPoll) (err : JsError) : SchedJs Unit := do
  if isTransientNetworkError err.message then return ()
  else
    let _ ← writeTerminal job.queueEntryId .failed (some err.message) job.leaseToken
    return ()

/-- The last `then` handler of the chain. -/
def pollRelease (job : DetachedPoll) : SchedJs Unit :=
  releaseInfrastructure job.infrastructure.releasePublicEndpoint
    (some job.infrastructure.deploymentName) job.guarded

/-- The poll and its handler. -/
def pollAndHandle (job : DetachedPoll) : SchedJs Unit := do
  let stage2Result ← pollWeeklyMatrix deps.config.buildkite job.run job.matrix
  pollHandler deps job stage2Result

/-- The promise chain of a detached poll. -/
def detachedPoll (job : DetachedPoll) : SchedJs Unit := do
  match ← attempt (pollAndHandle deps job) with
  | .ok () => pure ()
  | .error err => pollCatch job err
  pollRelease job

/-- The terminal write of an infrastructure guard whose deployment was taken over. -/
def guardTask (job : DetachedPoll) : SchedJs Unit := do
  let reason ← extCall .guardTakeover
  let _ ← writeTerminal job.queueEntryId .failed (some
    ("Stage 2 aborted: shared-VM takeover — " ++ reason ++
      ". Re-enqueue to retry once the GPU is free.")) job.leaseToken
  return ()

/-! ## CI evals -/

/-- `CIEvalRunResult`. -/
inductive CIEvalRunResult
  | aborted (reason : String)
  | deferred
  | finished (stage2Result : Option Stage2Result)
  deriving DecidableEq

/-- The reason for which a run without a public URL is aborted. -/
def noPublicUrlReason : String :=
  "CI evals require a public ngrok URL (set TUNNEL_ENABLED=true and NGROK_AUTH_TOKEN in .env)"

/-- The end of `runCIEvals`: start the poll, detached or not. -/
def startPoll (ciEvals : CIEvalsOptions) (run : PipelineRun) (infrastructure : Infrastructure)
    (leaseToken : Option String) (matrix : MatrixRun) : SchedJs CIEvalRunResult := do
  if ciEvals.detachPoll then
    let guarded := ciEvals.sshPool && infrastructure.localPort.any (· ≠ 0) &&
      infrastructure.sshForward
    let job := ⟨run, run.queueEntryId, infrastructure, leaseToken, matrix, guarded⟩
    if guarded then extFire (.guardStart job)
    own (.deferPoll job)
    return .deferred
  else
    let stage2Result ← pollWeeklyMatrix deps.config.buildkite run matrix
    return .finished (some stage2Result)

def runCIEvals (run : PipelineRun) (infrastructure : Infrastructure)
    (leaseToken : Option String) (skipSuiteIds : Option (List String)) :
    SchedJs CIEvalRunResult := do
  match deps.ciEvals, run.deployment with
  | some ciEvals, some deployment =>
    let smokeResult ← extCall (.smokeTest deployment.endpointUrl run.modelId)
    if !smokeResult.passed then
      return .aborted ("CI smoke test failed at tier " ++ smokeResult.tier)
    else
      match truthy deployment.publicEndpointUrl with
      | none => return .aborted noPublicUrlReason
      | some url =>
        let (connectorId, connectorJson) ← extCall (.buildConnectorPayload url run.modelId)
        let startedAt ← clock
        startPoll deps ciEvals run infrastructure leaseToken
          (ciMatrix deps.config.buildkite ⟨connectorId, connectorJson, startedAt⟩ skipSuiteIds)
  | _, _ => return .finished none

end Benchmarker
