import Benchmarker.Scheduler.Pipeline

/-!
# Processing one queue entry

`Scheduler.processEntry`. The variables that its `try`, `catch` and `finally` blocks share are
`EntryVars`; a throw keeps them.

* `EntryVars`, `EntryJs`: bodies with variables.
* `stage1Phase`, `tunnelPhase`, `localGatePhase`, `ciEvalPhase`: the parts of the `try` block.
* `entryBody`, `processEntry`.
-/

namespace Benchmarker

open Js Async Async.Prog

/-- The variables of `processEntry`. -/
structure EntryVars where
  run : PipelineRun
  releasePublicEndpoint : Option ℕ := none
  deferInfrastructureTeardown : Bool := false
  deriving DecidableEq

/-- A body that reads and writes the variables of `processEntry`. -/
abbrev EntryJs (α : Type) : Type := ExceptT JsError (StateT EntryVars (Prog SchedAns)) α

/-- A step that does not touch the variables. -/
def step {α : Type} (x : SchedJs α) : EntryJs α :=
  ExceptT.mk fun vars => x.run >>= fun r => pure (r, vars)

/-- The pipeline run. -/
def theRun : EntryJs PipelineRun := return (← get).run

def modifyRun (f : PipelineRun → PipelineRun) : EntryJs Unit :=
  modify fun vars => { vars with run := f vars.run }

section Entry

variable (deps : SchedulerDeps) (entry : QueueEntry) (resume : Bool) (leaseToken : Option String)

/-! ## Stage 1 -/

/-- Use a deployment that is already there in the place of Stage 1. -/
def skipStage1 (deploymentName endpointUrl : String) : EntryJs Unit := do
  let _ ← step (queueCall (.updateStatus entry.id .benchmarking none none))
  let now ← step clock
  modifyRun fun run => { run with
    benchmarkResult := some { freshStage1Result run now with
      status := .skipped
      deploymentName := some deploymentName
      endpointUrl := some endpointUrl
      stage2Eligible := some true }
    deployment := some ⟨deploymentName, endpointUrl, none⟩ }

/-- An eval-only entry brings its endpoint. -/
def evalOnlyPhase : EntryJs Bool := do
  match (entry.metadata.filter (·.skipStage1 = some true)).bind fun m => truthy m.endpointUrl with
  | some endpointUrl =>
    skipStage1 entry (((entry.metadata.bind (·.deploymentName)).getD
      ("eval-only-" ++ entry.modelId))) endpointUrl
    return true
  | none => return false

/-- A resumed entry uses its deployment if that is still running. -/
def resumePhase : EntryJs Bool := do
  match ← step (extCall (.findRunningDeployment entry.modelId)) with
  | some existing =>
    skipStage1 entry existing.deploymentName existing.endpointUrl
    return true
  | none => return false

/-- Whether Stage 1 is skipped. -/
def skipPhase : EntryJs Bool := do
  let evalOnly ← evalOnlyPhase entry
  if resume && !evalOnly then resumePhase entry else return evalOnly

/-- `needsTunnel`. -/
def SchedulerDeps.needsTunnel : Bool := deps.ciEvalsEnabled && deps.config.tunnelEnabled

/-- The deployment of a Stage 1 result. -/
def Stage1Result.deployment (result : Stage1Result) : Option DeploymentInfo :=
  match truthy result.endpointUrl, truthy result.deploymentName with
  | some endpointUrl, some deploymentName => some ⟨deploymentName, endpointUrl, none⟩
  | _, _ => none

/-- Start resolving the tunnel before Stage 1, if there will be one. -/
def startTunnel : SchedJs Unit :=
  if deps.needsTunnel then extFire (.startResolve ("http://" ++ deps.config.sshHost ++ ":8000"))
  else pure ()

/-- Release the tunnel once it is resolved, if one was started. -/
def dropTunnel : SchedJs Unit := if deps.needsTunnel then extFire .dropResolve else pure ()

/-- What `processEntry` does with a Stage 1 result; `false` when the entry has failed. -/
def stage1Outcome (result : Stage1Result) : EntryJs Bool := do
  modifyRun fun run => { run with
    benchmarkResult := some result
    deployment := result.deployment.or run.deployment }
  if result.status = .success ∨ (result.stage2Eligible = some true ∧ deps.stage2Worker) then
    return true
  else
    step (dropTunnel deps)
    step (failEntry deps entry (result.error.getD "Stage 1 benchmark failed") leaseToken)
    return false

/-- Run Stage 1, unless it is skipped; `false` when the entry has failed. -/
def stage1Phase (stage1Skipped : Bool) : EntryJs Bool := do
  if stage1Skipped then return true
  else
    let _ ← step (queueCall (.updateStatus entry.id .deploying none none))
    let result ← step (execute deps (← theRun))
    stage1Outcome deps entry leaseToken result

/-! ## Stage 2 -/

/-- Resolve the endpoint of a deployment; a tunnel that was started too early is resolved again. -/
def resolveDeployment (deployment : DeploymentInfo) : SchedJs PublicEndpointResult := do
  if deps.needsTunnel then
    let first ← extCall .awaitResolve
    if first.tunneled then return first
    else
      extCall (.cleanupEndpoint first.cleanup)
      extCall (.resolveEndpoint deployment.endpointUrl true)
  else extCall (.resolveEndpoint deployment.endpointUrl false)

/-- Make the deployment reachable; the resolved endpoint, when there is a deployment. -/
def tunnelPhase : EntryJs (Option PublicEndpointResult) := do
  match (← theRun).deployment with
  | none => return none
  | some deployment =>
    let resolved ← step (resolveDeployment deps deployment)
    modifyRun fun run => { run with deployment := run.deployment.map fun d => { d with
      endpointUrl := resolved.endpointUrl
      publicEndpointUrl := resolved.publicEndpointUrl } }
    modify fun vars => { vars with releasePublicEndpoint := some resolved.cleanup }
    return some resolved

/-- The suites that a local batch run may skip. -/
def localSkipPhase : EntryJs Unit := do
  let resumes := resume || (entry.metadata.bind (·.skipPassedSuites)) = some true
  if resumes && deps.config.stage2Local.useBatchRunner then
    let skip ← step (extCall (.resolveSkipLocalBatchSuites deps.config.stage2Local.skillDevPluginDir
      entry.modelId entry.id (deps.config.stage2Local.evalSuites.getD [])))
    modifyRun fun run => { run with skipStage2Suites := some skip }

/-- The local Stage 2 gate: whether it passed, or `none` when the entry has failed. -/
def localGatePhase : EntryJs (Option Bool) := do
  if deps.stage2Worker then
    localSkipPhase deps entry resume
    let stage2Result ← step (extCall (.stage2Execute (← theRun)))
    modifyRun fun run => { run with stage2Result := some stage2Result }
    step (extCall (.saveStage2Result stage2Result))
    if stage2Result.status = .error then
      step (failEntry deps entry (stage2Result.reason.getD "Stage 2 eval error") leaseToken)
      return none
    else return some (stage2Result.status = .success)
  else return some true

/-- The infrastructure that `processEntry` hands to `runCIEvals`. -/
def handedInfrastructure (deploymentName : String) (release : Option ℕ)
    (resolved : Option PublicEndpointResult) : Infrastructure where
  releasePublicEndpoint := release
  deploymentName := deploymentName
  localPort := resolved.bind (·.localPort)
  sshForward := resolved.any (·.sshForward)
  tunnelService := resolved.any (·.tunnelService)
  publicEndpointUrl := resolved.bind (·.publicEndpointUrl)

/-- The CI evals: whether their poll was deferred, or `none` when the entry has failed. -/
def ciEvalPhase (localGatePassed : Bool) (resolved : Option PublicEndpointResult) :
    EntryJs (Option Bool) := do
  let run ← theRun
  match run.deployment.filter fun _ => deps.ciEvalsEnabled && localGatePassed &&
      (run.benchmarkResult.bind (·.stage2Eligible)) ≠ some false with
  | none => return some false
  | some deployment =>
    let skip ← step (resumeSkipSet deps.config.buildkite run.modelId entry.id resume)
    let release := (← get).releasePublicEndpoint
    match ← step (runCIEvals deps run
      (handedInfrastructure deployment.deploymentName release resolved) leaseToken skip) with
    | .aborted reason =>
      step (failEntry deps entry reason leaseToken)
      return none
    | .deferred =>
      modify fun vars => { vars with
        deferInfrastructureTeardown := true
        releasePublicEndpoint := none }
      return some true
    | .finished none => return some false
    | .finished (some stage2Result) =>
      modifyRun fun run => { run with stage2Result := some stage2Result }
      step (extCall (.saveStage2Result stage2Result))
      return some false

/-! ## The entry -/

/-- What follows Stage 1 in the `try` block. -/
def afterStage1 : EntryJs Unit := do
  let resolved ← tunnelPhase deps
  match ← localGatePhase deps entry resume leaseToken with
  | none => return ()
  | some localGatePassed =>
    match ← ciEvalPhase deps entry resume leaseToken localGatePassed resolved with
    | some false => step (finalizePipeline deps (← theRun) entry.id leaseToken)
    | _ => return ()

/-- The `try` block of `processEntry`. -/
def entryBody : EntryJs Unit := do
  modifyRun fun run => { run with
    skipReasoning := some ((entry.metadata.bind (·.skipReasoning)) = some true) }
  let stage1Skipped ← skipPhase entry resume
  step (startTunnel deps)
  let goesOn ← stage1Phase deps entry leaseToken stage1Skipped
  if goesOn then afterStage1 deps entry resume leaseToken

/-- The `catch` block of `processEntry`. -/
def entryCatch (outcome : Except JsError Unit) : SchedJs Unit :=
  match outcome with
  | .ok () => pure ()
  | .error err => failEntry deps entry err.message leaseToken

/-- The `finally` block of `processEntry`. -/
def entryFinally (vars : EntryVars) : SchedJs Unit :=
  if vars.deferInfrastructureTeardown then pure ()
  else releaseInfrastructure vars.releasePublicEndpoint
    (vars.run.deployment.map (·.deploymentName)) false

/-- The `try`, `catch` and `finally` blocks of `processEntry`. -/
def entryTry (run : PipelineRun) : SchedJs Unit := do
  let (outcome, vars) ← ExceptT.lift
    ((entryBody deps entry resume leaseToken).run.run { run := run })
  let caught ← attempt (entryCatch deps entry leaseToken outcome)
  entryFinally vars
  match caught with
  | .ok () => return ()
  | .error err => throw err

/-- `processEntry`. -/
def processEntry : SchedJs Unit := do
  let runId ← newRunId
  let startedAt ← clock
  let leaseToken ← own (.leaseOf entry.id)
  match checkModelFormatCompatibility entry.modelId deps.config.vmHardwareProfile.gpuType with
  | .incompatible reason => failEntry deps entry ("Format incompatible: " ++ reason) leaseToken
  | .compatible _ =>
    if ← isModelCooldown entry.modelId then
      let _ ← queueCall (.updateStatus entry.id .cancelled none none)
      return ()
    else
      entryTry deps entry resume leaseToken {
        runId := runId
        modelId := entry.modelId
        queueEntryId := entry.id
        startedAt := startedAt }

end Entry

end Benchmarker
