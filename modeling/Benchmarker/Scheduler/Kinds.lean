import Benchmarker.Async.Vars
import Benchmarker.Scheduler.Poll

/-!
# What the methods of the scheduler may request

The requests that decide what becomes of an entry and its container, by kind, and for every method
the kinds that it may issue. Whatever the answers are, a method issues no request of another kind.

* `OpKind`, `SchedOp.kind`.
* `Only`: the methods' bodies and the kinds that they issue; one lemma for each method.
-/

namespace Benchmarker

open Js Async Async.Prog

/-- What a request means for an entry and its container. -/
inductive OpKind
  | plain
  /-- A terminal write. -/
  | write
  | enqueue
  /-- A failure counted against the model. -/
  | record
  | cooldown
  | stop
  /-- A resolution of a public endpoint, or a part of one. -/
  | tunnel
  /-- The release of a public endpoint or of a guard. -/
  | cleanup
  | deploy
  /-- What Stage 1 waits for between the deployment and its result, and does not catch. -/
  | measure
  /-- The `catch` block of Stage 1. -/
  | failed
  /-- A run of the local Stage 2 worker. -/
  | localEval
  | defer
  /-- The capacity check of `poll`. -/
  | room
  /-- What tells `poll` that an entry is not being processed: its own check, or the claim. -/
  | clear
  | beginRun
  | endRun
  deriving DecidableEq, Repr

/-- The entry that a terminal write is about. -/
@[simp] def SchedOp.terminalWrite : SchedOp → Option ℕ
  | .queue (.terminal c) => some c.id
  | .queue (.updateStatus id status _ _) => if status.terminal then some id else none
  | _ => none

@[simp] def SchedOp.kind (o : SchedOp) : OpKind :=
  if o.terminalWrite.isSome then .write
  else match o with
    | .queue (.enqueue _ _ _ _ _) => .enqueue
    | .own (.recordModelFailure _ _ _) => .record
    | .own (.setCooldown _ _) => .cooldown
    | .ext (.stop _) => .stop
    | .ext (.startResolve _) | .ext .awaitResolve | .ext .dropResolve | .ext (.resolveEndpoint _ _) =>
      .tunnel
    | .ext (.cleanupEndpoint _) | .ext .guardStop => .cleanup
    | .ext (.deploy _ _ _) => .deploy
    | .ext (.runBenchmarks _ _ _ _) | .ext (.toolCallBenchmark _) | .ext (.fetchModelConfig _) =>
      .measure
    | .stage1Failed _ => .failed
    | .ext (.stage2Execute _) => .localEval
    | .own (.deferPoll _) => .defer
    | .own (.hasRoom _) => .room
    | .own (.owns _) | .queue .dequeue => .clear
    | .own (.beginRun _ _) => .beginRun
    | .own (.endRun _) => .endRun
    | _ => .plain

theorem SchedOp.kind_of_terminalWrite {o : SchedOp} {id : ℕ} (h : o.terminalWrite = some id) :
    o.kind = .write := by
  unfold kind
  rw [h, Option.isSome_some, if_pos rfl]

/-- The body issues requests of the listed kinds only. -/
abbrev Only {α : Type} (ks : List OpKind) (x : SchedJs α) : Prop := x.run.Uses fun o => o.kind ∈ ks

/-- `Only`, for a body with the variables of `processEntry`. -/
abbrev OnlyFrom {α : Type} (ks : List OpKind) (x : EntryJs α) : Prop := UsesFrom (fun o => o.kind ∈ ks) x

variable {α β : Type} {ks ks' : List OpKind} {x : SchedJs α} {f : α → SchedJs β}

theorem Only.mono (h : Only ks x) (hks : ∀ k ∈ ks, k ∈ ks') : Only ks' x := Uses.mono h fun _ => hks _

theorem only_queueCall {c : QueueCall} (h : (SchedOp.queue c).kind ∈ ks) : Only ks (queueCall c) :=
  uses_request.mpr h

theorem only_extCall {c : ExtOp} (h : (SchedOp.ext c).kind ∈ ks) : Only ks (extCall c) :=
  uses_request.mpr h

theorem only_own {a : OwnOp} (h : (SchedOp.own a).kind ∈ ks) : Only ks (own a) :=
  uses_lift (uses_request.mpr h)

theorem only_clock (h : .plain ∈ ks) : Only ks clock := uses_lift (uses_request.mpr h)

theorem only_newRunId (h : .plain ∈ ks) : Only ks newRunId := uses_lift (uses_request.mpr h)

theorem only_extFire {c : ExtOp} (h : (SchedOp.ext c).kind ∈ ks) : Only ks (extFire c) :=
  uses_throws_bind (uses_attempt (only_extCall h)) fun _ => uses_throws_pure _

/-- A body that is attempted, with its outcome dropped. -/
theorem only_dropped (h : Only ks x) : Only ks (do let _ ← attempt x; return ()) :=
  uses_throws_bind (uses_attempt h) fun _ => uses_throws_pure _

/-! ## Stage 1 -/

section Methods

variable (deps : SchedulerDeps) (run : PipelineRun)

theorem only_reportQueueProgress {id : ℕ} {stage : ProgressStage} {detail : String}
    {steps : Option (ℕ × ℕ)} {leaseToken : Option String} (h : .plain ∈ ks) :
    Only ks (reportQueueProgress id stage detail steps leaseToken) :=
  uses_throws_bind (only_clock h) fun _ => only_dropped (only_queueCall h)

theorem only_stage1Overrides {modelId : String} (h : .plain ∈ ks) :
    Only ks (stage1Overrides deps modelId) := by
  refine uses_throws_bind (uses_attempt (only_extCall h)) fun r => ?_
  cases r <;> exact uses_throws_pure _

theorem only_stage1Prepare : Only [.plain, .deploy] (stage1Prepare deps run) := by
  refine uses_throws_bind (only_queueCall (by simp [Status.terminal])) fun _ => ?_
  refine uses_throws_bind (only_reportQueueProgress (by simp)) fun _ => ?_
  refine uses_throws_bind (only_extCall (by simp)) fun card => ?_
  refine uses_throws_bind (only_queueCall (by simp [Status.terminal])) fun _ => ?_
  refine uses_throws_bind (only_stage1Overrides deps (by simp)) fun _ => ?_
  refine uses_throws_bind (only_reportQueueProgress (by simp)) fun _ => ?_
  exact uses_throws_bind (only_extCall (by simp)) fun _ => uses_throws_pure _

theorem only_stage1ToolCalls {modelInfo : ModelInfo} :
    Only [.plain, .measure] (stage1ToolCalls deps run modelInfo) := by
  refine uses_ite ?_ (uses_throws_pure _)
  exact uses_throws_bind (only_reportQueueProgress (by simp)) fun _ => only_extCall (by simp)

theorem only_resolveContextWindow {modelInfo : ModelInfo} :
    Only [.plain, .measure] (resolveContextWindow run modelInfo) := by
  refine uses_throws_bind (only_extCall (by simp)) fun r => ?_
  cases r <;> exact uses_throws_pure _

theorem only_stage1Measure {startTime startedAt : Time} {modelInfo : ModelInfo}
    {deployment : EngineDeploymentResult} :
    Only [.plain, .measure] (stage1Measure deps run startTime startedAt modelInfo deployment) := by
  refine uses_throws_bind (only_reportQueueProgress (by simp)) fun _ => ?_
  refine uses_throws_bind (only_extCall (by simp)) fun bench => ?_
  refine uses_throws_bind (only_stage1ToolCalls deps run) fun toolCallResults => ?_
  refine uses_throws_bind (only_clock (by simp)) fun _ => ?_
  refine uses_throws_bind (uses_attempt (only_extCall (by simp))) fun _ => ?_
  refine uses_throws_bind (only_resolveContextWindow run) fun _ => ?_
  exact uses_throws_bind (only_clock (by simp)) fun _ => uses_throws_pure _

theorem only_stage1Catch {startedAt : Time} {err : JsError} :
    Only [.failed, .write] (stage1Catch run startedAt err) := by
  refine uses_throws_bind (uses_lift (uses_request.mpr (by simp))) fun _ => ?_
  exact uses_throws_bind (uses_attempt (only_queueCall (by simp [Status.terminal]))) fun _ => uses_throws_pure _

theorem only_execute :
    Only [.plain, .deploy, .measure, .failed, .write] (execute deps run) := by
  refine uses_throws_bind (only_clock (by simp)) fun startTime => ?_
  refine uses_throws_bind (only_clock (by simp)) fun startedAt => ?_
  refine uses_throws_bind (uses_attempt (uses_throws_bind ((only_stage1Prepare deps run).mono (by simp))
    fun p => (only_stage1Measure deps run).mono (by simp))) fun outcome => ?_
  cases outcome with
  | ok result =>
    exact uses_throws_bind (uses_throws_pure _) fun result =>
      uses_throws_bind (only_clock (by simp)) fun _ => uses_throws_pure _
  | error err =>
    exact uses_throws_bind ((only_stage1Catch run).mono (by simp)) fun result =>
      uses_throws_bind (only_clock (by simp)) fun _ => uses_throws_pure _

/-! ## CI evals -/

theorem only_resolveRunningRow {evalSuites : List String} {result : CIEvalResult}
    (suites : List String) {completed : List String} :
    Only [.plain] (resolveRunningRow evalSuites result suites completed) := by
  induction suites generalizing completed with
  | nil => exact uses_throws_pure _
  | cons suiteId suites ih =>
    exact uses_ite ih (uses_throws_bind (only_extCall (by simp)) fun _ => ih)

theorem only_resolveRunningRows {evalSuites : List String} (results : List CIEvalResult)
    {completed : List String} : Only [.plain] (resolveRunningRows evalSuites results completed) := by
  induction results generalizing completed with
  | nil => exact uses_throws_pure _
  | cons result results ih =>
    exact uses_ite ih (uses_throws_bind (only_resolveRunningRow _) fun _ => ih)

theorem only_resumeSkipSet {settings : BuildkiteSettings} {modelId : String} {entryId : ℕ}
    {resume : Bool} : Only [.plain] (resumeSkipSet settings modelId entryId resume) := by
  refine uses_ite (uses_throws_pure _) (uses_throws_bind (only_extCall (by simp)) fun _ => ?_)
  exact uses_throws_bind (only_resolveRunningRows _) fun _ => uses_throws_pure _

section Suite

variable {settings : BuildkiteSettings} {session : EvalSession}

theorem only_persistOnDemandResult {result : BuildkiteBuildResult} {n : ℕ} {suiteIds : List String} :
    Only [.plain] (persistOnDemandResult settings run session result n suiteIds) :=
  uses_throws_bind (only_clock (by simp)) fun _ => only_extCall (by simp)

theorem only_triggerAndWait {suite : String} {n : ℕ} :
    Only [.plain] (triggerAndWait settings run session suite n) := by
  refine uses_throws_bind (only_extCall (by simp)) fun r => ?_
  cases r with
  | error err => exact uses_throws_pure _
  | ok triggered =>
    refine uses_throws_bind (only_persistOnDemandResult run) fun _ => ?_
    refine uses_throws_bind (only_extCall (by simp)) fun _ => ?_
    exact uses_throws_bind (only_persistOnDemandResult run) fun _ => uses_throws_pure _

theorem only_skipBackoff : Only [.plain] (skipBackoff settings) :=
  uses_ite (only_extFire (by simp)) (uses_throws_pure _)

theorem only_suiteLoop {suite : String} {again : Option (ℕ → ℕ → SchedJs BuildkiteBuildResult)}
    (hagain : ∀ f ∈ again, ∀ m n, Only [.plain] (f m n)) (infraLeft : ℕ) {n : ℕ} :
    Only [.plain] (suiteLoop settings run session suite again infraLeft n) := by
  induction infraLeft generalizing n with
  | zero =>
    refine uses_throws_bind (only_triggerAndWait run) fun r => ?_
    cases r with
    | none => exact uses_throws_pure _
    | some buildResult =>
      refine uses_ite ?_ (uses_throws_pure _)
      cases again with
      | none => exact uses_throws_pure _
      | some f => exact hagain f rfl _ _
  | succ infraLeft ih =>
    refine uses_throws_bind (only_triggerAndWait run) fun r => ?_
    cases r with
    | none => exact uses_throws_pure _
    | some buildResult =>
      refine uses_ite (uses_throws_bind only_skipBackoff fun _ => ih) (uses_ite ?_ (uses_throws_pure _))
      cases again with
      | none => exact uses_throws_pure _
      | some f => exact hagain f rfl _ _

theorem only_runSuiteBuild {suite : String} :
    Only [.plain] (runSuiteBuild settings run session suite) := by
  refine only_suiteLoop run ?_ _
  intro f hf m n
  split_ifs at hf
  · obtain rfl := Option.some.inj hf
    exact only_suiteLoop run (by simp) m
  · cases hf

theorem only_firstSummary (artifacts : List BuildkiteArtifact) :
    Only [.plain] (firstSummary artifacts) := by
  induction artifacts with
  | nil => exact uses_throws_pure _
  | cons artifact artifacts ih =>
    refine uses_throws_bind (only_extCall (by simp)) fun body => ?_
    split
    · exact uses_throws_pure _
    · exact ih

theorem only_perSuiteStage2 (suites : List String) :
    Only [.plain] (perSuiteStage2 settings run session suites) := by
  induction suites with
  | nil => exact uses_throws_pure _
  | cons suite suites ih =>
    refine uses_throws_bind ?_ fun _ => uses_throws_bind ih fun _ => uses_throws_pure _
    refine uses_throws_bind (only_runSuiteBuild run) fun _ => ?_
    refine uses_throws_bind (only_firstSummary _) fun _ => ?_
    exact uses_throws_bind (only_clock (by simp)) fun _ => uses_throws_pure _

theorem only_pollWeeklyMatrix {matrix : MatrixRun} :
    Only [.plain] (pollWeeklyMatrix settings run matrix) := by
  refine uses_ite (uses_throws_bind (only_clock (by simp)) fun _ => uses_throws_pure _) ?_
  refine uses_throws_bind (only_perSuiteStage2 run _) fun results => ?_
  refine uses_ite (uses_throws_bind (only_clock (by simp)) fun _ => uses_throws_pure _) ?_
  split
  · exact uses_throws_pure _
  · exact uses_throw _

end Suite

/-! ## The steps of a pipeline run -/

theorem only_isModelCooldown {modelId : String} (h : .plain ∈ ks) :
    Only ks (isModelCooldown modelId) := by
  refine uses_throws_bind (only_clock h) fun _ => uses_throws_bind (only_own h) fun p => ?_
  obtain ⟨active, expired⟩ := p
  cases expired with
  | false => exact uses_throws_pure _
  | true => exact uses_throws_bind (only_extFire h) fun _ => uses_throws_pure _

theorem only_recordModelFailure {modelId errorType : String} :
    Only [.plain, .record] (recordModelFailure modelId errorType) := by
  refine uses_throws_bind (only_clock (by simp)) fun _ => ?_
  refine uses_throws_bind (only_own (by simp)) fun r => ?_
  cases r with
  | none => exact uses_throws_pure _
  | some p => exact only_extFire (by simp)

theorem only_quarantine {modelId : String} {category : FailureCategory} :
    Only [.plain, .cooldown] (quarantine modelId category) := by
  refine uses_throws_bind (only_isModelCooldown (by simp)) fun active => ?_
  refine uses_ite (uses_throws_pure _) (uses_throws_bind (only_clock (by simp)) fun _ => ?_)
  exact uses_throws_bind (only_own (by simp)) fun _ => only_extFire (by simp)

theorem only_writeTerminal {id : ℕ} {status : Status} {errorMessage leaseToken : Option String}
    (h : status.terminal = true) : Only [.write] (writeTerminal id status errorMessage leaseToken) := by
  unfold writeTerminal
  split
  · exact only_queueCall (by simp [h])
  · exact uses_throws_bind (only_queueCall (by simp)) fun _ => uses_throws_pure _

theorem only_failEntry {entry : QueueEntry} {message : String} {leaseToken : Option String} :
    Only [.plain, .write, .record, .cooldown, .enqueue] (failEntry deps entry message leaseToken) := by
  refine uses_throws_bind ((only_writeTerminal rfl).mono (by simp)) fun applied => ?_
  refine uses_ite (uses_throws_pure _) ?_
  refine uses_throws_bind (only_recordModelFailure.mono (by simp)) fun _ => ?_
  have hretry : Only [.plain, .write, .record, .cooldown, .enqueue]
      (if willRetry deps entry message then do
        let _ ← attempt (queueCall (retryCall entry (classifyFailure message).category))
        return ()
      else return ()) :=
    uses_ite (only_dropped (only_queueCall (by simp [retryCall]))) (uses_throws_pure _)
  exact uses_ite (uses_throws_bind (only_quarantine.mono (by simp)) fun _ => hretry) hretry

theorem only_reasoningStage {id : ℕ} {leaseToken : Option String} :
    Only [.plain] (reasoningStage deps run id leaseToken) := by
  refine uses_ite ?_ (uses_throws_pure _)
  refine uses_throws_bind (only_reportQueueProgress (by simp)) fun _ => ?_
  refine uses_throws_bind (only_extCall (by simp)) fun _ => ?_
  exact uses_throws_bind (only_extCall (by simp)) fun _ => uses_throws_pure _

theorem only_buildReport : Only [.plain] (buildReport run) := by
  refine uses_throws_bind (uses_attempt (only_extCall (by simp))) fun r => ?_
  cases r with
  | error err => exact uses_throws_pure _
  | ok report =>
    exact uses_throws_bind (uses_attempt (only_extCall (by simp))) fun _ => uses_throws_pure _

theorem only_finalizeBefore {id : ℕ} {leaseToken : Option String} :
    Only [.plain] (finalizeBefore deps run id leaseToken) := by
  refine uses_throws_bind (only_reasoningStage deps run) fun run => ?_
  refine uses_throws_bind (only_reportQueueProgress (by simp)) fun _ => ?_
  exact uses_throws_bind (only_buildReport run) fun _ => uses_throws_pure _

theorem only_finalizeAfter {report : Option RecommendationReport} :
    Only [.plain] (finalizeAfter deps run report) := by
  refine uses_ite (uses_throws_bind (only_extCall (by simp)) fun _ => ?_) ?_
  all_goals
    split
    · exact only_dropped (only_extCall (by simp))
    · exact uses_throws_pure _

theorem finalVerdict_terminal : (finalVerdict run).1.terminal = true := by
  dsimp only [finalVerdict]
  split_ifs <;> rfl

theorem only_finalizePipeline {id : ℕ} {leaseToken : Option String} :
    Only [.plain, .write] (finalizePipeline deps run id leaseToken) := by
  refine uses_throws_bind ((only_finalizeBefore deps run).mono (by simp)) fun p => ?_
  obtain ⟨run, report⟩ := p
  refine uses_throws_bind ((only_writeTerminal (finalVerdict_terminal run)).mono (by simp)) fun _ => ?_
  exact (only_finalizeAfter deps run).mono (by simp)

theorem only_releaseEndpoint {release : Option ℕ} :
    Only [.cleanup, .stop] (releaseEndpoint release) := by
  cases release with
  | none => exact uses_throws_pure _
  | some cleanup => exact only_dropped (only_extCall (by simp))

theorem only_stopDeployment {deploymentName : Option String} :
    Only [.cleanup, .stop] (stopDeployment deploymentName) := by
  unfold stopDeployment
  split
  · exact only_dropped (only_extCall (by simp))
  · exact uses_throws_pure _

theorem only_releaseInfrastructure {release : Option ℕ} {deploymentName : Option String}
    {stopGuard : Bool} :
    Only [.cleanup, .stop] (releaseInfrastructure release deploymentName stopGuard) := by
  have hrest : Only [.cleanup, .stop] (do
      releaseEndpoint release
      stopDeployment deploymentName) :=
    uses_throws_bind only_releaseEndpoint fun _ => only_stopDeployment
  exact uses_ite (uses_throws_bind (only_extFire (by simp)) fun _ => hrest) hrest

theorem only_pollHandler {job : DetachedPoll} {result : Stage2Result} :
    Only [.plain, .write] (pollHandler deps job result) :=
  uses_throws_bind (only_extCall (by simp)) fun _ => only_finalizePipeline deps _

theorem only_pollCatch {job : DetachedPoll} {err : JsError} : Only [.write] (pollCatch job err) :=
  uses_ite (uses_throws_pure _)
    (uses_throws_bind (only_writeTerminal rfl) fun _ => uses_throws_pure _)

theorem only_startPoll {ciEvals : CIEvalsOptions} {infrastructure : Infrastructure}
    {leaseToken : Option String} {matrix : MatrixRun} :
    Only [.plain, .defer] (startPoll deps ciEvals run infrastructure leaseToken matrix) := by
  refine uses_ite ?_ ?_
  · refine uses_ite (uses_throws_bind (only_extFire (by simp)) fun _ => ?_) ?_
    all_goals exact uses_throws_bind (only_own (by simp)) fun _ => uses_throws_pure _
  · exact uses_throws_bind ((only_pollWeeklyMatrix run).mono (by simp)) fun _ => uses_throws_pure _

theorem only_runCIEvals {infrastructure : Infrastructure} {leaseToken : Option String}
    {skipSuiteIds : Option (List String)} :
    Only [.plain, .defer] (runCIEvals deps run infrastructure leaseToken skipSuiteIds) := by
  unfold runCIEvals
  split
  · refine uses_throws_bind (only_extCall (by simp)) fun smoke => ?_
    refine uses_ite (uses_throws_pure _) ?_
    split
    · exact uses_throws_pure _
    · refine uses_throws_bind (only_extCall (by simp)) fun payload => ?_
      exact uses_throws_bind (only_clock (by simp)) fun _ => only_startPoll deps run
  · exact uses_throws_pure _

theorem only_pollAndHandle {job : DetachedPoll} : Only [.plain, .write] (pollAndHandle deps job) :=
  uses_throws_bind ((only_pollWeeklyMatrix _).mono (by simp)) fun _ => only_pollHandler deps

theorem only_detachedPoll {job : DetachedPoll} :
    Only [.plain, .write, .cleanup, .stop] (detachedPoll deps job) := by
  refine uses_throws_bind (uses_attempt ((only_pollAndHandle deps).mono (by simp))) fun r => ?_
  have hrest : Only [.plain, .write, .cleanup, .stop] (pollRelease job) :=
    only_releaseInfrastructure.mono (by simp)
  cases r with
  | ok a => exact hrest
  | error err => exact uses_throws_bind (only_pollCatch.mono (by simp)) fun _ => hrest

theorem only_guardTask {job : DetachedPoll} : Only [.plain, .write] (guardTask job) := by
  refine uses_throws_bind (only_extCall (by simp)) fun reason => ?_
  exact uses_throws_bind ((only_writeTerminal rfl).mono (by simp)) fun _ => uses_throws_pure _

/-! ## Processing an entry -/

section Entry

variable (entry : QueueEntry) (leaseToken : Option String)

theorem OnlyFrom.mono {y : EntryJs α} (h : OnlyFrom ks y) (hks : ∀ k ∈ ks, k ∈ ks') :
    OnlyFrom ks' y := UsesFrom.mono h fun _ => hks _

theorem onlyFrom_step (h : Only ks x) : OnlyFrom ks (step x) := fun _ =>
  uses_bind h fun _ => uses_ret _

theorem onlyFrom_theRun : OnlyFrom ks theRun :=
  usesFrom_bind usesFrom_get fun _ => usesFrom_pure _

theorem onlyFrom_modifyRun {g : PipelineRun → PipelineRun} : OnlyFrom ks (modifyRun g) :=
  usesFrom_modify _

theorem onlyFrom_skipStage1 {deploymentName endpointUrl : String} :
    OnlyFrom [.plain] (skipStage1 entry deploymentName endpointUrl) := by
  refine usesFrom_bind (onlyFrom_step (only_queueCall (by simp [Status.terminal]))) fun _ => ?_
  exact usesFrom_bind (onlyFrom_step (only_clock (by simp))) fun _ => onlyFrom_modifyRun

theorem onlyFrom_evalOnlyPhase : OnlyFrom [.plain] (evalOnlyPhase entry) := by
  unfold evalOnlyPhase
  split
  · exact usesFrom_bind (onlyFrom_skipStage1 entry) fun _ => usesFrom_pure _
  · exact usesFrom_pure _

theorem onlyFrom_resumePhase : OnlyFrom [.plain] (resumePhase entry) := by
  refine usesFrom_bind (onlyFrom_step (only_extCall (by simp))) fun r => ?_
  cases r with
  | none => exact usesFrom_pure _
  | some existing => exact usesFrom_bind (onlyFrom_skipStage1 entry) fun _ => usesFrom_pure _

theorem onlyFrom_skipPhase {resume : Bool} : OnlyFrom [.plain] (skipPhase entry resume) :=
  usesFrom_bind (onlyFrom_evalOnlyPhase entry) fun _ =>
    usesFrom_ite (onlyFrom_resumePhase entry) (usesFrom_pure _)

theorem only_startTunnel : Only [.tunnel] (startTunnel deps) :=
  uses_ite (only_extFire (by simp)) (uses_throws_pure _)

theorem only_dropTunnel : Only [.tunnel] (dropTunnel deps) :=
  uses_ite (only_extFire (by simp)) (uses_throws_pure _)

theorem only_resolveDeployment {deployment : DeploymentInfo} :
    Only [.tunnel, .cleanup] (resolveDeployment deps deployment) := by
  refine uses_ite ?_ (only_extCall (by simp))
  refine uses_throws_bind (only_extCall (by simp)) fun first => uses_ite (uses_throws_pure _) ?_
  exact uses_throws_bind (only_extCall (by simp)) fun _ => only_extCall (by simp)

theorem onlyFrom_tunnelPhase : OnlyFrom [.tunnel, .cleanup] (tunnelPhase deps) := by
  refine usesFrom_bind onlyFrom_theRun fun run => ?_
  split
  · exact usesFrom_pure _
  refine usesFrom_bind (onlyFrom_step (only_resolveDeployment deps)) fun resolved => ?_
  refine usesFrom_bind onlyFrom_modifyRun fun _ => ?_
  exact usesFrom_bind (usesFrom_modify _) fun _ => usesFrom_pure _

theorem onlyFrom_localSkipPhase {resume : Bool} :
    OnlyFrom [.plain] (localSkipPhase deps entry resume) := by
  refine usesFrom_ite (usesFrom_bind (onlyFrom_step (only_extCall (by simp))) fun _ => ?_)
    (usesFrom_pure _)
  exact onlyFrom_modifyRun

theorem onlyFrom_localGatePhase {resume : Bool} :
    OnlyFrom [.plain, .write, .record, .cooldown, .enqueue, .localEval]
      (localGatePhase deps entry resume leaseToken) := by
  refine usesFrom_ite ?_ (usesFrom_pure _)
  refine usesFrom_bind ((onlyFrom_localSkipPhase deps entry).mono (by simp)) fun _ => ?_
  refine usesFrom_bind onlyFrom_theRun fun run => ?_
  refine usesFrom_bind (onlyFrom_step (only_extCall (by simp))) fun result => ?_
  refine usesFrom_bind onlyFrom_modifyRun fun _ => ?_
  refine usesFrom_bind (onlyFrom_step (only_extCall (by simp))) fun _ => ?_
  refine usesFrom_ite ?_ (usesFrom_pure _)
  exact usesFrom_bind (onlyFrom_step ((only_failEntry deps).mono (by simp))) fun _ => usesFrom_pure _

theorem onlyFrom_ciEvalPhase {resume passed : Bool} {resolved : Option PublicEndpointResult} :
    OnlyFrom [.plain, .write, .record, .cooldown, .enqueue, .defer]
      (ciEvalPhase deps entry resume leaseToken passed resolved) := by
  refine usesFrom_bind onlyFrom_theRun fun run => ?_
  split
  · exact usesFrom_pure _
  refine usesFrom_bind (onlyFrom_step (only_resumeSkipSet.mono (by simp))) fun skip => ?_
  refine usesFrom_bind usesFrom_get fun vars => ?_
  refine usesFrom_bind (onlyFrom_step ((only_runCIEvals deps run).mono (by simp))) fun outcome => ?_
  split
  · exact usesFrom_bind (onlyFrom_step ((only_failEntry deps).mono (by simp))) fun _ => usesFrom_pure _
  · exact usesFrom_bind (usesFrom_modify _) fun _ => usesFrom_pure _
  · exact usesFrom_pure _
  · refine usesFrom_bind onlyFrom_modifyRun fun _ => ?_
    exact usesFrom_bind (onlyFrom_step (only_extCall (by simp))) fun _ => usesFrom_pure _

theorem onlyFrom_afterStage1 {resume : Bool} :
    OnlyFrom [.plain, .write, .record, .cooldown, .enqueue, .defer, .tunnel, .cleanup, .localEval]
      (afterStage1 deps entry resume leaseToken) := by
  refine usesFrom_bind ((onlyFrom_tunnelPhase deps).mono (by simp)) fun resolved => ?_
  refine usesFrom_bind ((onlyFrom_localGatePhase deps entry leaseToken).mono (by simp)) fun gate => ?_
  split
  · exact usesFrom_pure _
  refine usesFrom_bind ((onlyFrom_ciEvalPhase deps entry leaseToken).mono (by simp)) fun r => ?_
  split
  · refine usesFrom_bind onlyFrom_theRun fun run => ?_
    exact onlyFrom_step ((only_finalizePipeline deps run).mono (by simp))
  · exact usesFrom_pure _

theorem onlyFrom_stage1Outcome {result : Stage1Result} :
    OnlyFrom [.plain, .write, .record, .cooldown, .enqueue, .tunnel]
      (stage1Outcome deps entry leaseToken result) := by
  refine usesFrom_bind onlyFrom_modifyRun fun _ => usesFrom_ite (usesFrom_pure _) ?_
  refine usesFrom_bind (onlyFrom_step ((only_dropTunnel deps).mono (by simp))) fun _ => ?_
  exact usesFrom_bind (onlyFrom_step ((only_failEntry deps).mono (by simp))) fun _ => usesFrom_pure _

theorem onlyFrom_stage1Phase {stage1Skipped : Bool} :
    OnlyFrom [.plain, .deploy, .measure, .failed, .write, .record, .cooldown, .enqueue, .tunnel]
      (stage1Phase deps entry leaseToken stage1Skipped) := by
  refine usesFrom_ite (usesFrom_pure _) ?_
  refine usesFrom_bind (onlyFrom_step (only_queueCall (by simp [Status.terminal]))) fun _ => ?_
  refine usesFrom_bind onlyFrom_theRun fun run => ?_
  refine usesFrom_bind (onlyFrom_step ((only_execute deps run).mono (by simp))) fun result => ?_
  exact (onlyFrom_stage1Outcome deps entry leaseToken).mono (by simp)

/-- The kinds of requests that the `try` block of `processEntry` issues. -/
def bodyKinds : List OpKind :=
  [.plain, .deploy, .measure, .failed, .write, .record, .cooldown, .enqueue, .defer, .tunnel, .cleanup,
    .localEval]

/-- The kinds of requests that `processEntry` issues: only its `finally` block stops a deployment. -/
def entryKinds : List OpKind := .stop :: bodyKinds

theorem onlyFrom_entryBody {resume : Bool} :
    OnlyFrom bodyKinds (entryBody deps entry resume leaseToken) := by
  refine usesFrom_bind onlyFrom_modifyRun fun _ => ?_
  refine usesFrom_bind ((onlyFrom_skipPhase entry).mono (by simp [bodyKinds])) fun skipped => ?_
  refine usesFrom_bind (onlyFrom_step ((only_startTunnel deps).mono (by simp [bodyKinds]))) fun _ => ?_
  refine usesFrom_bind ((onlyFrom_stage1Phase deps entry leaseToken).mono (by simp [bodyKinds]))
    fun goesOn => ?_
  exact usesFrom_ite ((onlyFrom_afterStage1 deps entry leaseToken).mono (by simp [bodyKinds]))
    (usesFrom_pure _)

theorem only_entryCatch {outcome : Except JsError Unit} :
    Only [.plain, .write, .record, .cooldown, .enqueue] (entryCatch deps entry leaseToken outcome) := by
  cases outcome with
  | ok a => exact uses_throws_pure _
  | error err => exact only_failEntry deps

theorem only_entryFinally {vars : EntryVars} : Only [.cleanup, .stop] (entryFinally vars) :=
  uses_ite (uses_throws_pure _) only_releaseInfrastructure

theorem only_entryTry {resume : Bool} :
    Only entryKinds (entryTry deps entry resume leaseToken run) := by
  refine uses_throws_bind (uses_lift ?_) fun p => ?_
  · exact Uses.mono (onlyFrom_entryBody deps entry leaseToken _) fun _ => List.mem_cons_of_mem _
  obtain ⟨outcome, vars⟩ := p
  refine uses_throws_bind (uses_attempt ?_) fun caught => ?_
  · exact (only_entryCatch deps entry leaseToken).mono (by simp [entryKinds, bodyKinds])
  refine uses_throws_bind (only_entryFinally.mono (by simp [entryKinds, bodyKinds])) fun _ => ?_
  cases caught with
  | ok a => exact uses_throws_pure _
  | error err => exact uses_throw _

theorem only_processEntry {resume : Bool} : Only entryKinds (processEntry deps entry resume) := by
  refine uses_throws_bind (only_newRunId (by simp [entryKinds, bodyKinds])) fun runId => ?_
  refine uses_throws_bind (only_clock (by simp [entryKinds, bodyKinds])) fun startedAt => ?_
  refine uses_throws_bind (only_own (by simp [entryKinds, bodyKinds])) fun leaseToken => ?_
  split
  · exact (only_failEntry deps).mono (by simp [entryKinds, bodyKinds])
  · refine uses_throws_bind (only_isModelCooldown (by simp [entryKinds, bodyKinds])) fun active => ?_
    refine uses_ite (uses_throws_bind (only_queueCall ?_) fun _ => uses_throws_pure _) ?_
    · simp [entryKinds, bodyKinds, Status.terminal]
    · exact only_entryTry deps _ entry leaseToken

end Entry

/-! ## Polling -/

section Poll

theorem only_heartbeatEach (ids : List ℕ) : Only [.plain] (heartbeatEach ids) := by
  induction ids with
  | nil => exact uses_throws_pure _
  | cons id ids ih =>
    refine uses_throws_bind (only_own (by simp)) fun token => ?_
    cases token with
    | none => exact ih
    | some token => exact uses_throws_bind (uses_attempt (only_queueCall (by simp))) fun _ => ih

theorem only_heartbeatActiveEntries : Only [.plain] heartbeatActiveEntries :=
  uses_throws_bind (only_own (by simp)) fun ids => only_heartbeatEach ids

theorem only_reclaimStuckEntries : Only [.plain] (reclaimStuckEntries deps) := by
  refine uses_throws_bind (only_clock (by simp)) fun now => ?_
  refine uses_throws_bind (only_own (by simp)) fun owned => ?_
  cases owned with
  | none => exact uses_throws_pure _
  | some owned => exact only_dropped (only_queueCall (by simp))

theorem only_isDailyCostCapReached : Only [.plain] (isDailyCostCapReached deps) := by
  unfold isDailyCostCapReached
  split
  · exact uses_throws_pure _
  refine uses_throws_bind (only_clock (by simp)) fun now => ?_
  refine uses_throws_bind (uses_attempt (only_queueCall (by simp))) fun r => ?_
  cases r with
  | error err => exact uses_throws_pure _
  | ok n => exact uses_throws_bind (only_own (by simp)) fun _ => uses_throws_pure _

theorem only_retireIfRecencyExcluded {entry : QueueEntry} {token : Option String} :
    Only [.write] (retireIfRecencyExcluded deps entry token) := by
  refine uses_ite (uses_throws_pure _) ?_
  split
  · exact uses_throws_pure _
  split
  · exact uses_throws_bind (only_queueCall (by simp)) fun _ => uses_throws_pure _
  · exact uses_throws_bind (only_queueCall (by simp [Status.terminal])) fun _ => uses_throws_pure _

theorem only_keepLease {id : ℕ} {token : Option String} : Only [.plain] (keepLease id token) := by
  unfold keepLease
  split
  · exact only_own (by simp)
  · exact uses_throws_pure _

theorem only_rehydrate (active : List (String × Time)) : Only [.cooldown] (rehydrate active) := by
  induction active with
  | nil => exact uses_throws_pure _
  | cons p rest ih =>
    obtain ⟨modelId, expireAt⟩ := p
    exact uses_throws_bind (only_own (by simp)) fun _ => ih

theorem only_awaitPolls (ids : List ℕ) : Only [.plain] (awaitPolls ids) := by
  induction ids with
  | nil => exact uses_throws_pure _
  | cons id ids ih => exact uses_throws_bind (only_extCall (by simp)) fun _ => ih

theorem only_stop : Only [.plain] stop := by
  refine uses_throws_bind (only_own (by simp)) fun _ => ?_
  refine uses_throws_bind (only_extFire (by simp)) fun _ => ?_
  exact uses_throws_bind (only_own (by simp)) fun ids => only_awaitPolls ids

end Poll

end Methods

end Benchmarker
