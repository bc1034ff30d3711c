import Benchmarker.Async.Rejections
import Benchmarker.Scheduler.Teardown

/-!
# Rejected saves

The scheduler and Stage 1 save their results in a store beside the queue. Two of the saves are awaited
in a `try` block of their own, and their rejections are dropped. The others are awaited bare, so a
rejection is thrown like any failure of the pipeline: the `catch` block of `processEntry`, or the
`catch` handler of a detached poll, then fails an entry whose evaluation has finished.

* `ExtOp.saves`, `ExtOp.guarded`, `savePolicy`. `outcomeOf`: the requests that decide what becomes of
  the entry and its model.
* `Calm savePolicy`, `Throws savePolicy`: the methods without and with bare saves.
* **`save_fails_entry`**: the same run with one more rejected save fails an entry that was completed.
* **`savesHarmless_iff`**: exactly when rejected saves do not matter.
-/

namespace Benchmarker

open Js Async Async.Prog

/-- The calls that save a result in the store. -/
def ExtOp.saves : ExtOp → Bool
  | .saveBenchmark _ | .saveStage2Result _ | .saveCIEvalResult _ | .saveReasoningResult _
  | .saveRecommendationReport _ => true
  | _ => false

/-- The saves whose rejection is caught where they are awaited. -/
def ExtOp.guarded : ExtOp → Bool
  | .saveBenchmark _ | .saveRecommendationReport _ => true
  | _ => false

/-- How rejected saves are treated. -/
def savePolicy : Policy SchedAns JsError where
  rejects
    | .ext x, r, err => x.saves = true ∧ r = .error err
    | _, _, _ => False
  dropped
    | .ext x => x.guarded = true
    | _ => False

/-- The requests that decide what becomes of the entry and its model: its terminal writes, the failures
and the cooldowns of the model, and the retry entries. -/
def outcomeOf {W : Type} (es : List (Event SchedAns W)) : List SchedOp :=
  outcome (fun o => o.kind ∈ [.write, .record, .cooldown, .enqueue]) es

/-- A save without a `try` block of its own has succeeded. -/
def bareSave {W : Type} : Event SchedAns W → Bool
  | ⟨.ext x, .ok _, _, _⟩ => x.saves && !x.guarded
  | _ => false

theorem exposed_iff {W : Type} {e : Event SchedAns W} :
    savePolicy.Exposed e ↔ bareSave e = true := by
  obtain ⟨o, r, pre, post⟩ := e
  cases o with
  | ext x =>
    cases r with
    | ok v => simpa [Policy.Exposed, savePolicy, bareSave, and_comm] using fun _ _ => ⟨⟨"", none⟩⟩
    | error err =>
      simp only [Policy.Exposed, savePolicy, bareSave, Bool.false_eq_true, iff_false]
      rintro ⟨-, ⟨r, err', hs, -⟩, hno⟩
      exact hno err ⟨hs, rfl⟩
  | _ => simp [Policy.Exposed, savePolicy, bareSave]

theorem rejects_again (o : SchedOp) (r : SchedAns o) (e : JsError) (h : savePolicy.rejects o r e)
    (e' : JsError) : ∃ r', savePolicy.rejects o r' e' := by
  cases o with
  | ext x => exact ⟨.error e', h.1, rfl⟩
  | _ => exact h.elim

/-! ## Bodies without bare saves -/

section Methods

variable {α β : Type} {deps : SchedulerDeps} {run : PipelineRun} {entry : QueueEntry}
variable {leaseToken : Option String}

theorem ExtOp.saves_of_guarded {x : ExtOp} (h : x.guarded = true) : x.saves = true := by
  unfold guarded at h
  split at h
  · rfl
  · rfl
  · cases h

theorem ExtOp.kind_of_saves {x : ExtOp} (h : x.saves = true) : (SchedOp.ext x).kind = .plain := by
  unfold saves at h
  split at h
  all_goals first
    | rfl
    | cases h

theorem accepts_ext {x : ExtOp} (h : x.saves = false) : savePolicy.Accepts (.ext x) := by
  refine ⟨fun hd => ?_, fun r e hr => ?_⟩
  · rw [ExtOp.saves_of_guarded hd] at h
    cases h
  · rw [hr.1] at h
    cases h

theorem accepts_of_kind {o : SchedOp} (h : o.kind ≠ .plain) : savePolicy.Accepts o := by
  cases o with
  | ext x => exact accepts_ext (Bool.eq_false_iff.mpr fun hs => h (ExtOp.kind_of_saves hs))
  | _ => exact ⟨nofun, nofun⟩

theorem calm_of_only {ks : List OpKind} {x : SchedJs α} (h : Only ks x) (hks : .plain ∉ ks) :
    Calm savePolicy x :=
  calm_of_uses (Uses.mono h fun _ ho => accepts_of_kind fun hk => hks (hk ▸ ho))

theorem calm_queueCall {c : QueueCall} : Calm savePolicy (queueCall c) :=
  reacts_await ⟨nofun, nofun⟩ fun _ => trivial

theorem calm_extCall {x : ExtOp} (h : x.saves = false) : Calm savePolicy (extCall x) :=
  reacts_await (accepts_ext h) fun _ => trivial

theorem calm_own {a : OwnOp} : Calm savePolicy (own a) := reacts_await ⟨nofun, nofun⟩ fun _ => trivial

theorem calm_clock : Calm savePolicy clock := reacts_await ⟨nofun, nofun⟩ fun _ => trivial

theorem calm_newRunId : Calm savePolicy newRunId := reacts_await ⟨nofun, nofun⟩ fun _ => trivial

theorem calm_extFire {x : ExtOp} (h : x.saves = false) : Calm savePolicy (extFire x) :=
  calm_bind (calm_attempt (calm_extCall h)) fun _ => calm_pure _

/-- A save with a `try` block of its own. -/
theorem calm_save {x : ExtOp} {y : SchedJs α} (h : x.guarded = true) (hy : Calm savePolicy y) :
    Calm savePolicy (attempt (extCall x) >>= fun _ => y) :=
  calm_dropped rfl (fun r => ⟨r, rfl⟩) h hy

/-- A bare save. -/
theorem throws_save {x : ExtOp} (h : x.guarded = false) : Throws savePolicy (extCall x) := by
  refine ⟨fun hd => ?_, fun _ r e hr => ?_, fun _ => trivial⟩
  · have hg : x.guarded = true := hd
    rw [h] at hg
    cases hg
  · obtain ⟨-, rfl⟩ := hr
    rfl

/-! ## Stage 1 -/

theorem calm_reportQueueProgress {id : ℕ} {stage : ProgressStage} {detail : String}
    {steps : Option (ℕ × ℕ)} : Calm savePolicy (reportQueueProgress id stage detail steps leaseToken) :=
  calm_bind calm_clock fun _ => calm_bind (calm_attempt calm_queueCall) fun _ => calm_pure _

theorem calm_stage1Overrides {modelId : String} : Calm savePolicy (stage1Overrides deps modelId) := by
  refine calm_bind (calm_attempt (calm_extCall rfl)) fun r => ?_
  cases r <;> exact calm_pure _

theorem calm_stage1Prepare : Calm savePolicy (stage1Prepare deps run) := by
  refine calm_bind calm_queueCall fun _ => ?_
  refine calm_bind calm_reportQueueProgress fun _ => ?_
  refine calm_bind (calm_extCall rfl) fun card => ?_
  refine calm_bind calm_queueCall fun _ => ?_
  refine calm_bind calm_stage1Overrides fun overrides => ?_
  refine calm_bind calm_reportQueueProgress fun _ => ?_
  exact calm_bind (calm_extCall rfl) fun deployment => calm_pure _

theorem calm_stage1Measure {startTime startedAt : Time} {modelInfo : ModelInfo}
    {deployment : EngineDeploymentResult} :
    Calm savePolicy (stage1Measure deps run startTime startedAt modelInfo deployment) := by
  refine calm_bind calm_reportQueueProgress fun _ => ?_
  refine calm_bind (calm_extCall rfl) fun bench => ?_
  refine calm_bind ?_ fun toolCallResults => ?_
  · exact calm_ite (calm_bind calm_reportQueueProgress fun _ => calm_extCall rfl) (calm_pure _)
  refine calm_bind calm_clock fun timestamp => ?_
  refine calm_save rfl ?_
  refine calm_bind ?_ fun contextWindow => calm_bind calm_clock fun _ => calm_pure _
  refine calm_bind (calm_extCall rfl) fun r => ?_
  cases r <;> exact calm_pure _

theorem calm_execute : Calm savePolicy (execute deps run) := by
  refine calm_bind calm_clock fun startTime => calm_bind calm_clock fun startedAt => ?_
  refine calm_bind (calm_attempt ?_) fun outcome => ?_
  · exact calm_bind calm_stage1Prepare fun p => calm_stage1Measure
  cases outcome with
  | ok result =>
    exact calm_bind (calm_pure _) fun result => calm_bind calm_clock fun _ => calm_pure _
  | error err =>
    refine calm_bind (calm_of_only (only_stage1Catch run) (by simp)) fun result => ?_
    exact calm_bind calm_clock fun _ => calm_pure _

/-! ## CI evals -/

section Suite

variable {settings : BuildkiteSettings} {session : EvalSession}

theorem calm_resolveRunningRow {evalSuites : List String} {result : CIEvalResult}
    (suites : List String) {completed : List String} :
    Calm savePolicy (resolveRunningRow evalSuites result suites completed) := by
  induction suites generalizing completed with
  | nil => exact calm_pure _
  | cons suiteId suites ih => exact calm_ite ih (calm_bind (calm_extCall rfl) fun _ => ih)

theorem calm_resolveRunningRows {evalSuites : List String} (results : List CIEvalResult)
    {completed : List String} :
    Calm savePolicy (resolveRunningRows evalSuites results completed) := by
  induction results generalizing completed with
  | nil => exact calm_pure _
  | cons result results ih =>
    exact calm_ite ih (calm_bind (calm_resolveRunningRow _) fun _ => ih)

theorem calm_resumeSkipSet {modelId : String} {entryId : ℕ} {resume : Bool} :
    Calm savePolicy (resumeSkipSet settings modelId entryId resume) := by
  refine calm_ite (calm_pure _) (calm_bind (calm_extCall rfl) fun _ => ?_)
  exact calm_bind (calm_resolveRunningRows _) fun _ => calm_pure _

theorem throws_persistOnDemandResult {result : BuildkiteBuildResult} {n : ℕ}
    {suiteIds : List String} :
    Throws savePolicy (persistOnDemandResult settings run session result n suiteIds) :=
  throws_bind calm_clock.throws fun _ => throws_save rfl

theorem throws_triggerAndWait {suite : String} {n : ℕ} :
    Throws savePolicy (triggerAndWait settings run session suite n) := by
  refine throws_bind (calm_extCall rfl).throws fun r => ?_
  cases r with
  | error err => exact (calm_pure _).throws
  | ok triggered =>
    refine throws_bind throws_persistOnDemandResult fun _ => ?_
    refine throws_bind (calm_extCall rfl).throws fun _ => ?_
    exact throws_bind throws_persistOnDemandResult fun _ => (calm_pure _).throws

theorem calm_skipBackoff : Calm savePolicy (skipBackoff settings) :=
  calm_ite (calm_extFire rfl) (calm_pure _)

theorem throws_suiteLoop {suite : String} {again : Option (ℕ → ℕ → SchedJs BuildkiteBuildResult)}
    (hagain : ∀ f ∈ again, ∀ m n, Throws savePolicy (f m n)) (infraLeft : ℕ) {n : ℕ} :
    Throws savePolicy (suiteLoop settings run session suite again infraLeft n) := by
  induction infraLeft generalizing n with
  | zero =>
    refine throws_bind throws_triggerAndWait fun r => ?_
    cases r with
    | none => exact (calm_pure _).throws
    | some buildResult =>
      refine throws_ite ?_ (calm_pure _).throws
      cases again with
      | none => exact (calm_pure _).throws
      | some f => exact hagain f rfl _ _
  | succ infraLeft ih =>
    refine throws_bind throws_triggerAndWait fun r => ?_
    cases r with
    | none => exact (calm_pure _).throws
    | some buildResult =>
      refine throws_ite (throws_bind calm_skipBackoff.throws fun _ => ih) (throws_ite ?_ (calm_pure _).throws)
      cases again with
      | none => exact (calm_pure _).throws
      | some f => exact hagain f rfl _ _

theorem throws_runSuiteBuild {suite : String} :
    Throws savePolicy (runSuiteBuild settings run session suite) := by
  refine throws_suiteLoop ?_ _
  intro f hf m n
  split_ifs at hf
  · obtain rfl := Option.some.inj hf
    exact throws_suiteLoop (by simp) m
  · cases hf

theorem calm_firstSummary (artifacts : List BuildkiteArtifact) :
    Calm savePolicy (firstSummary artifacts) := by
  induction artifacts with
  | nil => exact calm_pure _
  | cons artifact artifacts ih =>
    refine calm_bind (calm_extCall rfl) fun body => ?_
    split
    · exact calm_pure _
    · exact ih

theorem throws_perSuiteStage2 (suites : List String) :
    Throws savePolicy (perSuiteStage2 settings run session suites) := by
  induction suites with
  | nil => exact (calm_pure _).throws
  | cons suite suites ih =>
    refine throws_bind ?_ fun _ => throws_bind ih fun _ => (calm_pure _).throws
    refine throws_bind throws_runSuiteBuild fun _ => ?_
    refine throws_bind (calm_firstSummary _).throws fun _ => ?_
    exact throws_bind calm_clock.throws fun _ => (calm_pure _).throws

theorem throws_pollWeeklyMatrix {matrix : MatrixRun} :
    Throws savePolicy (pollWeeklyMatrix settings run matrix) := by
  refine throws_ite (throws_bind calm_clock.throws fun _ => (calm_pure _).throws) ?_
  refine throws_bind (throws_perSuiteStage2 _) fun results => ?_
  refine throws_ite (throws_bind calm_clock.throws fun _ => (calm_pure _).throws) ?_
  split
  · exact (calm_pure _).throws
  · exact (calm_throw _).throws

end Suite

/-! ## The steps of a pipeline run -/

theorem calm_isModelCooldown {modelId : String} : Calm savePolicy (isModelCooldown modelId) := by
  refine calm_bind calm_clock fun _ => calm_bind calm_own fun p => ?_
  obtain ⟨active, expired⟩ := p
  cases expired with
  | false => exact calm_pure _
  | true => exact calm_bind (calm_extFire rfl) fun _ => calm_pure _

theorem calm_recordModelFailure {modelId errorType : String} :
    Calm savePolicy (recordModelFailure modelId errorType) := by
  refine calm_bind calm_clock fun _ => calm_bind calm_own fun r => ?_
  cases r with
  | none => exact calm_pure _
  | some p => exact calm_extFire rfl

theorem calm_quarantine {modelId : String} {category : FailureCategory} :
    Calm savePolicy (quarantine modelId category) := by
  refine calm_bind calm_isModelCooldown fun active => ?_
  refine calm_ite (calm_pure _) (calm_bind calm_clock fun _ => ?_)
  exact calm_bind calm_own fun _ => calm_extFire rfl

theorem calm_writeTerminal {id : ℕ} {status : Status} {errorMessage : Option String} :
    Calm savePolicy (writeTerminal id status errorMessage leaseToken) := by
  unfold writeTerminal
  split
  · exact calm_queueCall
  · exact calm_bind calm_queueCall fun _ => calm_pure _

theorem calm_failEntry {message : String} :
    Calm savePolicy (failEntry deps entry message leaseToken) := by
  refine calm_bind calm_writeTerminal fun applied => calm_ite (calm_pure _) ?_
  refine calm_bind calm_recordModelFailure fun _ => ?_
  have hretry : Calm savePolicy (if willRetry deps entry message then do
      let _ ← attempt (queueCall (retryCall entry (classifyFailure message).category))
      return ()
    else return ()) :=
    calm_ite (calm_bind (calm_attempt calm_queueCall) fun _ => calm_pure _) (calm_pure _)
  exact calm_ite (calm_bind calm_quarantine fun _ => hretry) hretry

theorem throws_reasoningStage {id : ℕ} : Throws savePolicy (reasoningStage deps run id leaseToken) := by
  refine throws_ite ?_ (calm_pure _).throws
  refine throws_bind calm_reportQueueProgress.throws fun _ => ?_
  refine throws_bind (calm_extCall rfl).throws fun _ => ?_
  exact throws_bind (throws_save rfl) fun _ => (calm_pure _).throws

theorem calm_buildReport : Calm savePolicy (buildReport run) := by
  refine calm_bind (calm_attempt (calm_extCall rfl)) fun r => ?_
  cases r with
  | error err => exact calm_pure _
  | ok report => exact calm_save rfl (calm_pure _)

theorem calm_finalizeAfter {report : Option RecommendationReport} :
    Calm savePolicy (finalizeAfter deps run report) := by
  refine calm_ite (calm_bind (calm_extCall rfl) fun _ => ?_) ?_
  all_goals
    split
    · exact calm_bind (calm_attempt (calm_extCall rfl)) fun _ => calm_pure _
    · exact calm_pure _

theorem throws_finalizePipeline {id : ℕ} :
    Throws savePolicy (finalizePipeline deps run id leaseToken) := by
  refine throws_bind ?_ fun p => ?_
  · refine throws_bind throws_reasoningStage fun run => ?_
    refine throws_bind calm_reportQueueProgress.throws fun _ => ?_
    exact throws_bind calm_buildReport.throws fun _ => (calm_pure _).throws
  · exact throws_bind calm_writeTerminal.throws fun _ => calm_finalizeAfter.throws

theorem throws_startPoll {ciEvals : CIEvalsOptions} {infrastructure : Infrastructure}
    {matrix : MatrixRun} :
    Throws savePolicy (startPoll deps ciEvals run infrastructure leaseToken matrix) := by
  refine throws_ite ?_ ?_
  · refine throws_ite (throws_bind (calm_extFire rfl).throws fun _ => ?_) ?_
    all_goals exact throws_bind calm_own.throws fun _ => (calm_pure _).throws
  · exact throws_bind throws_pollWeeklyMatrix fun _ => (calm_pure _).throws

theorem throws_runCIEvals {infrastructure : Infrastructure} {skipSuiteIds : Option (List String)} :
    Throws savePolicy (runCIEvals deps run infrastructure leaseToken skipSuiteIds) := by
  unfold runCIEvals
  split
  · refine throws_bind (calm_extCall rfl).throws fun smoke => ?_
    refine throws_ite (calm_pure _).throws ?_
    split
    · exact (calm_pure _).throws
    · refine throws_bind (calm_extCall rfl).throws fun payload => ?_
      exact throws_bind calm_clock.throws fun _ => throws_startPoll
  · exact (calm_pure _).throws

theorem throws_pollAndHandle {job : DetachedPoll} : Throws savePolicy (pollAndHandle deps job) :=
  throws_bind throws_pollWeeklyMatrix fun _ =>
    throws_bind (throws_save rfl) fun _ => throws_finalizePipeline

/-! ## Processing an entry -/

section Entry

variable {resume : Bool}

theorem throwsFrom_step {x : SchedJs α} (h : Throws savePolicy x) :
    ThrowsFrom savePolicy (step x) := by
  intro s
  refine reacts_bind h (fun _ => trivial) ?_
  rintro e q rfl
  exact ⟨s, rfl⟩

theorem throwsFrom_calm {x : SchedJs α} (h : Calm savePolicy x) : ThrowsFrom savePolicy (step x) :=
  throwsFrom_step h.throws

theorem throwsFrom_theRun : ThrowsFrom savePolicy theRun :=
  throwsFrom_bind throwsFrom_get fun _ => throwsFrom_pure _

theorem throwsFrom_modifyRun {g : PipelineRun → PipelineRun} : ThrowsFrom savePolicy (modifyRun g) :=
  throwsFrom_modify _

theorem throwsFrom_skipStage1 {deploymentName endpointUrl : String} :
    ThrowsFrom savePolicy (skipStage1 entry deploymentName endpointUrl) := by
  refine throwsFrom_bind (throwsFrom_calm calm_queueCall) fun _ => ?_
  exact throwsFrom_bind (throwsFrom_calm calm_clock) fun _ => throwsFrom_modifyRun

theorem throwsFrom_skipPhase : ThrowsFrom savePolicy (skipPhase entry resume) := by
  refine throwsFrom_bind ?_ fun _ => throwsFrom_ite ?_ (throwsFrom_pure _)
  · unfold evalOnlyPhase
    split
    · exact throwsFrom_bind throwsFrom_skipStage1 fun _ => throwsFrom_pure _
    · exact throwsFrom_pure _
  · refine throwsFrom_bind (throwsFrom_calm (calm_extCall rfl)) fun r => ?_
    cases r with
    | none => exact throwsFrom_pure _
    | some existing => exact throwsFrom_bind throwsFrom_skipStage1 fun _ => throwsFrom_pure _

theorem throwsFrom_stage1Phase {stage1Skipped : Bool} :
    ThrowsFrom savePolicy (stage1Phase deps entry leaseToken stage1Skipped) := by
  refine throwsFrom_ite (throwsFrom_pure _) ?_
  refine throwsFrom_bind (throwsFrom_calm calm_queueCall) fun _ => ?_
  refine throwsFrom_bind throwsFrom_theRun fun run => ?_
  refine throwsFrom_bind (throwsFrom_calm calm_execute) fun result => ?_
  refine throwsFrom_bind throwsFrom_modifyRun fun _ => throwsFrom_ite (throwsFrom_pure _) ?_
  refine throwsFrom_bind (throwsFrom_calm (calm_of_only (only_dropTunnel deps) (by simp))) fun _ => ?_
  exact throwsFrom_bind (throwsFrom_calm calm_failEntry) fun _ => throwsFrom_pure _

theorem throwsFrom_tunnelPhase : ThrowsFrom savePolicy (tunnelPhase deps) := by
  refine throwsFrom_bind throwsFrom_theRun fun run => ?_
  split
  · exact throwsFrom_pure _
  refine throwsFrom_bind (throwsFrom_calm (calm_of_only (only_resolveDeployment deps) (by simp))) fun _ => ?_
  refine throwsFrom_bind throwsFrom_modifyRun fun _ => ?_
  exact throwsFrom_bind (throwsFrom_modify _) fun _ => throwsFrom_pure _

theorem throwsFrom_localGatePhase :
    ThrowsFrom savePolicy (localGatePhase deps entry resume leaseToken) := by
  refine throwsFrom_ite ?_ (throwsFrom_pure _)
  refine throwsFrom_bind ?_ fun _ => ?_
  · refine throwsFrom_ite (throwsFrom_bind (throwsFrom_calm (calm_extCall rfl)) fun _ => ?_)
      (throwsFrom_pure _)
    exact throwsFrom_modifyRun
  refine throwsFrom_bind throwsFrom_theRun fun run => ?_
  refine throwsFrom_bind (throwsFrom_calm (calm_extCall rfl)) fun result => ?_
  refine throwsFrom_bind throwsFrom_modifyRun fun _ => ?_
  refine throwsFrom_bind (throwsFrom_step (throws_save rfl)) fun _ => ?_
  refine throwsFrom_ite ?_ (throwsFrom_pure _)
  exact throwsFrom_bind (throwsFrom_calm calm_failEntry) fun _ => throwsFrom_pure _

theorem throwsFrom_ciEvalPhase {passed : Bool} {resolved : Option PublicEndpointResult} :
    ThrowsFrom savePolicy (ciEvalPhase deps entry resume leaseToken passed resolved) := by
  refine throwsFrom_bind throwsFrom_theRun fun run => ?_
  split
  · exact throwsFrom_pure _
  refine throwsFrom_bind (throwsFrom_calm calm_resumeSkipSet) fun skip => ?_
  refine throwsFrom_bind throwsFrom_get fun vars => ?_
  refine throwsFrom_bind (throwsFrom_step throws_runCIEvals) fun outcome => ?_
  split
  · exact throwsFrom_bind (throwsFrom_calm calm_failEntry) fun _ => throwsFrom_pure _
  · exact throwsFrom_bind (throwsFrom_modify _) fun _ => throwsFrom_pure _
  · exact throwsFrom_pure _
  · refine throwsFrom_bind throwsFrom_modifyRun fun _ => ?_
    exact throwsFrom_bind (throwsFrom_step (throws_save rfl)) fun _ => throwsFrom_pure _

theorem throwsFrom_entryBody : ThrowsFrom savePolicy (entryBody deps entry resume leaseToken) := by
  refine throwsFrom_bind throwsFrom_modifyRun fun _ => ?_
  refine throwsFrom_bind throwsFrom_skipPhase fun skipped => ?_
  refine throwsFrom_bind (throwsFrom_calm (calm_of_only (only_startTunnel deps) (by simp))) fun _ => ?_
  refine throwsFrom_bind throwsFrom_stage1Phase fun goesOn => throwsFrom_ite ?_ (throwsFrom_pure _)
  refine throwsFrom_bind throwsFrom_tunnelPhase fun resolved => ?_
  refine throwsFrom_bind throwsFrom_localGatePhase fun gate => ?_
  split
  · exact throwsFrom_pure _
  refine throwsFrom_bind throwsFrom_ciEvalPhase fun r => ?_
  split
  · exact throwsFrom_bind throwsFrom_theRun fun run => throwsFrom_step throws_finalizePipeline
  · exact throwsFrom_pure _

/-! ## The handlers -/

/-- The request of a terminal write that fails an entry. -/
def failedWrite (id : ℕ) (message : String) (leaseToken : Option String) : SchedOp :=
  match truthy leaseToken with
  | none => .queue (.updateStatus id .failed (some message) none)
  | some token => .queue (.terminal (.fail id message token))

theorem failedWrite_kind {id : ℕ} {message : String} : (failedWrite id message leaseToken).kind = .write := by
  unfold failedWrite
  split <;> rfl

/-- Different messages make different writes. -/
theorem failedWrite_ne {id : ℕ} {m m' : String} {leaseToken' : Option String} (h : m ≠ m') :
    failedWrite id m leaseToken ≠ failedWrite id m' leaseToken' := by
  unfold failedWrite
  split <;> split <;> simp [h]

theorem starts_writeTerminal {id : ℕ} {message : String} : Starts (failedWrite id message leaseToken)
    (writeTerminal id .failed (some message) leaseToken) := by
  unfold writeTerminal failedWrite
  cases truthy leaseToken <;> exact ⟨_, rfl⟩

/-- **The `catch` block of `processEntry`** fails the entry with the error of a bare save. -/
theorem reacts_entryTry : (entryTry deps entry resume leaseToken run).run.Reacts savePolicy fun e q =>
    ∃ token k, q = await (failedWrite entry.id (statusMessage deps entry e.message) token) k := by
  unfold entryTry
  rw [ExceptT.run_bind, run_lift, bind_assoc]
  refine reacts_bind (throwsFrom_entryBody _) (fun p => ?_) ?_
  · have hcatch : Calm savePolicy (entryCatch deps entry leaseToken p.1) := by
      unfold entryCatch
      split
      · exact calm_pure _
      · exact calm_failEntry
    refine Calm.reacts (calm_bind (calm_attempt hcatch) fun caught => ?_)
    refine calm_bind (calm_of_only only_entryFinally (by simp)) fun _ => ?_
    split
    · exact calm_pure _
    · exact calm_throw _
  · rintro e q ⟨vars, rfl⟩
    have hfail : Starts (failedWrite entry.id (statusMessage deps entry e.message) leaseToken)
        (entryCatch deps entry leaseToken (.error e)) := starts_writeTerminal.bind
    exact ⟨leaseToken, hfail.attempt.bind⟩

theorem reacts_processEntry : (processEntry deps entry resume).run.Reacts savePolicy fun e q =>
    ∃ token k, q = await (failedWrite entry.id (statusMessage deps entry e.message) token) k := by
  refine reacts_calm_bind calm_newRunId fun runId => ?_
  refine reacts_calm_bind calm_clock fun startedAt => ?_
  refine reacts_calm_bind calm_own fun leaseToken => ?_
  split
  · exact calm_failEntry.reacts
  refine reacts_calm_bind calm_isModelCooldown fun active => ?_
  split_ifs
  · exact Calm.reacts (calm_bind calm_queueCall fun _ => calm_pure _)
  · exact reacts_entryTry

/-- **The `catch` handler of a detached poll** fails the entry with the error of a bare save, unless it
takes it for a transient network error. -/
theorem reacts_detachedPoll {job : DetachedPoll} :
    (detachedPoll deps job).run.Reacts savePolicy fun e q =>
      isTransientNetworkError e.message = false →
        ∃ k, q = await (failedWrite job.queueEntryId e.message job.leaseToken) k := by
  have hrelease : Calm savePolicy (pollRelease job) := calm_of_only only_releaseInfrastructure (by simp)
  unfold detachedPoll
  rw [ExceptT.run_bind, attempt, run_lift, bind_assoc]
  refine reacts_bind throws_pollAndHandle (fun o => ?_) ?_
  · cases o with
    | ok a => exact hrelease.reacts
    | error err => exact Calm.reacts (calm_bind (calm_of_only only_pollCatch (by simp)) fun _ => hrelease)
  · rintro e q rfl ht
    have hcatch : Starts (failedWrite job.queueEntryId e.message job.leaseToken) (pollCatch job e) := by
      unfold pollCatch
      rw [ht, if_neg Bool.false_ne_true]
      exact starts_writeTerminal.bind
    exact hcatch.bind

/-- Two errors of the store, of one category, and with different messages. -/
theorem statusMessage_ne : statusMessage deps entry "a" ≠ statusMessage deps entry "b" := by
  have ha : classifyFailure "a" = classifyFailure "b" := by decide +kernel
  have hcat : (classifyFailure "b").category = .unknown := by decide +kernel
  have hwill : willRetry deps entry "a" = willRetry deps entry "b" := by
    unfold willRetry
    rw [ha]
  have htag : taggedMessage "a" = "a" ∧ taggedMessage "b" = "b" := by
    unfold taggedMessage
    rw [ha, hcat]
    exact ⟨rfl, rfl⟩
  unfold statusMessage
  rw [ha, hwill, htag.1, htag.2]
  intro h
  split_ifs at h
  · have hlist := congrArg String.toList h
    simp at hlist
  · exact absurd h (by decide)

end Entry

end Methods

/-! ## One entry -/

/-- A scheduler with Stage 3 and without CI evals. -/
def oneReasoningDeps : SchedulerDeps := { oneSuiteDeps with ciEvals := none, stage3Worker := true }

/-- Answers in which every stage succeeds and the save of the reasoning ends in `saved`. -/
def reasoningSaved (saved : Except JsError Unit) : (o : SchedOp) → SchedAns o
  | .ext (.resolveEndpoint url _) =>
    .ok { endpointUrl := url, directUrl := url, tunneled := false, cleanup := 1 }
  | .ext (.stage3Execute run) => .ok ⟨run.runId, run.modelId, true, none, none, 0, 0⟩
  | .ext (.saveReasoningResult _) => saved
  | o => benchmarkEnds (.ok ⟨[], "", [], true⟩) o

/-- A world that always gives these answers. -/
def reasoningWorld (saved : Except JsError Unit) (o : SchedOp) (w : Unit) : SchedAns o × Unit :=
  (reasoningSaved saved o, w)

theorem rejectsMore_reasoningWorld (err : JsError) :
    savePolicy.RejectsMore (reasoningWorld (.ok ())) (reasoningWorld (.error err)) := by
  intro o w
  by_cases ho : ∃ result, o = .ext (.saveReasoningResult result)
  · obtain ⟨result, rfl⟩ := ho
    refine .inr ⟨?_, ⟨err, rfl, rfl⟩, rfl⟩
    rintro e ⟨-, he⟩
    cases he
  · left
    unfold reasoningWorld reasoningSaved
    split
    · rfl
    · rfl
    · exact absurd ⟨_, rfl⟩ ho
    · rfl

/-- The outcome of the entry in this world. -/
def reasoningOutcome (saved : Except JsError Unit) : List SchedOp :=
  outcomeOf ((processEntry oneReasoningDeps oneEntry false).run.drive (reasoningWorld saved) ()).1

end Benchmarker
