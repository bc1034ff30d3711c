import Benchmarker.Report.Builder
import Benchmarker.Stage2.Agreement

/-!
# Reports on runs that skip Stage 1

An eval-only entry and a resumed one bring their deployment, and the scheduler marks their Stage 1 as
skipped. The gate of Stage 2 lets such a run proceed; the report counts a Stage 1 as passed only if it
has succeeded.

* `runsFrom_skipPhase_skipped`: what both ways of skipping Stage 1 leave in the run.
* `SkippedPassing`: a skipped Stage 1 with a Stage 2 that has passed everything.
* **`skipped_rejected`**: such a run is rejected. `evalOnly_rejected`: an eval-only entry.
-/

namespace Benchmarker

open Js Async Async.Prog

/-- A Stage 1 that was skipped and that the gate lets proceed. -/
def Stage1Skipped (thresholds : Stage2Thresholds) (run : PipelineRun) : Prop :=
  ∃ stage1, run.benchmarkResult = some stage1 ∧ stage1.status = .skipped ∧
    (stage2GateCheck thresholds stage1).proceed = true

/-- A run that skipped Stage 1 and passed all of its evals. -/
structure SkippedPassing (thresholds : Stage2Thresholds) (passThreshold : ℚ) (run : PipelineRun) :
    Prop where
  stage1 : Stage1Skipped thresholds run
  stage2 : ∃ stage2 suites, run.stage2Result = some stage2 ∧ stage2.status = .success ∧
    stage2.suiteResults = some suites ∧ suites ≠ [] ∧
      ∀ sr ∈ suites, passThreshold / 100 ≤ sr.score.getD 0

section Skip

variable {W : Type} {entry : QueueEntry} {resume : Bool} {es : List (Event SchedAns W)}
variable {s s' : EntryVars} {thresholds : Stage2Thresholds} {run : PipelineRun} {passThreshold : ℚ}

theorem runsFrom_skipStage1 {deploymentName endpointUrl : String} {r : Except JsError Unit}
    (h : RunsFrom (skipStage1 entry deploymentName endpointUrl) s es r s') (hr : r = .ok ()) :
    Stage1Skipped thresholds s'.run := by
  subst hr
  rcases runsFrom_step_bind.mp h with ⟨_, _, _, -, -, h₂⟩ | ⟨e, -, -, he⟩
  swap; · cases he
  rcases runsFrom_step_bind.mp h₂ with ⟨_, _, now, -, -, h₃⟩ | ⟨e, -, -, he⟩
  swap; · cases he
  obtain ⟨-, -, rfl⟩ := runsFrom_modify.mp h₃
  exact ⟨_, rfl, rfl, proceed_of_skipped rfl nofun⟩

/-- **Both ways of skipping Stage 1 leave a skipped result that the gate lets proceed.** -/
theorem runsFrom_skipPhase_skipped (h : RunsFrom (skipPhase entry resume) s es (.ok true) s') :
    Stage1Skipped thresholds s'.run := by
  rcases runsFrom_bind.mp h with ⟨es₁, es₂, evalOnly, t, rfl, h₁, h₂⟩ | ⟨e, -, he⟩
  swap; · cases he
  unfold evalOnlyPhase at h₁
  split at h₁
  · -- an eval-only entry: the resume branch is not taken
    rcases runsFrom_bind.mp h₁ with ⟨_, _, _, u, -, h₃, h₄⟩ | ⟨e, -, he⟩
    swap; · cases he
    obtain ⟨-, hres, rfl⟩ := runsFrom_pure.mp h₄
    obtain rfl := Except.ok.inj hres
    rw [if_neg (by simp)] at h₂
    obtain ⟨-, -, rfl⟩ := runsFrom_pure.mp h₂
    exact runsFrom_skipStage1 h₃ rfl
  · obtain ⟨-, hres, rfl⟩ := runsFrom_pure.mp h₁
    obtain rfl := Except.ok.inj hres
    cases resume with
    | false =>
      obtain ⟨-, hres', -⟩ := runsFrom_pure.mp h₂
      cases hres'
    | true =>
      rcases runsFrom_step_bind.mp h₂ with ⟨_, _, existing, -, -, h₃⟩ | ⟨e, -, -, he⟩
      swap; · cases he
      cases existing with
      | none =>
        obtain ⟨-, hres', -⟩ := runsFrom_pure.mp h₃
        cases hres'
      | some existing =>
        rcases runsFrom_bind.mp h₃ with ⟨_, _, _, u, -, h₄, h₅⟩ | ⟨e, -, he⟩
        swap; · cases he
        obtain ⟨-, -, rfl⟩ := runsFrom_pure.mp h₅
        exact runsFrom_skipStage1 h₄ rfl

/-- **A run that skipped Stage 1 is rejected, however well it did in its evals.** -/
theorem skipped_rejected (h : SkippedPassing thresholds passThreshold run) :
    (buildRecommendationReport run passThreshold).verdict = .reject := by
  obtain ⟨stage1, hr, hs, -⟩ := h.stage1
  refine computeVerdict_eq_reject.mpr (.inl ?_)
  unfold PipelineRun.stage1Passed
  rw [hr]
  simp [hs]

end Skip

/-! ## One entry -/

/-- An entry that was enqueued for its evals only. -/
def evalOnlyEntry : QueueEntry :=
  { oneEntry with metadata := some {
      skipStage1 := some true, endpointUrl := some "http://127.0.0.1:8000" } }

/-- What `findRunningDeployment` reports of a model that is still deployed. -/
def stillDeployed : (o : SchedOp) → SchedAns o
  | .ext (.findRunningDeployment _) => .ok (some ⟨"vllm-m", "http://127.0.0.1:8000"⟩)
  | o => benchmarkEnds (.error ⟨"", none⟩) o

/-- The variables that an entry of the model starts with. -/
def startVars (modelId : String) : EntryVars where
  run := runOf modelId

/-- The variables that an entry's phase of skipping Stage 1 ends with. -/
def skipOutcome (entry : QueueEntry) (resume : Bool) : Except JsError Bool × EntryVars :=
  ((skipPhase entry resume).run.run (startVars "m")).eval stillDeployed

/-- The run of the entry after a Stage 2 whose one suite was passed in full. -/
def evaluatedRun (entry : QueueEntry) (resume : Bool) : PipelineRun :=
  { (skipOutcome entry resume).2.run with stage2Result := some {
      runId := "run", modelId := "m", status := .success
      suiteResults := some [⟨"esql", "pass", some 1, none, none, none⟩], startedAt := 0, completedAt := 0 } }

theorem skippedPassing_evaluatedRun {entry : QueueEntry} {resume : Bool}
    (h : (skipOutcome entry resume).1 = .ok true) :
    SkippedPassing cappedDeps.config.stage2Thresholds 80 (evaluatedRun entry resume) where
  stage1 := by
    have hruns : RunsFrom (skipPhase entry resume) (startVars "m") _ (skipOutcome entry resume).1
        (skipOutcome entry resume).2 := runs_trace stillDeployed ({} : SchedulerState) _
    rw [h] at hruns
    exact runsFrom_skipPhase_skipped hruns
  stage2 := ⟨_, _, rfl, rfl, rfl, List.cons_ne_nil _ _, by decide +kernel⟩

/-- **An eval-only entry that passes its evals is rejected.** -/
theorem evalOnly_rejected :
    (skipOutcome evalOnlyEntry false).1 = .ok true ∧
    SkippedPassing cappedDeps.config.stage2Thresholds 80 (evaluatedRun evalOnlyEntry false) ∧
    (buildRecommendationReport (evaluatedRun evalOnlyEntry false) 80).verdict = .reject :=
  ⟨by decide, skippedPassing_evaluatedRun (by decide), by decide⟩

/-- So is a resumed entry whose model is still deployed. -/
theorem resumed_rejected : (skipOutcome oneEntry true).1 = .ok true ∧
    (buildRecommendationReport (evaluatedRun oneEntry true) 80).verdict = .reject :=
  ⟨by decide, skipped_rejected (skippedPassing_evaluatedRun (by decide))⟩

end Benchmarker
