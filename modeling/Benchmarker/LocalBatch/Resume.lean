import Benchmarker.LocalBatch.Worker
import Benchmarker.Report.Verdict

/-!
# Resumed and uninterrupted batch runs

Under fixed answers a run of all suites is compared with a resumed run that skips suites which the
uninterrupted one has passed: on the status, on the suite results and on the verdict of the report.

* `ReportsPass`, `SameOutcome`. **`resumed_sameOutcome_iff`**: both come out the same exactly when no
  suite is skipped. `resumed_differs`: runs that skip every suite, or one suite of tier A.
-/

namespace Benchmarker

open Js Async Async.Prog

section Resumed

variable (env : ∀ o, BatchAns o) (deps : BatchDeps) (run : PipelineRun) (stage1Result : Stage1Result)

/-- The outcome of a run under fixed answers. -/
def batchOutcome (skipStage2Suites : Option (List String)) : Except JsError Stage2Result :=
  (batchExecute deps { run with skipStage2Suites := skipStage2Suites } stage1Result).run.eval env

/-- The result lists the suite with the status. -/
def Stage2Result.lists (r : Stage2Result) (suite status : String) : Prop :=
  ∃ sr ∈ r.suiteResults.getD [], sr.suite = suite ∧ sr.status = status

/-- The run reports the suite as passed. -/
def ReportsPass (outcome : Except JsError Stage2Result) (suite : String) : Prop :=
  ∃ r, outcome = .ok r ∧ r.lists suite "pass"

/-- The verdict on the run with a Stage 2 result. -/
def verdictWith (passThreshold : ℚ) (r : Stage2Result) : Verdict :=
  ({ run with stage2Result := some r } : PipelineRun).verdict passThreshold

/-- Two runs have the same status, list the same suites with the same statuses, and lead to the same
verdict. -/
def SameOutcome (passThreshold : ℚ) (a b : Except JsError Stage2Result) : Prop :=
  ∃ r r', a = .ok r ∧ b = .ok r' ∧ r.status = r'.status ∧
    (∀ suite status, r.lists suite status ↔ r'.lists suite status) ∧
      verdictWith run passThreshold r = verdictWith run passThreshold r'

variable {env deps run stage1Result}

theorem eval_bareStage2 {status : Stage2Status} {why : String} {startedAt : Time} :
    ∃ r, (bareStage2 run status why startedAt).run.eval env = .ok r := ⟨_, rfl⟩

/-- The worker always returns a result. -/
theorem batchExecute_returns : ∃ r, (batchExecute deps run stage1Result).run.eval env = .ok r := by
  unfold batchExecute
  refine Exists.imp (fun r hr => eval_ok_bind.mpr ⟨env .now, rfl, hr⟩) ?_
  split
  · exact eval_bareStage2
  · split
    · exact eval_bareStage2
    · split
      · exact eval_bareStage2
      · rename_i endpointUrl _ _
        refine Exists.imp (fun r hr => eval_ok_bind.mpr
          ⟨(batchBody deps run endpointUrl (env .now)).run.eval env, eval_attempt _, hr⟩) ?_
        cases (batchBody deps run endpointUrl (env .now)).run.eval env with
        | ok result => exact ⟨result, rfl⟩
        | error err => exact eval_bareStage2

/-- **A resumed run comes out like an uninterrupted one exactly when it skips no suite**, for any
suites that the uninterrupted run reports as passed. -/
theorem resumed_sameOutcome_iff (passThreshold : ℚ) (skip : List String)
    (hpassed : ∀ s ∈ skip, ReportsPass (batchOutcome env deps run stage1Result none) s) :
    SameOutcome run passThreshold (batchOutcome env deps run stage1Result none)
      (batchOutcome env deps run stage1Result (some skip)) ↔ skip = [] := by
  constructor
  · rintro ⟨r, r', hr, hr', -, hlists, -⟩
    refine List.eq_nil_iff_forall_not_mem.mpr fun s hs => ?_
    obtain ⟨r₀, hr₀, hpass⟩ := hpassed s hs
    obtain rfl := Except.ok.inj (hr.symm.trans hr₀)
    obtain ⟨sr, hsr, rfl, -⟩ := (hlists s "pass").mp hpass
    exact batchExecute_skips hr' sr hsr hs
  · rintro rfl
    obtain ⟨r, hr⟩ : ∃ r, batchOutcome env deps run stage1Result none = .ok r := batchExecute_returns
    exact ⟨r, r, hr, hr, rfl, fun _ _ => .rfl, rfl⟩

end Resumed

/-! ## Runs that skip passed suites -/

/-- Every suite passes. -/
def allPass : ∀ o, BatchAns o
  | .now => (0 : ℕ)
  | .updateProgress _ _ _ _ _ => ()
  | .runScript _ _ _ => .ok ⟨some "batch-summary.json", some 0⟩
  | .writeStdout _ => ()
  | .readSummary _ => some [⟨"fast", "m", "pass", 1, none⟩, ⟨"quick", "m", "pass", 1, none⟩,
      ⟨"full", "m", "pass", 1, none⟩]
  | .readJsonl _ => []
  | .readLog _ => none
  | .saveStage2Result _ _ => .ok ()
  | .searchStage2 _ => .ok []

/-- A worker with two suites in tier A and one in tier B. -/
def tieredDeps : BatchDeps where
  stage2Local := {
    useBatchRunner := true
    skillDevPluginDir := some "/plugin"
    evalSuites := some ["fast", "quick", "full"]
    tierASuites := some ["fast", "quick"]
    kibanaUrl := some "http://kibana"
    kibanaApiKey := some "key" }
  gate _ := (true, "")

/-- A finished Stage 1. -/
def passedStage1 : Stage1Result where
  runId := "r"
  modelId := "m"
  queueEntryId := 0
  status := .success
  startedAt := 0
  completedAt := 0

/-- A run of the model `m` on a deployment. -/
def deployedRun : PipelineRun where
  runId := "r"
  modelId := "m"
  queueEntryId := 0
  startedAt := 0
  deployment := some ⟨"vllm-m", "http://vm:8000", none⟩
  benchmarkResult := some passedStage1

/-- What a run with a skip set reports: its suites, its reason and the verdict. -/
def reported (skip : Option (List String)) :
    Option (List (String × String) × Option String × Verdict) :=
  (batchOutcome allPass tieredDeps deployedRun passedStage1 skip).toOption.map fun r =>
    ((r.suiteResults.getD []).map fun sr => (sr.suite, sr.status), r.reason, verdictWith deployedRun 80 r)

theorem not_sameOutcome {skip : Option (List String)} {a b : List (String × String) × Option String × Verdict}
    (ha : reported none = some a) (hb : reported skip = some b) (hne : a.2.2 ≠ b.2.2) :
    ¬SameOutcome deployedRun 80 (batchOutcome allPass tieredDeps deployedRun passedStage1 none)
      (batchOutcome allPass tieredDeps deployedRun passedStage1 skip) := by
  rintro ⟨r, r', hr, hr', -, -, hverdict⟩
  rw [reported, hr] at ha
  rw [reported, hr'] at hb
  rw [← Option.some.inj ha, ← Option.some.inj hb] at hne
  exact hne hverdict

/-- **Resumed runs that come out differently**: without a skip set all suites are reported as passed
and the report supports the model; skipping all of them leaves no suite result and another verdict;
skipping one passed suite of tier A fails the gate, and tier B does not run. -/
theorem resumed_differs :
    reported none = some ([("fast", "pass"), ("quick", "pass"), ("full", "pass")], none, .support) ∧
    reported (some ["fast"]) = some ([("quick", "pass")],
      some "Tier A gate failed: not all fast-gate suites passed", .support) ∧
    reported (some ["fast", "quick", "full"]) =
      some ([], some "All suites already passed (resume skip)", .investigate) ∧
    ¬SameOutcome deployedRun 80 (batchOutcome allPass tieredDeps deployedRun passedStage1 none)
      (batchOutcome allPass tieredDeps deployedRun passedStage1 (some ["fast", "quick", "full"])) := by
  have hnone : reported none =
      some ([("fast", "pass"), ("quick", "pass"), ("full", "pass")], none, .support) := by decide +kernel
  have hall : reported (some ["fast", "quick", "full"]) =
      some ([], some "All suites already passed (resume skip)", .investigate) := by decide +kernel
  have hfast : reported (some ["fast"]) = some ([("quick", "pass")],
      some "Tier A gate failed: not all fast-gate suites passed", .support) := by decide +kernel
  exact ⟨hnone, hfast, hall, not_sameOutcome hnone hall (by decide)⟩

/-- The suite of tier B passes in the uninterrupted run, and skipping it makes a difference. -/
theorem skipped_full_differs : ¬SameOutcome deployedRun 80
    (batchOutcome allPass tieredDeps deployedRun passedStage1 none)
    (batchOutcome allPass tieredDeps deployedRun passedStage1 (some ["full"])) := by
  have hpassed : ∀ s ∈ ["full"],
      ReportsPass (batchOutcome allPass tieredDeps deployedRun passedStage1 none) s := by
    intro s hs
    rw [List.mem_singleton.mp hs]
    have hlists : (batchOutcome allPass tieredDeps deployedRun passedStage1 none).toOption.any
        (fun r => (r.suiteResults.getD []).any fun sr => sr.suite = "full" ∧ sr.status = "pass") = true := by
      decide +kernel
    obtain ⟨r, hr, hany⟩ := (Option.any_eq_true _ _).mp hlists
    obtain ⟨sr, hsr, hpass⟩ := List.any_eq_true.mp hany
    refine ⟨r, ?_, sr, hsr, of_decide_eq_true hpass⟩
    cases hout : batchOutcome allPass tieredDeps deployedRun passedStage1 none with
    | error err =>
      rw [hout] at hr
      cases hr
    | ok r' =>
      rw [hout] at hr
      rw [Option.some.inj hr]
  rw [resumed_sameOutcome_iff 80 ["full"] hpassed]
  exact List.cons_ne_nil _ _

end Benchmarker
