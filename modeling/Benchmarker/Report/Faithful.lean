import Mathlib.Data.List.Perm.Subperm
import Benchmarker.CiEval.Equivalence
import Benchmarker.Report.Regenerate

/-!
# Regenerated and live reports

The report that the scheduler builds at the end of a CI eval run and the one that is regenerated from
what the run has left in the store. The live report reads the eval summaries among the artifacts of
the final builds; the regenerated one knows only whether the builds passed.

* `Persisted`: a store that holds the rows of a run, its Stage 2 result and its report.
* `get_latestBySuite`, `runCi_isPrefix`: the rows that the handler finds for a run.
* `Agrees`, `Regenerable`, **`regenerated_agrees_iff`**: when the two reports agree.
-/

namespace Benchmarker

open Js Async Async.Prog

/-! ## Reports on final builds -/

namespace SuiteOutcome

variable (o : SuiteOutcome)

/-- What a report shows of the final build of a suite. -/
def scores : List (String × ℚ) := o.results.map fun sr => (sr.suite, sr.score.getD 0)

/-- What it shows of a build without a summary. -/
def bareScore : String × ℚ := (o.suite, if o.passed = true then 1 else 0)

theorem scores_ne_nil : o.scores ≠ [] := by
  unfold scores
  simpa using o.results_ne_nil

theorem scores_of_summary_none (h : o.summary = none) : o.scores = [o.bareScore] := by
  unfold scores results buildSuiteResults bareScore passed
  rw [h]
  by_cases hp : o.build.status = .passed <;> simp [hp, buildPassRate]

end SuiteOutcome

/-- The entry of a report for a score. -/
def evalScore (passThreshold : ℚ) (p : String × ℚ) : EvalScore :=
  ⟨p.1, p.2, passThreshold / 100, p.2 ≥ passThreshold / 100⟩

theorem evalScore_injective (passThreshold : ℚ) : Function.Injective (evalScore passThreshold) := by
  intro p q h
  exact Prod.ext (congrArg EvalScore.suite h) (congrArg EvalScore.score h)

section Merged

variable {run : PipelineRun} {stage2 : Stage2Result} {outcomes : List SuiteOutcome}
variable {passThreshold : ℚ}

/-- A Stage 2 result that reports on final builds. -/
structure Reports (stage2 : Stage2Result) (outcomes : List SuiteOutcome) : Prop where
  status : stage2.status = if ∀ o ∈ outcomes, o.passed = true then .success else .failed
  suiteResults : stage2.suiteResults = some (outcomes.flatMap (·.results))
  batchSummaryPath : stage2.batchSummaryPath = none

theorem reports_merge {runId modelId : String} {startedAt : Time} (hne : outcomes ≠ [])
    (h : mergeStage2Results (outcomes.map (·.stage2 runId modelId startedAt)) = .ok stage2) :
    Reports stage2 outcomes := by
  obtain ⟨r, hr, hstatus, -, hresults, hpath⟩ := @merge_outcomes _ runId modelId startedAt hne
  obtain rfl := Except.ok.inj (hr.symm.trans h)
  exact ⟨hstatus, hresults, hpath⟩

theorem Reports.stage2Run (h : Reports stage2 outcomes) (hrun : run.stage2Result = some stage2) :
    run.stage2Run = some stage2 := by
  refine stage2Run_eq_some.mpr ⟨hrun, ?_⟩
  rw [h.status]
  split_ifs <;> decide

theorem Reports.passingEvals (h : Reports stage2 outcomes) (hrun : run.stage2Result = some stage2) :
    run.passingEvals passThreshold = (outcomes.flatMap (·.scores)).map (evalScore passThreshold) := by
  rw [passingEvals_eq (h.stage2Run hrun), h.suiteResults, Option.getD_some, List.map_flatMap,
    List.map_flatMap]
  refine congrArg (outcomes.flatMap ·) (funext fun o => ?_)
  rw [SuiteOutcome.scores, List.map_map]
  rfl

theorem Reports.verdict (h : Reports stage2 outcomes) (hrun : run.stage2Result = some stage2) :
    run.verdict passThreshold = computeVerdict run.stage1Passed
      (some (decide (∀ o ∈ outcomes, o.passed = true))) true (run.passingEvals passThreshold) := by
  unfold PipelineRun.verdict PipelineRun.stage2Passed
  rw [h.stage2Run hrun, Option.map_some, h.status]
  by_cases hall : ∀ o ∈ outcomes, o.passed = true <;> simp [hall]

end Merged

/-- **A verdict does not depend on the order of the evals.** -/
theorem computeVerdict_perm {stage1Passed stage2Ran : Bool} {stage2Passed : Option Bool}
    {evals evals' : List EvalScore} (h : evals.Perm evals') :
    computeVerdict stage1Passed stage2Passed stage2Ran evals =
      computeVerdict stage1Passed stage2Passed stage2Ran evals' := by
  have hnil : evals = [] ↔ evals' = [] := ⟨fun hn => List.nil_perm.mp (hn ▸ h),
    fun hn => List.perm_nil.mp (hn ▸ h)⟩
  have hall : ∀ p : EvalScore → Bool, evals.all p = evals'.all p := fun p => h.all_eq
  simp only [computeVerdict, hnil, hall, ne_eq]

/-! ## The rows that the handler finds -/

section Latest

variable {rows : List CIEvalResult} {suite : String}

theorem get_latestBySuite : (latestBySuite rows).get suite =
    rows.find? fun row => row.terminalSuite = some suite := by
  induction rows using List.reverseRecOn with
  | nil => rfl
  | append_singleton rows row ih =>
    rw [latestBySuite, List.foldl_append, ← latestBySuite, List.foldl_cons, List.foldl_nil, List.find?_append, ← ih]
    cases hrow : row.terminalSuite with
    | none => simp [hrow]
    | some t =>
      rw [JsMap.get_setNew]
      by_cases ht : t = suite <;> simp [ht, hrow]

theorem nodup_latestBySuite : (latestBySuite rows).keys.Nodup := by
  induction rows using List.reverseRecOn with
  | nil => exact List.nodup_nil
  | append_singleton rows row ih =>
    rw [latestBySuite, List.foldl_append, ← latestBySuite, List.foldl_cons, List.foldl_nil]
    cases row.terminalSuite with
    | none => exact ih
    | some t => exact JsMap.nodup_setNew ih

theorem mem_keys_latestBySuite : suite ∈ (latestBySuite rows).keys ↔
    ∃ row ∈ rows, row.terminalSuite = some suite := by
  constructor
  · intro h
    obtain ⟨kv, hkv, rfl⟩ := List.mem_map.mp h
    have hget := (JsMap.get_eq_some_iff nodup_latestBySuite).mpr hkv
    rw [get_latestBySuite] at hget
    exact ⟨kv.2, List.mem_of_find?_eq_some hget, by simpa using List.find?_some hget⟩
  · rintro ⟨row, hrow, hsuite⟩
    have hsome : (rows.find? fun row => row.terminalSuite = some suite).isSome := by
      rw [List.find?_isSome]
      exact ⟨row, hrow, by simpa using hsuite⟩
    obtain ⟨row', hrow'⟩ := Option.isSome_iff_exists.mp hsome
    rw [← get_latestBySuite] at hrow'
    exact List.mem_map.mpr ⟨(suite, row'), JsMap.mem_of_get_eq_some hrow', rfl⟩

/-- The terminal rows of a suite, among rows of one suite each. -/
theorem terminalSuite_eq_iff {row : CIEvalResult} {t : String} (hrow : row.evalSuites = [t]) :
    row.terminalSuite = some suite ↔ row.ended = true ∧ row.evalSuites = [suite] ∧ suite ≠ "" := by
  unfold CIEvalResult.terminalSuite CIEvalResult.ended truthy
  rw [hrow]
  by_cases hrunning : row.status = .running
  · simp [hrunning]
  · rw [if_neg hrunning, List.head?_cons, Option.filter_eq_some_iff]
    simp [hrunning]

end Latest

/-- The run that the scheduler builds its report from. -/
def PipelineRun.evaluated (run : PipelineRun) (stage2 : Stage2Result) (stage3 : Option Stage3Result) :
    PipelineRun := { run with stage2Result := some stage2, stage3Result := stage3 }

theorem runs_reasoningStage {W : Type} {deps : SchedulerDeps} {run run' : PipelineRun} {id : ℕ}
    {leaseToken : Option String} {es : List (Event SchedAns W)}
    (h : (reasoningStage deps run id leaseToken).run.Runs es (.ok run')) :
    ∃ stage3, run' = { run with stage3Result := stage3 } := by
  unfold reasoningStage at h
  dsimp only at h
  split at h
  · obtain ⟨_, _, _, rfl, -, h₂⟩ := runs_ok_bind.mp h
    obtain ⟨_, _, stage3, rfl, -, h₄⟩ := runs_ok_bind.mp h₂
    obtain ⟨_, _, _, rfl, -, h₆⟩ := runs_ok_bind.mp h₄
    exact ⟨some stage3, (Except.ok.inj (runs_throws_pure.mp h₆).2).symm⟩
  · exact ⟨run.stage3Result, (Except.ok.inj (runs_throws_pure.mp h).2).symm⟩

/-- The live report on a run with a Stage 2 result is built from the evaluated run. -/
theorem runs_finalizeBefore {W : Type} {deps : SchedulerDeps} {run run' : PipelineRun} {id : ℕ}
    {leaseToken : Option String} {stage2 : Stage2Result} {report : Option RecommendationReport}
    {es : List (Event SchedAns W)}
    (h : (finalizeBefore deps { run with stage2Result := some stage2 } id leaseToken).run.Runs es
      (.ok (run', report))) :
    ∃ es₁ es₂ stage3, es = es₁ ++ es₂ ∧ run' = run.evaluated stage2 stage3 ∧
      (buildReport run').run.Runs es₂ (.ok report) := by
  obtain ⟨es₁, _, run'', rfl, h₁, h₂⟩ := runs_ok_bind.mp h
  obtain ⟨es₂, _, _, rfl, -, h₃⟩ := runs_ok_bind.mp h₂
  obtain ⟨es₃, _, report', rfl, h₄, h₅⟩ := runs_ok_bind.mp h₃
  obtain ⟨rfl, hr⟩ := runs_throws_pure.mp h₅
  obtain ⟨rfl, rfl⟩ := Prod.mk.inj (Except.ok.inj hr)
  obtain ⟨stage3, rfl⟩ := runs_reasoningStage h₁
  exact ⟨es₁ ++ es₂, es₃, stage3, by simp, rfl, h₄⟩

/-- What the store holds of a run whose rows were all saved: the rows, its live report as the latest
one on its model and, if it is the latest of its model, its Stage 2 result. -/
structure Persisted {W : Type} (store : RegenStore) (run : PipelineRun) (es : List (Event SchedAns W))
    (stage2 : Stage2Result) (live : StoredReport) : Prop where
  rows : store.ciEvals.filter (fun row => row.runId = run.runId) = (savedRows es).reverse
  report : store.getLatestRecommendation run.modelId = some live
  stage2 : ∀ d, store.stage2.find? (fun d => d.modelId = run.modelId) = some d →
    d.runId = run.runId → ∃ entry, d = stage2Doc stage2 entry

section Window

variable {W : Type} {store : RegenStore} {run : PipelineRun} {es : List (Event SchedAns W)}
variable {stage2 : Stage2Result} {live : StoredReport} {outcomes : List SuiteOutcome}
variable {o : SuiteOutcome} {suite : String} {row : CIEvalResult}

/-- **The handler finds the newest rows of the run.** -/
theorem runCi_isPrefix (h : Persisted store run es stage2 live) (hlive : live.runId = run.runId)
    (hsaves : SavesOf run outcomes (savedRows es)) :
    store.runCi run.modelId live <+: (savedRows es).reverse := by
  have hmodel : (savedRows es).reverse.filter (fun row => row.modelId = run.modelId) =
      (savedRows es).reverse := by
    refine List.filter_eq_self.mpr fun row hrow => ?_
    obtain ⟨o, -, hof⟩ := hsaves.mem (List.mem_reverse.mp hrow)
    exact decide_eq_true hof.modelId_eq
  have hpre : store.runCi run.modelId live <+: (store.ciEvals.filter fun row =>
      row.modelId = run.modelId).filter fun row => row.runId = live.runId :=
    (List.take_prefix 50 _).filter _
  rw [List.filter_filter, hlive] at hpre
  rw [← hmodel, ← h.rows, List.filter_filter]
  simpa only [Bool.and_comm] using hpre

/-- A terminal row that the handler finds is the newest one of its suite. -/
theorem get_latestBySuite_runCi (h : Persisted store run es stage2 live)
    (hlive : live.runId = run.runId) (hsaves : SavesOf run outcomes (savedRows es))
    (hget : (latestBySuite (store.runCi run.modelId live)).get suite = some row) :
    suite ∈ outcomes.map (·.suite) ∧ lastTerminalOf suite (savedRows es) = some row := by
  rw [get_latestBySuite] at hget
  have hfound := (runCi_isPrefix h hlive hsaves).find?_eq_some hget
  have hof : ∀ row ∈ (savedRows es).reverse, ∃ o ∈ outcomes, RowOf run o.suite row :=
    fun row hrow => hsaves.mem (List.mem_reverse.mp hrow)
  have hsuite : row.terminalSuite = some suite := by simpa using List.find?_some hfound
  obtain ⟨o, ho, hrow⟩ := hof row (List.mem_of_find?_eq_some hfound)
  obtain ⟨-, heq, hne⟩ := (terminalSuite_eq_iff hrow.evalSuites_eq).mp hsuite
  rw [hrow.evalSuites_eq] at heq
  refine ⟨List.mem_map.mpr ⟨o, ho, List.singleton_inj.mp heq⟩, ?_⟩
  rw [lastTerminalOf, ← hfound]
  refine List.find?_congr fun row' hrow' => ?_
  obtain ⟨o', -, hof'⟩ := hof row' hrow'
  rw [Bool.eq_iff_iff, Bool.and_eq_true, decide_eq_true_eq, decide_eq_true_eq,
    terminalSuite_eq_iff hof'.evalSuites_eq]
  simp [hne]

end Window

/-! ## The regenerated report -/

/-- A suite as the handler knows it from its newest terminal row. -/
def regenOutcome (now : Time) (sr : String × CIEvalResult) : SuiteOutcome :=
  ⟨sr.1, sr.2.buildResult, none, now⟩

/-- A Stage 2 result without logs, as a CI eval run has it. -/
structure WithoutLogs (stage2 : Stage2Result) : Prop where
  logPath : ∀ sr ∈ stage2.suiteResults.getD [], sr.logPath = none
  batchSummaryPath : stage2.batchSummaryPath = none

theorem Reports.withoutLogs {stage2 : Stage2Result} {outcomes : List SuiteOutcome}
    (h : Reports stage2 outcomes) : WithoutLogs stage2 where
  logPath sr hsr := by
    rw [h.suiteResults, Option.getD_some, List.mem_flatMap] at hsr
    obtain ⟨o, -, hsr⟩ := hsr
    exact o.logPath_of_mem_results hsr
  batchSummaryPath := h.batchSummaryPath

theorem withoutLogs_resume {runId modelId : String} {suites : List String} {startedAt now : Time} :
    WithoutLogs (buildResumeStage2Result runId modelId suites startedAt now) where
  logPath sr hsr := by
    obtain ⟨s, -, rfl⟩ := List.mem_map.mp hsr
    rfl
  batchSummaryPath := rfl

section Regenerated

variable {W : Type} {files : BatchFiles} {store : RegenStore} {run : PipelineRun}
variable {es : List (Event SchedAns W)} {stage2 : Stage2Result} {live : StoredReport}
variable {outcomes : List SuiteOutcome} {passThreshold : ℚ} {now : Time}

/-- A Stage 2 document without logs gives the handler nothing to rescore. -/
theorem rescoredStage2_eq_error (h : WithoutLogs stage2) {runId : String} {d : Option Stage2Result}
    (hd : ∀ d' ∈ d, d'.runId = runId → ∃ entry, d' = (stage2Doc stage2 entry).read) :
    rescoredStage2 files runId d = .error (noTerminalBuilds runId) := by
  cases d with
  | none => rfl
  | some d =>
    unfold rescoredStage2
    cases hsuites : d.suiteResults with
    | none => simp [hsuites]
    | some suites =>
      simp only [hsuites]
      by_cases hrun : d.runId = runId
      · obtain ⟨entry, rfl⟩ := hd d rfl hrun
        have hlogs : (suites.any fun sr => sr.logPath.isSome) = false := by
          obtain rfl := Option.some.inj hsuites
          rw [List.any_map, List.any_eq_false]
          intro sr hsr
          simp [h.logPath sr hsr, truthy]
        have hpath : (stage2Doc stage2 entry).read.batchSummaryPath = none := by
          simp [Stage2Doc.read, stage2Doc, h.batchSummaryPath, truthy]
        rw [if_neg (not_not.mpr hrun), if_pos]
        exact ⟨hlogs, by simp [suiteLogPaths, hlogs, hpath]⟩
      · rw [if_pos hrun]

/-- **Without a terminal row the handler gives up on a CI eval run.** -/
theorem regenerate_of_no_rows (h : Persisted store run es stage2 live)
    (hlogs : WithoutLogs stage2) (hlive : live.runId = run.runId)
    (hnone : latestBySuite (store.runCi run.modelId live) = []) :
    regenerateRecommendation files store passThreshold run.modelId now =
      .error (noTerminalBuilds run.runId) := by
  have hstage2 : rescoredStage2 files live.runId (store.getLatestStage2ForModel run.modelId) =
      .error (noTerminalBuilds live.runId) := by
    refine rescoredStage2_eq_error hlogs fun d hd hrun => ?_
    obtain ⟨doc, hdoc, rfl⟩ := Option.map_eq_some_iff.mp hd
    obtain ⟨entry, rfl⟩ := h.stage2 doc hdoc (hrun.trans hlive)
    exact ⟨entry, rfl⟩
  unfold regenerateRecommendation
  rw [h.report]
  simp only [perSuiteRows, if_pos hnone, hstage2, ← hlive]
  rfl

/-- **With terminal rows the handler reports on the suites of these rows.** -/
theorem regenerate_of_rows (h : Persisted store run es stage2 live)
    (hsome : latestBySuite (store.runCi run.modelId live) ≠ []) :
    ∃ stage2', Reports stage2' ((latestBySuite (store.runCi run.modelId live)).map (regenOutcome now)) ∧
      regenerateRecommendation files store passThreshold run.modelId now =
        .ok (storedReport (regenRun store run.modelId live stage2') passThreshold now) := by
  set latest := latestBySuite (store.runCi run.modelId live) with hlatest
  have hne : latest.map (regenOutcome now) ≠ [] := by simpa using hsome
  obtain ⟨stage2', hmerge, -⟩ := @merge_outcomes _ live.runId run.modelId live.evaluatedAt hne
  refine ⟨stage2', reports_merge hne hmerge, ?_⟩
  unfold regenerateRecommendation
  rw [h.report]
  rw [List.map_map] at hmerge
  have hrows : perSuiteRows files store run.modelId now live = .ok (latest.map
      ((·.stage2 live.runId run.modelId live.evaluatedAt) ∘ regenOutcome now)) := by
    unfold perSuiteRows
    rw [← hlatest, if_neg hsome]
    rfl
  simp only [hrows, Bind.bind, Except.bind, hmerge]
  rfl

/-! ## Agreement -/

/-- `stage2Results.suiteResults`, with the score of each suite. -/
def BuiltReport.suiteScores (r : BuiltReport) : JsMap String ℚ :=
  JsMap.assign [] (r.passingEvals.map fun e => (e.suite, e.score))

/-- Two reports with the same passing evals, in whatever order, the same scores and the same
verdict. -/
structure Agrees (r r' : BuiltReport) : Prop where
  passingEvals : r.passingEvals.Perm r'.passingEvals
  scores : ∀ suite, r.suiteScores.get suite = r'.suiteScores.get suite
  verdict : r.verdict = r'.verdict

variable (store run passThreshold) in
/-- The handler finds a terminal row of every suite, and a report shows of the final builds no more
than whether they passed; a Stage 1 that passed has its metrics, or the verdict does not need it. -/
structure Regenerable (live : StoredReport) (outcomes : List SuiteOutcome) : Prop where
  ran : outcomes ≠ []
  distinct : (outcomes.map (·.suite)).Nodup
  found : ∀ o ∈ outcomes, ∃ row ∈ store.runCi run.modelId live, row.terminalSuite = some o.suite
  bare : (outcomes.flatMap (·.scores)).Perm (outcomes.map (·.bareScore))
  stage1 : run.stage1Passed = true → (run.benchmarkResult.bind (·.metrics)).isSome = true ∨
    (∃ o ∈ outcomes, o.passed = false) ∧ ∀ o ∈ outcomes, o.bareScore.2 < passThreshold / 100

theorem passed_regenOutcome (sr : String × CIEvalResult) :
    (regenOutcome now sr).passed = decide (sr.2.status = .passed) := by
  by_cases h : sr.2.status = .passed <;>
    simp [SuiteOutcome.passed, regenOutcome, CIEvalResult.buildResult, h]

theorem map_suite_regenOutcome (latest : JsMap String CIEvalResult) :
    (latest.map (regenOutcome now)).map (·.suite) = latest.keys := by
  rw [List.map_map]
  rfl

theorem flatMap_scores_regenOutcome (latest : JsMap String CIEvalResult) :
    (latest.map (regenOutcome now)).flatMap (·.scores) =
      (latest.map (regenOutcome now)).map (·.bareScore) := by
  rw [← List.flatMap_singleton' ((latest.map (regenOutcome now)).map (·.bareScore)),
    List.flatMap_map, List.flatMap_map, List.flatMap_map]
  exact congrArg (latest.flatMap ·) (funext fun sr => SuiteOutcome.scores_of_summary_none _ rfl)

/-- **A suite's newest terminal row passed exactly when its final build did**, so the handler sees the
builds as they ended, if it sees a row of each. -/
theorem bareScores_perm (h : Persisted store run es stage2 live) (hlive : live.runId = run.runId)
    (hsaves : SavesOf run outcomes (savedRows es)) (hnodup : (outcomes.map (·.suite)).Nodup)
    (hkeys : (latestBySuite (store.runCi run.modelId live)).keys.Perm (outcomes.map (·.suite))) :
    (((latestBySuite (store.runCi run.modelId live)).map (regenOutcome now)).map (·.bareScore)).Perm
      (outcomes.map (·.bareScore)) := by
  set latest := latestBySuite (store.runCi run.modelId live) with hlatest
  let score : String → ℚ := fun s =>
    if (lastTerminalOf s (savedRows es)).any (·.status = .passed) = true then 1 else 0
  have hrows : (latest.map (regenOutcome now)).map (·.bareScore) =
      latest.keys.map fun s => (s, score s) := by
    rw [List.map_map, JsMap.keys, List.map_map]
    refine List.map_congr_left fun sr hsr => ?_
    have hget : latest.get sr.1 = some sr.2 := (JsMap.get_eq_some_iff nodup_latestBySuite).mpr hsr
    have hlast := (get_latestBySuite_runCi h hlive hsaves hget).2
    simp only [Function.comp_apply, SuiteOutcome.bareScore, passed_regenOutcome, score, hlast,
      Option.any_some]
    rfl
  have hbuilds : outcomes.map (·.bareScore) =
      (outcomes.map (·.suite)).map fun s => (s, score s) := by
    rw [List.map_map]
    refine List.map_congr_left fun o ho => ?_
    simp only [Function.comp_apply, SuiteOutcome.bareScore, score, hsaves.agrees hnodup ho]
  rw [hrows, hbuilds]
  exact hkeys.map _

/-- The scores of a report do not depend on the order of its evals, if it has one for each suite. -/
theorem get_suiteScores_of_perm {r r' : BuiltReport} {suite : String}
    (h : r.passingEvals.Perm r'.passingEvals) (hnodup : (r.passingEvals.map (·.suite)).Nodup) :
    r.suiteScores.get suite = r'.suiteScores.get suite := by
  have hkeys : ∀ evals : List EvalScore,
      JsMap.keys (evals.map fun e => (e.suite, e.score)).reverse = (evals.map (·.suite)).reverse := by
    intro evals
    rw [JsMap.keys, List.map_reverse, List.map_map]
    rfl
  have hperm : ((r.passingEvals.map fun e => (e.suite, e.score)).reverse).Perm
      (r'.passingEvals.map fun e => (e.suite, e.score)).reverse :=
    (List.reverse_perm _).trans ((h.map _).trans (List.reverse_perm _).symm)
  rw [BuiltReport.suiteScores, BuiltReport.suiteScores, JsMap.get_assign, JsMap.get_assign,
    JsMap.get_eq_of_perm hperm]
  rw [hkeys]
  exact List.nodup_reverse.mpr hnodup

/-- A missing Stage 1 changes the verdict, unless Stage 2 alone is enough to reject. -/
theorem computeVerdict_and_eq_iff {stage1Passed known allPassed : Bool} {evals : List EvalScore} :
    computeVerdict (stage1Passed && known) (some allPassed) true evals =
        computeVerdict stage1Passed (some allPassed) true evals ↔
      (stage1Passed = true → known = true ∨
        allPassed = false ∧ (evals = [] ∨ evals.all fun e => !e.passed)) := by
  have hreject : computeVerdict false (some allPassed) true evals = .reject :=
    computeVerdict_eq_reject.mpr (.inl rfl)
  have hlive : computeVerdict true (some allPassed) true evals = .reject ↔
      allPassed = false ∧ (evals = [] ∨ evals.all fun e => !e.passed) := by
    rw [computeVerdict_eq_reject]
    simp
  cases stage1Passed with
  | false => simp
  | true =>
    cases known with
    | true => simp
    | false =>
      rw [Bool.true_and, hreject, eq_comm, hlive]
      simp

theorem stage1Passed_regenRun : (regenRun store run.modelId live stage2).stage1Passed =
    (live.stage1Passed && live.stage1Metrics.isSome) := by
  unfold PipelineRun.stage1Passed regenRun priorStage1
  cases live.stage1Metrics with
  | none => simp
  | some m => cases live.stage1Passed <;> rfl

theorem bareEvals_failed_iff (hne : outcomes ≠ []) :
    (((outcomes.map (·.bareScore)).map (evalScore passThreshold) = [] ∨
        ((outcomes.map (·.bareScore)).map (evalScore passThreshold)).all fun e => !e.passed)) ↔
      ∀ o ∈ outcomes, o.bareScore.2 < passThreshold / 100 := by
  rw [List.map_eq_nil_iff, List.map_eq_nil_iff, List.all_eq_true, List.forall_mem_map,
    List.forall_mem_map]
  simp [hne, evalScore]

theorem allPassed_eq_of_perm {outcomes' : List SuiteOutcome}
    (h : (outcomes'.map (·.bareScore)).Perm (outcomes.map (·.bareScore))) :
    decide (∀ o ∈ outcomes', o.passed = true) = decide (∀ o ∈ outcomes, o.passed = true) := by
  have hbare : ∀ os : List SuiteOutcome, (∀ o ∈ os, o.passed = true) ↔
      ∀ p ∈ os.map (·.bareScore), p.2 = 1 := by
    intro os
    rw [List.forall_mem_map]
    refine forall₂_congr fun o _ => ?_
    by_cases hp : o.passed = true <;> simp [SuiteOutcome.bareScore, hp]
  rw [decide_eq_decide, hbare, hbare]
  exact forall_congr' fun p => by rw [h.mem_iff]

theorem length_le_scores : outcomes.length ≤ (outcomes.flatMap (·.scores)).length := by
  induction outcomes with
  | nil => exact Nat.zero_le _
  | cons o outcomes ih =>
    have hpos : 0 < o.scores.length := List.length_pos_iff.mpr o.scores_ne_nil
    rw [List.flatMap_cons, List.length_append, List.length_cons]
    omega

/-- A report that reads summaries and one that does not agree on the same builds exactly when the
summaries show no more than whether the builds passed. -/
theorem agrees_iff_bare {r r' : BuiltReport} {outcomes' : List SuiteOutcome} {stage1Passed known : Bool}
    (hne : outcomes ≠ []) (hnodup : (outcomes'.map (·.suite)).Nodup)
    (hbare : (outcomes'.map (·.bareScore)).Perm (outcomes.map (·.bareScore)))
    (hevals : r.passingEvals = (outcomes'.map (·.bareScore)).map (evalScore passThreshold))
    (hevals' : r'.passingEvals = (outcomes.flatMap (·.scores)).map (evalScore passThreshold))
    (hverdict : r.verdict = computeVerdict (stage1Passed && known)
      (some (decide (∀ o ∈ outcomes', o.passed = true))) true r.passingEvals)
    (hverdict' : r'.verdict = computeVerdict stage1Passed
      (some (decide (∀ o ∈ outcomes, o.passed = true))) true r'.passingEvals) :
    Agrees r r' ↔ (outcomes.flatMap (·.scores)).Perm (outcomes.map (·.bareScore)) ∧
      (stage1Passed = true → known = true ∨ (∃ o ∈ outcomes, o.passed = false) ∧
        ∀ o ∈ outcomes, o.bareScore.2 < passThreshold / 100) := by
  have hperm : r.passingEvals.Perm r'.passingEvals ↔
      (outcomes.flatMap (·.scores)).Perm (outcomes.map (·.bareScore)) := by
    rw [hevals, hevals', List.map_perm_map_iff (evalScore_injective passThreshold)]
    exact ⟨fun h => h.symm.trans hbare, fun h => hbare.trans h.symm⟩
  have hsame : r.passingEvals.Perm r'.passingEvals → (r.verdict = r'.verdict ↔
      (stage1Passed = true → known = true ∨ (∃ o ∈ outcomes, o.passed = false) ∧
        ∀ o ∈ outcomes, o.bareScore.2 < passThreshold / 100)) := by
    intro h
    rw [hverdict, hverdict', ← computeVerdict_perm h, hevals,
      computeVerdict_perm (hbare.map (evalScore passThreshold)),
      computeVerdict_perm (hbare.map (evalScore passThreshold)), allPassed_eq_of_perm hbare,
      computeVerdict_and_eq_iff, bareEvals_failed_iff hne]
    simp
  constructor
  · exact fun h => ⟨hperm.mp h.passingEvals, (hsame h.passingEvals).mp h.verdict⟩
  · rintro ⟨h, hstage1⟩
    have hevals₁ := hperm.mpr h
    refine ⟨hevals₁, fun s => get_suiteScores_of_perm hevals₁ ?_, (hsame hevals₁).mpr hstage1⟩
    have hsuites : r.passingEvals.map (·.suite) = outcomes'.map (·.suite) := by
      rw [hevals, List.map_map, List.map_map]
      rfl
    rwa [hsuites]

variable {liveRun : PipelineRun} {stage2' : Stage2Result} {evaluatedAt : Time}

/-- The suites that the handler finds are suites of the run. -/
theorem keys_subset (h : Persisted store run es stage2 live) (hlive : live.runId = run.runId)
    (hsaves : SavesOf run outcomes (savedRows es)) :
    (latestBySuite (store.runCi run.modelId live)).keys ⊆ outcomes.map (·.suite) := by
  intro s hs
  obtain ⟨kv, hkv, rfl⟩ := List.mem_map.mp hs
  exact (get_latestBySuite_runCi h hlive hsaves
    ((JsMap.get_eq_some_iff nodup_latestBySuite).mpr hkv)).1

/-- The two reports on a run that has left terminal rows. -/
theorem agrees_iff (h : Persisted store run es stage2 (storedReport liveRun passThreshold evaluatedAt))
    (hsaves : SavesOf run outcomes (savedRows es)) (hrun : liveRun.runId = run.runId)
    (hbench : liveRun.benchmarkResult = run.benchmarkResult)
    (hstage2 : liveRun.stage2Result = some stage2) (hne : outcomes ≠ [])
    (hrep : Reports stage2 outcomes)
    (hrep' : Reports stage2' ((latestBySuite (store.runCi run.modelId
      (storedReport liveRun passThreshold evaluatedAt))).map (regenOutcome now))) :
    Agrees (buildRecommendationReport (regenRun store run.modelId
        (storedReport liveRun passThreshold evaluatedAt) stage2') passThreshold)
      (buildRecommendationReport liveRun passThreshold) ↔
        Regenerable store run passThreshold (storedReport liveRun passThreshold evaluatedAt) outcomes := by
  set live := storedReport liveRun passThreshold evaluatedAt with hlive
  set latest := latestBySuite (store.runCi run.modelId live) with hlatest
  have hsub : latest.keys ⊆ outcomes.map (·.suite) := keys_subset h hrun hsaves
  have hevals : (buildRecommendationReport (regenRun store run.modelId live stage2')
      passThreshold).passingEvals =
        ((latest.map (regenOutcome now)).map (·.bareScore)).map (evalScore passThreshold) := by
    rw [← flatMap_scores_regenOutcome]
    exact hrep'.passingEvals rfl
  have hevals' : (buildRecommendationReport liveRun passThreshold).passingEvals =
      (outcomes.flatMap (·.scores)).map (evalScore passThreshold) := hrep.passingEvals hstage2
  have hstage1 : (regenRun store run.modelId live stage2').stage1Passed =
      (run.stage1Passed && (run.benchmarkResult.bind (·.metrics)).isSome) := by
    rw [stage1Passed_regenRun, PipelineRun.stage1Passed, ← hbench]
    exact congrArg _ Option.isSome_map
  have hstage1' : liveRun.stage1Passed = run.stage1Passed := by
    rw [PipelineRun.stage1Passed, hbench]
    rfl
  have hverdict : (buildRecommendationReport (regenRun store run.modelId live stage2')
      passThreshold).verdict = computeVerdict
        (run.stage1Passed && (run.benchmarkResult.bind (·.metrics)).isSome)
        (some (decide (∀ o ∈ latest.map (regenOutcome now), o.passed = true))) true
        ((regenRun store run.modelId live stage2').passingEvals passThreshold) := by
    rw [← hstage1]
    exact hrep'.verdict rfl
  have hverdict' : (buildRecommendationReport liveRun passThreshold).verdict =
      computeVerdict run.stage1Passed (some (decide (∀ o ∈ outcomes, o.passed = true))) true
        (liveRun.passingEvals passThreshold) := by
    rw [← hstage1']
    exact hrep.verdict hstage2
  have hnodup : ((latest.map (regenOutcome now)).map (·.suite)).Nodup := by
    rw [map_suite_regenOutcome]
    exact nodup_latestBySuite
  constructor
  · intro hagrees
    have hpairs : ((latest.map (regenOutcome now)).map (·.bareScore)).Perm
        (outcomes.flatMap (·.scores)) := by
      have := hagrees.passingEvals
      rw [hevals, hevals'] at this
      exact (List.map_perm_map_iff (evalScore_injective passThreshold)).mp this
    -- a suite that the handler does not find, or finds once for two, leaves it with fewer evals
    have hlen : (outcomes.map (·.suite)).length ≤ latest.keys.length := by
      have hle : outcomes.length ≤ _ := length_le_scores
      rw [← hpairs.length_eq] at hle
      simpa [JsMap.keys] using hle
    have hkeys : latest.keys.Perm (outcomes.map (·.suite)) :=
      (nodup_latestBySuite.subperm hsub).perm_of_length_le hlen
    have hdistinct : (outcomes.map (·.suite)).Nodup := hkeys.nodup_iff.mp nodup_latestBySuite
    obtain ⟨hbare, hknown⟩ := (agrees_iff_bare hne hnodup
      (bareScores_perm h hrun hsaves hdistinct hkeys) hevals hevals' hverdict hverdict').mp hagrees
    exact ⟨hne, hdistinct, fun o ho => mem_keys_latestBySuite.mp
      (hkeys.mem_iff.mpr (List.mem_map_of_mem ho)), hbare, hknown⟩
  · intro hreg
    have hkeys : latest.keys.Perm (outcomes.map (·.suite)) := by
      refine (List.perm_ext_iff_of_nodup nodup_latestBySuite hreg.distinct).mpr fun s => ?_
      refine ⟨fun hs => hsub hs, fun hs => ?_⟩
      obtain ⟨o, ho, rfl⟩ := List.mem_map.mp hs
      exact mem_keys_latestBySuite.mpr (hreg.found o ho)
    exact (agrees_iff_bare hne hnodup (bareScores_perm h hrun hsaves hreg.distinct hkeys) hevals
      hevals' hverdict hverdict').mpr ⟨hreg.bare, hreg.stage1⟩

/-- **The regenerated report agrees with the live one** exactly when every suite of the run has left a
terminal row among the newest ones of its model, no suite was run twice, and the live report shows no
more of the builds than whether they passed. -/
theorem regenerated_agrees_iff {settings : BuildkiteSettings} {matrix : MatrixRun}
    {stage3 : Option Stage3Result}
    (h : (pollWeeklyMatrix settings run matrix).run.Runs es (.ok stage2)) (hp : PollsBuilds es)
    (hbuilds : FinalBuilds settings run matrix es outcomes)
    (hstore : Persisted store run es stage2
      (storedReport (run.evaluated stage2 stage3) passThreshold evaluatedAt)) :
    (∃ report, regenerateRecommendation files store passThreshold run.modelId now = .ok report ∧
        Agrees report.toBuiltReport
          (buildRecommendationReport (run.evaluated stage2 stage3) passThreshold)) ↔
      Regenerable store run passThreshold
        (storedReport (run.evaluated stage2 stage3) passThreshold evaluatedAt) outcomes := by
  obtain ⟨outcomes', hbuilds', hsuites, hsaves, hresult⟩ := runs_pollWeeklyMatrix hp h
  obtain rfl := hbuilds.unique hbuilds'
  set live := storedReport (run.evaluated stage2 stage3) passThreshold evaluatedAt with hlive
  have hrun : live.runId = run.runId := rfl
  by_cases hnone : latestBySuite (store.runCi run.modelId live) = []
  · -- no terminal row is found
    have hlogs : WithoutLogs stage2 := by
      rcases hresult with ⟨-, now, rfl⟩ | ⟨hne, hmerge⟩
      · exact withoutLogs_resume
      · exact (reports_merge hne hmerge).withoutLogs
    refine iff_of_false ?_ fun hreg => ?_
    · rintro ⟨report, hreport, -⟩
      rw [regenerate_of_no_rows hstore hlogs hrun hnone] at hreport
      cases hreport
    · obtain ⟨o, ho⟩ := List.exists_mem_of_ne_nil _ hreg.ran
      have hkey := mem_keys_latestBySuite.mpr (hreg.found o ho)
      rw [hnone] at hkey
      cases hkey
  · have hne : outcomes ≠ [] := by
      rintro rfl
      obtain ⟨kv, hkv⟩ := List.exists_mem_of_ne_nil _ hnone
      exact List.not_mem_nil (keys_subset hstore hrun hsaves (List.mem_map_of_mem hkv))
    have hrep : Reports stage2 outcomes := by
      rcases hresult with ⟨hnil, -⟩ | ⟨-, hmerge⟩
      · exact absurd hnil hne
      · exact reports_merge hne hmerge
    obtain ⟨stage2', hrep', hregen⟩ := regenerate_of_rows hstore hnone
    rw [hregen, ← agrees_iff hstore hsaves rfl rfl rfl hne hrep hrep']
    constructor
    · rintro ⟨report, hreport, hagrees⟩
      obtain rfl := Except.ok.inj hreport
      exact hagrees
    · exact fun hagrees => ⟨_, rfl, hagrees⟩

end Regenerated

/-! ## One suite -/

/-- The store after one run on an empty one. -/
def storeAfter {W : Type} (es : List (Event SchedAns W)) (stage2 : Stage2Result)
    (live : StoredReport) : RegenStore where
  ciEvals := (savedRows es).reverse
  recommendations := [live]
  stage2 := [stage2Doc stage2 none]

theorem persisted_storeAfter {W : Type} {es : List (Event SchedAns W)} {run : PipelineRun}
    {outcomes : List SuiteOutcome} {stage2 : Stage2Result} {live : StoredReport}
    (hsaves : SavesOf run outcomes (savedRows es)) (hmodel : live.modelId = run.modelId) :
    Persisted (storeAfter es stage2 live) run es stage2 live where
  rows := by
    refine List.filter_eq_self.mpr fun row hrow => ?_
    obtain ⟨o, -, hof⟩ := hsaves.mem (List.mem_reverse.mp hrow)
    exact decide_eq_true hof.runId_eq
  report := by
    simp [RegenStore.getLatestRecommendation, storeAfter, hmodel]
  stage2 d hd _ := by
    obtain rfl := List.mem_singleton.mp (List.mem_of_find?_eq_some hd)
    exact ⟨none, rfl⟩

/-- Builds that end one after the other in the given states, with a summary among the artifacts of
each. -/
def serveBuilds (artifacts : List BuildkiteArtifact) (body : Option Json) (states : List String) :
    (o : SchedOp) → ℕ → SchedAns o × ℕ
  | .ext (.createOnDemandBuildOrAdopt _), n => (.ok (.ok ⟨"on-demand", n, "url", none⟩), n)
  | .ext (.waitForBuild _ number url), n => (.ok (pollBuild url number artifacts [states[n]?]), n + 1)
  | .ext (.downloadArtifact _), n => (.ok body, n)
  | .ext (.saveCIEvalResult _), n => (.ok (), n)
  | .ext _, n => (.error ⟨"unavailable", none⟩, n)
  | .queue _, n => (.error ⟨"unavailable", none⟩, n)
  | .own a, n => ((a.apply {}).1, n)
  | .now, n => (0, n)
  | .randomUUID, n => ("", n)
  | .stage1Failed _, n => ((), n)

theorem pollsBuilds_serveBuilds {α : Type} {artifacts : List BuildkiteArtifact} {body : Option Json}
    {states : List String} (x : SchedJs α) :
    PollsBuilds (x.run.drive (serveBuilds artifacts body states) 0).1 := by
  intro e he
  have hserved := (chain_drive (serveBuilds artifacts body states) x.run 0).steps e he
  obtain ⟨o, r, pre, post⟩ := e
  obtain rfl : (serveBuilds artifacts body states o pre).1 = r := congrArg Prod.fst hserved
  cases o with
  | ext c =>
    cases c with
    | waitForBuild slug number url =>
      rintro build hbuild
      exact ⟨artifacts, [states[pre]?], (Except.ok.inj hbuild).symm⟩
    | _ => trivial
  | _ => trivial

/-- A run of entry 0 that passed Stage 1. -/
def benchedRun : PipelineRun :=
  { entryZeroRun with benchmarkResult := some {
      runId := "run", modelId := "m", queueEntryId := 0, status := .success
      metrics := some ⟨10, 20, 100, 50, 60⟩, startedAt := 0, completedAt := 0 } }

/-- The history of its evals of one suite, and what they end with. -/
def liveEvals (artifacts : List BuildkiteArtifact) (body : Option Json) (states : List String) :
    List (Event SchedAns ℕ) × Except JsError Stage2Result × ℕ :=
  (pollWeeklyMatrix oneSuite benchedRun (ciMatrix oneSuite emptySession none)).run.drive
    (serveBuilds artifacts body states) 0

/-- The eval summary of a build, nine of whose ten cases passed. -/
def nineOfTen : Json := .obj [("total", .num 10 "10"), ("passed", .num 9 "9")]

/-- The Stage 2 result of a suite whose build failed twice with that summary. -/
def nineTenths : Stage2Result where
  runId := "run"
  modelId := "m"
  status := .failed
  scores := some [("esql", 9 / 10)]
  suiteResults := some
    [⟨"esql", "fail", some (9 / 10), some "Buildkite eval build #1 failed", none, none⟩]
  reason := some "Kibana CI eval failed (build #1)"
  startedAt := 0
  completedAt := 0

/-- The Stage 2 result of a suite whose build passed. -/
def passedStage2 : Stage2Result where
  runId := "run"
  modelId := "m"
  status := .success
  scores := some [("esql", 1)]
  suiteResults := some [⟨"esql", "pass", some 1, none, none, none⟩]
  startedAt := 0
  completedAt := 0

/-- The report that is stored on a run with a Stage 2 result. -/
def liveReport (stage2 : Stage2Result) : StoredReport :=
  storedReport (benchedRun.evaluated stage2 none) 80 0

theorem eq_ok_of_toOption {ε α : Type} {x : Except ε α} {a : α} (h : x.toOption = some a) :
    x = .ok a := by
  cases x with
  | error e => cases h
  | ok b => exact congrArg _ (Option.some.inj h)

theorem runs_liveEvals {artifacts : List BuildkiteArtifact} {body : Option Json}
    {states : List String} {stage2 : Stage2Result}
    (h : (liveEvals artifacts body states).2.1 = .ok stage2) :
    (pollWeeklyMatrix oneSuite benchedRun (ciMatrix oneSuite emptySession none)).run.Runs
      (liveEvals artifacts body states).1 (.ok stage2) := by
  rw [← h]
  exact runs_drive _ _ _

/-- **A report that the summary decided is not regenerated.** The suite's build fails with nine of ten
cases passed, which is enough for an investigation; the regenerated report counts the build as zero
and rejects the model. -/
theorem summary_not_regenerated :
    ∃ (es : List (Event SchedAns ℕ)) (stage2 : Stage2Result) (store : RegenStore),
      (pollWeeklyMatrix oneSuite benchedRun (ciMatrix oneSuite emptySession none)).run.Runs es
        (.ok stage2) ∧ PollsBuilds es ∧ Persisted store benchedRun es stage2 (liveReport stage2) ∧
      (liveReport stage2).verdict = .investigate ∧
      (liveReport stage2).passingEvals = [⟨"esql", 9 / 10, 4 / 5, true⟩] ∧
      ∃ report, regenerateRecommendation ⟨fun _ => [], fun _ => none⟩ store 80 "m" 0 = .ok report ∧
        report.verdict = .reject ∧ report.passingEvals = [⟨"esql", 0, 4 / 5, false⟩] ∧
        ¬Agrees report.toBuiltReport (liveReport stage2).toBuiltReport := by
  have hruns := @runs_liveEvals [⟨"eval-results.json", "url"⟩] (some nineOfTen) ["failed", "failed"]
    nineTenths (by decide +kernel)
  have hp := @pollsBuilds_serveBuilds _ [⟨"eval-results.json", "url"⟩] (some nineOfTen)
    ["failed", "failed"] (pollWeeklyMatrix oneSuite benchedRun (ciMatrix oneSuite emptySession none))
  obtain ⟨outcomes, -, -, hsaves, -⟩ := runs_pollWeeklyMatrix hp hruns
  refine ⟨_, nineTenths, storeAfter _ nineTenths (liveReport nineTenths), hruns, hp,
    persisted_storeAfter hsaves rfl, by decide +kernel, by decide +kernel, ?_⟩
  have hreport : (regenerateRecommendation ⟨fun _ => [], fun _ => none⟩ (storeAfter
      (liveEvals [⟨"eval-results.json", "url"⟩] (some nineOfTen) ["failed", "failed"]).1
      nineTenths (liveReport nineTenths)) 80 "m" 0).toOption.map
        (fun r => (r.verdict, r.passingEvals)) = some (.reject, [⟨"esql", 0, 4 / 5, false⟩]) := by
    decide +kernel
  obtain ⟨report, hok, hfields⟩ := Option.map_eq_some_iff.mp hreport
  obtain ⟨hverdict, hevals⟩ := Prod.mk.inj hfields
  refine ⟨report, eq_ok_of_toOption hok, hverdict, hevals, fun hagrees => ?_⟩
  have := hagrees.verdict
  rw [hverdict] at this
  exact absurd this (by decide +kernel)

/-- A suite whose first build was skipped and whose second one passed is reported alike. -/
theorem skippedOnce_regenerated : ∃ (store : RegenStore) (report : StoredReport),
    Persisted store benchedRun (liveEvals [] none ["skipped", "passed"]).1 passedStage2
      (liveReport passedStage2) ∧
    regenerateRecommendation ⟨fun _ => [], fun _ => none⟩ store 80 "m" 0 = .ok report ∧
    Agrees report.toBuiltReport (liveReport passedStage2).toBuiltReport := by
  have hruns := @runs_liveEvals [] none ["skipped", "passed"] passedStage2 (by decide +kernel)
  have hp := @pollsBuilds_serveBuilds _ [] none ["skipped", "passed"]
    (pollWeeklyMatrix oneSuite benchedRun (ciMatrix oneSuite emptySession none))
  obtain ⟨outcomes, hbuilds, -, hsaves, -⟩ := runs_pollWeeklyMatrix hp hruns
  have hbuilds' : FinalBuilds oneSuite benchedRun (ciMatrix oneSuite emptySession none)
      (liveEvals [] none ["skipped", "passed"]).1
      [⟨"esql", pollBuild "url" 1 [] [some "passed"], none, 0⟩] :=
    ⟨((perSuiteOutcomes oneSuite benchedRun emptySession ["esql"]).run.drive
      (serveBuilds [] none ["skipped", "passed"]) 0).1, [], rfl, runs_drive _ _ _⟩
  obtain rfl := hbuilds.unique hbuilds'
  have hstore : Persisted (storeAfter (liveEvals [] none ["skipped", "passed"]).1 passedStage2
      (liveReport passedStage2)) benchedRun (liveEvals [] none ["skipped", "passed"]).1 passedStage2
      (liveReport passedStage2) := persisted_storeAfter hsaves rfl
  have hagree : ∃ report, regenerateRecommendation ⟨fun _ => [], fun _ => none⟩ (storeAfter
      (liveEvals [] none ["skipped", "passed"]).1 passedStage2 (liveReport passedStage2)) 80 "m" 0 =
        .ok report ∧ Agrees report.toBuiltReport (liveReport passedStage2).toBuiltReport :=
    (regenerated_agrees_iff hruns hp hbuilds' hstore).mpr
      { ran := List.cons_ne_nil _ _
        distinct := by decide
        found := by decide +kernel
        bare := by decide +kernel
        stage1 := fun _ => .inl rfl }
  obtain ⟨report, hreport, hagrees⟩ := hagree
  exact ⟨_, report, hstore, hreport, hagrees⟩

end Benchmarker
