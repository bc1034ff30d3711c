import Benchmarker.CiEval.SkipSet

/-!
# Resumed and uninterrupted CI evals

Under fixed build outcomes a run of all suites and a resumed run with the skip set of the recorded
rows are compared on what they report: status, scores and suite results.

* `suiteReport`, **`eval_pollWeeklyMatrix`**: what a run reports, suite by suite.
* `CleanPass`: the builds whose report a skipped suite would match.
* **`resumed_sameReport`**: both report the same exactly when nothing is skipped, or everything is
  and every build passed cleanly. `failedSuite_reportedAsPass`: a run where they differ.
-/

namespace Benchmarker

open Js Async Async.Prog

section Suites

variable (env : ∀ o, SchedAns o) (settings : BuildkiteSettings) (run : PipelineRun)
variable (session : EvalSession)

/-! ## What a suite reports -/

/-- The finished build of a suite; `none` when its trigger is rejected. -/
def builtBy (suite : String) : Option BuildkiteBuildResult :=
  match env (.ext (.createOnDemandBuildOrAdopt (triggerOptions run session suite))) with
  | .ok (.ok t) => (env (.ext (.waitForBuild t.pipelineSlug t.buildNumber t.buildUrl))).toOption
  | _ => none

/-- The build outcome of a suite. -/
def buildOutcome (suite : String) : BuildkiteBuildResult :=
  (builtBy env run session suite).getD rejectedBuild

/-- The eval summary among the artifacts of a build. -/
def artifactSummary (build : BuildkiteBuildResult) : Option EvalArtifactSummary :=
  ((build.artifacts.getD []).filter isSummaryArtifact).findSome? fun a =>
    (env (.ext (.downloadArtifact a.url))).toOption.bind parseEvalArtifactJson

/-- The result that a run reports for a suite. -/
def suiteReport (suite : String) : Stage2Result :=
  let build := buildOutcome env run session suite
  mapBuildkiteResultToStage2 run.runId run.modelId [suite] build (artifactSummary env build)
    (some session.startedAt) (env .now)

variable {env settings run session} {suite : String}

theorem eval_triggerAndWait {n : ℕ} {o : Option BuildkiteBuildResult}
    (h : (triggerAndWait settings run session suite n).run.eval env = .ok o) :
    o = builtBy env run session suite := by
  unfold triggerAndWait at h
  obtain ⟨t, ht, h⟩ := eval_ok_bind.mp h
  rw [eval_extCall] at ht
  cases t with
  | error e =>
    have : o = none := (Except.ok.inj h).symm
    rw [this, builtBy, ht]
  | ok t =>
    obtain ⟨-, -, h⟩ := eval_ok_bind.mp h
    obtain ⟨b, hb, h⟩ := eval_ok_bind.mp h
    obtain ⟨-, -, h⟩ := eval_ok_bind.mp h
    have : o = some b := (Except.ok.inj h).symm
    rw [eval_extCall] at hb
    rw [this, builtBy, ht]
    simp only [hb, Except.toOption]

/-- The loop returns the outcome of the build, however often it triggers it. -/
theorem eval_suiteLoop {evalRetry : Option (ℕ → ℕ → SchedJs BuildkiteBuildResult)}
    (hretry : ∀ again ∈ evalRetry, ∀ i n b, (again i n).run.eval env = .ok b →
      b = buildOutcome env run session suite) {infraLeft n : ℕ} {b : BuildkiteBuildResult}
    (h : (suiteLoop settings run session suite evalRetry infraLeft n).run.eval env = .ok b) :
    b = buildOutcome env run session suite := by
  have hdone : ∀ {o : Option BuildkiteBuildResult} {c : BuildkiteBuildResult},
      o = builtBy env run session suite → o.getD rejectedBuild = c →
        c = buildOutcome env run session suite := by
    rintro o c rfl rfl; rfl
  induction infraLeft generalizing n with
  | zero =>
    unfold suiteLoop at h
    obtain ⟨o, ho, h⟩ := eval_ok_bind.mp h
    have ho := eval_triggerAndWait ho
    cases o with
    | none => exact hdone ho (Except.ok.inj h)
    | some b' =>
      dsimp only at h
      split at h
      · cases evalRetry with
        | none => exact hdone ho (Except.ok.inj h)
        | some again => exact hretry again rfl _ _ _ h
      · exact hdone ho (Except.ok.inj h)
  | succ infraLeft ih =>
    unfold suiteLoop at h
    obtain ⟨o, ho, h⟩ := eval_ok_bind.mp h
    have ho := eval_triggerAndWait ho
    cases o with
    | none => exact hdone ho (Except.ok.inj h)
    | some b' =>
      dsimp only at h
      split at h
      · obtain ⟨-, -, h⟩ := eval_ok_bind.mp h
        exact ih h
      · split at h
        · cases evalRetry with
          | none => exact hdone ho (Except.ok.inj h)
          | some again => exact hretry again rfl _ _ _ h
        · exact hdone ho (Except.ok.inj h)

theorem eval_runSuiteBuild {b : BuildkiteBuildResult}
    (h : (runSuiteBuild settings run session suite).run.eval env = .ok b) :
    b = buildOutcome env run session suite := by
  refine eval_suiteLoop (fun again hagain i n b hb => ?_) h
  split at hagain
  · obtain rfl := Option.some.inj hagain
    exact eval_suiteLoop (by simp) hb
  · cases hagain

theorem eval_firstSummary {artifacts : List BuildkiteArtifact} {o : Option EvalArtifactSummary}
    (h : (firstSummary artifacts).run.eval env = .ok o) :
    o = artifacts.findSome? fun a =>
      (env (.ext (.downloadArtifact a.url))).toOption.bind parseEvalArtifactJson := by
  induction artifacts with
  | nil => exact (Except.ok.inj h).symm
  | cons a artifacts ih =>
    unfold firstSummary at h
    obtain ⟨body, hbody, h⟩ := eval_ok_bind.mp h
    rw [eval_extCall] at hbody
    rw [List.findSome?_cons, hbody]
    simp only [Except.toOption, Option.bind_some]
    cases hp : parseEvalArtifactJson body with
    | none => rw [hp] at h; exact ih h
    | some summary => rw [hp] at h; exact (Except.ok.inj h).symm

/-- **What the loop body of `pollWeeklyMatrix` returns.** -/
theorem eval_suiteStage2 {r : Stage2Result}
    (h : (suiteStage2 settings run session suite).run.eval env = .ok r) :
    r = suiteReport env run session suite := by
  unfold suiteStage2 at h
  obtain ⟨b, hb, h⟩ := eval_ok_bind.mp h
  obtain ⟨summary, hs, h⟩ := eval_ok_bind.mp h
  obtain rfl := eval_runSuiteBuild hb
  obtain rfl := eval_firstSummary hs
  exact (Except.ok.inj h).symm

/-- A list of suites returns the reports of its suites, if it returns. -/
theorem eval_perSuiteStage2 {suites : List String} {rs : List Stage2Result} :
    (perSuiteStage2 settings run session suites).run.eval env = .ok rs ↔
      rs = suites.map (suiteReport env run session) ∧ ∀ s ∈ suites,
        (suiteStage2 settings run session s).run.eval env = .ok (suiteReport env run session s) := by
  induction suites generalizing rs with
  | nil => simp [perSuiteStage2, eq_comm]
  | cons s suites ih =>
    simp only [perSuiteStage2, eval_ok_bind, ih, eval_throws_pure, Except.ok.injEq, List.map_cons,
      List.forall_mem_cons]
    constructor
    · rintro ⟨r, hr, rs', ⟨rfl, hall⟩, rfl⟩
      obtain rfl := eval_suiteStage2 hr
      exact ⟨rfl, hr, hall⟩
    · rintro ⟨rfl, hr, hall⟩
      exact ⟨_, hr, _, ⟨rfl, hall⟩, rfl⟩

end Suites

/-! ## Merged reports -/

/-- What a result reports about its suites. -/
def Stage2Result.report (r : Stage2Result) :
    Stage2Status × Option (JsMap String ℚ) × Option (List SuiteResult) :=
  (r.status, r.scores, r.suiteResults)

section Merged

variable (env : ∀ o, SchedAns o) (run : PipelineRun) (session : EvalSession)

/-- The pass rate of a suite. -/
def suiteRate (suite : String) : ℚ :=
  let build := buildOutcome env run session suite
  buildPassRate build.status (artifactSummary env build)

/-- The suite results of a suite. -/
def suiteResultsOf (suite : String) : List SuiteResult :=
  let build := buildOutcome env run session suite
  buildSuiteResults suite build (artifactSummary env build)

/-- The report of a run over a list of suites. -/
def mergedReport (suites : List String) :
    Stage2Status × Option (JsMap String ℚ) × Option (List SuiteResult) :=
  (if ∀ s ∈ suites, (buildOutcome env run session s).status = .passed then .success else .failed,
    some (JsMap.assign [] (suites.map fun s => (s, suiteRate env run session s))),
    some (suites.flatMap (suiteResultsOf env run session)))

variable {env run session} {settings : BuildkiteSettings} {matrix : MatrixRun}

variable (env run session) in
/-- A suite with its build outcome. -/
def reportedOutcome (suite : String) : SuiteOutcome where
  suite := suite
  build := buildOutcome env run session suite
  summary := artifactSummary env (buildOutcome env run session suite)
  now := env .now

/-- **The merged result reports the suites one by one.** -/
theorem report_merge {suites : List String} (h : suites ≠ []) :
    ∃ r, mergeStage2Results (suites.map (suiteReport env run session)) = .ok r ∧
      r.report = mergedReport env run session suites := by
  have hne : suites.map (reportedOutcome env run session) ≠ [] := by simpa using h
  obtain ⟨r, hr, hstatus, hscores, hresults, -⟩ :=
    @merge_outcomes _ run.runId run.modelId session.startedAt hne
  rw [List.map_map] at hr hscores
  refine ⟨r, hr, ?_⟩
  simp only [Stage2Result.report, mergedReport, Prod.mk.injEq]
  refine ⟨?_, hscores, ?_⟩
  · rw [hstatus]
    simp only [List.forall_mem_map, SuiteOutcome.passed, reportedOutcome, decide_eq_true_eq]
  · rw [hresults, List.flatMap_map]
    rfl

/-- A run over some suites returns their merged report, if every suite returns. -/
theorem eval_pollWeeklyMatrix (hne : matrix.suitesToRun ≠ [])
    (hall : ∀ s ∈ matrix.suitesToRun, (suiteStage2 settings run matrix.session s).run.eval env =
      .ok (suiteReport env run matrix.session s)) :
    ∃ r, (pollWeeklyMatrix settings run matrix).run.eval env = .ok r ∧
      r.report = mergedReport env run matrix.session matrix.suitesToRun := by
  obtain ⟨r, hr, hreport⟩ : ∃ r, mergeStage2Results (matrix.suitesToRun.map
      (suiteReport env run matrix.session)) = .ok r ∧ r.report = mergedReport env run
        matrix.session matrix.suitesToRun := report_merge hne
  refine ⟨r, ?_, hreport⟩
  rw [pollWeeklyMatrix, if_neg hne]
  refine eval_ok_bind.mpr ⟨_, eval_perSuiteStage2.mpr ⟨rfl, hall⟩, ?_⟩
  rw [if_neg (by simpa using hne), hr]
  rfl

/-- A run that returns a result has a report of every suite that it ran. -/
theorem suites_of_eval_pollWeeklyMatrix {u : Stage2Result}
    (h : (pollWeeklyMatrix settings run matrix).run.eval env = .ok u) :
    ∀ s ∈ matrix.suitesToRun, (suiteStage2 settings run matrix.session s).run.eval env =
      .ok (suiteReport env run matrix.session s) := by
  by_cases hne : matrix.suitesToRun = []
  · simp [hne]
  · rw [pollWeeklyMatrix, if_neg hne] at h
    obtain ⟨rs, hrs, -⟩ := eval_ok_bind.mp h
    exact (eval_perSuiteStage2.mp hrs).2

end Merged

/-! ## Clean passes -/

/-- A build whose report is the one that a resumed run makes up for a skipped suite: it passed at
rate one, without cases or with the suite itself as its only, passing case. -/
structure CleanPass (suite : String) (build : BuildkiteBuildResult)
    (summary : Option EvalArtifactSummary) : Prop where
  passed : build.status = .passed
  rate : buildPassRate build.status summary = 1
  cases : (summary.bind (·.cases)).getD [] = [] ∨ ∃ status,
    (summary.bind (·.cases)).getD [] = [⟨suite, status, none⟩] ∧
      (status = "passed" ∨ status = "pass")

/-- The suite result of a skipped suite. -/
def skippedResult (suite : String) : SuiteResult where
  suite := suite
  status := "pass"
  score := some 1

theorem cleanPass_iff {suite : String} {build : BuildkiteBuildResult}
    {summary : Option EvalArtifactSummary} : CleanPass suite build summary ↔
      build.status = .passed ∧ buildPassRate build.status summary = 1 ∧
        buildSuiteResults suite build summary = [skippedResult suite] := by
  constructor
  · rintro ⟨hp, hr, hc⟩
    refine ⟨hp, hr, ?_⟩
    unfold buildSuiteResults
    rcases hc with hc | ⟨status, hc, hs⟩
    · rw [hc]
      simp only [hp, ↓reduceIte, skippedResult]
      rw [← hp, hr]
      simp [hp]
    · rw [hc]
      simp [caseResult, skippedResult, hs]
  · rintro ⟨hp, hr, hs⟩
    refine ⟨hp, hr, ?_⟩
    unfold buildSuiteResults at hs
    cases hc : (summary.bind (·.cases)).getD [] with
    | nil => exact .inl rfl
    | cons c cs =>
      rw [hc] at hs
      obtain ⟨hhead, htail⟩ := List.cons.inj hs
      obtain rfl : cs = [] := List.map_eq_nil_iff.mp htail
      simp only [caseResult, skippedResult, SuiteResult.mk.injEq] at hhead
      obtain ⟨hname, hstatus, -, herror, -⟩ := hhead
      refine .inr ⟨c.status, ?_, ?_⟩
      · rw [← hname, ← herror]
      · by_contra hno
        rw [if_neg hno] at hstatus
        simp at hstatus

/-- Nonempty pieces that make up a list of the same length are single elements. -/
theorem flatMap_eq_map_iff {α β : Type} {f : α → List β} {g : α → β} {l : List α}
    (hf : ∀ a ∈ l, f a ≠ []) : l.flatMap f = l.map g ↔ ∀ a ∈ l, f a = [g a] := by
  have hlen : ∀ l : List α, (∀ a ∈ l, f a ≠ []) → l.length ≤ (l.flatMap f).length := by
    intro l
    induction l with
    | nil => simp
    | cons a l ih =>
      intro h
      have := List.length_pos_iff.mpr (h a List.mem_cons_self)
      have := ih fun b hb => h b (List.mem_cons_of_mem _ hb)
      simp only [List.flatMap_cons, List.length_append, List.length_cons]
      omega
  induction l with
  | nil => simp
  | cons a l ih =>
    have hf' : ∀ b ∈ l, f b ≠ [] := fun b hb => hf b (List.mem_cons_of_mem _ hb)
    rw [List.forall_mem_cons, List.flatMap_cons, List.map_cons]
    constructor
    · intro h
      cases hfa : f a with
      | nil => exact absurd hfa (hf a List.mem_cons_self)
      | cons b bs =>
        rw [hfa, List.cons_append] at h
        obtain ⟨rfl, hrest⟩ := List.cons.inj h
        have hle := hlen l hf'
        have hbs : bs = [] := by
          have := congrArg List.length hrest
          simp only [List.length_append, List.length_map] at this
          exact List.length_eq_zero_iff.mp (by omega)
        subst hbs
        exact ⟨rfl, (ih hf').mp hrest⟩
    · rintro ⟨ha, hrest⟩
      rw [ha, (ih hf').mpr hrest]
      rfl

/-- Dropping an element drops its nonempty piece. -/
theorem flatMap_filter_eq_iff {α β : Type} {f : α → List β} {p : α → Bool} {l : List α}
    (hf : ∀ a ∈ l, f a ≠ []) : (l.filter p).flatMap f = l.flatMap f ↔ ∀ a ∈ l, p a = true := by
  have hle : ∀ l : List α, ((l.filter p).flatMap f).length ≤ (l.flatMap f).length := by
    intro l
    induction l with
    | nil => simp
    | cons a l ih =>
      by_cases ha : p a = true
      · simp only [List.filter_cons_of_pos ha, List.flatMap_cons, List.length_append]
        omega
      · simp only [List.filter_cons_of_neg ha, List.flatMap_cons, List.length_append]
        omega
  constructor
  · intro h
    induction l with
    | nil => simp
    | cons a l ih =>
      by_cases ha : p a = true
      · rw [List.filter_cons_of_pos ha, List.flatMap_cons, List.flatMap_cons,
          List.append_cancel_left_eq] at h
        exact List.forall_mem_cons.mpr
          ⟨ha, ih (fun b hb => hf b (List.mem_cons_of_mem _ hb)) h⟩
      · rw [List.filter_cons_of_neg ha, List.flatMap_cons] at h
        have hlen := congrArg List.length h
        have hpos := List.length_pos_iff.mpr (hf a List.mem_cons_self)
        have := hle l
        rw [List.length_append] at hlen
        omega
  · intro h
    rw [List.filter_eq_self.mpr h]

/-! ## Resumed runs -/

section Resumed

variable (env : ∀ o, SchedAns o) (settings : BuildkiteSettings) (run : PipelineRun)
variable (session : EvalSession)

/-- A suite that the recorded rows of the entry count as done. -/
def Recorded (suite : String) : Prop :=
  suite ∈ settings.defaultEvalSuites.getD [] ∧
    ∃ row ∈ entryRows env run.modelId run.queueEntryId, suite ∈ row.evalSuites ∧ RowDone env row

/-- The build of a suite passed cleanly. -/
def BuiltClean (suite : String) : Prop :=
  let build := buildOutcome env run session suite
  CleanPass suite build (artifactSummary env build)

variable {env settings run session}

theorem get_assign_map {f : String → ℚ} {suites : List String} {s : String} (hs : s ∈ suites) :
    (JsMap.assign [] (suites.map fun t => (t, f t))).get s = some (f s) := by
  have hget : ∀ l : List String, s ∈ l →
      JsMap.get (l.map fun t => (t, f t)) s = some (f s) := by
    intro l
    induction l with
    | nil => simp
    | cons t l ih =>
      intro h
      rw [List.map_cons, JsMap.get_cons]
      by_cases ht : t = s
      · rw [if_pos ht, ht]
      · rw [if_neg ht]
        exact ih ((List.mem_cons.mp h).resolve_left (Ne.symm ht))
  rw [JsMap.get_assign, ← List.map_reverse, hget _ (List.mem_reverse.mpr hs)]
  rfl

/-- The result of a run that skips everything reports what the merged reports of clean passes
report, and no other. -/
theorem report_resume_eq_iff {suites : List String} {startedAt now : Time} :
    (buildResumeStage2Result run.runId run.modelId suites startedAt now).report =
        mergedReport env run session suites ↔ ∀ s ∈ suites, BuiltClean env run session s := by
  have hne : ∀ s ∈ suites, suiteResultsOf env run session s ≠ [] := fun s _ =>
    buildSuiteResults_ne_nil _ _ _
  have hskip : suites.map skippedResult = suites.flatMap (suiteResultsOf env run session) ↔
      ∀ s ∈ suites, suiteResultsOf env run session s = [skippedResult s] := by
    rw [← flatMap_eq_map_iff hne, eq_comm]
  simp only [Stage2Result.report, mergedReport, buildResumeStage2Result, Prod.mk.injEq,
    Option.some.injEq]
  constructor
  · rintro ⟨hstatus, hscores, hresults⟩ s hs
    have hpassed : ∀ s ∈ suites, (buildOutcome env run session s).status = .passed := by
      by_contra hno
      rw [if_neg hno] at hstatus
      cases hstatus
    have hrate : suiteRate env run session s = 1 := by
      have := congrArg (JsMap.get · s) hscores
      simp only [get_assign_map hs, Option.some.injEq] at this
      exact this.symm
    exact cleanPass_iff.mpr ⟨hpassed s hs, hrate, hskip.mp hresults s hs⟩
  · intro h
    have hclean := fun s hs => cleanPass_iff.mp (h s hs)
    refine ⟨by rw [if_pos fun s hs => (hclean s hs).1], ?_, hskip.mpr fun s hs => (hclean s hs).2.2⟩
    refine congrArg _ (List.map_congr_left fun s hs => ?_)
    rw [show suiteRate env run session s = 1 from (hclean s hs).2.1]

theorem suitesToRun_eq_filter {skip : Option (List String)} :
    (ciMatrix settings session skip).suitesToRun =
      (ciMatrix settings session none).evalSuites.filter fun id => id ∉ skip.getD [] := rfl

theorem suitesToRun_none : (ciMatrix settings session none).suitesToRun =
    (ciMatrix settings session none).evalSuites := by
  rw [suitesToRun_eq_filter]
  simp

/-- A run that skips no configured suite is the uninterrupted run. -/
theorem pollWeeklyMatrix_congr {m m' : MatrixRun} (hrun : m.suitesToRun = m'.suitesToRun)
    (hsuites : m.evalSuites = m'.evalSuites) (hsession : m.session = m'.session) :
    pollWeeklyMatrix settings run m = pollWeeklyMatrix settings run m' := by
  unfold pollWeeklyMatrix
  rw [hrun, hsuites, hsession]

/-- **A resumed run reports what the uninterrupted run reports** exactly when the recorded rows let
it skip nothing, or let it skip every suite and every suite's build passed cleanly. -/
theorem resumed_sameReport {u : Stage2Result} {skip : Option (List String)}
    (hu : (pollWeeklyMatrix settings run (ciMatrix settings session none)).run.eval env = .ok u)
    (hskip : (resumeSkipSet settings run.modelId run.queueEntryId true).run.eval env = .ok skip) :
    ∃ r, (pollWeeklyMatrix settings run (ciMatrix settings session skip)).run.eval env = .ok r ∧
      (r.report = u.report ↔
        (∀ s ∈ (ciMatrix settings session none).evalSuites, ¬Recorded env settings run s) ∨
        ∀ s ∈ (ciMatrix settings session none).evalSuites,
          Recorded env settings run s ∧ BuiltClean env run session s) := by
  set suites := (ciMatrix settings session none).evalSuites with hsuites
  have hrec : ∀ s, s ∈ skip.getD [] ↔ Recorded env settings run s := fun s => mem_resumeSkipSet hskip
  have hran : ∀ s ∈ suites, (suiteStage2 settings run session s).run.eval env =
      .ok (suiteReport env run session s) := by
    have := suites_of_eval_pollWeeklyMatrix hu
    rwa [suitesToRun_none] at this
  by_cases hnone : ∀ s ∈ suites, ¬Recorded env settings run s
  · -- nothing is skipped
    refine ⟨u, ?_, iff_of_true rfl (.inl hnone)⟩
    rw [← hu]
    refine congrArg (fun p : SchedJs Stage2Result => p.run.eval env)
      (pollWeeklyMatrix_congr ?_ rfl rfl)
    rw [suitesToRun_none, suitesToRun_eq_filter, List.filter_eq_self]
    exact fun s hs => by simpa [hrec] using hnone s hs
  have hne : suites ≠ [] := by
    rintro hnil
    exact hnone (by simp [hnil])
  have hreport : u.report = mergedReport env run session suites := by
    obtain ⟨u', hu', hreport⟩ : ∃ u', (pollWeeklyMatrix settings run
        (ciMatrix settings session none)).run.eval env = .ok u' ∧ u'.report = mergedReport env run
          session (ciMatrix settings session none).suitesToRun :=
      eval_pollWeeklyMatrix (by rwa [suitesToRun_none]) (by rw [suitesToRun_none]; exact hran)
    obtain rfl := Except.ok.inj (hu.symm.trans hu')
    rwa [suitesToRun_none] at hreport
  by_cases hall : ∀ s ∈ suites, Recorded env settings run s
  · -- everything is skipped
    have hrun : (ciMatrix settings session skip).suitesToRun = [] := by
      rw [suitesToRun_eq_filter, List.filter_eq_nil_iff]
      exact fun s hs => by simpa [hrec] using hall s hs
    refine ⟨buildResumeStage2Result run.runId run.modelId suites session.startedAt (env .now),
      by rw [pollWeeklyMatrix, if_pos hrun]; rfl, ?_⟩
    rw [hreport, report_resume_eq_iff]
    constructor
    · exact fun h => .inr fun s hs => ⟨hall s hs, h s hs⟩
    · rintro (h | h)
      · exact absurd h hnone
      · exact fun s hs => (h s hs).2
  · -- some suites are skipped and some are run again
    have hpiece : ∀ s ∈ suites, suiteResultsOf env run session s ≠ [] := fun s _ =>
      buildSuiteResults_ne_nil _ _ _
    have hrun : (ciMatrix settings session skip).suitesToRun ≠ [] := by
      rw [suitesToRun_eq_filter]
      intro hnil
      rw [List.filter_eq_nil_iff] at hnil
      exact hall fun s hs => by simpa [hrec] using hnil s hs
    obtain ⟨r, hr, hr'⟩ : ∃ r, (pollWeeklyMatrix settings run
        (ciMatrix settings session skip)).run.eval env = .ok r ∧
          r.report = mergedReport env run session (suites.filter fun id => id ∉ skip.getD []) :=
      eval_pollWeeklyMatrix hrun fun s hs => hran s (List.mem_of_mem_filter hs)
    refine ⟨r, hr, iff_of_false (fun h => hnone ?_) ?_⟩
    · rw [hr', hreport] at h
      obtain ⟨-, -, hresults⟩ : _ ∧ _ ∧ _ := by
        simpa only [mergedReport, Prod.mk.injEq, Option.some.injEq] using h
      rw [flatMap_filter_eq_iff hpiece] at hresults
      exact fun s hs => by simpa [hrec] using hresults s hs
    · rintro (h | h)
      · exact hnone h
      · exact hall fun s hs => (h s hs).1

end Resumed

/-! ## One recorded suite -/

/-- Answers in which every build ends as `build` and `rows` are recorded. -/
def recordedEnv (build : BuildkiteBuildResult) (rows : List CIEvalResult) :
    (o : SchedOp) → SchedAns o
  | .ext (.getCIEvalResults _ _) => .ok rows
  | .ext (.createOnDemandBuildOrAdopt _) => .ok (.ok ⟨"on-demand", 7, "url", none⟩)
  | .ext (.waitForBuild _ _ _) => .ok build
  | .ext (.saveCIEvalResult _) => .ok ()
  | .ext _ => .error ⟨"unavailable", none⟩
  | .queue _ => .error ⟨"unavailable", none⟩
  | .own a => (a.apply {}).1
  | .now => 0
  | .randomUUID => ""
  | .stage1Failed _ => ()

/-- The finished build number 7 of a suite. -/
def finishedBuild (status : BuildStatus) (state : String) : BuildkiteBuildResult :=
  ⟨"url", 7, status, some state, none⟩

/-- The row that a run of entry 0 records for the finished build of one suite. -/
def finishedRow (suite : String) (status : CIEvalStatus) (state : String) : CIEvalResult where
  runId := "run"
  queueEntryId := some 0
  modelId := "m"
  buildkiteBuildUrl := "url"
  buildkiteBuildNumber := 7
  pipelineSlug := "kibana-evals-weekly-llm-evals"
  status := status
  buildkiteState := some state
  evalSuites := [suite]
  startedAt := 0
  completedAt := 0
  retryCount := 1
  connectorJson := ""

def oneSuite : BuildkiteSettings := { defaultEvalSuites := some ["esql"] }

def entryZeroRun : PipelineRun where
  runId := "run"
  modelId := "m"
  queueEntryId := 0
  startedAt := 0

def emptySession : EvalSession := ⟨"", "", 0⟩

/-- Answers in which the suite passed before the restart. -/
def passedEnv : (o : SchedOp) → SchedAns o :=
  recordedEnv (finishedBuild .passed "passed") [finishedRow "esql" .passed "passed"]

/-- A suite that passed before the restart is reported alike. -/
theorem passedSuite_sameReport : ∃ u r,
    (pollWeeklyMatrix oneSuite entryZeroRun (ciMatrix oneSuite emptySession none)).run.eval
      passedEnv = .ok u ∧
    (pollWeeklyMatrix oneSuite entryZeroRun
      (ciMatrix oneSuite emptySession (some ["esql"]))).run.eval passedEnv = .ok r ∧
    r.report = u.report := by
  have hskip : (resumeSkipSet oneSuite "m" 0 true).run.eval passedEnv = .ok (some ["esql"]) := rfl
  have hclean : BuiltClean passedEnv entryZeroRun emptySession "esql" := ⟨rfl, rfl, .inl rfl⟩
  have hrec : Recorded passedEnv oneSuite entryZeroRun "esql" :=
    ⟨by decide, finishedRow "esql" .passed "passed", by decide, by decide, rfl⟩
  obtain ⟨u, hu⟩ : ∃ u, (pollWeeklyMatrix oneSuite entryZeroRun
      (ciMatrix oneSuite emptySession none)).run.eval passedEnv = .ok u := ⟨_, rfl⟩
  obtain ⟨r, hr, hiff⟩ := resumed_sameReport hu hskip
  refine ⟨u, r, hu, hr, hiff.mpr (.inr fun s hs => ?_)⟩
  obtain rfl := List.mem_singleton.mp hs
  exact ⟨hrec, hclean⟩

/-- **A failed suite is reported as passed.** The suite's build failed and was recorded so; the
uninterrupted run reports the failure, the resumed run a pass with score 1. -/
theorem failedSuite_reportedAsPass : ∃ (env : ∀ o, SchedAns o) (u r : Stage2Result),
    (pollWeeklyMatrix oneSuite entryZeroRun (ciMatrix oneSuite emptySession none)).run.eval env =
      .ok u ∧
    (resumeSkipSet oneSuite "m" 0 true).run.eval env = .ok (some ["esql"]) ∧
    (pollWeeklyMatrix oneSuite entryZeroRun
      (ciMatrix oneSuite emptySession (some ["esql"]))).run.eval env = .ok r ∧
    u.status = .failed ∧ r.status = .success ∧ u.report ≠ r.report ∧
    r.suiteResults = some [⟨"esql", "pass", some 1, none, none, none⟩] :=
  ⟨recordedEnv (finishedBuild .failed "failed") [finishedRow "esql" .failed "failed"],
    _, _, rfl, rfl, rfl, rfl, rfl, by decide, rfl⟩

end Benchmarker
