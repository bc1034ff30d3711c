import Mathlib.Data.List.Find
import Benchmarker.CiEval.Matrix
import Benchmarker.Scheduler.Course

/-!
# The rows of a CI eval run

The rows that `pollWeeklyMatrix` saves: two for every build that it waits for, one when the build is
triggered and one when it has ended or the wait has timed out. A build that is triggered again leaves
its rows behind.

* `pollBuild`, `PollsBuilds`: the builds that a history waits for are polled ones.
* `savedRows`, `lastTerminal`: the rows of a history, and the newest one of an ended build.
* `SavedFor`, **`runs_runSuiteBuild`**: the newest row of an ended build agrees with the build that a
  suite is reported with.
* `perSuiteOutcomes`, **`runs_pollWeeklyMatrix`**: the final builds of a run and their rows.
-/

namespace Benchmarker

open Js Async Async.Prog

variable {W : Type}

/-! ## Polled builds -/

/-- `TERMINAL_BUILDKITE_STATES`. -/
def terminalBuildkiteStates : List String := ["passed", "failed", "canceled", "skipped", "not_run"]

def isTerminalBuildkiteState (state : Option String) : Bool :=
  state.any fun s => terminalBuildkiteStates.contains s

def buildResultStatusFromBuildkiteState (state : String) : BuildStatus :=
  if state = "passed" then .passed else .failed

/-- `pollBuild`, with the states that its polls read until the timeout; a poll that fails or is
refused reads none. -/
def pollBuild (buildUrl : String) (buildNumber : ℕ) (artifacts : List BuildkiteArtifact) :
    List (Option String) → BuildkiteBuildResult
  | [] => ⟨buildUrl, buildNumber, .running, none, none⟩
  | none :: states => pollBuild buildUrl buildNumber artifacts states
  | some state :: states =>
    if isTerminalBuildkiteState (some state) then
      ⟨buildUrl, buildNumber, buildResultStatusFromBuildkiteState state, some state, some artifacts⟩
    else pollBuild buildUrl buildNumber artifacts states

section Polled

variable {url : String} {number : ℕ} {artifacts : List BuildkiteArtifact}
variable {states : List (Option String)}

/-- A build that Buildkite has not run did not pass. -/
theorem pollBuild_infra
    (h : isRetriableInfraState (pollBuild url number artifacts states).terminalState = true) :
    (pollBuild url number artifacts states).status ≠ .passed := by
  induction states with
  | nil => simp [pollBuild]
  | cons state states ih =>
    cases state with
    | none => exact ih h
    | some state =>
      unfold pollBuild at h ⊢
      split at h
      · rename_i hterminal
        rw [if_pos hterminal]
        intro hp
        have hstate : state = "passed" := by
          by_contra hno
          simp [buildResultStatusFromBuildkiteState, hno] at hp
        subst hstate
        have hfinal : isRetriableInfraState (some "passed") = false := by decide
        exact Bool.false_ne_true (hfinal.symm.trans h)
      · rename_i hterminal
        rw [if_neg hterminal]
        exact ih h

end Polled

/-- The answer to a wait for a build is one of `pollBuild`. -/
def Polled : (o : SchedOp) → SchedAns o → Prop
  | .ext (.waitForBuild _ number url), r => ∀ build, r = .ok build →
      ∃ artifacts states, build = pollBuild url number artifacts states
  | _, _ => True

/-- Every build that the history waited for was polled. -/
def PollsBuilds (es : List (Event SchedAns W)) : Prop := ∀ e ∈ es, Polled e.op e.ans

theorem pollsBuilds_append {es fs : List (Event SchedAns W)} :
    PollsBuilds (es ++ fs) ↔ PollsBuilds es ∧ PollsBuilds fs := List.forall_mem_append

/-! ## Saved rows -/

def SchedOp.savedRow : SchedOp → Option CIEvalResult
  | .ext (.saveCIEvalResult row) => some row
  | _ => none

/-- The rows that a history saves, in their order. -/
def savedRows (es : List (Event SchedAns W)) : List CIEvalResult := es.filterMap (·.op.savedRow)

@[simp] theorem savedRows_nil : savedRows ([] : List (Event SchedAns W)) = [] := rfl

@[simp] theorem savedRows_append (es fs : List (Event SchedAns W)) :
    savedRows (es ++ fs) = savedRows es ++ savedRows fs := List.filterMap_append

/-- The body saves no row. -/
abbrev SavesNone {α : Type} (x : SchedJs α) : Prop := x.run.Uses fun o => o.savedRow = none

theorem SavesNone.rows {α : Type} {x : SchedJs α} {es : List (Event SchedAns W)}
    {r : Except JsError α} (h : SavesNone x) (hr : x.run.Runs es r) : savedRows es = [] :=
  List.filterMap_eq_nil_iff.mpr (h.events hr)

/-- A row of a build that has ended. -/
def CIEvalResult.ended (row : CIEvalResult) : Bool := row.status ≠ .running

/-- The newest row of an ended build. -/
def lastTerminal (rows : List CIEvalResult) : Option CIEvalResult := rows.reverse.find? (·.ended)

theorem lastTerminal_append (rows rows' : List CIEvalResult) :
    lastTerminal (rows ++ rows') = (lastTerminal rows').or (lastTerminal rows) := by
  rw [lastTerminal, List.reverse_append, List.find?_append]
  rfl

/-! ## The rows of one suite -/

section Suite

variable {settings : BuildkiteSettings} {run : PipelineRun} {session : EvalSession} {suite : String}
variable {es : List (Event SchedAns W)}

/-- A row that the run saves for a suite. -/
structure RowOf (run : PipelineRun) (suite : String) (row : CIEvalResult) : Prop where
  runId_eq : row.runId = run.runId
  modelId_eq : row.modelId = run.modelId
  evalSuites_eq : row.evalSuites = [suite]

/-- The rows are saved for a suite, and the newest row of an ended build says that it passed exactly
when the build that the suite is reported with has. -/
structure SavedFor (run : PipelineRun) (suite : String) (build : BuildkiteBuildResult)
    (rows : List CIEvalResult) : Prop where
  mine : ∀ row ∈ rows, RowOf run suite row
  agrees : (lastTerminal rows).any (·.status = .passed) = decide (build.status = .passed)

section SavedFor

variable {build : BuildkiteBuildResult} {row row' : CIEvalResult} {rows rows' : List CIEvalResult}

/-- A rejected trigger leaves no row, and its suite is reported as failed. -/
theorem savedFor_rejected : SavedFor run suite rejectedBuild [] where
  mine := by simp
  agrees := by decide

/-- The two rows of one build. -/
theorem savedFor_pair (h : RowOf run suite row) (h' : RowOf run suite row')
    (hrow : row.status = .running) (hrow' : row'.status = build.status.toCIEval) :
    SavedFor run suite build [row, row'] where
  mine := by simp [h, h']
  agrees := by
    cases hb : build.status <;>
      simp [lastTerminal, CIEvalResult.ended, hrow, hrow', hb, BuildStatus.toCIEval]

/-- A build that did not pass is superseded by those that are triggered after it. -/
theorem SavedFor.after {earlier : BuildkiteBuildResult} (h : SavedFor run suite build rows')
    (h' : SavedFor run suite earlier rows) (hfailed : earlier.status ≠ .passed) :
    SavedFor run suite build (rows ++ rows') where
  mine := List.forall_mem_append.mpr ⟨h'.mine, h.mine⟩
  agrees := by
    rw [lastTerminal_append, ← h.agrees]
    cases lastTerminal rows' with
    | none =>
      rw [Option.none_or, h'.agrees]
      exact decide_eq_false hfailed
    | some row => rfl

end SavedFor

theorem runs_persistOnDemandResult {result : BuildkiteBuildResult} {n : ℕ}
    (h : (persistOnDemandResult settings run session result n [suite]).run.Runs es (.ok ())) :
    ∃ row, savedRows es = [row] ∧ RowOf run suite row ∧ row.status = result.status.toCIEval := by
  obtain ⟨_, _, t, rfl, h₁, h₂⟩ := runs_ok_bind.mp h
  obtain ⟨_, pre, post, -, rfl⟩ := runs_clock h₁
  obtain ⟨pre', post', rfl⟩ := runs_extCall.mp h₂
  exact ⟨_, rfl, ⟨rfl, rfl, rfl⟩, rfl⟩

/-- What a finished pass of the loop leaves: nothing when the trigger was rejected, else the rows of a
polled build. -/
theorem runs_triggerAndWait {n : ℕ} {o : Option BuildkiteBuildResult} (hp : PollsBuilds es)
    (h : (triggerAndWait settings run session suite n).run.Runs es (.ok o)) :
    (o = none ∧ savedRows es = []) ∨ ∃ build, o = some build ∧
      SavedFor run suite build (savedRows es) ∧
      (isRetriableInfraState build.terminalState = true → build.status ≠ .passed) := by
  obtain ⟨_, _, t, rfl, h₁, h₂⟩ := runs_ok_bind.mp h
  obtain ⟨pre, post, rfl⟩ := runs_extCall.mp h₁
  cases t with
  | error e =>
    obtain ⟨rfl, ho⟩ := runs_throws_pure.mp h₂
    exact .inl ⟨(Except.ok.inj ho).symm, rfl⟩
  | ok t =>
    obtain ⟨_, _, _, rfl, h₃, h₄⟩ := runs_ok_bind.mp h₂
    obtain ⟨_, _, build, rfl, h₅, h₆⟩ := runs_ok_bind.mp h₄
    obtain ⟨_, _, _, rfl, h₇, h₈⟩ := runs_ok_bind.mp h₆
    obtain ⟨row, hrow, hof, hrunning⟩ := runs_persistOnDemandResult h₃
    obtain ⟨row', hrow', hof', hstatus⟩ := runs_persistOnDemandResult h₇
    obtain ⟨pre', post', rfl⟩ := runs_extCall.mp h₅
    obtain ⟨rfl, ho⟩ := runs_throws_pure.mp h₈
    refine .inr ⟨build, (Except.ok.inj ho).symm, ?_, ?_⟩
    · simp only [savedRows_append, hrow, hrow', savedRows_nil]
      exact savedFor_pair hof hof' hrunning hstatus
    · have hwait : Polled (.ext (.waitForBuild t.pipelineSlug t.buildNumber t.buildUrl)) (.ok build) :=
        hp ⟨.ext (.waitForBuild t.pipelineSlug t.buildNumber t.buildUrl), Except.ok build, pre',
          post'⟩ (by simp)
      obtain ⟨artifacts, states, rfl⟩ := hwait build rfl
      exact pollBuild_infra

theorem savesNone_skipBackoff : SavesNone (skipBackoff settings) :=
  uses_ite (uses_throws_bind (uses_attempt (uses_request.mpr rfl)) fun _ => uses_throws_pure _)
    (uses_throws_pure _)

variable {evalRetry : Option (ℕ → ℕ → SchedJs BuildkiteBuildResult)} {build : BuildkiteBuildResult}

/-- The rest of the loop after a failed eval. -/
theorem runs_evalRetry {failed : BuildkiteBuildResult} {rows : List CIEvalResult} {i n : ℕ}
    (h : (match evalRetry with
      | some again => again i n
      | none => return failed : SchedJs BuildkiteBuildResult).run.Runs es (.ok build))
    (hretry : ∀ again ∈ evalRetry, ∀ i n (es : List (Event SchedAns W)) build, PollsBuilds es →
      (again i n).run.Runs es (.ok build) → SavedFor run suite build (savedRows es))
    (hrows : SavedFor run suite failed rows) (hfailed : failed.status = .failed)
    (hp : PollsBuilds es) : SavedFor run suite build (rows ++ savedRows es) := by
  cases evalRetry with
  | none =>
    obtain ⟨rfl, hb⟩ := runs_throws_pure.mp h
    rwa [← Except.ok.inj hb, savedRows_nil, List.append_nil]
  | some again => exact (hretry again rfl i n es build hp h).after hrows (by rw [hfailed]; decide)

/-- **The loop leaves rows that agree with the build it returns**, however often it triggers one. -/
theorem runs_suiteLoop {infraLeft n : ℕ}
    (hretry : ∀ again ∈ evalRetry, ∀ i n (es : List (Event SchedAns W)) build, PollsBuilds es →
      (again i n).run.Runs es (.ok build) → SavedFor run suite build (savedRows es))
    (hp : PollsBuilds es)
    (h : (suiteLoop settings run session suite evalRetry infraLeft n).run.Runs es (.ok build)) :
    SavedFor run suite build (savedRows es) := by
  induction infraLeft generalizing n es with
  | zero =>
    obtain ⟨es₁, es₂, o, rfl, h₁, h₂⟩ := runs_ok_bind.mp h
    obtain ⟨hp₁, hp₂⟩ := pollsBuilds_append.mp hp
    rw [savedRows_append]
    obtain ⟨rfl, hrows⟩ | ⟨b, rfl, hrows, -⟩ := runs_triggerAndWait hp₁ h₁
    · obtain ⟨rfl, hb⟩ := runs_throws_pure.mp h₂
      rw [← Except.ok.inj hb, hrows]
      exact savedFor_rejected
    · dsimp only at h₂
      split at h₂
      · rename_i hfailed
        exact runs_evalRetry h₂ hretry hrows hfailed.1 hp₂
      · obtain ⟨rfl, hb⟩ := runs_throws_pure.mp h₂
        rwa [← Except.ok.inj hb, savedRows_nil, List.append_nil]
  | succ infraLeft ih =>
    obtain ⟨es₁, es₂, o, rfl, h₁, h₂⟩ := runs_ok_bind.mp h
    obtain ⟨hp₁, hp₂⟩ := pollsBuilds_append.mp hp
    rw [savedRows_append]
    obtain ⟨rfl, hrows⟩ | ⟨b, rfl, hrows, hinfra⟩ := runs_triggerAndWait hp₁ h₁
    · obtain ⟨rfl, hb⟩ := runs_throws_pure.mp h₂
      rw [← Except.ok.inj hb, hrows]
      exact savedFor_rejected
    · dsimp only at h₂
      split at h₂
      · -- Buildkite has not run the build, so it did not pass
        rename_i hskipped
        obtain ⟨es₃, es₄, _, rfl, h₃, h₄⟩ := runs_ok_bind.mp h₂
        rw [savedRows_append, savesNone_skipBackoff.rows h₃, List.nil_append]
        exact (ih (pollsBuilds_append.mp hp₂).2 h₄).after hrows (hinfra hskipped)
      · split at h₂
        · rename_i hfailed
          exact runs_evalRetry h₂ hretry hrows hfailed hp₂
        · obtain ⟨rfl, hb⟩ := runs_throws_pure.mp h₂
          rwa [← Except.ok.inj hb, savedRows_nil, List.append_nil]

theorem runs_runSuiteBuild (hp : PollsBuilds es)
    (h : (runSuiteBuild settings run session suite).run.Runs es (.ok build)) :
    SavedFor run suite build (savedRows es) := by
  refine runs_suiteLoop (fun again hagain i n es b hp h => ?_) hp h
  split at hagain
  · obtain rfl := Option.some.inj hagain
    exact runs_suiteLoop (by simp) hp h
  · cases hagain

/-! ## The rows of a run -/

variable (settings run session) in
/-- The loop body of `pollWeeklyMatrix` up to its result. -/
def suiteOutcome (suite : String) : SchedJs SuiteOutcome := do
  let build ← runSuiteBuild settings run session suite
  let summary ← resolveEvalArtifactSummary build
  let now ← clock
  return ⟨suite, build, summary, now⟩

variable (settings run session) in
/-- The final builds of some suites. -/
def perSuiteOutcomes : List String → SchedJs (List SuiteOutcome)
  | [] => return []
  | suite :: suites => do
    let o ← suiteOutcome settings run session suite
    let outcomes ← perSuiteOutcomes suites
    return o :: outcomes

theorem suiteStage2_eq : suiteStage2 settings run session suite =
    (·.stage2 run.runId run.modelId session.startedAt) <$> suiteOutcome settings run session suite := by
  simp only [suiteStage2, suiteOutcome, map_bind, map_pure]
  rfl

/-- The results of the suites are those of their final builds. -/
theorem perSuiteStage2_eq (suites : List String) : perSuiteStage2 settings run session suites =
    List.map (·.stage2 run.runId run.modelId session.startedAt) <$>
      perSuiteOutcomes settings run session suites := by
  induction suites with
  | nil => simp [perSuiteStage2, perSuiteOutcomes]
  | cons suite suites ih =>
    simp only [perSuiteStage2, perSuiteOutcomes, suiteStage2_eq, ih, map_bind, map_pure, bind_map_left,
      List.map_cons]

/-- The rows of one suite after the other. -/
inductive SavesOf (run : PipelineRun) : List SuiteOutcome → List CIEvalResult → Prop
  | nil : SavesOf run [] []
  | cons {o : SuiteOutcome} {outcomes : List SuiteOutcome} {rows rows' : List CIEvalResult}
      (h : SavedFor run o.suite o.build rows) (h' : SavesOf run outcomes rows') :
      SavesOf run (o :: outcomes) (rows ++ rows')

theorem savesNone_firstSummary (artifacts : List BuildkiteArtifact) :
    SavesNone (firstSummary artifacts) := by
  induction artifacts with
  | nil => exact uses_throws_pure _
  | cons artifact artifacts ih =>
    refine uses_throws_bind (uses_request.mpr rfl) fun body => ?_
    split
    · exact uses_throws_pure _
    · exact ih

theorem runs_suiteOutcome {o : SuiteOutcome} (hp : PollsBuilds es)
    (h : (suiteOutcome settings run session suite).run.Runs es (.ok o)) :
    o.suite = suite ∧ SavedFor run o.suite o.build (savedRows es) := by
  obtain ⟨es₁, _, build, rfl, h₁, h₂⟩ := runs_ok_bind.mp h
  obtain ⟨es₂, _, summary, rfl, h₃, h₄⟩ := runs_ok_bind.mp h₂
  obtain ⟨es₃, _, now, rfl, h₅, h₆⟩ := runs_ok_bind.mp h₄
  obtain ⟨rfl, ho⟩ := runs_throws_pure.mp h₆
  obtain ⟨_, pre, post, -, rfl⟩ := runs_clock h₅
  have hsummary : savedRows es₂ = [] := (savesNone_firstSummary _).rows h₃
  rw [← Except.ok.inj ho, savedRows_append, savedRows_append, hsummary]
  refine ⟨rfl, ?_⟩
  show SavedFor run suite build (savedRows es₁ ++ [])
  rw [List.append_nil]
  exact runs_runSuiteBuild (pollsBuilds_append.mp hp).1 h₁

theorem runs_perSuiteOutcomes {suites : List String} {outcomes : List SuiteOutcome}
    (hp : PollsBuilds es)
    (h : (perSuiteOutcomes settings run session suites).run.Runs es (.ok outcomes)) :
    outcomes.map (·.suite) = suites ∧ SavesOf run outcomes (savedRows es) := by
  induction suites generalizing es outcomes with
  | nil =>
    obtain ⟨rfl, ho⟩ := runs_throws_pure.mp h
    rw [← Except.ok.inj ho]
    exact ⟨rfl, .nil⟩
  | cons suite suites ih =>
    obtain ⟨es₁, _, o, rfl, h₁, h₂⟩ := runs_ok_bind.mp h
    obtain ⟨es₂, _, rest, rfl, h₃, h₄⟩ := runs_ok_bind.mp h₂
    obtain ⟨rfl, ho⟩ := runs_throws_pure.mp h₄
    obtain ⟨hp₁, hp₂⟩ := pollsBuilds_append.mp hp
    obtain ⟨rfl, hsaved⟩ := runs_suiteOutcome hp₁ h₁
    obtain ⟨rfl, hrest⟩ := ih (pollsBuilds_append.mp hp₂).1 h₃
    rw [← Except.ok.inj ho, List.append_nil, savedRows_append]
    exact ⟨rfl, .cons hsaved hrest⟩

variable {outcomes : List SuiteOutcome} {rows : List CIEvalResult} {o : SuiteOutcome}

theorem SavesOf.mem (h : SavesOf run outcomes rows) {row : CIEvalResult} (hrow : row ∈ rows) :
    ∃ o ∈ outcomes, RowOf run o.suite row := by
  induction h with
  | nil => cases hrow
  | @cons o outcomes rows rows' h _ ih =>
    rcases List.mem_append.mp hrow with hrow | hrow
    · exact ⟨o, List.mem_cons_self, h.mine row hrow⟩
    · obtain ⟨o', ho', hof⟩ := ih hrow
      exact ⟨o', List.mem_cons_of_mem _ ho', hof⟩

/-- The newest row of an ended build of a suite. -/
def lastTerminalOf (suite : String) (rows : List CIEvalResult) : Option CIEvalResult :=
  rows.reverse.find? fun row => row.ended && row.evalSuites = [suite]

theorem lastTerminalOf_append (rows rows' : List CIEvalResult) :
    lastTerminalOf suite (rows ++ rows') =
      (lastTerminalOf suite rows').or (lastTerminalOf suite rows) := by
  rw [lastTerminalOf, List.reverse_append, List.find?_append]
  rfl

theorem SavesOf.lastTerminalOf_eq_none (h : SavesOf run outcomes rows)
    (hno : suite ∉ outcomes.map (·.suite)) : lastTerminalOf suite rows = none := by
  refine List.find?_eq_none.mpr fun row hrow hfound => ?_
  obtain ⟨o, ho, hof⟩ := h.mem (List.mem_reverse.mp hrow)
  have hsuite : row.evalSuites = [suite] := of_decide_eq_true (Bool.and_eq_true_iff.mp hfound).2
  rw [hof.evalSuites_eq] at hsuite
  exact hno (List.mem_map.mpr ⟨o, ho, List.singleton_inj.mp hsuite⟩)

theorem SavedFor.lastTerminalOf_eq {build : BuildkiteBuildResult} (h : SavedFor run suite build rows) :
    lastTerminalOf suite rows = lastTerminal rows := by
  unfold lastTerminalOf lastTerminal
  refine List.find?_congr fun row hrow => ?_
  rw [(h.mine row (List.mem_reverse.mp hrow)).evalSuites_eq]
  simp

/-- **In a run that runs no suite twice, the newest row of an ended build of a suite agrees with the
final build of that suite.** -/
theorem SavesOf.agrees (h : SavesOf run outcomes rows) (hnodup : (outcomes.map (·.suite)).Nodup)
    (ho : o ∈ outcomes) : (lastTerminalOf o.suite rows).any (·.status = .passed) = o.passed := by
  induction h with
  | nil => cases ho
  | @cons o' outcomes rows rows' h h' ih =>
    obtain ⟨hno, hnodup⟩ := List.nodup_cons.mp hnodup
    rw [lastTerminalOf_append]
    rcases List.mem_cons.mp ho with rfl | ho
    · rw [h'.lastTerminalOf_eq_none hno, Option.none_or, h.lastTerminalOf_eq, h.agrees]
      rfl
    · have hne : o.suite ∉ [o'].map (·.suite) := by
        rintro hmem
        rw [List.map_singleton, List.mem_singleton] at hmem
        have : o.suite ∈ outcomes.map (·.suite) := List.mem_map_of_mem ho
        rw [hmem] at this
        exact hno this
      have hsingle : SavesOf run [o'] rows := by
        have := SavesOf.cons h .nil
        rwa [List.append_nil] at this
      rw [hsingle.lastTerminalOf_eq_none hne, Option.or_none]
      exact ih hnodup ho

variable {matrix : MatrixRun} {stage2 : Stage2Result}

variable (settings run) in
/-- The final builds of the suites that a history of `pollWeeklyMatrix` runs. -/
def FinalBuilds (matrix : MatrixRun) (es : List (Event SchedAns W))
    (outcomes : List SuiteOutcome) : Prop :=
  ∃ es₁ es₂, es = es₁ ++ es₂ ∧
    (perSuiteOutcomes settings run matrix.session matrix.suitesToRun).run.Runs es₁ (.ok outcomes)

theorem FinalBuilds.unique {outcomes' : List SuiteOutcome}
    (h : FinalBuilds settings run matrix es outcomes)
    (h' : FinalBuilds settings run matrix es outcomes') : outcomes = outcomes' := by
  obtain ⟨es₁, es₂, rfl, hruns⟩ := h
  obtain ⟨es₁', es₂', heq, hruns'⟩ := h'
  exact Except.ok.inj (hruns.append_inj hruns' heq).2

/-- **What a run returns**: the result of a run with nothing to do, or the merged result of its final
builds. -/
theorem runs_pollWeeklyMatrix (hp : PollsBuilds es)
    (h : (pollWeeklyMatrix settings run matrix).run.Runs es (.ok stage2)) :
    ∃ outcomes, FinalBuilds settings run matrix es outcomes ∧
      outcomes.map (·.suite) = matrix.suitesToRun ∧ SavesOf run outcomes (savedRows es) ∧
      ((outcomes = [] ∧ ∃ now, stage2 =
          buildResumeStage2Result run.runId run.modelId matrix.evalSuites matrix.session.startedAt now) ∨
        outcomes ≠ [] ∧ mergeStage2Results (outcomes.map
          (·.stage2 run.runId run.modelId matrix.session.startedAt)) = .ok stage2) := by
  unfold pollWeeklyMatrix at h
  split at h
  · rename_i hnone
    obtain ⟨_, _, now, rfl, h₁, h₂⟩ := runs_ok_bind.mp h
    obtain ⟨_, pre, post, -, rfl⟩ := runs_clock h₁
    obtain ⟨rfl, hr⟩ := runs_throws_pure.mp h₂
    refine ⟨[], ⟨[], _, rfl, ?_⟩, hnone.symm, .nil, .inl ⟨rfl, now, (Except.ok.inj hr).symm⟩⟩
    rw [hnone]
    exact runs_throws_pure.mpr ⟨rfl, rfl⟩
  · rename_i hsome
    obtain ⟨es₁, es₂, results, rfl, h₁, h₂⟩ := runs_ok_bind.mp h
    rw [perSuiteStage2_eq, map_eq_pure_bind] at h₁
    obtain ⟨es₃, es₄, outcomes, rfl, h₃, h₄⟩ := runs_ok_bind.mp h₁
    obtain ⟨rfl, hr⟩ := runs_throws_pure.mp h₄
    obtain rfl := Except.ok.inj hr
    obtain ⟨hsuites, hsaves⟩ :=
      runs_perSuiteOutcomes (pollsBuilds_append.mp (pollsBuilds_append.mp hp).1).1 h₃
    have hne : outcomes ≠ [] := by
      rintro rfl
      exact hsome hsuites.symm
    rw [if_neg (by simpa using hne)] at h₂
    split at h₂
    · rename_i result hmerge
      obtain ⟨rfl, hr⟩ := runs_throws_pure.mp h₂
      refine ⟨outcomes, ⟨es₃, _, List.append_assoc _ _ _, h₃⟩, hsuites, ?_, .inr ⟨hne, ?_⟩⟩
      · simpa using hsaves
      · rw [hmerge, hr]
    · obtain ⟨-, hr⟩ := runs_throw.mp h₂
      cases hr

end Suite

end Benchmarker
