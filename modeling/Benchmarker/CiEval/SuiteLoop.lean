import Benchmarker.Async.Ensures
import Benchmarker.CiEval.Equivalence
import Benchmarker.CiEval.Rows

/-!
# The loop over the builds of a suite

A pass of the loop of `runSuiteBuild` triggers a build, records it as running, waits for it and records
its result. The passes before a trigger are all followed by another one: because Buildkite has not run
the build, or as the one retry of a failed eval.

* `SuitePass`, `Passes`, `Retried`: finished passes, and those that another one follows.
* `SuiteLoopOk`: what holds at every request. `ensures_triggerAndWait`, `ensures_suiteLoop`.
* **`suite_builds_bounded`**: how every history of the loop goes.
-/

namespace Benchmarker

open Js Async Async.Prog

variable {W : Type}

/-- The request triggers a build. -/
def SchedOp.triggers : SchedOp → Bool
  | .ext (.createOnDemandBuildOrAdopt _) => true
  | _ => false

/-- The requests of a history with their answers. -/
def answersTo (es : List (Event SchedAns W)) : List (Σ o : SchedOp, SchedAns o) :=
  es.map fun e => ⟨e.op, e.ans⟩

section Loop

variable (settings : BuildkiteSettings) (run : PipelineRun) (session : EvalSession) (suite : String)

/-- The row of a build. -/
def onDemandRow (result : BuildkiteBuildResult) (retryCount : ℕ) (completedAt : Time) : CIEvalResult where
  runId := run.runId
  queueEntryId := some run.queueEntryId
  modelId := run.modelId
  buildkiteBuildUrl := result.buildUrl
  buildkiteBuildNumber := result.buildNumber
  pipelineSlug := settings.weeklyPipelineSlug.getD "kibana-evals-weekly-llm-evals"
  status := result.status.toCIEval
  buildkiteState := result.terminalState
  evalSuites := [suite]
  artifacts := result.artifacts.map fun as => JsMap.assign [] (as.map fun a => (a.filename, a.url))
  startedAt := session.startedAt
  completedAt := completedAt
  retryCount := retryCount
  connectorJson := session.connectorJson

/-- What one pass asks and is told: the build is triggered and recorded as running, it ends, and its
result is recorded. -/
def passAnswers (n : ℕ) (triggered : BuildkiteTriggeredBuild) (t t' : Time)
    (build : BuildkiteBuildResult) : List (Σ o : SchedOp, SchedAns o) :=
  [⟨.ext (.createOnDemandBuildOrAdopt (triggerOptions run session suite)), .ok (.ok triggered)⟩,
    ⟨.now, t⟩,
    ⟨.ext (.saveCIEvalResult (onDemandRow settings run session suite
      ⟨triggered.buildUrl, triggered.buildNumber, .running, none, none⟩ n t)), .ok ()⟩,
    ⟨.ext (.waitForBuild triggered.pipelineSlug triggered.buildNumber triggered.buildUrl), .ok build⟩,
    ⟨.now, t'⟩,
    ⟨.ext (.saveCIEvalResult (onDemandRow settings run session suite build (n + 1) t')), .ok ()⟩]

/-- A finished pass. -/
def SuitePass (n : ℕ) (es : List (Event SchedAns W)) (build : BuildkiteBuildResult) : Prop :=
  ∃ triggered t t', answersTo es = passAnswers settings run session suite n triggered t t' build

/-- The pause before a skipped build is triggered again. -/
def Pause (es : List (Event SchedAns W)) : Prop :=
  es.length ≤ 1 ∧ ∀ e ∈ es, ∃ ms, e.op = .ext (.sleep ms)

/-- Finished passes, each with the pause after it, and their builds. -/
inductive Passes : List (Event SchedAns W) → List BuildkiteBuildResult → Prop
  | nil : Passes [] []
  | snoc {es fs gs : List (Event SchedAns W)} {builds : List BuildkiteBuildResult}
      {build : BuildkiteBuildResult} (h : Passes es builds)
      (hpass : SuitePass settings run session suite builds.length fs build) (hpause : Pause gs) :
      Passes (es ++ fs ++ gs) (builds ++ [build])

/-- `maxSkipRetries`, with its default. -/
def BuildkiteSettings.skipRetries : ℕ := settings.maxSkipRetries.getD 5

/-- How often a failed eval is retried. -/
def BuildkiteSettings.evalRetries : ℕ := if settings.retryOnFailure ≠ some false then 1 else 0

/-- The builds may all be followed by another one. -/
structure Retried (builds : List BuildkiteBuildResult) : Prop where
  failed : ∀ build ∈ builds, build.status = .failed
  skips : (builds.countP fun build => isRetriableInfraState build.terminalState) ≤ settings.skipRetries
  evals : (builds.countP fun build => !isRetriableInfraState build.terminalState) ≤ settings.evalRetries

/-- What holds when the loop issues a request: the history is not yet long, no more builds than allowed
have been triggered, and a build is triggered only after passes that may be followed by another one. -/
structure SuiteLoopOk (past : List (Event SchedAns W)) (o : SchedOp) : Prop where
  length : past.length < 7 * (settings.skipRetries + 2)
  count : past.countP (·.op.triggers) + (if o.triggers then 1 else 0) ≤ settings.skipRetries + 2
  retried : o.triggers = true → ∃ builds,
    Passes settings run session suite past builds ∧ Retried settings builds

/-- The trigger of a build was rejected. -/
def Rejects (e : Event SchedAns W) : Prop :=
  ∃ options error, (⟨e.op, e.ans⟩ : Σ o : SchedOp, SchedAns o) =
    ⟨.ext (.createOnDemandBuildOrAdopt options), .ok (.error error)⟩

/-- The result of the loop: that of the last build, or the fixed one when a trigger was rejected. -/
def SuiteResultOf (es : List (Event SchedAns W)) (build : BuildkiteBuildResult) : Prop :=
  ∃ builds, Retried settings builds ∧ ∃ fs, Passes settings run session suite fs builds ∧
    ((∃ gs, es = fs ++ gs ∧ SuitePass settings run session suite builds.length gs build) ∨
      ∃ e, es = fs ++ [e] ∧ Rejects e ∧ build = rejectedBuild)

end Loop

section Proof

variable {settings : BuildkiteSettings} {run : PipelineRun} {session : EvalSession} {suite : String}
variable {past es fs : List (Event SchedAns W)} {builds : List BuildkiteBuildResult}
variable {build : BuildkiteBuildResult}

/-! ## Finished passes -/

theorem countP_answersTo (es : List (Event SchedAns W)) :
    es.countP (·.op.triggers) = (answersTo es).countP (·.1.triggers) := by
  rw [answersTo, List.countP_map]
  rfl

theorem SuitePass.length {n : ℕ} (h : SuitePass settings run session suite n es build) :
    es.length = 6 := by
  obtain ⟨triggered, t, t', h⟩ := h
  have hlength := congrArg List.length h
  rwa [answersTo, List.length_map] at hlength

theorem SuitePass.count {n : ℕ} (h : SuitePass settings run session suite n es build) :
    es.countP (·.op.triggers) = 1 := by
  obtain ⟨triggered, t, t', h⟩ := h
  rw [countP_answersTo, h]
  rfl

theorem Pause.count (h : Pause es) : es.countP (·.op.triggers) = 0 := by
  refine List.countP_eq_zero.mpr fun e he => ?_
  obtain ⟨ms, hms⟩ := h.2 e he
  rw [hms]
  exact Bool.false_ne_true

/-- A pass has at most seven requests, and triggers one build. -/
theorem Passes.bounds (h : Passes settings run session suite past builds) :
    past.length ≤ 7 * builds.length ∧ past.countP (·.op.triggers) = builds.length := by
  induction h with
  | nil => exact ⟨Nat.le_refl _, rfl⟩
  | snoc h hpass hpause ih =>
    have hlength := hpass.length
    have hshort := hpause.1
    simp only [List.length_append, List.length_singleton, List.countP_append, hpass.count, hpause.count]
    omega

theorem Retried.length_le (h : Retried settings builds) :
    builds.length ≤ settings.skipRetries + settings.evalRetries := by
  have hskips := h.skips
  have hevals := h.evals
  have hall := List.length_eq_countP_add_countP
    (fun build : BuildkiteBuildResult => isRetriableInfraState build.terminalState) (l := builds)
  simp only [Bool.not_eq_true, ← Bool.not_eq_true'] at hall
  have hnot : (builds.countP fun build => decide ((!isRetriableInfraState build.terminalState) = true)) =
      builds.countP fun build => !isRetriableInfraState build.terminalState := by
    refine List.countP_congr fun build _ => ?_
    simp
  omega

theorem evalRetries_le : settings.evalRetries ≤ 1 := by
  unfold BuildkiteSettings.evalRetries
  split_ifs <;> omega

/-! ## What holds at a request -/

theorem ok_of_pass (hpast : Passes settings run session suite past builds) (hretried : Retried settings builds)
    {o : SchedOp} (hlength : fs.length ≤ 6) (hcount : fs.countP (·.op.triggers) ≤ 1)
    (ho : o.triggers = false) : SuiteLoopOk settings run session suite (past ++ fs) o := by
  obtain ⟨hpastLength, hpastCount⟩ := hpast.bounds
  have hbuilds := hretried.length_le
  have hone : settings.evalRetries ≤ 1 := evalRetries_le
  refine ⟨?_, ?_, fun habs => ?_⟩
  · rw [List.length_append]
    omega
  · rw [ho, List.countP_append, hpastCount]
    simp only [Bool.false_eq_true, if_false]
    omega
  · rw [ho] at habs
    cases habs

theorem ok_of_trigger (hpast : Passes settings run session suite past builds)
    (hretried : Retried settings builds) (options : TriggerOnDemandOptions) :
    SuiteLoopOk settings run session suite past (.ext (.createOnDemandBuildOrAdopt options)) := by
  obtain ⟨hpastLength, hpastCount⟩ := hpast.bounds
  have hbuilds := hretried.length_le
  have hone : settings.evalRetries ≤ 1 := evalRetries_le
  refine ⟨by omega, ?_, fun _ => ⟨builds, hpast, hretried⟩⟩
  have htriggers : (SchedOp.ext (.createOnDemandBuildOrAdopt options)).triggers = true := rfl
  rw [hpastCount, if_pos htriggers]
  omega

/-- A build that Buildkite has not run has failed. -/
theorem failed_of_infra {url : String} {number : ℕ} {artifacts : List BuildkiteArtifact}
    {states : List (Option String)}
    (h : isRetriableInfraState (pollBuild url number artifacts states).terminalState = true) :
    (pollBuild url number artifacts states).status = .failed := by
  have hnot := pollBuild_infra h
  induction states with
  | nil => cases h
  | cons state states ih =>
    cases state with
    | none => exact ih h hnot
    | some state =>
      unfold pollBuild at h hnot ⊢
      split_ifs at h hnot ⊢ with hterminal
      · unfold buildResultStatusFromBuildkiteState at hnot ⊢
        split_ifs at hnot ⊢ with hpassed
        · exact absurd rfl hnot
        · rfl
      · exact ih h hnot

theorem ensures_extCall {A : (o : SchedOp) → SchedAns o → Prop} {P : List (Event SchedAns W) → SchedOp → Prop}
    {x : ExtOp} {Q : List (Event SchedAns W) → Except JsError (ExtVal x) → Prop} :
    (extCall x).run.Ensures A P Q past ↔
      P past (.ext x) ∧ ∀ r pre post, A (.ext x) r → Q (past ++ [⟨.ext x, r, pre, post⟩]) r := Iff.rfl

theorem ensures_persist {A : (o : SchedOp) → SchedAns o → Prop}
    {P : List (Event SchedAns W) → SchedOp → Prop} {result : BuildkiteBuildResult} {n : ℕ}
    {Q : List (Event SchedAns W) → Except JsError Unit → Prop} :
    (persistOnDemandResult settings run session result n [suite]).run.Ensures A P Q past ↔
      P past .now ∧ ∀ t pre post, A .now t →
        P (past ++ [⟨.now, t, pre, post⟩])
          (.ext (.saveCIEvalResult (onDemandRow settings run session suite result n t))) ∧
        ∀ saved pre' post',
          A (.ext (.saveCIEvalResult (onDemandRow settings run session suite result n t))) saved →
          Q (past ++ [⟨.now, t, pre, post⟩] ++ [⟨.ext (.saveCIEvalResult
            (onDemandRow settings run session suite result n t)), saved, pre', post'⟩]) saved := by
  rw [persistOnDemandResult, ensures_throws_bind]
  exact Iff.rfl

/-- **A pass**: a rejected trigger, or a build that has ended and is recorded, unless a request throws. -/
theorem ensures_triggerAndWait (hpast : Passes settings run session suite past builds)
    (hretried : Retried settings builds) :
    (triggerAndWait settings run session suite builds.length).run.Ensures Polled
      (SuiteLoopOk settings run session suite) (fun es r => match r with
        | .error _ => True
        | .ok none => ∃ e, es = past ++ [e] ∧ Rejects e
        | .ok (some build) => ∃ fs, es = past ++ fs ∧
            SuitePass settings run session suite builds.length fs build ∧
            (isRetriableInfraState build.terminalState = true → build.status = .failed)) past := by
  have hok : ∀ {fs : List (Event SchedAns W)} {o : SchedOp}, fs.length ≤ 6 →
      fs.countP (·.op.triggers) ≤ 1 → o.triggers = false →
      SuiteLoopOk settings run session suite (past ++ fs) o := ok_of_pass hpast hretried
  rw [triggerAndWait, ensures_throws_bind, ensures_extCall]
  refine ⟨ok_of_trigger hpast hretried _, fun r pre post _ => ?_⟩
  cases r with
  | error e => trivial
  | ok r =>
    cases r with
    | error e => exact ⟨_, rfl, _, _, rfl⟩
    | ok triggered =>
      -- the build is recorded as running
      dsimp only
      rw [ensures_throws_bind, ensures_persist]
      refine ⟨hok (Nat.le_of_ble_eq_true rfl) (Nat.le_of_ble_eq_true rfl) rfl, fun t pre₁ post₁ _ => ?_⟩
      rw [List.append_assoc]
      refine ⟨hok (Nat.le_of_ble_eq_true rfl) (Nat.le_of_ble_eq_true rfl) rfl, fun saved pre₂ post₂ _ => ?_⟩
      cases saved with
      | error e => trivial
      | ok saved =>
        -- it ends
        dsimp only
        rw [ensures_throws_bind, ensures_extCall, List.append_assoc]
        refine ⟨hok (Nat.le_of_ble_eq_true rfl) (Nat.le_of_ble_eq_true rfl) rfl,
          fun ended pre₃ post₃ hpolled => ?_⟩
        cases ended with
        | error e => trivial
        | ok build =>
          -- its result is recorded
          dsimp only
          rw [ensures_throws_bind, ensures_persist, List.append_assoc]
          refine ⟨hok (Nat.le_of_ble_eq_true rfl) (Nat.le_of_ble_eq_true rfl) rfl,
            fun t' pre₄ post₄ _ => ?_⟩
          rw [List.append_assoc]
          refine ⟨hok (Nat.le_of_ble_eq_true rfl) (Nat.le_of_ble_eq_true rfl) rfl,
            fun saved' pre₅ post₅ _ => ?_⟩
          cases saved' with
          | error e => trivial
          | ok saved' =>
            refine ⟨_, List.append_assoc _ _ _, ⟨triggered, t, t', rfl⟩, fun hinfra => ?_⟩
            obtain ⟨artifacts, states, rfl⟩ := hpolled build rfl
            exact failed_of_infra hinfra

/-! ## The loop -/

/-- The pause before the next pass. -/
theorem ensures_skipBackoff {P : List (Event SchedAns W) → SchedOp → Prop}
    {Q : List (Event SchedAns W) → Except JsError Unit → Prop}
    (hP : ∀ ms, P past (.ext (.sleep ms))) (hQ : ∀ gs, Pause gs → Q (past ++ gs) (.ok ())) :
    (skipBackoff settings).run.Ensures Polled P Q past := by
  unfold skipBackoff
  dsimp only
  split_ifs
  · rw [extFire, ensures_throws_bind, ensures_attempt, ensures_extCall]
    refine ⟨hP _, fun r pre post _ => hQ _ ⟨Nat.le_refl _, ?_⟩⟩
    exact List.forall_mem_singleton.mpr ⟨_, rfl⟩
  · have hnone := hQ [] ⟨Nat.zero_le _, fun e he => absurd he List.not_mem_nil⟩
    rwa [List.append_nil] at hnone

/-- One more skipped build. -/
theorem Retried.skip (h : Retried settings builds) (hfailed : build.status = .failed)
    (hinfra : isRetriableInfraState build.terminalState = true)
    (hleft : (builds.countP fun build => isRetriableInfraState build.terminalState) + 1 ≤
      settings.skipRetries) : Retried settings (builds ++ [build]) where
  failed := List.forall_mem_append.mpr ⟨h.failed, List.forall_mem_singleton.mpr hfailed⟩
  skips := by
    rw [List.countP_append, List.countP_singleton, if_pos hinfra]
    exact hleft
  evals := by
    rw [List.countP_append, List.countP_singleton, hinfra]
    exact h.evals

/-- One more failed eval. -/
theorem Retried.eval (h : Retried settings builds) (hfailed : build.status = .failed)
    (hinfra : isRetriableInfraState build.terminalState = false)
    (hleft : (builds.countP fun build => !isRetriableInfraState build.terminalState) + 1 ≤
      settings.evalRetries) : Retried settings (builds ++ [build]) where
  failed := List.forall_mem_append.mpr ⟨h.failed, List.forall_mem_singleton.mpr hfailed⟩
  skips := by
    rw [List.countP_append, List.countP_singleton, hinfra]
    exact h.skips
  evals := by
    rw [List.countP_append, List.countP_singleton, hinfra]
    exact hleft

/-- What a part of the loop ensures that is entered with some skip retries left. -/
def LoopEnsures (settings : BuildkiteSettings) (run : PipelineRun) (session : EvalSession) (suite : String)
    (W : Type) (evals : ℕ) (x : ℕ → ℕ → SchedJs BuildkiteBuildResult) : Prop :=
  ∀ (infraLeft : ℕ) (past : List (Event SchedAns W)) (builds : List BuildkiteBuildResult),
    Passes settings run session suite past builds → Retried settings builds →
    (builds.countP fun build => isRetriableInfraState build.terminalState) + infraLeft ≤
      settings.skipRetries →
    (builds.countP fun build => !isRetriableInfraState build.terminalState) + evals ≤
      settings.evalRetries →
    (x infraLeft builds.length).run.Ensures Polled (SuiteLoopOk settings run session suite)
      (fun es r => ∀ build, r = .ok build → SuiteResultOf settings run session suite es build) past

theorem resultOf_pass (hpast : Passes settings run session suite past builds)
    (hretried : Retried settings builds)
    (hpass : SuitePass settings run session suite builds.length fs build) :
    ∀ b, (.ok build : Except JsError BuildkiteBuildResult) = .ok b →
      SuiteResultOf settings run session suite (past ++ fs) b := by
  intro b hb
  obtain rfl := Except.ok.inj hb
  exact ⟨builds, hretried, past, hpast, .inl ⟨fs, rfl, hpass⟩⟩

/-- The rest of the loop after a failed eval. -/
theorem ensures_evalRetry {evalRetry : Option (ℕ → ℕ → SchedJs BuildkiteBuildResult)} {infraLeft : ℕ}
    (hagain : ∀ again ∈ evalRetry, LoopEnsures settings run session suite W 0 again)
    (hpast : Passes settings run session suite past builds) (hretried : Retried settings builds)
    (hskips : (builds.countP fun build => isRetriableInfraState build.terminalState) + infraLeft ≤
      settings.skipRetries)
    (hevals : (builds.countP fun build => !isRetriableInfraState build.terminalState) +
      evalRetry.toList.length ≤ settings.evalRetries)
    (hpass : SuitePass settings run session suite builds.length fs build)
    (hfailed : build.status = .failed) (hinfra : isRetriableInfraState build.terminalState = false) :
    (match evalRetry with
      | some again => again infraLeft (builds.length + 1)
      | none => return build : SchedJs BuildkiteBuildResult).run.Ensures Polled
        (SuiteLoopOk settings run session suite)
        (fun es r => ∀ build, r = .ok build → SuiteResultOf settings run session suite es build)
        (past ++ fs) := by
  cases evalRetry with
  | none => exact resultOf_pass hpast hretried hpass
  | some again =>
    have hleft : (builds.countP fun build => !isRetriableInfraState build.terminalState) + 1 ≤
        settings.evalRetries := hevals
    have hnext : Passes settings run session suite (past ++ fs ++ []) (builds ++ [build]) :=
      Passes.snoc hpast hpass ⟨Nat.zero_le _, fun e he => absurd he List.not_mem_nil⟩
    rw [List.append_nil] at hnext
    have hrest := hagain again rfl infraLeft (past ++ fs) (builds ++ [build]) hnext
      (hretried.eval hfailed hinfra hleft)
    rw [List.length_append, List.length_singleton] at hrest
    refine hrest ?_ ?_
    · rw [List.countP_append, List.countP_singleton, hinfra]
      exact hskips
    · rw [List.countP_append, List.countP_singleton, hinfra]
      exact hleft

/-- **The loop**, by induction on the skip retries that are left. -/
theorem ensures_suiteLoop {evalRetry : Option (ℕ → ℕ → SchedJs BuildkiteBuildResult)}
    (hagain : ∀ again ∈ evalRetry, LoopEnsures settings run session suite W 0 again) :
    LoopEnsures settings run session suite W evalRetry.toList.length
      (suiteLoop settings run session suite evalRetry) := by
  intro infraLeft
  induction infraLeft with
  | zero =>
    intro past builds hpast hretried hskips hevals
    rw [suiteLoop, ensures_throws_bind]
    refine (ensures_triggerAndWait hpast hretried).mono fun es r hr => ?_
    cases r with
    | error e =>
      intro b habs
      cases habs
    | ok o =>
      cases o with
      | none =>
        obtain ⟨e, rfl, hrejects⟩ := hr
        intro b hb
        obtain rfl := Except.ok.inj hb
        exact ⟨builds, hretried, past, hpast, .inr ⟨e, rfl, hrejects, rfl⟩⟩
      | some build =>
        obtain ⟨fs, rfl, hpass, -⟩ := hr
        dsimp only
        split_ifs with hfailed
        · exact ensures_evalRetry hagain hpast hretried hskips hevals hpass hfailed.1
            (Bool.eq_false_iff.mpr hfailed.2)
        · exact resultOf_pass hpast hretried hpass
  | succ infraLeft ih =>
    intro past builds hpast hretried hskips hevals
    rw [suiteLoop, ensures_throws_bind]
    refine (ensures_triggerAndWait hpast hretried).mono fun es r hr => ?_
    cases r with
    | error e =>
      intro b habs
      cases habs
    | ok o =>
      cases o with
      | none =>
        obtain ⟨e, rfl, hrejects⟩ := hr
        intro b hb
        obtain rfl := Except.ok.inj hb
        exact ⟨builds, hretried, past, hpast, .inr ⟨e, rfl, hrejects, rfl⟩⟩
      | some build =>
        obtain ⟨fs, rfl, hpass, hinfraFailed⟩ := hr
        dsimp only
        split_ifs with hinfra hfailed
        · -- Buildkite has not run the build
          rw [ensures_throws_bind]
          have hleft : (builds.countP fun build => isRetriableInfraState build.terminalState) + 1 ≤
              settings.skipRetries := by omega
          refine ensures_skipBackoff (fun ms => ?_) fun gs hpause => ?_
          · exact ok_of_pass hpast hretried (Nat.le_of_eq hpass.length) (Nat.le_of_eq hpass.count) rfl
          · have hrest := ih (past ++ fs ++ gs) (builds ++ [build]) (hpast.snoc hpass hpause)
              (hretried.skip (hinfraFailed hinfra) hinfra hleft)
            rw [List.length_append, List.length_singleton] at hrest
            refine hrest ?_ ?_
            · rw [List.countP_append, List.countP_singleton, if_pos hinfra]
              omega
            · rw [List.countP_append, List.countP_singleton, hinfra]
              exact hevals
        · exact ensures_evalRetry hagain hpast hretried hskips hevals hpass hfailed
            (Bool.eq_false_iff.mpr hinfra)
        · exact resultOf_pass hpast hretried hpass

theorem ensures_runSuiteBuild : (runSuiteBuild settings run session suite).run.Ensures Polled
    (SuiteLoopOk settings run session suite) (fun es r => ∀ build, r = .ok build →
      SuiteResultOf settings run session suite es build) ([] : List (Event SchedAns W)) := by
  have hlast : LoopEnsures settings run session suite W 0 (suiteLoop settings run session suite none) :=
    ensures_suiteLoop fun again hagain => absurd hagain (Option.not_mem_none again)
  have hretried : Retried settings [] := ⟨by simp, Nat.zero_le _, Nat.zero_le _⟩
  rw [runSuiteBuild]
  split_ifs with hretry
  · refine ensures_suiteLoop (fun again hagain => ?_) _ _ [] .nil hretried ?_ ?_
    · obtain rfl := Option.some.inj hagain
      exact hlast
    · exact Nat.le_of_eq (Nat.zero_add _)
    · rw [BuildkiteSettings.evalRetries, if_pos hretry]
      exact Nat.le_refl _
  · refine ensures_suiteLoop (fun again hagain => absurd hagain (Option.not_mem_none again)) _ _ [] .nil hretried ?_ ?_
    · exact Nat.le_of_eq (Nat.zero_add _)
    · exact Nat.zero_le _

/-! ## Every history -/

/-- What holds of a history of the loop: it ends, few builds are triggered, each of them after finished
passes that may be followed by another one, and the result is that of the last build. -/
structure SuiteBuildsBounded (settings : BuildkiteSettings) (run : PipelineRun) (session : EvalSession)
    (suite : String) (es : List (Event SchedAns W)) (q : Prog SchedAns (Except JsError BuildkiteBuildResult)) :
    Prop where
  ends : es.length ≤ 7 * (settings.skipRetries + 2)
  triggers : es.countP (·.op.triggers) ≤ settings.skipRetries + 2
  retries : ∀ fs e gs, es = fs ++ e :: gs → e.op.triggers = true → ∃ builds,
    Passes settings run session suite fs builds ∧ Retried settings builds
  returns : ∀ build, q = .ret (.ok build) → SuiteResultOf settings run session suite es build

/-- **Every history of the loop over the builds of a suite.** -/
theorem suite_builds_bounded {q : Prog SchedAns (Except JsError BuildkiteBuildResult)}
    (h : (runSuiteBuild settings run session suite).run.After es q) (hp : PollsBuilds es) :
    SuiteBuildsBounded settings run session suite es q := by
  have hissued := ensures_runSuiteBuild.issued h hp
  have hcases := List.eq_nil_or_concat es
  refine ⟨?_, ?_, fun fs e gs heq he => ?_, fun build hq => ?_⟩
  · rcases hcases with rfl | ⟨fs, e, rfl⟩
    · exact Nat.zero_le _
    · have hok := hissued fs e [] List.concat_eq_append
      have hlength := hok.length
      rw [List.length_concat]
      exact hlength
  · rcases hcases with rfl | ⟨fs, e, rfl⟩
    · exact Nat.zero_le _
    · have hok := hissued fs e [] List.concat_eq_append
      have hcount := hok.count
      rw [List.concat_eq_append, List.countP_append, List.countP_singleton]
      exact hcount
  · have hok := hissued fs e gs heq
    exact hok.retried he
  · subst hq
    exact ensures_runSuiteBuild.runs h hp build rfl

end Proof

/-! ## A skipped build -/

/-- A pass of the loop over the suite `esql` whose build ends in a state. -/
def esqlPass (n : ℕ) (state : String) : List (Event SchedAns Unit) :=
  [⟨.ext (.createOnDemandBuildOrAdopt (triggerOptions entryZeroRun emptySession "esql")),
      .ok (.ok ⟨"evals", n + 1, "url", none⟩), (), ()⟩,
    ⟨.now, 0, (), ()⟩,
    ⟨.ext (.saveCIEvalResult (onDemandRow oneSuite entryZeroRun emptySession "esql"
      ⟨"url", n + 1, .running, none, none⟩ n 0)), .ok (), (), ()⟩,
    ⟨.ext (.waitForBuild "evals" (n + 1) "url"), .ok (pollBuild "url" (n + 1) [] [some state]), (), ()⟩,
    ⟨.now, 0, (), ()⟩,
    ⟨.ext (.saveCIEvalResult (onDemandRow oneSuite entryZeroRun emptySession "esql"
      (pollBuild "url" (n + 1) [] [some state]) (n + 1) 0)), .ok (), (), ()⟩]

/-- The first build is skipped, and the second one passes. -/
def skippedThenPassed : List (Event SchedAns Unit) :=
  esqlPass 0 "skipped" ++ [⟨.ext (.sleep 30000), .ok (), (), ()⟩] ++ esqlPass 1 "passed"

theorem polled_esqlPass (n : ℕ) (state : String) : PollsBuilds (esqlPass n state) := by
  intro e he
  simp only [esqlPass, List.mem_cons, List.not_mem_nil, or_false] at he
  rcases he with rfl | rfl | rfl | rfl | rfl | rfl
  · trivial
  · trivial
  · trivial
  · intro build hbuild
    exact ⟨[], [some state], (Except.ok.inj hbuild).symm⟩
  · trivial
  · trivial

theorem skippedThenPassed_bounded : SuiteBuildsBounded oneSuite entryZeroRun emptySession "esql"
    skippedThenPassed (.ret (.ok (pollBuild "url" 2 [] [some "passed"]))) := by
  refine suite_builds_bounded ?_ ?_
  · exact .step _ _ _ (.step _ _ _ (.step _ _ _ (.step _ _ _ (.step _ _ _ (.step _ _ _ (.step _ _ _
      (.step _ _ _ (.step _ _ _ (.step _ _ _ (.step _ _ _ (.step _ _ _ (.step _ _ _
        (.refl _)))))))))))))
  · refine pollsBuilds_append.mpr ⟨pollsBuilds_append.mpr ⟨polled_esqlPass 0 "skipped", ?_⟩,
      polled_esqlPass 1 "passed"⟩
    exact List.forall_mem_singleton.mpr trivial

end Benchmarker
