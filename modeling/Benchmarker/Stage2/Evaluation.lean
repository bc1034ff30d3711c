import Benchmarker.Stage2.EvalTasks
import Mathlib.Algebra.Order.BigOperators.Group.List
import Mathlib.Tactic.Linarith

/-!
# The Kibana evaluation

`KibanaEvalRunner.runEvaluation`: the built-in tasks in turn, the score, and the class of the model. Scores are exact
here. Names, durations, metadata and the text of the summary are left out.

* `runTasks`, `calculateScoring`, `deriveClassification`, `runEvaluation`: the code.
* `Fits`: a result that belongs to its task. **`executeTask_fits`**: every run of a task returns one.
* `Follows`, `follows_of_runs`: which tasks are run, and which are skipped.
* `Sound`, **`runEvaluation_sound`**: what every report says. **`fail_of_deadTransport`**: an evaluation with no
  connection fails at its first task.
-/

namespace Benchmarker.Stage2

open Js Async Async.Prog

/-! ## The code -/

/-- The fields of the evaluation configuration that the evaluation reads. -/
structure KibanaEvalPolicy where
  passThreshold : ℚ := 80
  continueOnCriticalFailure : Bool := false
  deriving DecidableEq

inductive KibanaEvalClassification
  | pass | partialPass | fail
  deriving DecidableEq

structure KibanaEvalScoring where
  totalScore : ℚ
  maxScore : ℚ
  totalWeightedScore : ℚ
  maxWeightedScore : ℚ
  percentageScore : ℚ
  passedCount : ℕ
  failedCount : ℕ
  skippedCount : ℕ
  erroredCount : ℕ
  totalCount : ℕ
  deriving DecidableEq

structure KibanaEvalReport where
  modelId : String
  connectorId : String
  classification : KibanaEvalClassification
  scoring : KibanaEvalScoring
  taskResults : List KibanaEvalTaskResult
  failedTasks : List KibanaEvalTaskResult
  evalConfig : KibanaEvalPolicy

def createSkippedResult (task : KibanaEvalTaskDefinition) (message : String) : KibanaEvalTaskResult where
  task := task
  outcome := .skip
  message := message
  error := .null
  score := 0
  weightedScore := 0
  attempts := 0

/-- `outcome === 'FAIL' || outcome === 'ERROR'` -/
def EvalOutcome.isFailure (outcome : EvalOutcome) : Bool := outcome = .fail || outcome = .error

/-- A critical task that failed. -/
def criticalFailure (task : KibanaEvalTaskDefinition) (outcome : EvalOutcome) : Bool :=
  task.severity = .critical && outcome.isFailure

/-- The loop of `runEvaluation`. -/
def runTasks (runner : KibanaEvalRunner) (policy : KibanaEvalPolicy) (connectorId : String) :
    List KibanaEvalTaskDefinition → Bool → Prog EvalAns (List KibanaEvalTaskResult)
  | [], _ => pure []
  | task :: tasks, criticalFailureEncountered =>
    if criticalFailureEncountered && !policy.continueOnCriticalFailure then do
      let rest ← runTasks runner policy connectorId tasks criticalFailureEncountered
      pure (createSkippedResult task "Skipped due to prior critical failure" :: rest)
    else do
      let result ← executeTask runner task connectorId
      let rest ← runTasks runner policy connectorId tasks
        (criticalFailureEncountered || criticalFailure task result.outcome)
      pure (result :: rest)

/-- How many results have the outcome. -/
def countOf (outcome : EvalOutcome) (taskResults : List KibanaEvalTaskResult) : ℕ :=
  taskResults.countP fun r => r.outcome = outcome

def calculateScoring (taskResults : List KibanaEvalTaskResult) : KibanaEvalScoring :=
  let totalWeightedScore := (taskResults.map fun r => r.weightedScore).sum
  let maxWeightedScore := (taskResults.map fun r => r.task.severity.weight).sum
  { totalScore := (taskResults.map fun r => r.score).sum
    maxScore := taskResults.length
    totalWeightedScore := totalWeightedScore
    maxWeightedScore := maxWeightedScore
    percentageScore := if 0 < maxWeightedScore then totalWeightedScore / maxWeightedScore * 100 else 0
    passedCount := countOf .pass taskResults
    failedCount := countOf .fail taskResults
    skippedCount := countOf .skip taskResults
    erroredCount := countOf .error taskResults
    totalCount := taskResults.length }

def deriveClassification (policy : KibanaEvalPolicy) (taskResults : List KibanaEvalTaskResult)
    (scoring : KibanaEvalScoring) : KibanaEvalClassification :=
  if taskResults.any fun r => criticalFailure r.task r.outcome then .fail
  else if policy.passThreshold ≤ scoring.percentageScore then .pass
  else .partialPass

/-- The report on the results. -/
def reportOf (policy : KibanaEvalPolicy) (connectorId modelId : String) (taskResults : List KibanaEvalTaskResult) :
    KibanaEvalReport where
  modelId := modelId
  connectorId := connectorId
  classification := deriveClassification policy taskResults (calculateScoring taskResults)
  scoring := calculateScoring taskResults
  taskResults := taskResults
  failedTasks := taskResults.filter fun r => r.outcome.isFailure
  evalConfig := policy

def runEvaluation (runner : KibanaEvalRunner) (policy : KibanaEvalPolicy) (connectorId modelId : String) :
    Prog EvalAns KibanaEvalReport := do
  let taskResults ← runTasks runner policy connectorId kibanaEvalTasks false
  pure (reportOf policy connectorId modelId taskResults)

/-! ## Results of a task -/

/-- The result of a task that ran: its score is all or nothing. -/
structure Fits (task : KibanaEvalTaskDefinition) (graded : Graded) : Prop where
  own : graded.task = task
  ran : graded.outcome ≠ .skip
  score : graded.score = if graded.outcome = .pass then 1 else 0
  weightedScore : graded.weightedScore = if graded.outcome = .pass then task.severity.weight else 0

/-- A grade that is given fits the task. -/
def GradeFits (task : KibanaEvalTaskDefinition) (x : Except TaskError Graded) : Prop :=
  ∀ graded, x = .ok graded → Fits task graded

section Tasks

variable {W α : Type} {es : List (Event EvalAns W)} {result : KibanaEvalTaskResult} {task : KibanaEvalTaskDefinition}
variable {runner : KibanaEvalRunner} {connectorId : String} {response : ConnectorResponse} {graded : Graded}

theorem gradeFits_ok (h : Fits task graded) : GradeFits task (.ok graded) := fun _ heq => Except.ok.inj heq ▸ h

theorem gradeFits_bind {x : Except TaskError α} {f : α → Except TaskError Graded} (h : ∀ a, GradeFits task (f a)) :
    GradeFits task (x >>= f) := by
  cases x with
  | ok a => exact h a
  | error e => exact fun _ heq => nomatch heq

theorem fits_pass (message : String) : Fits task (createPassResult task message) := ⟨rfl, nofun, rfl, rfl⟩

theorem fits_fail (message : String) (error : Json) : Fits task (createFailResult task message error) :=
  ⟨rfl, nofun, rfl, rfl⟩

theorem fits_failedWithStatus (message d : String) : GradeFits task (failedWithStatus task response message d) :=
  gradeFits_bind fun _ => gradeFits_ok (fits_fail _ _)

theorem fits_connectorHealthCheck : GradeFits task (gradeConnectorHealthCheck task response) := by
  unfold gradeConnectorHealthCheck
  split
  · exact gradeFits_ok (fits_pass _)
  · exact fits_failedWithStatus _ _

theorem fits_chatCompletionBasic (config : KibanaEvalRunnerConfig) :
    GradeFits task (gradeChatCompletionBasic config task response) := by
  unfold gradeChatCompletionBasic
  split
  · exact fits_failedWithStatus _ _
  · split
    · exact gradeFits_ok (fits_fail _ _)
    · refine gradeFits_bind fun content => ?_
      split
      · exact gradeFits_ok (fits_fail _ _)
      · split
        · exact gradeFits_ok (fits_pass _)
        · exact gradeFits_ok (fits_fail _ _)

theorem fits_chatCompletionSystemPrompt : GradeFits task (gradeChatCompletionSystemPrompt task response) := by
  unfold gradeChatCompletionSystemPrompt
  split
  · exact fits_failedWithStatus _ _
  · split
    · exact gradeFits_ok (fits_fail _ _)
    · refine gradeFits_bind fun content => ?_
      split
      · exact gradeFits_ok (fits_pass _)
      · exact gradeFits_ok (fits_fail _ _)

theorem fits_toolCalls (config : KibanaEvalRunnerConfig) (toolCalls : Json) :
    GradeFits task (gradeToolCalls config task toolCalls) := by
  unfold gradeToolCalls
  split
  · refine gradeFits_bind fun called => ?_
    split
    · exact gradeFits_ok (fits_pass _)
    · exact gradeFits_bind fun names => gradeFits_bind fun joined => gradeFits_ok (fits_fail _ _)
  · exact fun _ heq => nomatch heq

theorem fits_toolCallingBasic (config : KibanaEvalRunnerConfig) :
    GradeFits task (gradeToolCallingBasic config task response) := by
  unfold gradeToolCallingBasic
  split
  · exact fits_failedWithStatus _ _
  · split
    · exact fits_toolCalls _ _
    · exact gradeFits_bind fun content => gradeFits_ok (fits_fail _ _)

theorem fits_streamingResponse : GradeFits task (gradeStreamingResponse task response) := by
  unfold gradeStreamingResponse
  split
  · exact fits_failedWithStatus _ _
  · split
    · exact gradeFits_ok (fits_fail _ _)
    · exact gradeFits_ok (fits_pass _)

theorem fits_errorHandlingInvalidInput : GradeFits task (gradeErrorHandlingInvalidInput task response) := by
  unfold gradeErrorHandlingInvalidInput
  split
  · exact gradeFits_ok (fits_pass _)
  · split
    · exact gradeFits_ok (fits_pass _)
    · exact gradeFits_bind fun status => gradeFits_ok (fits_fail _ _)

/-- Every built-in task is a call and a grade. -/
theorem dispatchTask_fits (h : task ∈ kibanaEvalTasks) : ∃ body grade,
    dispatchTask runner task connectorId = callAndGrade runner connectorId body grade ∧
      ∀ response, GradeFits task (grade response) := by
  simp only [kibanaEvalTasks, List.mem_cons, List.not_mem_nil, or_false] at h
  rcases h with rfl | rfl | rfl | rfl | rfl | rfl
  · exact ⟨_, _, rfl, fun _ => fits_connectorHealthCheck⟩
  · exact ⟨_, _, rfl, fun _ => fits_chatCompletionBasic _⟩
  · exact ⟨_, _, rfl, fun _ => fits_chatCompletionSystemPrompt⟩
  · exact ⟨_, _, rfl, fun _ => fits_toolCallingBasic _⟩
  · exact ⟨_, _, rfl, fun _ => fits_streamingResponse⟩
  · exact ⟨_, _, rfl, fun _ => fits_errorHandlingInvalidInput⟩

theorem fits_attemptTask {body : Json} {grade : ConnectorResponse → Except TaskError Graded} {left attempts : ℕ}
    {lastError : Option String} (hdispatch : dispatchTask runner task connectorId = callAndGrade runner connectorId body grade)
    (hgrade : ∀ response, GradeFits task (grade response))
    (h : (attemptTask runner task connectorId left attempts lastError).Runs es result) : Fits task result.toGraded := by
  induction left generalizing attempts lastError es with
  | zero =>
    obtain ⟨-, rfl⟩ := runs_ret.mp h
    exact ⟨rfl, nofun, rfl, rfl⟩
  | succ left ih =>
    rw [attemptTask, runTaskWithTimeout, hdispatch, run_callAndGrade] at h
    simp only [await_bind, ret_bind] at h
    obtain ⟨outcome, pre, post, fs, rfl, hrest⟩ := runs_await.mp h
    have hfits : GradeFits task (readOutcome outcome >>= grade) := gradeFits_bind hgrade
    cases hgraded : readOutcome outcome >>= grade with
    | ok graded =>
      rw [hgraded] at hrest
      obtain ⟨-, rfl⟩ := runs_ret.mp hrest
      exact hfits graded hgraded
    | error e =>
      rw [hgraded] at hrest
      cases e with
      | aborted =>
        obtain ⟨-, rfl⟩ := runs_ret.mp hrest
        exact ⟨rfl, (fun hskip => by cases hskip), rfl, rfl⟩
      | thrown message =>
        have hnext : (if 0 < left then request (EvalOp.sleep 1000) >>= fun _ =>
            attemptTask runner task connectorId left (attempts + 1) (some message)
          else attemptTask runner task connectorId left (attempts + 1) (some message)).Runs fs result := hrest
        split at hnext
        · obtain ⟨es₁, es₂, _, -, -, hagain⟩ := runs_bind.mp hnext
          exact ih hagain
        · exact ih hnext

/-- **Every run of a built-in task** returns a result that fits it. -/
theorem executeTask_fits (h : task ∈ kibanaEvalTasks) (hrun : (executeTask runner task connectorId).Runs es result) :
    Fits task result.toGraded := by
  obtain ⟨body, grade, hdispatch, hgrade⟩ := dispatchTask_fits h
  exact fits_attemptTask hdispatch hgrade hrun

end Tasks

/-! ## Which tasks are run -/

/-- The results follow the tasks: after a critical failure a task is skipped, unless the policy is to continue. -/
inductive Follows (policy : KibanaEvalPolicy) : Bool → List KibanaEvalTaskDefinition → List KibanaEvalTaskResult → Prop
  | done {critical : Bool} : Follows policy critical [] []
  | skipped {task : KibanaEvalTaskDefinition} {tasks : List KibanaEvalTaskDefinition} {rest : List KibanaEvalTaskResult}
      (message : String) (hstops : policy.continueOnCriticalFailure = false) (h : Follows policy true tasks rest) :
      Follows policy true (task :: tasks) (createSkippedResult task message :: rest)
  | ran {critical : Bool} {task : KibanaEvalTaskDefinition} {tasks : List KibanaEvalTaskDefinition}
      {result : KibanaEvalTaskResult} {rest : List KibanaEvalTaskResult}
      (hruns : critical = true → policy.continueOnCriticalFailure = true) (hfits : Fits task result.toGraded)
      (h : Follows policy (critical || criticalFailure task result.outcome) tasks rest) :
      Follows policy critical (task :: tasks) (result :: rest)

/-- What a report says of its results. -/
structure Sound (policy : KibanaEvalPolicy) (report : KibanaEvalReport) : Prop where
  tasks : report.taskResults.map (fun r => r.task) = kibanaEvalTasks
  counts : report.scoring.passedCount + report.scoring.failedCount + report.scoring.skippedCount +
    report.scoring.erroredCount = report.scoring.totalCount ∧ report.scoring.totalCount = kibanaEvalTasks.length
  percentage : 0 ≤ report.scoring.percentageScore ∧ report.scoring.percentageScore ≤ 100
  full : report.scoring.percentageScore = 100 ↔ ∀ r ∈ report.taskResults, r.outcome = .pass
  skipped : ∀ before r after, report.taskResults = before ++ r :: after →
    (r.outcome = .skip ↔ policy.continueOnCriticalFailure = false ∧ ∃ r' ∈ before, criticalFailure r'.task r'.outcome = true)
  fails : report.classification = .fail ↔ ∃ r ∈ report.taskResults, criticalFailure r.task r.outcome = true
  passes : report.classification = .pass → policy.passThreshold ≤ report.scoring.percentageScore ∧
    ∀ r ∈ report.taskResults, r.outcome ≠ .skip ∧ (r.task.severity = .critical → r.outcome = .pass)
  partly : report.classification = .partialPass → report.scoring.percentageScore < policy.passThreshold ∧
    ∀ r ∈ report.taskResults, r.outcome ≠ .skip ∧ (r.task.severity = .critical → r.outcome = .pass)

section Evaluation

variable {W : Type} {es : List (Event EvalAns W)} {policy : KibanaEvalPolicy} {critical : Bool}
variable {tasks : List KibanaEvalTaskDefinition} {results : List KibanaEvalTaskResult} {runner : KibanaEvalRunner}
variable {connectorId modelId : String} {report : KibanaEvalReport} {r : KibanaEvalTaskResult}

theorem follows_of_runs (htasks : ∀ task ∈ tasks, task ∈ kibanaEvalTasks)
    (h : (runTasks runner policy connectorId tasks critical).Runs es results) : Follows policy critical tasks results := by
  induction tasks generalizing critical es results with
  | nil =>
    obtain ⟨-, rfl⟩ := runs_ret.mp h
    exact .done
  | cons task tasks ih =>
    have htail : ∀ t ∈ tasks, t ∈ kibanaEvalTasks := fun t ht => htasks t (List.mem_cons_of_mem _ ht)
    unfold runTasks at h
    split at h
    · rename_i hskips
      obtain ⟨rfl, hstops⟩ := Bool.and_eq_true_iff.mp hskips
      obtain ⟨es₁, es₂, rest, -, hruns, hret⟩ := runs_bind.mp h
      obtain ⟨-, rfl⟩ := runs_ret.mp hret
      exact .skipped _ (Bool.not_eq_true' _ ▸ hstops) (ih htail hruns)
    · rename_i hruns
      obtain ⟨es₁, es₂, result, -, htask, h⟩ := runs_bind.mp h
      obtain ⟨es₃, es₄, rest, -, hloop, hret⟩ := runs_bind.mp h
      obtain ⟨-, rfl⟩ := runs_ret.mp hret
      refine .ran (fun hcritical => ?_) (executeTask_fits (htasks task List.mem_cons_self) htask)
        (ih htail hloop)
      simpa [hcritical] using hruns

/-- The results of the tasks, each all or nothing. -/
theorem Follows.scores (h : Follows policy critical tasks results) : results.map (fun r => r.task) = tasks ∧
    ∀ r ∈ results, r.weightedScore = if r.outcome = .pass then r.task.severity.weight else 0 := by
  induction h with
  | done => exact ⟨rfl, List.forall_mem_nil _⟩
  | @skipped task tasks rest message hstops h ih =>
    exact ⟨congrArg (task :: ·) ih.1, List.forall_mem_cons.mpr ⟨rfl, ih.2⟩⟩
  | @ran critical task tasks result rest hruns hfits h ih =>
    refine ⟨by rw [List.map_cons, hfits.own, ih.1], List.forall_mem_cons.mpr ⟨?_, ih.2⟩⟩
    rw [hfits.own]
    exact hfits.weightedScore

/-- **A task is skipped after a critical failure, and only then.** -/
theorem Follows.skipped_iff (h : Follows policy critical tasks results) {before after : List KibanaEvalTaskResult}
    (hresults : results = before ++ r :: after) : r.outcome = .skip ↔ policy.continueOnCriticalFailure = false ∧
      (critical = true ∨ ∃ r' ∈ before, criticalFailure r'.task r'.outcome = true) := by
  induction h generalizing before with
  | done => exact absurd hresults.symm (List.append_ne_nil_of_right_ne_nil _ (List.cons_ne_nil _ _))
  | @skipped task tasks rest message hstops h ih =>
    cases before with
    | nil =>
      obtain ⟨rfl, -⟩ := List.cons.inj hresults
      exact iff_of_true rfl ⟨hstops, .inl rfl⟩
    | cons first before =>
      rw [ih (List.cons.inj hresults).2]
      simp
  | @ran critical task tasks result rest hruns hfits h ih =>
    cases before with
    | nil =>
      obtain ⟨rfl, -⟩ := List.cons.inj hresults
      refine iff_of_false hfits.ran ?_
      rintro ⟨hstops, hcritical | ⟨_, hmem, -⟩⟩
      · exact nomatch hstops.symm.trans (hruns hcritical)
      · cases hmem
    | cons first before =>
      obtain ⟨rfl, hrest⟩ := List.cons.inj hresults
      rw [ih hrest, Bool.or_eq_true, List.exists_mem_cons_iff, hfits.own, or_assoc]

theorem weight_pos (severity : EvalSeverity) : 0 < severity.weight := by
  cases severity <;> norm_num [EvalSeverity.weight]

theorem countOf_add (results : List KibanaEvalTaskResult) : countOf .pass results + countOf .fail results +
    countOf .skip results + countOf .error results = results.length := by
  induction results with
  | nil => rfl
  | cons r results ih =>
    simp only [countOf, List.countP_cons, List.length_cons] at ih ⊢
    cases r.outcome <;> simp <;> omega

/-- The score against the greatest one. -/
theorem percentage_of_weights (hweights : (results.map fun r => r.task.severity.weight).sum = 47 / 10)
    (hscores : ∀ r ∈ results, r.weightedScore = if r.outcome = .pass then r.task.severity.weight else 0) :
    (0 ≤ (calculateScoring results).percentageScore ∧ (calculateScoring results).percentageScore ≤ 100) ∧
      ((calculateScoring results).percentageScore = 100 ↔ ∀ r ∈ results, r.outcome = .pass) := by
  have hpercentage : (calculateScoring results).percentageScore =
      (results.map fun r => r.weightedScore).sum / (47 / 10) * 100 := by
    show (if 0 < (results.map fun r => r.task.severity.weight).sum then _ else _) = _
    rw [hweights, if_pos (by norm_num)]
  have hnonneg : 0 ≤ (results.map fun r => r.weightedScore).sum := by
    refine List.sum_nonneg fun x hx => ?_
    obtain ⟨r, hr, rfl⟩ := List.mem_map.mp hx
    rw [hscores r hr]
    split_ifs
    · exact (weight_pos _).le
    · exact le_rfl
  have hle : ∀ r ∈ results, r.weightedScore ≤ r.task.severity.weight := by
    intro r hr
    rw [hscores r hr]
    split_ifs
    · exact le_rfl
    · exact (weight_pos _).le
  have hsum := List.sum_le_sum hle
  rw [hweights] at hsum
  refine ⟨by rw [hpercentage]; constructor <;> linarith, ?_⟩
  rw [hpercentage]
  constructor
  · intro hfull r hr
    by_contra hnot
    have hlt : r.weightedScore < r.task.severity.weight := by
      rw [hscores r hr, if_neg hnot]
      exact weight_pos _
    have hstrict := List.sum_lt_sum _ _ hle ⟨r, hr, hlt⟩
    rw [hweights] at hstrict
    linarith
  · intro hall
    have hsame : results.map (fun r => r.weightedScore) = results.map fun r => r.task.severity.weight :=
      List.map_congr_left fun r hr => by rw [hscores r hr, if_pos (hall r hr)]
    rw [hsame, hweights]
    norm_num

/-- Without a critical failure every task has run, and the critical ones have passed. -/
theorem Follows.passed (h : Follows policy false tasks results)
    (hnone : ∀ r ∈ results, criticalFailure r.task r.outcome = false) (hr : r ∈ results) :
    r.outcome ≠ .skip ∧ (r.task.severity = .critical → r.outcome = .pass) := by
  obtain ⟨before, after, hresults⟩ := List.append_of_mem hr
  have hran : r.outcome ≠ .skip := by
    intro hskip
    obtain ⟨-, hcritical | ⟨r', hr', hfailure⟩⟩ := (h.skipped_iff hresults).mp hskip
    · cases hcritical
    · have hmem : r' ∈ results := hresults ▸ List.mem_append_left _ hr'
      exact nomatch hfailure.symm.trans (hnone r' hmem)
  refine ⟨hran, fun hsevere => ?_⟩
  have hfine := hnone r hr
  rw [criticalFailure, hsevere] at hfine
  cases houtcome : r.outcome with
  | pass => rfl
  | skip => exact absurd houtcome hran
  | fail => rw [houtcome] at hfine; cases hfine
  | error => rw [houtcome] at hfine; cases hfine

/-- **What every report says**, whatever the connector answers. -/
theorem runEvaluation_sound (runner : KibanaEvalRunner) (policy : KibanaEvalPolicy) (connectorId modelId : String)
    (h : (runEvaluation runner policy connectorId modelId).Runs es report) : Sound policy report := by
  obtain ⟨es₁, es₂, results, -, hloop, hret⟩ := runs_bind.mp h
  obtain ⟨-, rfl⟩ := runs_ret.mp hret
  have hfollows := follows_of_runs (fun _ h => h) hloop
  obtain ⟨htasks, hscores⟩ := hfollows.scores
  have hweights : (results.map fun r => r.task.severity.weight).sum = 47 / 10 := by
    have hmap := congrArg (List.map fun task : KibanaEvalTaskDefinition => task.severity.weight) htasks
    rw [List.map_map] at hmap
    rw [show (results.map fun r => r.task.severity.weight) = _ from hmap]
    norm_num [kibanaEvalTasks, EvalSeverity.weight]
  obtain ⟨hpercentage, hfull⟩ := percentage_of_weights hweights hscores
  have hclass : (reportOf policy connectorId modelId results).classification =
      deriveClassification policy results (calculateScoring results) := rfl
  have hany : (results.any fun r => criticalFailure r.task r.outcome) = false →
      ∀ r ∈ results, criticalFailure r.task r.outcome = false := fun hnone r hr => by
    simpa using List.any_eq_false.mp hnone r hr
  refine ⟨htasks, ⟨countOf_add results, ?_⟩, hpercentage, hfull, fun before r after hresults => ?_, ?_,
    fun hpass => ?_, fun hpart => ?_⟩
  · exact (congrArg List.length htasks).symm.trans (List.length_map _) |>.symm
  · rw [hfollows.skipped_iff hresults]
    simp
  · rw [hclass, deriveClassification, ← List.any_eq_true]
    split_ifs with hfail hscore
    · exact iff_of_true rfl hfail
    · exact iff_of_false nofun hfail
    · exact iff_of_false nofun hfail
  · rw [hclass, deriveClassification] at hpass
    split_ifs at hpass with hfail hscore
    exact ⟨hscore, fun r hr => hfollows.passed (hany (Bool.eq_false_iff.mpr hfail)) hr⟩
  · rw [hclass, deriveClassification] at hpart
    split_ifs at hpart with hfail hscore
    exact ⟨not_le.mp hscore, fun r hr => hfollows.passed (hany (Bool.eq_false_iff.mpr hfail)) hr⟩

/-- What is left after a critical failure makes no call. -/
theorem skipped_of_stopped (hstops : policy.continueOnCriticalFailure = false)
    (h : (runTasks runner policy connectorId tasks true).Runs es results) : es = [] ∧ ∀ r ∈ results, r.outcome = .skip := by
  induction tasks generalizing es results with
  | nil =>
    obtain ⟨rfl, rfl⟩ := runs_ret.mp h
    exact ⟨rfl, List.forall_mem_nil _⟩
  | cons task tasks ih =>
    rw [runTasks, hstops, Bool.not_false, Bool.and_self, if_pos rfl] at h
    obtain ⟨es₁, es₂, rest, rfl, hruns, hret⟩ := runs_bind.mp h
    obtain ⟨rfl, rfl⟩ := runs_ret.mp hret
    obtain ⟨rfl, hrest⟩ := ih hruns
    exact ⟨rfl, List.forall_mem_cons.mpr ⟨rfl, hrest⟩⟩

/-- The health check fails at its first call if that is rejected. -/
theorem healthCheck_rejected {result : KibanaEvalTaskResult} (h : (executeTask runner healthCheck connectorId).Runs es result) :
    ∃ outcome fs, transports es = outcome :: fs ∧ (outcome.isRejected = true → fs = [] ∧ result.outcome = .fail) := by
  have hdispatch : dispatchTask runner healthCheck connectorId = callAndGrade runner connectorId
      (actionBody "invokeAI" [message "user" "ping"]) (gradeConnectorHealthCheck healthCheck) := rfl
  rw [executeTask, attemptTask, runTaskWithTimeout, hdispatch, run_callAndGrade] at h
  simp only [await_bind, ret_bind] at h
  obtain ⟨outcome, pre, post, fs, rfl, hrest⟩ := runs_await.mp h
  refine ⟨outcome, transports fs, rfl, fun hrejected => ?_⟩
  cases outcome with
  | rejected text =>
    obtain ⟨graded, hgraded, hfail⟩ : ∃ graded, gradeConnectorHealthCheck healthCheck (errorResponse text) = .ok graded ∧
        graded.outcome = .fail := by
      rw [gradeConnectorHealthCheck, errorResponse_ok]
      exact ⟨_, rfl, rfl⟩
    rw [show (readOutcome (.rejected text) >>= gradeConnectorHealthCheck healthCheck) = .ok graded from hgraded] at hrest
    obtain ⟨rfl, rfl⟩ := runs_ret.mp hrest
    exact ⟨rfl, hfail⟩
  | _ => cases hrejected

theorem transports_append (es fs : List (Event EvalAns W)) : transports (es ++ fs) = transports es ++ transports fs :=
  List.filterMap_append

/-- **An evaluation with no connection** fails, and unless it is to continue it makes one call. -/
theorem fail_of_deadTransport (h : (runEvaluation runner policy connectorId modelId).Runs es report)
    (hdead : ∀ outcome ∈ transports es, outcome.isRejected = true) : report.classification = .fail ∧
      (policy.continueOnCriticalFailure = false →
        (transports es).length = 1 ∧ ∀ r ∈ report.taskResults.tail, r.outcome = .skip) := by
  obtain ⟨es₁, es₂, results, rfl, hloop, hret⟩ := runs_bind.mp h
  obtain ⟨rfl, rfl⟩ := runs_ret.mp hret
  have hfirst : kibanaEvalTasks = healthCheck :: kibanaEvalTasks.tail := rfl
  rw [hfirst, runTasks, Bool.false_and, if_neg Bool.false_ne_true] at hloop
  obtain ⟨es₃, es₄, result, rfl, htask, hloop⟩ := runs_bind.mp hloop
  obtain ⟨es₅, es₆, rest, rfl, hrest, hret'⟩ := runs_bind.mp hloop
  obtain ⟨rfl, rfl⟩ := runs_ret.mp hret'
  rw [List.append_nil, List.append_nil, transports_append] at hdead ⊢
  obtain ⟨outcome, fs, htransports, hrejected⟩ := healthCheck_rejected htask
  rw [htransports] at hdead ⊢
  obtain ⟨rfl, hfail⟩ := hrejected (hdead outcome (by simp))
  have hfits : Fits healthCheck result.toGraded := executeTask_fits List.mem_cons_self htask
  have hcritical : criticalFailure result.task result.outcome = true := by
    rw [hfits.own, hfail]
    rfl
  refine ⟨?_, fun hstops => ?_⟩
  · show deriveClassification policy (result :: rest) _ = .fail
    rw [deriveClassification, List.any_cons, hcritical]
    rfl
  · rw [hfail] at hrest
    obtain ⟨rfl, hskip⟩ := skipped_of_stopped hstops hrest
    exact ⟨rfl, hskip⟩

end Evaluation

theorem plainRunner_sound : Sound {} ((runEvaluation plainRunner {} "c" "m").eval (fetching (.succeeded .aborted))) :=
  runEvaluation_sound plainRunner {} "c" "m" (runs_trace _ () _)

/-- Without a connection the evaluation makes one call, and fails. -/
theorem plainRunner_fails :
    ((runEvaluation plainRunner {} "c" "m").eval (fetching (.rejected "ECONNREFUSED"))).classification = .fail ∧
      (({} : KibanaEvalPolicy).continueOnCriticalFailure = false →
        (transports ((runEvaluation plainRunner {} "c" "m").trace (fetching (.rejected "ECONNREFUSED")) ())).length = 1 ∧
        ∀ r ∈ ((runEvaluation plainRunner {} "c" "m").eval (fetching (.rejected "ECONNREFUSED"))).taskResults.tail,
          r.outcome = .skip) := by
  refine fail_of_deadTransport (runs_trace _ () _) fun outcome houtcome => ?_
  have hone : outcome = .rejected "ECONNREFUSED" := List.mem_singleton.mp houtcome
  rw [hone]
  rfl

end Benchmarker.Stage2
