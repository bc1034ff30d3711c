import Benchmarker.Async.Uses
import Benchmarker.LocalBatch.Store
import Benchmarker.Scheduler.Data

/-!
# The local batch runner

`LocalBatchEvalRunner.run`: one run of the batch script over some suites, and what is made of its
summary, of the rows that its workers have left and of the logs of its suites. The batch script, the
files that it writes and the results store are what the requests are sent to.

* `BatchOp`, `BatchAns`, `BatchJs`: the requests of a local batch run.
* `orderBenchmarkerSuites`, `parseSummary`, `parseJsonlStateResults`, `enrichWithSpecPassRates`.
* `runBatch`: `LocalBatchEvalRunner.run`. `quiet_runBatch`: it stores nothing.
  **`runBatch_requested`**: it reports only requested suites.
-/

namespace Benchmarker

open Js Async Async.Prog

/-! ## Requests -/

/-- `BatchSummaryResultEntry`. -/
structure BatchSummaryResultEntry where
  suite : String
  model : String
  status : String
  durationMs : ℚ
  logFile : Option String
  deriving DecidableEq

/-- A row of a worker's JSONL file, as far as it is read. -/
structure BatchRow where
  suite : Option String
  model : Option String
  status : Option String
  durationMs : Option ℚ := none
  logFile : Option String := none
  deriving DecidableEq

/-- What a run of the batch script leaves: the path that `extractSummaryPath` finds in its output, and
its exit code. -/
structure BatchExit where
  summaryPath : Option String
  exitCode : Option ℤ
  deriving DecidableEq

/-- What the summary lines of a suite's log count. -/
structure SpecTally where
  passed : ℕ
  failed : ℕ
  flaky : ℕ
  deriving DecidableEq

/-- The requests of a local batch run. -/
inductive BatchOp
  | now
  | updateProgress (queueEntryId : ℕ) (detail : String) (evalSuites evalCompleted : List String)
      (evalCurrent : Option String)
  | runScript (vllmBaseUrl modelId : String) (suites : List String)
  | writeStdout (path : String)
  | readSummary (path : String)
  | readJsonl (pluginDir : String)
  | readLog (path : String)
  | saveStage2Result (result : Stage2Result) (queueEntryId : Option ℕ)
  | searchStage2 (queueEntryId : ℕ)
  deriving DecidableEq

/-- The answers. A summary or a log that cannot be read or parsed is `none`; the rows are those of the
worker files up to the first that cannot be read. -/
@[reducible] def BatchAns : BatchOp → Type
  | .now => Time
  | .updateProgress _ _ _ _ _ | .writeStdout _ => Unit
  | .runScript _ _ _ => Except JsError BatchExit
  | .readSummary _ => Option (List BatchSummaryResultEntry)
  | .readJsonl _ => List BatchRow
  | .readLog _ => Option SpecTally
  | .saveStage2Result _ _ => Except JsError Unit
  | .searchStage2 _ => Except JsError (List Stage2Doc)

/-- The body of a method of a local batch run. -/
abbrev BatchJs (α : Type) : Type := ExceptT JsError (Prog BatchAns) α

/-- Send one request. -/
abbrev batchSend (o : BatchOp) : Prog BatchAns (BatchAns o) := request o

def runScript (vllmBaseUrl modelId : String) (suites : List String) : BatchJs BatchExit :=
  ExceptT.mk (batchSend (.runScript vllmBaseUrl modelId suites))

def storeStage2Result (result : Stage2Result) (queueEntryId : Option ℕ) : BatchJs Unit :=
  ExceptT.mk (batchSend (.saveStage2Result result queueEntryId))

def searchStage2 (queueEntryId : ℕ) : BatchJs (List Stage2Doc) :=
  ExceptT.mk (batchSend (.searchStage2 queueEntryId))

/-- Await a request that does not throw. -/
def batchRequest (o : BatchOp) : BatchJs (BatchAns o) := ExceptT.lift (batchSend o)

/-! ## Results -/

/-- `LocalBatchEvalResult['status']`. -/
inductive BatchStatus
  | success | partialRun | failed
  deriving DecidableEq, Repr

/-- The status as it is written. -/
def BatchStatus.text : BatchStatus → String
  | success => "success"
  | partialRun => "partial"
  | failed => "failed"

structure LocalBatchEvalSuiteResult where
  suite : String
  status : String
  durationMs : ℚ
  logPath : Option String := none
  specPassRate : Option ℚ := none
  deriving DecidableEq

structure LocalBatchEvalResult where
  modelId : String
  status : BatchStatus
  suites : List LocalBatchEvalSuiteResult
  startedAt : Time
  completedAt : Time
  summaryPath : Option String := none
  stdoutLogPath : Option String := none
  deriving DecidableEq

/-- `LocalBatchEvalOptions`, as the batch worker fills them. -/
structure LocalBatchEvalOptions where
  vllmBaseUrl : String
  modelId : String
  suites : List String
  skipSuites : List String
  deriving DecidableEq

/-! ## The runner -/

/-- The suites that run first on a fresh stack. -/
def prioritySuites : List String :=
  ["security-alert-triage", "security-alerts-rag-regression", "security-esql-generation-regression"]

def orderBenchmarkerSuites (suites : List String) : List String :=
  suites.foldl setAdd (prioritySuites.filter (· ∈ suites))

/-- The result of a suite that nothing was reported of. -/
def missingSuite (suite : String) : LocalBatchEvalSuiteResult := ⟨suite, "fail", 0, none, none⟩

/-- The loop of `parseSummary`: the last entry of each suite. -/
def summaryBySuite (modelId : String) (results : List BatchSummaryResultEntry) :
    JsMap String BatchSummaryResultEntry :=
  results.foldl (fun m e => if e.model = modelId then m.set e.suite e else m) []

/-- `parseSummary`: a result for each requested suite, and whether the summary was missing. -/
def parseSummary (summaryPath : Option String) (requestedSuites : List String) (modelId : String) :
    BatchJs (List LocalBatchEvalSuiteResult × Bool) := do
  match truthy summaryPath with
  | none => return (requestedSuites.map missingSuite, true)
  | some path =>
    match ← batchRequest (.readSummary path) with
    | none => return (requestedSuites.map missingSuite, true)
    | some results =>
      let bySuite := summaryBySuite modelId results
      return (requestedSuites.map fun suite =>
        match bySuite.get suite with
        | none => missingSuite suite
        | some e => ⟨suite, e.status, e.durationMs, e.logFile, none⟩, false)

/-- One row of `parseJsonlStateResults`: the suite result that it gives, if it counts. -/
def BatchRow.suiteResult (row : BatchRow) (modelId : String) : Option LocalBatchEvalSuiteResult :=
  if row.model = some modelId then
    match truthy row.suite, row.status with
    | some suite, some status =>
      if status = "pass" ∨ status = "fail" then
        some ⟨suite, status, row.durationMs.getD 0, row.logFile, none⟩
      else none
    | _, _ => none
  else none

/-- The loop of `parseJsonlStateResults`: the last row of each suite. -/
def jsonlBySuite (modelId : String) (rows : List BatchRow) : JsMap String LocalBatchEvalSuiteResult :=
  (rows.filterMap (·.suiteResult modelId)).foldl (fun m r => m.set r.suite r) []

def parseJsonlStateResults (pluginDir : String) (requestedSuites : List String) (modelId : String) :
    BatchJs (List LocalBatchEvalSuiteResult) := do
  let rows ← batchRequest (.readJsonl pluginDir)
  return requestedSuites.map fun suite => ((jsonlBySuite modelId rows).get suite).getD (missingSuite suite)

/-- `parsePlaywrightSpecPassRate`. -/
def parsePlaywrightSpecPassRate (tally : SpecTally) : Option ℚ :=
  let total := tally.passed + tally.failed + tally.flaky
  if total = 0 then none else some ((tally.passed : ℚ) / total)

/-- The pass rate of a failed suite with a log. -/
def enrichSuite (result : LocalBatchEvalSuiteResult) : BatchJs LocalBatchEvalSuiteResult := do
  match truthy (result.logPath.filter fun _ => result.status = "fail") with
  | none => return result
  | some logPath =>
    let tally ← batchRequest (.readLog logPath)
    match tally.bind parsePlaywrightSpecPassRate with
    | none => return result
    | some rate => return { result with specPassRate := some rate }

/-- `enrichWithSpecPassRates`. -/
def enrichWithSpecPassRates : List LocalBatchEvalSuiteResult → BatchJs (List LocalBatchEvalSuiteResult)
  | [] => return []
  | result :: results => do
    let enriched ← enrichSuite result
    let rest ← enrichWithSpecPassRates results
    return enriched :: rest

/-- The status of a finished run of the script. -/
def scriptStatus (suites : List LocalBatchEvalSuiteResult) (exitCode : Option ℤ) : BatchStatus :=
  let passCount := suites.countP fun s => s.status = "pass"
  if passCount = suites.length ∧ exitCode = some 0 then .success
  else if passCount > 0 then .partialRun
  else .failed

/-- The results of the script: its summary, or else the workers' rows if they have a pass. -/
def scriptResults (pluginDir : String) (summaryPath : Option String) (suites : List String)
    (modelId : String) : BatchJs (List LocalBatchEvalSuiteResult) := do
  let (suiteResults, missing) ← parseSummary summaryPath suites modelId
  if missing then
    let jsonlResults ← parseJsonlStateResults pluginDir suites modelId
    if jsonlResults.any fun s => s.status = "pass" then return jsonlResults else return suiteResults
  else return suiteResults

/-- `LocalBatchEvalRunner.run`. -/
def runBatch (skillDevPluginDir : Option String) (opts : LocalBatchEvalOptions) :
    BatchJs LocalBatchEvalResult := do
  let startedAt ← batchRequest .now
  match truthy skillDevPluginDir with
  | none =>
    throw ⟨"stage2Local.skillDevPluginDir is required when useBatchRunner is enabled", none⟩
  | some pluginDir =>
    let rawSuites := opts.suites.filter (· ∉ opts.skipSuites)
    if rawSuites = [] then
      let completedAt ← batchRequest .now
      return ⟨opts.modelId, .success, [], startedAt, completedAt, none, none⟩
    else
      let suites := orderBenchmarkerSuites rawSuites
      let exit ← runScript opts.vllmBaseUrl opts.modelId suites
      let loggedAt ← batchRequest .now
      let stdoutLogPath := pluginDir ++ "/matrix-output/batch-logs/batch-stdout-runner-" ++
        toString loggedAt ++ ".log"
      batchRequest (.writeStdout stdoutLogPath)
      let completedAt ← batchRequest .now
      let results ← scriptResults pluginDir exit.summaryPath suites opts.modelId
      let enriched ← enrichWithSpecPassRates results
      return ⟨opts.modelId, scriptStatus enriched exit.exitCode, enriched, startedAt, completedAt,
        exit.summaryPath, some stdoutLogPath⟩

/-! ## What a run stores -/

/-- The request stores a Stage 2 result. -/
@[simp] def BatchOp.saves : BatchOp → Bool
  | .saveStage2Result _ _ => true
  | _ => false

/-- The request runs the batch script. -/
@[simp] def BatchOp.runs : BatchOp → Bool
  | .runScript _ _ _ => true
  | _ => false

/-- The request reads a file that the script has left. -/
@[simp] def BatchOp.reads : BatchOp → Bool
  | .readSummary _ | .readJsonl _ | .readLog _ => true
  | _ => false

theorem BatchOp.reads_only {o : BatchOp} (h : o.reads = true) : o.saves = false ∧ o.runs = false := by
  cases o <;> simp_all

/-- The body stores nothing. -/
abbrev Quiet {α : Type} (x : BatchJs α) : Prop := x.run.Uses fun o => o.saves = false

/-- The body only reads what the script has left. -/
abbrev Reads {α : Type} (x : BatchJs α) : Prop := x.run.Uses fun o => o.reads = true

section Quiet

theorem quiet_batchRequest {o : BatchOp} (h : o.saves = false) : Quiet (batchRequest o) :=
  uses_lift (uses_request.mpr h)

theorem reads_batchRequest {o : BatchOp} (h : o.reads = true) : Reads (batchRequest o) :=
  uses_lift (uses_request.mpr h)

theorem Reads.quiet {α : Type} {x : BatchJs α} (h : Reads x) : Quiet x :=
  h.mono fun _ ho => (BatchOp.reads_only ho).1

theorem reads_parseSummary {summaryPath : Option String} {suites : List String} {modelId : String} :
    Reads (parseSummary summaryPath suites modelId) := by
  unfold parseSummary
  split
  · exact uses_throws_pure _
  · refine uses_throws_bind (reads_batchRequest rfl) fun summary => ?_
    cases summary <;> exact uses_throws_pure _

theorem reads_enrichSuite {result : LocalBatchEvalSuiteResult} : Reads (enrichSuite result) := by
  unfold enrichSuite
  split
  · exact uses_throws_pure _
  · refine uses_throws_bind (reads_batchRequest rfl) fun tally => ?_
    split <;> exact uses_throws_pure _

theorem reads_enrichWithSpecPassRates (results : List LocalBatchEvalSuiteResult) :
    Reads (enrichWithSpecPassRates results) := by
  induction results with
  | nil => exact uses_throws_pure _
  | cons result results ih =>
    refine uses_throws_bind reads_enrichSuite fun _ => ?_
    exact uses_throws_bind ih fun _ => uses_throws_pure _

theorem reads_scriptResults {pluginDir modelId : String} {summaryPath : Option String}
    {suites : List String} : Reads (scriptResults pluginDir summaryPath suites modelId) := by
  refine uses_throws_bind reads_parseSummary fun p => ?_
  refine uses_ite (uses_throws_bind ?_ fun jsonl => ?_) (uses_throws_pure _)
  · exact uses_throws_bind (reads_batchRequest rfl) fun _ => uses_throws_pure _
  · exact uses_ite (uses_throws_pure _) (uses_throws_pure _)

theorem quiet_runBatch {dir : Option String} {opts : LocalBatchEvalOptions} :
    Quiet (runBatch dir opts) := by
  refine uses_throws_bind (quiet_batchRequest rfl) fun _ => ?_
  split
  · exact uses_throw _
  · refine uses_ite (uses_throws_bind (quiet_batchRequest rfl) fun _ => uses_throws_pure _) ?_
    refine uses_throws_bind (uses_request.mpr rfl) fun exit => ?_
    refine uses_throws_bind (quiet_batchRequest rfl) fun _ => ?_
    refine uses_throws_bind (quiet_batchRequest rfl) fun _ => ?_
    refine uses_throws_bind (quiet_batchRequest rfl) fun _ => ?_
    refine uses_throws_bind reads_scriptResults.quiet fun results => ?_
    exact uses_throws_bind (reads_enrichWithSpecPassRates _).quiet fun _ => uses_throws_pure _

end Quiet

/-! ## What a run reports -/

section Reports

variable {W : Type} {es : List (Event BatchAns W)} {suites : List String} {modelId : String}

/-- A set to which the elements of a list are added. -/
theorem mem_foldl_add {s : String} {l acc : List String} : s ∈ l.foldl setAdd acc ↔ s ∈ acc ∨ s ∈ l := by
  induction l generalizing acc with
  | nil => simp
  | cons a l ih => rw [List.foldl_cons, ih, mem_setAdd, List.mem_cons, or_assoc]

theorem mem_orderBenchmarkerSuites {s : String} : s ∈ orderBenchmarkerSuites suites ↔ s ∈ suites := by
  rw [orderBenchmarkerSuites, mem_foldl_add, List.mem_filter]
  constructor
  · rintro (⟨-, h⟩ | h)
    · exact of_decide_eq_true h
    · exact h
  · exact .inr

/-- The workers' result under a suite is a result of that suite. -/
theorem suite_of_jsonlBySuite {rows : List BatchRow} {s : String} {r : LocalBatchEvalSuiteResult}
    (h : (jsonlBySuite modelId rows).get s = some r) : r.suite = s := by
  have hfold : ∀ (rs : List LocalBatchEvalSuiteResult) (m : JsMap String LocalBatchEvalSuiteResult),
      (∀ s r, m.get s = some r → r.suite = s) →
        ∀ s r, (rs.foldl (fun m r => m.set r.suite r) m).get s = some r → r.suite = s := by
    intro rs
    induction rs with
    | nil => exact fun m hm => hm
    | cons r' rs ih =>
      intro m hm
      refine ih _ fun s r hget => ?_
      rw [JsMap.get_set] at hget
      split_ifs at hget with hs
      · rw [← Option.some.inj hget, hs]
      · exact hm s r hget
  exact hfold _ [] (fun s r h => by cases h) s r h

/-- The suites of a list of suite results. -/
def suitesOf (results : List LocalBatchEvalSuiteResult) : List String := results.map (·.suite)

theorem suites_parseSummary {summaryPath : Option String} {out : List LocalBatchEvalSuiteResult × Bool}
    (h : (parseSummary summaryPath suites modelId).run.Runs es (.ok out)) : suitesOf out.1 = suites := by
  have hmissing : suitesOf (suites.map missingSuite) = suites := by
    simp [suitesOf, missingSuite, Function.comp_def]
  unfold parseSummary at h
  split at h
  · rw [← eq_of_runs_pure h]
    exact hmissing
  · obtain ⟨_, _, summary, -, -, h⟩ := runs_ok_bind.mp h
    cases summary with
    | none =>
      rw [← eq_of_runs_pure h]
      exact hmissing
    | some results =>
      rw [← eq_of_runs_pure h]
      dsimp only [suitesOf]
      rw [List.map_map]
      refine (List.map_congr_left fun s _ => ?_).trans (List.map_id _)
      dsimp only [Function.comp]
      cases (summaryBySuite modelId results).get s <;> rfl

theorem suites_parseJsonlStateResults {pluginDir : String} {out : List LocalBatchEvalSuiteResult}
    (h : (parseJsonlStateResults pluginDir suites modelId).run.Runs es (.ok out)) :
    suitesOf out = suites := by
  unfold parseJsonlStateResults at h
  obtain ⟨_, _, rows, -, -, h⟩ := runs_ok_bind.mp h
  rw [← eq_of_runs_pure h]
  dsimp only [suitesOf]
  rw [List.map_map]
  refine (List.map_congr_left fun s _ => ?_).trans (List.map_id _)
  dsimp only [Function.comp]
  cases hget : (jsonlBySuite modelId rows).get s with
  | none => rfl
  | some r => exact suite_of_jsonlBySuite hget

theorem suites_scriptResults {pluginDir : String} {summaryPath : Option String}
    {out : List LocalBatchEvalSuiteResult}
    (h : (scriptResults pluginDir summaryPath suites modelId).run.Runs es (.ok out)) :
    suitesOf out = suites := by
  unfold scriptResults at h
  obtain ⟨_, _, ⟨results, missing⟩, -, hsummary, h⟩ := runs_ok_bind.mp h
  have hsuites := suites_parseSummary hsummary
  dsimp only at h hsuites
  split at h
  · obtain ⟨_, _, jsonl, -, hjsonl, h⟩ := runs_ok_bind.mp h
    split at h
    · rw [← eq_of_runs_pure h]
      exact suites_parseJsonlStateResults hjsonl
    · rw [← eq_of_runs_pure h]
      exact hsuites
  · rw [← eq_of_runs_pure h]
    exact hsuites

theorem suite_enrichSuite {result out : LocalBatchEvalSuiteResult}
    (h : (enrichSuite result).run.Runs es (.ok out)) : out.suite = result.suite := by
  unfold enrichSuite at h
  split at h
  · rw [← eq_of_runs_pure h]
  · obtain ⟨_, _, tally, -, -, h⟩ := runs_ok_bind.mp h
    split at h
    · rw [← eq_of_runs_pure h]
    · rw [← eq_of_runs_pure h]

theorem suites_enrichWithSpecPassRates {results out : List LocalBatchEvalSuiteResult}
    (h : (enrichWithSpecPassRates results).run.Runs es (.ok out)) : suitesOf out = suitesOf results := by
  induction results generalizing out es with
  | nil => rw [← eq_of_runs_pure h]
  | cons result results ih =>
    unfold enrichWithSpecPassRates at h
    obtain ⟨_, _, enriched, -, h₁, h⟩ := runs_ok_bind.mp h
    obtain ⟨_, _, rest, -, h₂, h⟩ := runs_ok_bind.mp h
    rw [← eq_of_runs_pure h]
    dsimp only [suitesOf] at ih ⊢
    rw [List.map_cons, List.map_cons, suite_enrichSuite h₁, ih h₂]

/-- What the runs of the script have left, as far as they returned. -/
def exits (es : List (Event BatchAns W)) : List BatchExit :=
  es.filterMap fun
    | ⟨.runScript _ _ _, .ok exit, _, _⟩ => some exit
    | _ => none

theorem exits_append (es fs : List (Event BatchAns W)) : exits (es ++ fs) = exits es ++ exits fs :=
  List.filterMap_append

theorem exits_eq_nil {α : Type} {p : Prog BatchAns α} {a : α} (h : p.Uses fun o => o.runs = false)
    (hruns : p.Runs es a) : exits es = [] := by
  refine List.filterMap_eq_nil_iff.mpr fun e he => ?_
  have hop := h.events hruns e he
  obtain ⟨o, r, pre, post⟩ := e
  cases o with
  | runScript _ _ _ => cases hop
  | _ => rfl

theorem exits_batchRequest {o : BatchOp} {r : Except JsError (BatchAns o)} (ho : o.runs = false)
    (h : (batchRequest o).run.Runs es r) : exits es = [] :=
  exits_eq_nil (uses_lift (uses_request.mpr ho)) h

theorem Reads.exits {α : Type} {x : BatchJs α} (h : Reads x) {r : Except JsError α}
    (hruns : x.run.Runs es r) : exits es = [] :=
  exits_eq_nil (h.mono fun _ ho => (BatchOp.reads_only ho).2) hruns

/-- **What a finished run reports**: nothing to run, or what its one run of the script has left. -/
theorem runs_runBatch {dir : Option String} {opts : LocalBatchEvalOptions}
    {out : LocalBatchEvalResult} (h : (runBatch dir opts).run.Runs es (.ok out)) :
    (exits es = [] ∧ out.suites = [] ∧ out.status = .success) ∨
      ∃ exit, exits es = [exit] ∧ out.status = scriptStatus out.suites exit.exitCode ∧
        suitesOf out.suites = orderBenchmarkerSuites (opts.suites.filter (· ∉ opts.skipSuites)) := by
  unfold runBatch at h
  obtain ⟨es₁, es₂, startedAt, rfl, hstart, h⟩ := runs_ok_bind.mp h
  have hstart : exits es₁ = [] := exits_batchRequest rfl hstart
  rw [exits_append, hstart, List.nil_append]
  split at h
  · cases (runs_throw.mp h).2
  · dsimp only at h
    split at h
    · obtain ⟨es₁, es₂, completedAt, rfl, hnow, h⟩ := runs_ok_bind.mp h
      have hnow : exits es₁ = [] := exits_batchRequest rfl hnow
      rw [exits_append, hnow, (runs_throws_pure.mp h).1, ← eq_of_runs_pure h]
      exact .inl ⟨rfl, rfl, rfl⟩
    · obtain ⟨es₁, es₂, exit, rfl, hexit, h⟩ := runs_ok_bind.mp h
      obtain ⟨fs₁, es₂, loggedAt, rfl, hlog, h⟩ := runs_ok_bind.mp h
      obtain ⟨fs₂, es₂, _, rfl, hwrite, h⟩ := runs_ok_bind.mp h
      obtain ⟨fs₃, es₂, completedAt, rfl, hnow, h⟩ := runs_ok_bind.mp h
      obtain ⟨fs₄, es₂, results, rfl, hresults, h⟩ := runs_ok_bind.mp h
      obtain ⟨fs₅, es₂, enriched, rfl, henrich, h⟩ := runs_ok_bind.mp h
      have hone : exits es₁ = [exit] := by
        obtain ⟨pre, post, rfl⟩ := runs_request.mp hexit
        rfl
      have hout := eq_of_runs_pure h
      refine .inr ⟨exit, ?_, ?_, ?_⟩
      · have hlog : exits fs₁ = [] := exits_batchRequest rfl hlog
        have hwrite : exits fs₂ = [] := exits_batchRequest rfl hwrite
        have hnow : exits fs₃ = [] := exits_batchRequest rfl hnow
        have hresults : exits fs₄ = [] := reads_scriptResults.exits hresults
        have henrich : exits fs₅ = [] := (reads_enrichWithSpecPassRates _).exits henrich
        rw [(runs_throws_pure.mp h).1]
        simp only [exits_append, hone, hlog, hwrite, hnow, hresults, henrich]
        rfl
      · rw [← hout]
      · rw [← hout]
        exact (suites_enrichWithSpecPassRates henrich).trans (suites_scriptResults hresults)

/-- **A run reports only suites that were requested and not skipped.** -/
theorem runBatch_requested {dir : Option String} {opts : LocalBatchEvalOptions}
    {out : LocalBatchEvalResult} (h : (runBatch dir opts).run.Runs es (.ok out)) :
    ∀ s ∈ suitesOf out.suites, s ∈ opts.suites ∧ s ∉ opts.skipSuites := by
  intro s hs
  rcases runs_runBatch h with ⟨-, hnone, -⟩ | ⟨exit, -, -, hsuites⟩
  · rw [hnone] at hs
    cases hs
  · rw [hsuites, mem_orderBenchmarkerSuites] at hs
    obtain ⟨hin, hskip⟩ := List.mem_filter.mp hs
    exact ⟨hin, of_decide_eq_true hskip⟩

end Reports

end Benchmarker
