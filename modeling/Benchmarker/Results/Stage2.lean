import Benchmarker.Results.Document

/-!
# Stage 2 results as documents

`saveStage2Result` indexes a Stage 2 result under its run and model, `getLatestStage2ForModel` reads
the newest one of a model. The store is every document by index and id; a search answers with the
document that started last.

* `Stage2Result`, `stage2ToEs`, `saveStage2Result`, `readStage2`, `getLatestStage2ForModel`.
* `Answers`: what a search may return; `answers_save`: it returns the newest document.
* `readBack`, **`readStage2_toEs`**: what is read of a written result.
-/

namespace Benchmarker.Results

open Js Js.Json

/-! ## Records -/

structure SuiteResult where
  suite : String
  status : String
  score : Option ℚ := none
  error : Option String := none
  durationMs : Option ℚ := none
  logPath : Option String := none

/-- `Stage2Result`, with its times as texts. -/
structure Stage2Result where
  runId : String
  modelId : String
  status : String
  scores : Option (JsMap String ℚ) := none
  suiteResults : Option (List SuiteResult) := none
  tracesIndex : Option String := none
  reason : Option String := none
  batchSummaryPath : Option String := none
  stdoutLogPath : Option String := none
  startedAt : String
  completedAt : String

/-! ## The store -/

/-- The documents, by index and id. -/
abbrev Store : Type := String → String → Option Json

/-- `esClient.index({ index, id, document })` -/
def Store.put (store : Store) (index id : String) (document : Json) : Store := fun i d =>
  if i = index ∧ d = id then some document else store i d

/-- `INDEX_NAMES.BENCHMARKER_STAGE2` -/
def benchmarkerStage2 : String := "benchmark-stage2"

/-- The documents that the search for a model looks at. -/
def Store.Matches (store : Store) (modelId : String) (document : Json) : Prop :=
  ∃ index id, store index id = some document ∧
    (benchmarkerStage2 ++ "-").toList.isPrefixOf index.toList = true ∧
    document.field "model_id" = some (str modelId)

/-- **What a search for a model answers**, sorted by `started_at` in descending order with `size: 1`.
A time is compared as the date that it is the text of. -/
structure Answers (date : Option Json → ℤ) (store : Store) (modelId : String) (hits : List Json) :
    Prop where
  size : hits.length ≤ 1
  hit : ∀ d ∈ hits, store.Matches modelId d
  found : (∃ d, store.Matches modelId d) → hits ≠ []
  newest : ∀ d ∈ hits, ∀ d', store.Matches modelId d' →
    date (d'.field "started_at") ≤ date (d.field "started_at")

/-! ## Writing and reading -/

section

variable (print : ℚ → String)

def suiteResultToEs (sr : SuiteResult) : Json :=
  obj [("suite", str sr.suite),
    ("status", str sr.status),
    ("score", ofOption (number print) sr.score),
    ("duration_ms", ofOption (number print) sr.durationMs),
    ("error", ofOption str sr.error),
    ("log_path", ofOption str sr.logPath),
    ("trace_id", null)]

def scoresToEs (scores : JsMap String ℚ) : Json := obj (scores.map fun kv => (kv.1, number print kv.2))

def stage2ToEs (result : Stage2Result) (queueEntryId : Option String) : Json :=
  obj [("run_id", str result.runId),
    ("model_id", str result.modelId),
    ("queue_entry_id", ofOption str queueEntryId),
    ("status", str result.status),
    ("scores", ofOption (scoresToEs print) result.scores),
    ("suite_results", arr ((result.suiteResults.getD []).map (suiteResultToEs print))),
    ("batch_summary_path", ofOption str result.batchSummaryPath),
    ("stdout_log_path", ofOption str result.stdoutLogPath),
    ("reason", ofOption str result.reason),
    ("started_at", str result.startedAt),
    ("completed_at", str result.completedAt)]

def stage2Index (result : Stage2Result) : String :=
  benchmarkerStage2 ++ "-" ++ utf16Slice 10 result.startedAt

def stage2DocId (result : Stage2Result) : String := result.runId ++ ":" ++ result.modelId

def saveStage2Result (result : Stage2Result) (queueEntryId : Option String) (store : Store) : Store :=
  store.put (stage2Index result) (stage2DocId result) (stage2ToEs print result queueEntryId)

end

section

variable (numeral : String → Option ℚ)

/-- `Number(v)`, with the numbers that texts stand for; `none` is `NaN`. -/
def toNumber : Json → Option ℚ
  | null => some 0
  | .bool b => some (if b then 1 else 0)
  | num v _ => some v
  | v => v.toText.bind numeral

/-- The suite result that is made of an element; `null` has no fields to read. -/
def readSuiteResult (sr : Json) : Option SuiteResult := do
  let sr ← nullish (some sr) none
  let suite ← orElse toText "" (sr.field "suite")
  let status ← orElse toText "" (sr.field "status")
  let score ← optional (toNumber numeral) (sr.field "score")
  let durationMs ← optional (toNumber numeral) (sr.field "duration_ms")
  let error ← whenTruthy toText (sr.field "error")
  let logPath ← whenTruthy toText (sr.field "log_path")
  return { suite, status, score, error, durationMs, logPath }

/-- The result that `getLatestStage2ForModel` makes of a document. -/
def readStage2 (modelId : String) (src : Json) : Option Stage2Result := do
  let suiteResults ← (nullish (src.field "suite_results") none).mapM (asList (readSuiteResult numeral))
  let runId ← orElse toText "" (src.field "run_id")
  let modelId ← orElse toText modelId (src.field "model_id")
  let status ← orElse toText "failed" (src.field "status")
  let scores ← optional (asDict asNum) (src.field "scores")
  let batchSummaryPath ← whenTruthy toText (src.field "batch_summary_path")
  let stdoutLogPath ← whenTruthy toText (src.field "stdout_log_path")
  let reason ← whenTruthy toText (src.field "reason")
  let startedAt ← orElse toText "" (src.field "started_at")
  let completedAt ← orElse toText "" (src.field "completed_at")
  return {
    runId, modelId, status, scores, suiteResults, batchSummaryPath, stdoutLogPath, reason, startedAt,
    completedAt }

/-- `getLatestStage2ForModel`, with what its search has returned; `none` is `null`, also for a search
or a read that has failed. -/
def getLatestStage2ForModel (modelId : String) : Except String (List Json) → Option Stage2Result
  | .error _ => none
  | .ok hits => hits.head?.bind (readStage2 numeral modelId)

end

/-! ## Round trip -/

theorem lawful_text : Lawful str toText := ⟨fun _ => rfl, fun _ => rfl⟩

theorem lawful_toNumber (print : ℚ → String) (numeral : String → Option ℚ) :
    Lawful (number print) (toNumber numeral) := ⟨fun _ => rfl, fun _ => rfl⟩

theorem lawful_scores (print : ℚ → String) : Lawful (scoresToEs print) (asDict asNum) :=
  lawful_dict (lawful_number print).read_write

/-- An empty text is read as an absent one. -/
theorem whenTruthy_text (x : Option String) :
    whenTruthy toText (some (ofOption str x)) = some (x.filter fun s => s ≠ "") := by
  cases x with
  | none => rfl
  | some s =>
    have htruthy : (str s).truthy = decide (s ≠ "") := rfl
    rw [ofOption, whenTruthy, Option.filter_some, Option.filter_some, htruthy]
    by_cases h : s = ""
    · rw [if_neg (by simp [h]), if_neg (by simp [h])]
    · rw [if_pos (by simp [h]), if_pos (by simp [h])]
      rfl

/-- What is read of a suite result. -/
def SuiteResult.readBack (sr : SuiteResult) : SuiteResult :=
  { sr with
    error := sr.error.filter fun s => s ≠ ""
    logPath := sr.logPath.filter fun s => s ≠ "" }

/-- What is read of a Stage 2 result. -/
def Stage2Result.readBack (result : Stage2Result) : Stage2Result :=
  { result with
    suiteResults := some ((result.suiteResults.getD []).map SuiteResult.readBack)
    tracesIndex := none
    reason := result.reason.filter fun s => s ≠ ""
    batchSummaryPath := result.batchSummaryPath.filter fun s => s ≠ ""
    stdoutLogPath := result.stdoutLogPath.filter fun s => s ≠ "" }

section

variable (print : ℚ → String) (numeral : String → Option ℚ)

theorem readSuiteResult_toEs (sr : SuiteResult) :
    readSuiteResult numeral (suiteResultToEs print sr) = some sr.readBack := by
  rw [readSuiteResult, show nullish (some (suiteResultToEs print sr)) none =
    some (suiteResultToEs print sr) from rfl]
  simp only [Option.bind_eq_bind, Option.bind_some, suiteResultToEs, field_obj_cons, String.reduceEq,
    if_true, if_false, orElse_write lawful_text, optional_ofOption (lawful_toNumber print numeral), whenTruthy_text]
  rfl

theorem asList_suiteResults (l : List SuiteResult) :
    asList (readSuiteResult numeral) (arr (l.map (suiteResultToEs print))) =
      some (l.map SuiteResult.readBack) := by
  rw [asList, List.mapM_map]
  induction l with
  | nil => rfl
  | cons sr l ih => rw [List.mapM_cons, ih, Function.comp, readSuiteResult_toEs]; rfl

/-- **A written result is read back**, with its empty texts absent. -/
theorem readStage2_toEs (result : Stage2Result) (queueEntryId : Option String) (modelId : String) :
    readStage2 numeral modelId (stage2ToEs print result queueEntryId) = some result.readBack := by
  simp only [readStage2, stage2ToEs, field_obj_cons, String.reduceEq, if_true, if_false,
    orElse_write lawful_text, optional_ofOption (lawful_scores print), whenTruthy_text]
  rw [show nullish (some (arr ((result.suiteResults.getD []).map (suiteResultToEs print)))) none =
    some (arr ((result.suiteResults.getD []).map (suiteResultToEs print))) from rfl,
    Option.mapM_some, asList_suiteResults]
  rfl

/-! ## The newest document -/

variable {date : Option Json → ℤ} {store : Store} {result : Stage2Result}
  {queueEntryId : Option String}

/-- The result is saved as the newest document of its model: every other one has started earlier. -/
def Newest (date : Option Json → ℤ) (store : Store) (result : Stage2Result) : Prop :=
  ∀ index id document, (index, id) ≠ (stage2Index result, stage2DocId result) →
    store index id = some document → document.field "model_id" = some (str result.modelId) →
    date (document.field "started_at") < date (some (str result.startedAt))

theorem matches_save :
    (saveStage2Result print result queueEntryId store).Matches result.modelId
      (stage2ToEs print result queueEntryId) := by
  refine ⟨stage2Index result, stage2DocId result, ?_, ?_, ?_⟩
  · rw [saveStage2Result, Store.put, if_pos ⟨rfl, rfl⟩]
  · rw [List.isPrefixOf_iff_prefix]
    exact ⟨(utf16Slice 10 result.startedAt).toList, String.toList_append.symm⟩
  · rw [stage2ToEs, field_obj_cons, if_neg (by decide), field_obj_cons, if_pos rfl]

theorem startedAt_toEs :
    (stage2ToEs print result queueEntryId).field "started_at" = some (str result.startedAt) := by
  simp only [stage2ToEs, field_obj_cons, String.reduceEq, if_true, if_false]

/-- **A search after the save answers with the saved document.** -/
theorem answers_save {hits : List Json} (hnewest : Newest date store result)
    (h : Answers date (saveStage2Result print result queueEntryId store) result.modelId hits) :
    hits = [stage2ToEs print result queueEntryId] := by
  match hits, h with
  | [], h => exact absurd rfl (h.found ⟨_, matches_save print⟩)
  | [d], h =>
    obtain ⟨index, id, hd, -, hmodel⟩ := h.hit d (List.mem_singleton_self d)
    have hle := h.newest d (List.mem_singleton_self d) _ (matches_save print)
    rw [startedAt_toEs] at hle
    rw [saveStage2Result, Store.put] at hd
    by_cases hkey : index = stage2Index result ∧ id = stage2DocId result
    · rw [if_pos hkey] at hd
      rw [Option.some.inj hd]
    · rw [if_neg hkey] at hd
      have hne : (index, id) ≠ (stage2Index result, stage2DocId result) := fun heq =>
        hkey ⟨congrArg Prod.fst heq, congrArg Prod.snd heq⟩
      have hlt := hnewest index id d hne hd hmodel
      omega
  | _ :: _ :: _, h => exact absurd h.size (by simp)

end

/-! ## Round trips -/

/-- **Results survive their documents.** A benchmark result whose raw output is not cut is read as it
was written, apart from the results by mode and the reasoning results; the newest Stage 2 result of a
model is read as it was saved, with empty texts absent. -/
theorem results_roundTrip (print : ℚ → String) (numeral : String → Option ℚ) :
    (∀ result : BenchmarkResult, utf16Length result.rawOutput ≤ maxRawOutputBytes →
      esHitToResult (resultToEs print result) = some (stored result)) ∧
    ∀ (date : Option Json → ℤ) (store : Store) (result : Stage2Result) (queueEntryId : Option String)
      (hits : List Json), Newest date store result →
      Answers date (saveStage2Result print result queueEntryId store) result.modelId hits →
      getLatestStage2ForModel numeral result.modelId (.ok hits) = some result.readBack := by
  refine ⟨fun result hraw => esHitToResult_toEs print result hraw, ?_⟩
  intro date store result queueEntryId hits hnewest hanswers
  rw [answers_save print hnewest hanswers]
  exact readStage2_toEs print numeral result queueEntryId result.modelId

/-- Prints whole numbers. -/
def printWhole (v : ℚ) : String := toString v.num

/-- A result with tool calls that were measured by mode. -/
def modedResult : BenchmarkResult where
  modelId := "a/m"
  timestamp := "2026-07-14T09:00:00.000Z"
  vllmVersion := "0.9.0"
  dockerCommand := "docker run"
  hardwareConfig := ⟨"A100", 1, 64, 8, 500, "a2-highgpu-1g", none⟩
  benchmarkMetrics := [⟨10, 50, 100, 200, 1⟩]
  toolCallResults := some
    { supportsParallelCalls := true
      maxConcurrentCalls := 2
      avgToolCallLatencyMs := 300
      successRate := 1
      totalTests := 4
      modeResults := some [⟨.auto, true, 2, 300, 1, none, 4⟩] }
  passed := true
  rejectionReasons := []
  tensorParallelSize := 1
  toolCallParser := "hermes"
  rawOutput := "ok"

/-- A Stage 2 result of a day, with an empty reason. -/
def stage2Of (runId startedAt : String) : Stage2Result where
  runId := runId
  modelId := "a/m"
  status := "partial"
  reason := some ""
  startedAt := startedAt
  completedAt := startedAt

def earlierStage2 : Stage2Result := stage2Of "r1" "2026-07-13T09:00:00.000Z"

def laterStage2 : Stage2Result := stage2Of "r2" "2026-07-14T09:00:00.000Z"

/-- The dates of the two days. -/
def dateOf (d : Option Json) : ℤ :=
  if d.bind asStr = some "2026-07-14T09:00:00.000Z" then 1784019600000 else 1783933200000

/-- The store after the earlier result is saved. -/
def earlierStore : Store := saveStage2Result printWhole earlierStage2 none fun _ _ => none

theorem earlierStore_eq {index id : String} {d : Json} (h : earlierStore index id = some d) :
    d = stage2ToEs printWhole earlierStage2 none := by
  rw [earlierStore, saveStage2Result, Store.put] at h
  split_ifs at h
  exact (Option.some.inj h).symm

theorem dateOf_startedAt (result : Stage2Result) :
    dateOf ((stage2ToEs printWhole result none).field "started_at") =
      dateOf (some (str result.startedAt)) :=
  congrArg dateOf (startedAt_toEs printWhole)

theorem newest_later : Newest dateOf earlierStore laterStage2 := by
  intro index id d _ hd _
  rw [earlierStore_eq hd, dateOf_startedAt]
  decide

theorem answers_later :
    Answers dateOf (saveStage2Result printWhole laterStage2 none earlierStore) "a/m"
      [stage2ToEs printWhole laterStage2 none] where
  size := le_refl 1
  hit d hd := by
    rw [List.mem_singleton.1 hd]
    exact matches_save printWhole
  found _ := List.cons_ne_nil _ _
  newest d hd d' hd' := by
    obtain ⟨index, id, h, -, -⟩ := hd'
    rw [List.mem_singleton.1 hd, dateOf_startedAt]
    rw [saveStage2Result, Store.put] at h
    split_ifs at h with hkey
    · cases h
      exact Int.le_of_eq (dateOf_startedAt laterStage2)
    · rw [earlierStore_eq h, dateOf_startedAt]
      decide

/-- The round trips of the two results. -/
theorem modedResult_roundTrip :
    esHitToResult (resultToEs printWhole modedResult) = some (stored modedResult) ∧
    getLatestStage2ForModel (fun _ => none) "a/m" (.ok [stage2ToEs printWhole laterStage2 none]) =
      some laterStage2.readBack :=
  ⟨(results_roundTrip printWhole fun _ => none).1 modedResult (by decide),
    (results_roundTrip printWhole fun _ => none).2 dateOf earlierStore laterStage2 none _ newest_later
      answers_later⟩

/-- **The results by mode are lost**, and an empty reason is read as an absent one. -/
theorem modedResult_changed :
    esHitToResult (resultToEs printWhole modedResult) ≠ some modedResult ∧
    Newest dateOf earlierStore laterStage2 ∧
    Answers dateOf (saveStage2Result printWhole laterStage2 none earlierStore) "a/m"
      [stage2ToEs printWhole laterStage2 none] ∧
    (getLatestStage2ForModel (fun _ => none) "a/m"
      (.ok [stage2ToEs printWhole laterStage2 none])).map Stage2Result.reason ≠
        some laterStage2.reason := by
  refine ⟨?_, newest_later, answers_later, ?_⟩
  · rw [esHitToResult_toEs printWhole modedResult (by decide)]
    intro h
    have hmodes := congrArg (fun r => r.bind fun r => r.toolCallResults.bind (·.modeResults)) h
    simp [stored, modedResult] at hmodes
  · show (readStage2 (fun _ => none) "a/m" (stage2ToEs printWhole laterStage2 none)).map Stage2Result.reason ≠ _
    rw [readStage2_toEs]
    decide

end Benchmarker.Results
