import Benchmarker.CiEval.Stage2
import Benchmarker.Scheduler.State

/-!
# Stored Stage 2 results

The Stage 2 documents of the results store. A document is stored under the run and the model of its
result, in the index of the day on which the result was started; storing it again overwrites it.

* `Stage2Doc`, `saveStage2Result`: a document, and what a save does to the store.
* `Stage2Page`: the hits that the search for the passed suites of a queue entry may return.
* `suiteDocPassed`, `passedStage2Suites`: the suites that count as passed among the hits.
-/

namespace Benchmarker

open Js

/-- A document of the Stage 2 indices. -/
structure Stage2Doc where
  runId : String
  modelId : String
  queueEntryId : Option ℕ
  status : Stage2Status
  scores : Option (JsMap String ℚ)
  suiteResults : List SuiteResult
  batchSummaryPath : Option String
  stdoutLogPath : Option String
  reason : Option String
  startedAt : Time
  completedAt : Time
  deriving DecidableEq

/-- The index and the id of a document: the day of `startedAt`, and `docId`. -/
abbrev Stage2Key : Type := ℕ × String

def stage2Key (result : Stage2Result) : Stage2Key :=
  (result.startedAt / (24 * 60 * 60 * 1000), result.runId ++ ":" ++ result.modelId)

/-- The document that `saveStage2Result` indexes. -/
def stage2Doc (result : Stage2Result) (queueEntryId : Option ℕ) : Stage2Doc where
  runId := result.runId
  modelId := result.modelId
  queueEntryId := queueEntryId
  status := result.status
  scores := result.scores
  suiteResults := result.suiteResults.getD []
  batchSummaryPath := result.batchSummaryPath
  stdoutLogPath := result.stdoutLogPath
  reason := result.reason
  startedAt := result.startedAt
  completedAt := result.completedAt

/-- The Stage 2 documents by index and id. -/
abbrev Stage2Store : Type := List (Stage2Key × Stage2Doc)

/-- The documents under other keys. -/
def Stage2Store.without (store : Stage2Store) (key : Stage2Key) : Stage2Store :=
  store.filter fun kd => kd.1 ≠ key

/-- `saveStage2Result`. -/
def Stage2Store.saveStage2Result (store : Stage2Store) (result : Stage2Result)
    (queueEntryId : Option ℕ) : Stage2Store :=
  (stage2Key result, stage2Doc result queueEntryId) :: store.without (stage2Key result)

/-! ## The passed suites of a queue entry -/

/-- The documents that the search of `getPassedStage2SuitesForEntry` filters. -/
def Stage2Store.ofEntry (store : Stage2Store) (queueEntryId : ℕ) : List Stage2Doc :=
  (store.map (·.2)).filter fun d =>
    d.queueEntryId = some queueEntryId && (d.status = .success || d.status = .partialRun)

/-- The hits that the search may return: the newest 20, ties in any order. -/
def Stage2Page (store : Stage2Store) (queueEntryId : ℕ) (hits : List Stage2Doc) : Prop :=
  ∃ docs : List Stage2Doc, docs.Perm (store.ofEntry queueEntryId) ∧
    docs.Pairwise (fun a b => b.startedAt ≤ a.startedAt) ∧ hits = docs.take 20

/-- A stored suite result counts as passed. -/
def suiteDocPassed (sr : SuiteResult) : Bool := sr.status = "pass" || sr.score.getD 0 ≥ 1

/-- The suites that `getPassedStage2SuitesForEntry` collects from the hits. -/
def passedStage2Suites (evalSuites : List String) (hits : List Stage2Doc) : List String :=
  (hits.flatMap (·.suiteResults)).foldl (fun passed sr =>
    if sr.suite ∈ evalSuites ∧ suiteDocPassed sr then setAdd passed sr.suite else passed) []

section Facts

variable {store : Stage2Store} {result : Stage2Result} {key : Stage2Key} {q : Option ℕ} {e : ℕ}
variable {evalSuites : List String} {hits : List Stage2Doc} {s : String}

theorem mem_passedStage2Suites : s ∈ passedStage2Suites evalSuites hits ↔
    s ∈ evalSuites ∧ ∃ d ∈ hits, ∃ sr ∈ d.suiteResults, sr.suite = s ∧ suiteDocPassed sr = true := by
  rw [passedStage2Suites, mem_foldl_setAdd]
  simp only [List.not_mem_nil, false_or, List.mem_flatMap]
  constructor
  · rintro ⟨sr, ⟨d, hd, hsr⟩, ⟨hconf, hp⟩, rfl⟩
    exact ⟨hconf, d, hd, sr, hsr, rfl, hp⟩
  · rintro ⟨hconf, d, hd, sr, hsr, rfl, hp⟩
    exact ⟨sr, ⟨d, hd, hsr⟩, ⟨hconf, hp⟩, rfl⟩

theorem ofEntry_cons {kd : Stage2Key × Stage2Doc} (h : kd.2.queueEntryId ≠ some e) :
    Stage2Store.ofEntry (kd :: store) e = store.ofEntry e := by
  simp [Stage2Store.ofEntry, h]

/-- **A later save under the same key hides an earlier one.** -/
theorem save_save {q' : Option ℕ} :
    (store.saveStage2Result result q).saveStage2Result result q' =
      store.saveStage2Result result q' := by
  have hdrop : Stage2Store.without ((stage2Key result, stage2Doc result q) ::
      store.without (stage2Key result)) (stage2Key result) = store.without (stage2Key result) := by
    simp [Stage2Store.without]
  rw [Stage2Store.saveStage2Result, Stage2Store.saveStage2Result, hdrop]
  rfl

/-- **A result that is stored without a queue entry is no result of any entry.** -/
theorem ofEntry_save_none : (store.saveStage2Result result none).ofEntry e =
    (store.without (stage2Key result)).ofEntry e := ofEntry_cons (by simp [stage2Doc])

end Facts

end Benchmarker
