import Benchmarker.LocalBatch.Worker

/-!
# Merging the parts of a batch

`mergeBatchResults` over results that `LocalBatchEvalRunner.run` has returned. A part is a success only
if its script exited with 0; the merge sees the rows and not the exit codes.

* `ReturnedBatch`: a finished run. `ReturnedBatch.success_iff`.
* `lastRow`: the row of the last part that ran a suite. **`get_bySuite_parts`**: the merge keeps it.
* **`merge_upgrades_iff`**: when a merged success is the success of every part.
-/

namespace Benchmarker

open Js Async Async.Prog

/-! ## Finished runs -/

/-- A run of `LocalBatchEvalRunner.run` that has returned. -/
structure ReturnedBatch where
  skillDevPluginDir : Option String
  opts : LocalBatchEvalOptions
  history : List (Event BatchAns Unit)
  result : LocalBatchEvalResult
  returned : (runBatch skillDevPluginDir opts).run.Runs history (.ok result)

/-- The batch script exited with 0, if it was started. -/
def ReturnedBatch.exitedZero (run : ReturnedBatch) : Bool :=
  (exits run.history).all fun exit => exit.exitCode = some 0

def LocalBatchEvalSuiteResult.passes (row : LocalBatchEvalSuiteResult) : Bool := row.status = "pass"

theorem nodup_setAdd {l : List String} {s : String} (h : l.Nodup) : (setAdd l s).Nodup := by
  unfold setAdd
  split_ifs with hs
  · exact h
  · exact List.nodup_append.mpr ⟨h, List.pairwise_singleton _ _, fun a ha b hb hab => by
      rw [List.mem_singleton.mp hb] at hab
      exact hs (by simpa [hab] using ha)⟩

theorem nodup_orderBenchmarkerSuites (suites : List String) : (orderBenchmarkerSuites suites).Nodup := by
  have hfold : ∀ l acc : List String, acc.Nodup → (l.foldl setAdd acc).Nodup := by
    intro l
    induction l with
    | nil => exact fun acc h => h
    | cons s l ih => exact fun acc h => ih _ (nodup_setAdd h)
  exact hfold _ _ ((by decide : prioritySuites.Nodup).filter _)

namespace ReturnedBatch

variable (run : ReturnedBatch)

theorem nodup : (suitesOf run.result.suites).Nodup := by
  rcases runs_runBatch run.returned with ⟨-, hnone, -⟩ | ⟨exit, -, -, hsuites⟩
  · rw [hnone]
    exact List.nodup_nil
  · rw [hsuites]
    exact nodup_orderBenchmarkerSuites _

theorem scriptStatus_success {suites : List LocalBatchEvalSuiteResult} {exitCode : Option ℤ} :
    scriptStatus suites exitCode = .success ↔ (∀ row ∈ suites, row.passes = true) ∧ exitCode = some 0 := by
  unfold scriptStatus
  dsimp only
  split_ifs with h1 h2
  · rw [List.countP_eq_length] at h1
    exact iff_of_true rfl h1
  · rw [List.countP_eq_length] at h1
    exact iff_of_false nofun h1
  · rw [List.countP_eq_length] at h1
    exact iff_of_false nofun h1

/-- A part is a success if its script exited with 0 and every suite passed. -/
theorem success_iff : run.result.status = .success ↔
    run.exitedZero = true ∧ ∀ row ∈ run.result.suites, row.passes = true := by
  unfold exitedZero
  rcases runs_runBatch run.returned with ⟨hexits, hnone, hstatus⟩ | ⟨exit, hexits, hstatus, -⟩
  · rw [hstatus, hexits, hnone]
    exact iff_of_true rfl ⟨rfl, fun row hrow => nomatch hrow⟩
  · rw [hstatus, hexits, scriptStatus_success, List.all_cons, List.all_nil, Bool.and_true,
      decide_eq_true_eq, and_comm]

end ReturnedBatch

/-! ## The last row of a suite -/

/-- The row of the last part that ran the suite. -/
def lastRow (parts : List LocalBatchEvalResult) (suite : String) : Option LocalBatchEvalSuiteResult :=
  parts.reverse.findSome? fun part => part.suites.find? fun row => row.suite = suite

section LastRow

variable {parts : List LocalBatchEvalResult} {rows : List LocalBatchEvalSuiteResult} {s : String}

theorem lastRow_concat (part : LocalBatchEvalResult) : lastRow (parts ++ [part]) s =
    (part.suites.find? fun row => row.suite = s).or (lastRow parts s) := by
  rw [lastRow, List.reverse_concat, List.findSome?_cons]
  cases part.suites.find? fun row => row.suite = s <;> rfl

theorem get_bySuite : (bySuite rows).get s = rows.reverse.find? fun row => row.suite = s := by
  have hassign : bySuite rows = JsMap.assign [] (rows.map fun row => (row.suite, row)) := by
    rw [bySuite, JsMap.assign, List.foldl_map]
  rw [hassign, JsMap.get_assign, JsMap.get_nil, Option.or_none, ← List.map_reverse, JsMap.get,
    List.find?_map, Option.map_map]
  exact congrFun Option.map_id _

theorem suite_of_find {row : LocalBatchEvalSuiteResult}
    (h : (rows.find? fun row => row.suite = s) = some row) : row.suite = s := by
  have hs : decide (row.suite = s) = true :=
    List.find?_some (p := fun row : LocalBatchEvalSuiteResult => decide (row.suite = s)) h
  exact of_decide_eq_true hs

theorem nodup_bySuite (rows : List LocalBatchEvalSuiteResult) : (bySuite rows).keys.Nodup := by
  have hassign : bySuite rows = JsMap.assign [] (rows.map fun row => (row.suite, row)) := by
    rw [bySuite, JsMap.assign, List.foldl_map]
  rw [hassign]
  exact JsMap.nodup_assign List.nodup_nil

theorem find_eq_some_iff (h : (suitesOf rows).Nodup) {row : LocalBatchEvalSuiteResult} :
    (rows.find? fun row => row.suite = s) = some row ↔ row ∈ rows ∧ row.suite = s := by
  refine ⟨fun hfind => ⟨List.mem_of_find?_eq_some hfind, suite_of_find hfind⟩, fun ⟨hrow, hs⟩ => ?_⟩
  induction rows with
  | nil => cases hrow
  | cons row' rows ih =>
    obtain ⟨hno, hnodup⟩ := List.nodup_cons.mp h
    by_cases hs' : row'.suite = s
    · rw [List.find?_cons_of_pos (by simpa using hs')]
      rcases List.mem_cons.mp hrow with rfl | hrow
      · rfl
      · exact absurd (List.mem_map.mpr ⟨row, hrow, hs.trans hs'.symm⟩) hno
    · rw [List.find?_cons_of_neg (by simpa using hs')]
      have hne : row ≠ row' := fun heq => hs' (heq ▸ hs)
      have hrest : row ∈ rows := (List.mem_cons.mp hrow).resolve_left hne
      exact ih hnodup ⟨hrest, hs⟩ hrest

theorem find_reverse (h : (suitesOf rows).Nodup) :
    (rows.reverse.find? fun row => row.suite = s) = rows.find? fun row => row.suite = s := by
  have hrev : (suitesOf rows.reverse).Nodup := by
    rw [suitesOf, List.map_reverse]
    exact List.pairwise_reverse.mpr (h.imp Ne.symm)
  refine Option.ext fun row => ?_
  rw [find_eq_some_iff hrev, find_eq_some_iff h, List.mem_reverse]

/-- **The map of a merge holds the last row of each suite.** -/
theorem get_bySuite_parts (h : ∀ part ∈ parts, (suitesOf part.suites).Nodup) :
    (bySuite (parts.flatMap (·.suites))).get s = lastRow parts s := by
  induction parts using List.reverseRecOn with
  | nil => rfl
  | append_singleton parts part ih =>
    have ih := ih fun p hp => h p (List.mem_append_left _ hp)
    have hnodup := h part (List.mem_append_right _ (List.mem_singleton_self _))
    rw [get_bySuite] at ih ⊢
    rw [List.flatMap_append, List.reverse_append, List.find?_append, ih, List.flatMap_singleton,
      find_reverse hnodup, lastRow_concat]

theorem lastRow_of_mem {part : LocalBatchEvalResult} {row : LocalBatchEvalSuiteResult}
    (hpart : part ∈ parts) (hrow : row ∈ part.suites) : ∃ last, lastRow parts row.suite = some last := by
  rw [← Option.isSome_iff_exists, lastRow, List.findSome?_isSome_iff]
  refine ⟨part, List.mem_reverse.mpr hpart, List.find?_isSome.mpr ⟨row, hrow, ?_⟩⟩
  exact decide_eq_true rfl

theorem suite_of_lastRow {row : LocalBatchEvalSuiteResult} (h : lastRow parts s = some row) :
    row.suite = s := by
  obtain ⟨part, -, hfind⟩ := List.exists_of_findSome?_eq_some h
  exact suite_of_find hfind

end LastRow

/-! ## The merge -/

section Merge

variable {parts : List LocalBatchEvalResult} {merged : LocalBatchEvalResult}

/-- Every row of a merged result is the last row of its suite, and every last row is there. -/
theorem mem_merged (h : mergeBatchResults parts = .ok merged)
    (hnodup : ∀ part ∈ parts, (suitesOf part.suites).Nodup) {row : LocalBatchEvalSuiteResult} :
    row ∈ merged.suites ↔ lastRow parts row.suite = some row := by
  match parts, h with
  | [part], h =>
    cases h
    have hone := hnodup merged (List.mem_singleton_self _)
    have hrow : lastRow [merged] row.suite = merged.suites.find? fun r => r.suite = row.suite :=
      (show lastRow ([] ++ [merged]) row.suite = _ from lastRow_concat merged).trans Option.or_none
    rw [hrow, find_eq_some_iff hone]
    exact (and_iff_left rfl).symm
  | first :: second :: rest, h =>
    cases h
    rw [← get_bySuite_parts hnodup]
    refine List.mem_map.trans ⟨?_, fun hget => ⟨_, JsMap.mem_of_get_eq_some hget, rfl⟩⟩
    rintro ⟨kv, hkv, rfl⟩
    have hget := (JsMap.get_eq_some_iff (nodup_bySuite _)).mpr hkv
    rwa [suite_of_find (get_bySuite.symm.trans hget)]

/-- Two or more parts merge to a success if the last row of every suite is a pass. -/
theorem merged_success_iff (h : mergeBatchResults parts = .ok merged) (htwo : 2 ≤ parts.length) :
    merged.status = .success ↔ ∀ row ∈ merged.suites, row.passes = true := by
  match parts, h, htwo with
  | first :: second :: rest, h, _ =>
    cases h
    dsimp only
    split_ifs with hall hsome
    · rw [List.countP_eq_length] at hall
      exact iff_of_true rfl hall
    · rw [List.countP_eq_length] at hall
      exact iff_of_false nofun hall
    · rw [List.countP_eq_length] at hall
      exact iff_of_false nofun hall

theorem exists_merged (h : parts ≠ []) : ∃ merged, mergeBatchResults parts = .ok merged := by
  match parts, h with
  | [part], _ => exact ⟨part, rfl⟩
  | first :: second :: rest, _ => exact ⟨_, rfl⟩

end Merge

/-- The last row of every suite that some part ran is a pass. -/
def LastRowsPass (parts : List LocalBatchEvalResult) : Prop :=
  ∀ part ∈ parts, ∀ row ∈ part.suites, ∀ last, lastRow parts row.suite = some last → last.passes = true

/-- A merged success is a success of every part, and every suite of a part is in the merged result
with the status of the last part that ran it. -/
def NeverUpgrades (parts : List LocalBatchEvalResult) : Prop :=
  ∃ merged, mergeBatchResults parts = .ok merged ∧
    (merged.status = .success → ∀ part ∈ parts, part.status = .success) ∧
    ∀ part ∈ parts, ∀ row ∈ part.suites, ∃ m ∈ merged.suites,
      m.suite = row.suite ∧ (lastRow parts row.suite).map (·.status) = some m.status

/-- **A merge upgrades a status exactly when** it has two or more parts, the last row of every suite is
a pass, and yet some script exited with another code than 0 or some earlier row was no pass. -/
theorem merge_upgrades_iff (runs : List ReturnedBatch) (h : runs ≠ []) :
    NeverUpgrades (runs.map (·.result)) ↔
      (2 ≤ runs.length → LastRowsPass (runs.map (·.result)) → ∀ run ∈ runs,
        run.exitedZero = true ∧ ∀ row ∈ run.result.suites, row.passes = true) := by
  set parts := runs.map (·.result) with hparts
  have hnodup : ∀ part ∈ parts, (suitesOf part.suites).Nodup := by
    intro part hpart
    obtain ⟨run, -, rfl⟩ := List.mem_map.mp hpart
    exact run.nodup
  have hlength : parts.length = runs.length := List.length_map _
  have hne : parts ≠ [] := by simpa [hparts] using h
  obtain ⟨merged, hmerge⟩ := exists_merged hne
  have hlast : LastRowsPass parts ↔ ∀ row ∈ merged.suites, row.passes = true := by
    refine ⟨fun hpass row hrow => ?_, fun hpass part hpart row hrow last hlast => ?_⟩
    · have hlast := (mem_merged hmerge hnodup).mp hrow
      obtain ⟨part, hpart, hmem⟩ := mem_mergeBatchResults hmerge row hrow
      exact hpass part hpart row hmem row hlast
    · have hsuite := suite_of_lastRow hlast
      exact hpass last ((mem_merged hmerge hnodup).mpr (hsuite ▸ hlast))
  have hkeeps : ∀ part ∈ parts, ∀ row ∈ part.suites, ∃ m ∈ merged.suites,
      m.suite = row.suite ∧ (lastRow parts row.suite).map (·.status) = some m.status := by
    intro part hpart row hrow
    obtain ⟨last, hlast⟩ := lastRow_of_mem hpart hrow
    have hsuite := suite_of_lastRow hlast
    refine ⟨last, (mem_merged hmerge hnodup).mpr (hsuite ▸ hlast), hsuite, ?_⟩
    rw [hlast, Option.map_some]
  have hall : (∀ part ∈ parts, part.status = .success) ↔ ∀ run ∈ runs,
      run.exitedZero = true ∧ ∀ row ∈ run.result.suites, row.passes = true := by
    rw [hparts, List.forall_mem_map]
    exact forall₂_congr fun run _ => run.success_iff
  have honly : NeverUpgrades parts ↔
      (merged.status = .success → ∀ part ∈ parts, part.status = .success) := by
    refine ⟨?_, fun hup => ⟨merged, hmerge, hup, hkeeps⟩⟩
    rintro ⟨merged', hmerge', hup, -⟩
    rw [hmerge] at hmerge'
    cases hmerge'
    exact hup
  rw [honly, hall]
  by_cases htwo : 2 ≤ parts.length
  · rw [merged_success_iff hmerge htwo, ← hlast, ← hlength, forall_prop_of_true htwo]
  · have hone : ∃ run, runs = [run] := by
      rw [← List.length_eq_one_iff]
      have hpos := List.length_pos_of_ne_nil h
      omega
    obtain ⟨run, rfl⟩ := hone
    refine iff_of_true (fun hsuccess => ?_) fun htwo' => absurd (hlength.trans_ge htwo') htwo
    cases hmerge
    exact hall.mp fun part hpart => by rwa [List.mem_singleton.mp hpart]

/-! ## A script that exits with 1 -/

/-- A script that reports a pass of the suite and exits with the code. -/
def reportedPass (suite : String) (exitCode : ℤ) : ∀ o, BatchAns o
  | .now => (0 : ℕ)
  | .updateProgress _ _ _ _ _ => ()
  | .writeStdout _ => ()
  | .runScript _ _ _ => .ok ⟨some "summary.json", some exitCode⟩
  | .readSummary _ => some [⟨suite, "m", "pass", 5, none⟩]
  | .readJsonl _ => []
  | .readLog _ => none
  | .saveStage2Result _ _ => .ok ()
  | .searchStage2 _ => .ok []

def oneSuiteOpts (suite : String) : LocalBatchEvalOptions := ⟨"http://vllm", "m", [suite], []⟩

def passed (suite : String) (status : BatchStatus) : LocalBatchEvalResult where
  modelId := "m"
  status := status
  suites := [⟨suite, "pass", 5, none, none⟩]
  startedAt := 0
  completedAt := 0
  summaryPath := some "summary.json"
  stdoutLogPath := some "/plugin/matrix-output/batch-logs/batch-stdout-runner-0.log"

/-- Tier A passes its suite, and the script exits with 1. -/
def tierARun : ReturnedBatch where
  skillDevPluginDir := some "/plugin"
  opts := oneSuiteOpts "a"
  history := _
  result := passed "a" .partialRun
  returned := @runs_of_eval _ _ _ _ (reportedPass "a" 1) _ _ () (by rfl)

/-- Tier B passes its suite. -/
def tierBRun : ReturnedBatch where
  skillDevPluginDir := some "/plugin"
  opts := oneSuiteOpts "b"
  history := _
  result := passed "b" .success
  returned := @runs_of_eval _ _ _ _ (reportedPass "b" 0) _ _ () (by rfl)

/-- Tier A alone is partial, and with tier B a success. -/
theorem tierARun_upgraded : ¬NeverUpgrades ([tierARun, tierBRun].map (·.result)) := by
  rintro ⟨merged, hmerge, hup, -⟩
  cases hmerge
  have hstatus := hup (by decide) (passed "a" .partialRun) List.mem_cons_self
  cases hstatus

/-- Two parts whose scripts exited with 0. -/
theorem tierBRun_kept : NeverUpgrades ([tierBRun, tierBRun].map (·.result)) := by
  refine (merge_upgrades_iff [tierBRun, tierBRun] (List.cons_ne_nil _ _)).mpr fun _ _ => ?_
  have hrun : tierBRun.exitedZero = true ∧ ∀ row ∈ tierBRun.result.suites, row.passes = true :=
    ⟨rfl, by decide⟩
  exact List.forall_mem_cons.mpr ⟨hrun, List.forall_mem_cons.mpr ⟨hrun, List.forall_mem_nil _⟩⟩

end Benchmarker
