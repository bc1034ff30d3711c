import Benchmarker.LocalBatch.Worker

/-!
# What the passes of a batch run rest on

A suite that a batch run reports as passed stands as passed in the summary that the run has read, or in
a row of the worker files that it has read instead. What is stored under a queue entry is no more than
that.

* `reportedBy`, `Evidence`: the suites that the events of a history report as passed.
* `Attested`: requested suite results whose passes have evidence; one lemma for each step of a run.
* `SavesAttested`, **`issues_batchExecute`**: the worker stores only attested results, under the entry of
  its run.
-/

namespace Benchmarker

open Js Async Async.Prog

variable {W : Type} {es fs past : List (Event BatchAns W)} {modelId : String} {suites : List String}

/-! ## Evidence -/

/-- The suite that a row reports as passed. -/
def BatchRow.passedSuite (row : BatchRow) (modelId : String) : Option String :=
  if row.model = some modelId ∧ row.status = some "pass" then truthy row.suite else none

/-- The suites that a summary reports as passed. -/
def summaryPasses (modelId : String) (results : List BatchSummaryResultEntry) : List String :=
  (results.filter fun e => e.model = modelId && e.status = "pass").map (·.suite)

/-- The suites that an event reports as passed. -/
def reportedBy (modelId : String) : Event BatchAns W → List String
  | ⟨.readSummary _, some results, _, _⟩ => summaryPasses modelId results
  | ⟨.readJsonl _, rows, _, _⟩ => rows.filterMap (·.passedSuite modelId)
  | _ => []

/-- The history reports the suite as passed. -/
def Evidence (modelId : String) (es : List (Event BatchAns W)) (suite : String) : Prop :=
  ∃ e ∈ es, suite ∈ reportedBy modelId e

@[simp] theorem evidence_append {s : String} : Evidence modelId (es ++ fs) s ↔
    Evidence modelId es s ∨ Evidence modelId fs s := by
  simp only [Evidence, List.mem_append, or_and_right, exists_or]

/-- The results are of the suites, and their passes are reported in the history. -/
def Attested (modelId : String) (es : List (Event BatchAns W)) (suites : List String)
    (results : List LocalBatchEvalSuiteResult) : Prop :=
  ∀ x ∈ results, x.suite ∈ suites ∧ (x.status = "pass" → Evidence modelId es x.suite)

theorem Attested.mono {suites' : List String} {results : List LocalBatchEvalSuiteResult}
    (h : Attested modelId es suites results) (hes : ∀ e ∈ es, e ∈ fs) (hsuites : ∀ s ∈ suites, s ∈ suites') :
    Attested modelId fs suites' results := fun x hx =>
  ⟨hsuites _ (h x hx).1, fun hp => ((h x hx).2 hp).imp fun e he => ⟨hes e he.1, he.2⟩⟩

theorem runs_batchRequest {o : BatchOp} {r : Except JsError (BatchAns o)}
    (h : (batchRequest o).run.Runs es r) : ∃ a pre post, r = .ok a ∧ es = [⟨o, a, pre, post⟩] := by
  obtain ⟨a, ha, rfl⟩ := runs_lift.mp h
  obtain ⟨pre, post, rfl⟩ := runs_request.mp ha
  exact ⟨a, pre, post, rfl, rfl⟩

/-! ## The runner -/

theorem missing_ne_pass (s : String) : (missingSuite s).status ≠ "pass" :=
  show "fail" ≠ "pass" by decide

/-- Missing results report no pass. -/
theorem attested_missing : Attested modelId es suites (suites.map missingSuite) := by
  intro x hx
  obtain ⟨s, hs, rfl⟩ := List.mem_map.mp hx
  exact ⟨hs, fun hp => absurd hp (missing_ne_pass s)⟩

/-- The summary's entry under a suite is an entry of that suite and of the model. -/
theorem mem_of_summaryBySuite {results : List BatchSummaryResultEntry} {s : String}
    {e : BatchSummaryResultEntry} (h : (summaryBySuite modelId results).get s = some e) :
    e ∈ results ∧ e.model = modelId ∧ e.suite = s := by
  have hfold : ∀ (l : List BatchSummaryResultEntry) (m : JsMap String BatchSummaryResultEntry),
      (l.foldl (fun m e => if e.model = modelId then m.set e.suite e else m) m).get s = some e →
        m.get s = some e ∨ (e ∈ l ∧ e.model = modelId ∧ e.suite = s) := by
    intro l
    induction l with
    | nil => exact fun m h => .inl h
    | cons a l ih =>
      intro m h
      rcases ih _ h with h | ⟨hmem, hrest⟩
      · dsimp only at h
        split_ifs at h with hmodel
        · rw [JsMap.get_set] at h
          split_ifs at h with hs
          · rw [← Option.some.inj h]
            exact .inr ⟨List.mem_cons_self, hmodel, hs⟩
          · exact .inl h
        · exact .inl h
      · exact .inr ⟨List.mem_cons_of_mem _ hmem, hrest⟩
  rcases hfold results [] h with h | h
  · cases h
  · exact h

/-- The workers' result under a suite comes from a row of the model. -/
theorem mem_of_jsonlBySuite {rows : List BatchRow} {s : String} {r : LocalBatchEvalSuiteResult}
    (h : (jsonlBySuite modelId rows).get s = some r) : ∃ row ∈ rows, row.suiteResult modelId = some r := by
  have hfold : ∀ (l : List LocalBatchEvalSuiteResult) (m : JsMap String LocalBatchEvalSuiteResult),
      (l.foldl (fun m r => m.set r.suite r) m).get s = some r → m.get s = some r ∨ r ∈ l := by
    intro l
    induction l with
    | nil => exact fun m h => .inl h
    | cons a l ih =>
      intro m h
      rcases ih _ h with h | h
      · rw [JsMap.get_set] at h
        split_ifs at h with hs
        · rw [← Option.some.inj h]
          exact .inr List.mem_cons_self
        · exact .inl h
      · exact .inr (List.mem_cons_of_mem _ h)
  rcases hfold _ [] h with h | h
  · cases h
  · obtain ⟨row, hrow, hr⟩ := List.mem_filterMap.mp h
    exact ⟨row, hrow, hr⟩

/-- A row whose result is a pass reports its suite as passed. -/
theorem passedSuite_of_suiteResult {row : BatchRow} {r : LocalBatchEvalSuiteResult}
    (h : row.suiteResult modelId = some r) (hp : r.status = "pass") :
    row.passedSuite modelId = some r.suite := by
  unfold BatchRow.suiteResult at h
  split_ifs at h with hmodel
  split at h
  · rename_i suite status hsuite hstatus
    split_ifs at h
    obtain rfl := Option.some.inj h
    dsimp only at hp
    subst hp
    rw [BatchRow.passedSuite, if_pos ⟨hmodel, hstatus⟩, hsuite]
  · cases h

theorem attested_parseSummary {summaryPath : Option String} {out : List LocalBatchEvalSuiteResult × Bool}
    (h : (parseSummary summaryPath suites modelId).run.Runs es (.ok out)) :
    Attested modelId es suites out.1 := by
  unfold parseSummary at h
  split at h
  · obtain ⟨-, hout⟩ := runs_throws_pure.mp h
    rw [← Except.ok.inj hout]
    exact attested_missing
  · obtain ⟨es₁, es₂, summary, rfl, h₁, h₂⟩ := runs_ok_bind.mp h
    obtain ⟨_, pre, post, he, rfl⟩ := runs_batchRequest h₁
    obtain rfl := Except.ok.inj he
    cases summary with
    | none =>
      obtain ⟨rfl, hout⟩ := runs_throws_pure.mp h₂
      rw [← Except.ok.inj hout]
      exact attested_missing
    | some results =>
      obtain ⟨rfl, hout⟩ := runs_throws_pure.mp h₂
      rw [← Except.ok.inj hout]
      intro x hx
      obtain ⟨s, hs, rfl⟩ := List.mem_map.mp hx
      cases hget : (summaryBySuite modelId results).get s with
      | none => exact ⟨hs, fun hp => absurd hp (missing_ne_pass s)⟩
      | some e =>
        obtain ⟨hmem, hmodel, hsuite⟩ := mem_of_summaryBySuite hget
        refine ⟨hs, fun hp => ⟨_, List.mem_cons_self, List.mem_map.mpr ⟨e, ?_, hsuite⟩⟩⟩
        exact List.mem_filter.mpr ⟨hmem, by simpa using ⟨hmodel, hp⟩⟩

theorem attested_parseJsonlStateResults {pluginDir : String} {out : List LocalBatchEvalSuiteResult}
    (h : (parseJsonlStateResults pluginDir suites modelId).run.Runs es (.ok out)) :
    Attested modelId es suites out := by
  obtain ⟨es₁, es₂, rows, rfl, h₁, h₂⟩ := runs_ok_bind.mp h
  obtain ⟨_, pre, post, he, rfl⟩ := runs_batchRequest h₁
  obtain rfl := Except.ok.inj he
  obtain ⟨rfl, hout⟩ := runs_throws_pure.mp h₂
  rw [← Except.ok.inj hout]
  intro x hx
  obtain ⟨s, hs, rfl⟩ := List.mem_map.mp hx
  cases hget : (jsonlBySuite modelId rows).get s with
  | none => exact ⟨hs, fun hp => absurd hp (missing_ne_pass s)⟩
  | some r =>
    obtain ⟨row, hrow, hr⟩ := mem_of_jsonlBySuite hget
    refine ⟨(suite_of_jsonlBySuite hget).symm ▸ hs, fun hp => ⟨_, List.mem_cons_self, ?_⟩⟩
    exact List.mem_filterMap.mpr ⟨row, hrow, passedSuite_of_suiteResult hr hp⟩

theorem attested_scriptResults {pluginDir : String} {summaryPath : Option String}
    {out : List LocalBatchEvalSuiteResult}
    (h : (scriptResults pluginDir summaryPath suites modelId).run.Runs es (.ok out)) :
    Attested modelId es suites out := by
  obtain ⟨es₁, es₂, ⟨results, missing⟩, rfl, h₁, h₂⟩ := runs_ok_bind.mp h
  have hsummary := (attested_parseSummary h₁).mono (fun _ => List.mem_append_left es₂) fun _ => id
  dsimp only at h₂
  split at h₂
  · obtain ⟨es₃, es₄, jsonl, rfl, h₃, h₄⟩ := runs_ok_bind.mp h₂
    split at h₄
    · obtain ⟨rfl, hout⟩ := runs_throws_pure.mp h₄
      rw [← Except.ok.inj hout, List.append_nil]
      exact (attested_parseJsonlStateResults h₃).mono (fun _ => List.mem_append_right es₁) fun _ => id
    · obtain ⟨rfl, hout⟩ := runs_throws_pure.mp h₄
      rw [← Except.ok.inj hout]
      exact hsummary
  · obtain ⟨rfl, hout⟩ := runs_throws_pure.mp h₂
    rw [← Except.ok.inj hout]
    exact hsummary

/-- Enriching keeps the suite and the status. -/
theorem enrichSuite_same {result out : LocalBatchEvalSuiteResult}
    (h : (enrichSuite result).run.Runs es (.ok out)) : out.suite = result.suite ∧ out.status = result.status := by
  unfold enrichSuite at h
  split at h
  · rw [← Except.ok.inj (runs_throws_pure.mp h).2]
    exact ⟨rfl, rfl⟩
  · obtain ⟨es₁, es₂, tally, rfl, h₁, h₂⟩ := runs_ok_bind.mp h
    split at h₂
    · rw [← Except.ok.inj (runs_throws_pure.mp h₂).2]
      exact ⟨rfl, rfl⟩
    · rw [← Except.ok.inj (runs_throws_pure.mp h₂).2]
      exact ⟨rfl, rfl⟩

theorem mem_enrichWithSpecPassRates {results out : List LocalBatchEvalSuiteResult}
    (h : (enrichWithSpecPassRates results).run.Runs es (.ok out)) :
    ∀ x ∈ out, ∃ y ∈ results, x.suite = y.suite ∧ x.status = y.status := by
  induction results generalizing es out with
  | nil =>
    rw [← Except.ok.inj (runs_throws_pure.mp h).2]
    simp
  | cons result results ih =>
    obtain ⟨es₁, es₂, enriched, rfl, h₁, h₂⟩ := runs_ok_bind.mp h
    obtain ⟨es₃, es₄, rest, rfl, h₃, h₄⟩ := runs_ok_bind.mp h₂
    rw [← Except.ok.inj (runs_throws_pure.mp h₄).2]
    intro x hx
    rcases List.mem_cons.mp hx with rfl | hx
    · exact ⟨result, List.mem_cons_self, enrichSuite_same h₁⟩
    · obtain ⟨y, hy, hsame⟩ := ih h₃ x hx
      exact ⟨y, List.mem_cons_of_mem _ hy, hsame⟩

/-- **A run reports only passes of requested suites that its history reports.** -/
theorem attested_runBatch {dir : Option String} {opts : LocalBatchEvalOptions} {out : LocalBatchEvalResult}
    (h : (runBatch dir opts).run.Runs es (.ok out)) : Attested opts.modelId es opts.suites out.suites := by
  obtain ⟨es₁, es₂, startedAt, rfl, -, h⟩ := runs_ok_bind.mp h
  split at h
  · cases (runs_throw.mp h).2
  · dsimp only at h
    split at h
    · obtain ⟨es₃, es₄, completedAt, rfl, -, h⟩ := runs_ok_bind.mp h
      rw [← Except.ok.inj (runs_throws_pure.mp h).2]
      exact fun x hx => nomatch hx
    · obtain ⟨es₃, es₄, exit, rfl, -, h⟩ := runs_ok_bind.mp h
      obtain ⟨es₅, es₆, loggedAt, rfl, -, h⟩ := runs_ok_bind.mp h
      obtain ⟨es₇, es₈, _, rfl, -, h⟩ := runs_ok_bind.mp h
      obtain ⟨es₉, fs₁, completedAt, rfl, -, h⟩ := runs_ok_bind.mp h
      obtain ⟨fs₂, fs₃, results, rfl, hresults, h⟩ := runs_ok_bind.mp h
      obtain ⟨fs₄, fs₅, enriched, rfl, henriched, h⟩ := runs_ok_bind.mp h
      rw [← Except.ok.inj (runs_throws_pure.mp h).2]
      intro x hx
      obtain ⟨y, hy, hsuite, hstatus⟩ := mem_enrichWithSpecPassRates henriched x hx
      obtain ⟨hmem, hpass⟩ := attested_scriptResults hresults y hy
      rw [hsuite, hstatus]
      refine ⟨(List.mem_filter.mp (mem_orderBenchmarkerSuites.mp hmem)).1, fun hp => ?_⟩
      obtain ⟨e, he, hrep⟩ := hpass hp
      exact ⟨e, by simp [he], hrep⟩

/-! ## The worker -/

section Worker

variable {deps : BatchDeps} {run : PipelineRun} {endpointUrl : String} {startedAt : Time}
variable {parts : List LocalBatchEvalResult}

theorem attested_runPhase {out : Option LocalBatchEvalResult}
    (h : (runPhase deps run endpointUrl suites).run.Runs es (.ok out)) :
    ∀ part ∈ out, Attested run.modelId es suites part.suites := by
  unfold runPhase at h
  dsimp only at h
  split at h
  · rw [← Except.ok.inj (runs_throws_pure.mp h).2]
    exact fun part hpart => nomatch hpart
  · obtain ⟨es₁, es₂, result, rfl, h₁, h₂⟩ := runs_ok_bind.mp h
    rw [← Except.ok.inj (runs_throws_pure.mp h₂).2]
    intro part hpart
    obtain rfl := Option.some.inj hpart
    refine (attested_runBatch h₁).mono (fun _ => List.mem_append_left es₂) fun s hs => ?_
    exact (List.mem_filter.mp hs).1

/-- What is stored under an entry: results of that entry, whose passes are attested. -/
def SavesAttested (entry : ℕ) (modelId : String) (suites : List String) (past : List (Event BatchAns W)) :
    BatchOp → Prop
  | .saveStage2Result r (some e) => e = entry ∧ ∀ sr ∈ r.suiteResults.getD [],
      sr.status = "pass" → sr.suite ∈ suites ∧ Evidence modelId past sr.suite
  | _ => True

theorem Quiet.issues {α : Type} {entry : ℕ} {x : BatchJs α} (h : Quiet x) :
    x.run.Issues (SavesAttested (W := W) entry modelId suites) past := by
  refine (Uses.issues h past).mono fun past o ho => ?_
  cases o with
  | saveStage2Result r q => cases ho
  | _ => trivial

theorem issues_finishBatch {reason : Option String}
    (hparts : ∀ part ∈ parts, Attested run.modelId past suites part.suites) :
    (finishBatch run parts startedAt reason).run.Issues (SavesAttested run.queueEntryId run.modelId suites) past := by
  unfold finishBatch
  cases hmerged : mergeBatchResults parts with
  | error err => exact issues_throw _
  | ok merged =>
    refine Issues.throws_bind' (Issues.throws_bind' (issues_attempt (issues_request ?_))
      fun _ _ => issues_throws_pure _) fun _ _ => issues_throws_pure _
    refine ⟨rfl, fun sr hsr hp => ?_⟩
    obtain ⟨x, hx, rfl⟩ := List.mem_map.mp hsr
    obtain ⟨part, hpart, hmem⟩ := mem_mergeBatchResults hmerged x hx
    obtain ⟨hsuite, hpass⟩ := hparts part hpart x hmem
    exact ⟨hsuite, hpass hp⟩

/-- The planned suites are those of the phases. -/
theorem mem_planned {tiers : EvalSuiteTiers} {s : String} : s ∈ tiers.planned ↔
    s ∈ tiers.tierA ∨ s ∈ if tiers.tierA ≠ [] then tiers.tierB else tiers.all := by
  unfold EvalSuiteTiers.planned
  by_cases hA : tiers.tierA = []
  · simp [hA]
  · rw [if_pos hA, if_pos hA, List.mem_append, List.mem_filter]
    by_cases hs : s ∈ tiers.tierA <;> simp [hs]

theorem issues_batchBody : (batchBody deps run endpointUrl startedAt).run.Issues
    (SavesAttested run.queueEntryId run.modelId (resolveEvalSuiteTiers deps.stage2Local).planned) past := by
  refine Issues.throws_bind' (Quiet.issues ?_) fun past _ => ?_
  · exact uses_throws_bind (quiet_batchRequest rfl) fun _ => quiet_batchRequest rfl
  refine Issues.throws_bind quiet_tierAPhase.issues fun es₁ tierA hA => ?_
  have hpartA : ∀ part ∈ tierA, Attested run.modelId (past ++ es₁)
      (resolveEvalSuiteTiers deps.stage2Local).planned part.suites := by
    unfold tierAPhase at hA
    split at hA
    · exact fun part hpart => (attested_runPhase hA part hpart).mono
        (fun _ => List.mem_append_right past) fun s hs => mem_planned.mpr (.inl hs)
    · rw [← Except.ok.inj (runs_throws_pure.mp hA).2]
      exact fun part hpart => nomatch hpart
  split
  · rename_i part hfilter
    refine issues_finishBatch fun part' h' => ?_
    rw [List.mem_singleton.mp h']
    exact hpartA part (Option.filter_eq_some_iff.mp hfilter).1
  · refine Issues.throws_bind quiet_runPhase.issues fun es₂ tierB hB => ?_
    dsimp only
    split
    · exact quiet_bareStage2.issues
    · refine issues_finishBatch fun part hpart => ?_
      rcases List.mem_append.mp hpart with hpart | hpart
      · exact (hpartA part (Option.mem_toList.mp hpart)).mono
          (fun _ => List.mem_append_left es₂) fun _ => id
      · exact (attested_runPhase hB part (Option.mem_toList.mp hpart)).mono
          (fun _ => List.mem_append_right (past ++ es₁)) fun s hs => mem_planned.mpr (.inr hs)

/-- **The worker stores only attested results**, under the entry of its run. -/
theorem issues_batchExecute {stage1Result : Stage1Result} :
    (batchExecute deps run stage1Result).run.Issues
      (SavesAttested run.queueEntryId run.modelId (resolveEvalSuiteTiers deps.stage2Local).planned) past := by
  refine Issues.throws_bind' (quiet_batchRequest rfl).issues fun past startedAt => ?_
  split
  · exact quiet_bareStage2.issues
  · split
    · exact quiet_bareStage2.issues
    · split
      · exact quiet_bareStage2.issues
      · refine Issues.throws_bind' (issues_attempt issues_batchBody) fun past outcome => ?_
        cases outcome with
        | ok result => exact issues_throws_pure _
        | error err => exact quiet_bareStage2.issues

end Worker

end Benchmarker
