import Benchmarker.CiEval.Matrix

/-!
# The skip set of a resumed run

Which suites `resolveCompletedEvalSuites` returns: those of a finished row that is not an
infrastructure outcome, and those of a row still marked as running whose build has passed since.

* `RowDone`, **`mem_resolveCompletedEvalSuites`**, `mem_resumeSkipSet`.
-/

namespace Benchmarker

open Js Async Async.Prog

variable {conf suites completed out : List String} {s : String} {rows : List CIEvalResult}

theorem mem_addSuites :
    s ∈ addSuites conf suites completed ↔ s ∈ completed ∨ (s ∈ suites ∧ s ∈ conf) := by
  rw [addSuites, mem_foldl_setAdd]
  constructor
  · rintro (h | ⟨t, ht, hconf, rfl⟩)
    · exact .inl h
    · exact .inr ⟨ht, hconf⟩
  · rintro (h | ⟨hs, hconf⟩)
    · exact .inl h
    · exact .inr ⟨s, hs, hconf, rfl⟩

theorem mem_getCompletedEvalSuites : s ∈ getCompletedEvalSuites rows conf ↔
    s ∈ conf ∧ ∃ row ∈ rows, s ∈ row.evalSuites ∧ row.status ≠ .running ∧
      isRetriableInfraState row.buildkiteState = false := by
  have hfold : ∀ acc, s ∈ rows.foldl (fun terminal result =>
      if result.status = .running then terminal
      else if isRetriableInfraState result.buildkiteState then terminal
      else addSuites conf result.evalSuites terminal) acc ↔
        s ∈ acc ∨ (s ∈ conf ∧ ∃ row ∈ rows, s ∈ row.evalSuites ∧ row.status ≠ .running ∧
          isRetriableInfraState row.buildkiteState = false) := by
    induction rows with
    | nil => simp
    | cons row rows ih =>
      intro acc
      rw [List.foldl_cons, ih]
      simp only [List.exists_mem_cons_iff]
      by_cases hrun : row.status = .running
      · simp [hrun]
      · rw [if_neg hrun]
        by_cases hinfra : isRetriableInfraState row.buildkiteState = true
        · simp [hinfra]
        · rw [if_neg hinfra, mem_addSuites]
          simp only [hrun, ne_eq, not_false_eq_true, true_and, Bool.not_eq_true] at hinfra ⊢
          simp only [hinfra, and_true]
          tauto
  rw [getCompletedEvalSuites]
  simpa using hfold []

variable {env : ∀ o, SchedAns o}

variable (env) in
/-- A recorded row counts its suites as done. -/
def RowDone (row : CIEvalResult) : Prop :=
  if row.status = .running then
    env (.ext (.getBuildState row.pipelineSlug row.buildkiteBuildNumber)) = .ok (some "passed")
  else isRetriableInfraState row.buildkiteState = false

theorem mem_resolveRunningRow {row : CIEvalResult}
    (h : (resolveRunningRow conf row suites completed).run.eval env = .ok out) :
    s ∈ out ↔ s ∈ completed ∨ (s ∈ suites ∧ s ∈ conf ∧
      env (.ext (.getBuildState row.pipelineSlug row.buildkiteBuildNumber)) =
        .ok (some "passed")) := by
  induction suites generalizing completed with
  | nil =>
    obtain rfl := Except.ok.inj h
    simp
  | cons t suites ih =>
    unfold resolveRunningRow at h
    split at h
    · rename_i hskip
      rw [ih h, List.mem_cons]
      constructor
      · rintro (hs | ⟨hs, hrest⟩)
        · exact .inl hs
        · exact .inr ⟨.inr hs, hrest⟩
      · rintro (hs | ⟨rfl | hs, hrest⟩)
        · exact .inl hs
        · rcases hskip with hno | hin
          · exact absurd hrest.1 hno
          · exact .inl hin
        · exact .inr ⟨hs, hrest⟩
    · rename_i hask
      simp only [not_or, not_not] at hask
      obtain ⟨state, hstate, h⟩ := eval_ok_bind.mp h
      rw [eval_extCall] at hstate
      rw [ih h, List.mem_cons, hstate]
      by_cases hp : state = some "passed"
      · subst hp
        rw [if_pos rfl, mem_setAdd]
        constructor
        · rintro ((hs | rfl) | ⟨hs, hrest⟩)
          · exact .inl hs
          · exact .inr ⟨.inl rfl, hask.1, rfl⟩
          · exact .inr ⟨.inr hs, hrest⟩
        · rintro (hs | ⟨rfl | hs, hrest⟩)
          · exact .inl (.inl hs)
          · exact .inl (.inr rfl)
          · exact .inr ⟨hs, hrest⟩
      · rw [if_neg hp]
        have hne : (Except.ok state : Except JsError (Option String)) ≠ .ok (some "passed") := by
          simpa using hp
        simp [hne]

theorem mem_resolveRunningRows
    (h : (resolveRunningRows conf rows completed).run.eval env = .ok out) :
    s ∈ out ↔ s ∈ completed ∨ (s ∈ conf ∧ ∃ row ∈ rows, s ∈ row.evalSuites ∧
      row.status = .running ∧ RowDone env row) := by
  induction rows generalizing completed with
  | nil =>
    obtain rfl := Except.ok.inj h
    simp
  | cons row rows ih =>
    unfold resolveRunningRows at h
    simp only [List.exists_mem_cons_iff]
    split at h
    · rename_i hrun
      rw [ih h]
      simp [hrun]
    · rename_i hrun
      rw [not_not] at hrun
      obtain ⟨mid, hmid, h⟩ := eval_ok_bind.mp h
      rw [ih h, mem_resolveRunningRow hmid]
      simp only [RowDone, hrun, if_true]
      tauto

/-- **The skip set**: the configured suites of the rows that count as done. -/
theorem mem_resolveCompletedEvalSuites
    (h : (resolveCompletedEvalSuites rows conf).run.eval env = .ok out) :
    s ∈ out ↔ s ∈ conf ∧ ∃ row ∈ rows, s ∈ row.evalSuites ∧ RowDone env row := by
  rw [mem_resolveRunningRows h, mem_getCompletedEvalSuites]
  constructor
  · rintro (⟨hc, row, hrow, hs, hrun, hinfra⟩ | ⟨hc, row, hrow, hs, -, hdone⟩)
    · exact ⟨hc, row, hrow, hs, by rw [RowDone, if_neg hrun]; exact hinfra⟩
    · exact ⟨hc, row, hrow, hs, hdone⟩
  · rintro ⟨hc, row, hrow, hs, hdone⟩
    by_cases hrun : row.status = .running
    · exact .inr ⟨hc, row, hrow, hs, hrun, hdone⟩
    · rw [RowDone, if_neg hrun] at hdone
      exact .inl ⟨hc, row, hrow, hs, hrun, hdone⟩

variable {settings : BuildkiteSettings} {modelId : String} {entryId : ℕ}

variable (env) in
/-- The rows recorded for a queue entry. -/
def entryRows (modelId : String) (entryId : ℕ) : List CIEvalResult :=
  ((env (.ext (.getCIEvalResults modelId 30))).toOption.getD []).filter
    (·.queueEntryId = some entryId)

theorem mem_resumeSkipSet {skip : Option (List String)}
    (h : (resumeSkipSet settings modelId entryId true).run.eval env = .ok skip) :
    s ∈ skip.getD [] ↔ s ∈ settings.defaultEvalSuites.getD [] ∧
      ∃ row ∈ entryRows env modelId entryId, s ∈ row.evalSuites ∧ RowDone env row := by
  unfold resumeSkipSet at h
  obtain ⟨rows, hrows, h⟩ := eval_ok_bind.mp h
  obtain ⟨out, hout, h⟩ := eval_ok_bind.mp h
  obtain rfl := Except.ok.inj h
  rw [eval_extCall] at hrows
  rw [Option.getD_some, mem_resolveCompletedEvalSuites hout, entryRows, hrows]
  rfl

end Benchmarker
