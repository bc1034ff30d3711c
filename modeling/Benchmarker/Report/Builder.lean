import Mathlib.Algebra.Order.Ring.Unbundled.Rat
import Mathlib.Logic.Relation
import Benchmarker.Report.Verdict

/-!
# Recommendation reports

What `buildRecommendationReport` returns, without the parts that are only shown to an operator: the
issues, the suggestions and the configuration that was used.

* `BuiltReport`, `buildRecommendationReport`.
* `Verdict` in its order, **`computeVerdict_mono`**: the verdict is monotone in what it is computed
  from; `computeVerdict_eq_support`: what it takes to be supported.
* `Supported`, `Improves`, **`report_sound_mono`**: soundness and monotonicity of a report's verdict.
-/

namespace Benchmarker

open Js

/-- `RecommendationReport`, as the builder fills it. -/
structure BuiltReport extends RecommendationReport where
  verdict : Verdict
  confidence : Confidence
  stage1Passed : Bool
  stage2Passed : Option Bool
  stage2Ran : Bool
  stage3Ran : Bool
  passingEvals : List EvalScore
  toolCallSuccessRate : Option ℚ
  singleToolSuccessRate : Option ℚ
  deriving DecidableEq

/-- `buildRecommendationReport`, with `config.kibanaEval.passThreshold`. -/
def buildRecommendationReport (run : PipelineRun) (passThreshold : ℚ) : BuiltReport where
  runId := run.runId
  modelId := run.modelId
  verdict := run.verdict passThreshold
  confidence := run.confidence passThreshold
  stage1Passed := run.stage1Passed
  stage2Passed := run.stage2Passed
  stage2Ran := run.stage2Run.isSome
  stage3Ran := run.stage3Result.isSome
  passingEvals := run.passingEvals passThreshold
  toolCallSuccessRate := run.benchmarkResult.bind (·.toolCallSuccessRate)
  singleToolSuccessRate := run.benchmarkResult.bind (·.singleToolSuccessRate)

/-! ## The order of verdicts -/

namespace Verdict

def rank : Verdict → ℕ
  | reject => 0
  | investigate => 1
  | support => 2

theorem rank_injective : Function.Injective rank := by
  intro a b h
  cases a <;> cases b <;> first | rfl | cases h

instance : LE Verdict := ⟨fun a b => a.rank ≤ b.rank⟩

instance (a b : Verdict) : Decidable (a ≤ b) := inferInstanceAs (Decidable (a.rank ≤ b.rank))

theorem le_iff_rank {a b : Verdict} : a ≤ b ↔ a.rank ≤ b.rank := Iff.rfl

instance : PartialOrder Verdict where
  le_refl a := Nat.le_refl a.rank
  le_trans _ _ _ h h' := Nat.le_trans h h'
  le_antisymm _ _ h h' := rank_injective (Nat.le_antisymm h h')

@[simp] theorem reject_le (v : Verdict) : reject ≤ v := Nat.zero_le _

@[simp] theorem le_support (v : Verdict) : v ≤ support := by
  cases v <;> decide

end Verdict

/-! ## The verdict of given flags -/

section Flags

variable {stage1Passed stage1Passed' stage2Ran : Bool} {stage2Passed stage2Passed' : Option Bool}
variable {evals evals' : List EvalScore}

/-- Every eval that passes in the first list passes at the same place of the second. -/
def PassesRaised : List EvalScore → List EvalScore → Prop :=
  List.Forall₂ fun e e' => e.passed = true → e'.passed = true

theorem PassesRaised.refl (evals : List EvalScore) : PassesRaised evals evals :=
  List.forall₂_same.mpr fun _ _ h => h

theorem PassesRaised.all (h : PassesRaised evals evals') :
    (evals ≠ [] ∧ evals.all (·.passed)) → evals' ≠ [] ∧ evals'.all (·.passed) := by
  rintro ⟨hne, hall⟩
  induction h with
  | nil => exact absurd rfl hne
  | @cons e e' es es' he hes ih =>
    simp only [List.all_cons, Bool.and_eq_true] at hall ⊢
    refine ⟨List.cons_ne_nil _ _, he hall.1, ?_⟩
    by_cases hnil : es = []
    · subst hnil
      rw [List.forall₂_nil_left_iff.mp hes]
      rfl
    · exact (ih hnil hall.2).2

theorem PassesRaised.allFailed (h : PassesRaised evals evals') :
    (evals' = [] ∨ evals'.all fun e => !e.passed) → evals = [] ∨ evals.all fun e => !e.passed := by
  rintro (rfl | hall)
  · exact .inl (List.forall₂_nil_right_iff.mp h)
  · refine .inr ?_
    induction h with
    | nil => rfl
    | @cons e e' es es' he _ ih =>
      simp only [List.all_cons, Bool.and_eq_true] at hall ⊢
      refine ⟨?_, ih hall.2⟩
      cases hp : e.passed with
      | false => rfl
      | true => rw [he hp] at hall; exact absurd hall.1 Bool.false_ne_true

/-- **What it takes to be supported.** -/
theorem computeVerdict_eq_support :
    computeVerdict stage1Passed stage2Passed stage2Ran evals = .support ↔
      stage1Passed = true ∧ stage2Ran = true ∧ stage2Passed ≠ some false ∧
        evals ≠ [] ∧ evals.all (·.passed) := by
  unfold computeVerdict
  cases stage1Passed <;> cases stage2Ran <;> by_cases hp : stage2Passed = some false <;> simp [hp]
  split_ifs <;> simp

/-- A run that is rejected after Stage 1 has a failed Stage 2 without a passing eval. -/
theorem computeVerdict_eq_reject :
    computeVerdict stage1Passed stage2Passed stage2Ran evals = .reject ↔
      stage1Passed = false ∨ (stage2Ran = true ∧ stage2Passed = some false ∧
        (evals = [] ∨ evals.all fun e => !e.passed)) := by
  unfold computeVerdict
  cases stage1Passed <;> cases stage2Ran <;> by_cases hp : stage2Passed = some false <;> simp [hp]
  · exact or_iff_not_imp_left.symm
  · split_ifs <;> simp

theorem Verdict.le_of_imp {v w : Verdict} (hs : v = .support → w = .support)
    (hr : w = .reject → v = .reject) : v ≤ w := by
  cases v <;> cases w <;> first | decide | (exfalso; simp at hs hr)

/-- **The verdict is monotone**: in the flag of Stage 1, in that of Stage 2 and in the evals. -/
theorem computeVerdict_mono (h₁ : stage1Passed = true → stage1Passed' = true)
    (h₂ : stage2Passed' = some false → stage2Passed = some false)
    (h : PassesRaised evals evals') :
    computeVerdict stage1Passed stage2Passed stage2Ran evals ≤
      computeVerdict stage1Passed' stage2Passed' stage2Ran evals' := by
  refine Verdict.le_of_imp (fun hs => ?_) fun hr => ?_
  · obtain ⟨hs₁, hran, hs₂, hall⟩ := computeVerdict_eq_support.mp hs
    exact computeVerdict_eq_support.mpr ⟨h₁ hs₁, hran, fun hf => hs₂ (h₂ hf), h.all hall⟩
  · rcases computeVerdict_eq_reject.mp hr with hf | ⟨hran, hf, hall⟩
    · refine computeVerdict_eq_reject.mpr (.inl ?_)
      rw [← Bool.not_eq_true] at hf ⊢
      exact fun ht => hf (h₁ ht)
    · exact computeVerdict_eq_reject.mpr (.inr ⟨hran, h₂ hf, h.allFailed hall⟩)

end Flags

/-! ## The verdict of a run -/

section Run

variable {run run' : PipelineRun} {passThreshold : ℚ}

/-- What the verdict 'support' says about a run. -/
structure Supported (run : PipelineRun) (passThreshold : ℚ) : Prop where
  stage1 : ∃ stage1, run.benchmarkResult = some stage1 ∧ stage1.status = .success
  stage2 : ∃ stage2 suites, run.stage2Result = some stage2 ∧ stage2.status = .success ∧
    stage2.suiteResults = some suites ∧ suites ≠ [] ∧
      ∀ sr ∈ suites, passThreshold / 100 ≤ sr.score.getD 0

/-- The same suite with a score that is no lower; a missing score counts as zero. -/
def SuiteResult.RaisedTo (sr sr' : SuiteResult) : Prop :=
  sr.suite = sr'.suite ∧ sr.score.getD 0 ≤ sr'.score.getD 0

/-- One improvement of a run, with everything else about its verdict as it was. -/
inductive Improves (run : PipelineRun) : PipelineRun → Prop
  | scores {stage2 stage2' : Stage2Result} {suites suites' : List SuiteResult}
      (h : run.stage2Result = some stage2) (hs : stage2.suiteResults = some suites)
      (hs' : stage2'.suiteResults = some suites') (hstatus : stage2'.status = stage2.status)
      (hraised : List.Forall₂ SuiteResult.RaisedTo suites suites') :
      Improves run { run with stage2Result := some stage2' }
  | stage2 {stage2 stage2' : Stage2Result} (h : run.stage2Result = some stage2)
      (hfailed : stage2.status = .failed) (hsuccess : stage2'.status = .success)
      (hsuites : stage2'.suiteResults = stage2.suiteResults) :
      Improves run { run with stage2Result := some stage2' }
  | stage1 {stage1 stage1' : Stage1Result} (h : run.benchmarkResult = some stage1)
      (hfailed : stage1.status = .failed) (hsuccess : stage1'.status = .success) :
      Improves run { run with benchmarkResult := some stage1' }

/-- The verdict reads a suite list through its counted scores. -/
theorem passesRaised_map {suites suites' : List SuiteResult}
    (h : List.Forall₂ SuiteResult.RaisedTo suites suites') :
    PassesRaised (suites.map fun sr => (⟨sr.suite, sr.score.getD 0, passThreshold / 100,
        sr.score.getD 0 ≥ passThreshold / 100⟩ : EvalScore))
      (suites'.map fun sr => ⟨sr.suite, sr.score.getD 0, passThreshold / 100,
        sr.score.getD 0 ≥ passThreshold / 100⟩) := by
  refine List.forall₂_map_left_iff.mpr (List.forall₂_map_right_iff.mpr (h.imp fun sr sr' hr hp => ?_))
  have hle : passThreshold / 100 ≤ sr.score.getD 0 := of_decide_eq_true hp
  have hle' : passThreshold / 100 ≤ sr'.score.getD 0 := hle.trans hr.2
  exact decide_eq_true hle'

theorem stage2Run_eq_some {stage2 : Stage2Result} :
    run.stage2Run = some stage2 ↔ run.stage2Result = some stage2 ∧ stage2.status ≠ .skipped := by
  simp [PipelineRun.stage2Run, Option.filter_eq_some_iff]

theorem passingEvals_eq {stage2 : Stage2Result} (h : run.stage2Run = some stage2) :
    run.passingEvals passThreshold = (stage2.suiteResults.getD []).map fun sr =>
      ⟨sr.suite, sr.score.getD 0, passThreshold / 100, sr.score.getD 0 ≥ passThreshold / 100⟩ := by
  unfold PipelineRun.passingEvals
  rw [h]
  rfl

/-- **A supported run has passed everything that it was judged on.** -/
theorem supported_of_verdict (h : run.verdict passThreshold = .support) :
    Supported run passThreshold := by
  obtain ⟨h₁, hran, hp, hne, hall⟩ := computeVerdict_eq_support.mp h
  obtain ⟨stage1, hr₁, hs₁⟩ := (Option.any_eq_true _ _).mp h₁
  obtain ⟨stage2, hr₂⟩ := Option.isSome_iff_exists.mp hran
  have hs₂ : stage2.status = .success := by
    unfold PipelineRun.stage2Passed at hp
    rw [hr₂] at hp
    simpa using hp
  rw [passingEvals_eq hr₂] at hne hall
  cases hss : stage2.suiteResults with
  | none => rw [hss] at hne; exact absurd rfl hne
  | some suites =>
    rw [hss] at hne hall
    refine ⟨⟨stage1, hr₁, of_decide_eq_true hs₁⟩, stage2, suites, (stage2Run_eq_some.mp hr₂).1, hs₂,
      hss, fun hnil => hne (by rw [hnil]; rfl), fun sr hsr => ?_⟩
    have := List.all_eq_true.mp hall _ (List.mem_map_of_mem hsr)
    exact of_decide_eq_true this

theorem stage2Run_of {stage2 : Stage2Result} (h : run.stage2Result = some stage2) :
    run.stage2Run = if stage2.status = .skipped then none else some stage2 := by
  unfold PipelineRun.stage2Run
  rw [h]
  by_cases hs : stage2.status = .skipped <;> simp [hs]

theorem stage2Run_replaced (run : PipelineRun) (stage2 : Stage2Result) :
    { run with stage2Result := some stage2 }.stage2Run =
      if stage2.status = .skipped then none else some stage2 :=
  stage2Run_of rfl

/-- Two runs with the same Stage 1 result, whose Stage 2 was run in both, in the second with no less success
and no lower scores. -/
theorem verdict_le_of_stage2 {stage2 stage2' : Stage2Result}
    (h₁ : run'.stage1Passed = run.stage1Passed) (h₂ : run.stage2Run = some stage2)
    (h₂' : run'.stage2Run = some stage2')
    (hsuccess : stage2.status = .success → stage2'.status = .success)
    (hevals : PassesRaised (run.passingEvals passThreshold) (run'.passingEvals passThreshold)) :
    run.verdict passThreshold ≤ run'.verdict passThreshold := by
  unfold PipelineRun.verdict PipelineRun.stage2Passed
  rw [h₁, h₂, h₂']
  refine computeVerdict_mono id (fun hf => ?_) hevals
  rw [Option.map_some, Option.some_inj, decide_eq_false_iff_not] at hf ⊢
  exact fun hs => hf (hsuccess hs)

/-- **An improvement never lowers the verdict.** -/
theorem Improves.verdict_le (h : Improves run run') :
    run.verdict passThreshold ≤ run'.verdict passThreshold := by
  cases h with
  | @scores stage2 stage2' suites suites' h hs hs' hstatus hraised =>
    have h₂ := stage2Run_of h
    have h₂' := stage2Run_replaced run stage2'
    rw [hstatus] at h₂'
    by_cases hskip : stage2.status = .skipped
    · -- the report does not look at the suites of a skipped Stage 2
      rw [if_pos hskip] at h₂ h₂'
      unfold PipelineRun.verdict PipelineRun.stage2Passed PipelineRun.passingEvals
      rw [h₂, h₂']
      exact le_rfl
    · rw [if_neg hskip] at h₂ h₂'
      refine verdict_le_of_stage2 rfl h₂ h₂' (fun hsuccess => hstatus.trans hsuccess) ?_
      rw [passingEvals_eq h₂, passingEvals_eq h₂', hs, hs']
      exact passesRaised_map hraised
  | @stage2 stage2 stage2' h hfailed hsuccess hsuites =>
    have h₂ := stage2Run_of h
    have h₂' := stage2Run_replaced run stage2'
    rw [if_neg (by rw [hfailed]; decide)] at h₂
    rw [if_neg (by rw [hsuccess]; decide)] at h₂'
    refine verdict_le_of_stage2 rfl h₂ h₂' (fun _ => hsuccess) ?_
    rw [passingEvals_eq h₂, passingEvals_eq h₂', hsuites]
    exact .refl _
  | @stage1 stage1 stage1' h hfailed hsuccess =>
    -- a failed Stage 1 is rejected, and nothing is lower than that
    have hreject : run.verdict passThreshold = .reject := by
      refine computeVerdict_eq_reject.mpr (.inl ?_)
      unfold PipelineRun.stage1Passed
      rw [h]
      simp [hfailed]
    rw [hreject]
    exact Verdict.reject_le _

/-- **The verdict is sound and monotone**: support is only given to a run that has passed its
stages and all its evals, and no series of improvements lowers a verdict. -/
theorem report_sound_mono (run : PipelineRun) (passThreshold : ℚ) :
    ((buildRecommendationReport run passThreshold).verdict = .support →
      Supported run passThreshold) ∧
    ∀ run', Relation.ReflTransGen Improves run run' →
      (buildRecommendationReport run passThreshold).verdict ≤
        (buildRecommendationReport run' passThreshold).verdict := by
  refine ⟨supported_of_verdict, fun run' h => ?_⟩
  induction h with
  | refl => exact le_rfl
  | tail _ himp ih => exact ih.trans himp.verdict_le

end Run

end Benchmarker
