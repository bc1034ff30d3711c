import Benchmarker.Benchmark.Runner
import Benchmarker.Scheduler.Teardown

/-!
# Metrics that an output does not contain

The parser returns 0 for a metric that an output does not contain, and the gates compare it with upper
limits. The gates over optional metrics say what to make of an absent one.

* `Attempt`, `Measured`: the output of a run, and the metrics that it contains.
* `meetsThresholds`, `eligible`: the two gates over optional metrics, with a rule for absent ones.
* `evaluateThresholds_eq`, `stage2Gate_eq`: the code's gates let absent metrics pass.
* **`absence_iff`**: when the gates decide as if an absent metric failed.
-/

namespace Benchmarker

open Js

/-! ## Outputs -/

/-- A run at a concurrency level, with what its command returns. -/
structure Attempt where
  concurrencyLevel : ℕ
  outcome : Except String CommandResult

/-- The metrics of a run that succeeded, as far as its output contains them. -/
structure Measured where
  concurrencyLevel : ℕ
  itlMs : ℚ
  ttftMs : Option ℚ
  throughputTokensPerSec : ℚ
  p99LatencyMs : Option ℚ
  deriving DecidableEq

def Measured.toMetrics (m : Measured) : BenchmarkMetrics where
  itlMs := m.itlMs
  ttftMs := m.ttftMs.getD 0
  throughputTokensPerSec := m.throughputTokensPerSec
  p99LatencyMs := m.p99LatencyMs.getD 0
  concurrencyLevel := m.concurrencyLevel

/-- The metrics of a run: both an ITL and a throughput are needed. -/
def ExtractedMetrics.measured (m : ExtractedMetrics) (concurrencyLevel : ℕ) : Option Measured :=
  match m.itl, m.throughput with
  | some itl, some throughput => some ⟨concurrencyLevel, itl, m.ttft, throughput, m.p99Latency⟩
  | _, _ => none

namespace Attempt

variable (jsonParse : String → Option Json) (a : Attempt)

def run : BenchmarkRunResult := runSingleBenchmark jsonParse a.concurrencyLevel a.outcome

def measured : Option Measured :=
  match a.outcome with
  | .error _ => none
  | .ok result => (extracted jsonParse result.combinedOutput).measured a.concurrencyLevel

/-- **What the code makes of a run**: it succeeds if it was measured, and an absent metric is 0. -/
theorem run_spec : (a.run jsonParse).success = (a.measured jsonParse).isSome ∧
    ∀ m, a.measured jsonParse = some m → (a.run jsonParse).metrics = m.toMetrics := by
  obtain ⟨level, outcome⟩ := a
  cases outcome with
  | error errorMessage => exact ⟨rfl, fun m h => absurd h (Option.some_ne_none m).symm⟩
  | ok result =>
    have hspec := runSingleBenchmark_ok jsonParse level result
    unfold run measured ExtractedMetrics.measured
    dsimp only at hspec ⊢
    rw [ExtractedMetrics.hasMinimumMetrics] at hspec
    generalize extracted jsonParse result.combinedOutput = m at hspec ⊢
    obtain ⟨itl, ttft, throughput, p99⟩ := m
    rcases hspec with ⟨hmin, hrun⟩ | ⟨hmin, error, hrun⟩
    · rw [hrun]
      cases itl with
      | none => cases hmin
      | some itl =>
        cases throughput with
        | none => cases hmin
        | some throughput => exact ⟨rfl, fun m h => Option.some.inj h ▸ rfl⟩
    · rw [hrun]
      cases itl with
      | none => exact ⟨rfl, fun m h => absurd h (Option.some_ne_none m).symm⟩
      | some itl =>
        cases throughput with
        | none => exact ⟨rfl, fun m h => absurd h (Option.some_ne_none m).symm⟩
        | some throughput => cases hmin

theorem level_run : (a.run jsonParse).concurrencyLevel = a.concurrencyLevel := by
  obtain ⟨level, outcome⟩ := a
  cases outcome with
  | error errorMessage => rfl
  | ok result =>
    rcases runSingleBenchmark_ok jsonParse level result with ⟨-, hrun⟩ | ⟨-, error, hrun⟩
    · rw [run, hrun]
      rfl
    · rw [run, hrun]
      rfl

theorem level_measured {m : Measured} (h : a.measured jsonParse = some m) :
    m.concurrencyLevel = a.concurrencyLevel := by
  have hmetrics := ((a.run_spec jsonParse).2 m h).symm
  have hlevel := (a.run jsonParse).level_eq
  rw [← hmetrics, level_run] at hlevel
  exact hlevel

end Attempt

/-! ## Gates over optional metrics -/

section Gates

-- whether a metric that is absent counts as met
variable (absentMeets : Bool)

/-- A metric is not above a limit. -/
def notAbove (limit : ℚ) : Option ℚ → Bool
  | none => absentMeets
  | some v => v ≤ limit

/-- `evaluateThresholds` over optional metrics; a run that failed has none. -/
def meetsThresholds (runs : List (Option Measured)) (maxITLMs : ℚ) : Bool :=
  runs.all (·.isSome) &&
  (runs.find? fun r => r.any (·.concurrencyLevel = 1)).any (·.any (·.itlMs ≤ maxITLMs)) &&
  runs.all fun r => r.any fun m => notAbove absentMeets (maxITLMs * 10) m.p99LatencyMs

/-- Stage 2 eligibility over the optional metrics of the runs that succeeded. -/
def eligible (config : AppConfig) (paramBillions : Option ℚ) (measured : List Measured)
    (contextWindow : ℕ) (toolCallResults : Option ToolCallResult) : Bool :=
  let t := config.stage2Thresholds
  (mean (measured.map (·.itlMs))).any (· < resolveMaxItlP50Ms t paramBillions) &&
  bestThroughput (measured.map (·.toMetrics)) > t.minThroughputTps &&
  ((absentMeets || measured.all (·.ttftMs.isSome)) &&
    (mean (measured.map (·.ttftMs.getD 0))).any (· < t.maxTtftMs)) &&
  contextWindow ≥ t.minContextWindow &&
  (gateSuccessRate toolCallResults).all
    (· ≥ resolveMinToolCallSuccessRate config.benchmarkThresholds paramBillions)

end Gates

theorem notAbove_eq (limit : ℚ) (v : Option ℚ) :
    notAbove false limit v = (notAbove true limit v && v.isSome) := by
  cases v with
  | none => rfl
  | some v => exact (Bool.and_true _).symm

/-- An absent P99 latency fails the gate in which absent metrics fail, and no other does. -/
theorem meetsThresholds_false (runs : List (Option Measured)) (maxITLMs : ℚ) :
    meetsThresholds false runs maxITLMs = (meetsThresholds true runs maxITLMs &&
      runs.all fun r => r.any (·.p99LatencyMs.isSome)) := by
  have hall : (runs.all fun r => r.any fun m => notAbove false (maxITLMs * 10) m.p99LatencyMs) =
      ((runs.all fun r => r.any fun m => notAbove true (maxITLMs * 10) m.p99LatencyMs) &&
        runs.all fun r => r.any (·.p99LatencyMs.isSome)) := by
    rw [Bool.eq_iff_iff, Bool.and_eq_true, List.all_eq_true, List.all_eq_true, List.all_eq_true,
      ← forall₂_and]
    refine forall₂_congr fun r _ => ?_
    cases r with
    | none => exact iff_of_false Bool.false_ne_true fun h => Bool.false_ne_true h.1
    | some m => rw [Option.any_some, notAbove_eq, Bool.and_eq_true]; rfl
  rw [meetsThresholds, hall, ← Bool.and_assoc]
  rfl

theorem eligible_false (config : AppConfig) (paramBillions : Option ℚ) (measured : List Measured)
    (contextWindow : ℕ) (toolCallResults : Option ToolCallResult) :
    eligible false config paramBillions measured contextWindow toolCallResults =
      (eligible true config paramBillions measured contextWindow toolCallResults &&
        measured.all (·.ttftMs.isSome)) := by
  unfold eligible
  dsimp only
  cases measured.all (·.ttftMs.isSome) with
  | true => rw [Bool.or_true, Bool.or_true, Bool.and_true]
  | false => simp only [Bool.or_false, Bool.false_and, Bool.and_false]

/-! ## The code's gates -/

section Code

variable (jsonParse : String → Option Json) (attempts : List Attempt)

/-- The runs of the code. -/
def runsOf : List BenchmarkRunResult := attempts.map (·.run jsonParse)

/-- The optional metrics of every run. -/
def measuredOf : List (Option Measured) := attempts.map (·.measured jsonParse)

/-- The metrics of the runs that succeeded, as the code has them. -/
theorem successful_metrics : ((runsOf jsonParse attempts).filter (·.success)).map (·.metrics) =
    ((measuredOf jsonParse attempts).filterMap id).map (·.toMetrics) := by
  induction attempts with
  | nil => rfl
  | cons a attempts ih =>
    obtain ⟨hsuccess, hmetrics⟩ := a.run_spec jsonParse
    rw [runsOf, measuredOf, List.map_cons, List.map_cons, ← runsOf, ← measuredOf]
    cases hm : a.measured jsonParse with
    | none =>
      rw [hm] at hsuccess
      rw [List.filter_cons_of_neg (by rw [hsuccess]; exact Bool.false_ne_true), ih]
      rfl
    | some m =>
      rw [hm] at hsuccess
      rw [List.filter_cons_of_pos hsuccess, List.map_cons, ih, hmetrics m hm]
      rfl

theorem map_some_filterMap {α : Type} {l : List (Option α)} (h : ∀ r ∈ l, r.isSome = true) :
    (l.filterMap id).map some = l := by
  induction l with
  | nil => rfl
  | cons r l ih =>
    obtain ⟨a, rfl⟩ := Option.isSome_iff_exists.mp (h r List.mem_cons_self)
    exact congrArg (some a :: ·) (ih fun r hr => h r (List.mem_cons_of_mem _ hr))

/-- **Stage 2 eligibility lets an absent TTFT pass.** -/
theorem stage2Gate_eq (config : AppConfig) (paramBillions : Option ℚ) (contextWindow : ℕ)
    (toolCallResults : Option ToolCallResult) :
    stage2Gate config paramBillions
      (((runsOf jsonParse attempts).filter (·.success)).map (·.metrics)) contextWindow
        toolCallResults =
      eligible true config paramBillions ((measuredOf jsonParse attempts).filterMap id) contextWindow
        toolCallResults := by
  rw [successful_metrics, stage2Gate, eligible, List.map_map, List.map_map, Bool.true_or,
    Bool.true_and]
  rfl

/-- **`evaluateThresholds` lets an absent P99 latency pass.** -/
theorem evaluateThresholds_eq (thresholds : ItlThresholds) (params : Option ℚ) :
    (evaluateThresholds (runsOf jsonParse attempts) thresholds params).2 =
      meetsThresholds true (measuredOf jsonParse attempts) (resolveMaxITLMs thresholds params) := by
  have hpos : 0 ≤ resolveMaxITLMs thresholds params * 10 :=
    Rat.mul_nonneg (resolveMaxITLMs_pos thresholds params).le (by decide)
  set maxITLMs := resolveMaxITLMs thresholds params
  have hsuccess : (∀ r ∈ runsOf jsonParse attempts, r.success = true) ↔
      ∀ r ∈ measuredOf jsonParse attempts, r.isSome = true := by
    rw [runsOf, measuredOf, List.forall_mem_map, List.forall_mem_map]
    exact forall₂_congr fun a _ => by rw [(a.run_spec jsonParse).1]
  rw [Bool.eq_iff_iff, evaluateThresholds_passed, meetsThresholds, Bool.and_eq_true, Bool.and_eq_true,
    List.all_eq_true, List.all_eq_true, hsuccess, and_assoc]
  refine and_congr_right fun hall => ?_
  have hruns : (runsOf jsonParse attempts).filter (·.success) = runsOf jsonParse attempts :=
    List.filter_eq_self.mpr (hsuccess.mpr hall)
  have hmetrics := successful_metrics jsonParse attempts
  rw [hruns] at hmetrics
  have hmeasured := map_some_filterMap hall
  set ms := (measuredOf jsonParse attempts).filterMap id
  have hlevel : (∃ r ∈ runsOf jsonParse attempts, r.concurrencyLevel = 1) ↔
      ∃ m ∈ ms, m.concurrencyLevel = 1 := by
    have hmap : (∃ r ∈ runsOf jsonParse attempts, r.concurrencyLevel = 1) ↔
        ∃ m ∈ (runsOf jsonParse attempts).map (·.metrics), m.concurrencyLevel = 1 := by
      simp only [List.mem_map, exists_exists_and_eq_and, BenchmarkRunResult.level_eq]
    rw [hmap, hmetrics]
    simp only [List.mem_map, exists_exists_and_eq_and, Measured.toMetrics]
  have hfind : (ms.map (·.toMetrics)).find? (fun m => m.concurrencyLevel = 1) =
      (ms.find? fun m => m.concurrencyLevel = 1).map (·.toMetrics) := List.find?_map
  have hfind' : (ms.map some).find? (fun r => r.any (·.concurrencyLevel = 1)) =
      (ms.find? fun m => m.concurrencyLevel = 1).map some := List.find?_map
  have hp99 : (∀ m ∈ ms.map (·.toMetrics), m.p99LatencyMs ≤ maxITLMs * 10) ↔
      ∀ r ∈ ms.map some, (r.any fun m => notAbove true (maxITLMs * 10) m.p99LatencyMs) = true := by
    rw [List.forall_mem_map, List.forall_mem_map]
    refine forall₂_congr fun m _ => ?_
    rw [Option.any_some, Measured.toMetrics]
    dsimp only
    cases m.p99LatencyMs with
    | none => exact iff_of_true hpos rfl
    | some v => exact decide_eq_true_iff.symm
  rw [hlevel, hmetrics, ← hmeasured, WithinLimits, hfind, hfind', hp99, ← and_assoc]
  refine and_congr_left fun _ => ?_
  cases hone : ms.find? fun m => m.concurrencyLevel = 1 with
  | none =>
    refine iff_of_false (fun h => ?_) Bool.false_ne_true
    obtain ⟨m, hm, hm1⟩ := h.1
    exact List.find?_eq_none.mp hone m hm (decide_eq_true hm1)
  | some m =>
    have hm : ∃ m ∈ ms, m.concurrencyLevel = 1 :=
      ⟨m, List.mem_of_find?_eq_some hone, by simpa using List.find?_some hone⟩
    rw [and_iff_right hm, Option.map_some, Option.map_some, Option.any_some, Option.any_some,
      decide_eq_true_eq]
    exact ⟨fun h => h _ rfl, fun h m' hm' => Option.some.inj hm' ▸ h⟩

end Code

/-! ## When an absent metric fails -/

section Agreement

variable (jsonParse : String → Option Json) (attempts : List Attempt) (thresholds : ItlThresholds)
variable (params : Option ℚ) (config : AppConfig) (contextWindow : ℕ)
variable (toolCallResults : Option ToolCallResult)

/-- Both gates decide as the gates in which an absent metric fails. -/
def AbsentFails : Prop :=
  (evaluateThresholds (runsOf jsonParse attempts) thresholds params).2 =
      meetsThresholds false (measuredOf jsonParse attempts) (resolveMaxITLMs thresholds params) ∧
    stage2Gate config params (((runsOf jsonParse attempts).filter (·.success)).map (·.metrics))
        contextWindow toolCallResults =
      eligible false config params ((measuredOf jsonParse attempts).filterMap id) contextWindow
        toolCallResults

/-- **When absent metrics fail**: every run that succeeded has a P99 latency, or the runs miss the
thresholds by what they have; and every one has a TTFT, or the model is not eligible by what they
have, the absent TTFTs not adding to the mean. -/
theorem absence_iff :
    AbsentFails jsonParse attempts thresholds params config contextWindow toolCallResults ↔
      ((∀ m, some m ∈ measuredOf jsonParse attempts → m.p99LatencyMs.isSome = true) ∨
        meetsThresholds true (measuredOf jsonParse attempts) (resolveMaxITLMs thresholds params) =
          false) ∧
      ((∀ m, some m ∈ measuredOf jsonParse attempts → m.ttftMs.isSome = true) ∨
        eligible true config params ((measuredOf jsonParse attempts).filterMap id) contextWindow
          toolCallResults = false) := by
  have hand : ∀ a b : Bool, (a = (a && b)) ↔ (b = true ∨ a = false) := by decide
  have hp99 : meetsThresholds true (measuredOf jsonParse attempts) (resolveMaxITLMs thresholds params) =
      true → ((measuredOf jsonParse attempts).all (fun r => r.any (·.p99LatencyMs.isSome)) = true ↔
        ∀ m, some m ∈ measuredOf jsonParse attempts → m.p99LatencyMs.isSome = true) := by
    intro hmeets
    rw [meetsThresholds, Bool.and_eq_true, Bool.and_eq_true, List.all_eq_true] at hmeets
    rw [List.all_eq_true]
    refine ⟨fun h m hm => h _ hm, fun h r hr => ?_⟩
    obtain ⟨m, rfl⟩ := Option.isSome_iff_exists.mp (hmeets.1.1 r hr)
    exact h m hr
  have httft : ((measuredOf jsonParse attempts).filterMap id).all (·.ttftMs.isSome) = true ↔
      ∀ m, some m ∈ measuredOf jsonParse attempts → m.ttftMs.isSome = true := by
    rw [List.all_eq_true]
    refine forall_congr' fun m => ?_
    rw [List.mem_filterMap]
    simp only [id, exists_eq_right]
  rw [AbsentFails, evaluateThresholds_eq, stage2Gate_eq, meetsThresholds_false, eligible_false, hand,
    hand, httft]
  refine and_congr_left' ?_
  by_cases hmeets : meetsThresholds true (measuredOf jsonParse attempts)
    (resolveMaxITLMs thresholds params) = true
  · rw [hp99 hmeets]
  · rw [Bool.not_eq_true] at hmeets
    exact iff_of_true (.inr hmeets) (.inr hmeets)

end Agreement

/-! ## An output without TTFT and P99 latency -/

/-- Thresholds without tiers. -/
def plainThresholds : ItlThresholds where
  maxITLMs := 20
  maxITLMsTiers := []
  maxITLMs_pos := by decide
  tiers_pos _ h := absurd h List.not_mem_nil

/-- A run whose output has an ITL and a throughput, and nothing else. -/
def twoMetrics : Attempt where
  concurrencyLevel := 1
  outcome := .ok ⟨"Mean ITL (ms): 10\nOutput token throughput (tok/s): 100", "", some 0, true, 1⟩

/-- The run meets the P99 limit with no P99 latency. -/
theorem twoMetrics_pass :
    ¬AbsentFails (fun _ => none) [twoMetrics] plainThresholds none oneSuiteDeps.config 8192 none := by
  rw [AbsentFails]
  decide +kernel

end Benchmarker
