import Benchmarker.Async.Prog
import Benchmarker.Discovery.Supersede

/-!
# Queueing discovered models

`autoQueue`: the scored models that are put into the queue. The answers of the queue are those of requests;
`isEvaluated k` is the set of evaluated models when the model at position `k` is examined.

* `EnqueueCall`, `autoQueue`: the source. `attempts`, `succeeded`: what a run shows; `eligibleFrom`, `callsFrom`:
  the calls that are due.
* `Accounts`, `SkipsAll`, **`autoQueue_accounts`**: what is queued, skipped and failed.
-/

namespace Benchmarker.Discovery

open Async Async.Prog

/-! ## The loop -/

/-- What is stored with a queued model. -/
structure HfData where
  trendingScore : ℚ
  hardwareFit : Bool
  baselineWarnings : Option (List String)
  deriving DecidableEq

/-- The arguments of `queueService.enqueue`. -/
structure EnqueueCall where
  modelId : String
  source : String
  priority : ℤ
  hfData : HfData
  deriving DecidableEq

inductive QueueOp
  | enqueue (call : EnqueueCall)
  | prefetchWeights (modelId : String)
  deriving DecidableEq

/-- A call of the queue may be rejected. -/
abbrev QueueAns : QueueOp → Type
  | .enqueue _ => Except String Unit
  | .prefetchWeights _ => Unit

structure AutoQueueResult where
  queued : ℕ := 0
  skipped : ℕ := 0
  errors : ℕ := 0
  deriving DecidableEq, Repr

/-- What the loop reads besides the models. -/
structure QueueContext where
  /-- `config.autoQueue` -/
  autoQueue : Bool
  /-- There is a weight prefetcher. -/
  prefetches : Bool
  isEvaluated : ℕ → String → Bool
  skipModelIds : List String

abbrev askQueue (o : QueueOp) : Prog QueueAns (QueueAns o) := request o

def enqueueCall (model : ScoredModel) (priority : ℤ) : EnqueueCall where
  modelId := model.id
  source := "discovery"
  priority := priority
  hfData := ⟨model.trendingScore, model.hardwareFit, model.baselineWarnings⟩

section Source

variable (context : QueueContext)

/-- The four reasons to skip the model at a position. -/
def isSkipped (position : ℕ) (model : ScoredModel) : Bool :=
  context.isEvaluated position model.id || model.id ∈ context.skipModelIds || model.superseded ||
    !model.hardwareFit

/-- The loop over `n` models, from a position on; `index` models have been attempted. -/
def autoQueueFrom (n : ℕ) : ℕ → ℕ → AutoQueueResult → List ScoredModel → Prog QueueAns AutoQueueResult
  | _, _, stats, [] => pure stats
  | position, index, stats, model :: models =>
    if isSkipped context position model then
      autoQueueFrom n (position + 1) index { stats with skipped := stats.skipped + 1 } models
    else do
      match ← askQueue (.enqueue (enqueueCall model ((n : ℤ) - index))) with
      | .ok _ =>
        if context.prefetches then let _ ← askQueue (.prefetchWeights model.id)
        autoQueueFrom n (position + 1) (index + 1) { stats with queued := stats.queued + 1 } models
      | .error _ => autoQueueFrom n (position + 1) (index + 1) { stats with errors := stats.errors + 1 } models

def autoQueue (scoredModels : List ScoredModel) : Prog QueueAns AutoQueueResult :=
  if !context.autoQueue then pure { skipped := scoredModels.length }
  else autoQueueFrom context scoredModels.length 0 0 {} scoredModels

end Source

/-! ## What a run shows -/

variable {W : Type}

def attempted (e : Event QueueAns W) : Option EnqueueCall :=
  match e.op with
  | .enqueue call => some call
  | .prefetchWeights _ => none

/-- The calls of the queue, in their order. -/
def attempts (es : List (Event QueueAns W)) : List EnqueueCall := es.filterMap attempted

def succeeds (e : Event QueueAns W) : Bool :=
  match e.op, e.ans with
  | .enqueue _, .ok _ => true
  | _, _ => false

/-- The calls that succeeded. -/
def succeeded (es : List (Event QueueAns W)) : ℕ := es.countP succeeds

/-- The models that are not skipped, the first one at the position. -/
def eligibleFrom (context : QueueContext) (position : ℕ) (models : List ScoredModel) : List ScoredModel :=
  ((models.zipIdx position).filter fun p => !isSkipped context p.2 p.1).map Prod.fst

/-- The calls for models, the first one with the index. -/
def callsFrom (n index : ℕ) (models : List ScoredModel) : List EnqueueCall :=
  (models.zipIdx index).map fun p => enqueueCall p.1 ((n : ℤ) - p.2)

def AutoQueueResult.total (stats : AutoQueueResult) : ℕ := stats.queued + stats.skipped + stats.errors

section Runs

variable {context : QueueContext} {n position index : ℕ} {stats r : AutoQueueResult} {model : ScoredModel}
  {models : List ScoredModel} {es : List (Event QueueAns W)}

theorem eligibleFrom_cons : eligibleFrom context position (model :: models) =
    if isSkipped context position model then eligibleFrom context (position + 1) models
    else model :: eligibleFrom context (position + 1) models := by
  rw [eligibleFrom, List.zipIdx_cons, List.filter_cons]
  by_cases h : isSkipped context position model = true
  · simp [h, eligibleFrom]
  · simp [h, eligibleFrom]

theorem callsFrom_cons : callsFrom n index (model :: models) =
    enqueueCall model ((n : ℤ) - index) :: callsFrom n (index + 1) models := by
  rw [callsFrom, List.zipIdx_cons, List.map_cons, callsFrom]

theorem attempts_cons {e : Event QueueAns W} : attempts (e :: es) = (attempted e).toList ++ attempts es := by
  rw [attempts, attempts, List.filterMap_cons]
  cases attempted e <;> rfl

/-- The prefetch of a model is no call of the queue. -/
theorem runs_prefetch {modelId : String} {k : Prog QueueAns AutoQueueResult}
    (h : (do
      if context.prefetches then let _ ← askQueue (.prefetchWeights modelId)
      k).Runs es r) :
    ∃ before after, es = before ++ after ∧ attempts before = [] ∧ succeeded before = 0 ∧ k.Runs after r := by
  cases hprefetch : context.prefetches with
  | false =>
    rw [hprefetch] at h
    exact ⟨[], es, rfl, rfl, rfl, h⟩
  | true =>
    rw [hprefetch] at h
    obtain ⟨before, after, answer, rfl, hbefore, hafter⟩ := runs_bind.mp h
    obtain ⟨pre, post, rfl⟩ := runs_request.mp hbefore
    exact ⟨_, after, rfl, rfl, rfl, hafter⟩

/-- **The loop**: the calls are those for the models that are not skipped, and the counters add up. -/
theorem runs_autoQueueFrom (h : (autoQueueFrom context n position index stats models).Runs es r) :
    attempts es = callsFrom n index (eligibleFrom context position models) ∧
      r.queued = stats.queued + succeeded es ∧ r.total = stats.total + models.length := by
  induction models generalizing position index stats es with
  | nil =>
    obtain ⟨rfl, rfl⟩ := runs_ret.mp h
    exact ⟨rfl, rfl, rfl⟩
  | cons model models ih =>
    rw [autoQueueFrom] at h
    rw [eligibleFrom_cons]
    by_cases hskip : isSkipped context position model = true
    · rw [if_pos hskip] at h ⊢
      obtain ⟨hcalls, hqueued, htotal⟩ := ih h
      refine ⟨hcalls, hqueued, htotal.trans ?_⟩
      simp only [AutoQueueResult.total, List.length_cons]
      omega
    · rw [if_neg hskip] at h ⊢
      rw [callsFrom_cons]
      obtain ⟨es₁, es₂, answer, rfl, h₁, h₂⟩ := runs_bind.mp h
      obtain ⟨pre, post, rfl⟩ := runs_request.mp h₁
      rw [List.singleton_append, attempts_cons, succeeded, List.countP_cons]
      cases answer with
      | ok u =>
        obtain ⟨before, after, rfl, hnone, hzero, h₃⟩ := runs_prefetch h₂
        obtain ⟨hcalls, hqueued, htotal⟩ := ih h₃
        refine ⟨?_, ?_, htotal.trans ?_⟩
        · rw [attempts, List.filterMap_append, ← attempts, ← attempts, hnone, hcalls]
          rfl
        · rw [List.countP_append, ← succeeded, ← succeeded, hzero, hqueued]
          simp only [succeeds, if_true]
          omega
        · simp only [AutoQueueResult.total, List.length_cons]
          omega
      | error message =>
        obtain ⟨hcalls, hqueued, htotal⟩ := ih h₂
        refine ⟨?_, hqueued, htotal.trans ?_⟩
        · rw [hcalls]
          rfl
        · simp only [AutoQueueResult.total, List.length_cons]
          omega

/-- At most as many calls as models follow, so that the priorities stay positive. -/
theorem length_eligibleFrom_le : (eligibleFrom context position models).length ≤ models.length := by
  rw [eligibleFrom, List.length_map]
  exact (List.length_filter_le _ _).trans_eq List.length_zipIdx

theorem mem_callsFrom {call : EnqueueCall} (h : call ∈ callsFrom n index models) :
    ∃ k < models.length, call.priority = (n : ℤ) - ↑(index + k) := by
  obtain ⟨p, hp, rfl⟩ := List.mem_map.mp h
  obtain ⟨hle, hlt, -⟩ := List.mem_zipIdx hp
  refine ⟨p.2 - index, by omega, ?_⟩
  rw [Nat.add_sub_cancel' hle]
  rfl

theorem pairwise_callsFrom :
    (callsFrom n index models).Pairwise fun earlier later => later.priority < earlier.priority := by
  induction models generalizing index with
  | nil => exact List.Pairwise.nil
  | cons model models ih =>
    rw [callsFrom_cons]
    refine List.pairwise_cons.mpr ⟨fun call hcall => ?_, ih⟩
    obtain ⟨k, -, hpriority⟩ := mem_callsFrom hcall
    rw [hpriority, enqueueCall]
    push_cast
    omega

end Runs

/-! ## The accounts -/

/-- What a finished run with the queue switched on has to show for models. -/
structure Accounts (context : QueueContext) (scoredModels : List ScoredModel) (es : List (Event QueueAns W))
    (r : AutoQueueResult) : Prop where
  total : r.queued + r.skipped + r.errors = scoredModels.length
  /-- Each model that is not skipped once, in the order of the list, with the priorities `n`, `n - 1`, … -/
  calls : attempts es = callsFrom scoredModels.length 0 (eligibleFrom context 0 scoredModels)
  decreasing : (attempts es).Pairwise fun earlier later => later.priority < earlier.priority
  positive : ∀ call ∈ attempts es, 1 ≤ call.priority
  queued : r.queued = succeeded es

/-- What a finished run with the queue switched off has to show: all models are skipped. -/
structure SkipsAll (scoredModels : List ScoredModel) (es : List (Event QueueAns W)) (r : AutoQueueResult) :
    Prop where
  events : es = []
  result : r = { skipped := scoredModels.length }

section Accounts

variable {context : QueueContext} {scoredModels : List ScoredModel} {es : List (Event QueueAns W)}
  {r : AutoQueueResult}

theorem accounts_of_runs (hon : context.autoQueue = true) (h : (autoQueue context scoredModels).Runs es r) :
    Accounts context scoredModels es r := by
  rw [autoQueue, hon] at h
  obtain ⟨hcalls, hqueued, htotal⟩ := runs_autoQueueFrom h
  refine ⟨?_, hcalls, ?_, ?_, ?_⟩
  · exact htotal.trans (Nat.zero_add _)
  · rw [hcalls]
    exact pairwise_callsFrom
  · rw [hcalls]
    intro call hcall
    obtain ⟨k, hk, hpriority⟩ := mem_callsFrom hcall
    have hle : (eligibleFrom context 0 scoredModels).length ≤ scoredModels.length := length_eligibleFrom_le
    rw [hpriority]
    omega
  · exact hqueued.trans (Nat.zero_add _)

theorem skipsAll_of_runs (hoff : context.autoQueue = false) (h : (autoQueue context scoredModels).Runs es r) :
    SkipsAll scoredModels es r := by
  rw [autoQueue, hoff] at h
  obtain ⟨rfl, rfl⟩ := runs_ret.mp h
  exact ⟨rfl, rfl⟩

end Accounts

/-- **The accounts of the queue.** Whatever the queue answers, `autoQueue` returns; when it is switched on its
counters and its calls are exact, and when it is switched off it skips every model. -/
theorem autoQueue_accounts (context : QueueContext) (scoredModels : List ScoredModel)
    (serve : (o : QueueOp) → W → QueueAns o × W) (w : W) :
    let run := (autoQueue context scoredModels).drive serve w
    if context.autoQueue then Accounts context scoredModels run.1 run.2.1
    else SkipsAll scoredModels run.1 run.2.1 := by
  intro run
  have hruns : (autoQueue context scoredModels).Runs run.1 run.2.1 := runs_drive serve _ w
  split_ifs with hon
  · exact accounts_of_runs hon hruns
  · exact skipsAll_of_runs (Bool.eq_false_iff.mpr hon) hruns

/-- The queue is switched off. -/
def switchedOff : QueueContext where
  autoQueue := false
  prefetches := false
  isEvaluated := fun _ _ => false
  skipModelIds := []

/-- A queue that takes every model. -/
def acceptAll : (o : QueueOp) → Unit → QueueAns o × Unit
  | .enqueue _, w => (.ok (), w)
  | .prefetchWeights _, w => ((), w)

/-- Switched off, the models that are not skipped are not attempted. -/
theorem attempts_switchedOff : ¬ ∀ (context : QueueContext) (scoredModels : List ScoredModel)
    (serve : (o : QueueOp) → Unit → QueueAns o × Unit) (w : Unit),
    Accounts context scoredModels ((autoQueue context scoredModels).drive serve w).1
      ((autoQueue context scoredModels).drive serve w).2.1 := by
  intro h
  have hcalls := (h switchedOff (coders.take 1) acceptAll ()).calls
  have hlength := congrArg List.length hcalls
  revert hlength
  decide

/-- With the second of three calls failing, two models are queued. -/
example : let context : QueueContext := { switchedOff with autoQueue := true, prefetches := true }
    let serve : (o : QueueOp) → ℕ → QueueAns o × ℕ := fun
      | .enqueue _, k => (if k = 1 then .error "queue unavailable" else .ok (), k + 1)
      | .prefetchWeights _, k => ((), k)
    ((autoQueue context coders).drive serve 0).2.1 = { queued := 2, errors := 1 } := by
  decide

end Benchmarker.Discovery
