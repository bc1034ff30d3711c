import Benchmarker.Scheduler.Kinds

/-!
# The parts of `processEntry`

`processEntry` fails its entry in one way, through `failEntry`, and everything else that it does counts
no failure and enqueues nothing.

* `EntryPart`: a call of `failEntry` for the entry, or a body without the requests that only
  `failEntry` issues. **`built_entryTask`**: the whole is put together from such parts.
-/

namespace Benchmarker

open Js Async Async.Prog

/-- The kinds of requests that `processEntry` issues outside of `failEntry`. -/
def partKinds : List OpKind :=
  [.plain, .deploy, .measure, .failed, .write, .defer, .tunnel, .cleanup, .localEval, .stop, .endRun]

/-- A part of `processEntry`. -/
inductive EntryPart (deps : SchedulerDeps) (entry : QueueEntry) : (α : Type) → Prog SchedAns α → Prop
  | quiet {α : Type} {p : Prog SchedAns α} : p.Uses (fun o => o.kind ∈ partKinds) → EntryPart deps entry α p
  | fails (message : String) (leaseToken : Option String) :
    EntryPart deps entry _ (failEntry deps entry message leaseToken).run

section Parts

variable {deps : SchedulerDeps} {entry : QueueEntry} {leaseToken : Option String} {resume : Bool}
variable {α : Type} {ks : List OpKind} {x : SchedJs α} {y : EntryJs α}

theorem Only.built (h : Only ks x) (hks : ∀ k ∈ ks, k ∈ partKinds) : Built (EntryPart deps entry) x.run :=
  .part (.quiet (Uses.mono h fun _ => hks _))

theorem OnlyFrom.built (h : OnlyFrom ks y) (hks : ∀ k ∈ ks, k ∈ partKinds) :
    BuiltFrom (EntryPart deps entry) y := fun vars => .part (.quiet (Uses.mono (h vars) fun _ => hks _))

theorem built_failEntry {message : String} :
    Built (EntryPart deps entry) (failEntry deps entry message leaseToken).run := .part (.fails _ _)

theorem builtFrom_step (h : Built (EntryPart deps entry) x.run) : BuiltFrom (EntryPart deps entry) (step x) :=
  fun _ => .bind h fun _ => .ret _

theorem builtFrom_theRun : BuiltFrom (EntryPart deps entry) theRun :=
  builtFrom_bind builtFrom_get fun _ => builtFrom_pure _

theorem builtFrom_modifyRun {g : PipelineRun → PipelineRun} :
    BuiltFrom (EntryPart deps entry) (modifyRun g) := builtFrom_modify _

theorem builtFrom_stage1Outcome {result : Stage1Result} :
    BuiltFrom (EntryPart deps entry) (stage1Outcome deps entry leaseToken result) := by
  refine builtFrom_bind builtFrom_modifyRun fun _ => builtFrom_ite (builtFrom_pure _) ?_
  refine builtFrom_bind (builtFrom_step ((only_dropTunnel deps).built (by decide))) fun _ => ?_
  exact builtFrom_bind (builtFrom_step built_failEntry) fun _ => builtFrom_pure _

theorem builtFrom_stage1Phase {stage1Skipped : Bool} :
    BuiltFrom (EntryPart deps entry) (stage1Phase deps entry leaseToken stage1Skipped) := by
  refine builtFrom_ite (builtFrom_pure _) ?_
  have hdeploying : Only [.plain] (queueCall (.updateStatus entry.id .deploying none none)) :=
    only_queueCall (by simp [Status.terminal])
  refine builtFrom_bind (builtFrom_step (hdeploying.built (by decide))) fun _ => ?_
  refine builtFrom_bind builtFrom_theRun fun run => ?_
  refine builtFrom_bind (builtFrom_step ((only_execute deps run).built (by decide))) fun result => ?_
  exact builtFrom_stage1Outcome

theorem builtFrom_localGatePhase :
    BuiltFrom (EntryPart deps entry) (localGatePhase deps entry resume leaseToken) := by
  have hextCall : ∀ {c : ExtOp}, (SchedOp.ext c).kind ∈ partKinds →
      BuiltFrom (EntryPart deps entry) (step (extCall c)) := fun h =>
    builtFrom_step (Only.built (only_extCall (List.mem_singleton_self _)) (by simpa using h))
  refine builtFrom_ite ?_ (builtFrom_pure _)
  refine builtFrom_bind ((onlyFrom_localSkipPhase deps entry).built (by decide)) fun _ => ?_
  refine builtFrom_bind builtFrom_theRun fun run => ?_
  refine builtFrom_bind (hextCall (by simp [partKinds])) fun result => ?_
  refine builtFrom_bind builtFrom_modifyRun fun _ => ?_
  refine builtFrom_bind (hextCall (by simp [partKinds])) fun _ => ?_
  refine builtFrom_ite ?_ (builtFrom_pure _)
  exact builtFrom_bind (builtFrom_step built_failEntry) fun _ => builtFrom_pure _

theorem builtFrom_ciEvalPhase {passed : Bool} {resolved : Option PublicEndpointResult} :
    BuiltFrom (EntryPart deps entry) (ciEvalPhase deps entry resume leaseToken passed resolved) := by
  refine builtFrom_bind builtFrom_theRun fun run => ?_
  split
  · exact builtFrom_pure _
  refine builtFrom_bind (builtFrom_step (only_resumeSkipSet.built (by decide))) fun skip => ?_
  refine builtFrom_bind builtFrom_get fun vars => ?_
  refine builtFrom_bind (builtFrom_step ((only_runCIEvals deps run).built (by decide))) fun outcome => ?_
  split
  · exact builtFrom_bind (builtFrom_step built_failEntry) fun _ => builtFrom_pure _
  · exact builtFrom_bind (builtFrom_modify _) fun _ => builtFrom_pure _
  · exact builtFrom_pure _
  · refine builtFrom_bind builtFrom_modifyRun fun _ => ?_
    have hsave : ∀ result, Only [.plain] (extCall (.saveStage2Result result)) :=
      fun result => only_extCall (by simp)
    exact builtFrom_bind (builtFrom_step ((hsave _).built (by decide))) fun _ => builtFrom_pure _

theorem builtFrom_afterStage1 :
    BuiltFrom (EntryPart deps entry) (afterStage1 deps entry resume leaseToken) := by
  refine builtFrom_bind ((onlyFrom_tunnelPhase deps).built (by decide)) fun resolved => ?_
  refine builtFrom_bind builtFrom_localGatePhase fun gate => ?_
  split
  · exact builtFrom_pure _
  refine builtFrom_bind builtFrom_ciEvalPhase fun r => ?_
  split
  · refine builtFrom_bind builtFrom_theRun fun run => ?_
    exact builtFrom_step ((only_finalizePipeline deps run).built (by decide))
  · exact builtFrom_pure _

theorem builtFrom_entryBody :
    BuiltFrom (EntryPart deps entry) (entryBody deps entry resume leaseToken) := by
  refine builtFrom_bind builtFrom_modifyRun fun _ => ?_
  refine builtFrom_bind ((onlyFrom_skipPhase entry).built (by decide)) fun skipped => ?_
  refine builtFrom_bind (builtFrom_step ((only_startTunnel deps).built (by decide))) fun _ => ?_
  refine builtFrom_bind builtFrom_stage1Phase fun goesOn => ?_
  exact builtFrom_ite builtFrom_afterStage1 (builtFrom_pure _)

theorem built_entryTry {run : PipelineRun} :
    Built (EntryPart deps entry) (entryTry deps entry resume leaseToken run).run := by
  refine built_throws_bind (built_lift (builtFrom_entryBody _)) fun p => ?_
  obtain ⟨outcome, vars⟩ := p
  refine built_throws_bind (built_attempt ?_) fun caught => ?_
  · cases outcome with
    | ok a => exact built_throws_pure _
    | error err => exact built_failEntry
  refine built_throws_bind ((only_entryFinally).built (by decide)) fun _ => ?_
  cases caught with
  | ok a => exact built_throws_pure _
  | error err => exact built_throw _

theorem built_processEntry : Built (EntryPart deps entry) (processEntry deps entry resume).run := by
  have hid : Only [.plain] newRunId := only_newRunId (List.mem_singleton_self _)
  have hclock : Only [.plain] clock := only_clock (List.mem_singleton_self _)
  have hlease : Only [.plain] (own (.leaseOf entry.id)) := only_own (by simp)
  have hcool : Only [.plain] (isModelCooldown entry.modelId) := only_isModelCooldown (by simp)
  refine built_throws_bind (hid.built (by decide)) fun runId => ?_
  refine built_throws_bind (hclock.built (by decide)) fun startedAt => ?_
  refine built_throws_bind (hlease.built (by decide)) fun leaseToken => ?_
  split
  · exact built_failEntry
  · refine built_throws_bind (hcool.built (by decide)) fun active => ?_
    refine built_ite ?_ built_entryTry
    have hcancel : Only [.write] (queueCall (.updateStatus entry.id .cancelled none none)) :=
      only_queueCall (by simp [Status.terminal])
    exact built_throws_bind (hcancel.built (by decide)) fun _ => built_throws_pure _

/-- **`processEntry` is put together from its parts**, and so is the background call of it. -/
theorem built_entryTask : Built (EntryPart deps entry) (entryTask deps entry resume).run := by
  refine built_throws_bind (built_attempt built_processEntry) fun outcome => ?_
  have hend : Only [.endRun] (own (.endRun entry.id)) := only_own (by simp)
  refine built_throws_bind (hend.built (by decide)) fun _ => ?_
  cases outcome with
  | ok a => exact built_throws_pure _
  | error err => exact built_throw _

end Parts

end Benchmarker
