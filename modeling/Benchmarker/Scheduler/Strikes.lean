import Benchmarker.Scheduler.Saves
import Benchmarker.Scheduler.Settle

/-!
# Three strikes

`recordModelFailure` counts the failures of a model and puts the model on cooldown at the third. Only
`failEntry` calls it; a run that ends in `finalizePipeline` neither counts nor resets.

* `Counted`, `Uncounted`: a history counts one failure of the model, or none. **`counts_entryTask`**: a
  finished call of `processEntry` counts at most one.
* `RunOutcome`, `runOutcome`: how a finished run of a model ended.
* `FinishedRuns`: the finished runs of one model in one daemon. `ThreeStrikes`: its cooldowns are due
  to three failures in a row. **`threeStrikes_of_noted`**: when they are. **`success_between`**: a
  cooldown with a success in between.
-/

namespace Benchmarker

open Js Async Async.Prog

/-! ## Counted failures -/

section Counts

variable {W α β : Type} {m : String} {es fs : List (Event SchedAns W)}

/-- The history counts no failure. -/
def Uncounted (es : List (Event SchedAns W)) : Prop := ∀ e ∈ es, e.op.kind ≠ .record

/-- The history counts one failure of the model. -/
def Counted (m : String) (es : List (Event SchedAns W)) : Prop :=
  ∃ (before after : List (Event SchedAns W)) (e : Event SchedAns W) (c : FailureCategory) (now : Time),
    es = before ++ e :: after ∧ Uncounted before ∧ Uncounted after ∧
    e.op = .own (.recordModelFailure m c.text now)

theorem uncounted_append (h : Uncounted es) (h' : Uncounted fs) : Uncounted (es ++ fs) := by
  intro e he
  rcases List.mem_append.mp he with he | he
  · exact h e he
  · exact h' e he

theorem Counted.append_left (h : Counted m es) (hfs : Uncounted fs) : Counted m (es ++ fs) := by
  obtain ⟨before, after, e, c, now, rfl, hb, ha, hop⟩ := h
  exact ⟨before, after ++ fs, e, c, now, by simp, hb, uncounted_append ha hfs, hop⟩

theorem Counted.append_right (h : Counted m fs) (hes : Uncounted es) : Counted m (es ++ fs) := by
  obtain ⟨before, after, e, c, now, rfl, hb, ha, hop⟩ := h
  exact ⟨es ++ before, after, e, c, now, by simp, uncounted_append hes hb, ha, hop⟩

/-- A body that counts no failure. -/
theorem uncounted_of_only {k : List OpKind} {x : SchedJs α} {r : Except JsError α} (h : Only k x)
    (hks : .record ∉ k) (hr : x.run.Runs es r) : Uncounted es := kind_ne_of_only h hks hr

/-- The body counts at most one failure of the model, and only when it returns a value that
satisfies `stop`. -/
def CountsLast (m : String) (stop : α → Prop) (x : EntryJs α) : Prop :=
  ∀ (W : Type) (es : List (Event SchedAns W)) (s s' : EntryVars) (r : Except JsError α),
    RunsFrom x s es r s' → Uncounted es ∨ Counted m es ∧ ∃ a, r = .ok a ∧ stop a

variable {stop : α → Prop} {stop' : β → Prop} {x : EntryJs α} {f : α → EntryJs β}

theorem countsLast_of_only {k : List OpKind} (h : OnlyFrom k x) (hks : .record ∉ k) :
    CountsLast m stop x :=
  fun _ _ _ _ _ hr => .inl (kind_ne_of_onlyFrom h hks hr)

theorem countsLast_pure (a : α) : CountsLast m stop (pure a) :=
  countsLast_of_only (usesFrom_pure a : OnlyFrom [] _) (by simp)

/-- What follows a body that counts nothing. -/
theorem countsLast_after {k : List OpKind} (h : OnlyFrom k x) (hks : .record ∉ k)
    (hf : ∀ a, CountsLast m stop' (f a)) : CountsLast m stop' (x >>= f) := by
  intro W es s s' r hr
  rcases runsFrom_bind.mp hr with ⟨es₁, es₂, a, t, rfl, h₁, h₂⟩ | ⟨e, h₁, rfl⟩
  · have hnone : Uncounted es₁ := kind_ne_of_onlyFrom h hks h₁
    rcases hf a W es₂ t s' r h₂ with hu | ⟨hc, hstop⟩
    · exact .inl (uncounted_append hnone hu)
    · exact .inr ⟨hc.append_right hnone, hstop⟩
  · exact .inl (kind_ne_of_onlyFrom h hks h₁)

/-- What follows a body that counts last: nothing, once it has counted. -/
theorem countsLast_bind (hx : CountsLast m stop x)
    (hstop : ∀ a, stop a → ∃ b, f a = pure b ∧ stop' b) (hf : ∀ a, CountsLast m stop' (f a)) :
    CountsLast m stop' (x >>= f) := by
  intro W es s s' r hr
  rcases runsFrom_bind.mp hr with ⟨es₁, es₂, a, t, rfl, h₁, h₂⟩ | ⟨e, h₁, rfl⟩
  · rcases hx W es₁ s t _ h₁ with hu | ⟨hc, a', ha, hst⟩
    · rcases hf a W es₂ t s' r h₂ with hu' | ⟨hc', hst⟩
      · exact .inl (uncounted_append hu hu')
      · exact .inr ⟨hc'.append_right hu, hst⟩
    · obtain rfl := Except.ok.inj ha
      obtain ⟨b, hb, hstb⟩ := hstop a hst
      rw [hb] at h₂
      obtain ⟨rfl, rfl, -⟩ := runsFrom_pure.mp h₂
      rw [List.append_nil]
      exact .inr ⟨hc, b, rfl, hstb⟩
  · rcases hx W es s s' _ h₁ with hu | ⟨-, a, ha, -⟩
    · exact .inl hu
    · cases ha

theorem countsLast_ite {p : Prop} [Decidable p] {y : EntryJs α} (hx : CountsLast m stop x)
    (hy : CountsLast m stop y) : CountsLast m stop (if p then x else y) := by
  split_ifs
  · exact hx
  · exact hy

variable {deps : SchedulerDeps} {entry : QueueEntry} {resume : Bool} {leaseToken : Option String}

/-- `recordModelFailure` counts one failure. -/
theorem counted_recordModelFailure {c : FailureCategory} {r : Except JsError Unit}
    (h : (recordModelFailure m c.text).run.Runs es r) : Counted m es := by
  unfold recordModelFailure at h
  rcases runs_throws_bind.mp h with ⟨es₁, es₂, now, rfl, h₁, h₂⟩ | ⟨e, h₁, -⟩
  swap; · obtain ⟨_, _, _, he, -⟩ := runs_clock h₁; cases he
  rcases runs_throws_bind.mp h₂ with ⟨es₃, es₄, a, rfl, h₃, h₄⟩ | ⟨e, h₃, -⟩
  swap; · obtain ⟨_, _, _, he, -⟩ := runs_own h₃; cases he
  obtain ⟨v, pre, post, -, rfl⟩ := runs_own h₃
  have hclock : Uncounted es₁ := uncounted_of_only (k := [.plain]) (only_clock (by simp)) (by simp) h₁
  have hrest : Uncounted es₄ := by
    cases a with
    | none =>
      obtain ⟨rfl, -⟩ := runs_throws_pure.mp h₄
      exact fun e he => by cases he
    | some p => exact uncounted_of_only (k := [.plain]) (only_extFire (by simp)) (by simp) h₄
  exact ⟨es₁, es₄, _, c, now, rfl, hclock, hrest, rfl⟩

/-- **`failEntry` counts at most one failure**, and does not throw when it has. -/
theorem counts_failEntry {message : String} {r : Except JsError Unit}
    (h : (failEntry deps entry message leaseToken).run.Runs es r) :
    Uncounted es ∨ Counted entry.modelId es ∧ r = .ok () := by
  rw [failEntry_eq] at h
  rcases runs_throws_bind.mp h with ⟨es₁, es₂, applied, rfl, h₁, h₂⟩ | ⟨e, h₁, -⟩
  swap; · exact .inl (uncounted_of_only (k := [.write]) (only_writeTerminal rfl) (by simp) h₁)
  have hwrite : Uncounted es₁ :=
    uncounted_of_only (k := [.write]) (only_writeTerminal rfl) (by simp) h₁
  have hr : r = .ok () := by
    cases r with
    | ok a => rfl
    | error err =>
      obtain ⟨v, -, hv⟩ := (settles_failAfter W es₂ _ h₂).mp ⟨err, rfl⟩
      cases hv
  unfold failAfter at h₂
  split at h₂
  · obtain ⟨rfl, -⟩ := runs_throws_pure.mp h₂
    rw [List.append_nil]
    exact .inl hwrite
  rcases runs_throws_bind.mp h₂ with ⟨es₃, es₄, _, rfl, h₃, h₄⟩ | ⟨e, h₃, -⟩
  · have hretry : Only [.plain, .cooldown, .enqueue] (if willRetry deps entry message = true then do
        let _ ← attempt (queueCall (retryCall entry (classifyFailure message).category))
        return ()
      else return () : SchedJs Unit) :=
      uses_ite (only_dropped (only_queueCall (by simp [retryCall]))) (uses_throws_pure _)
    have hrest : Uncounted es₄ := by
      refine uncounted_of_only (k := [.plain, .cooldown, .enqueue]) ?_ (by simp) h₄
      exact uses_ite (uses_throws_bind (only_quarantine.mono (by simp)) fun _ => hretry) hretry
    exact .inr ⟨((counted_recordModelFailure h₃).append_left hrest).append_right hwrite, hr⟩
  · obtain ⟨v, -, hv⟩ := (settles_recordModelFailure W es₂ _ h₃).mp ⟨e, rfl⟩
    cases hv

theorem countsLast_failEntry {message : String} {b : β} (hb : stop' b) :
    CountsLast entry.modelId stop' (do
      step (failEntry deps entry message leaseToken)
      return b) := by
  have hfail : CountsLast entry.modelId (fun _ => True)
      (step (failEntry deps entry message leaseToken)) := by
    intro W es s s' r hr
    rcases counts_failEntry (runsFrom_step.mp hr).1 with hu | ⟨hc, hr⟩
    · exact .inl hu
    · exact .inr ⟨hc, (), hr, trivial⟩
  exact countsLast_bind hfail (fun _ _ => ⟨b, rfl, hb⟩) fun _ => countsLast_pure b

/-! ## The `try` block -/

theorem countsLast_localGatePhase : CountsLast entry.modelId (· = none)
    (localGatePhase deps entry resume leaseToken) := by
  refine countsLast_ite ?_ (countsLast_pure _)
  refine countsLast_after (onlyFrom_localSkipPhase deps entry) (by simp) fun _ => ?_
  refine countsLast_after (k := []) onlyFrom_theRun (by simp) fun run => ?_
  refine countsLast_after (k := [.localEval]) (onlyFrom_step (only_extCall (by simp))) (by simp)
    fun result => ?_
  refine countsLast_after (k := []) onlyFrom_modifyRun (by simp) fun _ => ?_
  refine countsLast_after (k := [.plain]) (onlyFrom_step (only_extCall (by simp))) (by simp) fun _ => ?_
  exact countsLast_ite (countsLast_failEntry rfl) (countsLast_pure _)

theorem countsLast_ciEvalPhase {passed : Bool} {resolved : Option PublicEndpointResult} :
    CountsLast entry.modelId (· = none) (ciEvalPhase deps entry resume leaseToken passed resolved) := by
  refine countsLast_after (k := []) onlyFrom_theRun (by simp) fun run => ?_
  split
  · exact countsLast_pure _
  refine countsLast_after (onlyFrom_step only_resumeSkipSet) (by simp) fun skip => ?_
  refine countsLast_after (k := []) usesFrom_get (by simp) fun vars => ?_
  refine countsLast_after (onlyFrom_step (only_runCIEvals deps run)) (by simp) fun outcome => ?_
  split
  · exact countsLast_failEntry rfl
  · exact countsLast_of_only
      (usesFrom_bind (usesFrom_modify _) fun _ => usesFrom_pure _ : OnlyFrom [] _) (by simp)
  · exact countsLast_pure _
  · refine countsLast_of_only (k := [.plain]) ?_ (by simp)
    refine usesFrom_bind onlyFrom_modifyRun fun _ => ?_
    exact usesFrom_bind (onlyFrom_step (only_extCall (by simp))) fun _ => usesFrom_pure _

theorem countsLast_afterStage1 : CountsLast entry.modelId (fun _ => True)
    (afterStage1 deps entry resume leaseToken) := by
  refine countsLast_after (onlyFrom_tunnelPhase deps) (by simp) fun resolved => ?_
  refine countsLast_bind countsLast_localGatePhase (fun _ hgate => ⟨(), by rw [hgate], trivial⟩)
    fun gate => ?_
  split
  · exact countsLast_pure _
  refine countsLast_bind countsLast_ciEvalPhase (fun _ hevals => ⟨(), by rw [hevals], trivial⟩)
    fun evals => ?_
  split
  · refine countsLast_after (k := []) onlyFrom_theRun (by simp) fun run => ?_
    exact countsLast_of_only (onlyFrom_step (only_finalizePipeline deps run)) (by simp)
  · exact countsLast_pure _

theorem countsLast_stage1Phase {skipped : Bool} :
    CountsLast entry.modelId (· = false) (stage1Phase deps entry leaseToken skipped) := by
  refine countsLast_ite (countsLast_pure _) ?_
  refine countsLast_after (k := [.plain]) (onlyFrom_step (only_queueCall (by simp [Status.terminal])))
    (by simp) fun _ => ?_
  refine countsLast_after (k := []) onlyFrom_theRun (by simp) fun run => ?_
  refine countsLast_after (onlyFrom_step (only_execute deps run)) (by simp) fun result => ?_
  refine countsLast_after (k := []) onlyFrom_modifyRun (by simp) fun _ => ?_
  refine countsLast_ite (countsLast_pure _) ?_
  refine countsLast_after (onlyFrom_step (only_dropTunnel deps)) (by simp) fun _ => ?_
  exact countsLast_failEntry rfl

theorem countsLast_entryBody : CountsLast entry.modelId (fun _ => True)
    (entryBody deps entry resume leaseToken) := by
  refine countsLast_after (k := []) onlyFrom_modifyRun (by simp) fun _ => ?_
  refine countsLast_after (onlyFrom_skipPhase entry) (by simp) fun skipped => ?_
  refine countsLast_after (onlyFrom_step (only_startTunnel deps)) (by simp) fun _ => ?_
  refine countsLast_bind countsLast_stage1Phase (fun _ hgoes => ⟨(), by rw [hgoes]; rfl, trivial⟩)
    fun goesOn => ?_
  exact countsLast_ite countsLast_afterStage1 (countsLast_pure _)

/-! ## The whole call -/

/-- The `try`, `catch` and `finally` blocks count at most one failure. -/
theorem counts_entryTry {run : PipelineRun} {r : Except JsError Unit}
    (h : (entryTry deps entry resume leaseToken run).run.Runs es r) :
    Uncounted es ∨ Counted entry.modelId es := by
  obtain ⟨bes, cs, fs, outcome, vars, rfl, hbody, hcatch, hfinally⟩ := runs_entryTry h
  have hfs : Uncounted fs := uncounted_of_only only_entryFinally (by simp) hfinally
  rcases countsLast_entryBody W bes _ _ _ hbody with hu | ⟨hc, a, rfl, -⟩
  · cases outcome with
    | ok a =>
      obtain ⟨rfl, -⟩ := runs_throws_pure.mp hcatch
      exact .inl (uncounted_append hu hfs)
    | error err =>
      rcases counts_failEntry hcatch with hu' | ⟨hc, -⟩
      · exact .inl (uncounted_append hu (uncounted_append hu' hfs))
      · exact .inr ((hc.append_left hfs).append_right hu)
  · obtain ⟨rfl, -⟩ := runs_throws_pure.mp hcatch
    exact .inr (hc.append_left hfs)

/-- **A finished call of `processEntry` counts at most one failure**, and of its entry's model. -/
theorem counts_entryTask {es : List SchedEvent} {r : Except JsError Unit}
    (h : (entryTask deps entry resume).run.Runs es r) :
    Uncounted es ∨ Counted entry.modelId es := by
  obtain ⟨bes, e, rfl, hentry, hop⟩ := runs_entryTask h
  have hend : Uncounted [e] := by
    intro e' he'
    rw [List.mem_singleton.mp he', hop]
    simp
  obtain ⟨ps, ts, leaseToken, rfl, hps, -, hcases⟩ := runs_processEntry_cases hentry
  have hplain : Uncounted ps := fun e he => by
    rw [hps e he]
    simp
  have hts : Uncounted ts ∨ Counted entry.modelId ts := by
    rcases hcases with ⟨message, hfail⟩ | hcancel | ⟨run, -, -, htry⟩
    · exact (counts_failEntry hfail).imp_right And.left
    · exact .inl (uncounted_of_only only_cancelCooled (by simp) hcancel)
    · exact counts_entryTry htry
  rcases hts with hu | hc
  · exact .inl (uncounted_append (uncounted_append hplain hu) hend)
  · exact .inr ((hc.append_right hplain).append_left hend)

end Counts

/-! ## Finished runs -/

/-- How a finished run of a model ended, by the status that it wrote last. -/
inductive RunOutcome
  | completed
  | failed (errorType : String)
  | cancelled
  /-- No status was written: the run had lost its lease. -/
  | unwritten
  deriving DecidableEq, Repr

/-- What a status write makes of the run; a failure has the type of its message. -/
def writtenOutcome (status : Status) (errorMessage : Option String) : RunOutcome :=
  match status with
  | .completed => .completed
  | .failed => .failed (classifyFailure (errorMessage.getD "")).category.text
  | .cancelled => .cancelled
  | _ => .unwritten

/-- The outcome that a status write gives to the run, if it was applied. -/
def appliedOutcome : SchedEvent → Option RunOutcome
  | ⟨.queue (.terminal c), .ok result, _, _⟩ =>
    if result.applied then some (writtenOutcome c.status c.message) else none
  | ⟨.queue (.updateStatus _ status errorMessage _), .ok true, _, _⟩ =>
    if status.terminal then some (writtenOutcome status errorMessage) else none
  | _ => none

/-- The type of a counted failure. -/
def countedType : SchedEvent → Option String
  | ⟨.own (.recordModelFailure _ errorType _), _, _, _⟩ => some errorType
  | _ => none

/-- How a finished run ended: a counted failure has the type under which it was counted. -/
def runOutcome (es : List SchedEvent) : RunOutcome :=
  match es.findSome? countedType with
  | some errorType => .failed errorType
  | none => ((es.filterMap appliedOutcome).getLast?).getD .unwritten

/-- The history of a finished run of the model: a call of `processEntry`, and the background task that
it has left to finish the run, if any. -/
def FinishedRun (deps : SchedulerDeps) (m : String) (es : List SchedEvent) : Prop :=
  ∃ (entry : QueueEntry) (resume : Bool) (es₁ es₂ : List SchedEvent) (r : Except JsError Unit),
    entry.modelId = m ∧ es = es₁ ++ es₂ ∧
    (schedBody deps (.processEntry entry resume)).run.Runs es₁ r ∧
    (es₂ = [] ∨ ∃ e ∈ es₁, ∃ c ∈ e.op.forks, ∃ r', (schedBody deps c).run.Runs es₂ r')

/-- What the runs of other models do to the failures counted against the model: nothing, unless they
are pruned. -/
def Elsewhere (m : String) (s s' : SchedulerState) : Prop :=
  s'.modelFailureTracker.get m = s.modelFailureTracker.get m ∨ s'.modelFailureTracker.get m = none

/-- The events follow each other on one scheduler, with the runs of other models in between. -/
def Daemon (m : String) : SchedulerState → List SchedEvent → SchedulerState → Prop
  | s, [], s' => s' = s
  | s, e :: es, s' => Elsewhere m s e.pre ∧ (∃ ans, serveSched e.op ans e.pre = (e.ans, e.post)) ∧
    Daemon m e.post es s'

/-- The finished runs of one model in one daemon, in their order. -/
def FinishedRuns (deps : SchedulerDeps) (m : String) (runs : List (List SchedEvent)) : Prop :=
  (∀ es ∈ runs, FinishedRun deps m es) ∧
    ∃ s s', s.modelFailureTracker.get m = none ∧ Daemon m s runs.flatten s'

/-- The number of failures of a type that the outcomes end with. -/
def streak (errorType : String) (outcomes : List RunOutcome) : ℕ :=
  (outcomes.reverse.takeWhile (· = .failed errorType)).length

/-- The type of the failures that have put the model on cooldown. -/
def strikesOut : SchedEvent → Option String
  | ⟨.own (.recordModelFailure _ errorType _), some _, _, _⟩ => some errorType
  | _ => none

/-- Some retriable failures have this type. -/
def RetriableType (errorType : String) : Prop :=
  ∃ rule ∈ rules, rule.retriable = true ∧ rule.category.text = errorType

/-- **Three strikes**: when a run puts the model on cooldown for retriable failures, the last three
finished runs were failures of one type. -/
def ThreeStrikes (runs : List (List SchedEvent)) : Prop :=
  ∀ before es after errorType, runs = before ++ es :: after → (∃ e ∈ es, strikesOut e = some errorType) →
    RetriableType errorType → 3 ≤ streak errorType ((before ++ [es]).map runOutcome)

/-- The run is a counted failure; or it finds nothing counted; or it is a failure of the type that is
counted. -/
def Noted (m : String) (es : List SchedEvent) : Prop :=
  (es.findSome? countedType).isSome = true ∨ ∀ e ∈ es.head?, ∀ record,
    e.pre.modelFailureTracker.get m = some record →
      record.count = 0 ∨ runOutcome es = .failed record.lastErrorType

/-! ## The counter -/

section Counter

variable {m : String} {s s' : SchedulerState} {es : List SchedEvent} {outcomes : List RunOutcome}

theorem streak_append (t : String) (o : RunOutcome) : streak t (outcomes ++ [o]) =
    if o = .failed t then streak t outcomes + 1 else 0 := by
  unfold streak
  rw [List.reverse_append, List.reverse_singleton, List.singleton_append, List.takeWhile_cons]
  by_cases h : o = .failed t
  · simp [h]
  · simp [h]

theorem Elsewhere.refl : Elsewhere m s s := .inl rfl

theorem Elsewhere.trans {u : SchedulerState} (h : Elsewhere m s s') (h' : Elsewhere m s' u) :
    Elsewhere m s u := by
  rcases h' with h' | h'
  · rcases h with h | h
    · exact .inl (h'.trans h)
    · exact .inr (h'.trans h)
  · exact .inr h'

/-- What is still counted has been counted before. -/
theorem Elsewhere.get {record : FailureRecord} (h : Elsewhere m s s')
    (hr : s'.modelFailureTracker.get m = some record) : s.modelFailureTracker.get m = some record := by
  rcases h with h | h
  · rw [← h, hr]
  · rw [h] at hr
    cases hr

theorem daemon_append {fs : List SchedEvent} :
    Daemon m s (es ++ fs) s' ↔ ∃ u, Daemon m s es u ∧ Daemon m u fs s' := by
  induction es generalizing s with
  | nil => simp [Daemon]
  | cons e es ih => simp [Daemon, ih, and_assoc]

/-- Only `recordModelFailure` counts. -/
theorem apply_tracker {a : OwnOp} (h : (SchedOp.own a).kind ≠ .record) (w : SchedulerState) :
    (a.apply w).2.modelFailureTracker = w.modelFailureTracker := by
  cases a with
  | recordModelFailure modelId errorType now => simp at h
  | reclaimDue now ms =>
    simp only [OwnOp.apply]
    split_ifs <;> rfl
  | isModelCooldown modelId now =>
    simp only [OwnOp.apply, SchedulerState.isModelCooldown]
    split
    · rfl
    · split_ifs <;> rfl
  | _ => rfl

theorem serveSched_tracker {o : SchedOp} {ans : ∀ o, SchedAns o} (h : o.kind ≠ .record) :
    (serveSched o ans s).2.modelFailureTracker = s.modelFailureTracker := by
  cases o with
  | own a => exact apply_tracker h s
  | _ => rfl

/-- Events that count nothing, with the runs of other models in between. -/
theorem elsewhere_of_uncounted (h : Daemon m s es s') (hes : Uncounted es) : Elsewhere m s s' := by
  induction es generalizing s with
  | nil =>
    have hs : s' = s := h
    rw [hs]
    exact .refl
  | cons e es ih =>
    obtain ⟨hbefore, ⟨ans, hserve⟩, hrest⟩ := h
    have htracker : e.post.modelFailureTracker = e.pre.modelFailureTracker := by
      have hsame := @serveSched_tracker e.pre e.op ans (hes e List.mem_cons_self)
      rwa [hserve] at hsame
    have hafter := ih hrest fun e' he' => hes e' (List.mem_cons_of_mem _ he')
    exact (hbefore.trans (.inl (by rw [htracker]))).trans hafter

/-- What a filter that keeps the value at a key leaves there. -/
theorem get_filter {α β : Type} [DecidableEq α] {p : α × β → Bool} {map : JsMap α β} {k : α} {v : β}
    (h : JsMap.get map k = some v) (hp : p (k, v) = true) :
    JsMap.get (map.filter p : JsMap α β) k = some v := by
  induction map with
  | nil => cases h
  | cons kv map ih =>
    rw [JsMap.get_cons] at h
    by_cases hk : kv.1 = k
    · rw [if_pos hk] at h
      have hkv : kv = (k, v) := Prod.ext hk (Option.some.inj h)
      rw [List.filter_cons_of_pos (by rw [hkv, hp]), JsMap.get_cons, if_pos hk, h]
    · rw [if_neg hk] at h
      by_cases hkv : p kv = true
      · rw [List.filter_cons_of_pos hkv, JsMap.get_cons, if_neg hk, ih h]
      · rw [List.filter_cons_of_neg hkv, ih h]

/-- Pruning keeps what was counted now. -/
theorem pruneStaleModelEntries_get {record : FailureRecord} {now : Time}
    (h : s.modelFailureTracker.get m = some record) (hat : record.lastAt = now) :
    (s.pruneStaleModelEntries now).modelFailureTracker.get m = some record := by
  unfold SchedulerState.pruneStaleModelEntries
  dsimp only
  split_ifs
  · refine get_filter h ?_
    simp [hat]
  · exact h

/-- **One strike**: what `recordModelFailure` leaves counted, and when it puts the model on cooldown. -/
theorem recordModelFailure_get (s : SchedulerState) (m errorType : String) (now : Time) :
    ∃ record, (s.recordModelFailure m errorType now).2.modelFailureTracker.get m = some record ∧
      record.lastErrorType = errorType ∧
      (record.count = 0 ∨ record.count = (s.strike m errorType now).count) ∧
      ((s.recordModelFailure m errorType now).1.isSome = true → 3 ≤ (s.strike m errorType now).count) := by
  unfold SchedulerState.recordModelFailure
  dsimp only
  by_cases hthree : 3 ≤ (s.strike m errorType now).count
  · simp only [ge_iff_le, if_pos hthree]
    refine ⟨{ s.strike m errorType now with count := 0 }, ?_, rfl, .inl rfl, fun _ => hthree⟩
    split_ifs
    · exact pruneStaleModelEntries_get JsMap.get_set_self rfl
    · exact JsMap.get_set_self
  · simp only [ge_iff_le, if_neg hthree]
    refine ⟨s.strike m errorType now, ?_, rfl, .inr rfl, fun h => by cases h⟩
    split_ifs
    · exact pruneStaleModelEntries_get JsMap.get_set_self rfl
    · exact JsMap.get_set_self

/-- What is counted against the model are failures of one type that its finished runs end with. -/
def Struck (m : String) (s : SchedulerState) (outcomes : List RunOutcome) : Prop :=
  ∀ record, s.modelFailureTracker.get m = some record →
    record.count = 0 ∨ record.lastErrorType ≠ "" ∧ record.count ≤ streak record.lastErrorType outcomes

theorem Struck.elsewhere (h : Struck m s outcomes) (hs : Elsewhere m s s') : Struck m s' outcomes :=
  fun record hr => h record (hs.get hr)

/-- One more failure of a type. -/
theorem Struck.strike_le (h : Struck m s outcomes) (errorType : String) (now : Time) :
    (s.strike m errorType now).count ≤ streak errorType (outcomes ++ [.failed errorType]) := by
  rw [streak_append, if_pos rfl]
  unfold SchedulerState.strike
  cases hr : s.modelFailureTracker.get m with
  | none => simp
  | some record =>
    have hstruck := h record hr
    dsimp only [Option.getD_some]
    split_ifs with htype
    · omega
    · rcases hstruck with hzero | ⟨hne, hle⟩
      · omega
      · have hsame : record.lastErrorType = errorType := by
          by_contra hdiff
          exact htype ⟨hne, hdiff⟩
        rw [hsame] at hle
        omega

/-- A finished run counts at most one failure of the model. -/
theorem counts_finishedRun {deps : SchedulerDeps} (h : FinishedRun deps m es) :
    Uncounted es ∨ Counted m es := by
  obtain ⟨entry, resume, es₁, es₂, r, rfl, rfl, hruns, hlater⟩ := h
  have hkinds : ∀ e ∈ es₁, e.op.kind ∈ .endRun :: entryKinds := by
    obtain ⟨bes, e, rfl, hentry, hop⟩ := runs_entryTask hruns
    intro e' he'
    rcases List.mem_append.mp he' with he' | he'
    · exact List.mem_cons_of_mem _ ((only_processEntry deps entry).events hentry e' he')
    · rw [List.mem_singleton.mp he', hop]
      simp
  have hes₂ : Uncounted es₂ := by
    rcases hlater with rfl | ⟨e, he, c, hc, r', hr'⟩
    · exact fun e he => by cases he
    · have hk := hkinds e he
      unfold SchedOp.forks at hc
      split at hc
      · rename_i hop
        rw [hop] at hk
        simp [entryKinds, bodyKinds] at hk
      · obtain rfl := List.mem_singleton.mp hc
        exact uncounted_of_only only_deferredTask (by simp) hr'
      · obtain rfl := List.mem_singleton.mp hc
        exact uncounted_of_only only_guardTask (by simp) hr'
      · cases hc
  rcases counts_entryTask hruns with hu | hc
  · exact .inl (uncounted_append hu hes₂)
  · exact .inr (hc.append_left hes₂)

theorem countedType_eq_none {e : SchedEvent} (h : e.op.kind ≠ .record) : countedType e = none := by
  unfold countedType
  split
  · simp at h
  · rfl

theorem findSome?_countedType (h : Uncounted es) : es.findSome? countedType = none :=
  List.findSome?_eq_none_iff.mpr fun e he => countedType_eq_none (h e he)

theorem kind_of_strikesOut {e : SchedEvent} {t : String} (h : strikesOut e = some t) :
    e.op.kind = .record := by
  unfold strikesOut at h
  split at h
  · rfl
  · cases h

/-- A run that counts nothing. -/
theorem struck_uncounted (hes : Uncounted es) (hne : es ≠ []) (hd : Daemon m s es s')
    (hs : Struck m s outcomes) (hnoted : Noted m es) :
    Struck m s' (outcomes ++ [runOutcome es]) := by
  rcases hnoted with hcounted | hnoted
  · rw [findSome?_countedType hes] at hcounted
    cases hcounted
  cases es with
  | nil => exact absurd rfl hne
  | cons e es =>
    intro record hr
    have hrun : Daemon m e.pre (e :: es) s' := ⟨.refl, hd.2⟩
    have hpre : e.pre.modelFailureTracker.get m = some record :=
      (elsewhere_of_uncounted hrun hes).get hr
    rcases hnoted e rfl record hpre with hzero | htype
    · exact .inl hzero
    · have hstart := (hs.elsewhere hd.1) record hpre
      rw [htype, streak_append, if_pos rfl]
      rcases hstart with hzero | ⟨hne, hle⟩
      · exact .inl hzero
      · exact .inr ⟨hne, by omega⟩

/-- A run that counts a failure. -/
theorem struck_counted (hes : Counted m es) (hd : Daemon m s es s') (hs : Struck m s outcomes) :
    Struck m s' (outcomes ++ [runOutcome es]) ∧
      ∀ e ∈ es, ∀ t, strikesOut e = some t → 3 ≤ streak t (outcomes ++ [runOutcome es]) := by
  obtain ⟨before, after, ⟨op, ans, pre, post⟩, c, now, rfl, hbefore, hafter, hop⟩ := hes
  cases hop
  obtain ⟨u, hd₁, hthere, ⟨answers, hserve⟩, hd₂⟩ := daemon_append.mp hd
  have houtcome : runOutcome (before ++ ⟨.own (.recordModelFailure m c.text now), ans, pre, post⟩ ::
      after) = .failed c.text := by
    rw [runOutcome, List.findSome?_append, findSome?_countedType hbefore]
    rfl
  rw [houtcome]
  -- the counter before and after the strike
  have hpre : Struck m pre outcomes :=
    (hs.elsewhere (elsewhere_of_uncounted hd₁ hbefore)).elsewhere hthere
  have hstrike := hpre.strike_le c.text now
  obtain ⟨record, hget, htype, hcount, hthree⟩ := recordModelFailure_get pre m c.text now
  have hans : (pre.recordModelFailure m c.text now).1 = ans := congrArg Prod.fst hserve
  have hpost : (pre.recordModelFailure m c.text now).2 = post := congrArg Prod.snd hserve
  constructor
  · have hstruck : Struck m post (outcomes ++ [.failed c.text]) := by
      intro record' hr
      rw [← hpost] at hr
      obtain rfl := Option.some.inj (hget.symm.trans hr)
      rcases hcount with hzero | hcount
      · exact .inl hzero
      · refine .inr ⟨?_, ?_⟩
        · rw [htype]
          cases c <;> decide
        · rw [htype, hcount]
          exact hstrike
    exact hstruck.elsewhere (elsewhere_of_uncounted hd₂ hafter)
  · intro e he t ht
    rcases List.mem_append.mp he with he | he
    · exact absurd (kind_of_strikesOut ht) (hbefore e he)
    rcases List.mem_cons.mp he with rfl | he
    · have hsome : ans.isSome = true ∧ t = c.text := by
        unfold strikesOut at ht
        split at ht
        · rename_i heq
          cases heq
          exact ⟨rfl, (Option.some.inj ht).symm⟩
        · cases ht
      rw [hsome.2]
      have hthree' := hthree (by rw [hans, hsome.1])
      omega
    · exact absurd (kind_of_strikesOut ht) (hafter e he)

/-- The runs of a model after some others. -/
theorem streak_of_noted {deps : SchedulerDeps} {runs : List (List SchedEvent)}
    (hruns : ∀ es ∈ runs, FinishedRun deps m es) (hd : Daemon m s runs.flatten s')
    (hs : Struck m s outcomes) (hnoted : ∀ es ∈ runs, Noted m es)
    {before after : List (List SchedEvent)} (hsplit : runs = before ++ es :: after) {e : SchedEvent}
    (he : e ∈ es) {t : String} (ht : strikesOut e = some t) :
    3 ≤ streak t (outcomes ++ (before ++ [es]).map runOutcome) := by
  induction before generalizing runs s outcomes with
  | nil =>
    subst hsplit
    obtain ⟨u, hd₁, -⟩ := daemon_append.mp hd
    rcases counts_finishedRun (hruns es List.mem_cons_self) with hu | hc
    · exact absurd (kind_of_strikesOut ht) (hu e he)
    · exact (struck_counted hc hd₁ hs).2 e he t ht
  | cons first before ih =>
    subst hsplit
    obtain ⟨u, hd₁, hd₂⟩ := daemon_append.mp hd
    have hfirst := hruns first List.mem_cons_self
    have hu : Struck m u (outcomes ++ [runOutcome first]) := by
      rcases counts_finishedRun hfirst with hun | hc
      · refine struck_uncounted hun (fun hnil => ?_) hd₁ hs (hnoted first List.mem_cons_self)
        obtain ⟨entry, resume, es₁, es₂, r, -, hes, hrun, -⟩ := hfirst
        obtain ⟨bes, e, rfl, -⟩ := runs_entryTask hrun
        rw [hnil] at hes
        simp at hes
      · exact (struck_counted hc hd₁ hs).1
    have hnext := ih (fun es' h => hruns es' (List.mem_cons_of_mem _ h)) hd₂ hu
      (fun es' h => hnoted es' (List.mem_cons_of_mem _ h)) rfl
    rwa [List.append_assoc] at hnext

/-- **Three strikes in a row**: in every history of finished runs in which a run that is no counted
failure finds nothing counted, or is a failure of the counted type. -/
theorem threeStrikes_of_noted {deps : SchedulerDeps} {runs : List (List SchedEvent)}
    (hruns : FinishedRuns deps m runs) (hnoted : ∀ es ∈ runs, Noted m es) : ThreeStrikes runs := by
  rintro before es after t hsplit ⟨e, he, ht⟩ -
  obtain ⟨hfin, s, s', hnone, hd⟩ := hruns
  have hs : Struck m s [] := fun record hr => by
    rw [hnone] at hr
    cases hr
  have hstreak := streak_of_noted hfin hd hs hnoted hsplit he ht
  rwa [List.nil_append] at hstreak

end Counter

/-! ## A success in between -/

/-- Answers in which the run is completed, or fails when the result of Stage 3 cannot be saved. -/
def runAnswers (succeeds : Bool) : (o : SchedOp) → SchedAns o :=
  reasoningSaved (if succeeds then .ok () else .error ⟨"socket hang up", none⟩)

/-- One run of the entry: its history and the state of the scheduler afterwards. -/
def oneRun (succeeds : Bool) (s : SchedulerState) :
    List SchedEvent × Except JsError Unit × SchedulerState :=
  (schedBody oneReasoningDeps (.processEntry oneEntry false)).run.drive
    (fun o => serveSched o (runAnswers succeeds)) s

/-- The histories of runs that follow each other. -/
def runHistories : List Bool → SchedulerState → List (List SchedEvent)
  | [], _ => []
  | b :: bs, s => (oneRun b s).1 :: runHistories bs (oneRun b s).2.2

theorem daemon_oneRun (b : Bool) (s : SchedulerState) :
    Daemon oneEntry.modelId s (oneRun b s).1 (oneRun b s).2.2 := by
  have hchain := chain_drive (fun o => serveSched o (runAnswers b))
    (schedBody oneReasoningDeps (.processEntry oneEntry false)).run s
  have hgen : ∀ (es : List SchedEvent) (u v : SchedulerState),
      Chain (fun o w r w' => serveSched o (runAnswers b) w = (r, w')) u es v →
        Daemon oneEntry.modelId u es v := by
    intro es
    induction es with
    | nil => exact fun u v h => h.symm
    | cons e es ih =>
      rintro u v ⟨hpre, hserve, hrest⟩
      exact ⟨.inl (by rw [hpre]), ⟨_, hserve⟩, ih _ _ hrest⟩
  exact hgen _ _ _ hchain

theorem finishedRuns_runHistories (bs : List Bool) :
    FinishedRuns oneReasoningDeps oneEntry.modelId (runHistories bs {}) := by
  have hgen : ∀ (bs : List Bool) (s : SchedulerState),
      (∀ es ∈ runHistories bs s, FinishedRun oneReasoningDeps oneEntry.modelId es) ∧
        ∃ s', Daemon oneEntry.modelId s (runHistories bs s).flatten s' := by
    intro bs
    induction bs with
    | nil => exact fun s => ⟨fun es h => (by cases h), s, rfl⟩
    | cons b bs ih =>
      intro s
      obtain ⟨hfin, s', hd⟩ := ih (oneRun b s).2.2
      refine ⟨fun es hes => ?_, s', daemon_append.mpr ⟨_, daemon_oneRun b s, hd⟩⟩
      rcases List.mem_cons.mp hes with rfl | hes
      · exact ⟨oneEntry, false, (oneRun b s).1, [], (oneRun b s).2.1, rfl, (List.append_nil _).symm,
          runs_drive _ _ _, .inl rfl⟩
      · exact hfin es hes
  obtain ⟨hfin, s', hd⟩ := hgen bs {}
  exact ⟨hfin, {}, s', rfl, hd⟩

/-- Three failures in a row put the model on cooldown. -/
theorem strikes_in_a_row : (∃ es ∈ runHistories [false, false, false] {}, ∃ e ∈ es,
      strikesOut e = some "transient-infra") ∧
    ThreeStrikes (runHistories [false, false, false] {}) := by
  constructor
  · decide +kernel
  · refine threeStrikes_of_noted (finishedRuns_runHistories _) ?_
    have hnoted : ∀ es ∈ runHistories [false, false, false] {},
        (es.findSome? countedType).isSome = true := by decide +kernel
    exact fun es hes => .inl (hnoted es hes)

/-- **A success in between does not reset the count.** -/
theorem success_between : ¬∀ (deps : SchedulerDeps) (m : String) (runs : List (List SchedEvent)),
    FinishedRuns deps m runs → ThreeStrikes runs := by
  intro hall
  have hthree := hall _ _ _ (finishedRuns_runHistories [false, true, false, false])
  have hlast : ∃ e ∈ (oneRun false (oneRun false (oneRun true (oneRun false {}).2.2).2.2).2.2).1,
      strikesOut e = some "transient-infra" := by decide +kernel
  have hretriable : ∃ rule ∈ rules, rule.retriable = true ∧ rule.category.text = "transient-infra" := by
    decide
  have hstreak := hthree (runHistories [false, true, false] {}) _ [] _ rfl hlast hretriable
  have hshort : streak "transient-infra" ((runHistories [false, true, false] {} ++
      [(oneRun false (oneRun false (oneRun true (oneRun false {}).2.2).2.2).2.2).1]).map runOutcome) = 2 := by
    decide +kernel
  rw [hshort] at hstreak
  exact absurd hstreak (by decide)

end Benchmarker
