import Benchmarker.Scheduler.SingleFlight

/-!
# How a call of `processEntry` settles

`poll` starts `processEntry` and chains a `finally` handler to it, but no `catch`. The `try` block
is followed by a `catch` block that writes the terminal status, and that write may throw in turn.

* `rejectedWrite`, `GivesUp`: the last status write of a history is rejected.
* `AcceptsWrites`: a body that returns has not had its last status write rejected; one lemma for
  each part, **`acceptsFrom_entryBody`** for the `try` block.
* **`processEntry_rejects_iff`**: a call rejects exactly when its last status write does.
* `Restored`, **`restored_of_endRun`**: the `finally` handler of `poll` restores the bookkeeping.
* `SettledWell`, **`settledWell_iff`**: when a settled call leaves nothing behind, in every run.
  **`unhandled_rejection`**: a call that rejects.
-/

namespace Benchmarker

open Js Async Async.Prog

section Writes

variable {W α β : Type}

/-- A status write that is rejected. -/
def rejectedWrite : Event SchedAns W → Bool
  | ⟨.queue (.terminal _), .error _, _, _⟩ => true
  | ⟨.queue (.updateStatus _ status _ _), .error _, _, _⟩ => status.terminal
  | _ => false

/-- The last status write of a history. -/
def lastWrite (es : List (Event SchedAns W)) : Option (Event SchedAns W) :=
  (es.filter fun e => e.op.kind = .write).getLast?

/-- The last status write of the history is rejected. -/
def GivesUp (es : List (Event SchedAns W)) : Prop := ∃ e, lastWrite es = some e ∧ rejectedWrite e = true

variable {es fs : List (Event SchedAns W)}

theorem lastWrite_append : lastWrite (es ++ fs) = (lastWrite fs).or (lastWrite es) := by
  rw [lastWrite, List.filter_append, List.getLast?_append]
  rfl

theorem lastWrite_eq_none (h : ∀ e ∈ es, e.op.kind ≠ .write) : lastWrite es = none := by
  have hnil : es.filter (fun e => e.op.kind = .write) = [] :=
    List.filter_eq_nil_iff.mpr fun e he hd => h e he (of_decide_eq_true hd)
  rw [lastWrite, hnil]
  rfl

theorem kind_of_rejectedWrite {e : Event SchedAns W} (h : rejectedWrite e = true) :
    e.op.kind = .write := by
  unfold rejectedWrite at h
  split at h
  · simp
  · simp [h]
  · cases h

/-- Nothing is given up after events without status writes. -/
theorem givesUp_append_left (h : ∀ e ∈ es, e.op.kind ≠ .write) : GivesUp (es ++ fs) ↔ GivesUp fs := by
  rw [GivesUp, GivesUp, lastWrite_append, lastWrite_eq_none h, Option.or_none]

theorem givesUp_append_right (h : ∀ e ∈ fs, e.op.kind ≠ .write) : GivesUp (es ++ fs) ↔ GivesUp es := by
  rw [GivesUp, GivesUp, lastWrite_append, lastWrite_eq_none h, Option.none_or]

/-- A status write in the later part is the last one. -/
theorem givesUp_append_of_write {e : Event SchedAns W} (he : e ∈ fs) (hw : e.op.kind = .write) :
    GivesUp (es ++ fs) ↔ GivesUp fs := by
  obtain ⟨v, hv⟩ : ∃ v, lastWrite fs = some v := by
    refine Option.isSome_iff_exists.mp ?_
    rw [lastWrite, List.getLast?_isSome]
    exact List.ne_nil_of_mem (List.mem_filter.mpr ⟨he, decide_eq_true hw⟩)
  rw [GivesUp, GivesUp, lastWrite_append, hv, Option.some_or]

/-- A history without a rejected write. -/
theorem not_givesUp (h : ∀ e ∈ es, rejectedWrite e = false) : ¬GivesUp es := by
  rintro ⟨e, he, hr⟩
  have hmem := List.mem_of_getLast? he
  rw [h e (List.mem_filter.mp hmem).1] at hr
  cases hr

theorem not_rejected_of_kind (h : ∀ e ∈ es, e.op.kind ≠ .write) : ∀ e ∈ es, rejectedWrite e = false := by
  intro e he
  by_contra hr
  exact h e he (kind_of_rejectedWrite (by simpa using hr))

/-! ## Bodies that return -/

theorem not_givesUp_append (h : ¬GivesUp es) (h' : ¬GivesUp fs) : ¬GivesUp (es ++ fs) := by
  rintro ⟨e, he, hr⟩
  rw [lastWrite_append] at he
  cases hlast : lastWrite fs with
  | some v =>
    rw [hlast, Option.some_or] at he
    exact h' ⟨e, hlast.trans he, hr⟩
  | none =>
    rw [hlast, Option.none_or] at he
    exact h ⟨e, he, hr⟩

/-- A body that returns has not had its last status write rejected. -/
def AcceptsWrites (x : SchedJs α) : Prop :=
  ∀ (W : Type) (es : List (Event SchedAns W)) a, x.run.Runs es (.ok a) → ¬GivesUp es

/-- `AcceptsWrites`, for a body with the variables of `processEntry`. -/
def AcceptsFrom (x : EntryJs α) : Prop :=
  ∀ (W : Type) (es : List (Event SchedAns W)) s s' a, RunsFrom x s es (.ok a) s' → ¬GivesUp es

theorem accepts_bind {x : SchedJs α} {f : α → SchedJs β} (hx : AcceptsWrites x)
    (hf : ∀ a, AcceptsWrites (f a)) : AcceptsWrites (x >>= f) := by
  intro W es b h
  obtain ⟨es₁, es₂, a, rfl, h₁, h₂⟩ := runs_ok_bind.mp h
  exact not_givesUp_append (hx W es₁ a h₁) (hf a W es₂ b h₂)

theorem accepts_of_only {ks : List OpKind} {x : SchedJs α} (h : Only ks x) (hks : .write ∉ ks) :
    AcceptsWrites x :=
  fun _ _ _ hr => not_givesUp (not_rejected_of_kind (kind_ne_of_only h hks hr))

theorem accepts_queueCall (c : QueueCall) : AcceptsWrites (queueCall c) := by
  intro W es a h
  obtain ⟨pre, post, rfl⟩ := runs_queueCall.mp h
  refine not_givesUp fun e he => ?_
  rw [List.mem_singleton.mp he]
  unfold rejectedWrite
  split
  · rename_i heq
    cases heq
  · rename_i heq
    cases heq
  · rfl

theorem accepts_writeTerminal {id : ℕ} {status : Status} {errorMessage leaseToken : Option String} :
    AcceptsWrites (writeTerminal id status errorMessage leaseToken) := by
  unfold writeTerminal
  split
  · exact accepts_queueCall _
  · refine accepts_bind (accepts_queueCall _) fun result => ?_
    exact accepts_of_only (show Only [] (pure _) from uses_throws_pure _) (by simp)

/-- **A terminal write is one request**, and throws when that is rejected. -/
theorem runs_writeTerminal_one {id : ℕ} {status : Status} {errorMessage leaseToken : Option String}
    (hs : status.terminal = true) {r : Except JsError Bool}
    (h : (writeTerminal id status errorMessage leaseToken).run.Runs es r) :
    ∃ e, es = [e] ∧ e.op.kind = .write ∧ ((∃ err, r = .error err) ↔ rejectedWrite e = true) := by
  unfold writeTerminal at h
  split at h
  · obtain ⟨pre, post, rfl⟩ := runs_queueCall.mp h
    refine ⟨_, rfl, by simp [hs], ?_⟩
    cases r with
    | ok a => simp [rejectedWrite]
    | error err => simp [rejectedWrite, hs]
  · rcases runs_throws_bind.mp h with ⟨es₁, es₂, a, rfl, h₁, h₂⟩ | ⟨e, h₁, rfl⟩
    · obtain ⟨pre, post, rfl⟩ := runs_queueCall.mp h₁
      obtain ⟨rfl, rfl⟩ := runs_throws_pure.mp h₂
      exact ⟨_, rfl, by simp, by simp [rejectedWrite]⟩
    · obtain ⟨pre, post, rfl⟩ := runs_queueCall.mp h₁
      exact ⟨_, rfl, by simp, by simp [rejectedWrite]⟩

variable (deps : SchedulerDeps) (entry : QueueEntry)

/-- What `failEntry` does after its terminal write. -/
def failAfter (message : String) (applied : Bool) : SchedJs Unit := do
  if !applied then return ()
  else
    recordModelFailure entry.modelId (classifyFailure message).category.text
    if !(classifyFailure message).retriable then
      quarantine entry.modelId (classifyFailure message).category
    if willRetry deps entry message then
      let _ ← attempt (queueCall (retryCall entry (classifyFailure message).category))
    return ()

theorem failEntry_eq (message : String) (leaseToken : Option String) :
    failEntry deps entry message leaseToken =
      writeTerminal entry.id .failed (some (statusMessage deps entry message)) leaseToken >>=
        failAfter deps entry message := rfl

/-- The body does not throw. -/
abbrev Settles (x : SchedJs α) : Prop := ∀ W, ThrowsOn (W := W) (fun _ => false) x

theorem settles_clock : Settles clock := fun _ => throwsOn_lift fun _ _ _ _ _ => rfl

theorem settles_own (a : OwnOp) : Settles (own a) := fun _ => throwsOn_lift fun _ _ _ _ _ => rfl

theorem settles_attempt (x : SchedJs α) : Settles (attempt x) := fun _ =>
  throwsOn_attempt fun _ _ _ _ _ => rfl

theorem settles_extFire (x : ExtOp) : Settles (extFire x) := fun W =>
  throwsOn_bind (settles_attempt _ W) fun _ => throwsOn_pure _

variable {deps : SchedulerDeps} {entry : QueueEntry} {resume : Bool} {leaseToken : Option String}

theorem settles_isModelCooldown {modelId : String} : Settles (isModelCooldown modelId) := by
  intro W
  refine throwsOn_bind (settles_clock W) fun now => throwsOn_bind (settles_own _ W) fun p => ?_
  obtain ⟨active, expired⟩ := p
  cases expired with
  | false => exact throwsOn_pure _
  | true => exact throwsOn_bind (settles_extFire _ W) fun _ => throwsOn_pure _

theorem settles_recordModelFailure {modelId errorType : String} :
    Settles (recordModelFailure modelId errorType) := by
  intro W
  refine throwsOn_bind (settles_clock W) fun now => throwsOn_bind (settles_own _ W) fun r => ?_
  cases r with
  | none => exact throwsOn_pure _
  | some p => exact settles_extFire _ W

theorem settles_quarantine {modelId : String} {category : FailureCategory} :
    Settles (quarantine modelId category) := by
  intro W
  refine throwsOn_bind (settles_isModelCooldown W) fun active => ?_
  refine throwsOn_ite (throwsOn_pure _) (throwsOn_bind (settles_clock W) fun now => ?_)
  exact throwsOn_bind (settles_own _ W) fun _ => settles_extFire _ W

/-- After its terminal write `failEntry` does not throw. -/
theorem settles_failAfter {message : String} {applied : Bool} :
    Settles (failAfter deps entry message applied) := by
  intro W
  refine throwsOn_ite (throwsOn_pure _) (throwsOn_bind (settles_recordModelFailure W) fun _ => ?_)
  have hretry : ThrowsOn (W := W) (fun _ => false) (if willRetry deps entry message = true then do
      let _ ← attempt (queueCall (retryCall entry (classifyFailure message).category))
      return ()
    else return () : SchedJs Unit) :=
    throwsOn_ite (throwsOn_bind (settles_attempt _ W) fun _ => throwsOn_pure _) (throwsOn_pure _)
  exact throwsOn_ite (throwsOn_bind (settles_quarantine W) fun _ => hretry) hretry

theorem only_failAfter {message : String} {applied : Bool} :
    Only [.plain, .record, .cooldown, .enqueue] (failAfter deps entry message applied) := by
  refine uses_ite (uses_throws_pure _)
    (uses_throws_bind (only_recordModelFailure.mono (by simp)) fun _ => ?_)
  have hretry : Only [.plain, .record, .cooldown, .enqueue] (if willRetry deps entry message = true then do
      let _ ← attempt (queueCall (retryCall entry (classifyFailure message).category))
      return ()
    else return () : SchedJs Unit) :=
    uses_ite (only_dropped (only_queueCall (by simp [retryCall]))) (uses_throws_pure _)
  exact uses_ite (uses_throws_bind (only_quarantine.mono (by simp)) fun _ => hretry) hretry

/-- **`failEntry` writes the status first**, and throws when that write is rejected. -/
theorem runs_failEntry {message : String} {r : Except JsError Unit}
    (h : (failEntry deps entry message leaseToken).run.Runs es r) :
    ∃ e fs, es = e :: fs ∧ e.op.kind = .write ∧ (∀ f ∈ fs, f.op.kind ≠ .write) ∧
      ((∃ err, r = .error err) ↔ rejectedWrite e = true) := by
  rw [failEntry_eq] at h
  rcases runs_throws_bind.mp h with ⟨es₁, es₂, applied, rfl, h₁, h₂⟩ | ⟨err, h₁, rfl⟩
  · obtain ⟨e, rfl, hw, hthrow⟩ := runs_writeTerminal_one rfl h₁
    refine ⟨e, es₂, rfl, hw, kind_ne_of_only only_failAfter (by simp) h₂, ?_⟩
    have hr : ¬∃ err, r = .error err := fun hr => by
      obtain ⟨v, -, hv⟩ := (settles_failAfter W es₂ r h₂).mp hr
      cases hv
    rw [← hthrow]
    exact iff_of_false hr fun ⟨_, he⟩ => nomatch he
  · obtain ⟨e, rfl, hw, hthrow⟩ := runs_writeTerminal_one rfl h₁
    exact ⟨e, [], rfl, hw, by simp, iff_of_true ⟨err, rfl⟩ (hthrow.mp ⟨err, rfl⟩)⟩

/-- A history whose one status write comes first. -/
theorem givesUp_cons {e : Event SchedAns W} (hw : e.op.kind = .write)
    (hfs : ∀ f ∈ fs, f.op.kind ≠ .write) : GivesUp (e :: fs) ↔ rejectedWrite e = true := by
  have hlast : lastWrite [e] = some e := by
    rw [lastWrite, List.filter_singleton, decide_eq_true hw]
    rfl
  rw [show e :: fs = [e] ++ fs from rfl, givesUp_append_right hfs, GivesUp, hlast]
  simp

theorem failEntry_throws_iff {message : String} {r : Except JsError Unit}
    (h : (failEntry deps entry message leaseToken).run.Runs es r) :
    (∃ err, r = .error err) ↔ GivesUp es := by
  obtain ⟨e, fs, rfl, hw, hfs, hthrow⟩ := runs_failEntry h
  rw [hthrow, givesUp_cons hw hfs]

theorem accepts_failEntry {message : String} : AcceptsWrites (failEntry deps entry message leaseToken) :=
  fun _ _ _ h hgive => nomatch (failEntry_throws_iff h).mpr hgive

theorem accepts_finalizePipeline {run : PipelineRun} {id : ℕ} :
    AcceptsWrites (finalizePipeline deps run id leaseToken) := by
  refine accepts_bind (accepts_of_only (only_finalizeBefore deps _) (by simp)) fun p => ?_
  refine accepts_bind accepts_writeTerminal fun _ => ?_
  exact accepts_of_only (only_finalizeAfter deps _) (by simp)

/-! ## The `try` block -/

theorem acceptsFrom_bind {x : EntryJs α} {f : α → EntryJs β} (hx : AcceptsFrom x)
    (hf : ∀ a, AcceptsFrom (f a)) : AcceptsFrom (x >>= f) := by
  intro W es s s' b h
  rcases runsFrom_bind.mp h with ⟨es₁, es₂, a, t, rfl, h₁, h₂⟩ | ⟨e, -, he⟩
  · exact not_givesUp_append (hx W es₁ s t a h₁) (hf a W es₂ t s' b h₂)
  · cases he

theorem acceptsFrom_step {x : SchedJs α} (hx : AcceptsWrites x) : AcceptsFrom (step x) :=
  fun W es _ _ a h => hx W es a (runsFrom_step.mp h).1

theorem acceptsFrom_of_only {ks : List OpKind} {x : EntryJs α} (h : OnlyFrom ks x)
    (hks : .write ∉ ks) : AcceptsFrom x :=
  fun _ _ _ _ _ hr => not_givesUp (not_rejected_of_kind (kind_ne_of_onlyFrom h hks hr))

theorem acceptsFrom_pure (a : α) : AcceptsFrom (pure a : EntryJs α) :=
  acceptsFrom_of_only (usesFrom_pure a : OnlyFrom [] _) (by simp)

theorem acceptsFrom_ite {p : Prop} [Decidable p] {x y : EntryJs α} (hx : AcceptsFrom x)
    (hy : AcceptsFrom y) : AcceptsFrom (if p then x else y) := by
  split_ifs
  · exact hx
  · exact hy

theorem acceptsFrom_theRun : AcceptsFrom theRun :=
  acceptsFrom_of_only (onlyFrom_theRun : OnlyFrom [] _) (by simp)

theorem acceptsFrom_modifyRun {g : PipelineRun → PipelineRun} : AcceptsFrom (modifyRun g) :=
  acceptsFrom_of_only (onlyFrom_modifyRun : OnlyFrom [] _) (by simp)

theorem acceptsFrom_extCall {x : ExtOp} (h : (SchedOp.ext x).kind ≠ .write) : AcceptsFrom (step (extCall x)) :=
  acceptsFrom_step (accepts_of_only (only_extCall (by simp) : Only [(SchedOp.ext x).kind] _)
    (by simpa using h.symm))

theorem acceptsFrom_failEntry {message : String} (a : α) : AcceptsFrom (do
    step (failEntry deps entry message leaseToken)
    return a) :=
  acceptsFrom_bind (acceptsFrom_step accepts_failEntry) fun _ => acceptsFrom_pure a

theorem acceptsFrom_localGatePhase : AcceptsFrom (localGatePhase deps entry resume leaseToken) := by
  refine acceptsFrom_ite ?_ (acceptsFrom_pure _)
  refine acceptsFrom_bind (acceptsFrom_of_only (onlyFrom_localSkipPhase deps entry) (by simp)) fun _ => ?_
  refine acceptsFrom_bind acceptsFrom_theRun fun run => ?_
  refine acceptsFrom_bind (acceptsFrom_extCall (by simp)) fun result => ?_
  refine acceptsFrom_bind acceptsFrom_modifyRun fun _ => ?_
  refine acceptsFrom_bind (acceptsFrom_extCall (by simp)) fun _ => ?_
  exact acceptsFrom_ite (acceptsFrom_failEntry _) (acceptsFrom_pure _)

theorem acceptsFrom_ciEvalPhase {passed : Bool} {resolved : Option PublicEndpointResult} :
    AcceptsFrom (ciEvalPhase deps entry resume leaseToken passed resolved) := by
  refine acceptsFrom_bind acceptsFrom_theRun fun run => ?_
  split
  · exact acceptsFrom_pure _
  refine acceptsFrom_bind (acceptsFrom_step (accepts_of_only only_resumeSkipSet (by simp))) fun skip => ?_
  refine acceptsFrom_bind (acceptsFrom_of_only (usesFrom_get : OnlyFrom [] _) (by simp)) fun vars => ?_
  refine acceptsFrom_bind (acceptsFrom_step (accepts_of_only (only_runCIEvals deps run) (by simp)))
    fun outcome => ?_
  split
  · exact acceptsFrom_failEntry _
  · exact acceptsFrom_of_only
      (usesFrom_bind (usesFrom_modify _) fun _ => usesFrom_pure _ : OnlyFrom [] _) (by simp)
  · exact acceptsFrom_pure _
  · refine acceptsFrom_bind acceptsFrom_modifyRun fun _ => ?_
    exact acceptsFrom_bind (acceptsFrom_extCall (by simp)) fun _ => acceptsFrom_pure _

theorem acceptsFrom_afterStage1 : AcceptsFrom (afterStage1 deps entry resume leaseToken) := by
  refine acceptsFrom_bind (acceptsFrom_of_only (onlyFrom_tunnelPhase deps) (by simp)) fun resolved => ?_
  refine acceptsFrom_bind acceptsFrom_localGatePhase fun gate => ?_
  split
  · exact acceptsFrom_pure _
  refine acceptsFrom_bind acceptsFrom_ciEvalPhase fun r => ?_
  split
  · exact acceptsFrom_bind acceptsFrom_theRun fun run => acceptsFrom_step accepts_finalizePipeline
  · exact acceptsFrom_pure _

theorem acceptsFrom_stage1Outcome {result : Stage1Result} :
    AcceptsFrom (stage1Outcome deps entry leaseToken result) := by
  refine acceptsFrom_bind acceptsFrom_modifyRun fun _ => acceptsFrom_ite (acceptsFrom_pure _) ?_
  refine acceptsFrom_bind (acceptsFrom_step (accepts_of_only (only_dropTunnel deps) (by simp))) fun _ => ?_
  exact acceptsFrom_failEntry _

/-- The outcome of a Stage 1 that has thrown writes the status. -/
theorem write_of_thrown {result : Stage1Result} {message : String} (hres : result.Thrown message)
    {s s' : EntryVars} {a : Bool}
    (h : RunsFrom (stage1Outcome deps entry leaseToken result) s es (.ok a) s') :
    ∃ e ∈ es, e.op.kind = .write := by
  unfold stage1Outcome at h
  have hstop : ¬(result.status = .success ∨ (result.stage2Eligible = some true ∧ deps.stage2Worker)) := by
    simp [hres.status, hres.stage2Eligible]
  rw [runsFrom_modifyRun_bind, if_neg hstop] at h
  rcases runsFrom_step_bind.mp h with ⟨es₁, es₂, _, rfl, -, h₁⟩ | ⟨e, -, -, he⟩
  swap; · cases he
  rcases runsFrom_step_bind.mp h₁ with ⟨es₃, es₄, _, rfl, h₂, -⟩ | ⟨e, -, -, he⟩
  swap; · cases he
  obtain ⟨e, fs, rfl, hw, -, -⟩ := runs_failEntry h₂
  exact ⟨e, by simp, hw⟩

/-- Stage 1 drops the outcome of its own status write, but then the scheduler writes the status too. -/
theorem acceptsFrom_stage1Phase {skipped : Bool} :
    AcceptsFrom (stage1Phase deps entry leaseToken skipped) := by
  refine acceptsFrom_ite (acceptsFrom_pure _) ?_
  refine acceptsFrom_bind (acceptsFrom_step (accepts_queueCall _)) fun _ => ?_
  refine acceptsFrom_bind acceptsFrom_theRun fun run => ?_
  intro W es s s' a h
  rcases runsFrom_step_bind.mp h with ⟨es₁, es₂, result, rfl, h₁, h₂⟩ | ⟨e, -, -, he⟩
  swap; · cases he
  have houtcome := acceptsFrom_stage1Outcome W es₂ s s' a h₂
  obtain ⟨ts, bes, cs, fs, startTime, startedAt, o, result', rfl, htf, hbody, he, hcases⟩ :=
    runs_execute h₁
  obtain rfl := Except.ok.inj he
  rcases hcases with ⟨result₀, now, rfl, rfl, -⟩ | ⟨err, c, rfl, -, hthrown⟩
  · -- nothing but the body of Stage 1, which writes no terminal status
    have hstage1 : Only [.plain, .deploy, .measure] (stage1Body deps run startTime startedAt) :=
      uses_throws_bind ((only_stage1Prepare deps run).mono (by simp)) fun p =>
        (only_stage1Measure deps run).mono (by simp)
    refine not_givesUp_append (not_givesUp (not_rejected_of_kind fun e he => ?_)) houtcome
    simp only [List.nil_append, List.mem_append] at he htf
    rcases he with he | he | he
    · rw [htf e (.inl he)]
      simp
    · exact kind_ne_of_only hstage1 (by simp) hbody e he
    · rw [htf e (.inr he)]
      simp
  · obtain ⟨e, he, hw⟩ := write_of_thrown hthrown h₂
    rw [givesUp_append_of_write he hw]
    exact houtcome

theorem acceptsFrom_entryBody : AcceptsFrom (entryBody deps entry resume leaseToken) := by
  refine acceptsFrom_bind acceptsFrom_modifyRun fun _ => ?_
  refine acceptsFrom_bind (acceptsFrom_of_only (onlyFrom_skipPhase entry) (by simp)) fun skipped => ?_
  refine acceptsFrom_bind (acceptsFrom_step (accepts_of_only (only_startTunnel deps) (by simp))) fun _ => ?_
  refine acceptsFrom_bind acceptsFrom_stage1Phase fun goesOn => ?_
  exact acceptsFrom_ite acceptsFrom_afterStage1 (acceptsFrom_pure _)

/-! ## The entry -/

theorem entryTry_throws_iff {run : PipelineRun} {r : Except JsError Unit}
    (h : (entryTry deps entry resume leaseToken run).run.Runs es r) :
    (∃ err, r = .error err) ↔ GivesUp es := by
  obtain ⟨bes, cs, fs, outcome, vars, rfl, hbody, hcatch, hfinally⟩ := runs_entryTry h
  have hfs := kind_ne_of_only (@only_entryFinally vars) (by simp) hfinally (k := .write)
  rw [← List.append_assoc, givesUp_append_right hfs]
  cases outcome with
  | ok a =>
    obtain ⟨rfl, rfl⟩ := runs_throws_pure.mp hcatch
    rw [List.append_nil]
    exact iff_of_false (fun ⟨_, he⟩ => nomatch he) (acceptsFrom_entryBody W bes _ vars a hbody)
  | error err =>
    have hfail : (failEntry deps entry err.message leaseToken).run.Runs cs r := hcatch
    obtain ⟨e, gs, hcs, hw, -, -⟩ := runs_failEntry hfail
    rw [givesUp_append_of_write (by rw [hcs]; simp) hw]
    exact failEntry_throws_iff hfail

/-- **A call of `processEntry` rejects exactly when its last status write is rejected.** -/
theorem processEntry_rejects_iff {r : Except JsError Unit}
    (h : (processEntry deps entry resume).run.Runs es r) : (∃ err, r = .error err) ↔ GivesUp es := by
  obtain ⟨ps, ts, leaseToken, rfl, hps, -, hcases⟩ := runs_processEntry_cases h
  have hplain : ∀ e ∈ ps, e.op.kind ≠ .write := fun e he => by rw [hps e he]; decide
  rw [givesUp_append_left hplain]
  rcases hcases with ⟨message, hfail⟩ | hcancel | ⟨run, -, -, htry⟩
  · exact failEntry_throws_iff hfail
  · -- the cancellation of a model on cooldown is one status write
    have hw : (SchedOp.queue (.updateStatus entry.id .cancelled none none)).kind = .write := rfl
    rcases runs_throws_bind.mp hcancel with ⟨es₁, es₂, _, rfl, h₁, h₂⟩ | ⟨err, h₁, rfl⟩
    · obtain ⟨pre, post, rfl⟩ := runs_queueCall.mp h₁
      obtain ⟨rfl, rfl⟩ := runs_throws_pure.mp h₂
      rw [List.append_nil, givesUp_cons hw (by simp)]
      simp [rejectedWrite]
    · obtain ⟨pre, post, rfl⟩ := runs_queueCall.mp h₁
      rw [givesUp_cons hw (by simp)]
      exact iff_of_true ⟨err, rfl⟩ rfl
  · exact entryTry_throws_iff htry

end Writes

/-! ## Settled calls -/

/-- The bookkeeping that a `finally` handler does for the entry `id`: one run less, the entry is not
in process, and its lease is gone unless a deferred poll holds the entry. -/
structure Restored (id : ℕ) (w w' : SchedulerState) : Prop where
  activeRuns : w'.activeRuns + 1 = w.activeRuns
  inProcess : id ∉ w'.entryInProcess
  released : id ∉ w'.deferredCleanups → w'.entryLeases.get id = none
  kept : id ∈ w'.deferredCleanups → w'.entryLeases.get id = w.entryLeases.get id

/-- The call has returned, and its last event has restored the bookkeeping. -/
structure SettledWell (entry : QueueEntry) (th : SchedThread) : Prop where
  resolves : th.now = .ret (.ok ())
  restored : ∃ bes e, th.past = bes ++ [e] ∧ e.op = .own (.endRun entry.id) ∧
    Restored entry.id e.pre e.post

section Settled

variable {deps : SchedulerDeps} {cfg : SchedCfg} {entry : QueueEntry} {resume : Bool} {th : SchedThread}

/-- **The `finally` handler restores the bookkeeping**, however the call has ended. -/
theorem restored_of_endRun (h : (schedSystem deps).Reachable {} cfg) (hth : th ∈ cfg.threads)
    (hcall : th.call = .processEntry entry resume) {e : SchedEvent} (he : e ∈ th.past)
    (hop : e.op = .own (.endRun entry.id)) : Restored entry.id e.pre e.post := by
  obtain ⟨cfg₀, past, k, hreach, hworld, hmem⟩ := h.awaited th hth e he
  obtain ⟨ans, hserve⟩ := h.served th hth e he
  -- the call that is about to settle is still counted
  have hpos : 0 < e.pre.activeRuns := by
    rw [← hworld, activeRuns_eq hreach]
    refine List.countP_pos_iff.mpr ⟨_, hmem, ?_⟩
    rw [executing, hcall]
    rfl
  obtain ⟨op, answer, pre, post⟩ := e
  obtain rfl : op = .own (.endRun entry.id) := hop
  obtain rfl : (serveSched (.own (.endRun entry.id)) ans pre).2 = post :=
    (Prod.mk.inj (Option.some.inj hserve)).2
  refine ⟨Nat.sub_add_cancel hpos, by simp [serveSched, OwnOp.apply], fun hout => ?_, fun hin => ?_⟩
  · have hpre : entry.id ∉ pre.deferredCleanups := hout
    show (if entry.id ∈ pre.deferredCleanups then _ else _ : JsMap ℕ String).get entry.id = none
    rw [if_neg hpre, JsMap.get_delete, if_pos rfl]
  · have hpre : entry.id ∈ pre.deferredCleanups := hin
    show (if entry.id ∈ pre.deferredCleanups then _ else _ : JsMap ℕ String).get entry.id = _
    rw [if_pos hpre]

/-- **A settled call has settled well exactly when its last status write was not rejected.** -/
theorem settledWell_iff (h : (schedSystem deps).Reachable {} cfg) (hth : th ∈ cfg.threads)
    (hcall : th.call = .processEntry entry resume) (hsettled : th.pending = none) :
    SettledWell entry th ↔ ¬GivesUp th.past := by
  have hafter := h.after th hth
  have hrestored := fun e => @restored_of_endRun deps cfg entry resume th h hth hcall e
  obtain ⟨c, past, p⟩ := th
  obtain rfl : c = .processEntry entry resume := hcall
  cases p with
  | await o k => cases hsettled
  | ret r =>
    obtain ⟨bes, e, rfl, hentry, hop⟩ := runs_entryTask hafter
    have hend : ∀ f ∈ [e], f.op.kind ≠ .write := fun f hf => by
      rw [List.mem_singleton.mp hf, hop]
      simp
    have hbook := hrestored e (List.mem_append_right _ (List.mem_singleton_self e)) hop
    show SettledWell entry ⟨_, bes ++ [e], .ret r⟩ ↔ ¬GivesUp (bes ++ [e])
    rw [givesUp_append_right hend, ← processEntry_rejects_iff hentry]
    constructor
    · rintro ⟨hres, -⟩ ⟨err, rfl⟩
      cases hres
    · intro hno
      refine ⟨?_, bes, e, rfl, hop, hbook⟩
      cases r with
      | ok a => rfl
      | error err => exact absurd ⟨err, rfl⟩ hno

/-- A poll adopts the entry in flight; the answers of `env` then reach its call of `processEntry`. -/
def oneCall (env : ∀ o, SchedAns o) (n : ℕ) : List (Move SchedCall (∀ o, SchedAns o) Empty) :=
  [.invoke .start] ++ List.replicate 7 (.serve 0 networkDown) ++ [.invoke .poll] ++
    List.replicate 10 (.serve 1 entryInFlight) ++ List.replicate n (.serve 2 env)

/-- The thread is the call that `oneCall` starts, and what it has returned passes the test. -/
def oneCallEnds (test : Except JsError Unit → Bool) (th : SchedThread) : Bool :=
  match th.call, th.now with
  | .processEntry entry true, .ret r => entry = oneEntry && test r
  | _, _ => false

/-- The settled call of a run of `oneCall`. -/
theorem exists_of_oneCall {env : ∀ o, SchedAns o} {n : ℕ} {test : Except JsError Unit → Bool}
    (h : ((schedSystem oneSuiteDeps).run (fun _ _ => true) (oneCall env n) ⟨{}, []⟩).any
      (fun cfg => cfg.threads.any (oneCallEnds test)) = true) : ∃ (cfg : SchedCfg) (th : SchedThread),
    (schedSystem oneSuiteDeps).Reachable {} cfg ∧ th ∈ cfg.threads ∧
      th.call = .processEntry oneEntry true ∧ ∃ r, th.now = .ret r ∧ test r = true := by
  obtain ⟨cfg, hcfg, hany⟩ := (Option.any_eq_true _ _).mp h
  obtain ⟨⟨c, past, p⟩, hth, hends⟩ := List.any_eq_true.mp hany
  have hreach := System.reachable_of_run hcfg
  unfold oneCallEnds at hends
  split at hends
  · rename_i entry r hc hnow
    obtain ⟨he, htest⟩ := Bool.and_eq_true_iff.mp hends
    obtain rfl := of_decide_eq_true he
    exact ⟨cfg, _, hreach, hth, hc, r, hnow, htest⟩
  · cases hends

/-- **A call that rejects**: the network goes down after the adoption, the `try` block throws, and so
does the status write of its `catch` block. Nothing handles the rejection. -/
theorem unhandled_rejection : ∃ (cfg : SchedCfg) (th : SchedThread),
    (schedSystem oneSuiteDeps).Reachable {} cfg ∧ th ∈ cfg.threads ∧
      th.call = .processEntry oneEntry true ∧ (∃ err, th.now = .ret (.error err)) ∧
      ¬SettledWell oneEntry th := by
  have hrun : ((schedSystem oneSuiteDeps).run (fun _ _ => true) (oneCall networkDown 8) ⟨{}, []⟩).any
      (fun cfg => cfg.threads.any (oneCallEnds fun r => !r.isOk)) = true := by decide +kernel
  obtain ⟨cfg, th, hreach, hth, hcall, r, hnow, htest⟩ := exists_of_oneCall hrun
  cases r with
  | ok a => cases htest
  | error err =>
    refine ⟨cfg, th, hreach, hth, hcall, ⟨err, hnow⟩, fun hwell => ?_⟩
    have hres := hwell.resolves
    rw [hnow] at hres
    cases hres

/-- The store stays up, and the call settles well. -/
theorem storeUp_settles : ∃ (cfg : SchedCfg) (th : SchedThread),
    (schedSystem oneSuiteDeps).Reachable {} cfg ∧ th ∈ cfg.threads ∧
      th.call = .processEntry oneEntry true ∧ th.now = .ret (.ok ()) ∧
      (SettledWell oneEntry th ↔ ¬GivesUp th.past) := by
  have hrun : ((schedSystem oneSuiteDeps).run (fun _ _ => true) (oneCall storeUp 11) ⟨{}, []⟩).any
      (fun cfg => cfg.threads.any (oneCallEnds fun r => r.isOk)) = true := by decide +kernel
  obtain ⟨cfg, th, hreach, hth, hcall, r, hnow, htest⟩ := exists_of_oneCall hrun
  have hsettled : th.pending = none := by
    rw [Thread.pending, hnow]
  cases r with
  | ok a => exact ⟨cfg, th, hreach, hth, hcall, hnow, settledWell_iff hreach hth hcall hsettled⟩
  | error err => cases htest

end Settled

end Benchmarker
