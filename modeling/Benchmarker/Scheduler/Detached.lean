import Benchmarker.Scheduler.Kinds

/-!
# The detached poll

The promise chain of a detached Buildkite poll: the poll, the handler that finalizes the run, the
`catch` handler and the release of the infrastructure. A `return` in the `catch` handler does not
stop the chain, so a transient network error leads on to the release like every other outcome; and
a throw in the `catch` handler skips the release and rejects the promise that `stop` awaits.

* `writes`, `teardown`, `releaseOps`: the terminal writes and the releases of a history.
* `runs_writeTerminal`, `runs_finalizePipeline`, `runs_releaseInfrastructure`.
* `ChainContract`: what the chain should do. **`transient_tornDown`**: a run that does not.
* `Orderly`, **`detachedPoll_contract`**: exactly when it does.
-/

namespace Benchmarker

open Js Async Async.Prog

/-- A request of the scheduler and its answer. -/
abbrev SchedEvent : Type := Event SchedAns SchedulerState

/-- The history of a body when every request `o` is answered by `env o`. -/
def history {α : Type} (env : ∀ o, SchedAns o) (x : SchedJs α) : List SchedEvent :=
  x.run.trace env {}

theorem runs_history {α : Type} (env : ∀ o, SchedAns o) {x : SchedJs α} {r : Except JsError α}
    (h : x.run.eval env = r) : x.run.Runs (history env x) r := 
  h ▸ runs_trace env ({} : SchedulerState) x.run

section Counts

variable {W : Type}

/-- The terminal writes of the entry `id` in a history. -/
def writes (id : ℕ) (es : List (Event SchedAns W)) : ℕ :=
  es.countP fun e => e.op.terminalWrite == some id

/-- A request that releases a deployment, a public endpoint or a guard. -/
def SchedOp.releases (o : SchedOp) : Bool := o.kind == .stop || o.kind == .cleanup

/-- The releases of a history. -/
def teardown (es : List (Event SchedAns W)) : List SchedOp :=
  (es.map (·.op)).filter SchedOp.releases

variable {id : ℕ} {es fs : List (Event SchedAns W)}

@[simp] theorem writes_append : writes id (es ++ fs) = writes id es + writes id fs :=
  List.countP_append

@[simp] theorem writes_nil : writes id ([] : List (Event SchedAns W)) = 0 := rfl

@[simp] theorem teardown_append : teardown (es ++ fs) = teardown es ++ teardown fs := by
  simp [teardown]

@[simp] theorem teardown_nil : teardown ([] : List (Event SchedAns W)) = [] := rfl

variable (id) in
theorem writes_eq_zero {α : Type} {ks : List OpKind} {x : SchedJs α} {r : Except JsError α}
    (h : Only ks x) (hks : .write ∉ ks) (hr : x.run.Runs es r) : writes id es = 0 := by
  refine List.countP_eq_zero.mpr fun e he hw => hks ?_
  have hk := h.events hr e he
  rwa [SchedOp.kind_of_terminalWrite (beq_iff_eq.mp hw)] at hk

theorem teardown_eq_nil {α : Type} {ks : List OpKind} {x : SchedJs α} {r : Except JsError α}
    (h : Only ks x) (hstop : .stop ∉ ks) (hclean : .cleanup ∉ ks) (hr : x.run.Runs es r) :
    teardown es = [] := by
  refine filter_events_eq_nil (Uses.mono h fun o ho => ?_) hr
  simp only [SchedOp.releases, Bool.or_eq_false_iff, beq_eq_false_iff_ne]
  exact ⟨fun hk => hstop (hk ▸ ho), fun hk => hclean (hk ▸ ho)⟩

/-! ## Histories of the steps -/

theorem runs_queueCall {c : QueueCall} {r : QueueRet c} : (queueCall c).run.Runs es r ↔
    ∃ pre post, es = [⟨.queue c, r, pre, post⟩] := runs_request

theorem runs_extCall {x : ExtOp} {r : Except JsError (ExtVal x)} : (extCall x).run.Runs es r ↔
    ∃ pre post, es = [⟨.ext x, r, pre, post⟩] := runs_request

/-- A body whose outcome is dropped returns after any of its histories. -/
theorem runs_dropped {α : Type} {x : SchedJs α} {r : Except JsError Unit}
    (h : (do let _ ← attempt x; return () : SchedJs Unit).run.Runs es r) :
    r = .ok () ∧ ∃ a, x.run.Runs es a := by
  rcases runs_throws_bind.mp h with ⟨es₁, es₂, a, rfl, h₁, h₂⟩ | ⟨e, h₁, -⟩
  · obtain ⟨rfl, rfl⟩ := runs_throws_pure.mp h₂
    exact ⟨rfl, a, by rw [List.append_nil]; exact runs_attempt.mp h₁⟩
  · obtain ⟨a, -, he⟩ := runs_lift.mp h₁
    cases he

/-- **One terminal write**, whatever it reports. -/
theorem runs_writeTerminal {status : Status} {errorMessage leaseToken : Option String}
    (hs : status.terminal = true) {r : Except JsError Bool}
    (h : (writeTerminal id status errorMessage leaseToken).run.Runs es r) : writes id es = 1 := by
  unfold writeTerminal at h
  split at h
  · obtain ⟨pre, post, rfl⟩ := runs_queueCall.mp h
    simp [writes, hs]
  · have hcall : ∀ {fs : List (Event SchedAns W)} {c : TerminalCall} {r}, c.id = id →
        (queueCall (.terminal c)).run.Runs fs r → writes id fs = 1 := by
      intro fs c r hc hr
      obtain ⟨pre, post, rfl⟩ := runs_queueCall.mp hr
      simp [writes, hc]
    have hid : ∀ token, (if status = .completed then TerminalCall.complete id token
        else .fail id (errorMessage.getD "failed") token).id = id := by
      intro token
      split_ifs <;> rfl
    rcases runs_throws_bind.mp h with ⟨es₁, es₂, a, rfl, h₁, h₂⟩ | ⟨e, h₁, -⟩
    · obtain ⟨rfl, -⟩ := runs_throws_pure.mp h₂
      rw [List.append_nil]
      exact hcall (hid _) h₁
    · exact hcall (hid _) h₁

/-- The requests of `releaseInfrastructure`. -/
def releaseOps (releasePublicEndpoint : Option ℕ) (deploymentName : Option String)
    (stopGuard : Bool) : List SchedOp :=
  (if stopGuard then [.ext .guardStop] else []) ++
    releasePublicEndpoint.toList.map (fun cleanup => .ext (.cleanupEndpoint cleanup)) ++
    (truthy deploymentName).toList.map fun name => .ext (.stop name)

theorem runs_dropped_extCall {x : ExtOp} {r : Except JsError Unit}
    (h : (do let _ ← attempt (extCall x); return () : SchedJs Unit).run.Runs es r) :
    r = .ok () ∧ es.map (·.op) = [.ext x] := by
  obtain ⟨rfl, a, ha⟩ := runs_dropped h
  obtain ⟨pre, post, rfl⟩ := runs_extCall.mp ha
  exact ⟨rfl, rfl⟩

theorem runs_releaseEndpoint {release : Option ℕ} {r : Except JsError Unit}
    (h : (releaseEndpoint release).run.Runs es r) :
    r = .ok () ∧ es.map (·.op) = release.toList.map fun cleanup => .ext (.cleanupEndpoint cleanup) := by
  cases release with
  | some cleanup => exact runs_dropped_extCall h
  | none =>
    obtain ⟨rfl, rfl⟩ := runs_throws_pure.mp h
    exact ⟨rfl, rfl⟩

theorem runs_stopDeployment {name : Option String} {r : Except JsError Unit}
    (h : (stopDeployment name).run.Runs es r) :
    r = .ok () ∧ es.map (·.op) = (truthy name).toList.map fun name => .ext (.stop name) := by
  unfold stopDeployment at h
  cases hname : truthy name with
  | some name => rw [hname] at h; exact runs_dropped_extCall h
  | none =>
    rw [hname] at h
    obtain ⟨rfl, rfl⟩ := runs_throws_pure.mp h
    exact ⟨rfl, rfl⟩

/-- **The infrastructure is released once**, and nothing that fails on the way is thrown. -/
theorem runs_releaseInfrastructure {release : Option ℕ} {name : Option String} {guard : Bool}
    {r : Except JsError Unit} (h : (releaseInfrastructure release name guard).run.Runs es r) :
    r = .ok () ∧ es.map (·.op) = releaseOps release name guard := by
  have hrest : ∀ {fs : List (Event SchedAns W)},
      (do releaseEndpoint release; stopDeployment name).run.Runs fs r →
        r = .ok () ∧ fs.map (·.op) = releaseOps release name false := by
    intro fs h
    rcases runs_throws_bind.mp h with ⟨es₁, es₂, a, rfl, h₁, h₂⟩ | ⟨e, h₁, -⟩
    · obtain ⟨-, hops₁⟩ := runs_releaseEndpoint h₁
      obtain ⟨rfl, hops₂⟩ := runs_stopDeployment h₂
      exact ⟨rfl, by rw [List.map_append, hops₁, hops₂]; rfl⟩
    · cases (runs_releaseEndpoint h₁).1
  cases guard with
  | false => exact hrest h
  | true =>
    rcases runs_throws_bind.mp h with ⟨es₁, es₂, a, rfl, h₁, h₂⟩ | ⟨e, h₁, -⟩
    · obtain ⟨-, hops₁⟩ := runs_dropped_extCall h₁
      obtain ⟨rfl, hops₂⟩ := hrest h₂
      exact ⟨rfl, by rw [List.map_append, hops₁, hops₂]; rfl⟩
    · cases (runs_dropped_extCall h₁).1

variable {deps : SchedulerDeps} {run : PipelineRun} {leaseToken : Option String}

/-- **The finalization writes the terminal status once**, or throws before that. -/
theorem runs_finalizePipeline {r : Except JsError Unit}
    (h : (finalizePipeline deps run id leaseToken).run.Runs es r) :
    writes id es ≤ 1 ∧ (r = .ok () → writes id es = 1) := by
  rcases runs_throws_bind.mp h with ⟨es₁, es₂, ⟨run, report⟩, rfl, h₁, h₂⟩ | ⟨e, h₁, rfl⟩
  · have hbefore := writes_eq_zero id (only_finalizeBefore deps _) (by simp) h₁
    rcases runs_throws_bind.mp h₂ with ⟨es₃, es₄, b, rfl, h₃, h₄⟩ | ⟨e, h₃, rfl⟩
    · have hwrite := runs_writeTerminal (finalVerdict_terminal _) h₃
      have hafter := writes_eq_zero id (only_finalizeAfter deps _) (by simp) h₄
      simp only [writes_append]
      omega
    · have hwrite := runs_writeTerminal (finalVerdict_terminal _) h₃
      simp only [writes_append]
      omega
  · have hbefore := writes_eq_zero id (only_finalizeBefore deps _) (by simp) h₁
    simp [hbefore]

variable {job : DetachedPoll}

/-- The poll rejects. -/
def PollRejects (deps : SchedulerDeps) (job : DetachedPoll) (es : List (Event SchedAns W))
    (err : JsError) : Prop :=
  ∃ pes fs, es = pes ++ fs ∧
    (pollWeeklyMatrix deps.config.buildkite job.run job.matrix).run.Runs pes (.error err)

/-- What the poll and its handler write: once if they return, not at all if the poll rejects. -/
theorem runs_pollAndHandle {r : Except JsError Unit}
    (h : (pollAndHandle deps job).run.Runs es r) : writes job.queueEntryId es ≤ 1 ∧
      (r = .ok () → writes job.queueEntryId es = 1) ∧
      ∀ err, PollRejects deps job es err → r = .error err ∧ writes job.queueEntryId es = 0 := by
  rcases runs_throws_bind.mp h with ⟨es₁, es₂, s2, rfl, h₁, h₂⟩ | ⟨e, h₁, rfl⟩
  · have hpoll := writes_eq_zero job.queueEntryId (only_pollWeeklyMatrix _) (by simp) h₁
    have honly : Only [.plain] (extCall (.saveStage2Result s2)) := only_extCall (by simp)
    have hrej : ∀ err, ¬PollRejects deps job (es₁ ++ es₂) err := by
      rintro err ⟨pes, fs, heq, hp⟩
      cases (h₁.append_inj hp heq).2
    rcases runs_throws_bind.mp h₂ with ⟨es₃, es₄, a, rfl, h₃, h₄⟩ | ⟨e, h₃, rfl⟩
    · obtain ⟨hle, hok⟩ := runs_finalizePipeline h₄
      have hsave := writes_eq_zero job.queueEntryId honly (by simp) h₃
      simp only [writes_append, hpoll, hsave, Nat.zero_add]
      exact ⟨hle, hok, fun err hp => absurd hp (hrej err)⟩
    · have hsave := writes_eq_zero job.queueEntryId honly (by simp) h₃
      simp only [writes_append, hpoll, hsave, Nat.zero_add]
      exact ⟨by omega, nofun, fun err hp => absurd hp (hrej err)⟩
  · have hpoll := writes_eq_zero job.queueEntryId (only_pollWeeklyMatrix _) (by simp) h₁
    refine ⟨by omega, nofun, ?_⟩
    rintro err ⟨pes, fs, rfl, hp⟩
    obtain ⟨-, he⟩ := h₁.append_inj hp (show _ ++ [] = _ from List.append_nil _)
    exact ⟨congrArg Except.error (Except.error.inj he), hpoll⟩

end Counts

/-! ## The chain -/

/-- The `catch` handler's terminal write throws. -/
def CatchWriteThrows (job : DetachedPoll) (err : JsError) (es : List SchedEvent) : Prop :=
  ∃ wes fs e, es = wes ++ fs ∧
    (writeTerminal job.queueEntryId .failed (some err.message) job.leaseToken).run.Runs wes (.error e)

/-- An event of a `stop` that awaits the chain with the outcome `r`, while every other deferred
poll succeeds. -/
def SettlesAs (job : DetachedPoll) (r : Except JsError Unit) : SchedEvent → Prop
  | ⟨.ext (.pollSettled id), ans, _, _⟩ => ans = if id = job.queueEntryId then r else .ok ()
  | _ => True

/-- **What the chain should do**: after a transient rejection of the poll, tear nothing down and
leave the entry alone; otherwise write once and release once; and never make `stop` reject. -/
structure ChainContract (deps : SchedulerDeps) (job : DetachedPoll) (es : List SchedEvent)
    (r : Except JsError Unit) : Prop where
  transient : (∃ err, PollRejects deps job es err ∧ isTransientNetworkError err.message = true) →
    teardown es = [] ∧ writes job.queueEntryId es = 0
  settled : (¬∃ err, PollRejects deps job es err ∧ isTransientNetworkError err.message = true) →
    writes job.queueEntryId es = 1 ∧ teardown es = releaseOps
      job.infrastructure.releasePublicEndpoint (some job.infrastructure.deploymentName) job.guarded
  stop : ∀ (fs : List SchedEvent) (s : Except JsError Unit), stop.run.Runs fs s →
    (∀ e ∈ fs, SettlesAs job r e) → s = .ok ()

section Chain

variable {deps : SchedulerDeps} {job : DetachedPoll} {es : List SchedEvent} {r : Except JsError Unit}

theorem runs_awaitPolls (ids : List ℕ) {s : Except JsError Unit}
    (h : (awaitPolls ids).run.Runs es s) (hok : ∀ e ∈ es, SettlesAs job (.ok ()) e) : s = .ok () := by
  induction ids generalizing es with
  | nil => exact (runs_throws_pure.mp h).2.symm
  | cons id ids ih =>
    rcases runs_throws_bind.mp h with ⟨es₁, es₂, a, rfl, h₁, h₂⟩ | ⟨e, h₁, -⟩
    · exact ih h₂ fun e he => hok e (List.mem_append_right _ he)
    · obtain ⟨pre, post, rfl⟩ := runs_extCall.mp h₁
      have := hok _ List.mem_cons_self
      simp [SettlesAs] at this

/-- `stop` returns when every deferred poll that it awaits has succeeded. -/
theorem runs_stop {s : Except JsError Unit} (h : stop.run.Runs es s)
    (hok : ∀ e ∈ es, SettlesAs job (.ok ()) e) : s = .ok () := by
  rcases runs_throws_bind.mp h with ⟨es₁, es₂, a, rfl, -, h₂⟩ | ⟨e, h₁, -⟩
  · rcases runs_throws_bind.mp h₂ with ⟨es₃, es₄, a, rfl, -, h₄⟩ | ⟨e, h₃, -⟩
    · rcases runs_throws_bind.mp h₄ with ⟨es₅, es₆, ids, rfl, -, h₆⟩ | ⟨e, h₅, -⟩
      · exact runs_awaitPolls ids h₆ fun e he => hok e (by simp [he])
      · obtain ⟨a, -, he⟩ := runs_lift.mp h₅
        cases he
    · cases (runs_dropped_extCall h₃).1
  · obtain ⟨a, -, he⟩ := runs_lift.mp h₁
    cases he

variable (job) (r) in
/-- **`stop` never rejects because of the chain** if and only if the chain does not reject. -/
theorem stop_survives_iff : (∀ (fs : List SchedEvent) (s : Except JsError Unit), stop.run.Runs fs s →
    (∀ e ∈ fs, SettlesAs job r e) → s = .ok ()) ↔ r = .ok () := by
  constructor
  · intro h
    cases r with
    | ok a => rfl
    | error err =>
      have := h [⟨.own .beginStop, (), {}, {}⟩, ⟨.ext .drainActiveRuns, .ok (), {}, {}⟩,
        ⟨.own .deferredIds, [job.queueEntryId], {}, {}⟩,
        ⟨.ext (.pollSettled job.queueEntryId), .error err, {}, {}⟩] (.error err)
        (.step _ _ _ (.step _ _ _ (.step _ _ _ (.step _ _ _ (.refl _)))))
        (by simp [SettlesAs])
      cases this
  · rintro rfl fs s h hset
    exact runs_stop h hset

/-- The `catch` handler: nothing after a transient error, else one terminal write. -/
theorem runs_pollCatch {err : JsError} (h : (pollCatch job err).run.Runs es r) :
    teardown es = [] ∧
      (isTransientNetworkError err.message = true → writes job.queueEntryId es = 0 ∧ r = .ok ()) ∧
      (isTransientNetworkError err.message = false → writes job.queueEntryId es = 1 ∧
        ∀ fs, r = .ok () ↔ ¬CatchWriteThrows job err (es ++ fs)) := by
  refine ⟨teardown_eq_nil only_pollCatch (by simp) (by simp) h, fun ht => ?_, fun ht => ?_⟩
  · simp only [pollCatch, ht, if_true] at h
    obtain ⟨rfl, rfl⟩ := runs_throws_pure.mp h
    exact ⟨rfl, rfl⟩
  · simp only [pollCatch, ht, Bool.false_eq_true, if_false] at h
    rcases runs_throws_bind.mp h with ⟨es₁, es₂, a, rfl, h₁, h₂⟩ | ⟨e, h₁, rfl⟩
    · obtain ⟨rfl, rfl⟩ := runs_throws_pure.mp h₂
      rw [List.append_nil]
      refine ⟨runs_writeTerminal rfl h₁, fun fs => iff_of_true rfl ?_⟩
      rintro ⟨wes, gs, e, heq, hw⟩
      cases (h₁.append_inj hw heq).2
    · exact ⟨runs_writeTerminal rfl h₁, fun fs => iff_of_false nofun fun hn => hn ⟨es, fs, e, rfl, h₁⟩⟩

/-- The course that a chain must take to do what it should: its poll and its handler return; or they
throw a network error that is transient, after the terminal write (or, when the poll itself
rejects, with nothing to release); or they throw another error before any terminal write, and the
`catch` handler's write does not throw. -/
def Orderly (deps : SchedulerDeps) (job : DetachedPoll) (es : List SchedEvent) : Prop :=
  ∃ bes fs o, es = bes ++ fs ∧ (pollAndHandle deps job).run.Runs bes o ∧ ∀ err, o = .error err →
    (isTransientNetworkError err.message = true →
      (PollRejects deps job bes err → releaseOps job.infrastructure.releasePublicEndpoint
        (some job.infrastructure.deploymentName) job.guarded = []) ∧
      (¬PollRejects deps job bes err → writes job.queueEntryId bes = 1)) ∧
    (isTransientNetworkError err.message = false →
      writes job.queueEntryId bes = 0 ∧ ¬CatchWriteThrows job err fs)

/-- A finished chain: the poll and its handler, then the `catch` handler, then the release. -/
theorem runs_detachedPoll (h : (detachedPoll deps job).run.Runs es r) :
    ∃ bes cs rs o, es = bes ++ (cs ++ rs) ∧ (pollAndHandle deps job).run.Runs bes o ∧
      ((∃ err e, o = .error err ∧ r = .error e ∧ rs = [] ∧ (pollCatch job err).run.Runs cs r) ∨
        ((o = .ok () ∧ cs = [] ∨ ∃ err, o = .error err ∧ (pollCatch job err).run.Runs cs (.ok ())) ∧
          r = .ok () ∧ rs.map (·.op) = releaseOps job.infrastructure.releasePublicEndpoint
            (some job.infrastructure.deploymentName) job.guarded)) := by
  rcases runs_throws_bind.mp h with ⟨bes, rest, o, rfl, h₁, h₂⟩ | ⟨e, h₁, -⟩
  · have hbody := runs_attempt.mp h₁
    cases o with
    | ok a =>
      obtain ⟨rfl, hops⟩ := runs_releaseInfrastructure h₂
      exact ⟨bes, [], rest, _, rfl, hbody, .inr ⟨.inl ⟨rfl, rfl⟩, rfl, hops⟩⟩
    | error err =>
      rcases runs_throws_bind.mp h₂ with ⟨cs, rs, a, rfl, hc, hr⟩ | ⟨e, hc, rfl⟩
      · obtain ⟨rfl, hops⟩ := runs_releaseInfrastructure hr
        exact ⟨bes, cs, rs, _, rfl, hbody, .inr ⟨.inr ⟨err, rfl, hc⟩, rfl, hops⟩⟩
      · exact ⟨bes, rest, [], _, by rw [List.append_nil], hbody, .inl ⟨err, e, rfl, rfl, rfl, hc⟩⟩
  · obtain ⟨a, -, he⟩ := runs_lift.mp h₁
    cases he

theorem pollRejects_append {bes fs : List SchedEvent} {o : Except JsError Unit} {err : JsError}
    (h : (pollAndHandle deps job).run.Runs bes o) :
    PollRejects deps job (bes ++ fs) err ↔ PollRejects deps job bes err := by
  constructor
  · rintro ⟨pes, gs, heq, hp⟩
    obtain ⟨rfl, -⟩ := h.append_inj (runs_throws_bind.mpr (.inr ⟨err, hp, rfl⟩)) heq
    exact ⟨bes, [], (List.append_nil _).symm, hp⟩
  · rintro ⟨pes, gs, rfl, hp⟩
    exact ⟨pes, gs ++ fs, List.append_assoc _ _ _, hp⟩

/-- The course of a chain whose poll and handler have ended in `o`. -/
theorem orderly_iff {bes fs : List SchedEvent} {o : Except JsError Unit}
    (h : (pollAndHandle deps job).run.Runs bes o) : Orderly deps job (bes ++ fs) ↔
      ∀ err, o = .error err →
        (isTransientNetworkError err.message = true →
          (PollRejects deps job bes err → releaseOps job.infrastructure.releasePublicEndpoint
            (some job.infrastructure.deploymentName) job.guarded = []) ∧
          (¬PollRejects deps job bes err → writes job.queueEntryId bes = 1)) ∧
        (isTransientNetworkError err.message = false →
          writes job.queueEntryId bes = 0 ∧ ¬CatchWriteThrows job err fs) := by
  constructor
  · rintro ⟨bes', fs', o', heq, h', hall⟩
    obtain ⟨rfl, rfl⟩ := h.append_inj h' heq
    obtain rfl := List.append_cancel_left heq
    exact hall
  · intro hall
    exact ⟨bes, fs, o, rfl, h, hall⟩

@[simp] theorem teardown_releaseOps {release : Option ℕ} {name : Option String} {guard : Bool}
    {rs : List SchedEvent} (h : rs.map (·.op) = releaseOps release name guard) :
    teardown rs = releaseOps release name guard := by
  rw [teardown, h, List.filter_eq_self]
  intro o ho
  simp only [releaseOps, List.mem_append, List.mem_map] at ho
  rcases ho with (ho | ⟨c, -, rfl⟩) | ⟨n, -, rfl⟩
  · split_ifs at ho
    · obtain rfl := List.mem_singleton.mp ho
      rfl
    · cases ho
  · rfl
  · rfl

theorem writes_releaseOps {id : ℕ} {release : Option ℕ} {name : Option String} {guard : Bool}
    {rs : List SchedEvent} (h : rs.map (·.op) = releaseOps release name guard) : writes id rs = 0 := by
  refine List.countP_eq_zero.mpr fun e he hw => ?_
  have hrel : e.op ∈ releaseOps release name guard := h ▸ List.mem_map_of_mem he
  rw [← teardown_releaseOps h, teardown, List.mem_filter, SchedOp.releases,
    SchedOp.kind_of_terminalWrite (beq_iff_eq.mp hw)] at hrel
  exact absurd hrel.2 (by decide)

/-- **The contract of a detached poll** holds along a finished chain if and only if the chain is
orderly. -/
theorem detachedPoll_contract (h : (detachedPoll deps job).run.Runs es r) :
    ChainContract deps job es r ↔ Orderly deps job es := by
  obtain ⟨bes, cs, rs, o, rfl, hb, hcases⟩ := runs_detachedPoll h
  obtain ⟨hle, hok, hrej⟩ := runs_pollAndHandle hb
  have hbt : teardown bes = [] := teardown_eq_nil (only_pollAndHandle deps) (by simp) (by simp) hb
  rw [orderly_iff hb]
  rcases hcases with ⟨err, e, rfl, rfl, rfl, hc⟩ | ⟨⟨rfl, rfl⟩ | ⟨err, rfl, hc⟩, rfl, hops⟩
  · -- the `catch` handler throws: `stop` rejects
    obtain ⟨-, htrans, hnon⟩ := runs_pollCatch hc
    refine iff_of_false (fun hcon => ?_) fun hall => ?_
    · cases (stop_survives_iff _ _).mp hcon.stop
    · cases ht : isTransientNetworkError err.message with
      | true => cases (htrans ht).2
      | false =>
        have := ((hnon ht).2 []).mpr ((hall err rfl).2 ht).2
        cases this
  · -- the poll and its handler return
    refine iff_of_true ⟨?_, fun _ => ⟨?_, ?_⟩, (stop_survives_iff _ _).mpr rfl⟩ fun err he => nomatch he
    · rintro ⟨err, hp, -⟩
      cases (hrej err ((pollRejects_append hb).mp hp)).1
    · simp [hok rfl, writes_releaseOps hops]
    · simp [hbt, teardown_releaseOps hops]
  · -- they throw, and the `catch` handler returns
    obtain ⟨hct, htrans, hnon⟩ := runs_pollCatch hc
    have hstop := (stop_survives_iff job (.ok ())).mpr rfl
    have hdown : teardown (bes ++ (cs ++ rs)) = releaseOps job.infrastructure.releasePublicEndpoint
        (some job.infrastructure.deploymentName) job.guarded := by
      simp [hbt, hct, teardown_releaseOps hops]
    have hwrites : writes job.queueEntryId (bes ++ (cs ++ rs)) =
        writes job.queueEntryId bes + writes job.queueEntryId cs := by
      simp [writes_releaseOps hops]
    have heq : ∀ err', PollRejects deps job (bes ++ (cs ++ rs)) err' → err' = err := fun err' hp =>
      (Except.error.inj (hrej err' ((pollRejects_append hb).mp hp)).1).symm
    cases ht : isTransientNetworkError err.message with
    | false =>
      obtain ⟨hcw, hthrows⟩ := hnon ht
      have hsettled : ¬∃ err', PollRejects deps job (bes ++ (cs ++ rs)) err' ∧
          isTransientNetworkError err'.message = true := by
        rintro ⟨err', hp, ht'⟩
        rw [heq err' hp, ht] at ht'
        cases ht'
      constructor
      · rintro hcon err' he
        obtain rfl := Except.error.inj he
        have := (hcon.settled hsettled).1
        exact ⟨fun ht' => (Bool.false_ne_true (ht.symm.trans ht')).elim,
          fun _ => ⟨by omega, (hthrows rs).mp rfl⟩⟩
      · intro hall
        have := ((hall err rfl).2 ht).1
        exact ⟨fun hex => absurd hex hsettled, fun _ => ⟨by omega, hdown⟩, hstop⟩
    | true =>
      have hcw := (htrans ht).1
      by_cases hp : PollRejects deps job bes err
      · have hbw := (hrej err hp).2
        have hex : ∃ err', PollRejects deps job (bes ++ (cs ++ rs)) err' ∧
            isTransientNetworkError err'.message = true := ⟨err, (pollRejects_append hb).mpr hp, ht⟩
        constructor
        · rintro hcon err' he
          obtain rfl := Except.error.inj he
          have := (hcon.transient hex).1
          exact ⟨fun _ => ⟨fun _ => hdown.symm.trans this, fun hn => absurd hp hn⟩,
            fun hf => (Bool.false_ne_true (hf.symm.trans ht)).elim⟩
        · intro hall
          have := ((hall err rfl).1 ht).1 hp
          exact ⟨fun _ => ⟨hdown.trans this, by omega⟩, fun hn => absurd hex hn, hstop⟩
      · have hsettled : ¬∃ err', PollRejects deps job (bes ++ (cs ++ rs)) err' ∧
            isTransientNetworkError err'.message = true := by
          rintro ⟨err', hp', -⟩
          obtain rfl := heq err' hp'
          exact hp ((pollRejects_append hb).mp hp')
        constructor
        · rintro hcon err' he
          obtain rfl := Except.error.inj he
          have := (hcon.settled hsettled).1
          exact ⟨fun _ => ⟨fun hp' => absurd hp' hp, fun _ => by omega⟩,
            fun hf => (Bool.false_ne_true (hf.symm.trans ht)).elim⟩
        · intro hall
          have := ((hall err rfl).1 ht).2 hp
          exact ⟨fun hex => absurd hex hsettled, fun _ => ⟨by omega, hdown⟩, hstop⟩

end Chain

/-! ## One suite -/

/-- A scheduler with one suite and no later stages. -/
def oneSuiteDeps : SchedulerDeps where
  maxConcurrentRuns := 1
  config := {
    buildkite := { defaultEvalSuites := some ["esql"] }
    stage2Thresholds := ⟨100, [], 1, 1000, 0⟩ }
  ciEvals := some ⟨true, true, false⟩
  supportsToolCalling _ := false

/-- Its detached poll for entry 0, after the suites in `skip` have been done. -/
def oneSuiteJob (skip : List String) : DetachedPoll where
  run := ⟨"run", "m", 0, 0, none, none, none, none, none, none⟩
  queueEntryId := 0
  infrastructure := ⟨some 3, "vllm-m", none, false, false, none⟩
  leaseToken := some "t"
  matrix := ciMatrix oneSuiteDeps.config.buildkite ⟨"", "", 0⟩ (some skip)
  guarded := false

/-- Answers in which the network is down. -/
def networkDown : (o : SchedOp) → SchedAns o
  | .ext _ | .queue _ => .error ⟨"fetch failed", none⟩
  | .own a => (a.apply {}).1
  | .now => 0
  | .randomUUID => ""
  | .stage1Failed _ => ()

theorem history_detachedPoll (deps : SchedulerDeps) (job : DetachedPoll) (env : ∀ o, SchedAns o) :
    ∃ fs, history env (detachedPoll deps job) = history env (pollAndHandle deps job) ++ fs := by
  obtain ⟨f, hf⟩ : ∃ f, detachedPoll deps job = attempt (pollAndHandle deps job) >>= f := ⟨_, rfl⟩
  rw [hf, history, history, ← trace_attempt (pollAndHandle deps job)]
  exact trace_throws_bind _ _ _

/-- **A transient error tears the deployment down.** The poll of the suite is rejected with a
network error; the deployment is stopped nevertheless. -/
theorem transient_tornDown : ∃ es,
    (detachedPoll oneSuiteDeps (oneSuiteJob [])).run.Runs es (.ok ()) ∧
    (∃ err, PollRejects oneSuiteDeps (oneSuiteJob []) es err ∧
      isTransientNetworkError err.message = true) ∧
    teardown es = [.ext (.cleanupEndpoint 3), .ext (.stop "vllm-m")] ∧
    ¬ChainContract oneSuiteDeps (oneSuiteJob []) es (.ok ()) := by
  obtain ⟨fs, hfs⟩ := history_detachedPoll oneSuiteDeps (oneSuiteJob []) networkDown
  obtain ⟨gs, hgs⟩ : ∃ gs, history networkDown (pollAndHandle oneSuiteDeps (oneSuiteJob [])) =
      history networkDown _ ++ gs := trace_throws_bind _ _ _
  have hruns : (detachedPoll oneSuiteDeps (oneSuiteJob [])).run.Runs _ (.ok ()) :=
    runs_history networkDown (by decide +kernel)
  have hpoll := runs_history networkDown (x := pollWeeklyMatrix oneSuiteDeps.config.buildkite
    (oneSuiteJob []).run (oneSuiteJob []).matrix) (r := .error ⟨"fetch failed", none⟩)
    (by decide +kernel)
  have hrej : ∃ err, PollRejects oneSuiteDeps (oneSuiteJob [])
      (history networkDown (detachedPoll oneSuiteDeps (oneSuiteJob []))) err ∧
        isTransientNetworkError err.message = true :=
    ⟨_, ⟨_, gs ++ fs, by rw [hfs, hgs, List.append_assoc], hpoll⟩, by decide +kernel⟩
  have hdown : teardown (history networkDown (detachedPoll oneSuiteDeps (oneSuiteJob []))) =
      [.ext (.cleanupEndpoint 3), .ext (.stop "vllm-m")] := by decide +kernel
  refine ⟨_, hruns, hrej, hdown, fun hcon => ?_⟩
  rw [(hcon.transient hrej).1] at hdown
  cases hdown

/-- Answers in which the terminal write and the store succeed. -/
def storeUp : (o : SchedOp) → SchedAns o
  | .ext (.saveStage2Result _) => .ok ()
  | .queue (.terminal _) => .ok ⟨true, none⟩
  | o => networkDown o

theorem storeUp_contract : ∃ es,
    (detachedPoll oneSuiteDeps (oneSuiteJob ["esql"])).run.Runs es (.ok ()) ∧
    teardown es = [.ext (.cleanupEndpoint 3), .ext (.stop "vllm-m")] ∧
    ChainContract oneSuiteDeps (oneSuiteJob ["esql"]) es (.ok ()) := by
  obtain ⟨fs, hfs⟩ := history_detachedPoll oneSuiteDeps (oneSuiteJob ["esql"]) storeUp
  have hruns : (detachedPoll oneSuiteDeps (oneSuiteJob ["esql"])).run.Runs _ (.ok ()) :=
    runs_history storeUp (by decide +kernel)
  have hbody : (pollAndHandle oneSuiteDeps (oneSuiteJob ["esql"])).run.Runs _ (.ok ()) :=
    runs_history storeUp (by decide +kernel)
  refine ⟨_, hruns, by decide +kernel, (detachedPoll_contract hruns).mpr ?_⟩
  exact ⟨_, fs, .ok (), hfs, hbody, nofun⟩

end Benchmarker
