import Benchmarker.Scheduler.Detached

/-!
# The course of `processEntry`

The histories of `processEntry` that reach Stage 1, cut at its phases. Stage 1 fills its result
after its last `await`, so a throw after the deployment leaves a result without the deployment's
name; everything after Stage 1 keeps the name that it finds in the run.

* `runs_entryTry`, `runs_processEntry`: the `try`, `catch` and `finally` blocks of a history.
* `runs_stage1Measure`, **`runs_execute`**: what Stage 1 returns, and when it has thrown.
* `KeepsName`: the phases after Stage 1 keep the deployment's name.
* **`runs_entryBody`**: a `try` block that runs Stage 1.
-/

namespace Benchmarker

open Js Async Async.Prog

section Course

variable {W α : Type} {deps : SchedulerDeps} {entry : QueueEntry} {resume : Bool}
variable {leaseToken : Option String} {es : List (Event SchedAns W)}

/-- No request of a kind that the body does not issue. -/
theorem kind_ne_of_only {ks : List OpKind} {k : OpKind} {x : SchedJs α} {r : Except JsError α}
    (h : Only ks x) (hk : k ∉ ks) (hr : x.run.Runs es r) : ∀ e ∈ es, e.op.kind ≠ k :=
  fun e he hek => hk (hek ▸ h.events hr e he)

theorem kind_ne_of_onlyFrom {ks : List OpKind} {k : OpKind} {x : EntryJs α} {r : Except JsError α}
    {s s' : EntryVars} (h : OnlyFrom ks x) (hk : k ∉ ks) (hr : RunsFrom x s es r s') :
    ∀ e ∈ es, e.op.kind ≠ k :=
  fun e he hek => hk (hek ▸ UsesFrom.events h hr e he)

theorem runsFrom_step {x : SchedJs α} {s s' : EntryVars} {r : Except JsError α} :
    RunsFrom (step x) s es r s' ↔ x.run.Runs es r ∧ s' = s := by
  rw [RunsFrom, show (step x).run.run s = x.run >>= fun r => ret (r, s) from rfl, runs_bind]
  constructor
  · rintro ⟨es₁, es₂, a, rfl, h₁, h₂⟩
    obtain ⟨rfl, heq⟩ := runs_ret.mp h₂
    obtain ⟨rfl, rfl⟩ := Prod.mk.inj heq
    exact ⟨by rwa [List.append_nil], rfl⟩
  · rintro ⟨h, rfl⟩
    exact ⟨es, [], r, (List.append_nil _).symm, h, runs_ret.mpr ⟨rfl, rfl⟩⟩

theorem runsFrom_step_bind {β : Type} {x : SchedJs α} {f : α → EntryJs β} {s s' : EntryVars}
    {r : Except JsError β} : RunsFrom (step x >>= f) s es r s' ↔
      (∃ es₁ es₂ a, es = es₁ ++ es₂ ∧ x.run.Runs es₁ (.ok a) ∧ RunsFrom (f a) s es₂ r s') ∨
        ∃ e, x.run.Runs es (.error e) ∧ s' = s ∧ r = .error e := by
  simp only [runsFrom_bind, runsFrom_step]
  constructor
  · rintro (⟨es₁, es₂, a, t, rfl, ⟨h₁, rfl⟩, h₂⟩ | ⟨e, ⟨h, rfl⟩, rfl⟩)
    · exact .inl ⟨es₁, es₂, a, rfl, h₁, h₂⟩
    · exact .inr ⟨e, h, rfl, rfl⟩
  · rintro (⟨es₁, es₂, a, rfl, h₁, h₂⟩ | ⟨e, h, rfl, rfl⟩)
    · exact .inl ⟨es₁, es₂, a, s, rfl, ⟨h₁, rfl⟩, h₂⟩
    · exact .inr ⟨e, ⟨h, rfl⟩, rfl⟩

@[simp] theorem runsFrom_theRun_bind {β : Type} {f : PipelineRun → EntryJs β} {s s' : EntryVars}
    {r : Except JsError β} : RunsFrom (theRun >>= f) s es r s' ↔ RunsFrom (f s.run) s es r s' := by
  have htheRun : ∀ {fs : List (Event SchedAns W)} {t : EntryVars} {q : Except JsError PipelineRun},
      RunsFrom theRun s fs q t ↔ fs = [] ∧ .ok s.run = q ∧ s = t := by
    intro fs t q
    rw [RunsFrom, show theRun.run.run s = ret (.ok s.run, s) from rfl, runs_ret, Prod.mk.injEq]
  simp only [runsFrom_bind, htheRun]
  simp

@[simp] theorem runsFrom_modifyRun_bind {β : Type} {g : PipelineRun → PipelineRun}
    {f : Unit → EntryJs β} {s s' : EntryVars} {r : Except JsError β} :
    RunsFrom (modifyRun g >>= f) s es r s' ↔ RunsFrom (f ()) { s with run := g s.run } es r s' :=
  runsFrom_modify_bind

/-! ## Deployments -/

/-- The deployment that an event reports. -/
def deployedBy : Event SchedAns W → Option EngineDeploymentResult
  | ⟨.ext (.deploy _ _ _), .ok d, _, _⟩ => some d
  | _ => none

/-- The deployments that a history reports. -/
def deployed (es : List (Event SchedAns W)) : List EngineDeploymentResult := es.filterMap deployedBy

/-- The detached polls that a history starts. -/
def deferred (es : List (Event SchedAns W)) : List DetachedPoll := es.filterMap fun e =>
  match e.op with
  | .own (.deferPoll job) => some job
  | _ => none

/-- The event is a throw of what Stage 1 awaits between the deployment and its result. -/
def measureThrew : Event SchedAns W → Bool
  | ⟨.ext (.runBenchmarks _ _ _ _), .error _, _, _⟩ => true
  | ⟨.ext (.toolCallBenchmark _), .error _, _, _⟩ => true
  | ⟨.ext (.fetchModelConfig _), .error _, _, _⟩ => true
  | _ => false

/-- A measurement of Stage 1 has thrown. -/
def MeasureThrew (es : List (Event SchedAns W)) : Prop := ∃ e ∈ es, measureThrew e = true

@[simp] theorem measureThrew_append {fs : List (Event SchedAns W)} :
    MeasureThrew (es ++ fs) ↔ MeasureThrew es ∨ MeasureThrew fs := by
  simp only [MeasureThrew, List.mem_append, or_and_right, exists_or]

theorem kind_of_deployedBy {e : Event SchedAns W} {d : EngineDeploymentResult}
    (h : deployedBy e = some d) : e.op.kind = .deploy := by
  unfold deployedBy at h
  split at h
  · rfl
  · cases h

theorem kind_of_measureThrew {e : Event SchedAns W} (h : measureThrew e = true) :
    e.op.kind = .measure := by
  unfold measureThrew at h
  split at h
  · rfl
  · rfl
  · rfl
  · cases h

@[simp] theorem deployed_append {fs : List (Event SchedAns W)} :
    deployed (es ++ fs) = deployed es ++ deployed fs := List.filterMap_append

@[simp] theorem deferred_append {fs : List (Event SchedAns W)} :
    deferred (es ++ fs) = deferred es ++ deferred fs := List.filterMap_append

theorem deployed_eq_nil (h : ∀ e ∈ es, e.op.kind ≠ .deploy) : deployed es = [] := by
  refine List.filterMap_eq_nil_iff.mpr fun e he => ?_
  cases hd : deployedBy e with
  | none => rfl
  | some d => exact absurd (kind_of_deployedBy hd) (h e he)

theorem deferred_eq_nil (h : ∀ e ∈ es, e.op.kind ≠ .defer) : deferred es = [] := by
  refine List.filterMap_eq_nil_iff.mpr fun e he => ?_
  split
  · rename_i job hop
    exact absurd (by rw [hop]; rfl) (h e he)
  · rfl

theorem not_measureThrew (h : ∀ e ∈ es, e.op.kind ≠ .measure) : ¬MeasureThrew es :=
  fun ⟨e, he, hm⟩ => h e he (kind_of_measureThrew hm)

/-! ## Stage 1 -/

variable {run : PipelineRun}

/-- A call that Stage 1 measures with throws exactly when its event says so. -/
theorem throwsOn_measure {x : ExtOp}
    (herr : ∀ {err pre post}, measureThrew (⟨.ext x, .error err, pre, post⟩ : Event SchedAns W) = true)
    (hok : ∀ {v pre post}, measureThrew (⟨.ext x, .ok v, pre, post⟩ : Event SchedAns W) = false) :
    ThrowsOn (measureThrew (W := W)) (extCall x) := by
  intro es r h
  obtain ⟨pre, post, rfl⟩ := runs_extCall.mp h
  cases r with
  | ok v => simp [hok]
  | error err => simp [herr]

/-- A body without such calls that does not throw. -/
theorem throwsOn_plain {x : SchedJs α} (h : Only [.plain] x) :
    ThrowsOn (measureThrew (W := W)) (attempt x) :=
  throwsOn_attempt fun _ _ hr e he => by
    by_contra hm
    exact not_measureThrew (kind_ne_of_only h (by simp) hr) ⟨e, he, by simpa using hm⟩

theorem throwsOn_clock : ThrowsOn (measureThrew (W := W)) clock := by
  refine throwsOn_lift fun es a h => ?_
  obtain ⟨pre, post, rfl⟩ := runs_request.mp h
  simp [measureThrew]

theorem throwsOn_reportQueueProgress {id : ℕ} {stage : ProgressStage} {detail : String}
    {steps : Option (ℕ × ℕ)} : ThrowsOn (measureThrew (W := W))
      (reportQueueProgress id stage detail steps none) :=
  throwsOn_bind throwsOn_clock fun _ =>
    throwsOn_bind (throwsOn_plain (only_queueCall (by simp))) fun _ => throwsOn_pure _

/-- **After the deployment Stage 1 throws exactly when one of its measurements does.** -/
theorem throwsOn_stage1Measure {startTime startedAt : Time} {modelInfo : ModelInfo}
    {d : EngineDeploymentResult} :
    ThrowsOn (measureThrew (W := W)) (stage1Measure deps run startTime startedAt modelInfo d) := by
  refine throwsOn_bind throwsOn_reportQueueProgress fun _ => ?_
  refine throwsOn_bind (throwsOn_measure rfl rfl) fun bench => ?_
  refine throwsOn_bind ?_ fun toolCallResults => ?_
  · refine throwsOn_ite ?_ (throwsOn_pure _)
    exact throwsOn_bind throwsOn_reportQueueProgress fun _ => throwsOn_measure rfl rfl
  refine throwsOn_bind throwsOn_clock fun _ => ?_
  refine throwsOn_bind (throwsOn_plain (only_extCall (by simp))) fun _ => ?_
  refine throwsOn_bind ?_ fun contextWindow => ?_
  · refine throwsOn_bind (throwsOn_measure rfl rfl) fun r => ?_
    cases r <;> exact throwsOn_pure _
  exact throwsOn_bind throwsOn_clock fun _ => throwsOn_pure _

/-- The result of a Stage 1 that has not thrown names its deployment. -/
theorem runs_stage1Measure {startTime startedAt : Time} {modelInfo : ModelInfo}
    {d : EngineDeploymentResult} {result : Stage1Result}
    (h : (stage1Measure deps run startTime startedAt modelInfo d).run.Runs es (.ok result)) :
    result.deploymentName = some d.deploymentName ∧ result.endpointUrl = some d.apiEndpoint := by
  obtain ⟨_, _, _, rfl, -, h⟩ := runs_ok_bind.mp h
  obtain ⟨_, _, bench, rfl, -, h⟩ := runs_ok_bind.mp h
  obtain ⟨_, _, toolCallResults, rfl, -, h⟩ := runs_ok_bind.mp h
  obtain ⟨_, _, timestamp, rfl, -, h⟩ := runs_ok_bind.mp h
  obtain ⟨_, _, _, rfl, -, h⟩ := runs_ok_bind.mp h
  obtain ⟨_, _, contextWindow, rfl, -, h⟩ := runs_ok_bind.mp h
  obtain ⟨_, _, now, rfl, -, h⟩ := runs_ok_bind.mp h
  obtain ⟨-, hr⟩ := runs_throws_pure.mp h
  obtain rfl := Except.ok.inj hr
  exact ⟨rfl, rfl⟩

/-- The body returns the one deployment that its history reports, or throws without one. -/
def DeploysLast (x : SchedJs (ModelInfo × EngineDeploymentResult)) : Prop :=
  ∀ (W : Type) (es : List (Event SchedAns W)) r, x.run.Runs es r →
    deployed es = (r.toOption.map (·.2)).toList

theorem deploysLast_bind {x : SchedJs α} {f : α → SchedJs (ModelInfo × EngineDeploymentResult)}
    (hx : Only [.plain] x) (hf : ∀ a, DeploysLast (f a)) : DeploysLast (x >>= f) := by
  intro W es r h
  have hplain : ∀ {fs : List (Event SchedAns W)} {r : Except JsError α}, x.run.Runs fs r →
      deployed fs = [] := fun hr => deployed_eq_nil (kind_ne_of_only hx (by simp) hr)
  rcases runs_throws_bind.mp h with ⟨es₁, es₂, a, rfl, h₁, h₂⟩ | ⟨e, h₁, rfl⟩
  · rw [deployed_append, hplain h₁, hf a W es₂ r h₂, List.nil_append]
  · exact hplain h₁

theorem deploysLast_deploy {modelInfo : ModelInfo} {hardware : VMHardwareProfile}
    {overrides : Option VllmDeploymentOptions} : DeploysLast (do
      let deployment ← extCall (.deploy modelInfo hardware overrides)
      return (modelInfo, deployment)) := by
  intro W es r h
  rcases runs_throws_bind.mp h with ⟨es₁, es₂, d, rfl, h₁, h₂⟩ | ⟨e, h₁, rfl⟩
  · obtain ⟨pre, post, rfl⟩ := runs_extCall.mp h₁
    obtain ⟨rfl, rfl⟩ := runs_throws_pure.mp h₂
    rfl
  · obtain ⟨pre, post, rfl⟩ := runs_extCall.mp h₁
    rfl

theorem deploysLast_stage1Prepare : DeploysLast (stage1Prepare deps run) := by
  refine deploysLast_bind (only_queueCall (by simp [Status.terminal])) fun _ => ?_
  refine deploysLast_bind (only_reportQueueProgress (by simp)) fun _ => ?_
  refine deploysLast_bind (only_extCall (by simp)) fun card => ?_
  refine deploysLast_bind (only_queueCall (by simp [Status.terminal])) fun _ => ?_
  refine deploysLast_bind (only_stage1Overrides deps (by simp)) fun overrides => ?_
  exact deploysLast_bind (only_reportQueueProgress (by simp)) fun _ => deploysLast_deploy

/-- The result of a Stage 1 that has thrown. -/
structure Stage1Result.Thrown (result : Stage1Result) (message : String) : Prop where
  status : result.status = .failed
  error : result.error = some message
  deployment : result.deployment = none
  stage2Eligible : result.stage2Eligible = none

theorem runs_clock {r : Except JsError Time} (h : clock.run.Runs es r) :
    ∃ t pre post, r = .ok t ∧ es = [⟨.now, t, pre, post⟩] := by
  obtain ⟨t, ht, rfl⟩ := runs_lift.mp h
  obtain ⟨pre, post, rfl⟩ := runs_request.mp ht
  exact ⟨t, pre, post, rfl, rfl⟩

theorem truthy_of_ne {s : String} (h : s ≠ "") : truthy (some s) = some s := by
  simp [truthy, Option.filter, h]

/-- The `catch` block of Stage 1: the log line and the status write, whose outcome is dropped. -/
theorem runs_stage1Catch {startedAt : Time} {err : JsError} {r : Except JsError Stage1Result}
    (h : (stage1Catch run startedAt err).run.Runs es r) : ∃ e u pre post, e.op = .stage1Failed err.message ∧
      es = [e, ⟨.queue (.updateStatus run.queueEntryId .failed (some err.message) none), u, pre, post⟩] ∧
      r = .ok { freshStage1Result run startedAt with
        status := .failed, error := some err.message } := by
  rcases runs_throws_bind.mp h with ⟨es₁, es₂, _, rfl, h₁, h₂⟩ | ⟨e, h₁, -⟩
  · obtain ⟨_, ha, -⟩ := runs_lift.mp h₁
    obtain ⟨pre, post, rfl⟩ := runs_request.mp ha
    rcases runs_throws_bind.mp h₂ with ⟨es₃, es₄, u, rfl, h₃, h₄⟩ | ⟨e, h₃, -⟩
    · obtain ⟨pre', post', rfl⟩ := runs_queueCall.mp (runs_attempt.mp h₃)
      obtain ⟨rfl, rfl⟩ := runs_throws_pure.mp h₄
      exact ⟨_, u, pre', post', rfl, rfl, rfl⟩
    · obtain ⟨_, -, he⟩ := runs_lift.mp h₃
      cases he
  · obtain ⟨_, -, he⟩ := runs_lift.mp h₁
    cases he

/-- **A finished Stage 1**: its body between looks at the clock, and its `catch` block if the body
has thrown. It does not throw itself. -/
theorem runs_execute {r : Except JsError Stage1Result} (h : (execute deps run).run.Runs es r) :
    ∃ ts bes cs fs startTime startedAt o result, es = ts ++ (bes ++ (cs ++ fs)) ∧
      (∀ e ∈ ts ++ fs, e.op = .now) ∧
      (stage1Body deps run startTime startedAt).run.Runs bes o ∧ r = .ok result ∧
      ((∃ result₀ now, o = .ok result₀ ∧ cs = [] ∧ result = { result₀ with completedAt := now }) ∨
        ∃ err c, o = .error err ∧ (stage1Catch run startedAt err).run.Runs cs c ∧
          result.Thrown err.message) := by
  -- the completion time is the last thing that Stage 1 waits for
  have hend : ∀ {fs : List (Event SchedAns W)} {result : Stage1Result},
      (do let completedAt ← clock
          return { result with completedAt := completedAt } : SchedJs Stage1Result).run.Runs fs r →
        (∀ e ∈ fs, e.op = .now) ∧ ∃ now, r = .ok { result with completedAt := now } := by
    intro fs result h
    rcases runs_throws_bind.mp h with ⟨es₁, es₂, now, rfl, h₁, h₂⟩ | ⟨e, h₁, -⟩
    · obtain ⟨_, pre, post, -, rfl⟩ := runs_clock h₁
      obtain ⟨rfl, rfl⟩ := runs_throws_pure.mp h₂
      exact ⟨by simp, now, rfl⟩
    · obtain ⟨_, _, _, he, -⟩ := runs_clock h₁
      cases he
  rcases runs_throws_bind.mp h with ⟨es₁, es₂, startTime, rfl, h₁, h₂⟩ | ⟨e, h₁, -⟩
  swap; · obtain ⟨_, _, _, he, -⟩ := runs_clock h₁; cases he
  rcases runs_throws_bind.mp h₂ with ⟨es₃, es₄, startedAt, rfl, h₃, h₄⟩ | ⟨e, h₃, -⟩
  swap; · obtain ⟨_, _, _, he, -⟩ := runs_clock h₃; cases he
  rcases runs_throws_bind.mp h₄ with ⟨bes, es₆, o, rfl, h₅, h₆⟩ | ⟨e, h₅, -⟩
  swap; · obtain ⟨_, -, he⟩ := runs_lift.mp h₅; cases he
  obtain ⟨_, _, _, -, rfl⟩ := runs_clock h₁
  obtain ⟨_, _, _, -, rfl⟩ := runs_clock h₃
  have hbody := runs_attempt.mp h₅
  cases o with
  | ok result =>
    obtain ⟨hfs, now, rfl⟩ := hend h₆
    exact ⟨[_, _], bes, [], es₆, startTime, startedAt, _, _, rfl, by simpa using hfs, hbody, rfl,
      .inl ⟨result, now, rfl, rfl, rfl⟩⟩
  | error err =>
    rcases runs_throws_bind.mp h₆ with ⟨cs, fs, result, rfl, h₇, h₈⟩ | ⟨e, h₇, -⟩
    · obtain ⟨hfs, now, rfl⟩ := hend h₈
      obtain ⟨_, _, _, _, -, -, he⟩ := runs_stage1Catch h₇
      obtain rfl := Except.ok.inj he
      exact ⟨[_, _], bes, cs, fs, startTime, startedAt, _, _, rfl, by simpa using hfs, hbody, rfl,
        .inr ⟨err, _, rfl, h₇, rfl, rfl, rfl, rfl⟩⟩
    · obtain ⟨_, _, _, _, -, -, he⟩ := runs_stage1Catch h₇
      cases he

/-- **The deployment in Stage 1's result**: it is the one that the history reports, unless a
measurement has thrown; then the result names none. -/
theorem execute_deployment {r : Except JsError Stage1Result} (h : (execute deps run).run.Runs es r)
    {d : EngineDeploymentResult} (hd : d ∈ deployed es) : ∃ result, r = .ok result ∧
      ((¬MeasureThrew es ∧
          result.deployment = some ⟨d.deploymentName, d.apiEndpoint, none⟩) ∨
        (MeasureThrew es ∧ ∃ message, result.Thrown message)) := by
  obtain ⟨ts, bes, cs, fs, startTime, startedAt, o, result, rfl, htf, hbody, rfl, hcases⟩ :=
    runs_execute h
  refine ⟨result, rfl, ?_⟩
  -- outside the body nothing is deployed or measured
  have hquiet : ∀ e, e ∈ ts ∨ e ∈ cs ∨ e ∈ fs → e.op.kind ∈ [.plain, .failed, .write] := by
    rintro e (he | he | he)
    · rw [htf e (List.mem_append_left _ he)]; decide
    · rcases hcases with ⟨-, -, -, rfl, -⟩ | ⟨err, c, -, hc, -⟩
      · cases he
      · have := (only_stage1Catch run).events hc e he
        exact List.mem_cons_of_mem _ this
    · rw [htf e (List.mem_append_right _ he)]; decide
  have hne : ∀ e, e ∈ ts ∨ e ∈ cs ∨ e ∈ fs → e.op.kind ≠ .deploy ∧ e.op.kind ≠ .measure :=
    fun e he => ⟨fun hk => absurd (hquiet e he) (by rw [hk]; decide),
      fun hk => absurd (hquiet e he) (by rw [hk]; decide)⟩
  have hthrew : MeasureThrew (ts ++ (bes ++ (cs ++ fs))) ↔ MeasureThrew bes := by
    simp [not_measureThrew fun e he => (hne e (.inl he)).2,
      not_measureThrew fun e he => (hne e (.inr (.inl he))).2,
      not_measureThrew fun e he => (hne e (.inr (.inr he))).2]
  have hbes : deployed (ts ++ (bes ++ (cs ++ fs))) = deployed bes := by
    simp [deployed_eq_nil fun e he => (hne e (.inl he)).1,
      deployed_eq_nil fun e he => (hne e (.inr (.inl he))).1,
      deployed_eq_nil fun e he => (hne e (.inr (.inr he))).1]
  rw [hbes] at hd
  rcases runs_throws_bind.mp hbody with ⟨es₁, es₂, ⟨modelInfo, d'⟩, rfl, h₁, h₂⟩ | ⟨e, h₁, -⟩
  · have hnone : deployed es₂ = [] :=
      deployed_eq_nil (kind_ne_of_only (only_stage1Measure deps run) (by simp) h₂)
    obtain rfl : d = d' := by
      rw [deployed_append, hnone, deploysLast_stage1Prepare W es₁ _ h₁] at hd
      exact List.mem_singleton.mp hd
    have hprep := not_measureThrew (kind_ne_of_only (only_stage1Prepare deps run) (by simp) h₁)
    have hmeasure : (∃ e, o = .error e) ↔ MeasureThrew es₂ := throwsOn_stage1Measure _ _ h₂
    rw [hthrew, measureThrew_append, ← hmeasure]
    rcases hcases with ⟨result₀, now, rfl, -, rfl⟩ | ⟨err, c, rfl, -, hthrown⟩
    · obtain ⟨hname, hurl⟩ := runs_stage1Measure h₂
      refine .inl ⟨fun h => h.elim hprep nofun, ?_⟩
      simp only [Stage1Result.deployment, hname, hurl, truthy_of_ne d.deploymentName_ne,
        truthy_of_ne d.apiEndpoint_ne]
    · exact .inr ⟨.inr ⟨err, rfl⟩, _, hthrown⟩
  · rw [deploysLast_stage1Prepare W bes _ h₁] at hd
    cases hd

/-! ## After Stage 1 -/

/-- The deployment's name in the run, the endpoint and the deferral stay as they are. -/
structure VarsKept (s s' : EntryVars) : Prop where
  name : s'.run.deployment.map (·.deploymentName) = s.run.deployment.map (·.deploymentName)
  endpoint : s'.releasePublicEndpoint = s.releasePublicEndpoint
  deferral : s'.deferInfrastructureTeardown = s.deferInfrastructureTeardown

theorem VarsKept.refl (s : EntryVars) : VarsKept s s := ⟨rfl, rfl, rfl⟩

theorem VarsKept.trans {s t u : EntryVars} (h : VarsKept s t) (h' : VarsKept t u) : VarsKept s u :=
  ⟨h'.name.trans h.name, h'.endpoint.trans h.endpoint, h'.deferral.trans h.deferral⟩

/-- The body keeps the deployment's name, the endpoint and the deferral. -/
abbrev Keeps {α : Type} (x : EntryJs α) : Prop := Preserves VarsKept x

theorem keeps_bind {β : Type} {x : EntryJs α} {f : α → EntryJs β} (hx : Keeps x) (hf : ∀ a, Keeps (f a)) :
    Keeps (x >>= f) := preserves_bind (fun _ _ _ => VarsKept.trans) hx hf

theorem keeps_pure (a : α) : Keeps (pure a) := preserves_pure VarsKept.refl a

theorem keeps_step {x : SchedJs α} : Keeps (step x) := by
  intro W es s s' r h
  rw [(runsFrom_step.mp h).2]
  exact VarsKept.refl s

theorem keeps_theRun : Keeps theRun := keeps_bind (preserves_get VarsKept.refl) fun _ => keeps_pure _

theorem keeps_modifyRun {g : PipelineRun → PipelineRun}
    (hg : ∀ run, (g run).deployment.map (·.deploymentName) = run.deployment.map (·.deploymentName)) :
    Keeps (modifyRun g) := preserves_modify fun s => ⟨hg s.run, rfl, rfl⟩

theorem keeps_localGatePhase : Keeps (localGatePhase deps entry resume leaseToken) := by
  refine preserves_ite ?_ (keeps_pure _)
  refine keeps_bind ?_ fun _ => ?_
  · exact preserves_ite (keeps_bind keeps_step fun _ => keeps_modifyRun fun _ => rfl) (keeps_pure _)
  refine keeps_bind keeps_theRun fun run => ?_
  refine keeps_bind keeps_step fun result => ?_
  refine keeps_bind (keeps_modifyRun fun _ => rfl) fun _ => ?_
  refine keeps_bind keeps_step fun _ => ?_
  exact preserves_ite (keeps_bind keeps_step fun _ => keeps_pure _) (keeps_pure _)

theorem keeps_stage1Outcome {result : Stage1Result}
    (hres : result.deployment = none) : Keeps (stage1Outcome deps entry leaseToken result) := by
  refine keeps_bind (keeps_modifyRun fun run => by rw [hres]; rfl) fun _ => ?_
  refine preserves_ite (keeps_pure _) ?_
  exact keeps_bind keeps_step fun _ => keeps_bind keeps_step fun _ => keeps_pure _

/-! ## Deferred polls -/

theorem runs_own {a : OwnOp} {r : Except JsError (OwnAns a)} (h : (own a).run.Runs es r) :
    ∃ v pre post, r = .ok v ∧ es = [⟨.own a, v, pre, post⟩] := by
  obtain ⟨v, hv, rfl⟩ := runs_lift.mp h
  obtain ⟨pre, post, rfl⟩ := runs_request.mp hv
  exact ⟨v, pre, post, rfl, rfl⟩

/-- The body reports a deferral exactly when it has started a detached poll, which takes over the
infrastructure. -/
def DefersWith (infrastructure : Infrastructure) (x : SchedJs CIEvalRunResult) : Prop :=
  ∀ (W : Type) (es : List (Event SchedAns W)) r, x.run.Runs es r →
    (r = .ok .deferred ∧ ∃ job, deferred es = [job] ∧ job.infrastructure = infrastructure) ∨
      (r ≠ .ok .deferred ∧ deferred es = [])

section Defers

variable {infrastructure : Infrastructure}

theorem defersWith_bind {x : SchedJs α} {f : α → SchedJs CIEvalRunResult} (hx : Only [.plain] x)
    (hf : ∀ a, DefersWith infrastructure (f a)) : DefersWith infrastructure (x >>= f) := by
  intro W es r h
  have hplain : ∀ {fs : List (Event SchedAns W)} {r : Except JsError α}, x.run.Runs fs r →
      deferred fs = [] := fun hr => deferred_eq_nil (kind_ne_of_only hx (by simp) hr)
  rcases runs_throws_bind.mp h with ⟨es₁, es₂, a, rfl, h₁, h₂⟩ | ⟨e, h₁, rfl⟩
  · rw [deferred_append, hplain h₁, List.nil_append]
    exact hf a W es₂ r h₂
  · exact .inr ⟨nofun, hplain h₁⟩

theorem defersWith_pure {c : CIEvalRunResult} (hc : c ≠ .deferred) :
    DefersWith infrastructure (pure c) := by
  intro W es r h
  obtain ⟨rfl, rfl⟩ := runs_throws_pure.mp h
  exact .inr ⟨fun he => hc (Except.ok.inj he), rfl⟩

theorem defersWith_deferPoll {job : DetachedPoll} (hjob : job.infrastructure = infrastructure) :
    DefersWith infrastructure (do
      own (.deferPoll job)
      return .deferred) := by
  intro W es r h
  rcases runs_throws_bind.mp h with ⟨es₁, es₂, _, rfl, h₁, h₂⟩ | ⟨e, h₁, -⟩
  · obtain ⟨v, pre, post, -, rfl⟩ := runs_own h₁
    obtain ⟨rfl, rfl⟩ := runs_throws_pure.mp h₂
    exact .inl ⟨rfl, job, rfl, hjob⟩
  · obtain ⟨_, _, _, he, -⟩ := runs_own h₁
    cases he

theorem defersWith_ite {c : Prop} [Decidable c] {x y : SchedJs CIEvalRunResult}
    (hx : DefersWith infrastructure x) (hy : DefersWith infrastructure y) :
    DefersWith infrastructure (if c then x else y) := by
  split_ifs
  · exact hx
  · exact hy

theorem defersWith_startPoll {ciEvals : CIEvalsOptions} {matrix : MatrixRun} :
    DefersWith infrastructure (startPoll deps ciEvals run infrastructure leaseToken matrix) := by
  refine defersWith_ite (defersWith_ite ?_ (defersWith_deferPoll rfl)) ?_
  · exact defersWith_bind (only_extFire (by simp)) fun _ => defersWith_deferPoll rfl
  · exact defersWith_bind (only_pollWeeklyMatrix run) fun _ => defersWith_pure nofun

theorem defersWith_runCIEvals {skipSuiteIds : Option (List String)} :
    DefersWith infrastructure (runCIEvals deps run infrastructure leaseToken skipSuiteIds) := by
  unfold runCIEvals
  split
  · refine defersWith_bind (only_extCall (by simp)) fun smoke => ?_
    refine defersWith_ite (defersWith_pure nofun) ?_
    split
    · exact defersWith_pure nofun
    · refine defersWith_bind (only_extCall (by simp)) fun payload => ?_
      exact defersWith_bind (only_clock (by simp)) fun _ => defersWith_startPoll
  · exact defersWith_pure nofun

end Defers

/-- The run names the deployment `n`, whose release is up to `processEntry`, like that of the endpoint
`c`. -/
structure Holds (n : String) (c : Option ℕ) (s : EntryVars) : Prop where
  name : s.run.deployment.map (·.deploymentName) = some n
  endpoint : s.releasePublicEndpoint = c
  deferral : s.deferInfrastructureTeardown = false

/-- The release of the deployment `n` and the endpoint `c` is up to `processEntry`, or to the one
detached poll that the history has started. -/
def HandedOn (n : String) (c : Option ℕ) (es : List (Event SchedAns W)) (s : EntryVars) : Prop :=
  s.run.deployment.map (·.deploymentName) = some n ∧
    ((s.deferInfrastructureTeardown = false ∧ s.releasePublicEndpoint = c ∧ deferred es = []) ∨
      (s.deferInfrastructureTeardown = true ∧ ∃ job, deferred es = [job] ∧
        job.infrastructure.deploymentName = n ∧ job.infrastructure.releasePublicEndpoint = c))

section HandedOn

variable {n : String} {c : Option ℕ} {s s' : EntryVars} {ks : List OpKind}

theorem Holds.keeps {x : EntryJs α} {r : Except JsError α} (hs : Holds n c s) (hx : Keeps x)
    (h : RunsFrom x s es r s') : Holds n c s' := by
  have hkept := hx W es s s' r h
  exact ⟨hkept.name.trans hs.name, hkept.endpoint.trans hs.endpoint, hkept.deferral.trans hs.deferral⟩

theorem Holds.handedOn (hs : Holds n c s) (h : ∀ e ∈ es, e.op.kind ≠ .defer) : HandedOn n c es s :=
  ⟨hs.name, .inl ⟨hs.deferral, hs.endpoint, deferred_eq_nil h⟩⟩

variable (ks) in
theorem HandedOn.keeps {fs : List (Event SchedAns W)} {x : EntryJs α} {r : Except JsError α}
    (hs : HandedOn n c es s) (hx : Keeps x) (hks : OnlyFrom ks x) (hdefer : .defer ∉ ks)
    (h : RunsFrom x s fs r s') : HandedOn n c (es ++ fs) s' := by
  have hkept := hx W fs s s' r h
  have hnil : deferred fs = [] := deferred_eq_nil (kind_ne_of_onlyFrom hks hdefer h)
  refine ⟨hkept.name.trans hs.1, ?_⟩
  rw [deferred_append, hnil, List.append_nil, hkept.deferral, hkept.endpoint]
  exact hs.2

/-- What follows events without a deferral. -/
theorem HandedOn.after {fs : List (Event SchedAns W)} (h : HandedOn n c fs s)
    (hes : ∀ e ∈ es, e.op.kind ≠ .defer) : HandedOn n c (es ++ fs) s := by
  refine ⟨h.1, ?_⟩
  rw [deferred_append, deferred_eq_nil hes, List.nil_append]
  exact h.2

theorem handedOn_ciEvalPhase {passed : Bool} {resolved : Option PublicEndpointResult}
    {r : Except JsError (Option Bool)} (hs : Holds n c s)
    (h : RunsFrom (ciEvalPhase deps entry resume leaseToken passed resolved) s es r s') :
    HandedOn n c es s' := by
  unfold ciEvalPhase at h
  rw [runsFrom_theRun_bind] at h
  split at h
  · obtain ⟨rfl, -, rfl⟩ := runsFrom_pure.mp h
    exact hs.handedOn (by simp)
  rename_i deployment hdep
  have hn : deployment.deploymentName = n := by
    have := hs.name
    rw [(Option.filter_eq_some_iff.mp hdep).1] at this
    exact Option.some.inj this
  rcases runsFrom_step_bind.mp h with ⟨es₁, es₂, skip, rfl, h₁, h₂⟩ | ⟨e, h₁, rfl, rfl⟩
  swap; · exact hs.handedOn (kind_ne_of_only only_resumeSkipSet (by simp) h₁)
  refine HandedOn.after ?_ (kind_ne_of_only only_resumeSkipSet (by simp) h₁)
  rw [runsFrom_get_bind] at h₂
  rcases runsFrom_step_bind.mp h₂ with ⟨es₃, es₄, outcome, rfl, h₃, h₄⟩ | ⟨e, h₃, rfl, rfl⟩
  swap
  · rcases defersWith_runCIEvals W _ _ h₃ with ⟨he, -⟩ | ⟨-, hnil⟩
    · cases he
    · exact ⟨hs.name, .inl ⟨hs.deferral, hs.endpoint, hnil⟩⟩
  rcases defersWith_runCIEvals W _ _ h₃ with ⟨he, job, hjob, hinfra⟩ | ⟨hne, hnil⟩
  · -- the poll is deferred
    obtain rfl := Except.ok.inj he
    rw [runsFrom_modify_bind] at h₄
    obtain ⟨rfl, -, rfl⟩ := runsFrom_pure.mp h₄
    refine ⟨hs.name, .inr ⟨rfl, job, by rw [List.append_nil]; exact hjob, ?_⟩⟩
    rw [hinfra]
    exact ⟨hn, hs.endpoint⟩
  · have hheld : HandedOn n c es₃ s := ⟨hs.name, .inl ⟨hs.deferral, hs.endpoint, hnil⟩⟩
    cases outcome with
    | aborted reason =>
      exact hheld.keeps _ (keeps_bind keeps_step fun _ => keeps_pure _) (usesFrom_bind
        (onlyFrom_step (only_failEntry deps)) fun _ => usesFrom_pure _) (by simp) h₄
    | deferred => exact absurd rfl hne
    | finished stage2Result =>
      cases stage2Result with
      | none =>
        obtain ⟨rfl, -, rfl⟩ := runsFrom_pure.mp h₄
        rwa [List.append_nil]
      | some stage2Result =>
        refine hheld.keeps [.plain] ?_ ?_ (by simp) h₄
        · refine keeps_bind (keeps_modifyRun fun _ => rfl) fun _ => ?_
          exact keeps_bind keeps_step fun _ => keeps_pure _
        · refine usesFrom_bind onlyFrom_modifyRun fun _ => ?_
          exact usesFrom_bind (onlyFrom_step (only_extCall (by simp))) fun _ => usesFrom_pure _

/-- **The tunnel phase**: nothing without a deployment; else the resolution of its endpoint, which the
variables then hold. -/
theorem runsFrom_tunnelPhase {r : Except JsError (Option PublicEndpointResult)}
    (h : RunsFrom (tunnelPhase deps) s es r s') :
    (s.run.deployment = none ∧ es = [] ∧ s' = s) ∨
      ∃ deployment o, s.run.deployment = some deployment ∧
        (resolveDeployment deps deployment).run.Runs es o ∧
        ((∃ err, o = .error err ∧ s' = s ∧ r = .error err) ∨
          ∃ resolved, o = .ok resolved ∧ s'.releasePublicEndpoint = some resolved.cleanup ∧
            s'.deferInfrastructureTeardown = s.deferInfrastructureTeardown ∧
            s'.run.deployment.map (·.deploymentName) = some deployment.deploymentName) := by
  unfold tunnelPhase at h
  rw [runsFrom_theRun_bind] at h
  split at h
  · rename_i hnone
    obtain ⟨rfl, -, rfl⟩ := runsFrom_pure.mp h
    exact .inl ⟨hnone, rfl, rfl⟩
  rename_i deployment hdep
  refine .inr ⟨deployment, ?_⟩
  rcases runsFrom_step_bind.mp h with ⟨es₁, es₂, resolved, rfl, h₁, h₂⟩ | ⟨e, h₁, rfl, rfl⟩
  · rw [runsFrom_modifyRun_bind, runsFrom_modify_bind] at h₂
    obtain ⟨rfl, -, rfl⟩ := runsFrom_pure.mp h₂
    refine ⟨_, hdep, by rwa [List.append_nil], .inr ⟨resolved, rfl, rfl, rfl, ?_⟩⟩
    rw [hdep]
    rfl
  · exact ⟨_, hdep, h₁, .inl ⟨e, rfl, rfl, rfl⟩⟩

/-- **What follows Stage 1**: the tunnel phase, and then, unless it has thrown, phases that resolve and
release no endpoint and hand on what the tunnel phase holds. -/
theorem runsFrom_afterStage1 {r : Except JsError Unit} (hs : Holds n c s)
    (h : RunsFrom (afterStage1 deps entry resume leaseToken) s es r s') :
    ∃ ts rs t o, es = ts ++ rs ∧ RunsFrom (tunnelPhase deps) s ts o t ∧
      (∀ err, o = .error err → rs = []) ∧ (∀ e ∈ rs, e.op.kind ≠ .tunnel ∧ e.op.kind ≠ .cleanup) ∧
      HandedOn n t.releasePublicEndpoint rs s' := by
  have htunnel : ∀ {fs : List (Event SchedAns W)} {r t}, RunsFrom (tunnelPhase deps) s fs r t →
      Holds n t.releasePublicEndpoint t := by
    intro fs r t hr
    rcases runsFrom_tunnelPhase hr with ⟨-, -, rfl⟩ | ⟨deployment, o, hdep, -, ⟨err, -, rfl, -⟩ |
      ⟨resolved, -, -, hdefer, hname⟩⟩
    · exact ⟨hs.name, rfl, hs.deferral⟩
    · exact ⟨hs.name, rfl, hs.deferral⟩
    · refine ⟨hname.trans ?_, rfl, hdefer.trans hs.deferral⟩
      rw [← hs.name, hdep]
      rfl
  rcases runsFrom_bind.mp h with ⟨es₁, es₂, resolved, t, rfl, h₁, h₂⟩ | ⟨e, h₁, rfl⟩
  swap
  · exact ⟨es, [], s', _, (List.append_nil es).symm, h₁, fun _ _ => rfl, by simp,
      (htunnel h₁).handedOn (by simp)⟩
  refine ⟨es₁, es₂, t, _, rfl, h₁, (fun err herr => by cases herr), ?_, ?_⟩
  · -- the phases after the tunnel issue neither kind
    suffices honly : OnlyFrom [.plain, .write, .record, .cooldown, .enqueue, .defer, .localEval] _ from
      fun e he => ⟨kind_ne_of_onlyFrom honly (by simp) h₂ e he, kind_ne_of_onlyFrom honly (by simp) h₂ e he⟩
    refine usesFrom_bind ((onlyFrom_localGatePhase deps entry leaseToken).mono (by simp)) fun gate => ?_
    split
    · exact usesFrom_pure _
    refine usesFrom_bind ((onlyFrom_ciEvalPhase deps entry leaseToken).mono (by simp)) fun done => ?_
    split
    · refine usesFrom_bind onlyFrom_theRun fun run => ?_
      exact onlyFrom_step ((only_finalizePipeline deps run).mono (by simp))
    · exact usesFrom_pure _
  have ht := htunnel h₁
  have hgate : ∀ {fs : List (Event SchedAns W)} {r u},
      RunsFrom (localGatePhase deps entry resume leaseToken) t fs r u →
      Holds n t.releasePublicEndpoint u ∧ ∀ e ∈ fs, e.op.kind ≠ .defer := fun hr =>
    ⟨ht.keeps keeps_localGatePhase hr,
      kind_ne_of_onlyFrom (onlyFrom_localGatePhase deps entry leaseToken) (by simp) hr⟩
  rcases runsFrom_bind.mp h₂ with ⟨es₃, es₄, gate, u, rfl, h₃, h₄⟩ | ⟨e, h₃, rfl⟩
  swap; · exact (hgate h₃).1.handedOn (hgate h₃).2
  obtain ⟨hu, hes₃⟩ := hgate h₃
  refine HandedOn.after ?_ hes₃
  cases gate with
  | none =>
    obtain ⟨rfl, -, rfl⟩ := runsFrom_pure.mp h₄
    exact hu.handedOn (by simp)
  | some passed =>
    rcases runsFrom_bind.mp h₄ with ⟨es₅, es₆, done, v, rfl, h₅, h₆⟩ | ⟨e, h₅, rfl⟩
    swap; · exact handedOn_ciEvalPhase hu h₅
    have hv := handedOn_ciEvalPhase hu h₅
    refine hv.keeps [.plain, .write] ?_ ?_ (by simp) h₆
    · split
      · exact keeps_bind keeps_theRun fun _ => keeps_step
      · exact keeps_pure _
    · split
      · exact usesFrom_bind onlyFrom_theRun fun run => onlyFrom_step (only_finalizePipeline deps run)
      · exact usesFrom_pure _

/-- A phase that does not skip Stage 1 has not touched the variables. -/
theorem runsFrom_skipPhase (h : RunsFrom (skipPhase entry resume) s es (.ok false) s') : s' = s := by
  have hresume : ∀ {fs : List (Event SchedAns W)} {t t'},
      RunsFrom (resumePhase entry) t fs (.ok false) t' → t' = t := by
    intro fs t t' h
    rcases runsFrom_step_bind.mp h with ⟨_, _, existing, rfl, -, h₂⟩ | ⟨e, -, rfl, -⟩
    · cases existing with
      | none => exact (runsFrom_pure.mp h₂).2.2.symm
      | some existing =>
        rcases runsFrom_bind.mp h₂ with ⟨_, _, _, t, rfl, -, h₃⟩ | ⟨e, -, he⟩
        · cases (runsFrom_pure.mp h₃).2.1
        · cases he
    · rfl
  rcases runsFrom_bind.mp h with ⟨es₁, es₂, evalOnly, t, rfl, h₁, h₂⟩ | ⟨e, -, he⟩
  swap; · cases he
  unfold evalOnlyPhase at h₁
  split at h₁
  · rcases runsFrom_bind.mp h₁ with ⟨_, _, _, u, rfl, -, h₃⟩ | ⟨e, -, he⟩
    · obtain ⟨-, hres, rfl⟩ := runsFrom_pure.mp h₃
      obtain rfl := Except.ok.inj hres
      simp only [Bool.not_true, Bool.and_false, Bool.false_eq_true, if_false] at h₂
      cases (runsFrom_pure.mp h₂).2.1
    · cases he
  · obtain ⟨-, hres, rfl⟩ := runsFrom_pure.mp h₁
    split_ifs at h₂
    · exact hresume h₂
    · exact (runsFrom_pure.mp h₂).2.2.symm

/-- A result that names a deployment gives it to the run. -/
theorem runsFrom_stage1Outcome {result : Stage1Result} {r : Except JsError Bool}
    {deployment : DeploymentInfo} (hres : result.deployment = some deployment)
    (h : RunsFrom (stage1Outcome deps entry leaseToken result) s es r s') :
    s'.run.deployment.map (·.deploymentName) = some deployment.deploymentName ∧
      s'.deferInfrastructureTeardown = s.deferInfrastructureTeardown ∧
      s'.releasePublicEndpoint = s.releasePublicEndpoint := by
  unfold stage1Outcome at h
  rw [runsFrom_modifyRun_bind, hres] at h
  have hkeeps : Keeps (if result.status = .success ∨
      (result.stage2Eligible = some true ∧ deps.stage2Worker) then return true
    else do
      step (dropTunnel deps)
      step (failEntry deps entry (result.error.getD "Stage 1 benchmark failed") leaseToken)
      return false) :=
    preserves_ite (keeps_pure _) (keeps_bind keeps_step fun _ => keeps_bind keeps_step fun _ => keeps_pure _)
  have hkept := hkeeps W es _ _ r h
  exact ⟨hkept.name, hkept.deferral, hkept.endpoint⟩

/-- A result that has thrown fails the entry. -/
theorem runsFrom_stage1Outcome_thrown {result : Stage1Result} {message : String}
    {r : Except JsError Bool} (hres : result.Thrown message)
    (h : RunsFrom (stage1Outcome deps entry leaseToken result) s es r s') :
    VarsKept s s' ∧ r ≠ .ok true := by
  refine ⟨keeps_stage1Outcome hres.deployment W es s s' r h, ?_⟩
  unfold stage1Outcome at h
  have hstop : ¬(result.status = .success ∨ (result.stage2Eligible = some true ∧ deps.stage2Worker)) := by
    simp [hres.status, hres.stage2Eligible]
  rw [runsFrom_modifyRun_bind, if_neg hstop] at h
  rcases runsFrom_step_bind.mp h with ⟨_, _, _, -, -, h₁⟩ | ⟨e, -, -, rfl⟩
  · rcases runsFrom_step_bind.mp h₁ with ⟨_, _, _, -, -, h₂⟩ | ⟨e, -, -, rfl⟩
    · obtain ⟨-, rfl, -⟩ := runsFrom_pure.mp h₂
      exact nofun
    · exact nofun
  · exact nofun

/-- **Stage 1 with a deployment**: the run names it afterwards, unless a measurement has thrown;
then the entry has failed and the run names none. -/
theorem runsFrom_stage1Phase {skipped : Bool} {r : Except JsError Bool}
    (h : RunsFrom (stage1Phase deps entry leaseToken skipped) s es r s')
    (hs : skipped = false → s.run.deployment = none ∧ s.deferInfrastructureTeardown = false)
    {d : EngineDeploymentResult} (hd : d ∈ deployed es) :
    (¬MeasureThrew es ∧ Holds d.deploymentName s'.releasePublicEndpoint s') ∨
      (MeasureThrew es ∧ s'.run.deployment = none ∧ s'.deferInfrastructureTeardown = false ∧
        r ≠ .ok true) := by
  cases skipped with
  | true =>
    obtain ⟨rfl, -, -⟩ := runsFrom_pure.mp h
    cases hd
  | false =>
    obtain ⟨hnone, hdefer⟩ := hs rfl
    have hupd : Only [.plain] (queueCall (.updateStatus entry.id .deploying none none)) :=
      only_queueCall (by simp [Status.terminal])
    rcases runsFrom_step_bind.mp h with ⟨es₁, es₂, _, rfl, h₁, h₂⟩ | ⟨e, h₁, -, -⟩
    swap
    · rw [deployed_eq_nil (kind_ne_of_only hupd (by simp) h₁)] at hd
      cases hd
    rw [runsFrom_theRun_bind] at h₂
    rcases runsFrom_step_bind.mp h₂ with ⟨es₃, es₄, result, rfl, h₃, h₄⟩ | ⟨e, h₃, -, -⟩
    swap
    · obtain ⟨_, _, _, _, _, _, _, _, -, -, -, he, -⟩ := runs_execute h₃
      cases he
    have hout := @onlyFrom_stage1Outcome deps entry leaseToken result
    rw [deployed_append, deployed_append, deployed_eq_nil (kind_ne_of_only hupd (by simp) h₁),
      deployed_eq_nil (kind_ne_of_onlyFrom hout (by simp) h₄), List.nil_append, List.append_nil] at hd
    have hquiet : MeasureThrew (es₁ ++ (es₃ ++ es₄)) ↔ MeasureThrew es₃ := by
      simp [not_measureThrew (kind_ne_of_only hupd (by simp) h₁),
        not_measureThrew (kind_ne_of_onlyFrom hout (by simp) h₄)]
    rw [hquiet]
    obtain ⟨_, hr, ⟨hno, hdep⟩ | ⟨hyes, message, hthrown⟩⟩ := execute_deployment h₃ hd
    · obtain rfl := Except.ok.inj hr
      obtain ⟨hname, hkept, -⟩ := runsFrom_stage1Outcome hdep h₄
      exact .inl ⟨hno, hname, rfl, hkept.trans hdefer⟩
    · obtain rfl := Except.ok.inj hr
      obtain ⟨hkept, hne⟩ := runsFrom_stage1Outcome_thrown hthrown h₄
      refine .inr ⟨hyes, Option.map_eq_none_iff.mp (hkept.name.trans ?_), hkept.deferral.trans hdefer, hne⟩
      rw [hnone]
      rfl

/-- **A `try` block with a deployment**: the run names it and its release is handed on, unless a
measurement has thrown; then the run names none. -/
theorem runsFrom_entryBody {r : Except JsError Unit}
    (h : RunsFrom (entryBody deps entry resume leaseToken) s es r s')
    (hs : s.run.deployment = none) (hdefer : s.deferInfrastructureTeardown = false)
    {d : EngineDeploymentResult} (hd : d ∈ deployed es) :
    (¬MeasureThrew es ∧ ∃ c, HandedOn d.deploymentName c es s') ∨
      (MeasureThrew es ∧ s'.run.deployment = none ∧
        s'.deferInfrastructureTeardown = false ∧ deferred es = []) := by
  have hskip := @onlyFrom_skipPhase entry resume
  have htunnel := only_startTunnel deps
  have hafter := @onlyFrom_afterStage1 deps entry leaseToken resume
  unfold entryBody at h
  rw [runsFrom_modifyRun_bind] at h
  rcases runsFrom_bind.mp h with ⟨es₁, es₂, skipped, t, rfl, h₁, h₂⟩ | ⟨e, h₁, -⟩
  swap
  · rw [deployed_eq_nil (kind_ne_of_onlyFrom hskip (by simp) h₁)] at hd
    cases hd
  rw [deployed_append, deployed_eq_nil (kind_ne_of_onlyFrom hskip (by simp) h₁),
    List.nil_append] at hd
  rcases runsFrom_step_bind.mp h₂ with ⟨es₃, es₄, _, rfl, h₃, h₄⟩ | ⟨e, h₃, -, -⟩
  swap
  · rw [deployed_eq_nil (kind_ne_of_only htunnel (by simp) h₃)] at hd
    cases hd
  rw [deployed_append, deployed_eq_nil (kind_ne_of_only htunnel (by simp) h₃),
    List.nil_append] at hd
  -- what comes before Stage 1 neither measures nor defers
  have hquiet : ∀ fs, (MeasureThrew (es₁ ++ (es₃ ++ fs)) ↔ MeasureThrew fs) ∧
      deferred (es₁ ++ (es₃ ++ fs)) = deferred fs := fun fs => by
    simp [not_measureThrew (kind_ne_of_onlyFrom hskip (by simp) h₁),
      not_measureThrew (kind_ne_of_only htunnel (by simp) h₃),
      deferred_eq_nil (kind_ne_of_onlyFrom hskip (by simp) h₁),
      deferred_eq_nil (kind_ne_of_only htunnel (by simp) h₃)]
  have hhand : ∀ {fs n}, (∃ c, HandedOn n c (es₁ ++ (es₃ ++ fs)) s') ↔ ∃ c, HandedOn n c fs s' := by
    intro fs n
    simp only [HandedOn, (hquiet fs).2]
  rw [(hquiet es₄).1, (hquiet es₄).2, hhand]
  have ht : skipped = false → t.run.deployment = none ∧ t.deferInfrastructureTeardown = false := by
    rintro rfl
    obtain rfl := runsFrom_skipPhase h₁
    exact ⟨hs, hdefer⟩
  have hstage1 := @onlyFrom_stage1Phase deps entry leaseToken skipped
  rcases runsFrom_bind.mp h₄ with ⟨es₅, es₆, goesOn, u, rfl, h₅, h₆⟩ | ⟨e, h₅, rfl⟩
  swap
  · rcases runsFrom_stage1Phase h₅ ht hd with ⟨hno, hu⟩ | ⟨hyes, hnone, hu, -⟩
    · exact .inl ⟨hno, _, hu.handedOn (kind_ne_of_onlyFrom hstage1 (by simp) h₅)⟩
    · exact .inr ⟨hyes, hnone, hu, deferred_eq_nil (kind_ne_of_onlyFrom hstage1 (by simp) h₅)⟩
  have hes₆ : ∀ k ∉ [OpKind.plain, .write, .record, .cooldown, .enqueue, .defer, .tunnel, .cleanup,
      .localEval], ∀ e ∈ es₆, e.op.kind ≠ k := by
    intro k hk
    split_ifs at h₆
    · exact kind_ne_of_onlyFrom hafter hk h₆
    · obtain ⟨rfl, -, -⟩ := runsFrom_pure.mp h₆
      simp
  rw [deployed_append, deployed_eq_nil (hes₆ _ (by simp)), List.append_nil] at hd
  rw [measureThrew_append, or_iff_left (not_measureThrew (hes₆ _ (by simp)))]
  have hes₅ := kind_ne_of_onlyFrom hstage1 (k := .defer) (by simp) h₅
  rcases runsFrom_stage1Phase h₅ ht hd with ⟨hno, hu⟩ | ⟨hyes, hnone, hu, hne⟩
  · refine .inl ⟨hno, ?_⟩
    split_ifs at h₆
    · obtain ⟨ts, rs, v, o, rfl, htun, -, -, hv⟩ := runsFrom_afterStage1 hu h₆
      have hts := kind_ne_of_onlyFrom (onlyFrom_tunnelPhase deps) (k := .defer) (by simp) htun
      exact ⟨_, (hv.after hts).after hes₅⟩
    · obtain ⟨rfl, -, rfl⟩ := runsFrom_pure.mp h₆
      exact ⟨_, (hu.handedOn (by simp)).after hes₅⟩
  · cases goesOn with
    | true => exact absurd rfl hne
    | false =>
      obtain ⟨rfl, -, rfl⟩ := runsFrom_pure.mp h₆
      exact .inr ⟨hyes, hnone, hu, by rw [List.append_nil]; exact deferred_eq_nil hes₅⟩

end HandedOn

/-! ## The entry -/

/-- The `finally` block: nothing, or the requests of the release. It does not throw. -/
theorem runs_entryFinally {vars : EntryVars} {r : Except JsError Unit}
    (h : (entryFinally vars).run.Runs es r) : r = .ok () ∧ es.map (·.op) =
      if vars.deferInfrastructureTeardown then []
      else releaseOps vars.releasePublicEndpoint (vars.run.deployment.map (·.deploymentName)) false := by
  unfold entryFinally at h
  split_ifs at h ⊢
  · obtain ⟨rfl, rfl⟩ := runs_throws_pure.mp h
    exact ⟨rfl, rfl⟩
  · exact runs_releaseInfrastructure h

/-- **The blocks of `processEntry`**: the `try` block ends in an outcome and with variables, the
`catch` block sees the one and the `finally` block the other. -/
theorem runs_entryTry {r : Except JsError Unit}
    (h : (entryTry deps entry resume leaseToken run).run.Runs es r) :
    ∃ bes cs fs outcome vars, es = bes ++ (cs ++ fs) ∧
      RunsFrom (entryBody deps entry resume leaseToken) { run := run } bes outcome vars ∧
      (entryCatch deps entry leaseToken outcome).run.Runs cs r ∧
      (entryFinally vars).run.Runs fs (.ok ()) := by
  rcases runs_throws_bind.mp h with ⟨bes, es₂, ⟨outcome, vars⟩, rfl, h₁, h₂⟩ | ⟨e, h₁, -⟩
  swap; · obtain ⟨_, -, he⟩ := runs_lift.mp h₁; cases he
  obtain ⟨_, hbody, he⟩ := runs_lift.mp h₁
  obtain rfl := Except.ok.inj he
  rcases runs_throws_bind.mp h₂ with ⟨cs, es₃, caught, rfl, h₃, h₄⟩ | ⟨e, h₃, -⟩
  swap; · obtain ⟨_, -, he⟩ := runs_lift.mp h₃; cases he
  have hcatch := runs_attempt.mp h₃
  rcases runs_throws_bind.mp h₄ with ⟨fs, es₄, _, rfl, h₅, h₆⟩ | ⟨e, h₅, -⟩
  swap; · cases (runs_entryFinally h₅).1
  have hend : es₄ = [] ∧ r = caught := by
    cases caught with
    | ok a =>
      obtain ⟨rfl, rfl⟩ := runs_throws_pure.mp h₆
      exact ⟨rfl, rfl⟩
    | error err =>
      obtain ⟨rfl, rfl⟩ := runs_throw.mp h₆
      exact ⟨rfl, rfl⟩
  obtain ⟨rfl, rfl⟩ := hend
  exact ⟨bes, cs, fs, outcome, vars, by rw [List.append_nil], hbody, hcatch, h₅⟩

theorem runs_isModelCooldown {modelId : String} {r : Except JsError Bool}
    (h : (isModelCooldown modelId).run.Runs es r) : ∃ active, r = .ok active := by
  rcases runs_throws_bind.mp h with ⟨es₁, es₂, now, rfl, -, h₂⟩ | ⟨e, h₁, -⟩
  swap; · obtain ⟨_, _, _, he, -⟩ := runs_clock h₁; cases he
  rcases runs_throws_bind.mp h₂ with ⟨es₃, es₄, ⟨active, expired⟩, rfl, -, h₄⟩ | ⟨e, h₃, -⟩
  swap; · obtain ⟨_, _, _, he, -⟩ := runs_own h₃; cases he
  cases expired with
  | false => exact ⟨active, (runs_throws_pure.mp h₄).2.symm⟩
  | true =>
    rcases runs_throws_bind.mp h₄ with ⟨es₅, es₆, _, rfl, -, h₆⟩ | ⟨e, h₅, -⟩
    · exact ⟨active, (runs_throws_pure.mp h₆).2.symm⟩
    · cases (runs_dropped h₅).1

/-- The cancellation of an entry whose model is on cooldown. -/
def cancelCooled (entry : QueueEntry) : SchedJs Unit := do
  let _ ← queueCall (.updateStatus entry.id .cancelled none none)
  return ()

theorem only_cancelCooled : Only [.write] (cancelCooled entry) :=
  uses_throws_bind (only_queueCall (by simp [Status.terminal])) fun _ => uses_throws_pure _

/-- **The course of `processEntry`**: it looks up the lease token, and then fails the entry for its
format, cancels it for its model's cooldown, or tries it. -/
theorem runs_processEntry_cases {r : Except JsError Unit}
    (h : (processEntry deps entry resume).run.Runs es r) :
    ∃ ps ts leaseToken, es = ps ++ ts ∧ (∀ e ∈ ps, e.op.kind = .plain) ∧
      (∃ pre post, (⟨.own (.leaseOf entry.id), leaseToken, pre, post⟩ : Event SchedAns W) ∈ ps) ∧
      ((∃ message, (failEntry deps entry message leaseToken).run.Runs ts r) ∨
        (cancelCooled entry).run.Runs ts r ∨
        ∃ run, run.queueEntryId = entry.id ∧ run.deployment = none ∧
          (entryTry deps entry resume leaseToken run).run.Runs ts r) := by
  rcases runs_throws_bind.mp h with ⟨es₁, es₂, runId, rfl, h₁, h₂⟩ | ⟨e, h₁, -⟩
  swap; · obtain ⟨_, -, he⟩ := runs_lift.mp h₁; cases he
  obtain ⟨_, hu, -⟩ := runs_lift.mp h₁
  obtain ⟨pre, post, rfl⟩ := runs_request.mp hu
  rcases runs_throws_bind.mp h₂ with ⟨es₃, es₄, startedAt, rfl, h₃, h₄⟩ | ⟨e, h₃, -⟩
  swap; · obtain ⟨_, _, _, he, -⟩ := runs_clock h₃; cases he
  obtain ⟨_, _, _, -, rfl⟩ := runs_clock h₃
  rcases runs_throws_bind.mp h₄ with ⟨es₅, es₆, leaseToken, rfl, h₅, h₆⟩ | ⟨e, h₅, -⟩
  swap; · obtain ⟨_, _, _, he, -⟩ := runs_own h₅; cases he
  obtain ⟨token, pre', post', he, rfl⟩ := runs_own h₅
  obtain rfl := Except.ok.inj he
  split at h₆
  · exact ⟨[_, _, _], es₆, leaseToken, rfl, by simp, ⟨pre', post', by simp⟩, .inl ⟨_, h₆⟩⟩
  have hcooldown : Only [.plain] (isModelCooldown entry.modelId) := only_isModelCooldown (by simp)
  rcases runs_throws_bind.mp h₆ with ⟨es₇, es₈, active, rfl, h₇, h₈⟩ | ⟨e, h₇, -⟩
  swap; · obtain ⟨_, he⟩ := runs_isModelCooldown h₇; cases he
  have hactive : ∀ e ∈ es₇, e.op.kind = .plain := fun e he => by
    simpa using hcooldown.events h₇ e he
  refine ⟨_ :: _ :: _ :: es₇, es₈, leaseToken, rfl, by simpa using hactive, ⟨pre', post', by simp⟩, ?_⟩
  split_ifs at h₈
  · exact .inr (.inl h₈)
  · exact .inr (.inr ⟨_, rfl, rfl, h₈⟩)

/-- A history of `processEntry` with a request that only its `try` block issues: the lease token is
looked up, and the entry is tried under it. -/
theorem runs_processEntry {r : Except JsError Unit}
    (h : (processEntry deps entry resume).run.Runs es r) {k : OpKind}
    (hk : k ∉ [OpKind.plain, .write, .record, .cooldown, .enqueue]) (hes : ∃ e ∈ es, e.op.kind = k) :
    ∃ ps ts run leaseToken, es = ps ++ ts ∧ (∀ e ∈ ps, e.op.kind = .plain) ∧
      (∃ pre post, (⟨.own (.leaseOf entry.id), leaseToken, pre, post⟩ : Event SchedAns W) ∈ ps) ∧
      run.queueEntryId = entry.id ∧ run.deployment = none ∧
      (entryTry deps entry resume leaseToken run).run.Runs ts r := by
  obtain ⟨ps, ts, leaseToken, rfl, hps, hlease, hcases⟩ := runs_processEntry_cases h
  obtain ⟨e, he, hek⟩ := hes
  rcases hcases with ⟨message, hfail⟩ | hcancel | ⟨run, hid, hdep, htry⟩
  · rcases List.mem_append.mp he with he | he
    · exact absurd (by rw [← hek, hps e he]; simp) hk
    · exact absurd hek (kind_ne_of_only (only_failEntry deps) hk hfail e he)
  · rcases List.mem_append.mp he with he | he
    · exact absurd (by rw [← hek, hps e he]; simp) hk
    · have hmem := only_cancelCooled.events hcancel e he
      rw [hek, List.mem_singleton] at hmem
      exact absurd (by rw [hmem]; simp) hk
  · exact ⟨ps, ts, run, leaseToken, rfl, hps, hlease, hid, hdep, htry⟩

end Course

end Benchmarker
