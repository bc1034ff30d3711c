import Benchmarker.Scheduler.Course

/-!
# The teardown of a deployed container

A container that Stage 1 has deployed is stopped by the `finally` block of `processEntry`, or by the
detached poll that has taken it over. Both find it by the name in the run, and Stage 1 hands that
name out only with a filled result: when a measurement throws after the deployment, the name is lost
and nothing stops the container.

* `stops`, `CatchAborts`.
* **`benchmark_leaks`**: a benchmark throws and the container is never stopped.
* **`deployed_stopped_once`**: exactly when a deployed container is stopped once.
-/

namespace Benchmarker

open Js Async Async.Prog

section Stops

variable {W : Type} {name : String} {es fs : List (Event SchedAns W)}

/-- The requests of a history that stop a deployment. -/
def stops (name : String) (es : List (Event SchedAns W)) : ℕ :=
  (es.map (·.op)).count (.ext (.stop name))

@[simp] theorem stops_append : stops name (es ++ fs) = stops name es + stops name fs := by
  simp [stops]

@[simp] theorem stops_nil : stops name ([] : List (Event SchedAns W)) = 0 := rfl

theorem stops_eq_zero (h : ∀ e ∈ es, e.op.kind ≠ .stop) : stops name es = 0 := by
  refine List.count_eq_zero.mpr fun hmem => ?_
  obtain ⟨e, he, hop⟩ := List.mem_map.mp hmem
  exact h e he (by rw [hop]; rfl)

theorem stops_releaseOps {release : Option ℕ} {guard : Bool} (hname : name ≠ "")
    (h : es.map (·.op) = releaseOps release (some name) guard) : stops name es = 1 := by
  rw [stops, h, releaseOps, truthy_of_ne hname]
  cases release <;> cases guard <;> simp

theorem stops_releaseOps_none {release : Option ℕ} {guard : Bool}
    (h : es.map (·.op) = releaseOps release none guard) : stops name es = 0 := by
  rw [stops, h, releaseOps]
  cases release <;> cases guard <;> simp [truthy]

/-- The stops are among the releases. -/
theorem stops_eq_count : stops name es = (teardown es).count (.ext (.stop name)) := by
  rw [stops, teardown, List.count_filter rfl]

/-- The detached poll or its handler throws an error that is not transient, and the terminal write of
the `catch` handler throws in turn. -/
def CatchAborts (deps : SchedulerDeps) (job : DetachedPoll) (fs : List SchedEvent) : Prop :=
  ∃ bes gs err, fs = bes ++ gs ∧ (pollAndHandle deps job).run.Runs bes (.error err) ∧
    isTransientNetworkError err.message = false ∧ CatchWriteThrows job err gs

end Stops

section Teardown

variable {deps : SchedulerDeps} {entry : QueueEntry} {resume : Bool} {es fs : List SchedEvent}
variable {r : Except JsError Unit}

/-- **What a detached poll releases**: everything, unless its `catch` handler aborts it; then nothing. -/
theorem teardown_detachedPoll {job : DetachedPoll} (h : (detachedPoll deps job).run.Runs fs r) :
    (CatchAborts deps job fs ∧ teardown fs = []) ∨
      (¬CatchAborts deps job fs ∧ teardown fs = releaseOps job.infrastructure.releasePublicEndpoint
        (some job.infrastructure.deploymentName) job.guarded) := by
  obtain ⟨bes, cs, rs, o, rfl, hb, hcases⟩ := runs_detachedPoll h
  have hbes : teardown bes = [] := teardown_eq_nil (only_pollAndHandle deps) (by simp) (by simp) hb
  have haborts : CatchAborts deps job (bes ++ (cs ++ rs)) ↔ ∃ err, o = .error err ∧
      isTransientNetworkError err.message = false ∧ CatchWriteThrows job err (cs ++ rs) := by
    constructor
    · rintro ⟨bes', gs, err, heq, hb', ht, hw⟩
      obtain ⟨rfl, rfl⟩ := hb.append_inj hb' heq
      obtain rfl := List.append_cancel_left heq
      exact ⟨err, rfl, ht, hw⟩
    · rintro ⟨err, rfl, ht, hw⟩
      exact ⟨bes, _, err, rfl, hb, ht, hw⟩
  rw [haborts, teardown_append, teardown_append, hbes, List.nil_append]
  rcases hcases with ⟨err, e, rfl, rfl, rfl, hc⟩ | ⟨hcatch, rfl, hops⟩
  · obtain ⟨hcs, htrans, hnon⟩ := runs_pollCatch hc
    refine .inl ⟨⟨err, rfl, ?_⟩, by rw [hcs]; rfl⟩
    cases ht : isTransientNetworkError err.message with
    | true => cases (htrans ht).2
    | false =>
      refine ⟨rfl, ?_⟩
      by_contra hw
      cases ((hnon ht).2 []).mpr hw
  · have hcs : teardown cs = [] := by
      rcases hcatch with ⟨-, rfl⟩ | ⟨err, -, hc⟩
      · rfl
      · exact (runs_pollCatch hc).1
    refine .inr ⟨?_, by rw [hcs, teardown_releaseOps hops, List.nil_append]⟩
    rintro ⟨err, rfl, ht, hw⟩
    rcases hcatch with ⟨he, -⟩ | ⟨err', he, hc⟩
    · cases he
    · obtain rfl := Except.error.inj he
      obtain ⟨-, -, hnon⟩ := runs_pollCatch hc
      exact ((hnon ht).2 rs).mp rfl hw

/-- A detached poll stops its deployment once, unless its `catch` handler aborts it. -/
theorem stops_detachedPoll {job : DetachedPoll} (hname : job.infrastructure.deploymentName ≠ "")
    (h : (detachedPoll deps job).run.Runs fs r) :
    stops job.infrastructure.deploymentName fs = 1 ↔ ¬CatchAborts deps job fs := by
  rcases teardown_detachedPoll h with ⟨haborts, hnil⟩ | ⟨hnot, hops⟩
  · rw [stops_eq_count, hnil]
    exact iff_of_false (by simp) fun hn => hn haborts
  · rw [stops_eq_count, hops, releaseOps, truthy_of_ne hname]
    refine iff_of_true ?_ hnot
    cases job.infrastructure.releasePublicEndpoint <;> cases job.guarded <;> simp

/-- **A deployed container is stopped exactly once**, by `processEntry` or by the detached poll that
it has started, if and only if no measurement of Stage 1 has thrown and the poll is not aborted by
its `catch` handler. -/
theorem deployed_stopped_once (h : (processEntry deps entry resume).run.Runs es r)
    {d : EngineDeploymentResult} (hd : d ∈ deployed es)
    (hsettled : ∀ job ∈ deferred es, ∃ o, (detachedPoll deps job).run.Runs fs o)
    (hnone : deferred es = [] → fs = []) :
    stops d.deploymentName (es ++ fs) = 1 ↔
      ¬MeasureThrew es ∧ ∀ job ∈ deferred es, ¬CatchAborts deps job fs := by
  have hdeploy : ∃ e ∈ es, e.op.kind = .deploy := by
    obtain ⟨e, he, hed⟩ := List.mem_filterMap.mp hd
    exact ⟨e, he, kind_of_deployedBy hed⟩
  obtain ⟨ps, ts, run, leaseToken, rfl, hps, -, -, hdep, ht⟩ :=
    runs_processEntry h (by simp) hdeploy
  obtain ⟨bes, cs, gs, outcome, vars, rfl, hbody, hcatch, hfinally⟩ := runs_entryTry ht
  obtain ⟨-, hops⟩ := runs_entryFinally hfinally
  -- outside the `try` block nothing is deployed, measured or deferred
  have hpre : ∀ k ∉ [OpKind.plain], ∀ e ∈ ps, e.op.kind ≠ k := fun k hk e he hek =>
    hk (by rw [← hek, hps e he]; simp)
  have hcs : ∀ k ∉ [OpKind.plain, .write, .record, .cooldown, .enqueue], ∀ e ∈ cs, e.op.kind ≠ k :=
    fun k hk => kind_ne_of_only (only_entryCatch deps entry leaseToken) hk hcatch
  have hgs : ∀ k ∉ [OpKind.cleanup, .stop], ∀ e ∈ gs, e.op.kind ≠ k := fun k hk =>
    kind_ne_of_only only_entryFinally hk hfinally
  have hdeployed : deployed (ps ++ (bes ++ (cs ++ gs))) = deployed bes := by
    simp [deployed_eq_nil (hpre .deploy (by simp)), deployed_eq_nil (hcs .deploy (by simp)),
      deployed_eq_nil (hgs .deploy (by simp))]
  have hdeferred : deferred (ps ++ (bes ++ (cs ++ gs))) = deferred bes := by
    simp [deferred_eq_nil (hpre .defer (by simp)), deferred_eq_nil (hcs .defer (by simp)),
      deferred_eq_nil (hgs .defer (by simp))]
  have hthrew : MeasureThrew (ps ++ (bes ++ (cs ++ gs))) ↔ MeasureThrew bes := by
    simp [not_measureThrew (hpre .measure (by simp)), not_measureThrew (hcs .measure (by simp)),
      not_measureThrew (hgs .measure (by simp))]
  have hstops : stops d.deploymentName (ps ++ (bes ++ (cs ++ gs)) ++ fs) =
      stops d.deploymentName gs + stops d.deploymentName fs := by
    have hbes := kind_ne_of_onlyFrom (onlyFrom_entryBody deps entry leaseToken) (k := .stop)
      (by simp [bodyKinds]) hbody
    simp [stops_eq_zero (hpre .stop (by simp)), stops_eq_zero hbes,
      stops_eq_zero (hcs .stop (by simp))]
  rw [hdeployed] at hd
  rw [hdeferred] at hsettled hnone ⊢
  rw [hthrew, hstops]
  rcases runsFrom_entryBody hbody hdep rfl hd with ⟨hno, c, hname, ⟨hflag, -, hnil⟩ | ⟨hflag, job, hjob, hn, -⟩⟩ |
    ⟨hyes, hlost, hflag, hnil⟩
  · -- the `finally` block stops the deployment
    rw [hflag, if_neg Bool.false_ne_true, hname] at hops
    rw [stops_releaseOps d.deploymentName_ne hops, hnone hnil, hnil, stops_nil]
    simp [hno]
  · -- the detached poll has taken the deployment over
    rw [hflag, if_pos rfl] at hops
    obtain rfl := List.map_eq_nil_iff.mp hops
    obtain ⟨o, hpoll⟩ := hsettled job (by rw [hjob]; exact List.mem_singleton_self job)
    have hiff := stops_detachedPoll (by rw [hn]; exact d.deploymentName_ne) hpoll
    rw [hn] at hiff
    rw [stops_nil, Nat.zero_add, hiff, hjob]
    simp [hno]
  · -- the name is lost
    rw [hflag, if_neg Bool.false_ne_true, hlost] at hops
    rw [stops_releaseOps_none hops, hnone hnil, stops_nil]
    simp [hyes]

end Teardown

/-! ## One entry -/

/-- An entry that has been claimed. -/
def oneEntry : QueueEntry :=
  ⟨0, "m", .user, 0, .deploying, 0, some 0, none, none, none, some "t", some 0, none⟩

/-- Its container. -/
def oneDeployment : EngineDeploymentResult where
  deploymentName := "vllm-m"
  apiEndpoint := "http://127.0.0.1:8000"
  deploymentName_ne := by decide
  apiEndpoint_ne := by decide

/-- Answers in which Stage 1 deploys and its benchmark ends in `bench`. -/
def benchmarkEnds (bench : Except JsError EngineFullBenchmarkResult) : (o : SchedOp) → SchedAns o
  | .queue (.updateStatus _ _ _ _) => .ok true
  | .ext (.parseCard id) => .ok ⟨id, id, "llama", 8192, "mit", none, [], false⟩
  | .ext (.deploy _ _ _) => .ok oneDeployment
  | .ext (.runBenchmarks _ _ _ _) => bench
  | .ext (.fetchModelConfig _) => .ok none
  | o => storeUp o

/-- The history of the entry with these answers. -/
def oneHistory (bench : Except JsError EngineFullBenchmarkResult) : List SchedEvent :=
  history (benchmarkEnds bench) (processEntry oneSuiteDeps oneEntry false)

/-- **A throwing benchmark leaks the container.** It has been deployed, nothing stops it, and no
detached poll is left that could. -/
theorem benchmark_leaks : ∃ es : List SchedEvent,
    (processEntry oneSuiteDeps oneEntry false).run.Runs es (.ok ()) ∧ oneDeployment ∈ deployed es ∧
      deferred es = [] ∧ stops oneDeployment.deploymentName es = 0 :=
  ⟨oneHistory (.error ⟨"CUDA OOM", none⟩), runs_history _ (by decide +kernel), by decide +kernel,
    by decide +kernel, by decide +kernel⟩

/-- A benchmark that returns: the container is stopped although the endpoint cannot be reached. -/
theorem benchmark_stops : ∃ es : List SchedEvent,
    (processEntry oneSuiteDeps oneEntry false).run.Runs es (.ok ()) ∧ oneDeployment ∈ deployed es ∧
      deferred es = [] ∧ stops oneDeployment.deploymentName (es ++ []) = 1 := by
  obtain ⟨es, hruns, hd, hnil, hquiet⟩ : ∃ es : List SchedEvent,
      (processEntry oneSuiteDeps oneEntry false).run.Runs es (.ok ()) ∧
        oneDeployment ∈ deployed es ∧ deferred es = [] ∧ ∀ e ∈ es, measureThrew e = false :=
    ⟨oneHistory (.ok ⟨[], "", [], true⟩), runs_history _ (by decide +kernel), by decide +kernel,
      by decide +kernel, by decide +kernel⟩
  have hno : ∀ job, job ∉ deferred es := fun job hjob => by simp [hnil] at hjob
  refine ⟨es, hruns, hd, hnil, (deployed_stopped_once hruns hd (fun job hjob => absurd hjob (hno job))
    fun _ => rfl).mpr ⟨?_, fun job hjob => absurd hjob (hno job)⟩⟩
  rintro ⟨e, he, hthrew⟩
  rw [hquiet e he] at hthrew
  cases hthrew

end Benchmarker
