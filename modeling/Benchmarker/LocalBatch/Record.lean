import Mathlib.Data.List.Chain
import Benchmarker.LocalBatch.Resume
import Benchmarker.Scheduler.Teardown

/-!
# The stored record of passed suites

The local Stage 2 worker stores its result under the queue entry; the scheduler then stores the same
result again under the same document id, without the queue entry. What the scheduler stores is all that
is left, and `getPassedStage2SuitesForEntry` finds no suite of it.

* `BatchStep`, `BatchRun`: what a run of the worker does to the store. **`batchRun_store`**.
* `StoreStep`: what the requests of `processEntry` do to it.
* `SavesLocal`: every local result is saved next; it holds throughout `processEntry`.
* `PassesKept`, **`passesKept_iff`**: exactly when the record of the passed suites is kept.
  `passes_lost`: a run that loses it.
-/

namespace Benchmarker

open Js Async Async.Prog

/-! ## The worker's save -/

/-- What the requests of a batch run do to the Stage 2 store. A save that throws may have stored its
document. -/
def BatchStep : (o : BatchOp) → Stage2Store → BatchAns o → Stage2Store → Prop
  | .saveStage2Result r q, u, .ok (), v => v = u.saveStage2Result r q
  | .saveStage2Result r q, u, .error _, v => v = u ∨ v = u.saveStage2Result r q
  | _, u, _, v => v = u

/-- A run of the worker for `run` that returns `r`, with nothing in between. -/
def BatchRun (deps : BatchDeps) (run : PipelineRun) (u : Stage2Store) (r : Stage2Result)
    (v : Stage2Store) : Prop :=
  ∃ stage1Result bs, run.benchmarkResult = some stage1Result ∧
    (batchExecute deps run stage1Result).run.Runs bs (.ok r) ∧ Chain BatchStep u bs v

section Batch

variable {deps : BatchDeps} {run : PipelineRun} {u v : Stage2Store} {r : Stage2Result}
variable {es : List (Event BatchAns Stage2Store)} {startedAt : Time} {endpointUrl : String} {α : Type}

/-- Without a save the store stays as it is. -/
theorem chain_quiet (h : ∀ e ∈ es, e.op.saves = false) (hc : Chain BatchStep u es v) : v = u := by
  induction es generalizing u with
  | nil => exact hc.symm
  | cons e es ih =>
    obtain ⟨rfl, hstep, hrest⟩ := hc
    have hsaves := h e List.mem_cons_self
    obtain ⟨o, a, pre, post⟩ := e
    rw [ih (fun e he => h e (List.mem_cons_of_mem _ he)) hrest]
    cases o with
    | saveStage2Result r q => cases hsaves
    | _ => exact hstep

/-- The body leaves the store alone or, when it returns, may have stored its result under the entry of
the run. -/
def StoresOwn (run : PipelineRun) (x : BatchJs Stage2Result) : Prop :=
  ∀ (es : List (Event BatchAns Stage2Store)) o u v, x.run.Runs es o → Chain BatchStep u es v →
    v = u ∨ ∃ r, o = .ok r ∧ v = u.saveStage2Result r (some run.queueEntryId)

theorem storesOwn_of_quiet {x : BatchJs Stage2Result} (h : Quiet x) : StoresOwn run x :=
  fun _ _ _ _ hr hc => .inl (chain_quiet (h.events hr) hc)

theorem storesOwn_bind {x : BatchJs α} {f : α → BatchJs Stage2Result} (hx : Quiet x)
    (hf : ∀ a, StoresOwn run (f a)) : StoresOwn run (x >>= f) := by
  intro es o u v h hc
  rcases runs_throws_bind.mp h with ⟨es₁, es₂, a, rfl, h₁, h₂⟩ | ⟨e, h₁, rfl⟩
  · obtain ⟨w, hc₁, hc₂⟩ := chain_append.mp hc
    obtain rfl := chain_quiet (hx.events h₁) hc₁
    exact hf a es₂ o w v h₂ hc₂
  · exact .inl (chain_quiet (hx.events h₁) hc)

theorem storesOwn_finishBatch {parts : List LocalBatchEvalResult} {reason : Option String} :
    StoresOwn run (finishBatch run parts startedAt reason) := by
  unfold finishBatch
  cases mergeBatchResults parts with
  | error err => exact storesOwn_of_quiet (uses_throw _)
  | ok merged =>
    intro es o u v h hc
    rcases runs_throws_bind.mp h with ⟨es₁, es₂, _, rfl, h₁, h₂⟩ | ⟨e, h₁, rfl⟩
    · obtain ⟨rfl, rfl⟩ := runs_throws_pure.mp h₂
      rcases runs_throws_bind.mp h₁ with ⟨es₃, es₄, a, rfl, h₃, h₄⟩ | ⟨e, h₃, he⟩
      swap; · cases he
      obtain ⟨rfl, -⟩ := runs_throws_pure.mp h₄
      obtain ⟨pre, post, rfl⟩ := runs_request.mp (runs_attempt.mp h₃)
      obtain ⟨rfl, hstep, rfl⟩ := hc
      cases a with
      | ok _ => exact .inr ⟨_, rfl, hstep⟩
      | error err => exact hstep.imp id fun h => ⟨_, rfl, h⟩
    · rcases runs_throws_bind.mp h₁ with ⟨es₃, es₄, a, rfl, h₃, h₄⟩ | ⟨e', h₃, -⟩
      · cases (runs_throws_pure.mp h₄).2
      · obtain ⟨_, -, he⟩ := runs_lift.mp h₃
        cases he

theorem storesOwn_batchBody : StoresOwn run (batchBody deps run endpointUrl startedAt) := by
  refine storesOwn_bind ?_ fun _ => ?_
  · exact uses_throws_bind (quiet_batchRequest rfl) fun _ => quiet_batchRequest rfl
  refine storesOwn_bind quiet_tierAPhase fun tierA => ?_
  split
  · exact storesOwn_finishBatch
  refine storesOwn_bind quiet_runPhase fun tierB => ?_
  dsimp only
  split
  · exact storesOwn_of_quiet quiet_bareStage2
  · exact storesOwn_finishBatch

/-- **The worker stores nothing but its result, under the entry of the run.** -/
theorem batchRun_store (h : BatchRun deps run u r v) :
    v = u ∨ v = u.saveStage2Result r (some run.queueEntryId) := by
  have hown : ∀ stage1Result, StoresOwn run (batchExecute deps run stage1Result) := by
    intro stage1Result
    refine storesOwn_bind (quiet_batchRequest rfl) fun startedAt => ?_
    split
    · exact storesOwn_of_quiet quiet_bareStage2
    · split
      · exact storesOwn_of_quiet quiet_bareStage2
      · split
        · exact storesOwn_of_quiet quiet_bareStage2
        · intro es o u v h hc
          rcases runs_throws_bind.mp h with ⟨es₁, es₂, outcome, rfl, h₁, h₂⟩ | ⟨e, h₁, -⟩
          swap; · obtain ⟨_, -, he⟩ := runs_lift.mp h₁; cases he
          obtain ⟨w, hc₁, hc₂⟩ := chain_append.mp hc
          have hbody := storesOwn_batchBody _ _ _ _ (runs_attempt.mp h₁) hc₁
          cases outcome with
          | ok result =>
            obtain ⟨rfl, rfl⟩ := runs_throws_pure.mp h₂
            obtain rfl := hc₂
            exact hbody
          | error err =>
            obtain rfl := chain_quiet (quiet_bareStage2.events h₂) hc₂
            rcases hbody with hbody | ⟨_, he, -⟩
            · exact .inl hbody
            · cases he
  obtain ⟨stage1Result, bs, -, hruns, hc⟩ := h
  rcases hown stage1Result bs _ u v hruns hc with h | ⟨r', hr, h⟩
  · exact .inl h
  · rw [Except.ok.inj hr]
    exact .inr h

end Batch

/-! ## The scheduler's save -/

/-- What the requests of `processEntry` do to the Stage 2 store. -/
def StoreStep (deps : BatchDeps) : (o : SchedOp) → Stage2Store → SchedAns o → Stage2Store → Prop
  | .ext (.stage2Execute run), u, .ok r, v => BatchRun deps run u r v
  | .ext (.saveStage2Result r), u, .ok (), v => v = u.saveStage2Result r none
  | .ext (.saveStage2Result r), u, .error _, v => v = u ∨ v = u.saveStage2Result r none
  | _, u, _, v => v = u

/-- The local Stage 2 result that an event reports. -/
def localResult {W : Type} : Event SchedAns W → Option Stage2Result
  | ⟨.ext (.stage2Execute _), .ok r, _, _⟩ => some r
  | _ => none

/-- Every local result is saved by the request after it. -/
def SavesLocal {W : Type} (es : List (Event SchedAns W)) : Prop :=
  es.IsChain (fun e s => ∀ r ∈ localResult e, s.op = .ext (.saveStage2Result r)) ∧
    ∀ e ∈ es.getLast?, localResult e = none

section Saves

variable {W : Type} {es fs : List (Event SchedAns W)} {deps : SchedulerDeps} {entry : QueueEntry}
variable {resume : Bool} {leaseToken : Option String}

theorem kind_of_localResult {e : Event SchedAns W} {r : Stage2Result} (h : localResult e = some r) :
    e.op.kind = .localEval := by
  unfold localResult at h
  split at h
  · rfl
  · cases h

theorem savesLocal_append (h : SavesLocal es) (h' : SavesLocal fs) : SavesLocal (es ++ fs) := by
  refine ⟨List.isChain_append.mpr ⟨h.1, h'.1, fun e he s _ r hr => ?_⟩, fun e he => ?_⟩
  · rw [h.2 e he] at hr
    cases hr
  · rw [List.getLast?_append] at he
    cases hlast : fs.getLast? with
    | none =>
      rw [hlast, Option.none_or] at he
      exact h.2 e he
    | some f =>
      rw [hlast, Option.some_or] at he
      rw [← Option.some.inj he]
      exact h'.2 f hlast

/-- Without a run of the worker there is nothing to save. -/
theorem savesLocal_of_kind (h : ∀ e ∈ es, e.op.kind ≠ .localEval) : SavesLocal es := by
  have hnone : ∀ e ∈ es, localResult e = none := by
    intro e he
    cases hr : localResult e with
    | none => rfl
    | some r => exact absurd (kind_of_localResult hr) (h e he)
  constructor
  · refine List.Pairwise.isChain (List.pairwise_of_forall_mem_list fun e he s _ r hr => ?_)
    rw [hnone e he] at hr
    cases hr
  · exact fun e he => hnone e (List.mem_of_mem_getLast? he)

theorem savesLocal_of_onlyFrom {α : Type} {ks : List OpKind} {x : EntryJs α} (h : OnlyFrom ks x)
    (hks : .localEval ∉ ks) : Throughout (SavesLocal (W := W)) x :=
  throughout_of_uses (fun _ hes => savesLocal_of_kind fun e he hk => hks (hk ▸ hes e he)) h

/-- The result of the worker is saved next, whatever follows. -/
theorem savesLocal_execute {α : Type} (ks : List OpKind) {run : PipelineRun}
    {g : Stage2Result → PipelineRun → PipelineRun} {f : Stage2Result → EntryJs α}
    (hf : ∀ r, OnlyFrom ks (f r)) (hks : .localEval ∉ ks) : Throughout (SavesLocal (W := W)) (do
      let stage2Result ← step (extCall (.stage2Execute run))
      modifyRun (g stage2Result)
      step (extCall (.saveStage2Result stage2Result))
      f stage2Result) := by
  intro es s r s' h
  rcases runsFrom_step_bind.mp h with ⟨es₁, es₂, result, rfl, h₁, h₂⟩ | ⟨e, h₁, -, -⟩
  · obtain ⟨pre, post, rfl⟩ := runs_extCall.mp h₁
    rw [runsFrom_modifyRun_bind] at h₂
    have hsave : ∀ {a pre' post'}, SavesLocal
        ([⟨.ext (.stage2Execute run), .ok result, pre, post⟩] ++
          [⟨.ext (.saveStage2Result result), a, pre', post'⟩] : List (Event SchedAns W)) := by
      intro a pre' post'
      simp [SavesLocal, localResult]
    rcases runsFrom_step_bind.mp h₂ with ⟨es₃, es₄, _, rfl, h₃, h₄⟩ | ⟨e, h₃, -, -⟩
    · obtain ⟨pre', post', rfl⟩ := runs_extCall.mp h₃
      rw [← List.append_assoc]
      exact savesLocal_append hsave (savesLocal_of_onlyFrom (hf result) hks _ _ _ _ h₄)
    · obtain ⟨pre', post', rfl⟩ := runs_extCall.mp h₃
      exact hsave
  · obtain ⟨pre, post, rfl⟩ := runs_extCall.mp h₁
    simp [SavesLocal, localResult]

theorem savesLocal_localGatePhase :
    Throughout (SavesLocal (W := W)) (localGatePhase deps entry resume leaseToken) := by
  refine throughout_ite ?_ (savesLocal_of_onlyFrom (usesFrom_pure _ : OnlyFrom [] _) (by simp))
  refine throughout_bind (fun _ _ => savesLocal_append)
    (savesLocal_of_onlyFrom (onlyFrom_localSkipPhase deps entry) (by simp)) fun _ => ?_
  refine throughout_bind (fun _ _ => savesLocal_append)
    (savesLocal_of_onlyFrom (onlyFrom_theRun : OnlyFrom [] _) (by simp)) fun run => ?_
  refine savesLocal_execute [.plain, .write, .record, .cooldown, .enqueue] (fun result => ?_) (by simp)
  refine usesFrom_ite ?_ (usesFrom_pure _)
  exact usesFrom_bind (onlyFrom_step (only_failEntry deps)) fun _ => usesFrom_pure _

theorem savesLocal_afterStage1 :
    Throughout (SavesLocal (W := W)) (afterStage1 deps entry resume leaseToken) := by
  refine throughout_bind (fun _ _ => savesLocal_append)
    (savesLocal_of_onlyFrom (onlyFrom_tunnelPhase deps) (by simp)) fun resolved => ?_
  refine throughout_bind (fun _ _ => savesLocal_append) savesLocal_localGatePhase fun gate => ?_
  refine savesLocal_of_onlyFrom
    (?_ : OnlyFrom [.plain, .write, .record, .cooldown, .enqueue, .defer] _) (by simp)
  split
  · exact usesFrom_pure _
  refine usesFrom_bind (onlyFrom_ciEvalPhase deps entry leaseToken) fun r => ?_
  split
  · refine usesFrom_bind onlyFrom_theRun fun run => ?_
    exact onlyFrom_step ((only_finalizePipeline deps run).mono (by simp))
  · exact usesFrom_pure _

theorem savesLocal_entryBody :
    Throughout (SavesLocal (W := W)) (entryBody deps entry resume leaseToken) := by
  refine throughout_bind (fun _ _ => savesLocal_append)
    (savesLocal_of_onlyFrom (onlyFrom_modifyRun : OnlyFrom [] _) (by simp)) fun _ => ?_
  refine throughout_bind (fun _ _ => savesLocal_append)
    (savesLocal_of_onlyFrom (onlyFrom_skipPhase entry) (by simp)) fun skipped => ?_
  refine throughout_bind (fun _ _ => savesLocal_append)
    (savesLocal_of_onlyFrom (onlyFrom_step (only_startTunnel deps)) (by simp)) fun _ => ?_
  refine throughout_bind (fun _ _ => savesLocal_append)
    (savesLocal_of_onlyFrom (onlyFrom_stage1Phase deps entry leaseToken) (by simp)) fun goesOn => ?_
  exact throughout_ite savesLocal_afterStage1
    (savesLocal_of_onlyFrom (usesFrom_pure _ : OnlyFrom [] _) (by simp))

/-- **Every local result is saved next**, in every history of `processEntry`. -/
theorem savesLocal_processEntry {r : Except JsError Unit}
    (h : (processEntry deps entry resume).run.Runs es r) : SavesLocal es := by
  by_cases hes : ∃ e ∈ es, e.op.kind = .localEval
  · obtain ⟨ps, ts, run, leaseToken, rfl, hps, -, -, -, htry⟩ := runs_processEntry h (by simp) hes
    obtain ⟨bes, cs, fs, outcome, vars, rfl, hbody, hcatch, hfinally⟩ := runs_entryTry htry
    have hcs := kind_ne_of_only (k := .localEval) (only_entryCatch deps entry leaseToken) (by simp) hcatch
    have hfs := kind_ne_of_only (k := .localEval) only_entryFinally (by simp) hfinally
    refine savesLocal_append (savesLocal_of_kind fun e he => by rw [hps e he]; decide) ?_
    exact savesLocal_append (savesLocal_entryBody _ _ _ _ hbody)
      (savesLocal_append (savesLocal_of_kind hcs) (savesLocal_of_kind hfs))
  · exact savesLocal_of_kind fun e he hk => hes ⟨e, he, hk⟩

/-- The request after a local result. -/
theorem SavesLocal.next {as bs : List (Event SchedAns W)} {e : Event SchedAns W} {r : Stage2Result}
    (h : SavesLocal (as ++ e :: bs)) (he : localResult e = some r) :
    ∃ s cs, bs = s :: cs ∧ s.op = .ext (.saveStage2Result r) := by
  cases bs with
  | nil =>
    have hlast := h.2 e (by simp)
    rw [he] at hlast
    cases hlast
  | cons s cs =>
    have hchain := (List.isChain_append.mp h.1).2.1
    exact ⟨s, cs, rfl, (List.isChain_cons_cons.mp hchain).1 r he⟩

/-! ## The record of the passed suites -/

/-- Whatever hits the search returns, the configured suites that the result lists as passed are among
the passed suites of the entry. -/
def PassesKept (evalSuites : List String) (r : Stage2Result) (queueEntryId : ℕ)
    (store : Stage2Store) : Prop :=
  ∀ hits, Stage2Page store queueEntryId hits → ∀ s ∈ evalSuites, r.lists s "pass" →
    s ∈ passedStage2Suites evalSuites hits

/-- The configured suites that the result lists as passed have all passed before: in the newest
documents of the entry, its own document aside. -/
def PassedBefore (evalSuites : List String) (r : Stage2Result) (queueEntryId : ℕ)
    (store : Stage2Store) : Prop :=
  ∀ hits, Stage2Page (store.without (stage2Key r)) queueEntryId hits → ∀ s ∈ evalSuites,
    r.lists s "pass" → ∃ d ∈ hits, ∃ sr ∈ d.suiteResults, sr.suite = s ∧ suiteDocPassed sr = true

theorem passesKept_save {evalSuites : List String} {r : Stage2Result} {id : ℕ} {store : Stage2Store} :
    PassesKept evalSuites r id (store.saveStage2Result r none) ↔ PassedBefore evalSuites r id store := by
  have hpage : ∀ hits, Stage2Page (store.saveStage2Result r none) id hits ↔
      Stage2Page (store.without (stage2Key r)) id hits := fun hits => by
    rw [Stage2Page, ofEntry_save_none, Stage2Page]
  constructor
  · intro h hits hhits s hs hpass
    exact (mem_passedStage2Suites.mp (h hits ((hpage hits).mpr hhits) s hs hpass)).2
  · intro h hits hhits s hs hpass
    exact mem_passedStage2Suites.mpr ⟨hs, h hits ((hpage hits).mp hhits) s hs hpass⟩

/-- The worker's own save does not count. -/
theorem passedBefore_batchRun {evalSuites : List String} {r : Stage2Result} {id : ℕ}
    {u v : Stage2Store} {batch : BatchDeps} {run : PipelineRun} (h : BatchRun batch run u r v) :
    PassedBefore evalSuites r id v ↔ PassedBefore evalSuites r id u := by
  rcases batchRun_store h with rfl | rfl
  · exact .rfl
  · rw [← passesKept_save, save_save, passesKept_save]

/-- **The record of the passed suites is kept exactly when they have all passed before.** In every
history of `processEntry` with a result of the local worker the next request saves that result; when
the save succeeds, the passed suites are found afterwards if and only if earlier documents of the entry
have recorded them already, where it does not matter what the worker has saved. -/
theorem passesKept_iff {batch : BatchDeps} {es as bs : List (Event SchedAns Stage2Store)}
    {e : Event SchedAns Stage2Store} {result : Stage2Result} {o : Except JsError Unit}
    (evalSuites : List String) (h : (processEntry deps entry resume).run.Runs es o)
    (hstore : ∀ e ∈ es, StoreStep batch e.op e.pre e.ans e.post) (hes : es = as ++ e :: bs)
    (he : localResult e = some result) :
    ∃ saved u v cs, bs = ⟨.ext (.saveStage2Result result), saved, u, v⟩ :: cs ∧
      (saved = .ok () → (PassesKept evalSuites result entry.id v ↔
        PassedBefore evalSuites result entry.id u)) ∧
      (u = e.post → (PassedBefore evalSuites result entry.id u ↔
        PassedBefore evalSuites result entry.id e.pre)) := by
  subst hes
  obtain ⟨⟨op, saved, u, v⟩, cs, rfl, hop⟩ := (savesLocal_processEntry h).next he
  dsimp only at hop
  subst hop
  refine ⟨saved, u, v, cs, rfl, ?_, ?_⟩
  · rintro rfl
    have hsave := hstore ⟨.ext (.saveStage2Result result), .ok (), u, v⟩ (by simp)
    rw [show v = u.saveStage2Result result none from hsave]
    exact passesKept_save
  · rintro rfl
    have hworker := hstore e (by simp)
    unfold localResult at he
    split at he
    · obtain rfl := Option.some.inj he
      exact passedBefore_batchRun hworker
    · cases he

end Saves

/-! ## A run with a passed suite -/

/-- A store in which every save succeeds, beside a batch run with the answers `env`. -/
def serveBatch (env : ∀ o, BatchAns o) : (o : BatchOp) → Stage2Store → BatchAns o × Stage2Store
  | .saveStage2Result r q, u => (.ok (), u.saveStage2Result r q)
  | o, u => (env o, u)

/-- The answer of the local worker with the answers `env`. -/
def serveWorker (env : ∀ o, BatchAns o) (run : PipelineRun) (u : Stage2Store) :
    Except JsError Stage2Result × Stage2Store :=
  match run.benchmarkResult with
  | none => (.error ⟨"no result", none⟩, u)
  | some stage1Result =>
    let d := (batchExecute tieredDeps run stage1Result).run.drive (serveBatch env) u
    match d.2.1 with
    | .ok r => (.ok r, d.2.2)
    | .error err => (.error err, u)

/-- A store in which every save succeeds, beside an entry whose Stage 1 passes and whose local worker
runs with the answers `env`. -/
def serveEntry (env : ∀ o, BatchAns o) : (o : SchedOp) → Stage2Store → SchedAns o × Stage2Store
  | .ext (.saveStage2Result r), u => (.ok (), u.saveStage2Result r none)
  | .ext (.stage2Execute run), u => serveWorker env run u
  | .ext (.resolveEndpoint url _), u =>
    (.ok { endpointUrl := url, directUrl := url, tunneled := false, cleanup := 7 }, u)
  | o, u => (benchmarkEnds (.ok ⟨[], "", [], true⟩) o, u)

theorem storeStep_serveWorker (env : ∀ o, BatchAns o) (run : PipelineRun) (u : Stage2Store) :
    StoreStep tieredDeps (.ext (.stage2Execute run)) u (serveWorker env run u).1
      (serveWorker env run u).2 := by
  unfold serveWorker
  split
  · rfl
  · rename_i stage1Result hrun
    dsimp only
    split
    · rename_i r hr
      refine ⟨stage1Result, _, hrun, hr ▸ runs_drive (serveBatch env) _ u, ?_⟩
      refine (chain_drive (serveBatch env) _ u).mono ?_
      rintro o u a v h
      obtain ⟨rfl, rfl⟩ := Prod.mk.inj h
      cases o <;> rfl
    · rfl

theorem storeStep_serveEntry (env : ∀ o, BatchAns o) (o : SchedOp) (u : Stage2Store) :
    StoreStep tieredDeps o u (serveEntry env o u).1 (serveEntry env o u).2 := by
  cases o with
  | ext x =>
    cases x with
    | stage2Execute run => exact storeStep_serveWorker env run u
    | _ => rfl
  | _ => rfl

/-- A scheduler with a local worker. -/
def localDeps : SchedulerDeps := { oneSuiteDeps with stage2Worker := true, ciEvals := none }

/-- The history of an entry with such a worker on a store, its outcome and the store at its end. -/
def localHistory (env : ∀ o, BatchAns o) (u : Stage2Store) :
    List (Event SchedAns Stage2Store) × Except JsError Unit × Stage2Store :=
  (processEntry localDeps oneEntry false).run.drive (serveEntry env) u

/-- The undisturbed run of that entry. -/
theorem runs_localHistory {env : ∀ o, BatchAns o} {u : Stage2Store} {o : Except JsError Unit}
    (h : (localHistory env u).2.1 = o) :
    (processEntry localDeps oneEntry false).run.Runs (localHistory env u).1 o ∧
      Chain (StoreStep tieredDeps) u (localHistory env u).1 (localHistory env u).2.2 := by
  refine ⟨h ▸ runs_drive (serveEntry env) _ u, (chain_drive (serveEntry env) _ u).mono ?_⟩
  intro o u a v h
  have hstep := storeStep_serveEntry env o u
  rwa [h] at hstep

/-- A page of at most one document. -/
theorem page_eq {store : Stage2Store} {id : ℕ} {hits : List Stage2Doc}
    (hone : (store.ofEntry id).length ≤ 1) (h : Stage2Page store id hits) : hits = store.ofEntry id := by
  obtain ⟨docs, hperm, -, rfl⟩ := h
  have hlen : docs.length ≤ 1 := hperm.length_eq ▸ hone
  have hdocs : docs = store.ofEntry id := by
    rcases docs with _ | ⟨d, _ | ⟨d', docs⟩⟩
    · exact (List.nil_perm.mp hperm).symm
    · exact (List.singleton_perm.mp hperm).symm ▸ rfl
    · exact absurd hlen (by simp)
  rw [← hdocs, List.take_of_length_le (by omega)]

/-- The suites of the worker. -/
def tieredSuites : List String := ["fast", "quick", "full"]

/-- The store has one document of the entry, in which the suites have passed. -/
def recordsPasses (store : Stage2Store) : Bool :=
  decide ((store.ofEntry 0).length ≤ 1) &&
    tieredSuites.all fun s => decide (s ∈ passedStage2Suites tieredSuites (store.ofEntry 0))

theorem passesKept_of_records {store : Stage2Store} {r : Stage2Result} (h : recordsPasses store = true) :
    PassesKept tieredSuites r oneEntry.id store := by
  obtain ⟨hone, hall⟩ := Bool.and_eq_true_iff.mp h
  intro hits hhits s hs _
  rw [page_eq (of_decide_eq_true hone) hhits]
  exact of_decide_eq_true (List.all_eq_true.mp hall s hs)

/-- A store without a document of the entry keeps no pass. -/
theorem not_passesKept {store : Stage2Store} {r : Stage2Result} (h : store.ofEntry oneEntry.id = [])
    (hr : r.lists "fast" "pass") : ¬PassesKept tieredSuites r oneEntry.id store := by
  intro hkept
  have hpage : Stage2Page store oneEntry.id [] := ⟨[], h ▸ .refl _, .nil, rfl⟩
  cases hkept [] hpage "fast" (by decide) hr

/-- The event is a run of the worker that reports the suite as passed. -/
def reportsPass (e : Event SchedAns Stage2Store) : Bool :=
  (localResult e).any fun r =>
    (r.suiteResults.getD []).any fun sr => sr.suite = "fast" && sr.status = "pass"

theorem reportsPass_iff {e : Event SchedAns Stage2Store} (h : reportsPass e = true) :
    ∃ r, localResult e = some r ∧ r.lists "fast" "pass" := by
  obtain ⟨r, hr, hany⟩ := (Option.any_eq_true _ _).mp h
  obtain ⟨sr, hsr, hpass⟩ := List.any_eq_true.mp hany
  obtain ⟨hsuite, hstatus⟩ := Bool.and_eq_true_iff.mp hpass
  exact ⟨r, hr, sr, hsr, of_decide_eq_true hsuite, of_decide_eq_true hstatus⟩

/-- What a save of the scheduler finds and leaves satisfies `p`. -/
def savedTest (p : Stage2Result → Stage2Store → Stage2Store → Bool) (e : Event SchedAns Stage2Store) : Bool :=
  match e.op with
  | .ext (.saveStage2Result r) => p r e.pre e.post
  | _ => true

/-- The run of the worker in the history, and the save after it. -/
theorem localHistory_saves {env : ∀ o, BatchAns o} {u : Stage2Store}
    {p : Stage2Result → Stage2Store → Stage2Store → Bool} (hrun : (localHistory env u).2.1 = .ok ())
    (hany : (localHistory env u).1.any reportsPass = true)
    (hall : (localHistory env u).1.all (savedTest p) = true) : ∃ as e r u' v' cs,
      (localHistory env u).1 = as ++ e :: ⟨.ext (.saveStage2Result r), .ok (), u', v'⟩ :: cs ∧
      localResult e = some r ∧ r.lists "fast" "pass" ∧ p r u' v' = true := by
  have hruns := (runs_localHistory hrun).1
  have hsteps := (chain_drive (serveEntry env) (processEntry localDeps oneEntry false).run u).steps
  obtain ⟨e, he, htest⟩ := List.any_eq_true.mp hany
  obtain ⟨r, hr, hpass⟩ := reportsPass_iff htest
  obtain ⟨as, bs, hes⟩ := List.append_of_mem he
  have hsaves := savesLocal_processEntry hruns
  rw [hes] at hsaves
  obtain ⟨⟨op, a, u', v'⟩, cs, rfl, hop⟩ := hsaves.next hr
  dsimp only at hop
  subst hop
  have hmem : ⟨.ext (.saveStage2Result r), a, u', v'⟩ ∈ (localHistory env u).1 := by
    rw [hes]
    simp
  have hserved : ((.ok () : Except JsError Unit), u'.saveStage2Result r none) = (a, v') := hsteps _ hmem
  obtain ⟨rfl, -⟩ := Prod.mk.inj hserved
  exact ⟨as, e, r, u', v', cs, hes, hr, hpass, List.all_eq_true.mp hall _ hmem⟩

/-- **A run that loses its record.** Every suite passes; before the scheduler's save the suites are found
to have passed, and after it, although it succeeds, none is. -/
theorem passes_lost : ∃ (es : List (Event SchedAns Stage2Store)) (v : Stage2Store)
    (e : Event SchedAns Stage2Store) (r : Stage2Result) (u' v' : Stage2Store),
    (processEntry localDeps oneEntry false).run.Runs es (.ok ()) ∧ Chain (StoreStep tieredDeps) [] es v ∧
    e ∈ es ∧ localResult e = some r ∧ ⟨.ext (.saveStage2Result r), .ok (), u', v'⟩ ∈ es ∧
    PassesKept tieredSuites r oneEntry.id u' ∧ ¬PassesKept tieredSuites r oneEntry.id v' ∧
    ¬PassesKept tieredSuites r oneEntry.id v := by
  have hok : (localHistory allPass []).2.1 = .ok () := by decide +kernel
  obtain ⟨hruns, hchain⟩ := runs_localHistory hok
  obtain ⟨as, e, r, u', v', cs, hes, hr, hpass, htest⟩ :=
    localHistory_saves (p := fun _ u v => recordsPasses u && decide (v.ofEntry 0 = [])) hok
      (by decide +kernel) (by decide +kernel)
  obtain ⟨hrec, hnone⟩ := Bool.and_eq_true_iff.mp htest
  refine ⟨_, _, e, r, u', v', hruns, hchain, by rw [hes]; simp, hr, by rw [hes]; simp,
    passesKept_of_records hrec, not_passesKept (of_decide_eq_true hnone) hpass, not_passesKept ?_ hpass⟩
  decide +kernel

/-- A result that an earlier run of the entry has stored. -/
def earlierPass : Stage2Result where
  runId := "earlier"
  modelId := "m"
  status := .success
  suiteResults := some (tieredSuites.map fun s => ⟨s, "pass", some 1, none, none, none⟩)
  startedAt := 0
  completedAt := 0

/-- The store with that result. -/
def earlierStore : Stage2Store := Stage2Store.saveStage2Result [] earlierPass (some oneEntry.id)

/-- A run whose suites have passed before keeps their record. -/
theorem passes_kept_again : ∃ (es : List (Event SchedAns Stage2Store)) (r : Stage2Result) (u' v' : Stage2Store),
    (processEntry localDeps oneEntry false).run.Runs es (.ok ()) ∧
    ⟨.ext (.saveStage2Result r), .ok (), u', v'⟩ ∈ es ∧ r.lists "fast" "pass" ∧
    PassesKept tieredSuites r oneEntry.id v' := by
  have hok : (localHistory allPass earlierStore).2.1 = .ok () := by decide +kernel
  obtain ⟨hruns, hchain⟩ := runs_localHistory hok
  obtain ⟨as, e, r, u', v', cs, hes, hr, hpass, hrec⟩ :=
    localHistory_saves (p := fun r u _ => recordsPasses (u.without (stage2Key r))) hok
      (by decide +kernel) (by decide +kernel)
  obtain ⟨_, _, _, _, hbs, hkept, -⟩ := passesKept_iff tieredSuites hruns hchain.steps hes hr
  obtain ⟨hs, rfl⟩ := List.cons.inj hbs
  cases hs
  refine ⟨_, r, u', v', hruns, by rw [hes]; simp, hpass, (hkept rfl).mpr ?_⟩
  intro hits hhits s hs hlists
  exact (mem_passedStage2Suites.mp (passesKept_of_records hrec hits hhits s hs hlists)).2

end Benchmarker
