import Benchmarker.Scheduler.Teardown

/-!
# The release of public endpoints

An endpoint that the resolver returns holds an SSH forward and a tunnel until its cleanup is called.
`processEntry` starts one resolution beside Stage 1 and only remembers its promise: the promise is
awaited when the run has a deployment, and given away when Stage 1 has failed. A throw between the
two loses it, as the `catch` and the `finally` block know nothing of the promise.

* `started`, `collected`: the resolutions that run beside Stage 1. `endpoints`, `cleanups`.
* `StatusRejected`, `TunnelReleased`.
* **`tunnel_leaks`**: the status write before Stage 1 is rejected and the tunnel stays open.
* **`tunnelReleased_iff`**: exactly when every endpoint is released once.
-/

namespace Benchmarker

open Js Async Async.Prog

section Endpoints

variable {W : Type} {es fs : List (Event SchedAns W)}

/-- The request starts a resolution that nothing awaits yet. -/
def SchedOp.starts : SchedOp → Bool
  | .ext (.startResolve _) => true
  | _ => false

/-- The request awaits that resolution, or has its endpoint released when it ends. -/
def SchedOp.collects : SchedOp → Bool
  | .ext .awaitResolve | .ext .dropResolve => true
  | _ => false

/-- The endpoint that a request releases. -/
def SchedOp.cleans : SchedOp → Option ℕ
  | .ext (.cleanupEndpoint cleanup) => some cleanup
  | _ => none

/-- The endpoint that an event reports. -/
def resolvedBy : Event SchedAns W → Option ℕ
  | ⟨.ext .awaitResolve, .ok resolved, _, _⟩ => some resolved.cleanup
  | ⟨.ext (.resolveEndpoint _ _), .ok resolved, _, _⟩ => some resolved.cleanup
  | _ => none

/-- The resolutions that a history starts without awaiting them. -/
def started (es : List (Event SchedAns W)) : ℕ := es.countP fun e => e.op.starts

/-- How often a history awaits such a resolution, or has its endpoint released. -/
def collected (es : List (Event SchedAns W)) : ℕ := es.countP fun e => e.op.collects

/-- The endpoints that the resolver has returned. -/
def endpoints (es : List (Event SchedAns W)) : List ℕ := es.filterMap resolvedBy

/-- The endpoints whose cleanup is called. -/
def cleanups (es : List (Event SchedAns W)) : List ℕ := es.filterMap fun e => e.op.cleans

/-- **Every endpoint is released once**: a resolution that was started beside Stage 1 is awaited or
given away, and the cleanups are those of the endpoints that were returned. -/
structure TunnelReleased (es : List (Event SchedAns W)) : Prop where
  collected : collected es = started es
  released : (cleanups es).Perm (endpoints es)

@[simp] theorem started_append : started (es ++ fs) = started es + started fs := List.countP_append

@[simp] theorem collected_append : collected (es ++ fs) = collected es + collected fs :=
  List.countP_append

@[simp] theorem endpoints_append : endpoints (es ++ fs) = endpoints es ++ endpoints fs :=
  List.filterMap_append

@[simp] theorem cleanups_append : cleanups (es ++ fs) = cleanups es ++ cleanups fs :=
  List.filterMap_append

@[simp] theorem started_nil : started ([] : List (Event SchedAns W)) = 0 := rfl

@[simp] theorem collected_nil : collected ([] : List (Event SchedAns W)) = 0 := rfl

@[simp] theorem endpoints_nil : endpoints ([] : List (Event SchedAns W)) = [] := rfl

@[simp] theorem cleanups_nil : cleanups ([] : List (Event SchedAns W)) = [] := rfl

/-- The history has nothing to do with public endpoints. -/
structure Untunneled (es : List (Event SchedAns W)) : Prop where
  started : started es = 0
  collected : collected es = 0
  endpoints : endpoints es = []
  cleanups : cleanups es = []

theorem kind_of_starts {o : SchedOp} (h : o.starts = true) : o.kind = .tunnel := by
  unfold SchedOp.starts at h
  split at h
  · rfl
  · cases h

theorem kind_of_collects {o : SchedOp} (h : o.collects = true) : o.kind = .tunnel := by
  unfold SchedOp.collects at h
  split at h
  · rfl
  · rfl
  · cases h

theorem kind_of_cleans {o : SchedOp} {c : ℕ} (h : o.cleans = some c) : o.kind = .cleanup := by
  unfold SchedOp.cleans at h
  split at h
  · rfl
  · cases h

theorem kind_of_resolvedBy {e : Event SchedAns W} {c : ℕ} (h : resolvedBy e = some c) :
    e.op.kind = .tunnel := by
  unfold resolvedBy at h
  split at h
  · rfl
  · rfl
  · cases h

theorem started_eq_zero (h : ∀ e ∈ es, e.op.kind ≠ .tunnel) : started es = 0 :=
  List.countP_eq_zero.mpr fun e he hs => h e he (kind_of_starts hs)

theorem collected_eq_zero (h : ∀ e ∈ es, e.op.kind ≠ .tunnel) : collected es = 0 :=
  List.countP_eq_zero.mpr fun e he hs => h e he (kind_of_collects hs)

theorem endpoints_eq_nil (h : ∀ e ∈ es, e.op.kind ≠ .tunnel) : endpoints es = [] := by
  refine List.filterMap_eq_nil_iff.mpr fun e he => ?_
  by_contra hne
  obtain ⟨c, hc⟩ := Option.ne_none_iff_exists'.mp hne
  exact h e he (kind_of_resolvedBy hc)

theorem cleanups_eq_nil (h : ∀ e ∈ es, e.op.kind ≠ .cleanup) : cleanups es = [] := by
  refine List.filterMap_eq_nil_iff.mpr fun e he => ?_
  by_contra hne
  obtain ⟨c, hc⟩ := Option.ne_none_iff_exists'.mp hne
  exact h e he (kind_of_cleans hc)

theorem untunneled (ht : ∀ e ∈ es, e.op.kind ≠ .tunnel) (hc : ∀ e ∈ es, e.op.kind ≠ .cleanup) :
    Untunneled es :=
  ⟨started_eq_zero ht, collected_eq_zero ht, endpoints_eq_nil ht, cleanups_eq_nil hc⟩

/-- The cleanups are among the releases. -/
theorem cleanups_eq_teardown : cleanups es = (teardown es).filterMap SchedOp.cleans := by
  rw [cleanups, teardown, List.filterMap_filter, List.filterMap_map]
  refine List.filterMap_congr fun e _ => ?_
  cases hc : e.op.cleans with
  | none => simp [hc]
  | some c =>
    have hrel : e.op.releases = true := by
      rw [SchedOp.releases, kind_of_cleans hc]
      rfl
    simp [hc, hrel]

theorem cleanups_releaseOps {release : Option ℕ} {name : Option String} {guard : Bool}
    (h : es.map (·.op) = releaseOps release name guard) : cleanups es = release.toList := by
  have hmap : cleanups es = (es.map (·.op)).filterMap SchedOp.cleans := by
    rw [cleanups, List.filterMap_map]
    rfl
  rw [hmap, h, releaseOps]
  cases release <;> cases guard <;> cases truthy name <;> rfl

/-! ## The rejected status write -/

variable {id : ℕ}

/-- The event is a rejection of the status write that precedes Stage 1. -/
def rejectsDeploying (id : ℕ) : Event SchedAns W → Bool
  | ⟨.queue (.updateStatus entryId .deploying none none), .error _, _, _⟩ => entryId == id
  | _ => false

/-- The history begins with such a rejection. -/
def HeadRejected (id : ℕ) (es : List (Event SchedAns W)) : Prop :=
  ∃ e ∈ es.head?, rejectsDeploying id e = true

instance : Decidable (HeadRejected id es) :=
  decidable_of_iff (es.head?.any (rejectsDeploying id) = true) (Option.any_eq_true _ _)

/-- What follows the start of a resolution is a rejection of the status write. -/
def StatusRejected (id : ℕ) : List (Event SchedAns W) → Prop
  | [] => False
  | e :: es => (e.op.starts = true ∧ HeadRejected id es) ∨ StatusRejected id es

instance decidableStatusRejected : ∀ es : List (Event SchedAns W), Decidable (StatusRejected id es)
  | [] => .isFalse fun h => h
  | e :: es =>
    have := decidableStatusRejected es
    inferInstanceAs (Decidable ((e.op.starts = true ∧ HeadRejected id es) ∨ StatusRejected id es))

theorem not_headRejected (h : ∀ e ∈ es, e.op.kind ≠ .plain) : ¬HeadRejected id es := by
  rintro ⟨e, he, hr⟩
  refine h e (List.mem_of_mem_head? he) ?_
  unfold rejectsDeploying at hr
  split at hr
  · rfl
  · cases hr

@[simp] theorem not_headRejected_nil : ¬HeadRejected id ([] : List (Event SchedAns W)) := by
  simp [HeadRejected]

theorem headRejected_append (h : es ≠ []) : HeadRejected id (es ++ fs) ↔ HeadRejected id es := by
  cases es with
  | nil => exact absurd rfl h
  | cons e es => rfl

theorem not_statusRejected (h : started es = 0) : ¬StatusRejected id es := by
  induction es with
  | nil => exact nofun
  | cons e es ih =>
    rw [started, List.countP_cons] at h
    rintro (⟨hs, -⟩ | hr)
    · simp [hs] at h
    · exact ih (by rw [started]; omega) hr

/-- What comes before the start of the resolution does not matter. -/
theorem statusRejected_append (h : started es = 0) :
    StatusRejected id (es ++ fs) ↔ StatusRejected id fs := by
  induction es with
  | nil => rfl
  | cons e es ih =>
    rw [started, List.countP_cons] at h
    rw [List.cons_append, StatusRejected, ih (by rw [started]; omega)]
    have hs : e.op.starts = false := by
      by_contra hs
      simp [hs] at h
    simp [hs]

/-- A resolution is started, and nothing after it starts another. -/
theorem statusRejected_cons {e : Event SchedAns W} (hs : e.op.starts = true) (hrest : started es = 0) :
    StatusRejected id (e :: es) ↔ HeadRejected id es := by
  rw [StatusRejected, or_iff_left (not_statusRejected hrest), and_iff_right hs]

end Endpoints

section Phases

variable {W α : Type} {deps : SchedulerDeps} {entry : QueueEntry} {resume : Bool}
variable {leaseToken : Option String} {es : List (Event SchedAns W)} {s s' : EntryVars}

theorem untunneled_of_only {ks : List OpKind} {x : SchedJs α} {r : Except JsError α} (h : Only ks x)
    (ht : .tunnel ∉ ks) (hc : .cleanup ∉ ks) (hr : x.run.Runs es r) : Untunneled es :=
  untunneled (kind_ne_of_only h ht hr) (kind_ne_of_only h hc hr)

theorem untunneled_of_onlyFrom {ks : List OpKind} {x : EntryJs α} {r : Except JsError α}
    (h : OnlyFrom ks x) (ht : .tunnel ∉ ks) (hc : .cleanup ∉ ks) (hr : RunsFrom x s es r s') :
    Untunneled es :=
  untunneled (kind_ne_of_onlyFrom h ht hr) (kind_ne_of_onlyFrom h hc hr)

/-! ## The resolutions -/

/-- The number of resolutions that run beside Stage 1. -/
def SchedulerDeps.tunnels (deps : SchedulerDeps) : ℕ := if deps.needsTunnel then 1 else 0

theorem runs_startTunnel {r : Except JsError Unit} (h : (startTunnel deps).run.Runs es r) :
    r = .ok () ∧ ((deps.needsTunnel = false ∧ es = []) ∨
      (deps.needsTunnel = true ∧ ∃ e, es = [e] ∧ e.op.starts = true ∧ e.op.collects = false ∧
        resolvedBy e = none ∧ e.op.cleans = none)) := by
  unfold startTunnel at h
  split_ifs at h with hneeds
  · obtain ⟨rfl, a, ha⟩ := runs_dropped h
    obtain ⟨pre, post, rfl⟩ := runs_extCall.mp ha
    exact ⟨rfl, .inr ⟨hneeds, _, rfl, rfl, rfl, rfl, rfl⟩⟩
  · obtain ⟨rfl, rfl⟩ := runs_throws_pure.mp h
    exact ⟨rfl, .inl ⟨Bool.eq_false_iff.mpr hneeds, rfl⟩⟩

theorem runs_dropTunnel {r : Except JsError Unit} (h : (dropTunnel deps).run.Runs es r) :
    r = .ok () ∧ collected es = deps.tunnels ∧ started es = 0 ∧ endpoints es = [] := by
  unfold dropTunnel at h
  rw [SchedulerDeps.tunnels]
  split_ifs at h ⊢
  · obtain ⟨rfl, a, ha⟩ := runs_dropped h
    obtain ⟨pre, post, rfl⟩ := runs_extCall.mp ha
    exact ⟨rfl, rfl, rfl, rfl⟩
  · obtain ⟨rfl, rfl⟩ := runs_throws_pure.mp h
    exact ⟨rfl, rfl, rfl, rfl⟩

/-- **The resolution after Stage 1** collects the one that was started before, and releases every
endpoint but the one that it returns. -/
theorem runs_resolveDeployment {deployment : DeploymentInfo} {o : Except JsError PublicEndpointResult}
    (h : (resolveDeployment deps deployment).run.Runs es o) :
    started es = 0 ∧ collected es = deps.tunnels ∧
      endpoints es = cleanups es ++ (o.toOption.map (·.cleanup)).toList := by
  unfold resolveDeployment at h
  rw [SchedulerDeps.tunnels]
  have hlast : ∀ {fs : List (Event SchedAns W)} {url : String} {enabled : Bool},
      (extCall (.resolveEndpoint url enabled)).run.Runs fs o → started fs = 0 ∧ collected fs = 0 ∧
        cleanups fs = [] ∧ endpoints fs = (o.toOption.map (·.cleanup)).toList := by
    intro fs url enabled hr
    obtain ⟨pre, post, rfl⟩ := runs_extCall.mp hr
    cases o <;> exact ⟨rfl, rfl, rfl, rfl⟩
  split_ifs at h ⊢
  · rcases runs_throws_bind.mp h with ⟨es₁, es₂, first, rfl, h₁, h₂⟩ | ⟨e, h₁, rfl⟩
    swap
    · obtain ⟨pre, post, rfl⟩ := runs_extCall.mp h₁
      exact ⟨rfl, rfl, rfl⟩
    obtain ⟨pre, post, rfl⟩ := runs_extCall.mp h₁
    split_ifs at h₂
    · obtain ⟨rfl, rfl⟩ := runs_throws_pure.mp h₂
      exact ⟨rfl, rfl, rfl⟩
    -- the tunnel was started too early
    rcases runs_throws_bind.mp h₂ with ⟨es₃, es₄, _, rfl, h₃, h₄⟩ | ⟨e, h₃, rfl⟩
    swap
    · obtain ⟨pre', post', rfl⟩ := runs_extCall.mp h₃
      exact ⟨rfl, rfl, rfl⟩
    obtain ⟨pre', post', rfl⟩ := runs_extCall.mp h₃
    obtain ⟨hs, hc, hclean, hend⟩ := hlast h₄
    simp only [started_append, collected_append, endpoints_append, cleanups_append, hs, hc, hclean, hend]
    exact ⟨rfl, rfl, rfl⟩
  · obtain ⟨hs, hc, hclean, hend⟩ := hlast h
    exact ⟨hs, hc, by rw [hend, hclean, List.nil_append]⟩

/-! ## Stage 1 -/

/-- The endpoint and the deferral stay as they are. -/
structure ReleaseKept (s s' : EntryVars) : Prop where
  endpoint : s'.releasePublicEndpoint = s.releasePublicEndpoint
  deferral : s'.deferInfrastructureTeardown = s.deferInfrastructureTeardown

theorem ReleaseKept.refl (s : EntryVars) : ReleaseKept s s := ⟨rfl, rfl⟩

theorem ReleaseKept.trans {s t u : EntryVars} (h : ReleaseKept s t) (h' : ReleaseKept t u) :
    ReleaseKept s u := ⟨h'.endpoint.trans h.endpoint, h'.deferral.trans h.deferral⟩

/-- The body keeps the endpoint and the deferral. -/
abbrev KeepsRelease {α : Type} (x : EntryJs α) : Prop := Preserves ReleaseKept x

theorem keepsRelease_bind {β : Type} {x : EntryJs α} {f : α → EntryJs β} (hx : KeepsRelease x)
    (hf : ∀ a, KeepsRelease (f a)) : KeepsRelease (x >>= f) :=
  preserves_bind (fun _ _ _ => ReleaseKept.trans) hx hf

theorem keepsRelease_pure (a : α) : KeepsRelease (pure a) := preserves_pure ReleaseKept.refl a

theorem keepsRelease_step {x : SchedJs α} : KeepsRelease (step x) := by
  intro W es s s' r h
  rw [(runsFrom_step.mp h).2]
  exact ReleaseKept.refl s

theorem keepsRelease_modifyRun {g : PipelineRun → PipelineRun} : KeepsRelease (modifyRun g) :=
  preserves_modify fun _ => ⟨rfl, rfl⟩

theorem keepsRelease_skipStage1 {deploymentName endpointUrl : String} :
    KeepsRelease (skipStage1 entry deploymentName endpointUrl) :=
  keepsRelease_bind keepsRelease_step fun _ =>
    keepsRelease_bind keepsRelease_step fun _ => keepsRelease_modifyRun

theorem keepsRelease_skipPhase : KeepsRelease (skipPhase entry resume) := by
  refine keepsRelease_bind ?_ fun evalOnly => preserves_ite ?_ (keepsRelease_pure _)
  · unfold evalOnlyPhase
    split
    · exact keepsRelease_bind keepsRelease_skipStage1 fun _ => keepsRelease_pure _
    · exact keepsRelease_pure _
  · refine keepsRelease_bind keepsRelease_step fun existing => ?_
    cases existing with
    | none => exact keepsRelease_pure _
    | some existing => exact keepsRelease_bind keepsRelease_skipStage1 fun _ => keepsRelease_pure _

/-- A phase that skips Stage 1 brings a deployment. -/
theorem runsFrom_skipPhase_true (h : RunsFrom (skipPhase entry resume) s es (.ok true) s') :
    s'.run.deployment ≠ none := by
  have hskip : ∀ {name url : String} {fs : List (Event SchedAns W)} {t t' : EntryVars} {r},
      RunsFrom (skipStage1 entry name url >>= fun _ => pure true) t fs (.ok r) t' →
        t'.run.deployment ≠ none := by
    intro name url fs t t' r h
    rcases runsFrom_bind.mp h with ⟨_, _, _, u, rfl, h₁, h₂⟩ | ⟨e, -, he⟩
    swap; · cases he
    obtain ⟨-, -, rfl⟩ := runsFrom_pure.mp h₂
    rcases runsFrom_step_bind.mp h₁ with ⟨_, _, _, rfl, -, h₃⟩ | ⟨e, -, -, he⟩
    swap; · cases he
    rcases runsFrom_step_bind.mp h₃ with ⟨_, _, now, rfl, -, h₄⟩ | ⟨e, -, -, he⟩
    swap; · cases he
    obtain ⟨-, -, rfl⟩ := runsFrom_modify.mp h₄
    exact nofun
  rcases runsFrom_bind.mp h with ⟨es₁, es₂, evalOnly, t, rfl, h₁, h₂⟩ | ⟨e, -, he⟩
  swap; · cases he
  cases evalOnly with
  | true =>
    simp only [Bool.not_true, Bool.and_false, Bool.false_eq_true, if_false] at h₂
    obtain ⟨-, -, rfl⟩ := runsFrom_pure.mp h₂
    unfold evalOnlyPhase at h₁
    split at h₁
    · exact hskip h₁
    · cases (runsFrom_pure.mp h₁).2.1
  | false =>
    split_ifs at h₂
    · rcases runsFrom_step_bind.mp h₂ with ⟨_, _, existing, rfl, -, h₃⟩ | ⟨e, -, -, he⟩
      swap; · cases he
      cases existing with
      | none => cases (runsFrom_pure.mp h₃).2.1
      | some existing => exact hskip h₃
    · cases (runsFrom_pure.mp h₂).2.1

/-- A finished Stage 1 names a deployment, or has thrown. -/
theorem execute_result {run : PipelineRun} {r : Except JsError Stage1Result}
    (h : (execute deps run).run.Runs es r) : ∃ result, r = .ok result ∧
      (result.deployment ≠ none ∨ ∃ message, result.Thrown message) := by
  obtain ⟨ts, bes, cs, fs, startTime, startedAt, o, result, rfl, -, hbody, rfl, hcases⟩ :=
    runs_execute h
  refine ⟨result, rfl, ?_⟩
  rcases hcases with ⟨result₀, now, rfl, -, rfl⟩ | ⟨err, c, rfl, -, hthrown⟩
  · obtain ⟨es₁, es₂, ⟨modelInfo, d⟩, rfl, -, h₂⟩ := runs_ok_bind.mp hbody
    obtain ⟨hname, hurl⟩ := runs_stage1Measure h₂
    left
    simp [Stage1Result.deployment, hname, hurl, truthy_of_ne d.deploymentName_ne,
      truthy_of_ne d.apiEndpoint_ne]
  · exact .inr ⟨_, hthrown⟩

/-- **What `processEntry` does with a Stage 1 result**: it goes on with the result's deployment, or has
given the resolution away. -/
theorem runsFrom_stage1Outcome_tunnel {result : Stage1Result} {r : Except JsError Bool}
    (h : RunsFrom (stage1Outcome deps entry leaseToken result) s es r s') :
    ReleaseKept s s' ∧ started es = 0 ∧ endpoints es = [] ∧ cleanups es = [] ∧
      ((r = .ok true ∧ collected es = 0 ∧ s'.run.deployment = result.deployment.or s.run.deployment) ∨
        (r ≠ .ok true ∧ collected es = deps.tunnels)) := by
  have hclean := cleanups_eq_nil (kind_ne_of_onlyFrom (onlyFrom_stage1Outcome deps entry leaseToken)
    (by simp) h)
  unfold stage1Outcome at h
  rw [runsFrom_modifyRun_bind] at h
  split_ifs at h
  · obtain ⟨rfl, rfl, rfl⟩ := runsFrom_pure.mp h
    exact ⟨⟨rfl, rfl⟩, rfl, rfl, hclean, .inl ⟨rfl, rfl, rfl⟩⟩
  rcases runsFrom_step_bind.mp h with ⟨es₁, es₂, _, rfl, h₁, h₂⟩ | ⟨e, h₁, -, -⟩
  swap; · cases (runs_dropTunnel h₁).1
  obtain ⟨-, hc, hst, hend⟩ := runs_dropTunnel h₁
  -- failing the entry has nothing to do with the tunnel
  have hfail : ∀ {fs : List (Event SchedAns W)} {r},
      (failEntry deps entry (result.error.getD "Stage 1 benchmark failed") leaseToken).run.Runs fs r →
        Untunneled fs := fun hr => untunneled_of_only (only_failEntry deps) (by simp) (by simp) hr
  rcases runsFrom_step_bind.mp h₂ with ⟨es₃, es₄, _, rfl, h₃, h₄⟩ | ⟨e, h₃, rfl, rfl⟩
  · obtain ⟨rfl, rfl, rfl⟩ := runsFrom_pure.mp h₄
    have hquiet := hfail h₃
    refine ⟨⟨rfl, rfl⟩, ?_, ?_, hclean, .inr ⟨nofun, ?_⟩⟩
    · simp [hst, hquiet.started]
    · simp [hend, hquiet.endpoints]
    · simp [hc, hquiet.collected]
  · have hquiet := hfail h₃
    refine ⟨⟨rfl, rfl⟩, ?_, ?_, hclean, .inr ⟨nofun, ?_⟩⟩
    · simp [hst, hquiet.started]
    · simp [hend, hquiet.endpoints]
    · simp [hc, hquiet.collected]

/-- **Stage 1 and the tunnel**: the run has a deployment afterwards, or the resolution has been given
away, or the status write before Stage 1 has been rejected and nothing else happens. -/
theorem runsFrom_stage1Phase_tunnel {skipped : Bool} {r : Except JsError Bool}
    (h : RunsFrom (stage1Phase deps entry leaseToken skipped) s es r s')
    (hs : skipped = true → s.run.deployment ≠ none) :
    ReleaseKept s s' ∧ started es = 0 ∧ endpoints es = [] ∧ cleanups es = [] ∧
      ((r = .ok true ∧ s'.run.deployment ≠ none ∧ collected es = 0 ∧ ¬HeadRejected entry.id es) ∨
        (r ≠ .ok true ∧ es ≠ [] ∧ collected es = deps.tunnels ∧ ¬HeadRejected entry.id es) ∨
        (r ≠ .ok true ∧ es ≠ [] ∧ collected es = 0 ∧ HeadRejected entry.id es)) := by
  cases skipped with
  | true =>
    obtain ⟨rfl, rfl, rfl⟩ := runsFrom_pure.mp h
    exact ⟨ReleaseKept.refl s, rfl, rfl, rfl, .inl ⟨rfl, hs rfl, rfl, not_headRejected_nil⟩⟩
  | false =>
    rcases runsFrom_step_bind.mp h with ⟨es₁, es₂, _, rfl, h₁, h₂⟩ | ⟨e, h₁, rfl, rfl⟩
    swap
    · obtain ⟨pre, post, rfl⟩ := runs_queueCall.mp h₁
      refine ⟨ReleaseKept.refl _, rfl, rfl, rfl, .inr (.inr ⟨nofun, nofun, rfl, _, rfl, ?_⟩)⟩
      exact beq_self_eq_true entry.id
    have hupd : Untunneled es₁ :=
      untunneled_of_only (only_queueCall (by simp [Status.terminal]) : Only [.plain] _) (by simp) (by simp) h₁
    have hfirst : es₁ ≠ [] ∧ ¬HeadRejected entry.id es₁ := by
      obtain ⟨pre, post, rfl⟩ := runs_queueCall.mp h₁
      simp [HeadRejected, rejectsDeploying]
    rw [runsFrom_theRun_bind] at h₂
    rcases runsFrom_step_bind.mp h₂ with ⟨es₃, es₄, result, rfl, h₃, h₄⟩ | ⟨e, h₃, -, -⟩
    swap
    · obtain ⟨_, he, -⟩ := execute_result h₃
      cases he
    have hexec := untunneled_of_only (only_execute deps s.run) (by simp) (by simp) h₃
    obtain ⟨_, he, hres⟩ := execute_result h₃
    obtain rfl := Except.ok.inj he
    obtain ⟨hkept, hst, hend, hclean, hcases⟩ := runsFrom_stage1Outcome_tunnel h₄
    have hhead : ¬HeadRejected entry.id (es₁ ++ (es₃ ++ es₄)) := by
      rw [headRejected_append hfirst.1]
      exact hfirst.2
    have hne : es₁ ++ (es₃ ++ es₄) ≠ [] := by simp [hfirst.1]
    have hcollected : collected (es₁ ++ (es₃ ++ es₄)) = collected es₄ := by
      simp [hupd.collected, hexec.collected]
    refine ⟨hkept, ?_, ?_, ?_, ?_⟩
    · simp [hupd.started, hexec.started, hst]
    · simp [hupd.endpoints, hexec.endpoints, hend]
    · simp [hupd.cleanups, hexec.cleanups, hclean]
    rw [hcollected]
    rcases hcases with ⟨rfl, hc, hdep⟩ | ⟨hr, hc⟩
    · refine .inl ⟨rfl, ?_, hc, hhead⟩
      rcases hres with hres | ⟨message, hthrown⟩
      · rw [hdep]
        cases hd : result.deployment with
        | none => exact absurd hd hres
        | some d => exact Option.some_ne_none d
      · exact absurd rfl (runsFrom_stage1Outcome_thrown hthrown h₄).2
    · exact .inr (.inl ⟨hr, hne, hc, hhead⟩)

/-! ## The entry -/

/-- Of the endpoints that the history has resolved, all but the last are released; the release of that
one is up to `processEntry`, or to the one detached poll that the history has started. -/
def LastHeld (es : List (Event SchedAns W)) (s : EntryVars) : Prop :=
  (s.deferInfrastructureTeardown = false ∧ deferred es = [] ∧
      endpoints es = cleanups es ++ s.releasePublicEndpoint.toList) ∨
    (s.deferInfrastructureTeardown = true ∧ ∃ job c, deferred es = [job] ∧
      job.infrastructure.releasePublicEndpoint = some c ∧ endpoints es = cleanups es ++ [c])

theorem LastHeld.after {fs : List (Event SchedAns W)} (h : LastHeld fs s) (hend : endpoints es = [])
    (hclean : cleanups es = []) (hdefer : deferred es = []) : LastHeld (es ++ fs) s := by
  simpa [LastHeld, hend, hclean, hdefer] using h

/-- **After Stage 1**, a run with a deployment collects the resolution that was started before, and all
but the last endpoint are released. -/
theorem runsFrom_afterStage1_tunnel {r : Except JsError Unit}
    (hdep : s.run.deployment ≠ none) (hrel : s.releasePublicEndpoint = none)
    (hdefer : s.deferInfrastructureTeardown = false)
    (h : RunsFrom (afterStage1 deps entry resume leaseToken) s es r s') :
    started es = 0 ∧ collected es = deps.tunnels ∧ LastHeld es s' ∧
      (deps.needsTunnel = true → ∀ fs, ¬HeadRejected entry.id (es ++ fs)) := by
  obtain ⟨d, hd⟩ := Option.ne_none_iff_exists'.mp hdep
  have hholds : Holds d.deploymentName none s := ⟨by rw [hd]; rfl, hrel, hdefer⟩
  obtain ⟨ts, rs, t, o, rfl, htun, hthrown, hkinds, -, hhanded⟩ := runsFrom_afterStage1 hholds h
  have hrs := untunneled (fun e he => (hkinds e he).1) fun e he => (hkinds e he).2
  have hts : ∀ k ∉ [OpKind.tunnel, .cleanup], ∀ e ∈ ts, e.op.kind ≠ k := fun k hk =>
    kind_ne_of_onlyFrom (onlyFrom_tunnelPhase deps) hk htun
  rcases runsFrom_tunnelPhase htun with ⟨hnone, -⟩ | ⟨deployment, o', -, hresolve, hout⟩
  · exact absurd hnone hdep
  obtain ⟨hst, hc, hend⟩ := runs_resolveDeployment hresolve
  refine ⟨by simp [hst, hrs.started], by simp [hc, hrs.collected], ?_, fun hneeds fs => ?_⟩
  · have hnil := deferred_eq_nil (hts .defer (by simp))
    have htally : endpoints (ts ++ rs) =
        cleanups (ts ++ rs) ++ (o'.toOption.map (·.cleanup)).toList := by
      simp [hend, hrs.endpoints, hrs.cleanups]
    rw [LastHeld, deferred_append, hnil, List.nil_append, htally]
    rcases hout with ⟨err, rfl, rfl, rfl⟩ | ⟨resolved, rfl, hkept, -⟩
    · obtain rfl := hthrown err rfl
      rcases hhanded with ⟨hflag, hnone, -⟩ | ⟨-, job, hjob, -⟩
      · exact .inl ⟨hflag, rfl, by rw [hnone, hrel]; rfl⟩
      · cases hjob
    · rcases hhanded with ⟨hflag, hsome, hnil⟩ | ⟨hflag, job, hjob, -, hc⟩
      · exact .inl ⟨hflag, hnil, by rw [hsome, hkept]; rfl⟩
      · exact .inr ⟨hflag, job, resolved.cleanup, hjob, hc.trans hkept, rfl⟩
  · rw [List.append_assoc, headRejected_append]
    · exact not_headRejected (hts .plain (by simp))
    · rintro rfl
      rw [SchedulerDeps.tunnels, hneeds] at hc
      cases hc

/-- **Stage 1 and what follows it**: the resolution is collected, unless the status write before Stage 1
is rejected; and all but the last endpoint are released. -/
theorem runsFrom_stages_tunnel {skipped : Bool} {r : Except JsError Unit}
    (hs : skipped = true → s.run.deployment ≠ none) (hrel : s.releasePublicEndpoint = none)
    (hdefer : s.deferInfrastructureTeardown = false)
    (h : RunsFrom (stage1Phase deps entry leaseToken skipped >>= fun goesOn =>
      if goesOn then afterStage1 deps entry resume leaseToken else pure ()) s es r s') :
    started es = 0 ∧ LastHeld es s' ∧
      ((collected es = deps.tunnels ∧
          (deps.needsTunnel = true → ∀ fs, ¬HeadRejected entry.id (es ++ fs))) ∨
        (collected es = 0 ∧ deferred es = [] ∧ ∀ fs, HeadRejected entry.id (es ++ fs))) := by
  have hstage1 := @onlyFrom_stage1Phase deps entry leaseToken skipped
  -- the entry has failed in Stage 1
  have hfailed : ∀ {fs : List (Event SchedAns W)} {q t},
      RunsFrom (stage1Phase deps entry leaseToken skipped) s fs q t → q ≠ .ok true →
      started fs = 0 ∧ LastHeld fs t ∧
        ((collected fs = deps.tunnels ∧
            (deps.needsTunnel = true → ∀ gs, ¬HeadRejected entry.id (fs ++ gs))) ∨
          (collected fs = 0 ∧ deferred fs = [] ∧ ∀ gs, HeadRejected entry.id (fs ++ gs))) := by
    intro fs q t hr hq
    obtain ⟨hkept, hst, hend, hclean, hcases⟩ := runsFrom_stage1Phase_tunnel hr hs
    have hnil := deferred_eq_nil (kind_ne_of_onlyFrom hstage1 (k := .defer) (by simp) hr)
    refine ⟨hst, .inl ⟨hkept.deferral.trans hdefer, hnil, ?_⟩, ?_⟩
    · rw [hend, hclean, hkept.endpoint, hrel]
      rfl
    rcases hcases with ⟨hok, -⟩ | ⟨-, hne, hc, hhead⟩ | ⟨-, hne, hc, hhead⟩
    · exact absurd hok hq
    · exact .inl ⟨hc, fun _ gs => by rwa [headRejected_append hne]⟩
    · exact .inr ⟨hc, hnil, fun gs => (headRejected_append hne).mpr hhead⟩
  rcases runsFrom_bind.mp h with ⟨es₁, es₂, goesOn, t, rfl, h₁, h₂⟩ | ⟨e, h₁, rfl⟩
  swap; · exact hfailed h₁ nofun
  cases goesOn with
  | false =>
    obtain ⟨rfl, -, rfl⟩ := runsFrom_pure.mp h₂
    rw [List.append_nil]
    exact hfailed h₁ nofun
  | true =>
    obtain ⟨hkept, hst, hend, hclean, ⟨-, hdep, hc, hhead⟩ | ⟨hr, -⟩ | ⟨hr, -⟩⟩ :=
      runsFrom_stage1Phase_tunnel h₁ hs
    · obtain ⟨hst', hc', hheld, hnot⟩ := runsFrom_afterStage1_tunnel hdep (hkept.endpoint.trans hrel)
        (hkept.deferral.trans hdefer) h₂
      have hnil := deferred_eq_nil (kind_ne_of_onlyFrom hstage1 (k := .defer) (by simp) h₁)
      refine ⟨by simp [hst, hst'], hheld.after hend hclean hnil, .inl ⟨by simp [hc, hc'], ?_⟩⟩
      intro hneeds fs
      rw [List.append_assoc]
      rcases eq_or_ne es₁ [] with rfl | hne
      · exact hnot hneeds fs
      · rwa [headRejected_append hne]
    · exact absurd rfl hr
    · exact absurd rfl hr

/-- **The `try` block and the tunnel**: either the status write before Stage 1 is rejected and the
resolution is lost; or the resolution is collected and all but the last endpoint are released. -/
theorem runsFrom_entryBody_tunnel {r : Except JsError Unit}
    (hrel : s.releasePublicEndpoint = none) (hdefer : s.deferInfrastructureTeardown = false)
    (h : RunsFrom (entryBody deps entry resume leaseToken) s es r s') :
    ((∀ fs, started fs = 0 → StatusRejected entry.id (es ++ fs)) ∧ started es = 1 ∧ collected es = 0 ∧
        deferred es = []) ∨
      ((∀ fs, started fs = 0 → ¬StatusRejected entry.id (es ++ fs)) ∧ collected es = started es ∧
        LastHeld es s') := by
  have hskip := @onlyFrom_skipPhase entry resume
  unfold entryBody at h
  rw [runsFrom_modifyRun_bind] at h
  rcases runsFrom_bind.mp h with ⟨es₁, es₂, skipped, t, rfl, h₁, h₂⟩ | ⟨e, h₁, -⟩
  swap
  · have hkept := keepsRelease_skipPhase W es _ _ _ h₁
    have hes := untunneled_of_onlyFrom hskip (by simp) (by simp) h₁
    refine .inr ⟨fun fs hfs => not_statusRejected (by simp [hes.started, hfs]), ?_, .inl ⟨?_, ?_, ?_⟩⟩
    · rw [hes.collected, hes.started]
    · exact hkept.deferral.trans hdefer
    · exact deferred_eq_nil (kind_ne_of_onlyFrom hskip (by simp) h₁)
    · rw [hes.endpoints, hes.cleanups, hkept.endpoint, hrel]
      rfl
  have hkept := keepsRelease_skipPhase W es₁ _ _ _ h₁
  have hes₁ := untunneled_of_onlyFrom hskip (by simp) (by simp) h₁
  have hnil₁ := deferred_eq_nil (kind_ne_of_onlyFrom hskip (k := .defer) (by simp) h₁)
  rcases runsFrom_step_bind.mp h₂ with ⟨es₃, es₄, _, rfl, h₃, h₄⟩ | ⟨e, h₃, -, -⟩
  swap; · cases (runs_startTunnel h₃).1
  have hdep : skipped = true → t.run.deployment ≠ none := by
    rintro rfl
    exact runsFrom_skipPhase_true h₁
  obtain ⟨hst, hheld, hcases⟩ := runsFrom_stages_tunnel hdep (hkept.endpoint.trans hrel)
    (hkept.deferral.trans hdefer) h₄
  rcases (runs_startTunnel h₃).2 with ⟨hneeds, rfl⟩ | ⟨hneeds, e, rfl, hstarts, hcollects, hend, hclean⟩
  · -- no resolution is started
    have hc : collected es₄ = 0 := by
      rcases hcases with ⟨hc, -⟩ | ⟨hc, -⟩
      · simpa [SchedulerDeps.tunnels, hneeds] using hc
      · exact hc
    refine .inr ⟨fun fs hfs => not_statusRejected ?_, ?_, ?_⟩
    · simp [hes₁.started, hst, hfs]
    · simp [hes₁.started, hes₁.collected, hst, hc]
    · exact hheld.after hes₁.endpoints hes₁.cleanups hnil₁
  · have htunnels : deps.tunnels = 1 := by rw [SchedulerDeps.tunnels, if_pos hneeds]
    have hone : started [e] = 1 ∧ collected [e] = 0 := by simp [started, collected, hstarts, hcollects]
    have hstarted : started (es₁ ++ ([e] ++ es₄)) = 1 := by
      rw [started_append, started_append, hes₁.started, hone.1, hst]
    have hcollected : collected (es₁ ++ ([e] ++ es₄)) = collected es₄ := by
      rw [collected_append, collected_append, hes₁.collected, hone.2, Nat.zero_add, Nat.zero_add]
    have hnil : deferred [e] = [] :=
      deferred_eq_nil (kind_ne_of_only (only_startTunnel deps) (by simp) h₃)
    -- the resolution is lost exactly when the next event is the rejection
    have hiff : ∀ fs, started fs = 0 →
        (StatusRejected entry.id (es₁ ++ ([e] ++ es₄) ++ fs) ↔ HeadRejected entry.id (es₄ ++ fs)) := by
      intro fs hfs
      rw [List.append_assoc, statusRejected_append hes₁.started]
      exact statusRejected_cons hstarts (by simp [hst, hfs])
    rw [hstarted, hcollected]
    rcases hcases with ⟨hc, hnot⟩ | ⟨hc, hnil₄, hhead⟩
    · refine .inr ⟨fun fs hfs => ?_, hc.trans htunnels, ?_⟩
      · rw [hiff fs hfs]
        exact hnot hneeds fs
      · refine (hheld.after ?_ ?_ hnil).after hes₁.endpoints hes₁.cleanups hnil₁
        · simp [endpoints, hend]
        · simp [cleanups, hclean]
    · refine .inl ⟨fun fs hfs => (hiff fs hfs).mpr (hhead fs), rfl, hc, ?_⟩
      rw [deferred_append, deferred_append, hnil₁, hnil, hnil₄]
      rfl

end Phases

section Release

variable {deps : SchedulerDeps} {entry : QueueEntry} {resume : Bool} {es fs : List SchedEvent}
variable {r : Except JsError Unit}

/-- A history without a resolution releases what there is: nothing. -/
theorem Untunneled.nothing_lost {W : Type} {gs : List (Event SchedAns W)} (h : Untunneled gs)
    (id : ℕ) : TunnelReleased gs ↔ ¬StatusRejected id gs :=
  iff_of_true ⟨h.collected.trans h.started.symm, by rw [h.cleanups, h.endpoints]⟩
    (not_statusRejected h.started)

/-- **Every public endpoint is released exactly once**, by `processEntry` or by the detached poll that
it has started, if and only if the status write that follows the start of the tunnel is not rejected
and the poll is not aborted by its `catch` handler. -/
theorem tunnelReleased_iff (h : (processEntry deps entry resume).run.Runs es r)
    (hsettled : ∀ job ∈ deferred es, ∃ o, (detachedPoll deps job).run.Runs fs o)
    (hnone : deferred es = [] → fs = []) :
    TunnelReleased (es ++ fs) ↔
      ¬StatusRejected entry.id es ∧ ∀ job ∈ deferred es, ¬CatchAborts deps job fs := by
  have hquiet : Untunneled es → deferred es = [] → (TunnelReleased (es ++ fs) ↔
      ¬StatusRejected entry.id es ∧ ∀ job ∈ deferred es, ¬CatchAborts deps job fs) := by
    intro hes hnil
    rw [hnone hnil, hnil, List.append_nil, hes.nothing_lost entry.id]
    simp
  obtain ⟨ps, ts, leaseToken, rfl, hps, -, hcases⟩ := runs_processEntry_cases h
  have hpre : ∀ k ∉ [OpKind.plain], ∀ e ∈ ps, e.op.kind ≠ k := fun k hk e he hek =>
    hk (by rw [← hek, hps e he]; simp)
  have hpu := untunneled (hpre .tunnel (by simp)) (hpre .cleanup (by simp))
  have hpd := deferred_eq_nil (hpre .defer (by simp))
  have hfailed : Untunneled ts → deferred ts = [] → (TunnelReleased (ps ++ ts ++ fs) ↔
      ¬StatusRejected entry.id (ps ++ ts) ∧
        ∀ job ∈ deferred (ps ++ ts), ¬CatchAborts deps job fs) := by
    intro hts hnil
    refine hquiet ⟨?_, ?_, ?_, ?_⟩ (by simp [hpd, hnil])
    · simp [hpu.started, hts.started]
    · simp [hpu.collected, hts.collected]
    · simp [hpu.endpoints, hts.endpoints]
    · simp [hpu.cleanups, hts.cleanups]
  rcases hcases with ⟨message, hfail⟩ | hcancel | ⟨run, -, -, ht⟩
  · exact hfailed (untunneled_of_only (only_failEntry deps) (by simp) (by simp) hfail)
      (deferred_eq_nil (kind_ne_of_only (only_failEntry deps) (by simp) hfail))
  · exact hfailed (untunneled_of_only only_cancelCooled (by simp) (by simp) hcancel)
      (deferred_eq_nil (kind_ne_of_only only_cancelCooled (by simp) hcancel))
  obtain ⟨bes, cs, gs, outcome, vars, rfl, hbody, hcatch, hfinally⟩ := runs_entryTry ht
  obtain ⟨-, hops⟩ := runs_entryFinally hfinally
  -- outside the `try` block nothing is resolved, and only the `finally` block releases
  have hcs := untunneled_of_only (only_entryCatch deps entry leaseToken) (by simp) (by simp) hcatch
  have hgs : ∀ k ∉ [OpKind.cleanup, .stop], ∀ e ∈ gs, e.op.kind ≠ k := fun k hk =>
    kind_ne_of_only only_entryFinally hk hfinally
  have hgst := started_eq_zero (hgs .tunnel (by simp))
  have hgc := collected_eq_zero (hgs .tunnel (by simp))
  have hge := endpoints_eq_nil (hgs .tunnel (by simp))
  have hdeferred : deferred (ps ++ (bes ++ (cs ++ gs))) = deferred bes := by
    simp [hpd, deferred_eq_nil (hgs .defer (by simp)), deferred_eq_nil
      (kind_ne_of_only (only_entryCatch deps entry leaseToken) (by simp) hcatch)]
  have hrejected : StatusRejected entry.id (ps ++ (bes ++ (cs ++ gs))) ↔
      StatusRejected entry.id (bes ++ (cs ++ gs)) := statusRejected_append hpu.started
  have htail : started (cs ++ gs) = 0 := by rw [started_append, hcs.started, hgst]
  rw [hdeferred] at hsettled hnone ⊢
  rw [hrejected]
  rcases runsFrom_entryBody_tunnel rfl rfl hbody with ⟨hrej, hst, hc, hnil⟩ | ⟨hnot, hc, hheld⟩
  · -- the resolution is lost
    refine iff_of_false (fun hrel => ?_) fun hn => hn.1 (hrej _ htail)
    have hcol := hrel.collected
    rw [hnone hnil] at hcol
    simp [hpu.started, hpu.collected, hcs.started, hcs.collected, hgst, hgc, hst, hc] at hcol
  rw [and_iff_right (hnot _ htail)]
  rcases hheld with ⟨hflag, hnil, hend⟩ | ⟨hflag, job, c, hjob, hjc, hend⟩
  · -- the `finally` block releases the last endpoint
    rw [hflag, if_neg Bool.false_ne_true] at hops
    have hclean := cleanups_releaseOps hops
    rw [hnone hnil, hnil]
    refine iff_of_true ⟨?_, ?_⟩ (by simp)
    · simp [hpu.started, hpu.collected, hcs.started, hcs.collected, hgst, hgc, hc]
    · simp [hpu.endpoints, hpu.cleanups, hcs.endpoints, hcs.cleanups, hge, hclean, hend]
  · -- the detached poll has taken the last endpoint over
    rw [hflag, if_pos rfl] at hops
    obtain rfl := List.map_eq_nil_iff.mp hops
    obtain ⟨o, hpoll⟩ := hsettled job (by rw [hjob]; exact List.mem_singleton_self job)
    have hft : ∀ e ∈ fs, e.op.kind ≠ .tunnel := kind_ne_of_only (only_detachedPoll deps) (by simp) hpoll
    have hcol : collected (ps ++ (bes ++ (cs ++ [])) ++ fs) = started (ps ++ (bes ++ (cs ++ [])) ++ fs) := by
      simp [hpu.started, hpu.collected, hcs.started, hcs.collected, started_eq_zero hft,
        collected_eq_zero hft, hc]
    have hperm : (cleanups (ps ++ (bes ++ (cs ++ [])) ++ fs)).Perm
        (endpoints (ps ++ (bes ++ (cs ++ [])) ++ fs)) ↔ cleanups fs = [c] := by
      simp only [endpoints_append, cleanups_append, hpu.endpoints, hpu.cleanups, hcs.endpoints,
        hcs.cleanups, endpoints_eq_nil hft, hend, List.nil_append, List.append_nil]
      rw [List.perm_append_left_iff, List.perm_singleton]
    have hiff : cleanups fs = [c] ↔ ¬CatchAborts deps job fs := by
      rw [cleanups_eq_teardown]
      rcases teardown_detachedPoll hpoll with ⟨haborts, hnil⟩ | ⟨hno, hdown⟩
      · rw [hnil]
        exact iff_of_false nofun fun hn => hn haborts
      · rw [hdown, releaseOps, hjc]
        refine iff_of_true ?_ hno
        cases job.guarded <;> cases truthy (some job.infrastructure.deploymentName) <;> rfl
    rw [hjob]
    simp only [List.mem_singleton, forall_eq]
    rw [← hiff, ← hperm]
    exact ⟨fun h => h.released, fun h => ⟨hcol, h⟩⟩

end Release

/-! ## One entry -/

/-- A scheduler with one suite and a tunnel. -/
def oneTunnelDeps : SchedulerDeps :=
  { oneSuiteDeps with config := { oneSuiteDeps.config with tunnelEnabled := true } }

/-- Answers in which the status write before Stage 1 ends in `status`, and a tunnel that was started too
early is resolved again. -/
def tunnelRetried (status : Except JsError Bool) : (o : SchedOp) → SchedAns o
  | .queue (.updateStatus _ .deploying _ _) => status
  | .ext (.startResolve _) => .ok ()
  | .ext .awaitResolve => .ok { endpointUrl := "", directUrl := "", tunneled := false, cleanup := 1 }
  | .ext (.resolveEndpoint _ _) => .ok { endpointUrl := "", directUrl := "", tunneled := true, cleanup := 2 }
  | .ext (.cleanupEndpoint _) => .ok ()
  | o => benchmarkEnds (.ok ⟨[], "", [], true⟩) o

/-- The history of the entry with these answers. -/
def tunnelHistory (status : Except JsError Bool) : List SchedEvent :=
  history (tunnelRetried status) (processEntry oneTunnelDeps oneEntry false)

/-- **A rejected status write leaks the tunnel.** Its resolution has been started, and the failed entry
neither awaits it nor gives it away; no detached poll is left that could. -/
theorem tunnel_leaks : ∃ es : List SchedEvent, oneTunnelDeps.needsTunnel = true ∧
    (processEntry oneTunnelDeps oneEntry false).run.Runs es (.ok ()) ∧ deferred es = [] ∧
      started es = 1 ∧ ¬TunnelReleased es := by
  obtain ⟨es, hruns, hnil, hst, hc⟩ : ∃ es : List SchedEvent,
      (processEntry oneTunnelDeps oneEntry false).run.Runs es (.ok ()) ∧ deferred es = [] ∧
        started es = 1 ∧ collected es = 0 :=
    ⟨tunnelHistory (.error ⟨"version conflict", none⟩), runs_history _ (by decide +kernel),
      by decide +kernel, by decide +kernel, by decide +kernel⟩
  refine ⟨es, by decide, hruns, hnil, hst, fun h => ?_⟩
  have := h.collected
  omega

/-- The tunnel is resolved twice and both endpoints are released. -/
theorem retried_released : ∃ es : List SchedEvent,
    (processEntry oneTunnelDeps oneEntry false).run.Runs es (.ok ()) ∧ endpoints es = [1, 2] ∧
      TunnelReleased (es ++ []) := by
  obtain ⟨es, hruns, hnil, hend, hrej⟩ : ∃ es : List SchedEvent,
      (processEntry oneTunnelDeps oneEntry false).run.Runs es (.ok ()) ∧ deferred es = [] ∧
        endpoints es = [1, 2] ∧ ¬StatusRejected oneEntry.id es :=
    ⟨tunnelHistory (.ok true), runs_history _ (by decide +kernel), by decide +kernel,
      by decide +kernel, by decide +kernel⟩
  have hno : ∀ job, job ∉ deferred es := fun job hjob => by simp [hnil] at hjob
  exact ⟨es, hruns, hend, (tunnelReleased_iff hruns (fun job hjob => absurd hjob (hno job))
    fun _ => rfl).mpr ⟨hrej, fun job hjob => absurd hjob (hno job)⟩⟩

end Benchmarker
