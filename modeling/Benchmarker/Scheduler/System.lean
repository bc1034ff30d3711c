import Benchmarker.Async.Threads
import Benchmarker.Scheduler.Course

/-!
# The methods of one scheduler side by side

Calls of `start`, `poll` and `stop` and the tasks that they leave running, as threads over the
private state of one scheduler. The queue, the other services and the clock may answer anything.

* `schedSystem`: the system. `SchedRules`: what a method has done when it issues a request;
  **`rules_schedBody`**: every method keeps to them.
* `executing`: the calls of `processEntry` that have not settled. `runs_entryTask`,
  **`executing_serve`**: such a call settles with the `finally` handler, and only with it.
* **`activeRuns_eq`**: in every reachable state `activeRuns` counts them.
-/

namespace Benchmarker

open Async Async.Prog

/-- A running method of the scheduler. -/
abbrev SchedThread : Type := Thread SchedAns (fun _ : SchedCall => Except JsError Unit) SchedulerState

/-- The state of one scheduler and its running methods. -/
abbrev SchedCfg : Type := Cfg SchedAns (fun _ : SchedCall => Except JsError Unit) SchedulerState

/-- Serve a request: the scheduler's own code acts on its state, everything else answers `ans`. -/
def serveSched : (o : SchedOp) → (∀ o, SchedAns o) → SchedulerState → SchedAns o × SchedulerState
  | .own a, _, w => a.apply w
  | .queue c, ans, w => (ans (.queue c), w)
  | .ext x, ans, w => (ans (.ext x), w)
  | .now, ans, w => (ans .now, w)
  | .randomUUID, ans, w => (ans .randomUUID, w)
  | .stage1Failed m, ans, w => (ans (.stage1Failed m), w)

/-- One scheduler. -/
def schedSystem (deps : SchedulerDeps) :
    System SchedAns (fun _ : SchedCall => Except JsError Unit) SchedulerState (∀ o, SchedAns o) Empty where
  start c := (schedBody deps c).run
  client
    | .start | .poll | .stop => true
    | _ => false
  forks _ := SchedOp.forks
  serve _ o ans w := some (serveSched o ans w)
  pass t _ := t.elim

/-- A method with a capacity check. -/
def SchedCall.polls : SchedCall → Bool
  | .start | .poll => true
  | _ => false

/-- The capacity check has let the method go on. -/
def enters : SchedEvent → Bool
  | ⟨.own (.hasRoom _), true, _, _⟩ => true
  | _ => false

/-- The event says that the entry `id` is not being processed: `poll` has looked it up, or has just
claimed it. -/
def clears (id : ℕ) : SchedEvent → Bool
  | ⟨.own (.owns i), false, _, _⟩ => i == id
  | ⟨.queue .dequeue, .ok (some entry), _, _⟩ => entry.id == id
  | _ => false

/-- No call of `processEntry` has begun or ended in the history. -/
def Unbegun (past : List SchedEvent) : Prop := ∀ e ∈ past, e.op.kind ≠ .beginRun ∧ e.op.kind ≠ .endRun

/-- What a method has done when it issues a request. -/
structure SchedRules (deps : SchedulerDeps) (c : SchedCall) (past : List SchedEvent) (o : SchedOp) :
    Prop where
  unbegun : Unbegun past
  room : ∀ m, o = .own (.hasRoom m) → m = deps.maxConcurrentRuns ∧ past.any enters = false ∧
    ∀ id, past.any (clears id) = false
  clear : o.kind = .clear → past.any enters = true
  begins : ∀ entry resume, o = .own (.beginRun entry resume) →
    c.polls = true ∧ past.any enters = true ∧ past.any (clears entry.id) = true
  ends : ∀ id, o = .own (.endRun id) → ∃ entry resume, c = .processEntry entry resume ∧ id = entry.id

/-- The kinds that the rules restrict. -/
def ruledKinds : List OpKind := [.room, .clear, .beginRun, .endRun]

section Rules

variable {deps : SchedulerDeps} {c : SchedCall} {past : List SchedEvent} {α : Type}

theorem kind_of_enters {e : SchedEvent} (h : enters e = true) : e.op.kind = .room := by
  unfold enters at h
  split at h
  · rfl
  · cases h

theorem kind_of_clears {id : ℕ} {e : SchedEvent} (h : clears id e = true) : e.op.kind = .clear := by
  unfold clears at h
  split at h
  · rfl
  · rfl
  · cases h

/-- A request of another kind keeps to the rules. -/
theorem rules_plain {o : SchedOp} (ho : o.kind ∉ ruledKinds) (hpast : Unbegun past) :
    SchedRules deps c past o where
  unbegun := hpast
  room m h := absurd (by rw [h]; simp [ruledKinds]) ho
  clear h := absurd (by rw [h]; simp [ruledKinds]) ho
  begins entry resume h := absurd (by rw [h]; simp [ruledKinds]) ho
  ends id h := absurd (by rw [h]; simp [ruledKinds]) ho

/-- A body that issues no ruled request keeps to the rules. -/
theorem Only.rules {ks : List OpKind} {x : SchedJs α} (h : Only ks x) (hks : ∀ k ∈ ks, k ∉ ruledKinds)
    (hpast : Unbegun past) : x.run.Issues (SchedRules deps c) past := by
  have hfree : x.run.Uses fun o => o.kind ∉ ruledKinds := Uses.mono h fun o => hks o.kind
  have hnew : ∀ e : SchedEvent, e.op.kind ∉ ruledKinds → e.op.kind ≠ .beginRun ∧ e.op.kind ≠ .endRun :=
    fun e he => ⟨fun hk => he (by rw [hk]; decide), fun hk => he (by rw [hk]; decide)⟩
  refine (Uses.issues_all hnew hfree hpast).mono ?_
  rintro past o ⟨ho, hpast⟩
  exact rules_plain ho hpast

theorem Unbegun.append {es : List SchedEvent} (h : Unbegun past) (h' : Unbegun es) :
    Unbegun (past ++ es) := by
  intro e he
  rcases List.mem_append.mp he with he | he
  · exact h e he
  · exact h' e he

/-- A history without ruled requests. -/
theorem Only.unruled {ks : List OpKind} {x : SchedJs α} (h : Only ks x)
    (hks : ∀ k ∈ ks, k ∉ ruledKinds) {es : List SchedEvent} {r : Except JsError α}
    (hr : x.run.Runs es r) : ∀ e ∈ es, e.op.kind ∉ ruledKinds :=
  fun e he => hks _ (h.events hr e he)

theorem unbegun_of_unruled {es : List SchedEvent} (h : ∀ e ∈ es, e.op.kind ∉ ruledKinds) :
    Unbegun es := fun e he =>
  ⟨fun hk => h e he (by rw [hk]; decide), fun hk => h e he (by rw [hk]; decide)⟩

/-- What follows a body without ruled requests. -/
theorem rules_bind {β : Type} {ks : List OpKind} {x : SchedJs α} {f : α → SchedJs β} (hx : Only ks x)
    (hks : ∀ k ∈ ks, k ∉ ruledKinds) (hpast : Unbegun past)
    (hf : ∀ es a, x.run.Runs es (.ok a) → Unbegun (past ++ es) →
      (f a).run.Issues (SchedRules deps c) (past ++ es)) :
    (x >>= f).run.Issues (SchedRules deps c) past :=
  (hx.rules hks hpast).throws_bind fun es a h =>
    hf es a h (hpast.append (unbegun_of_unruled (hx.unruled hks h)))

/-- One request, after which nothing is left to do. -/
theorem rules_own {a : OwnOp} (h : SchedRules deps c past (.own a)) :
    (own a).run.Issues (SchedRules deps c) past := issues_lift (issues_request h)

/-! ## The rules of the methods -/

theorem rules_takeEntry {entry : QueueEntry} {token : Option String} {resume : Bool}
    (hc : c.polls = true) (hpast : Unbegun past) (henter : past.any enters = true)
    (hclear : past.any (clears entry.id) = true) :
    (takeEntry deps entry token resume).run.Issues (SchedRules deps c) past := by
  refine rules_bind only_keepLease (by decide) hpast fun es₁ _ _ hpast₁ => ?_
  refine rules_bind (only_retireIfRecencyExcluded deps) (by decide) hpast₁ fun es₂ retired _ hpast₂ => ?_
  cases retired with
  | true =>
    have hdrop : Only [.plain] (own (.dropLease entry.id)) := only_own (by simp)
    exact hdrop.rules (by decide) hpast₂
  | false =>
    refine rules_own ⟨hpast₂, fun m h => (nomatch h), fun h => ?_, fun entry' resume' h => ?_,
      fun id h => (nomatch h)⟩
    · simp at h
    · cases h
      refine ⟨hc, ?_, ?_⟩
      · simp [henter]
      · simp [hclear]

theorem rules_adoptInFlight {inFlight : QueueEntry} (hc : c.polls = true) (hpast : Unbegun past)
    (henter : past.any enters = true) :
    (adoptInFlight deps inFlight).run.Issues (SchedRules deps c) past := by
  refine Issues.throws_bind (rules_own ?_) fun es₁ owned h₁ => ?_
  · exact ⟨hpast, fun m h => (nomatch h), fun _ => henter, fun e r h => (nomatch h), fun id h => (nomatch h)⟩
  obtain ⟨owned', pre, post, he, rfl⟩ := runs_own h₁
  have heq : owned = owned' := Except.ok.inj he
  subst heq
  cases owned with
  | true => exact issues_throws_pure _
  | false =>
    have hpast₁ : Unbegun (past ++ [⟨.own (.owns inFlight.id), false, pre, post⟩]) :=
      hpast.append fun e he => by rw [List.mem_singleton.mp he]; simp
    have hadopt : Only [.plain] (queueCall (.adoptEntry inFlight.id)) := only_queueCall (by simp)
    refine rules_bind hadopt (by decide) hpast₁ fun es₂ _ _ hpast₂ => ?_
    refine rules_takeEntry hc hpast₂ ?_ ?_
    · simp [henter]
    · simp [clears]

theorem rules_dequeueNext (hc : c.polls = true) (hpast : Unbegun past)
    (henter : past.any enters = true) : (dequeueNext deps).run.Issues (SchedRules deps c) past := by
  refine rules_bind (only_isDailyCostCapReached deps) (by decide) hpast fun es₁ capped _ hpast₁ => ?_
  cases capped with
  | true => exact issues_throws_pure _
  | false =>
    have henter₁ : (past ++ es₁).any enters = true := by simp [henter]
    refine Issues.throws_bind (issues_request ?_) fun es₂ claimed h₂ => ?_
    · exact ⟨hpast₁, fun m h => (nomatch h), fun _ => henter₁, fun e r h => (nomatch h),
        fun id h => (nomatch h)⟩
    obtain ⟨pre, post, rfl⟩ := runs_queueCall.mp h₂
    cases claimed with
    | none => exact issues_throws_pure _
    | some entry =>
      refine rules_takeEntry hc (hpast₁.append ?_) ?_ ?_
      · intro e he
        rw [List.mem_singleton.mp he]
        simp
      · simp [henter]
      · simp [clears]

theorem rules_pollBody (hc : c.polls = true) (hpast : Unbegun past)
    (henter : past.any enters = true) : (pollBody deps).run.Issues (SchedRules deps c) past := by
  have hcurrent : Only [.plain] (queueCall .getCurrent) := only_queueCall (by simp)
  refine rules_bind hcurrent (by decide) hpast fun es₁ inFlight _ hpast₁ => ?_
  have henter₁ : (past ++ es₁).any enters = true := by simp [henter]
  cases inFlight with
  | some inFlight => exact rules_adoptInFlight hc hpast₁ henter₁
  | none => exact rules_dequeueNext hc hpast₁ henter₁

/-- A poll that starts after unruled requests. -/
theorem rules_poll (hc : c.polls = true) (hpast : ∀ e ∈ past, e.op.kind ∉ ruledKinds) :
    (poll deps).run.Issues (SchedRules deps c) past := by
  have hnext : ∀ {α : Type} {x : SchedJs α} {es fs : List SchedEvent} {a : α}, Only [.plain] x →
      (∀ e ∈ fs, e.op.kind ∉ ruledKinds) → x.run.Runs es (.ok a) →
        ∀ e ∈ fs ++ es, e.op.kind ∉ ruledKinds := by
    intro α x es fs a hx hfs hr e he
    rcases List.mem_append.mp he with he | he
    · exact hfs e he
    · exact hx.unruled (by decide) hr e he
  have hdown : Only [.plain] (own .isShuttingDown) := only_own (by simp)
  refine rules_bind hdown (by decide) (unbegun_of_unruled hpast) fun es₁ down h₁ hpast₁ => ?_
  have hun₁ := hnext hdown hpast h₁
  cases down with
  | true => exact issues_throws_pure _
  | false =>
    refine rules_bind only_heartbeatActiveEntries (by decide) hpast₁ fun es₂ _ h₂ hpast₂ => ?_
    have hun₂ := hnext only_heartbeatActiveEntries hun₁ h₂
    refine rules_bind (only_reclaimStuckEntries deps) (by decide) hpast₂ fun es₃ _ h₃ hpast₃ => ?_
    have hun₃ := hnext (only_reclaimStuckEntries deps) hun₂ h₃
    refine Issues.throws_bind (rules_own ?_) fun es₄ room h₄ => ?_
    · refine ⟨hpast₃, fun m h => ?_, fun h => ?_, fun e r h => (nomatch h), fun id h => (nomatch h)⟩
      · cases h
        refine ⟨rfl, List.any_eq_false.mpr fun e he henter => hun₃ e he ?_,
          fun id => List.any_eq_false.mpr fun e he hclear => hun₃ e he ?_⟩
        · rw [kind_of_enters henter]
          decide
        · rw [kind_of_clears hclear]
          decide
      · simp at h
    obtain ⟨room', pre, post, he, rfl⟩ := runs_own h₄
    have heq : room = room' := Except.ok.inj he
    subst heq
    cases room with
    | false => exact issues_throws_pure _
    | true =>
      have hroom : Unbegun [⟨.own (.hasRoom deps.maxConcurrentRuns), true, pre, post⟩] :=
        fun e he => by rw [List.mem_singleton.mp he]; simp
      have hpast₄ := hpast₃.append hroom
      refine Issues.throws_bind (issues_attempt (rules_pollBody hc hpast₄ ?_)) fun es₅ _ _ =>
        issues_throws_pure _
      simp [enters]

theorem rules_start (hc : c.polls = true) : (start deps).run.Issues (SchedRules deps c) [] := by
  have hload : Only [.plain] (extCall .loadActiveModelCooldowns) := only_extCall (by simp)
  have hnil : ∀ e ∈ ([] : List SchedEvent), e.op.kind ∉ ruledKinds := by simp
  refine rules_bind (uses_attempt hload) (by decide) (unbegun_of_unruled hnil) fun es₁ r h₁ hpast₁ => ?_
  have hun₁ : ∀ e ∈ [] ++ es₁, e.op.kind ∉ ruledKinds := Only.unruled (uses_attempt hload) (by decide) h₁
  cases r with
  | error err => exact rules_poll hc hun₁
  | ok active =>
    refine rules_bind (only_rehydrate active) (by decide) hpast₁ fun es₂ _ h₂ _ => rules_poll hc ?_
    intro e he
    rcases List.mem_append.mp he with he | he
    · exact hun₁ e he
    · exact (only_rehydrate active).unruled (by decide) h₂ e he

theorem rules_entryTask {entry : QueueEntry} {resume : Bool} : (entryTask deps entry resume).run.Issues
    (SchedRules deps (.processEntry entry resume)) [] := by
  have hentry : Only entryKinds (processEntry deps entry resume) := only_processEntry deps entry
  have hnil : Unbegun [] := by simp [Unbegun]
  refine rules_bind (uses_attempt hentry) (by decide) hnil fun es₁ outcome _ hpast₁ => ?_
  refine Issues.throws_bind (rules_own ?_) fun es₂ _ _ => ?_
  · refine ⟨hpast₁, fun m h => ?_, fun h => ?_, fun e r h => ?_, fun id h => ?_⟩
    · cases h
    · simp at h
    · cases h
    · cases h
      exact ⟨entry, resume, rfl, rfl⟩
  · cases outcome with
    | ok a => exact issues_throws_pure _
    | error err => exact issues_throw _

theorem only_deferredTask {job : DetachedPoll} :
    Only [.plain, .write, .cleanup, .stop] (deferredTask deps job) := by
  refine uses_throws_bind (uses_attempt ((only_detachedPoll deps).mono (by simp))) fun r => ?_
  refine uses_throws_bind (only_own (by simp)) fun _ => ?_
  cases r with
  | ok a => exact uses_throws_pure _
  | error err => exact uses_throw _

/-- **Every method keeps to the rules.** -/
theorem rules_schedBody (deps : SchedulerDeps) (c : SchedCall) :
    (schedBody deps c).run.Issues (SchedRules deps c) [] := by
  have hnil : Unbegun [] := by simp [Unbegun]
  cases c with
  | start => exact rules_start rfl
  | poll => exact rules_poll rfl (by simp)
  | stop => exact only_stop.rules (by decide) hnil
  | processEntry entry resume => exact rules_entryTask
  | detachedPoll job => exact (only_deferredTask).rules (by decide) hnil
  | guard job => exact only_guardTask.rules (by decide) hnil

end Rules

/-! ## Calls of `processEntry` -/

/-- The thread is a call of `processEntry`, for an entry that satisfies `p`, that has not settled. -/
def executing (p : QueueEntry → Bool) (th : SchedThread) : Bool :=
  match th.call with
  | .processEntry entry _ => p entry && th.pending.isSome
  | _ => false

/-- Only `beginRun` and `endRun` begin and end a call of `processEntry`. -/
theorem kind_own {o : SchedOp} {k : OpKind} (hk : k = .beginRun ∨ k = .endRun) (h : o.kind = k) :
    ∃ a, o = .own a := by
  cases o with
  | own a => exact ⟨a, rfl⟩
  | queue c =>
    cases c with
    | updateStatus id status m t => rcases hk with rfl | rfl <;> cases hs : status.terminal <;> simp [hs] at h
    | _ => rcases hk with rfl | rfl <;> simp at h
  | ext x => cases x <;> rcases hk with rfl | rfl <;> simp at h
  | _ => rcases hk with rfl | rfl <;> simp at h

theorem eq_beginRun {o : SchedOp} (h : o.kind = .beginRun) : ∃ entry resume, o = .own (.beginRun entry resume) := by
  obtain ⟨a, rfl⟩ := kind_own (.inl rfl) h
  cases a with
  | beginRun entry resume => exact ⟨entry, resume, rfl⟩
  | _ => simp at h

theorem eq_endRun {o : SchedOp} (h : o.kind = .endRun) : ∃ id, o = .own (.endRun id) := by
  obtain ⟨a, rfl⟩ := kind_own (.inr rfl) h
  cases a with
  | endRun id => exact ⟨id, rfl⟩
  | _ => simp at h

section Executing

variable {deps : SchedulerDeps} {ok : SchedCfg → Move SchedCall (∀ o, SchedAns o) Empty → Prop}
variable {cfg cfg' : SchedCfg} {entry : QueueEntry} {resume : Bool}

/-- A finished call of `processEntry` ends with its `finally` handler. -/
theorem runs_entryTask {es : List SchedEvent} {r : Except JsError Unit}
    (h : (entryTask deps entry resume).run.Runs es r) : ∃ bes e, es = bes ++ [e] ∧
      (processEntry deps entry resume).run.Runs bes r ∧ e.op = .own (.endRun entry.id) := by
  rcases runs_throws_bind.mp h with ⟨bes, es₂, outcome, rfl, h₁, h₂⟩ | ⟨e, h₁, -⟩
  swap; · obtain ⟨_, -, he⟩ := runs_lift.mp h₁; cases he
  have hentry := runs_attempt.mp h₁
  rcases runs_throws_bind.mp h₂ with ⟨es₃, es₄, _, rfl, h₃, h₄⟩ | ⟨e, h₃, -⟩
  swap; · obtain ⟨_, _, _, he, -⟩ := runs_own h₃; cases he
  obtain ⟨v, pre, post, -, rfl⟩ := runs_own h₃
  have hend : es₄ = [] ∧ outcome = r := by
    cases outcome with
    | ok a => exact runs_throws_pure.mp h₄
    | error err => exact runs_throw.mp h₄
  rw [hend.1, List.append_nil]
  exact ⟨bes, _, rfl, hend.2 ▸ hentry, rfl⟩

/-- What an uninterrupted piece leaves alone. -/
theorem apply_bookkeeping {a : OwnOp} (h : (SchedOp.own a).kind ≠ .beginRun)
    (h' : (SchedOp.own a).kind ≠ .endRun) (w : SchedulerState) :
    (a.apply w).2.activeRuns = w.activeRuns ∧ (a.apply w).2.entryInProcess = w.entryInProcess := by
  cases a with
  | beginRun entry resume => simp at h
  | endRun id => simp at h'
  | reclaimDue now ms =>
    simp only [OwnOp.apply]
    split_ifs <;> exact ⟨rfl, rfl⟩
  | isModelCooldown m now =>
    simp only [OwnOp.apply, SchedulerState.isModelCooldown]
    split
    · exact ⟨rfl, rfl⟩
    · split_ifs <;> exact ⟨rfl, rfl⟩
  | recordModelFailure m ty now =>
    simp only [OwnOp.apply, SchedulerState.recordModelFailure, SchedulerState.pruneStaleModelEntries]
    split_ifs <;> exact ⟨rfl, rfl⟩
  | _ => exact ⟨rfl, rfl⟩

theorem serveSched_bookkeeping {o : SchedOp} (h : o.kind ≠ .beginRun) (h' : o.kind ≠ .endRun)
    (ans : ∀ o, SchedAns o) (w : SchedulerState) : (serveSched o ans w).2.activeRuns = w.activeRuns ∧
      (serveSched o ans w).2.entryInProcess = w.entryInProcess := by
  cases o with
  | own a => exact apply_bookkeeping h h' w
  | _ => exact ⟨rfl, rfl⟩

variable {w₀ : SchedulerState} {c : SchedCall} {past : List SchedEvent} {o : SchedOp}
variable {k : SchedAns o → Prog SchedAns (Except JsError Unit)}

/-- The pending request of a method keeps to the rules. -/
theorem sched_rules (h : (schedSystem deps).Reachable w₀ cfg)
    (hth : (⟨c, past, .await o k⟩ : SchedThread) ∈ cfg.threads) : SchedRules deps c past o :=
  h.issues (rules_schedBody deps) hth

/-- A method that has begun or ended a call of `processEntry` has returned. -/
theorem pending_eq_none (h : (schedSystem deps).Reachable w₀ cfg) {th : SchedThread}
    (hth : th ∈ cfg.threads) (hpast : ¬Unbegun th.past) : th.pending = none := by
  obtain ⟨c, past, p⟩ := th
  cases p with
  | ret r => rfl
  | await o k => exact absurd (sched_rules h hth).unbegun hpast

/-- **A call of `processEntry` has settled exactly when its `finally` handler has run.** -/
theorem settled_iff (h : (schedSystem deps).Reachable w₀ cfg) {th : SchedThread}
    (hth : th ∈ cfg.threads) (hcall : th.call = .processEntry entry resume) : th.pending = none ↔
      ∃ bes e, th.past = bes ++ [e] ∧ e.op = .own (.endRun entry.id) := by
  constructor
  · intro hnone
    have hafter := h.after th hth
    obtain ⟨c, past, p⟩ := th
    cases hcall
    cases p with
    | ret r =>
      obtain ⟨bes, e, hes, -, hop⟩ := runs_entryTask hafter
      exact ⟨bes, e, hes, hop⟩
    | await o k => cases hnone
  · rintro ⟨bes, e, hes, hop⟩
    refine pending_eq_none h hth fun hpast => (hpast e ?_).2 ?_
    · rw [hes]
      simp
    · rw [hop]
      simp

/-- An answer goes to a method that waits for one. -/
theorem exists_pending {i : ℕ} {ans : ∀ o, SchedAns o}
    (hs : (schedSystem deps).move cfg (.serve i ans) = some cfg') : ∃ (c : SchedCall)
      (past : List SchedEvent) (o : SchedOp) (k : SchedAns o → Prog SchedAns (Except JsError Unit)),
      cfg.threads[i]? = some ⟨c, past, .await o k⟩ := by
  obtain ⟨c, past, o, k, -, -, hi, -, -⟩ := System.move_serve.mp hs
  exact ⟨c, past, o, k, hi⟩

/-- The method that an answer has reached. -/
def answered (c : SchedCall) (past : List SchedEvent) (o : SchedOp)
    (k : SchedAns o → Prog SchedAns (Except JsError Unit)) (ans : ∀ o, SchedAns o)
    (w : SchedulerState) : SchedThread :=
  ⟨c, past ++ [⟨o, (serveSched o ans w).1, w, (serveSched o ans w).2⟩], k (serveSched o ans w).1⟩

/-- One answer. -/
theorem sched_serve {i : ℕ} {ans : ∀ o, SchedAns o}
    (hi : cfg.threads[i]? = some ⟨c, past, .await o k⟩) :
    (schedSystem deps).move cfg (.serve i ans) = some cfg' ↔
      cfg' = ⟨(serveSched o ans cfg.world).2, cfg.threads.set i (answered c past o k ans cfg.world) ++
        o.forks.map (schedSystem deps).fresh⟩ := by
  simp only [System.move, hi, System.advance, schedSystem, Option.map_some, Option.some.injEq,
    @eq_comm _ cfg']
  rfl

theorem answered_mem {i : ℕ} {ans : ∀ o, SchedAns o}
    (hi : cfg.threads[i]? = some ⟨c, past, .await o k⟩)
    (hs : (schedSystem deps).move cfg (.serve i ans) = some cfg') :
    answered c past o k ans cfg.world ∈ cfg'.threads := by
  rw [(sched_serve hi).mp hs]
  have hlt : i < cfg.threads.length := (List.getElem?_eq_some_iff.mp hi).1
  exact List.mem_append_left _ (List.mem_set hlt _)

theorem executing_of_polls (p : QueueEntry → Bool) {th : SchedThread} (h : th.call.polls = true) :
    executing p th = false := by
  obtain ⟨c, past, q⟩ := th
  cases c with
  | processEntry entry resume => cases h
  | _ => rfl

/-- A call that a request starts is a call of `processEntry` exactly for `beginRun`. -/
theorem countP_forks (p : QueueEntry → Bool) (o : SchedOp) :
    (o.forks.map (schedSystem deps).fresh).countP (executing p) =
      match o with
      | .own (.beginRun entry _) => if p entry then 1 else 0
      | _ => 0 := by
  cases o with
  | own a =>
    cases a with
    | beginRun entry resume =>
      have hfresh : executing p ((schedSystem deps).fresh (.processEntry entry resume)) = p entry :=
        Bool.and_true _
      show List.countP _ [_] = _
      rw [List.countP_singleton, hfresh]
    | _ => rfl
  | ext x => cases x <;> rfl
  | _ => rfl

/-- **The calls of `processEntry` across one answer**: a poll starts one, a `finally` handler
settles one, and every other answer leaves them and their bookkeeping alone. -/
theorem executing_serve (h : (schedSystem deps).Reachable w₀ cfg) {i : ℕ} {ans : ∀ o, SchedAns o}
    (hi : cfg.threads[i]? = some ⟨c, past, .await o k⟩)
    (hs : (schedSystem deps).move cfg (.serve i ans) = some cfg') :
    (∃ entry resume, o = .own (.beginRun entry resume) ∧ ∀ p, cfg'.threads.countP (executing p) =
      cfg.threads.countP (executing p) + if p entry then 1 else 0) ∨
    (∃ entry, o = .own (.endRun entry.id) ∧ ∀ p, cfg'.threads.countP (executing p) +
      (if p entry then 1 else 0) = cfg.threads.countP (executing p)) ∨
    (o.kind ≠ .beginRun ∧ o.kind ≠ .endRun ∧
      ∀ p, cfg'.threads.countP (executing p) = cfg.threads.countP (executing p)) := by
  have hrules := sched_rules h (List.mem_of_getElem? hi)
  have hreach : (schedSystem deps).Reachable w₀ cfg' := h.move _ trivial hs
  have hmem := answered_mem hi hs
  obtain rfl := (sched_serve hi).mp hs
  have hsettled : ∀ entry resume, c = .processEntry entry resume →
      ((answered c past o k ans cfg.world).pending = none ↔ o = .own (.endRun entry.id)) := by
    intro entry resume hc
    rw [settled_iff hreach hmem hc]
    constructor
    · rintro ⟨bes, e, hes, hop⟩
      have heq := (List.append_inj' hes rfl).2
      rw [← hop, ← List.singleton_inj.mp heq]
    · intro ho
      exact ⟨past, _, rfl, ho⟩
  have hcount : ∀ p, (cfg.threads.set i (answered c past o k ans cfg.world) ++
      o.forks.map (schedSystem deps).fresh).countP (executing p) +
        (if executing p ⟨c, past, .await o k⟩ then 1 else 0) =
      cfg.threads.countP (executing p) +
        (if executing p (answered c past o k ans cfg.world) then 1 else 0) +
        (o.forks.map (schedSystem deps).fresh).countP (executing p) := by
    intro p
    have hset := countP_set_add (executing p) (b := answered c past o k ans cfg.world) hi
    rw [List.countP_append]
    omega
  by_cases hbegin : o.kind = .beginRun
  · -- a poll starts a call and returns
    obtain ⟨entry, resume, rfl⟩ := eq_beginRun hbegin
    refine .inl ⟨entry, resume, rfl, fun p => ?_⟩
    have hpolls := (hrules.begins entry resume rfl).1
    have hp := hcount p
    rw [executing_of_polls p hpolls, executing_of_polls p hpolls, countP_forks] at hp
    simpa using hp
  by_cases hend : o.kind = .endRun
  · -- a `finally` handler settles its call
    obtain ⟨id, rfl⟩ := eq_endRun hend
    obtain ⟨entry, resume, rfl, rfl⟩ := hrules.ends id rfl
    refine .inr (.inl ⟨entry, rfl, fun p => ?_⟩)
    have hnew : executing p (answered (.processEntry entry resume) past _ k ans cfg.world) = false := by
      show (p entry && (answered (.processEntry entry resume) past _ k ans cfg.world).pending.isSome) = false
      rw [(hsettled entry resume rfl).mpr rfl]
      exact Bool.and_false _
    have hold : executing p (⟨.processEntry entry resume, past, .await (.own (.endRun entry.id)) k⟩ :
        SchedThread) = p entry := Bool.and_true _
    have hp := hcount p
    rw [hnew, hold, countP_forks] at hp
    simpa using hp
  · refine .inr (.inr ⟨hbegin, hend, fun p => ?_⟩)
    have hsame : executing p (answered c past o k ans cfg.world) =
        executing p ⟨c, past, .await o k⟩ := by
      cases c with
      | processEntry entry resume =>
        have hsome : (answered (.processEntry entry resume) past o k ans cfg.world).pending.isSome = true := by
          rw [Option.isSome_iff_ne_none]
          intro hnone
          rw [(hsettled entry resume rfl).mp hnone] at hend
          simp at hend
        show (p entry && _) = (p entry && true)
        rw [hsome]
      | _ => rfl
    have hforks : (o.forks.map (schedSystem deps).fresh).countP (executing p) = 0 := by
      rw [countP_forks]
      split
      · simp at hbegin
      · rfl
    have hp := hcount p
    rw [hsame, hforks] at hp
    show List.countP (executing p) (cfg.threads.set _ _ ++ _) = _
    omega

/-- A call from outside is not a call of `processEntry`. -/
theorem executing_invoke (hs : (schedSystem deps).move cfg (.invoke c) = some cfg') :
    cfg'.world = cfg.world ∧ cfg'.threads = cfg.threads ++ [(schedSystem deps).fresh c] ∧
      ∀ p, cfg'.threads.countP (executing p) = cfg.threads.countP (executing p) := by
  obtain ⟨hclient, rfl⟩ := System.move_invoke.mp hs
  refine ⟨rfl, rfl, fun p => ?_⟩
  have hfresh : executing p ((schedSystem deps).fresh c) = false := by
    cases c with
    | processEntry entry resume => cases hclient
    | _ => rfl
  rw [List.countP_append, List.countP_singleton, hfresh]
  rfl

/-- **`activeRuns` counts the calls of `processEntry` that have not settled.** -/
theorem activeRuns_eq (h : (schedSystem deps).Reachable {} cfg) :
    cfg.world.activeRuns = cfg.threads.countP (executing fun _ => true) := by
  induction h with
  | init => rfl
  | @move cfg cfg' m hr _ hs ih =>
    cases m with
    | invoke c =>
      obtain ⟨hw, -, hcount⟩ := executing_invoke hs
      rw [hw, hcount, ih]
    | pass t => exact t.elim
    | serve i ans =>
      obtain ⟨c, past, o, k, hi⟩ := exists_pending hs
      have hworld : cfg'.world = (serveSched o ans cfg.world).2 := by rw [(sched_serve hi).mp hs]
      rcases executing_serve hr hi hs with ⟨entry, resume, rfl, hcount⟩ | ⟨entry, rfl, hcount⟩ |
        ⟨hb, he, hcount⟩
      · rw [hworld, hcount, ← ih]
        rfl
      · have hone := hcount fun _ => true
        rw [← ih] at hone
        rw [hworld]
        show cfg.world.activeRuns - 1 = _
        rw [if_pos rfl] at hone
        omega
      · rw [hworld, (serveSched_bookkeeping hb he ans cfg.world).1, hcount, ih]

end Executing

end Benchmarker
