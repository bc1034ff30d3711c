import Benchmarker.Async.Threads
import Benchmarker.Maintenance.Sweep
import Benchmarker.Queue.Reclaim
import Benchmarker.Scheduler.Poll

/-!
# Daemons side by side

The schedulers of any number of hosts, the request handlers that call the queue service, and the
maintenance ticks, as threads over the shared indices. The timers of a host and its handlers may
start a call at any time; `processEntry` and the detached polls start when a scheduler starts them.

* `FleetCall`, `fleetBody`, `fleetSystem`: the calls, their programs, and the system.
* `serveFleet_index`, **`fleet_later`**, `fleet_clock`: what a run does to the index and its clock.
* **`issues_sched`**, `issues_queue`: what a scheduler and the queue service issue, request by request.
-/

namespace Benchmarker

open Async Async.Prog Async.System EsWorld

/-! ## The system -/

/-- The part of `MaintenanceScheduler.runOnce` that writes to the queue. -/
def runOnce (config : MaintenanceConfig) : FleetJs ℕ := do
  let nowMs ← ofQueue dateNow
  sweepDlq config nowMs

/-- A call of a method by a daemon. -/
inductive FleetCall
  | sched (host : ℕ) (c : SchedCall)
  | queue (c : QueueCall)
  | runOnce (config : MaintenanceConfig)

/-- The value that a call returns. -/
@[reducible] def FleetVal : FleetCall → Type
  | .sched _ _ => Unit
  | .queue c => QueueVal c
  | .runOnce _ => ℕ

/-- What a finished call reports. -/
abbrev FleetRet (c : FleetCall) : Type := Except JsError (FleetVal c)

/-- The program of a call. -/
def fleetBody (deps : ℕ → SchedulerDeps) : (c : FleetCall) → FleetJs (FleetVal c)
  | .sched host c => ofSched (schedBody (deps host) c)
  | .queue c => ofQueue (queueService c)
  | .runOnce config => runOnce config

namespace FleetCall

/-- The scheduler that makes the call; the other calls have no private state. -/
def host : FleetCall → ℕ
  | sched host _ => host
  | queue _ | runOnce _ => 0

/-- The calls that a timer or a handler makes. -/
def client : FleetCall → Bool
  | sched _ .start | sched _ .poll | sched _ .stop | queue _ | runOnce _ => true
  | sched _ _ => false

/-- The background tasks that a request starts run on the same host. -/
def forks : FleetCall → FleetOp → List FleetCall
  | sched host _, .sched o => o.forks.map (sched host)
  | _, _ => []

end FleetCall

/-- **The daemons**, at the granularity of single requests. -/
def fleetSystem (deps : ℕ → SchedulerDeps) : System FleetAns FleetRet FleetWorld FleetChoice ℕ where
  start c := (fleetBody deps c).run
  client := FleetCall.client
  forks := FleetCall.forks
  serve c o ch w := serveFleet c.host o ch w
  pass := FleetWorld.pass

abbrev FleetCfg : Type := Cfg FleetAns FleetRet FleetWorld

abbrev FleetThread : Type := Thread FleetAns FleetRet FleetWorld

abbrev FleetMove : Type := Move FleetCall FleetChoice ℕ

/-! ## The index -/

section Index

variable {host : ℕ} {o : FleetOp} {ch : FleetChoice} {w w' : FleetWorld} {r : FleetAns o}

/-- Only a request to the queue index changes it. -/
theorem serveFleet_index (h : serveFleet host o ch w = some (r, w')) :
    w'.index = w.index ∨ ∃ e, o = .es e ∧ Effect w.index e w'.index := by
  cases o with
  | es e =>
    obtain ⟨ch', hs, -⟩ := served_es.mp ⟨ch, h⟩
    exact .inr ⟨e, rfl, serve_effect hs⟩
  | searchModelCooldowns =>
    exact .inl (congrArg FleetWorld.index (served_searchModelCooldowns ⟨ch, h⟩).1)
  | sched o =>
    cases ch with
    | sched ans lost =>
      cases o with
      | queue c => cases h
      | ext x =>
        obtain ⟨-, rfl⟩ := Prod.mk.inj (Option.some.inj h)
        exact .inl (by split <;> rfl)
      | _ =>
        obtain ⟨-, rfl⟩ := Prod.mk.inj (Option.some.inj h)
        exact .inl rfl
    | _ => cases o <;> cases h

theorem serveFleet_later (h : serveFleet host o ch w = some (r, w')) : Later w.index w'.index := by
  rcases serveFleet_index h with heq | ⟨e, -, heff⟩
  · rw [heq]
    exact .refl _
  · exact heff.later

theorem serveFleet_clock (h : serveFleet host o ch w = some (r, w')) : w'.index.clock = w.index.clock := by
  rcases serveFleet_index h with heq | ⟨e, -, heff⟩
  · rw [heq]
  · exact heff.clock

end Index

section Runs

variable {deps : ℕ → SchedulerDeps} {ok : FleetCfg → FleetMove → Prop} {w₀ : FleetWorld} {cfg : FleetCfg}

/-- **The index only moves on**, from every request of a thread to its next requests and to now. -/
theorem fleet_later (h : (fleetSystem deps).Reach ok w₀ cfg) : ∀ th ∈ cfg.threads,
    th.past.Pairwise (fun e e' => Later e.post.index e'.pre.index) ∧
      ∀ e ∈ th.past, Later e.post.index cfg.world.index :=
  h.chain (M := fun w w' => Later w.index w'.index) (fun _ => .refl _) Later.trans serveFleet_later
    fun _ _ => ⟨le_rfl, fun _ s hs => ⟨s, hs, .inl rfl⟩⟩

/-- The clock does not run back. -/
theorem fleet_clock (h : (fleetSystem deps).Reach ok w₀ cfg) : ∀ th ∈ cfg.threads,
    th.past.Pairwise (fun e e' => e.post.index.clock ≤ e'.pre.index.clock) ∧
      ∀ e ∈ th.past, e.post.index.clock ≤ cfg.world.index.clock :=
  h.chain (M := fun w w' => w.index.clock ≤ w'.index.clock) (fun _ => le_rfl) Nat.le_trans
    (fun hsv => (serveFleet_clock hsv).ge) fun _ _ => Nat.le_add_right _ _

end Runs

/-! ## Single requests -/

section Requests

variable {W W' α : Type}

/-- What a history of one request waits for. -/
theorem after_request {Op : Type} {Ans : Op → Type} {o o' : Op} {gs : List (Event Ans W)}
    {k : Ans o' → Prog Ans (Ans o)} (h : (request o).After gs (.await o' k)) : gs = [] ∧ o' = o := by
  cases h with
  | refl => exact ⟨rfl, rfl⟩
  | step r pre post h => cases h

/-- A body of the scheduler issues its requests, and those of the queue service in the place of calls of
it. -/
theorem issues_sched (w : W) {P : List (Event SchedAns W) → SchedOp → Prop} {x : SchedJs α}
    (h : x.run.Issues P []) : (ofSched x).run.Issues (W := W') (Expanded atDaemon P) [] :=
  issues_expand w h .nil

/-- A body of the queue service issues its requests. -/
theorem issues_queue (w : W) {P : List (Event EsAns W) → EsOp → Prop} {x : EsJs α}
    (h : x.run.Issues P []) : (ofQueue x).run.Issues (W := W') (Expanded atIndex P) [] :=
  issues_expand w h .nil

/-- An event of the queue index. -/
def indexEvent : FleetEvent → Option EsEvent
  | ⟨.es o, r, u, v⟩ => some ⟨o, r, u.index, v.index⟩
  | _ => none

/-- **A history of a body of the queue service is one at the index.** -/
theorem runs_ofQueue {x : EsJs α} {es : List FleetEvent} {r : Except JsError α}
    (h : (ofQueue x).run.Runs es r) : x.run.Runs (es.filterMap indexEvent) r := by
  have hexpand : (x.run.expand atIndex).Runs es r := h
  clear h
  generalize x.run = p at hexpand ⊢
  induction p generalizing es with
  | ret a =>
    obtain ⟨rfl, rfl⟩ := runs_ret.mp hexpand
    exact .refl _
  | await o k ih =>
    obtain ⟨es₁, es₂, b, rfl, h₁, h₂⟩ := runs_bind.mp hexpand
    obtain ⟨u, v, rfl⟩ := runs_atIndex.mp h₁
    exact .step b u.index v.index (ih b h₂)

/-- A request of the queue service is one that the call sends. -/
theorem uses_queueService {q : EsOp → Prop} (c : QueueCall) (h : ∀ past o, Sends c past o → q o) :
    (ofQueue (queueService c)).run.Uses fun o => ∀ e, o = .es e → q e := by
  have hsends : (queueService c).run.Uses q :=
    Issues.uses ({} : EsWorld) ((queueService_sends c []).mono h)
  refine hsends.expand fun e he => uses_request.mpr fun e' heq => ?_
  exact FleetOp.es.inj heq ▸ he

end Requests

end Benchmarker
