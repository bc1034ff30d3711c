import Mathlib.Logic.Function.Basic
import Benchmarker.Async.Uses
import Benchmarker.Queue.Service
import Benchmarker.Scheduler.Ops

/-!
# Daemons that share the indices

The programs of the queue service and of the scheduler at the granularity of single requests, over
one queue index, one index of model cooldowns and the private states of any number of schedulers.
Every daemon reads the same clock.

* `FleetOp`, `FleetJs`: the requests, and bodies that issue them. `ofQueue`, `ofSched`: a body of the
  queue service or of the scheduler, each call of the queue service expanded into its requests.
* `FleetWorld`, `serveFleet`: what the daemons share, and how it answers.
-/

namespace Benchmarker

open Js Async Async.Prog

/-! ## Requests -/

/-- The requests of a daemon: to the queue index, to the index of the cooldowns, and those of a
scheduler to everything else. -/
inductive FleetOp
  | es (o : EsOp)
  | searchModelCooldowns
  | sched (o : SchedOp)
  deriving DecidableEq

/-- The answers to the requests. -/
@[reducible] def FleetAns : FleetOp → Type
  | .es o => EsAns o
  | .searchModelCooldowns => Except JsError (List (String × Time))
  | .sched o => SchedAns o

/-- A body that issues requests of a daemon. -/
abbrev FleetJs (α : Type) : Type := ExceptT JsError (Prog FleetAns) α

/-- A request of the queue service. -/
def atIndex (o : EsOp) : Prog FleetAns (EsAns o) := request (FleetOp.es o)

/-- A body of the queue service. -/
def ofQueue {α : Type} (x : EsJs α) : FleetJs α := expandThrows atIndex x

/-- A request of the scheduler: a call of the queue service is run in its place. -/
def atDaemon : (o : SchedOp) → Prog FleetAns (SchedAns o)
  | .queue c => (ofQueue (queueService c)).run
  | .ext x => request (FleetOp.sched (.ext x))
  | .own a => request (FleetOp.sched (.own a))
  | .now => request (FleetOp.sched .now)
  | .randomUUID => request (FleetOp.sched .randomUUID)
  | .stage1Failed message => request (FleetOp.sched (.stage1Failed message))

/-- A body of the scheduler. -/
def ofSched {α : Type} (x : SchedJs α) : FleetJs α := expandThrows atDaemon x

theorem ofQueue_bind {α β : Type} (x : EsJs α) (f : α → EsJs β) :
    ofQueue (x >>= f) = ofQueue x >>= fun a => ofQueue (f a) := expandThrows_bind x f

theorem ofSched_bind {α β : Type} (x : SchedJs α) (f : α → SchedJs β) :
    ofSched (x >>= f) = ofSched x >>= fun a => ofSched (f a) := expandThrows_bind x f

theorem runs_atIndex {W : Type} {o : EsOp} {es : List (Event FleetAns W)} {r : EsAns o} :
    (atIndex o).Runs es r ↔ ∃ pre post, es = [⟨.es o, r, pre, post⟩] := runs_request

theorem runs_ofQueue_dateNow {W : Type} {es : List (Event FleetAns W)} {now : Time}
    (h : (ofQueue dateNow).run.Runs es (.ok now)) :
    ∃ pre post, es = [⟨.es .now, now, pre, post⟩] := by
  have hlift : ofQueue dateNow = ExceptT.lift (atIndex .now) := rfl
  obtain ⟨r, hr, heq⟩ := runs_lift.mp (hlift ▸ h)
  obtain rfl := Except.ok.inj heq
  exact runs_atIndex.mp hr

/-- A body of the queue service keeps to the queue index. -/
theorem uses_ofQueue {α : Type} (x : EsJs α) : (ofQueue x).run.Uses fun o => ∃ e, o = .es e :=
  uses_expand (h := atIndex) (fun o => uses_request.mpr ⟨o, rfl⟩) x.run

/-! ## The shared state -/

/-- The indices and the private states of the schedulers, by host. -/
structure FleetWorld where
  index : EsWorld := {}
  /-- When the stored cooldown of a model expires. -/
  cooldowns : JsMap String Time := []
  host : ℕ → SchedulerState := fun _ => {}

namespace FleetWorld

/-- The stored cooldowns that have not expired. -/
def activeCooldowns (w : FleetWorld) : List (String × Time) :=
  w.cooldowns.filter fun kv => w.index.clock < kv.2

/-- Let time pass. -/
def pass (t : ℕ) (w : FleetWorld) : FleetWorld := { w with index := w.index.pass t }

end FleetWorld

/-- What a call of another service does to the stored cooldowns. -/
def ExtOp.keepCooldowns : ExtOp → JsMap String Time → JsMap String Time
  | .persistModelCooldown modelId expireAt _ _, m => m.set modelId expireAt
  | .clearModelCooldown modelId, m => m.delete modelId
  | _, m => m

/-- The answer that the world chooses: to a request to the queue index, to a search for cooldowns,
or to a request of a scheduler, where `lost` tells whether a failing call was carried out. -/
inductive FleetChoice
  | es (ch : EsChoice)
  | cooldowns (found : List (String × Time))
  | failed (e : JsError)
  | sched (ans : ∀ o, SchedAns o) (lost : Bool)

/-- The page size of `loadActiveModelCooldowns`. -/
def cooldownPageSize : ℕ := 500

/-- Serve a request of the daemon on `host`. -/
def serveFleet (host : ℕ) :
    (o : FleetOp) → FleetChoice → FleetWorld → Option (FleetAns o × FleetWorld)
  | .es o, .es ch, w => (serve o ch w.index).map fun a => (a.1, { w with index := a.2 })
  | .searchModelCooldowns, .cooldowns found, w =>
    if found.Perm w.activeCooldowns then some (.ok (found.take cooldownPageSize), w) else none
  | .searchModelCooldowns, .failed e, w => some (.error e, w)
  | .sched (.own a), .sched _ _, w =>
    some ((a.apply (w.host host)).1,
      { w with host := Function.update w.host host (a.apply (w.host host)).2 })
  | .sched (.ext x), .sched ans lost, w =>
    some (ans (.ext x),
      if (ans (.ext x)).toBool || lost then { w with cooldowns := x.keepCooldowns w.cooldowns }
      else w)
  | .sched .now, .sched _ _, w => some (w.index.clock, w)
  | .sched .randomUUID, .sched ans _, w => some (ans .randomUUID, w)
  | .sched (.stage1Failed _), .sched _ _, w => some ((), w)
  | _, _, _ => none

/-- Something that the world may answer to the daemon on `host`. -/
def Served (host : ℕ) (o : FleetOp) (w : FleetWorld) (r : FleetAns o) (w' : FleetWorld) : Prop :=
  ∃ ch, serveFleet host o ch w = some (r, w')

/-- A request to the queue index changes the queue index only. -/
theorem served_es {host : ℕ} {o : EsOp} {w w' : FleetWorld} {r : EsAns o} :
    Served host (.es o) w r w' ↔
      ∃ ch, serve o ch w.index = some (r, w'.index) ∧ w' = { w with index := w'.index } := by
  constructor
  · rintro ⟨ch, h⟩
    cases ch <;> simp only [serveFleet, reduceCtorEq] at h
    obtain ⟨⟨a, u⟩, hs, heq⟩ := Option.map_eq_some_iff.mp h
    obtain ⟨rfl, rfl⟩ := Prod.mk.inj heq
    exact ⟨_, hs, rfl⟩
  · rintro ⟨ch, hs, hw⟩
    refine ⟨.es ch, ?_⟩
    rw [serveFleet, hs, hw]
    rfl

/-- A request to the queue index that only reads changes nothing. -/
theorem Served.eq_of_reads {host : ℕ} {o : EsOp} {w w' : FleetWorld} {r : EsAns o}
    (h : Served host (.es o) w r w') (ho : o.reads = true) : w' = w := by
  obtain ⟨ch, hs, hw⟩ := served_es.mp h
  rw [hw, (serve_effect hs).eq_of_reads ho]

/-- A search for cooldowns answers with cooldowns that have not expired, or fails. -/
theorem served_searchModelCooldowns {host : ℕ} {w w' : FleetWorld}
    {r : Except JsError (List (String × Time))} (h : Served host .searchModelCooldowns w r w') :
    w' = w ∧ ∀ found, r = .ok found →
      ∃ l : List (String × Time), l.Perm w.activeCooldowns ∧ found = l.take cooldownPageSize := by
  obtain ⟨ch, h⟩ := h
  cases ch with
  | cooldowns l =>
    simp only [serveFleet, Option.ite_none_right_eq_some, Option.some.injEq, Prod.mk.injEq] at h
    obtain ⟨hperm, rfl, rfl⟩ := h
    exact ⟨rfl, fun found hf => ⟨l, hperm, (Except.ok.inj hf).symm⟩⟩
  | failed e =>
    obtain ⟨rfl, rfl⟩ := Prod.mk.inj (Option.some.inj h)
    exact ⟨rfl, fun _ hf => by cases hf⟩
  | es ch => cases h
  | sched ans lost => cases h

end Benchmarker
