import Mathlib.Data.List.Infix
import Benchmarker.Fleet.System
import Benchmarker.Scheduler.System

/-!
# Adopting an entry in flight

A poll adopts whatever entry `getCurrent` returns, unless it is one of its own runs. Unlike
`reclaimStaleEntries` it never looks at the heartbeat, so it also takes over an entry whose daemon is
alive.

* `AdoptsStale`: a poll only takes over an entry that has given no sign of life for the stale window.
* `Adopts`, **`adopts_schedBody`**, **`adoptedFrom`**: what a poll has asked before it adopts.
* **`adopts_stale`**: in runs in which `getCurrent` only ever finds abandoned entries, the property
  holds. **`adopts_live`**: two hosts process one entry that was claimed a second ago.
-/

namespace Benchmarker

open Js Async Async.Prog Async.System EsWorld

/-! ## The property -/

/-- The stale window of a scheduler. -/
def SchedulerDeps.staleAfterMs (deps : SchedulerDeps) : ℕ :=
  deps.config.entryStaleAfterMs.getD defaultEntryStaleAfterMs

/-- The event starts a run of the entry `id`. -/
def beginsRun (id : ℕ) (e : FleetEvent) : Bool :=
  match e.op with
  | .sched (.own (.beginRun entry _)) => entry.id == id
  | _ => false

/-- An entry in flight that a poll adopts and then processes has given no sign of life for the stale
window of its host at the instant of the adoption. -/
def AdoptsStale (deps : ℕ → SchedulerDeps) (cfg : FleetCfg) : Prop :=
  ∀ th ∈ cfg.threads, ∀ host c, th.call = .sched host c → c.polls = true →
    ∀ fs e gs, th.past = fs ++ e :: gs → ∀ id now token d,
      e.op = .es (.update id (.adoptEntry now token)) → gs.any (beginsRun id) = true →
      e.pre.index.doc id = some d → d.status.inFlight = true → ∀ t, d.lastSign = some t →
        ((deps host).staleAfterMs : ℤ) ≤ (e.pre.index.clock : ℤ) - t

/-- The query of `getCurrent`. -/
def currentQuery : Query := { status := some [.deploying, .benchmarking], size := 1 }

/-- The entry that an event of `getCurrent` has found. -/
def currentOf : FleetEvent → Option Hit
  | ⟨.es (.search q), .ok hits, _, _⟩ => if q = currentQuery then hits.head? else none
  | _ => none

/-- The entry that `getCurrent` has found last. -/
def currentHit (past : List FleetEvent) : Option Hit := past.reverse.findSome? currentOf

/-- When a poll asks whether it owns the entry that `getCurrent` has found, it does, or the entry is
stale; and when it adopts the entry, that one still has the last sign of life that `getCurrent` returned,
or is no longer in flight. -/
def adoptsAbandoned (deps : ℕ → SchedulerDeps) (cfg : FleetCfg) : FleetMove → Bool
  | .serve i _ =>
    match cfg.threads[i]? with
    | some ⟨.sched host c, past, .await (.sched (.own (.owns id))) _⟩ =>
      !c.polls || ((OwnOp.owns id).apply (cfg.world.host host)).1 || (currentHit past).all fun hit =>
        isStale (deps host).staleAfterMs cfg.world.index.clock (toEntry hit.id hit.source)
    | some ⟨.sched _ c, past, .await (.es (.update id (.adoptEntry _ _))) _⟩ =>
      !c.polls || (cfg.world.index.doc id).all fun d => !d.status.inFlight ||
        (currentHit past).any fun hit => hit.source.lastSign = d.lastSign
    | _ => true
  | _ => true

/-! ## What a poll has asked -/

section Asked

variable {deps : SchedulerDeps} {c : SchedCall} {past : List SchedEvent} {α : Type}

/-- A poll adopts an entry right after `getCurrent` has returned it and it was found not to be one of
its own runs. -/
def Adopts (c : SchedCall) (past : List SchedEvent) (o : SchedOp) : Prop :=
  c.polls = true → ∀ id, o = .queue (.adoptEntry id) → ∃ past₀ entry u v u' v',
    past = past₀ ++ [⟨.queue .getCurrent, .ok (some entry), u, v⟩,
      ⟨.own (.owns id), false, u', v'⟩] ∧ entry.id = id

/-- The body adopts nothing. -/
abbrev AdoptsNone (x : SchedJs α) : Prop := x.run.Uses fun o => ∀ id, o ≠ .queue (.adoptEntry id)

theorem AdoptsNone.adopts {x : SchedJs α} (h : AdoptsNone x) : x.run.Issues (Adopts c) past :=
  (Uses.issues h past).mono fun _ _ hne _ id heq => absurd heq (hne id)

theorem adoptsNone_own {a : OwnOp} : AdoptsNone (own a) := uses_lift (uses_request.mpr nofun)

theorem adoptsNone_clock : AdoptsNone clock := uses_lift (uses_request.mpr nofun)

theorem adoptsNone_queueCall {c : QueueCall} (h : ∀ id, c ≠ .adoptEntry id) : AdoptsNone (queueCall c) :=
  uses_request.mpr fun id heq => h id (SchedOp.queue.inj heq)

theorem adoptsNone_heartbeatEach (ids : List ℕ) : AdoptsNone (heartbeatEach ids) := by
  induction ids with
  | nil => exact uses_throws_pure _
  | cons id ids ih =>
    refine uses_throws_bind adoptsNone_own fun token => ?_
    cases token with
    | none => exact ih
    | some token => exact uses_throws_bind (uses_attempt (adoptsNone_queueCall nofun)) fun _ => ih

theorem adoptsNone_heartbeatActiveEntries : AdoptsNone heartbeatActiveEntries :=
  uses_throws_bind adoptsNone_own fun ids => adoptsNone_heartbeatEach ids

theorem adoptsNone_reclaimStuckEntries : AdoptsNone (reclaimStuckEntries deps) := by
  refine uses_throws_bind adoptsNone_clock fun now => ?_
  refine uses_throws_bind adoptsNone_own fun owned => ?_
  cases owned with
  | none => exact uses_throws_pure _
  | some owned =>
    exact uses_throws_bind (uses_attempt (adoptsNone_queueCall nofun)) fun _ => uses_throws_pure _

theorem adoptsNone_isDailyCostCapReached : AdoptsNone (isDailyCostCapReached deps) := by
  unfold isDailyCostCapReached
  split
  · exact uses_throws_pure _
  refine uses_throws_bind adoptsNone_clock fun now => ?_
  refine uses_throws_bind (uses_attempt (adoptsNone_queueCall nofun)) fun r => ?_
  cases r with
  | error err => exact uses_throws_pure _
  | ok n => exact uses_throws_bind adoptsNone_own fun _ => uses_throws_pure _

theorem adoptsNone_takeEntry {entry : QueueEntry} {token : Option String} {resume : Bool} :
    AdoptsNone (takeEntry deps entry token resume) := by
  have hkeep : AdoptsNone (keepLease entry.id token) := by
    unfold keepLease
    split
    · exact adoptsNone_own
    · exact uses_throws_pure _
  have hretire : AdoptsNone (retireIfRecencyExcluded deps entry token) := by
    refine uses_ite (uses_throws_pure _) ?_
    split
    · exact uses_throws_pure _
    split
    · exact uses_throws_bind (adoptsNone_queueCall nofun) fun _ => uses_throws_pure _
    · exact uses_throws_bind (adoptsNone_queueCall nofun) fun _ => uses_throws_pure _
  refine uses_throws_bind hkeep fun _ => ?_
  exact uses_throws_bind hretire fun _ => uses_ite adoptsNone_own adoptsNone_own

theorem adoptsNone_dequeueNext : AdoptsNone (dequeueNext deps) := by
  refine uses_throws_bind adoptsNone_isDailyCostCapReached fun capped => ?_
  refine uses_ite (uses_throws_pure _) (uses_throws_bind (adoptsNone_queueCall nofun) fun claimed => ?_)
  cases claimed with
  | none => exact uses_throws_pure _
  | some entry => exact adoptsNone_takeEntry

theorem adopts_adoptInFlight {inFlight : QueueEntry} {u v : SchedulerState} :
    (adoptInFlight deps inFlight).run.Issues (Adopts c)
      (past ++ [⟨.queue .getCurrent, .ok (some inFlight), u, v⟩]) := by
  refine Issues.throws_bind adoptsNone_own.adopts fun es owned h => ?_
  obtain ⟨owned', u', v', he, rfl⟩ := runs_own h
  obtain rfl : owned = owned' := Except.ok.inj he
  cases owned with
  | true => exact issues_throws_pure _
  | false =>
    refine Issues.throws_bind (issues_request fun _ id heq => ?_) fun _ _ _ =>
      adoptsNone_takeEntry.adopts
    obtain rfl := QueueCall.adoptEntry.inj (SchedOp.queue.inj heq)
    exact ⟨past, inFlight, u, v, u', v', List.append_assoc _ _ _, rfl⟩

theorem adopts_pollBody : (pollBody deps).run.Issues (Adopts c) past := by
  refine Issues.throws_bind (AdoptsNone.adopts (adoptsNone_queueCall nofun)) fun es inFlight h => ?_
  obtain ⟨u, v, rfl⟩ := runs_queueCall.mp h
  cases inFlight with
  | some inFlight => exact adopts_adoptInFlight
  | none => exact adoptsNone_dequeueNext.adopts

theorem adopts_poll : (poll deps).run.Issues (Adopts c) past := by
  refine Issues.throws_bind adoptsNone_own.adopts fun es down _ => ?_
  cases down with
  | true => exact issues_throws_pure _
  | false =>
    refine Issues.throws_bind adoptsNone_heartbeatActiveEntries.adopts fun _ _ _ => ?_
    refine Issues.throws_bind adoptsNone_reclaimStuckEntries.adopts fun _ _ _ => ?_
    refine Issues.throws_bind adoptsNone_own.adopts fun _ room _ => ?_
    cases room with
    | false => exact issues_throws_pure _
    | true =>
      exact Issues.throws_bind (issues_attempt adopts_pollBody) fun _ _ _ => issues_throws_pure _

theorem adoptsNone_rehydrate (active : List (String × Time)) : AdoptsNone (rehydrate active) := by
  induction active with
  | nil => exact uses_throws_pure _
  | cons p rest ih =>
    obtain ⟨modelId, expireAt⟩ := p
    exact uses_throws_bind adoptsNone_own fun _ => ih

/-- **Every method keeps to it.** -/
theorem adopts_schedBody (deps : SchedulerDeps) (c : SchedCall) :
    (schedBody deps c).run.Issues (Adopts c) [] := by
  cases c with
  | start =>
    have hload : AdoptsNone (extCall .loadActiveModelCooldowns) := uses_request.mpr nofun
    refine Issues.throws_bind (AdoptsNone.adopts (uses_attempt hload)) fun _ r _ => ?_
    cases r with
    | error err => exact adopts_poll
    | ok active =>
      exact Issues.throws_bind (adoptsNone_rehydrate active).adopts fun _ _ _ => adopts_poll
  | poll => exact adopts_poll
  | _ => exact (rules_schedBody deps _).mono fun _ _ _ hpolls => by cases hpolls

end Asked

/-! ## What the index was asked -/

section Expanded

variable {W : Type} {gs : List FleetEvent} {past : List FleetEvent} {id : ℕ} {now : Time} {token : String}

/-- Only `adoptEntry` sends its script. -/
theorem uses_adoptEntry (c : QueueCall) : (ofQueue (queueService c)).run.Uses fun o =>
    ∀ e, o = .es e → ∀ id now token, e = .update id (.adoptEntry now token) → c = .adoptEntry id := by
  refine uses_queueService c ?_
  rintro past o hsend id now token rfl
  cases hsend with
  | read hreads => cases hreads
  | adoptEntry drawn => rfl

/-- `adoptEntry` searches nothing. -/
theorem uses_noSearch : (ofQueue (adoptEntry id)).run.Uses fun o => ∀ q, o ≠ .es (.search q) := by
  have hnone : (adoptEntry id).run.Uses fun o => ∀ q, o ≠ .search q := by
    refine uses_throws_bind (uses_lift (uses_request.mpr nofun)) fun now => ?_
    refine uses_throws_bind (uses_lift (uses_request.mpr nofun)) fun token => ?_
    refine uses_throws_bind (uses_request.mpr nofun) fun result => uses_throws_pure _
  exact hnone.expand fun o ho => uses_request.mpr fun q heq => ho q (FleetOp.es.inj heq)

theorem runs_ofQueue_getCurrent {entry : QueueEntry}
    (h : (ofQueue getCurrent).run.Runs gs (.ok (some entry))) : ∃ hits hit u v,
      gs = [⟨.es (.search currentQuery), .ok hits, u, v⟩] ∧ hits.head? = some hit ∧
        entry = toEntry hit.id hit.source := by
  rw [getCurrent, ofQueue_bind] at h
  obtain ⟨es₁, es₂, hits, rfl, h₁, h₂⟩ := runs_ok_bind.mp h
  obtain ⟨u, v, rfl⟩ := runs_atIndex.mp h₁
  obtain ⟨rfl, heq⟩ := runs_throws_pure.mp h₂
  obtain ⟨hit, hhit, hentry⟩ := Option.map_eq_some_iff.mp (Except.ok.inj heq)
  exact ⟨hits, hit, u, v, rfl, hhit, hentry.symm⟩

/-- The history has found the entry `id` in flight, and that the scheduler does not own it. -/
def AdoptedFrom (past : List FleetEvent) (id : ℕ) : Prop :=
  ∃ fs hits hit u v u' v' gs, past = (fs ++ [⟨.es (.search currentQuery), .ok hits, u, v⟩]) ++
      ⟨.sched (.own (.owns id)), false, u', v'⟩ :: gs ∧
    hits.head? = some hit ∧ hit.id = id ∧ ∀ e ∈ gs, currentOf e = none

/-- What has found the entry is the last search of `getCurrent`. -/
theorem currentHit_append (fs gs : List FleetEvent) {hits : List Hit} {hit : Hit} {u v : FleetWorld}
    (hhit : hits.head? = some hit) (hgs : ∀ e ∈ gs, currentOf e = none) :
    currentHit ((fs ++ [⟨.es (.search currentQuery), .ok hits, u, v⟩]) ++ gs) = some hit := by
  have hnone : gs.reverse.findSome? currentOf = none :=
    List.findSome?_eq_none_iff.mpr fun e he => hgs e (List.mem_reverse.mp he)
  have hfound : currentOf ⟨.es (.search currentQuery), .ok hits, u, v⟩ = some hit := by
    rw [currentOf, if_pos rfl, hhit]
  rw [currentHit, List.reverse_append, List.findSome?_append, hnone, Option.none_or,
    List.reverse_append, List.reverse_singleton, List.singleton_append, List.findSome?_cons, hfound]

end Expanded

section Runs

variable {deps : ℕ → SchedulerDeps} {ok : FleetCfg → FleetMove → Prop} {w₀ : FleetWorld} {cfg : FleetCfg}

/-- What the daemons issue. -/
def FleetAdopts : FleetCall → List FleetEvent → FleetOp → Prop
  | .sched _ c, past, o => Expanded atDaemon (Adopts c) past o
  | _, _, _ => True

theorem fleetAdopts (c : FleetCall) :
    ((fleetSystem deps).start c).Issues (FleetAdopts c) ([] : List FleetEvent) := by
  cases c with
  | sched host c => exact issues_sched {} (adopts_schedBody (deps host) c)
  | _ => exact (issues_after _ []).mono fun _ _ _ => trivial

/-- **What a poll has found before it adopts.** -/
theorem adoptedFrom (h : (fleetSystem deps).Reach ok w₀ cfg) {host : ℕ} {c : SchedCall}
    (hpolls : c.polls = true) {past : List FleetEvent} {id : ℕ} {now : Time} {token : String}
    {k : FleetAns (.es (.update id (.adoptEntry now token))) → Prog FleetAns (FleetRet (.sched host c))}
    (hth : (⟨.sched host c, past, .await _ k⟩ : FleetThread) ∈ cfg.threads) : AdoptedFrom past id := by
  obtain ⟨es, o, fs, gs, k', hadopts, hexp, rfl, hafter⟩ := h.issues fleetAdopts hth
  obtain ⟨c', rfl⟩ : ∃ c', o = .queue c' := by
    cases o with
    | queue c' => exact ⟨c', rfl⟩
    | _ =>
      obtain ⟨-, heq⟩ := after_request hafter
      cases heq
  obtain rfl := ((uses_adoptEntry c').after hafter).1 _ rfl id now token rfl
  obtain ⟨es₀, entry, u, v, u', v', rfl, rfl⟩ := hadopts hpolls _ rfl
  -- the two requests before, in the history of the daemon
  obtain ⟨fs₁, gs₂, rfl, hexp₁, howns⟩ := expansion_snoc.mp
    ((List.append_assoc es₀ [_] [_]).symm ▸ hexp)
  obtain ⟨fs₀, gs₁, rfl, -, hcurrent⟩ := expansion_snoc.mp hexp₁
  obtain ⟨hits, hit, p, q, rfl, hhit, rfl⟩ := runs_ofQueue_getCurrent hcurrent
  obtain ⟨p', q', rfl⟩ := runs_request.mp howns
  refine ⟨fs₀, hits, hit, p, q, p', q', gs, by simp, hhit, rfl, fun e he => ?_⟩
  have hno := uses_noSearch.events hafter e he
  unfold currentOf
  split
  · exact absurd rfl (hno _)
  · rfl

/-- A scheduler that denies that it owns an entry. -/
theorem served_owns {host id : ℕ} {ch : FleetChoice} {w w' : FleetWorld}
    (h : serveFleet host (.sched (.own (.owns id))) ch w = some (false, w')) :
    ((OwnOp.owns id).apply (w.host host)).1 = false := by
  cases ch with
  | sched ans lost => exact (Prod.mk.inj (Option.some.inj h)).1
  | _ => cases h

/-- **Only abandoned entries are adopted** in every run in which `getCurrent` only ever finds abandoned
entries. -/
theorem adopts_stale (h : (fleetSystem deps).Reach (fun cfg m => adoptsAbandoned deps cfg m = true) w₀ cfg) :
    AdoptsStale deps cfg := by
  intro th hth host c hcall hpolls fs e gs hpast id now token d hop _ hd hfly t ht
  obtain ⟨cfg₀, i, ch, k, hr, hok, hw, hi, -⟩ := h.admitted_at th hth fs e gs hpast
  obtain ⟨call, past, rest⟩ := th
  obtain ⟨o, r, pre, post⟩ := e
  dsimp only at hcall hop hw hd hi k ⊢
  subst hcall hop hw
  have hmem := List.mem_of_getElem? hi
  obtain ⟨fs₁, hits, hit, u, v, u', v', gs₁, rfl, hhit, rfl, hgs⟩ := adoptedFrom hr hpolls hmem
  -- the entry was stale when the poll found that it does not own it
  obtain ⟨cfg₁, j, ch', k', -, hok₁, rfl, hj, hsv⟩ := hr.admitted_at _ hmem _ _ _ rfl
  have hstale : isStale (deps host).staleAfterMs cfg₁.world.index.clock (toEntry hit.id hit.source) = true := by
    have hlast := currentHit_append (u := u) (v := v) fs₁ [] hhit (by simp)
    rw [List.append_nil] at hlast
    have howns : ((OwnOp.owns hit.id).apply (cfg₁.world.host host)).1 = false := served_owns hsv
    dsimp only [adoptsAbandoned] at hok₁
    rw [hj] at hok₁
    dsimp only at hok₁
    rw [hpolls, howns, hlast] at hok₁
    exact hok₁
  have hclock : cfg₁.world.index.clock ≤ cfg₀.world.index.clock := by
    have hle := (fleet_clock hr _ hmem).2 _ (List.mem_append_right _ List.mem_cons_self)
    rwa [serveFleet_clock hsv] at hle
  -- and it has given no sign of life since
  have hsign : hit.source.lastSign = some t := by
    have hlast := currentHit_append (u := u) (v := v) fs₁
      (⟨.sched (.own (.owns hit.id)), false, cfg₁.world, v'⟩ :: gs₁) hhit
      (List.forall_mem_cons.mpr ⟨rfl, hgs⟩)
    dsimp only [adoptsAbandoned] at hok
    rw [hi] at hok
    dsimp only at hok
    rw [hpolls, hd, hlast] at hok
    have hsame : hit.source.lastSign = d.lastSign := by simpa [hfly] using hok
    rw [hsame, ht]
  have hlast : (toEntry hit.id hit.source).heartbeatAt.or (toEntry hit.id hit.source).startedAt = some t :=
    hsign
  unfold isStale at hstale
  rw [hlast] at hstale
  have hold := of_decide_eq_true hstale
  have hle : (cfg₁.world.index.clock : ℤ) ≤ cfg₀.world.index.clock := Int.ofNat_le.mpr hclock
  omega

end Runs

/-! ## Runs of two hosts -/

/-- The history adopts an entry with a sign of life younger than the window, and begins to process it. -/
def takesLive (staleAfterMs : ℕ) : List FleetEvent → Bool
  | [] => false
  | e :: gs =>
    match e.op with
    | .es (.update id (.adoptEntry _ _)) => gs.any (beginsRun id) && (e.pre.index.doc id).any fun d =>
        d.status.inFlight && d.lastSign.any fun (t : Time) => (e.pre.index.clock : ℤ) - t < staleAfterMs
    | _ => false

/-- A poll that adopts an entry with a sign of life younger than the window, and processes it. -/
def adoptsLive (deps : ℕ → SchedulerDeps) (th : FleetThread) : Bool :=
  match th.call with
  | .sched host c => c.polls && th.past.tails.any (takesLive (deps host).staleAfterMs)
  | _ => false

theorem not_adoptsStale {deps : ℕ → SchedulerDeps} {cfg : FleetCfg}
    (h : cfg.threads.any (adoptsLive deps) = true) : ¬AdoptsStale deps cfg := by
  intro hstale
  obtain ⟨th, hth, hlive⟩ := List.any_eq_true.mp h
  unfold adoptsLive at hlive
  split at hlive
  · rename_i host c hcall
    obtain ⟨hpolls, htails⟩ := Bool.and_eq_true_iff.mp hlive
    obtain ⟨es, hes, htake⟩ := List.any_eq_true.mp htails
    obtain ⟨fs, hpast⟩ := (List.mem_tails _ _).mp hes
    cases es with
    | nil => cases htake
    | cons e gs =>
      dsimp only [takesLive] at htake
      split at htake
      · rename_i id now token hop
        obtain ⟨hbegins, hdoc⟩ := Bool.and_eq_true_iff.mp htake
        obtain ⟨d, hd, htest⟩ := (Option.any_eq_true _ _).mp hdoc
        obtain ⟨hfly, hsign⟩ := Bool.and_eq_true_iff.mp htest
        obtain ⟨t, ht, hlt⟩ := (Option.any_eq_true _ _).mp hsign
        have hle := hstale th hth host c hcall hpolls fs e gs hpast.symm id now token d hop hbegins hd hfly t ht
        have hlt := of_decide_eq_true hlt
        omega
      · cases htake
  · cases hlive

/-- The host processes the entry `id`. -/
def processes (host id : ℕ) (th : FleetThread) : Bool :=
  match th.call with
  | .sched h (.processEntry entry _) => h == host && entry.id == id && th.pending.isSome
  | _ => false

/-- The scheduler's own code answers; the other services cannot be reached. -/
abbrev ownAnswer : FleetChoice := .sched networkDown false

/-- Host 0 claims entry 0 and begins to process it. -/
def claimByFirst : List FleetMove :=
  [.invoke (.queue (.enqueue "m" .user none none none)), .serve 0 (.es (.hits [])), .serve 0 (.es .ok),
    .serve 0 (.es .ok), .invoke (.sched 0 .poll)] ++ List.replicate 5 (.serve 1 ownAnswer) ++
    [.serve 1 (.es (.hits [])), .serve 1 (.es (.hits [0])), .serve 1 (.es .ok), .serve 1 (.es (.uuid "a")),
      .serve 1 (.es .ok), .serve 1 (.es .ok), .serve 1 ownAnswer, .serve 1 ownAnswer]

/-- The end of the poll of host 1: it finds entry 0 in flight and adopts it. -/
def adoptBySecond : List FleetMove :=
  [.serve 3 (.es (.hits [0])), .serve 3 ownAnswer, .serve 3 (.es .ok), .serve 3 (.es (.uuid "b")),
    .serve 3 (.es .ok), .serve 3 ownAnswer, .serve 3 ownAnswer]

/-- Host 1 polls a second after the claim. -/
def adoptFresh : List FleetMove :=
  claimByFirst ++ [.pass 1000, .invoke (.sched 1 .poll)] ++ List.replicate 5 (.serve 3 ownAnswer) ++
    adoptBySecond

/-- **A live run is started a second time**: a second after host 0 has claimed the entry, host 1 adopts
it, and both hosts process it. -/
theorem adopts_live : ∃ cfg, (fleetSystem fun _ => oneSuiteDeps).Reachable {} cfg ∧
    ¬AdoptsStale (fun _ => oneSuiteDeps) cfg ∧ cfg.threads.any (processes 0 0) = true ∧
    cfg.threads.any (processes 1 0) = true := by
  have hrun : ((fleetSystem fun _ => oneSuiteDeps).run (fun _ _ => true) adoptFresh ⟨{}, []⟩).any
      (fun cfg => cfg.threads.any (adoptsLive fun _ => oneSuiteDeps) && cfg.threads.any (processes 0 0) &&
        cfg.threads.any (processes 1 0)) = true := by decide +kernel
  obtain ⟨cfg, hcfg, htest⟩ := (Option.any_eq_true _ _).mp hrun
  obtain ⟨htest, hsecond⟩ := Bool.and_eq_true_iff.mp htest
  obtain ⟨hlive, hfirst⟩ := Bool.and_eq_true_iff.mp htest
  exact ⟨cfg, reachable_of_run hcfg, not_adoptsStale hlive, hfirst, hsecond⟩

/-- Host 1 polls when the claim has turned stale; its own reclaim has failed. -/
def adoptStale : List FleetMove :=
  claimByFirst ++ [.pass 120000, .invoke (.sched 1 .poll)] ++ List.replicate 4 (.serve 3 ownAnswer) ++
    [.serve 3 (.es (.rejected ⟨"fetch failed", none⟩)), .serve 3 ownAnswer] ++ adoptBySecond

/-- An abandoned entry is adopted and processed. -/
theorem abandoned_adopted : ∃ cfg, (fleetSystem fun _ => oneSuiteDeps).run
      (adoptsAbandoned fun _ => oneSuiteDeps) adoptStale ⟨{}, []⟩ = some cfg ∧
    cfg.threads.any (processes 1 0) = true ∧ AdoptsStale (fun _ => oneSuiteDeps) cfg := by
  have hrun : ((fleetSystem fun _ => oneSuiteDeps).run (adoptsAbandoned fun _ => oneSuiteDeps)
      adoptStale ⟨{}, []⟩).any (fun cfg => cfg.threads.any (processes 1 0)) = true := by decide +kernel
  obtain ⟨cfg, hcfg, hprocesses⟩ := (Option.any_eq_true _ _).mp hrun
  exact ⟨cfg, hcfg, hprocesses, adopts_stale (reach_of_run hcfg)⟩

end Benchmarker
