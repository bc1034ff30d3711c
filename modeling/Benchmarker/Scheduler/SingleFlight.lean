import Benchmarker.Scheduler.System
import Benchmarker.Scheduler.Teardown

/-!
# Single flight

`poll` checks the capacity, asks the queue for an entry and only then counts its call of
`processEntry`. Polls overlap when one of them still waits for the queue at the next tick of the
timer, so two of them may pass the check on the same free slot, and may even take the same entry.

* `entered`: a poll between its capacity check and its return.
* **`overlapping_polls`**: two overlapping polls process one entry twice, above the capacity.
* `spaced`, `SingleFlight`, **`single_flight`**: with one poll at a time past the check, and no
  entry handed out that is still being processed, the capacity holds and no entry is processed
  twice at a time.
-/

namespace Benchmarker

open Async Async.Prog

/-- The thread is a call of `processEntry` for the entry `id` that has not settled. -/
abbrev executingEntry (id : ℕ) : SchedThread → Bool := executing fun entry => entry.id == id

/-- The thread is between its capacity check and its return. -/
def entered (th : SchedThread) : Bool := th.past.any enters && th.pending.isSome

/-! ## Overlapping polls -/

/-- Answers in which an entry is in flight and can be adopted. -/
def entryInFlight : (o : SchedOp) → SchedAns o
  | .queue .getCurrent => .ok (some oneEntry)
  | .queue (.adoptEntry _) => .ok (some "t")
  | o => networkDown o

/-- The poll of `start` finds the network down. The polls of the next two ticks overlap: both look
up the entry in flight before either has adopted it. -/
def overlappingPolls : List (Move SchedCall (∀ o, SchedAns o) Empty) :=
  [.invoke .start] ++ List.replicate 7 (.serve 0 networkDown) ++ [.invoke .poll, .invoke .poll] ++
    List.replicate 7 (.serve 1 entryInFlight) ++ List.replicate 7 (.serve 2 entryInFlight) ++
    List.replicate 3 (.serve 1 entryInFlight) ++ List.replicate 3 (.serve 2 entryInFlight)

/-- **Overlapping polls process one entry twice**, on a scheduler that allows one run at a time. -/
theorem overlapping_polls : ∃ cfg, (schedSystem oneSuiteDeps).Reachable {} cfg ∧
    oneSuiteDeps.maxConcurrentRuns = 1 ∧ cfg.threads.countP (executing fun _ => true) = 2 ∧
    cfg.threads.countP (executingEntry oneEntry.id) = 2 := by
  have hrun : (((schedSystem oneSuiteDeps).run (fun _ _ => true) overlappingPolls ⟨{}, []⟩).map fun cfg =>
      (cfg.threads.countP (executing fun _ => true), cfg.threads.countP (executingEntry oneEntry.id))) =
        some (2, 2) := by decide +kernel
  obtain ⟨cfg, hcfg, hcount⟩ := Option.map_eq_some_iff.mp hrun
  obtain ⟨hall, hone⟩ := Prod.mk.inj hcount
  exact ⟨cfg, System.reachable_of_run hcfg, rfl, hall, hone⟩

/-! ## Polls that keep apart -/

/-- The answers that keep polls apart: a poll passes the capacity check only while no other poll is
past its own, and `dequeue` hands out no entry that is still being processed. -/
def spacedAnswer (cfg : SchedCfg) (ans : ∀ o, SchedAns o) : SchedOp → Bool
  | .own (.hasRoom m) => !((OwnOp.hasRoom m).apply cfg.world).1 || !cfg.threads.any entered
  | .queue .dequeue =>
    match ans (.queue .dequeue) with
    | .ok (some entry) => entry.id ∉ cfg.world.entryInProcess
    | _ => true
  | _ => true

def spaced (cfg : SchedCfg) : Move SchedCall (∀ o, SchedAns o) Empty → Bool
  | .serve i ans => ((cfg.threads[i]?).bind Thread.pending).all (spacedAnswer cfg ans)
  | _ => true

/-- What holds while the polls keep apart. -/
structure SingleFlight (deps : SchedulerDeps) (cfg : SchedCfg) : Prop where
  inProcess : ∀ id, cfg.threads.countP (executingEntry id) =
    if id ∈ cfg.world.entryInProcess then 1 else 0
  capacity : cfg.world.activeRuns ≤ deps.maxConcurrentRuns
  one : cfg.threads.countP entered ≤ 1
  room : cfg.threads.countP entered = 1 → cfg.world.activeRuns < deps.maxConcurrentRuns
  cleared : ∀ th ∈ cfg.threads, entered th = true → ∀ id, th.past.any (clears id) = true →
    id ∉ cfg.world.entryInProcess

section Spaced

variable {deps : SchedulerDeps} {cfg cfg' : SchedCfg} {c : SchedCall} {past : List SchedEvent}
variable {o : SchedOp} {k : SchedAns o → Prog SchedAns (Except JsError Unit)} {i : ℕ}
variable {ans : ∀ o, SchedAns o} {w₀ : SchedulerState}

theorem entered_fresh (c : SchedCall) : entered ((schedSystem deps).fresh c) = false := rfl

/-- The event of an answer. -/
abbrev answer (o : SchedOp) (ans : ∀ o, SchedAns o) (w : SchedulerState) : SchedEvent :=
  ⟨o, (serveSched o ans w).1, w, (serveSched o ans w).2⟩

theorem enters_answer {w : SchedulerState} : enters (answer o ans w) = true ↔
    ∃ m, o = .own (.hasRoom m) ∧ ((OwnOp.hasRoom m).apply w).1 = true := by
  constructor
  · intro h
    obtain ⟨a, rfl⟩ : ∃ a, o = .own a := by
      cases o with
      | own a => exact ⟨a, rfl⟩
      | _ => cases h
    cases a with
    | hasRoom m =>
      refine ⟨m, rfl, ?_⟩
      show decide _ = true
      by_contra hno
      have hanswer : answer (.own (.hasRoom m)) ans w = ⟨.own (.hasRoom m), false, w, w⟩ := by
        rw [answer]
        exact congrArg (fun b => (⟨.own (.hasRoom m), b, w, w⟩ : SchedEvent)) (Bool.eq_false_iff.mpr hno)
      rw [hanswer] at h
      cases h
    | _ => cases h
  · rintro ⟨m, rfl, hyes⟩
    have hanswer : answer (.own (.hasRoom m)) ans w = ⟨.own (.hasRoom m), true, w, w⟩ :=
      congrArg (fun b => (⟨.own (.hasRoom m), b, w, w⟩ : SchedEvent)) hyes
    rw [hanswer]
    rfl

/-- An entry that an answer clears is not being processed. -/
theorem clears_answer {cfg : SchedCfg} {id : ℕ} (hspaced : spacedAnswer cfg ans o = true)
    (h : clears id (answer o ans cfg.world) = true) : id ∉ cfg.world.entryInProcess := by
  cases o with
  | own a =>
    cases a with
    | owns j =>
      by_cases hown : j ∈ cfg.world.entryInProcess ∨ j ∈ cfg.world.deferredCleanups
      · have hanswer : answer (.own (.owns j)) ans cfg.world = ⟨.own (.owns j), true, cfg.world, cfg.world⟩ :=
          congrArg (fun b => (⟨.own (.owns j), b, cfg.world, cfg.world⟩ : SchedEvent)) (decide_eq_true hown)
        rw [hanswer] at h
        cases h
      · have hanswer : answer (.own (.owns j)) ans cfg.world = ⟨.own (.owns j), false, cfg.world, cfg.world⟩ :=
          congrArg (fun b => (⟨.own (.owns j), b, cfg.world, cfg.world⟩ : SchedEvent)) (decide_eq_false hown)
        rw [hanswer] at h
        rw [← beq_iff_eq.mp h]
        exact fun hmem => hown (.inl hmem)
    | _ => cases h
  | queue q =>
    cases q with
    | dequeue =>
      have hanswer : answer (.queue .dequeue) ans cfg.world =
          ⟨.queue .dequeue, ans (.queue .dequeue), cfg.world, cfg.world⟩ := rfl
      rw [hanswer] at h
      unfold spacedAnswer at hspaced
      generalize ans (.queue .dequeue) = r at h hspaced
      obtain err | claimed := r
      · cases h
      cases claimed with
      | none => cases h
      | some entry =>
        rw [← beq_iff_eq.mp h]
        simpa using hspaced
    | _ => cases h
  | _ => cases h

theorem spaced_serve {cfg : SchedCfg} (hi : cfg.threads[i]? = some ⟨c, past, .await o k⟩) :
    spaced cfg (.serve i ans) = spacedAnswer cfg ans o := by
  show ((cfg.threads[i]?).bind Thread.pending).all _ = _
  rw [hi]
  rfl

/-- When the capacity check lets a poll go on, no other poll is past its own. -/
theorem spacedAnswer_hasRoom {cfg : SchedCfg} {m : ℕ} (hyes : ((OwnOp.hasRoom m).apply cfg.world).1 = true)
    (h : spacedAnswer cfg ans (.own (.hasRoom m)) = true) : cfg.threads.countP entered = 0 := by
  have hany : (!((OwnOp.hasRoom m).apply cfg.world).1 || !cfg.threads.any entered) = true := h
  rw [hyes] at hany
  simp only [Bool.not_true, Bool.false_or, Bool.not_eq_true', List.any_eq_false] at hany
  exact List.countP_eq_zero.mpr hany

theorem entered_pending : entered ⟨c, past, .await o k⟩ = past.any enters := Bool.and_true _

/-- A poll that goes on past its check after an answer was past it before, or has just passed it. -/
theorem entered_answered {w : SchedulerState} (h : entered (answered c past o k ans w) = true) :
    past.any enters = true ∨ enters (answer o ans w) = true := by
  have hany := (Bool.and_eq_true_iff.mp h).1
  rw [answered, List.any_append, Bool.or_eq_true] at hany
  rcases hany with hany | hany
  · exact .inl hany
  · exact .inr (by simpa using hany)

/-- The polls past their check, across one answer. -/
theorem countP_entered (hi : cfg.threads[i]? = some ⟨c, past, .await o k⟩)
    (hs : (schedSystem deps).move cfg (.serve i ans) = some cfg') :
    cfg'.threads.countP entered + (if past.any enters = true then 1 else 0) =
      cfg.threads.countP entered +
        if entered (answered c past o k ans cfg.world) = true then 1 else 0 := by
  have hset := countP_set_add entered (b := answered c past o k ans cfg.world) hi
  have hforks : (o.forks.map (schedSystem deps).fresh).countP entered = 0 := by
    refine List.countP_eq_zero.mpr fun th hth => ?_
    obtain ⟨c', -, rfl⟩ := List.mem_map.mp hth
    rw [entered_fresh]
    decide
  rw [entered_pending] at hset
  rw [(sched_serve hi).mp hs]
  show List.countP entered (cfg.threads.set _ _ ++ _) + _ = _
  rw [List.countP_append, hforks]
  exact hset

/-- The methods after an answer: the one it went to, one that has just been started, or an old one. -/
theorem mem_threads_serve (hi : cfg.threads[i]? = some ⟨c, past, .await o k⟩)
    (hs : (schedSystem deps).move cfg (.serve i ans) = some cfg') {th : SchedThread}
    (hth : th ∈ cfg'.threads) : th = answered c past o k ans cfg.world ∨
      (∃ c', th = (schedSystem deps).fresh c') ∨ th ∈ cfg.threads := by
  rw [(sched_serve hi).mp hs] at hth
  rcases List.mem_append.mp hth with hth | hth
  · rcases List.mem_or_eq_of_mem_set hth with hth | rfl
    · exact .inr (.inr hth)
    · exact .inl rfl
  · obtain ⟨c', -, rfl⟩ := List.mem_map.mp hth
    exact .inr (.inl ⟨c', rfl⟩)

/-- A method that has begun or ended a call is not past its check any more. -/
theorem entered_answered_eq_false (h : (schedSystem deps).Reachable w₀ cfg)
    (hi : cfg.threads[i]? = some ⟨c, past, .await o k⟩)
    (hs : (schedSystem deps).move cfg (.serve i ans) = some cfg')
    (ho : o.kind = .beginRun ∨ o.kind = .endRun) :
    entered (answered c past o k ans cfg.world) = false := by
  have hnone := pending_eq_none (h.move _ trivial hs) (answered_mem hi hs) fun hpast => by
    have hlast := hpast (answer o ans cfg.world) (List.mem_append_right _ (List.mem_singleton_self _))
    exact ho.elim hlast.1 hlast.2
  unfold entered
  rw [hnone]
  exact Bool.and_false _

/-- A poll begins a call: it was the only one past its check, and returns. -/
theorem singleFlight_begin (h : (schedSystem deps).Reachable w₀ cfg) (hI : SingleFlight deps cfg)
    {entry : QueueEntry} {resume : Bool} (ho : o = .own (.beginRun entry resume))
    (hi : cfg.threads[i]? = some ⟨c, past, .await o k⟩)
    (hs : (schedSystem deps).move cfg (.serve i ans) = some cfg')
    (hcount : ∀ p, cfg'.threads.countP (executing p) =
      cfg.threads.countP (executing p) + if p entry then 1 else 0) : SingleFlight deps cfg' := by
  have hrules := (sched_rules h (List.mem_of_getElem? hi)).begins entry resume ho
  have hold : entered ⟨c, past, .await o k⟩ = true := entered_pending.trans hrules.2.1
  have hfresh : entry.id ∉ cfg.world.entryInProcess :=
    hI.cleared _ (List.mem_of_getElem? hi) hold entry.id hrules.2.2
  have hpos : 0 < cfg.threads.countP entered :=
    List.countP_pos_iff.mpr ⟨_, List.mem_of_getElem? hi, hold⟩
  have hone := hI.one
  have hroom := hI.room (by omega)
  have hnone : cfg'.threads.countP entered = 0 := by
    have hent := countP_entered hi hs
    rw [entered_answered_eq_false h hi hs (.inl (by rw [ho]; simp)), if_pos hrules.2.1] at hent
    simp only [Bool.false_eq_true, if_false] at hent
    omega
  have hworld : cfg'.world = (serveSched o ans cfg.world).2 := by rw [(sched_serve hi).mp hs]
  subst ho
  have hactive : cfg'.world.activeRuns = cfg.world.activeRuns + 1 := by rw [hworld]; rfl
  have hprocess : cfg'.world.entryInProcess = setAdd cfg.world.entryInProcess entry.id := by
    rw [hworld]
    rfl
  refine ⟨fun id => ?_, by omega, by omega, by omega, fun th hth hent => ?_⟩
  · rw [hcount, hI.inProcess, hprocess]
    by_cases hid : entry.id = id
    · subst hid
      simp [hfresh]
    · have hid' : id ≠ entry.id := Ne.symm hid
      simp [hid, hid']
  · have hth' : 0 < cfg'.threads.countP entered := List.countP_pos_iff.mpr ⟨th, hth, hent⟩
    omega

/-- A `finally` handler settles its call. -/
theorem singleFlight_end (h : (schedSystem deps).Reachable w₀ cfg) (hI : SingleFlight deps cfg)
    {entry : QueueEntry} (ho : o = .own (.endRun entry.id))
    (hi : cfg.threads[i]? = some ⟨c, past, .await o k⟩)
    (hs : (schedSystem deps).move cfg (.serve i ans) = some cfg')
    (hcount : ∀ p, cfg'.threads.countP (executing p) + (if p entry then 1 else 0) =
      cfg.threads.countP (executing p)) : SingleFlight deps cfg' := by
  have hfalse := entered_answered_eq_false h hi hs (.inr (by rw [ho]; simp))
  have hle : cfg'.threads.countP entered ≤ cfg.threads.countP entered := by
    have hent := countP_entered hi hs
    rw [hfalse] at hent
    simp only [Bool.false_eq_true, if_false] at hent
    omega
  have hworld : cfg'.world = (serveSched o ans cfg.world).2 := by rw [(sched_serve hi).mp hs]
  subst ho
  have hactive : cfg'.world.activeRuns = cfg.world.activeRuns - 1 := by rw [hworld]; rfl
  have hprocess : cfg'.world.entryInProcess = cfg.world.entryInProcess.filter (· ≠ entry.id) := by
    rw [hworld]
    rfl
  have hone := hI.one
  have hcap := hI.capacity
  refine ⟨fun id => ?_, by omega, by omega, fun h1 => ?_, fun th hth hent id hclear => ?_⟩
  · have hid := hcount fun e => e.id == id
    have hmem : id ∈ cfg'.world.entryInProcess ↔ id ∈ cfg.world.entryInProcess ∧ id ≠ entry.id := by
      rw [hprocess]
      simp
    rw [hI.inProcess] at hid
    simp only [hmem]
    by_cases he : entry.id = id
    · subst he
      rw [if_pos (beq_self_eq_true _)] at hid
      rw [if_neg (by simp)]
      show cfg'.threads.countP (executing fun e => e.id == entry.id) = 0
      split_ifs at hid
      omega
    · have he' : id ≠ entry.id := Ne.symm he
      simp only [beq_eq_false_iff_ne.mpr he, Bool.false_eq_true, if_false] at hid
      simpa [he'] using hid
  · have := hI.room (by omega)
    omega
  · rw [hprocess, List.mem_filter]
    rcases mem_threads_serve hi hs hth with rfl | ⟨c', rfl⟩ | hth
    · rw [hfalse] at hent
      cases hent
    · cases hent
    · exact fun hmem => hI.cleared th hth hent id hclear hmem.1

/-- An answer that neither begins nor settles a call. -/
theorem singleFlight_other (h : (schedSystem deps).Reachable w₀ cfg) (hI : SingleFlight deps cfg)
    (hb : o.kind ≠ .beginRun) (he : o.kind ≠ .endRun)
    (hi : cfg.threads[i]? = some ⟨c, past, .await o k⟩)
    (hspaced : spaced cfg (.serve i ans) = true)
    (hs : (schedSystem deps).move cfg (.serve i ans) = some cfg')
    (hcount : ∀ p, cfg'.threads.countP (executing p) = cfg.threads.countP (executing p)) :
    SingleFlight deps cfg' := by
  have hrules := sched_rules h (List.mem_of_getElem? hi)
  have hworld : cfg'.world = (serveSched o ans cfg.world).2 := by rw [(sched_serve hi).mp hs]
  obtain ⟨hactive, hprocess⟩ := serveSched_bookkeeping hb he ans cfg.world
  rw [← hworld] at hactive hprocess
  have hent := countP_entered hi hs
  have hone := hI.one
  have hcap := hI.capacity
  rw [spaced_serve hi] at hspaced
  by_cases hpass : enters (answer o ans cfg.world) = true
  · -- the capacity check lets a poll go on, and no other poll is past its own
    obtain ⟨m, rfl, hyes⟩ := enters_answer.mp hpass
    obtain ⟨rfl, hout, hunclear⟩ := hrules.room m rfl
    have hzero := spacedAnswer_hasRoom hyes hspaced
    have hroom : cfg.world.activeRuns < deps.maxConcurrentRuns := (of_decide_eq_true hyes).1
    refine ⟨fun id => ?_, by omega, ?_, fun _ => by omega, fun th hth hth' id hclear => ?_⟩
    · rw [hcount, hI.inProcess, hprocess]
    · split_ifs at hent <;> omega
    · rcases mem_threads_serve hi hs hth with rfl | ⟨c', rfl⟩ | hth
      · rw [answered, List.any_append, hunclear] at hclear
        cases hclear
      · cases hth'
      · exact absurd hth' (List.countP_eq_zero.mp hzero th hth)
  · have hpast : entered (answered c past o k ans cfg.world) = true → past.any enters = true :=
      fun hth => (entered_answered hth).resolve_right hpass
    have hle : cfg'.threads.countP entered ≤ cfg.threads.countP entered := by
      split_ifs at hent with h1 h2 h2
      · omega
      · omega
      · exact absurd (hpast h2) h1
      · omega
    refine ⟨fun id => ?_, by omega, by omega, fun h1 => ?_, fun th hth hth' id hclear => ?_⟩
    · rw [hcount, hI.inProcess, hprocess]
    · rw [hactive]
      exact hI.room (by omega)
    · rw [hprocess]
      rcases mem_threads_serve hi hs hth with rfl | ⟨c', rfl⟩ | hth
      · have hold : entered (⟨c, past, .await o k⟩ : SchedThread) = true :=
          entered_pending.trans (hpast hth')
        rw [answered, List.any_append, Bool.or_eq_true] at hclear
        rcases hclear with hclear | hclear
        · exact hI.cleared _ (List.mem_of_getElem? hi) hold id hclear
        · -- the entry has just been looked up or claimed
          exact clears_answer hspaced (by simpa using hclear)
      · cases hth'
      · exact hI.cleared th hth hth' id hclear

/-- **The invariant along every run that keeps the polls apart.** -/
theorem singleFlight_reach
    (h : (schedSystem deps).Reach (fun cfg m => spaced cfg m = true) {} cfg) : SingleFlight deps cfg := by
  induction h with
  | init =>
    have hzero : ([] : List SchedThread).countP entered ≠ 1 := Nat.zero_ne_one
    exact ⟨fun id => rfl, Nat.zero_le _, Nat.zero_le _, fun h1 => absurd h1 hzero,
      fun th hth => absurd hth List.not_mem_nil⟩
  | @move cfg cfg' m hr hok hs ih =>
    have hreach : (schedSystem deps).Reachable {} cfg := hr.mono fun _ _ _ => trivial
    cases m with
    | invoke c =>
      obtain ⟨hw, hthreads, hcount⟩ := executing_invoke hs
      have hent : cfg'.threads.countP entered = cfg.threads.countP entered := by
        rw [hthreads, List.countP_append, List.countP_singleton, entered_fresh]
        rfl
      refine ⟨fun id => ?_, ?_, ?_, ?_, fun th hth hth' id hclear => ?_⟩
      · rw [hcount, ih.inProcess, hw]
      · rw [hw]
        exact ih.capacity
      · rw [hent]
        exact ih.one
      · rw [hent, hw]
        exact ih.room
      · rw [hthreads] at hth
        rcases List.mem_append.mp hth with hth | hth
        · rw [hw]
          exact ih.cleared th hth hth' id hclear
        · rw [List.mem_singleton.mp hth] at hth'
          cases hth'
    | pass t => exact t.elim
    | serve i ans =>
      obtain ⟨c, past, o, k, hi⟩ := exists_pending hs
      rcases executing_serve hreach hi hs with ⟨entry, resume, ho, hcount⟩ | ⟨entry, ho, hcount⟩ |
        ⟨hb, he, hcount⟩
      · exact singleFlight_begin hreach ih ho hi hs hcount
      · exact singleFlight_end hreach ih ho hi hs hcount
      · exact singleFlight_other hreach ih hb he hi hok hs hcount

/-- **Single flight**: while the polls keep apart, no more calls of `processEntry` run at a time than
the scheduler allows, and no two of them for one entry. -/
theorem single_flight (h : (schedSystem deps).Reach (fun cfg m => spaced cfg m = true) {} cfg) :
    cfg.threads.countP (executing fun _ => true) ≤ deps.maxConcurrentRuns ∧
      ∀ id, cfg.threads.countP (executingEntry id) ≤ 1 := by
  have hI := singleFlight_reach h
  constructor
  · rw [← activeRuns_eq (h.mono fun _ _ _ => trivial)]
    exact hI.capacity
  · intro id
    rw [hI.inProcess]
    split_ifs
    · exact Nat.le_refl 1
    · exact Nat.zero_le 1

/-- The same ticks as in `overlappingPolls`, the second after the first poll has returned. -/
def pollsInTurn : List (Move SchedCall (∀ o, SchedAns o) Empty) :=
  [.invoke .start] ++ List.replicate 7 (.serve 0 networkDown) ++ [.invoke .poll] ++
    List.replicate 10 (.serve 1 entryInFlight) ++ [.invoke .poll] ++
    List.replicate 5 (.serve 2 entryInFlight)

theorem polls_in_turn : ∃ cfg, (schedSystem oneSuiteDeps).run spaced pollsInTurn ⟨{}, []⟩ = some cfg ∧
    cfg.threads.length = 4 ∧
    cfg.threads.countP (executing fun _ => true) ≤ oneSuiteDeps.maxConcurrentRuns ∧
    ∀ id, cfg.threads.countP (executingEntry id) ≤ 1 := by
  have hrun : ((schedSystem oneSuiteDeps).run spaced pollsInTurn ⟨{}, []⟩).map (·.threads.length) =
      some 4 := by decide +kernel
  obtain ⟨cfg, hcfg, hlen⟩ := Option.map_eq_some_iff.mp hrun
  exact ⟨cfg, hcfg, hlen, single_flight (System.reach_of_run hcfg)⟩

end Spaced

end Benchmarker
