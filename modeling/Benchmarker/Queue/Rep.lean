import Benchmarker.Queue.Fence

/-!
# What an entry's fields say about its status

Every script sets its own few fields. Together they keep the fields of an entry in step with its
status, as long as the status is not written on its own.

* `Rep`: the fields that each status requires.
* `Script.rep_apply`, `rep_terminalDoc`, `rep_enqueueDoc`: every write keeps it.
* `listed`, **`rep_reach`**: every entry satisfies it in every run without `updateStatus` and
  `failActiveEntries`.
-/

namespace Benchmarker

open Async Async.Prog Async.System EsWorld

/-- The fields that the status of an entry requires. -/
structure Rep (d : EsSource) : Prop where
  pending : d.status = .pending → d.startedAt = none ∧ d.heartbeatAt = none ∧ d.leaseToken = none ∧
    d.completedAt = none ∧ d.errorMessage = none
  inFlight : d.status.inFlight = true → d.startedAt.isSome ∧ d.heartbeatAt.isSome ∧
    d.leaseToken.isSome ∧ d.completedAt = none
  terminal : d.status.terminal = true → d.completedAt.isSome ∧ d.leaseToken = none
  completed : d.status = .completed → d.errorMessage = none

instance (d : EsSource) : Decidable (Rep d) :=
  decidable_of_iff
    ((d.status = .pending → d.startedAt = none ∧ d.heartbeatAt = none ∧ d.leaseToken = none ∧
        d.completedAt = none ∧ d.errorMessage = none) ∧
      (d.status.inFlight = true → d.startedAt.isSome ∧ d.heartbeatAt.isSome ∧
        d.leaseToken.isSome ∧ d.completedAt = none) ∧
      (d.status.terminal = true → d.completedAt.isSome ∧ d.leaseToken = none) ∧
      (d.status = .completed → d.errorMessage = none))
    ⟨fun h => ⟨h.1, h.2.1, h.2.2.1, h.2.2.2⟩, fun h => ⟨h.pending, h.inFlight, h.terminal, h.completed⟩⟩

/-! ## Writes -/

theorem rep_enqueueDoc (m : String) (s : Source) (p : Option ℤ) (r : Option String)
    (md : Option EntryMetadata) (now : Time) : Rep (enqueueDoc m s p r md now) :=
  ⟨fun _ => ⟨rfl, rfl, rfl, rfl, rfl⟩, nofun, nofun, nofun⟩

/-- A terminal write requires nothing of the entry that it overwrites. -/
theorem rep_terminalDoc (c : TerminalCall) (now : Time) (d : EsSource) :
    Rep ((terminalDoc c.status c.message now).merge d) := by
  cases c <;> exact ⟨nofun, nofun, fun _ => ⟨rfl, rfl⟩, by first | exact fun _ => rfl | nofun⟩

/-- What an entry in flight requires. -/
theorem rep_of_inFlight {d : EsSource} (h : d.status.inFlight = true) (hs : d.startedAt.isSome)
    (hh : d.heartbeatAt.isSome) (hl : d.leaseToken.isSome) (hc : d.completedAt = none) : Rep d where
  pending hp := by rw [hp] at h; cases h
  inFlight _ := ⟨hs, hh, hl, hc⟩
  terminal ht := by rw [Status.inFlight_not_terminal h] at ht; cases ht
  completed hp := by rw [hp] at h; cases h

/-- What a pending entry requires. -/
theorem rep_of_pending {d : EsSource} (h : d.status = .pending) (hs : d.startedAt = none) (hh : d.heartbeatAt = none)
    (hl : d.leaseToken = none) (hc : d.completedAt = none) (he : d.errorMessage = none) : Rep d where
  pending _ := ⟨hs, hh, hl, hc, he⟩
  inFlight hf := by rw [h] at hf; cases hf
  terminal ht := by rw [h] at ht; cases ht
  completed hp := by rw [h] at hp; cases hp

/-- A script that writes a status on its own. -/
def Script.writesStatus : Script → Bool
  | .updateStatus _ _ _ _ => true
  | _ => false

/-- **Every other script resets what its status requires**, from every status that it accepts. -/
theorem Script.rep_apply {script : Script} {s d : EsSource} (h : script.apply s = some d)
    (hs : Rep s) (hw : script.writesStatus = false) : Rep d := by
  cases script with
  | dequeue now t =>
    simp only [Script.apply, Option.ite_none_right_eq_some, Option.some.injEq] at h
    obtain ⟨hp, rfl⟩ := h
    exact rep_of_inFlight rfl rfl rfl rfl (hs.pending hp).2.2.2.1
  | reclaimEntry =>
    simp only [Script.apply, Option.ite_none_right_eq_some, Option.some.injEq] at h
    obtain ⟨hf, rfl⟩ := h
    exact rep_of_pending rfl rfl rfl rfl (hs.inFlight hf).2.2.2 rfl
  | heartbeat now t =>
    simp only [Script.apply, Option.ite_none_right_eq_some, Option.some.injEq] at h
    obtain ⟨⟨-, hf⟩, rfl⟩ := h
    obtain ⟨hstart, -, hlease, hcomp⟩ := hs.inFlight hf
    exact rep_of_inFlight hf hstart rfl hlease hcomp
  | adoptEntry now t =>
    simp only [Script.apply, Option.ite_none_right_eq_some, Option.some.injEq] at h
    obtain ⟨hf, rfl⟩ := h
    obtain ⟨hstart, -, -, hcomp⟩ := hs.inFlight hf
    exact rep_of_inFlight hf hstart rfl rfl hcomp
  | updateStatus status now msg fence => cases hw
  | updateProgress progress fence =>
    simp only [Script.apply, Option.ite_none_right_eq_some, Option.some.injEq] at h
    obtain ⟨-, rfl⟩ := h
    exact ⟨hs.pending, hs.inFlight, hs.terminal, hs.completed⟩
  | cancel now =>
    simp only [Script.apply, Option.ite_none_right_eq_some, Option.some.injEq] at h
    obtain ⟨hp, rfl⟩ := h
    refine ⟨fun h => ?_, fun h => ?_, fun _ => ⟨rfl, (hs.pending hp).2.2.1⟩, fun h => ?_⟩ <;> cases h
  | requeueFailedEntries now =>
    simp only [Script.apply, Option.ite_none_right_eq_some, Option.some.injEq] at h
    obtain ⟨-, rfl⟩ := h
    exact rep_of_pending rfl rfl rfl rfl rfl rfl

/-! ## Runs -/

/-- The calls that write a status on its own. -/
def QueueCall.writesStatus : QueueCall → Bool
  | .updateStatus _ _ _ _ | .failActiveEntries _ => true
  | _ => false

/-- Only those calls send such a script. -/
theorem Sends.writesStatus {c : QueueCall} {past : List EsEvent} {id : ℕ} {script : Script}
    (h : Sends c past (.update id script)) (hw : script.writesStatus = true) :
    c.writesStatus = true := by
  cases h with
  | read hr => simp [EsOp.reads] at hr
  | updateStatus | failActive => rfl
  | _ => cases hw

/-- A move that makes no such call. -/
def listed : Move QueueCall EsChoice ℕ → Bool
  | .invoke c => !c.writesStatus
  | _ => true

/-- **The fields of every entry are in step with its status**, in every run from the empty index
that never writes a status on its own. -/
theorem rep_reach {cfg : QueueCfg} (h : queueSystem.Reach (fun _ m => listed m = true) {} cfg) :
    ∀ s ∈ cfg.world.docs, Rep s.source := by
  refine h.world_inv (I := fun w => ∀ s ∈ w.docs, Rep s.source) (by simp) ?_ fun _ _ hI => hI
  intro cfg i c past o k ch r w' hr _ hi hsv hI
  have hth := List.mem_of_getElem? hi
  have hs : Sends c past o := hr.issues (fun c => queueService_sends c []) hth
  have hlisted : c.writesStatus = false :=
    hr.calls (q := fun c => c.writesStatus = false) (by simp [listed]) (by simp [queueSystem, esSystem])
      _ hth
  have hput : ∀ {id d}, Rep d → ∀ s ∈ (cfg.world.put id d).docs, Rep s.source := by
    intro id d hd s hs
    rcases List.mem_or_eq_of_mem_set hs with hs | rfl
    · exact hI s hs
    · exact hd
  have heff : Effect cfg.world o w' := serve_effect hsv
  cases heff with
  | none => exact hI
  | token => exact hI
  | script hfound happ =>
    refine hput (Script.rep_apply happ (hI _ (List.mem_of_getElem? hfound)) ?_)
    by_contra hw
    rw [hs.writesStatus (by simpa using hw)] at hlisted
    cases hlisted
  | doc hfound _ =>
    obtain ⟨tc, g, now, -, -, rfl, -⟩ := hs.updateDoc_inv
    exact hput (rep_terminalDoc tc now _)
  | index d =>
    obtain ⟨m, src, p, rq, md, now, -, rfl, -⟩ := hs.index_inv
    intro s hs
    rcases List.mem_append.mp hs with hs | hs
    · exact hI s hs
    · obtain rfl := List.mem_singleton.mp hs
      exact rep_enqueueDoc m src p rq md now

/-- An entry is queued, claimed, failed, queued again and claimed again. -/
def failAndRequeue : List (Move QueueCall EsChoice ℕ) :=
  [.invoke (.enqueue "m" .user none none none), .serve 0 (.hits []), .serve 0 .ok, .serve 0 .ok,
    .invoke .dequeue, .serve 1 (.hits [0]), .serve 1 .ok, .serve 1 (.uuid "a"), .serve 1 .ok,
    .serve 1 .ok, .invoke (.terminal (.fail 0 "no" "a")), .serve 2 .ok, .serve 2 .ok, .serve 2 .ok,
    .invoke (.requeueFailedEntries [0]), .serve 3 .ok, .serve 3 .ok, .pass 5,
    .invoke .dequeue, .serve 4 (.hits [0]), .serve 4 .ok, .serve 4 (.uuid "b"), .serve 4 .ok]

theorem failAndRequeue_rep : ∃ cfg, queueSystem.run (fun _ m => listed m) failAndRequeue ⟨{}, []⟩ =
      some cfg ∧
    cfg.world.docs.map (fun s => (s.source.status, s.source.startedAt, s.source.leaseToken)) =
      [(.deploying, some 5, some "b")] ∧ ∀ s ∈ cfg.world.docs, Rep s.source := by
  have hrun : ((queueSystem.run (fun _ m => listed m) failAndRequeue ⟨{}, []⟩).map fun cfg =>
      cfg.world.docs.map fun s => (s.source.status, s.source.startedAt, s.source.leaseToken)) =
        some [(.deploying, some 5, some "b")] := by decide +kernel
  obtain ⟨cfg, hcfg, hdocs⟩ := Option.map_eq_some_iff.mp hrun
  exact ⟨cfg, hcfg, hdocs, rep_reach (reach_of_run hcfg)⟩

end Benchmarker
