import Benchmarker.Fleet.Adoption

/-!
# Statuses that end an entry

An entry that has been completed, has failed or was cancelled keeps its status: every script but one
checks the status that it finds, and the terminal writes are compare-and-sets after a look at the
status. `updateStatus` checks nothing.

* `status_apply`: what a script does to a terminal status.
* `ReadRunning`, **`readRunning`**: every compare-and-set of a daemon follows a get of a running entry.
* `StaysTerminal`, `writesRunning`, **`stays_terminal`**: terminal statuses over every run.
* `resurrected`: a run in which a worker moves a failed entry back to `deploying`.
-/

namespace Benchmarker

open Async Async.Prog Async.System EsWorld

/-- **What a script does to a terminal status**: only `updateStatus` and the requeue change it. -/
theorem status_apply {script : Script} {s d : EsSource} (h : script.apply s = some d)
    (ht : s.status.terminal = true) : d.status = s.status ∨
      (∃ status now msg fence, script = .updateStatus status now msg fence ∧
        fenceOpen fence s = true ∧ d.status = status) ∨
      ∃ now, script = .requeueFailedEntries now := by
  cases script with
  | dequeue now token =>
    simp only [Script.apply, Option.ite_none_right_eq_some] at h
    rw [h.1] at ht
    cases ht
  | reclaimEntry =>
    simp only [Script.apply, Option.ite_none_right_eq_some] at h
    rw [Status.inFlight_not_terminal h.1] at ht
    cases ht
  | heartbeat now token =>
    simp only [Script.apply, Option.ite_none_right_eq_some] at h
    rw [Status.inFlight_not_terminal h.1.2] at ht
    cases ht
  | adoptEntry now token =>
    simp only [Script.apply, Option.ite_none_right_eq_some] at h
    rw [Status.inFlight_not_terminal h.1] at ht
    cases ht
  | updateStatus status now msg fence =>
    simp only [Script.apply, Option.ite_none_right_eq_some, Option.some.injEq] at h
    obtain ⟨hopen, rfl⟩ := h
    refine Or.inr (Or.inl ⟨status, now, msg, fence, rfl, hopen, ?_⟩)
    unfold statusMutations
    cases msg <;> cases status.terminal <;> rfl
  | updateProgress progress fence =>
    simp only [Script.apply, Option.ite_none_right_eq_some, Option.some.injEq] at h
    obtain ⟨-, rfl⟩ := h
    exact Or.inl rfl
  | cancel now =>
    simp only [Script.apply, Option.ite_none_right_eq_some] at h
    rw [h.1] at ht
    cases ht
  | requeueFailedEntries now => exact Or.inr (Or.inr ⟨now, rfl⟩)

/-! ## Compare-and-sets -/

/-- A compare-and-set comes after a get that found the entry under this version, and running. -/
def ReadRunning (past : List FleetEvent) (o : FleetOp) : Prop :=
  ∀ id doc n p, o = .es (.updateDoc id doc n p) → ∃ g u v,
    (⟨.es (.get id), .ok (some g), u, v⟩ : FleetEvent) ∈ past ∧ n = g.seqNo ∧
      g.source.status.terminal = false

section ReadRunning

variable {past : List FleetEvent}

theorem readRunning_of_uses {α : Type} {p : Prog FleetAns α}
    (h : p.Uses fun o => ∀ id doc n q, o ≠ .es (.updateDoc id doc n q)) : p.Issues ReadRunning past :=
  (h.issues past).mono fun _ _ hne id doc n q heq => absurd heq (hne id doc n q)

/-- An event at the index was one of the daemon. -/
theorem mem_of_expansion {es : List EsEvent} {e : EsEvent} (h : Expansion atIndex es past)
    (he : e ∈ es) : ∃ u v, (⟨.es e.op, e.ans, u, v⟩ : FleetEvent) ∈ past := by
  induction h with
  | nil => cases he
  | snoc pre post hexp hrun ih =>
    rcases List.mem_append.mp he with he | he
    · obtain ⟨u, v, hmem⟩ := ih he
      exact ⟨u, v, List.mem_append_left _ hmem⟩
    · obtain rfl := List.mem_singleton.mp he
      obtain ⟨u, v, rfl⟩ := runs_atIndex.mp hrun
      exact ⟨u, v, List.mem_append_right _ List.mem_cons_self⟩

theorem readRunning_queue (c : QueueCall) :
    (ofQueue (queueService c)).run.Issues ReadRunning ([] : List FleetEvent) := by
  refine (issues_queue {} (queueService_sends c [])).mono ?_
  rintro past o ⟨es, o', fs, gs, k, hsends, hexp, rfl, hafter⟩ id doc n p rfl
  obtain ⟨rfl, heq⟩ := after_request hafter
  obtain rfl := FleetOp.es.inj heq
  obtain ⟨tc, g, now, -, rfl, -, rfl, ⟨u, v, hread⟩, -, hrunning⟩ := hsends.updateDoc_inv
  obtain ⟨u', v', hmem⟩ := mem_of_expansion hexp hread
  exact ⟨g, u', v', List.mem_append_left _ hmem, rfl, hrunning⟩

/-- A request of the scheduler: only the calls of the queue service write to the index. -/
theorem readRunning_daemon (o : SchedOp) :
    (atDaemon o).Issues ReadRunning ([] : List FleetEvent) := by
  cases o with
  | queue c => exact readRunning_queue c
  | _ => exact readRunning_of_uses (uses_request.mpr nofun)

theorem readRunning_sched (x : SchedJs Unit) :
    (ofSched x).run.Issues ReadRunning ([] : List FleetEvent) := by
  have hissues : x.run.Issues (fun _ _ => True) ([] : List SchedEvent) :=
    (issues_after x.run []).mono fun _ _ _ => trivial
  refine (issues_sched {} hissues).mono ?_
  rintro past o ⟨es, o', fs, gs, k, -, -, rfl, hafter⟩ id doc n p heq
  have hread := (readRunning_daemon o').after hafter
  obtain ⟨g, u, v, hmem, hn, hrunning⟩ := hread.1 id doc n p heq
  exact ⟨g, u, v, List.mem_append_right _ hmem, hn, hrunning⟩

theorem readRunning_runOnce (config : MaintenanceConfig) :
    (runOnce config).run.Issues ReadRunning ([] : List FleetEvent) := by
  have hcall : ∀ c : QueueCall, (∀ tc, c ≠ .terminal tc) → (ofQueue (queueService c)).run.Uses
      fun o => ∀ id doc n p, o ≠ .es (.updateDoc id doc n p) := by
    intro c hc
    refine (uses_queueService c (q := fun e => ∀ id doc n p, e ≠ .updateDoc id doc n p) ?_).mono
      fun o ho id doc n p heq => ho _ heq id doc n p rfl
    rintro past o hsends id doc n p rfl
    obtain ⟨tc, -, -, rfl, -⟩ := hsends.updateDoc_inv
    exact hc tc rfl
  refine readRunning_of_uses (uses_throws_bind (uses_lift (uses_request.mpr nofun)) fun nowMs => ?_)
  unfold sweepDlq
  split_ifs with hoff
  · exact uses_throws_pure _
  refine uses_throws_bind (hcall (.findFailedEntries _ _) nofun) fun failed => ?_
  have hload : (attempt loadActiveModelCooldowns).run.Uses
      fun o => ∀ id doc n p, o ≠ .es (.updateDoc id doc n p) := by
    refine uses_attempt (uses_throws_bind (uses_attempt (uses_request.mpr nofun)) fun r => ?_)
    cases r with
    | ok found => exact uses_throws_pure _
    | error err => exact uses_ite (uses_throws_pure _) (uses_throw _)
  refine uses_throws_bind hload fun active => ?_
  dsimp only
  split_ifs with hnone
  · exact uses_throws_pure _
  exact hcall (.requeueFailedEntries _) nofun

/-- **Every compare-and-set of a daemon follows a get of a running entry.** -/
theorem readRunning (deps : ℕ → SchedulerDeps) (c : FleetCall) :
    ((fleetSystem deps).start c).Issues ReadRunning ([] : List FleetEvent) := by
  cases c with
  | sched host c => exact readRunning_sched (schedBody (deps host) c)
  | queue c => exact readRunning_queue c
  | runOnce config => exact readRunning_runOnce config

end ReadRunning

/-! ## Documents -/

section Documents

variable {w : EsWorld} {i : ℕ} {d : EsSource}

theorem doc_add (h : w.doc i = some d) (d' : EsSource) : (w.add d').doc i = some d := by
  obtain ⟨s, hs, rfl⟩ := doc_eq_some.mp h
  exact doc_of_docs (docs_add_getElem? i hs)

end Documents

/-! ## Runs -/

/-- No request takes a terminal status from an entry, except to queue the failed entry again. -/
def StaysTerminal (cfg : FleetCfg) : Prop :=
  ∀ th ∈ cfg.threads, ∀ e ∈ th.past, ∀ id d, e.pre.index.doc id = some d → d.status.terminal = true →
    ∃ d', e.post.index.doc id = some d' ∧
      (d'.status = d.status ∨ ∃ now, e.op = .es (.update id (.requeueFailedEntries now)))

/-- A write of `updateStatus` that is carried out finds the entry running or pending, or in the status
that it writes, or is kept away by its fence. -/
def writesRunning (cfg : FleetCfg) : FleetMove → Bool
  | .serve _ (.es (.rejected _)) => true
  | .serve i _ =>
    match cfg.threads[i]? with
    | some ⟨_, _, .await (.es (.update id (.updateStatus status _ _ fence))) _⟩ =>
      (cfg.world.index.doc id).all fun d =>
        !d.status.terminal || d.status = status || !fenceOpen fence d
    | _ => true
  | _ => true

section Runs

variable {deps : ℕ → SchedulerDeps} {ok : FleetCfg → FleetMove → Prop} {w₀ : FleetWorld} {cfg : FleetCfg}

theorem fleet_wf (h₀ : w₀.index.Wf) (h : (fleetSystem deps).Reach ok w₀ cfg) : cfg.world.index.Wf := by
  refine h.world_inv (I := fun w => w.index.Wf) h₀ ?_ fun _ _ hI => hI
  intro cfg i c past o k ch r w' _ _ _ hsv hI
  rcases serveFleet_index hsv with heq | ⟨e, -, heff⟩
  · rw [heq]
    exact hI
  · exact heff.wf hI

/-- **A compare-and-set that is carried out finds the entry running.** -/
theorem running_of_updateDoc (h₀ : w₀.index.Wf) (h : (fleetSystem deps).Reach ok w₀ cfg) {th : FleetThread}
    (hth : th ∈ cfg.threads) {id p : ℕ} {doc : PartialDoc} {s : Stored}
    (hread : ReadRunning th.past (.es (.updateDoc id doc s.seqNo p)))
    (hs : cfg.world.index.docs[id]? = some s) : s.source.status.terminal = false := by
  obtain ⟨g, u, v, hmem, hn, hrunning⟩ := hread id doc s.seqNo p rfl
  obtain ⟨ch, hsv⟩ := h.served th hth _ hmem
  obtain ⟨cfg₁, hr₁, hpre⟩ := h.visited th hth _ hmem
  obtain ⟨ch', hget, -⟩ := served_es.mp ⟨ch, hsv⟩
  obtain ⟨hpost, s₁, hs₁, rfl⟩ := serve_get_found hget
  have hlater : Later v.index cfg.world.index := (fleet_later h th hth).2 _ hmem
  have hwf : v.index.Wf := by
    dsimp only at hpost hpre
    rw [hpost, ← hpre]
    exact fleet_wf h₀ hr₁
  have hsame : s = s₁ := by
    dsimp only at hpost hs₁
    exact hlater.unwritten hwf (by rw [hpost]; exact hs₁) hs hn
  rw [hsame]
  exact hrunning

/-- A rejected request changes nothing. -/
theorem serveFleet_rejected {host : ℕ} {o : FleetOp} {err : JsError} {w w' : FleetWorld} {r : FleetAns o}
    (h : serveFleet host o (.es (.rejected err)) w = some (r, w')) : w'.index = w.index := by
  cases o with
  | es o =>
    simp only [serveFleet, serve] at h
    split_ifs at h
    · cases h
    · obtain ⟨⟨a, u⟩, hs, heq⟩ := Option.map_eq_some_iff.mp h
      obtain ⟨b, -, hu⟩ := Option.map_eq_some_iff.mp hs
      obtain ⟨-, rfl⟩ := Prod.mk.inj heq
      exact (Prod.mk.inj hu).2.symm
  | searchModelCooldowns => cases h
  | sched o => cases o <;> cases h

/-- A write of `updateStatus` that meets the condition keeps a terminal status. -/
theorem status_of_writesRunning {i : ℕ} {ch : FleetChoice} (hch : ∀ err, ch ≠ .es (.rejected err))
    (hok : writesRunning cfg (.serve i ch) = true) {c : FleetCall} {past : List FleetEvent} {id : ℕ}
    {status : Status} {now : Time} {msg fence : Option String}
    {k : FleetAns (.es (.update id (.updateStatus status now msg fence))) → Prog FleetAns (FleetRet c)}
    (hi : cfg.threads[i]? = some ⟨c, past, .await _ k⟩) {d : EsSource}
    (hd : cfg.world.index.doc id = some d) (ht : d.status.terminal = true) (hopen : fenceOpen fence d = true) :
    d.status = status := by
  have hall : ((cfg.world.index.doc id).all fun d =>
      !d.status.terminal || d.status = status || !fenceOpen fence d) = true := by
    unfold writesRunning at hok
    split at hok
    · rename_i heq
      obtain ⟨-, rfl⟩ := Move.serve.inj heq
      exact absurd rfl (hch _)
    · rename_i heq
      obtain ⟨rfl, -⟩ := Move.serve.inj heq
      rw [hi] at hok
      exact hok
    · rename_i hno
      exact absurd rfl (hno _ _)
  rw [hd, Option.all_some, ht, hopen] at hall
  simpa using hall

/-- **Terminal statuses are kept** in every run in which no `updateStatus` is carried out on an entry
that has ended. -/
theorem stays_terminal
    (h : (fleetSystem deps).Reach (fun cfg m => writesRunning cfg m = true) {} cfg) :
    StaysTerminal cfg := by
  intro th hth e he id d hd ht
  obtain ⟨cfg₀, i, ch, past, k, hr, hok, hw, hi, hsv⟩ := h.admitted th hth e he
  have hmem := List.mem_of_getElem? hi
  have hread := hr.issues (readRunning deps) hmem
  obtain ⟨o, r, pre, post⟩ := e
  dsimp only at hd hw hi hsv hread k ⊢
  subst hw
  have hkeep : post.index.doc id = cfg₀.world.index.doc id → ∃ d', post.index.doc id = some d' ∧
      (d'.status = d.status ∨ ∃ now, o = .es (.update id (.requeueFailedEntries now))) := by
    intro heq
    exact ⟨d, by rw [heq, hd], Or.inl rfl⟩
  by_cases hch : ∃ err, ch = .es (.rejected err)
  · obtain ⟨err, rfl⟩ := hch
    exact hkeep (by rw [serveFleet_rejected hsv])
  rcases serveFleet_index hsv with heq | ⟨o', rfl, heff⟩
  · exact hkeep (by rw [heq])
  generalize post.index = w' at heff hkeep ⊢
  cases heff with
  | none => exact hkeep rfl
  | token t fresh => exact hkeep rfl
  | @script id' script s d' found applied =>
    by_cases hid : id = id'
    · subst hid
      have hsource : d = s.source := Option.some.inj (hd.symm.trans (doc_of_docs found))
      subst hsource
      refine ⟨d', by rw [doc_put hd, if_pos rfl], ?_⟩
      rcases status_apply applied ht with hsame | ⟨status, now, msg, fence, rfl, hopen, hstatus⟩ | ⟨now, rfl⟩
      · exact Or.inl hsame
      · rw [hstatus]
        exact Or.inl (status_of_writesRunning (fun err h => hch ⟨err, h⟩) hok hi hd ht hopen).symm
      · exact Or.inr ⟨now, rfl⟩
    · exact hkeep (by rw [doc_put (doc_of_docs found), if_neg hid])
  | @doc id' doc s found changed =>
    by_cases hid : id = id'
    · subst hid
      have hsource : d = s.source := Option.some.inj (hd.symm.trans (doc_of_docs found))
      have hrunning := running_of_updateDoc wf_empty hr hmem hread found
      rw [← hsource, ht] at hrunning
      cases hrunning
    · exact hkeep (by rw [doc_put (doc_of_docs found), if_neg hid])
  | index d' => exact hkeep (by rw [doc_add hd, hd])

end Runs

/-! ## Runs of two hosts -/

/-- A write of `updateStatus` that takes a terminal status from an entry. -/
def leavesTerminal (th : FleetThread) : Bool :=
  th.past.any fun e =>
    match e.op with
    | .es (.update id (.updateStatus _ _ _ _)) => (e.pre.index.doc id).any fun d =>
      d.status.terminal && (e.post.index.doc id).all fun d' => d'.status ≠ d.status
    | _ => false

theorem not_staysTerminal {cfg : FleetCfg} (h : cfg.threads.any leavesTerminal = true) :
    ¬StaysTerminal cfg := by
  intro hstays
  obtain ⟨th, hth, hleaves⟩ := List.any_eq_true.mp h
  obtain ⟨e, he, htest⟩ := List.any_eq_true.mp hleaves
  split at htest
  · rename_i id status now msg fence hop
    obtain ⟨d, hd, htest⟩ := (Option.any_eq_true _ _).mp htest
    obtain ⟨ht, hall⟩ := Bool.and_eq_true_iff.mp htest
    obtain ⟨d', hd', hsame | ⟨now', hrequeue⟩⟩ := hstays th hth e he id d hd ht
    · rw [hd', Option.all_some] at hall
      exact of_decide_eq_true hall hsame
    · rw [hop] at hrequeue
      cases hrequeue
  · cases htest

/-- Host 1 has adopted the entry of host 0, fails it, and host 0 goes on with its run. -/
def resurrect : List FleetMove :=
  adoptFresh ++ List.replicate 6 (.serve 4 ownAnswer) ++ List.replicate 3 (.serve 4 (.es .ok)) ++
    List.replicate 5 (.serve 2 ownAnswer) ++ List.replicate 2 (.serve 2 (.es .ok))

/-- **A failed entry is deploying again**: `processEntry` of host 0 writes the status `deploying` on the
entry that `processEntry` of host 1 has failed. -/
theorem resurrected : ∃ cfg, (fleetSystem fun _ => oneSuiteDeps).Reachable {} cfg ∧ ¬StaysTerminal cfg := by
  have hrun : ((fleetSystem fun _ => oneSuiteDeps).run (fun _ _ => true) resurrect ⟨{}, []⟩).any
      (fun cfg => cfg.threads.any leavesTerminal) = true := by decide +kernel
  obtain ⟨cfg, hcfg, hleaves⟩ := (Option.any_eq_true _ _).mp hrun
  exact ⟨cfg, reachable_of_run hcfg, not_staysTerminal hleaves⟩

/-- Host 0 fails its entry, and a handler cancels it afterwards. -/
def failOnce : List FleetMove :=
  claimByFirst ++ List.replicate 5 (.serve 2 ownAnswer) ++ List.replicate 2 (.serve 2 (.es .ok)) ++
    List.replicate 2 (.serve 2 ownAnswer) ++ List.replicate 2 (.serve 2 (.es .ok)) ++
    [.serve 2 ownAnswer, .serve 2 (.es .ok), .serve 2 ownAnswer, .serve 2 ownAnswer, .serve 2 (.es .ok),
      .serve 2 (.es .ok), .invoke (.queue (.cancel 0)), .serve 3 (.es .ok), .serve 3 (.es .ok)]

/-- A failed entry stays failed. -/
theorem failedOnce_stays : ∃ cfg, (fleetSystem fun _ => oneSuiteDeps).run writesRunning failOnce ⟨{}, []⟩ =
    some cfg ∧ (cfg.world.index.doc 0).map EsSource.status = some .failed ∧ StaysTerminal cfg := by
  have hrun : ((fleetSystem fun _ => oneSuiteDeps).run writesRunning failOnce ⟨{}, []⟩).any (fun cfg =>
      decide ((cfg.world.index.doc 0).map EsSource.status = some .failed)) = true := by decide +kernel
  obtain ⟨cfg, hcfg, hfailed⟩ := (Option.any_eq_true _ _).mp hrun
  exact ⟨cfg, hcfg, of_decide_eq_true hfailed, stays_terminal (reach_of_run hcfg)⟩

end Benchmarker
