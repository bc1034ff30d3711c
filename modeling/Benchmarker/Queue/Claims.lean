import Benchmarker.Queue.Token

/-!
# How often an entry is claimed

An entry leaves `pending` with each claim, and is put back by `reclaimEntry`, `requeueFailedEntries` and
`updateStatus`. So the claims of an entry, and the calls of `dequeue` that return it, are at most one more than the
times it was put back, in whatever order the calls are served and whether or not their answers arrive.

* `isPending`, `claimsEntry`, `putsBack`: what is counted. `pending_step`: what one request does to the count.
* `handsOut`: the calls of `dequeue` that return the entry. `countP_threads_le`: each has an event of its own.
* **`handedOut_le`**: the bound, over every run.
-/

namespace Benchmarker

open Async Async.Prog Async.System EsWorld

/-- The entry waits to be claimed. -/
def isPending (w : EsWorld) (id : ℕ) : Bool := (w.doc id).any fun d => d.status = .pending

/-- The scripts that may put an entry back. -/
def Script.putsBack : Script → Bool
  | .reclaimEntry | .requeueFailedEntries _ | .updateStatus .pending _ _ _ => true
  | _ => false

/-- The request claims the entry, for a `dequeue`. -/
def EsOp.claims (id : ℕ) : EsOp → Bool
  | .update id' (.dequeue _ _) => id' == id
  | _ => false

/-- The request may put the entry back. -/
def EsOp.putsBack (id : ℕ) : EsOp → Bool
  | .update id' script => id' == id && script.putsBack
  | _ => false

/-- The event claimed the entry. -/
def claimsEntry (id : ℕ) (e : EsEvent) : Bool := e.op.claims id && isPending e.pre id && !isPending e.post id

/-- The event put the entry back. -/
def putsBack (id : ℕ) (e : EsEvent) : Bool := e.op.putsBack id && !isPending e.pre id && isPending e.post id

/-- The call is a `dequeue` that returned the entry. -/
def handsOut (id : ℕ) : QueueThread → Bool
  | ⟨.dequeue, _, .ret (.ok (some entry))⟩ => entry.id == id
  | _ => false

section Claims

variable {ok : QueueCfg → Move QueueCall EsChoice ℕ → Prop} {w₀ w w' : EsWorld} {cfg cfg' : QueueCfg}
variable {id : ℕ} {c : QueueCall} {past : List EsEvent} {o : EsOp} {d : EsSource} {script : Script}

/-- **Only some scripts put an entry back.** -/
theorem Script.putsBack_of_apply {s : EsSource} (h : script.apply s = some d) (hpre : s.status ≠ .pending)
    (hpost : d.status = .pending) : script.putsBack = true := by
  cases script <;> simp only [Script.apply, Option.ite_none_right_eq_some, Option.some.injEq] at h
  all_goals obtain ⟨-, rfl⟩ := h
  case updateStatus status now msg fence =>
    have hstatus : (statusMutations status now msg s).status = status := by
      cases msg <;> simp only [statusMutations] <;> split <;> rfl
    rw [hstatus] at hpost
    rw [hpost]
    rfl
  all_goals first | rfl | cases hpost | exact absurd hpost hpre

theorem isPending_of_doc (h : w.doc id = some d) : isPending w id = decide (d.status = .pending) := by
  rw [isPending, h, Option.any_some]

/-- Whatever brings an entry to `pending` has put it back or added it. -/
theorem back_of_pending (h : Sends c past o) (heff : Effect w o w') (hpre : isPending w id = false)
    (hpost : isPending w' id = true) : o.putsBack id = true ∨ w.doc id = none := by
  cases heff with
  | none o => exact nomatch hpre.symm.trans hpost
  | token t => exact nomatch hpre.symm.trans hpost
  | @script id' script s d hfound happ =>
    have hdoc := doc_of_docs hfound
    by_cases hid : id = id'
    · subst hid
      have hput : (w.put id d).doc id = some d := by rw [doc_put hdoc, if_pos rfl]
      rw [isPending_of_doc hdoc, decide_eq_false_iff_not] at hpre
      rw [isPending_of_doc hput, decide_eq_true_eq] at hpost
      rw [EsOp.putsBack, Script.putsBack_of_apply happ hpre hpost, beq_self_eq_true]
      exact .inl rfl
    · rw [isPending, doc_put hdoc, if_neg hid, ← isPending, hpre] at hpost
      cases hpost
  | @doc id' doc s hfound hne =>
    obtain ⟨tc, g, now, rfl, rfl, rfl, -⟩ := h.updateDoc_inv
    have hdoc := doc_of_docs hfound
    by_cases hid : id = tc.id
    · subst hid
      rw [isPending, doc_put hdoc, if_pos rfl, Option.any_some, decide_eq_true_eq] at hpost
      have hterminal := tc.status_terminal
      rw [show tc.status = .pending from hpost] at hterminal
      cases hterminal
    · rw [isPending, doc_put hdoc, if_neg hid, ← isPending, hpre] at hpost
      cases hpost
  | index d =>
    cases hdoc : w.doc id with
    | none => exact .inr rfl
    | some d' =>
      have hadd : (w.add d).doc id = some d' := by
        obtain ⟨s, hs, rfl⟩ := doc_eq_some.mp hdoc
        exact doc_of_docs (docs_add_getElem? id hs)
      rw [isPending, hadd, ← hdoc, ← isPending, hpre] at hpost
      cases hpost

theorem isSome_doc_of_effect (heff : Effect w o w') (h : (w.doc id).isSome = true) : (w'.doc id).isSome = true := by
  obtain ⟨d, hd⟩ := Option.isSome_iff_exists.mp h
  obtain ⟨s, hs, -⟩ := doc_eq_some.mp hd
  obtain ⟨s', hs', -⟩ := heff.later.docs id s hs
  rw [doc_of_docs hs']
  rfl

/-- **What one request does**: a claim takes the entry from `pending`, and only a request that puts it back or that
adds it brings it there. -/
theorem pending_step (h : Sends c past o) (heff : Effect w o w') (r : EsAns o) :
    (if claimsEntry id ⟨o, r, w, w'⟩ then 1 else 0) + (if isPending w' id then 1 else 0) +
        (if (w.doc id).isSome then 1 else 0) ≤
      (if isPending w id then 1 else 0) + (if (w'.doc id).isSome then 1 else 0) +
        if putsBack id ⟨o, r, w, w'⟩ then 1 else 0 := by
  have hsome : (w.doc id).isSome = true → (w'.doc id).isSome = true := isSome_doc_of_effect heff
  have hle : (if (w.doc id).isSome then 1 else 0) ≤ if (w'.doc id).isSome then 1 else 0 := by
    split_ifs with h₁ h₂
    · exact le_rfl
    · exact absurd (hsome h₁) h₂
    · exact Nat.zero_le _
    · exact le_rfl
  rw [claimsEntry, putsBack]
  cases hpre : isPending w id <;> cases hpost : isPending w' id
  · simpa using hle
  · rcases back_of_pending h heff hpre hpost with hback | hnone
    · have hone : (1 + if (w.doc id).isSome then 1 else 0) ≤ (if (w'.doc id).isSome then 1 else 0) + 1 := by omega
      simpa [hback] using hone
    · have hadded : (w'.doc id).isSome = true := by
        cases hdoc : w'.doc id with
        | none => rw [isPending, hdoc] at hpost; cases hpost
        | some d => rfl
      simp [hnone, hadded]
  · cases o.claims id <;> simp <;> omega
  · simpa using hle

/-- The count along a run: the claims so far, and the one that may come. -/
def claimsOf (id : ℕ) (cfg : QueueCfg) : ℕ :=
  cfg.events.countP (fun x => claimsEntry id x.2) + if isPending cfg.world id then 1 else 0

/-- How often the entry was put back, and whether it was added. -/
def turnsOf (id : ℕ) (cfg : QueueCfg) : ℕ :=
  cfg.events.countP (fun x => putsBack id x.2) + if (cfg.world.doc id).isSome then 1 else 0

theorem claimsOf_le (h : queueSystem.Reach ok {} cfg) : claimsOf id cfg ≤ turnsOf id cfg := by
  induction h with
  | init => exact Nat.zero_le _
  | @move cfg cfg' m hreach _ hm ih =>
    cases m with
    | invoke c =>
      have hev := events_invoke hm
      obtain ⟨-, rfl⟩ := move_invoke.mp hm
      rw [claimsOf, turnsOf, hev]
      exact ih
    | pass d =>
      have hev := events_pass hm
      obtain rfl := move_pass.mp hm
      rw [claimsOf, turnsOf, hev]
      exact ih
    | serve i ch =>
      obtain ⟨c, past, o, k, r, w', hi, hsv, rfl⟩ := move_serve.mp hm
      have hsends : Sends c past o := hreach.issues (fun c => queueService_sends c []) (List.mem_of_getElem? hi)
      have hstep := @pending_step cfg.world w' id c past o hsends (serve_effect hsv) r
      have hev := events_serve (S := queueSystem) hi r w' ⟨o, r, cfg.world, w'⟩ []
      have hforks : queueSystem.forks c o = [] := rfl
      rw [hforks, claimsOf, turnsOf, hev.countP_eq, hev.countP_eq, List.countP_cons, List.countP_cons]
      unfold claimsOf turnsOf at ih
      dsimp only
      omega

/-- A thread with an event of the kind is counted among the events of the kind. -/
theorem countP_threads_le {q : QueueThread → Bool} {p : EsEvent → Bool}
    (h : ∀ th ∈ cfg.threads, q th = true → ∃ e ∈ th.past, p e = true) :
    cfg.threads.countP q ≤ cfg.events.countP fun x => p x.2 := by
  rw [Cfg.events]
  generalize cfg.threads = threads at h
  induction threads with
  | nil => exact Nat.zero_le _
  | cons th threads ih =>
    have hrest := ih fun th' hth' => h th' (List.mem_cons_of_mem _ hth')
    rw [List.countP_cons, List.flatMap_cons, List.countP_append, List.countP_map]
    have hone : (if q th then 1 else 0) ≤ th.past.countP ((fun x => p x.2) ∘ fun e => (th.call, e)) := by
      split_ifs with hq
      · obtain ⟨e, he, hp⟩ := h th List.mem_cons_self hq
        exact List.countP_pos_iff.mpr ⟨e, he, hp⟩
      · exact Nat.zero_le _
    omega

/-- **A `dequeue` that returns the entry has claimed it.** -/
theorem claims_of_handsOut (h : queueSystem.Reach ok w₀ cfg) {th : QueueThread} (hth : th ∈ cfg.threads)
    (hout : handsOut id th = true) : ∃ e ∈ th.past, claimsEntry id e = true := by
  unfold handsOut at hout
  split at hout
  · rename_i past entry
    obtain ⟨fs, id', t, g, pre, post, hpast, ⟨es, now, u, v, hfs, -⟩, hentry⟩ := runs_dequeue (h.after _ hth)
    dsimp only at hpast
    have hread : (⟨.get id', .ok (some g), pre, post⟩ : EsEvent) ∈ past := by rw [hpast]; simp
    have hclaimed : (⟨.update id' (.dequeue now t), .ok .updated, u, v⟩ : EsEvent) ∈ past := by rw [hpast, hfs]; simp
    refine ⟨_, hclaimed, ?_⟩
    obtain ⟨ch, hget⟩ := h.served _ hth _ hread
    obtain ⟨-, _, -, hg⟩ := serve_get_found hget
    have hid : id' = id := by
      rw [hentry, hg] at hout
      exact of_decide_eq_true hout
    obtain ⟨ch', hupdate⟩ := h.served _ hth _ hclaimed
    obtain ⟨s, hs, ⟨hno, -⟩ | ⟨d, -, happ, hpost⟩⟩ := serve_update_ok hupdate
    · cases hno
    · obtain ⟨hpending, hd⟩ := Option.ite_none_right_eq_some.mp happ
      have hpre : isPending u id' = true := by rw [isPending_of_doc (doc_of_docs hs), decide_eq_true hpending]
      have hnot : isPending v id' = false := by
        have hput : v.doc id' = some d := by
          rw [show v = u.put id' d from hpost, doc_put (doc_of_docs hs), if_pos rfl]
        rw [isPending_of_doc hput, ← Option.some.inj hd]
        rfl
      rw [claimsEntry, ← hid, hpre, hnot]
      simp [EsOp.claims]
  · cases hout

/-- **An entry is claimed, and handed out, at most once more than it was put back.** -/
theorem handedOut_le (h : queueSystem.Reach ok {} cfg) (id : ℕ) :
    cfg.threads.countP (handsOut id) ≤ cfg.events.countP (fun x => claimsEntry id x.2) ∧
      cfg.events.countP (fun x => claimsEntry id x.2) ≤ cfg.events.countP (fun x => putsBack id x.2) + 1 := by
  refine ⟨countP_threads_le fun th hth => claims_of_handsOut h hth, ?_⟩
  have hle := @claimsOf_le ok cfg id h
  unfold claimsOf turnsOf at hle
  split_ifs at hle <;> omega

end Claims

/-- An entry is queued and claimed; it is reclaimed, and claimed again. -/
def claimedTwice : List (Move QueueCall EsChoice ℕ) :=
  [.invoke (.enqueue "m" .user none none none), .serve 0 (.hits []), .serve 0 .ok, .serve 0 .ok,
    .invoke .dequeue, .serve 1 (.hits [0]), .serve 1 .ok, .serve 1 (.uuid "a"), .serve 1 .ok, .serve 1 .ok,
    .invoke (.reclaimEntry 0), .serve 2 .ok,
    .invoke .dequeue, .serve 3 (.hits [0]), .serve 3 .ok, .serve 3 (.uuid "b"), .serve 3 .ok, .serve 3 .ok]

theorem claimedTwice_le : ∃ cfg, queueSystem.run (fun _ _ => true) claimedTwice ⟨{}, []⟩ = some cfg ∧
    cfg.threads.countP (handsOut 0) = 2 ∧
    cfg.threads.countP (handsOut 0) ≤ cfg.events.countP (fun x => claimsEntry 0 x.2) ∧
    cfg.events.countP (fun x => claimsEntry 0 x.2) ≤ cfg.events.countP (fun x => putsBack 0 x.2) + 1 := by
  have hrun : ((queueSystem.run (fun _ _ => true) claimedTwice ⟨{}, []⟩).map fun cfg =>
      cfg.threads.countP (handsOut 0)) = some 2 := by decide +kernel
  obtain ⟨cfg, hcfg, hcount⟩ := Option.map_eq_some_iff.mp hrun
  exact ⟨cfg, hcfg, hcount, handedOut_le (reachable_of_run hcfg) 0⟩

end Benchmarker
