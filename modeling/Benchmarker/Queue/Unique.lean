import Benchmarker.Queue.Rep

/-!
# One active entry per model

`enqueue` searches for an active entry of the model before it adds one, and nothing keeps another
call from adding one in between; `requeueFailedEntries` does not search at all.

* `activeCount`: the active entries of a model.
* **`duplicate_active`**: runs with two active entries of a model.
* `deduping`: an `enqueue` that has searched and not added its entry yet.
* `exclusive`, **`active_unique`**: a model has at most one active entry in every run in which no
  entry of a model becomes active while another `enqueue` of the model is deduping, and a failed
  entry is queued again only while its model has no active entry.
-/

namespace Benchmarker

open Async Async.Prog Async.System EsWorld

/-- The document is an active entry of the model. -/
def activeFor (m : String) (s : Stored) : Bool := m == s.source.modelId && s.source.status.active

/-- The number of active entries of a model. -/
def activeCount (m : String) (w : EsWorld) : ℕ := w.docs.countP (activeFor m)

/-! ## Duplicates -/

/-- Two calls queue one model; both search before either adds its entry. -/
def enqueueTogether : List (Move QueueCall EsChoice ℕ) :=
  [.invoke (.enqueue "m" .user none none none), .invoke (.enqueue "m" .discovery none none none),
    .serve 0 (.hits []), .serve 1 (.hits []), .serve 0 .ok, .serve 1 .ok, .serve 0 .ok, .serve 1 .ok]

/-- A failed entry is queued again after a retry of its model has been queued. -/
def requeueAfterRetry : List (Move QueueCall EsChoice ℕ) :=
  [.invoke (.enqueue "m" .user none none none), .serve 0 (.hits []), .serve 0 .ok, .serve 0 .ok,
    .invoke .dequeue, .serve 1 (.hits [0]), .serve 1 .ok, .serve 1 (.uuid "a"), .serve 1 .ok,
    .serve 1 .ok, .invoke (.terminal (.fail 0 "no" "a")), .serve 2 .ok, .serve 2 .ok, .serve 2 .ok,
    .invoke (.enqueue "m" .user none none none), .serve 3 (.hits []), .serve 3 .ok, .serve 3 .ok,
    .invoke (.requeueFailedEntries [0]), .serve 4 .ok, .serve 4 .ok]

/-- **Two active entries of one model**, after two calls of `enqueue` and after a requeue. -/
theorem duplicate_active :
    (∃ cfg, queueSystem.run (fun _ m => listed m) enqueueTogether ⟨{}, []⟩ = some cfg ∧
      activeCount "m" cfg.world = 2) ∧
    ∃ cfg, queueSystem.run (fun _ m => listed m) requeueAfterRetry ⟨{}, []⟩ = some cfg ∧
      activeCount "m" cfg.world = 2 := by
  have h₁ : ((queueSystem.run (fun _ m => listed m) enqueueTogether ⟨{}, []⟩).map fun cfg =>
      activeCount "m" cfg.world) = some 2 := by decide +kernel
  have h₂ : ((queueSystem.run (fun _ m => listed m) requeueAfterRetry ⟨{}, []⟩).map fun cfg =>
      activeCount "m" cfg.world) = some 2 := by decide +kernel
  exact ⟨Option.map_eq_some_iff.mp h₁, Option.map_eq_some_iff.mp h₂⟩

/-! ## What a write does to the count -/

section Counts

variable {w : EsWorld} {id : ℕ} {m : String}

theorem activeCount_put {s : Stored} {d : EsSource} (h : w.docs[id]? = some s) :
    activeCount m (w.put id d) + (if activeFor m s then 1 else 0) = activeCount m w +
      if activeFor m ⟨d, w.nextSeqNo, w.primaryTerm⟩ then 1 else 0 :=
  countP_set_add (activeFor m) h

theorem activeCount_add {d : EsSource} : activeCount m (w.add d) =
    activeCount m w + if activeFor m ⟨d, w.nextSeqNo, w.primaryTerm⟩ then 1 else 0 := by
  rw [activeCount, docs_add, List.countP_append, List.countP_singleton]
  rfl

theorem activeCount_eq_zero : activeCount m w = 0 ↔
    ∀ id d, w.doc id = some d → (m == d.modelId && d.status.active) = false := by
  rw [activeCount, List.countP_eq_zero]
  constructor
  · intro h id d hd
    obtain ⟨s, hs, rfl⟩ := doc_eq_some.mp hd
    simpa [activeFor] using h s (List.mem_of_getElem? hs)
  · intro h s hs
    obtain ⟨i, hi⟩ := List.mem_iff_getElem?.mp hs
    simpa [activeFor] using h i s.source (doc_of_docs hi)

theorem existingQuery_matches (d : EsSource) :
    (existingQuery m).matches d = (m == d.modelId && d.status.active) := by
  simp only [existingQuery, Query.matches, Option.all_some, Option.all_none, Bool.and_true]
  congr 1
  cases d.status <;> rfl

/-- **The dedupe search.** An answer without hits means that the model has no active entry. -/
theorem activeCount_of_search {ch : EsChoice} {w' : EsWorld}
    (h : serve (.search (existingQuery m)) ch w = some (.ok [], w')) : activeCount m w = 0 := by
  refine activeCount_eq_zero.mpr fun id d hd => ?_
  have := serve_search_nil h Nat.one_pos hd
  rwa [existingQuery_matches] at this

/-- The scripts that make a terminal entry active. -/
def Script.requeues : Script → Bool
  | .requeueFailedEntries _ => true
  | _ => false

/-- A script keeps the model of an entry, and makes it active only if it was or if it requeues. -/
theorem Script.activeFor_apply {script : Script} {s : Stored} {d : EsSource} {n p : ℕ}
    (h : script.apply s.source = some d) (hw : script.writesStatus = false)
    (hr : script.requeues = false) (hd : activeFor m ⟨d, n, p⟩ = true) : activeFor m s = true := by
  cases script <;> simp only [Script.apply, Option.ite_none_right_eq_some, Option.some.injEq] at h
  case updateStatus => cases hw
  case requeueFailedEntries => cases hr
  all_goals obtain ⟨hg, rfl⟩ := h
  all_goals simp only [activeFor, Bool.and_eq_true] at hd ⊢
  case dequeue | cancel => exact ⟨hd.1, by rw [hg]; rfl⟩
  case reclaimEntry | adoptEntry => exact ⟨hd.1, Status.inFlight_active hg⟩
  case heartbeat => exact ⟨hd.1, Status.inFlight_active hg.2⟩
  case updateProgress => exact hd

end Counts

/-! ## Exclusive runs -/

/-- The history ends with a dedupe search of the model without hits, at most the clock after it. -/
def searchedLast (m : String) (past : List EsEvent) : Bool :=
  match past.reverse with
  | ⟨.search q, .ok [], _, _⟩ :: _ => q == existingQuery m
  | ⟨.now, _, _, _⟩ :: ⟨.search q, .ok [], _, _⟩ :: _ => q == existingQuery m
  | _ => false

/-- The model of an `enqueue` that has found no active entry and not added its own yet. -/
def deduping (th : QueueThread) : Option String :=
  match th.call with
  | .enqueue m _ _ _ _ => if searchedLast m th.past then some m else none
  | _ => none

/-- The request that a call waits for. -/
def pendingOp : QueueThread → Option EsOp
  | ⟨_, _, .await o _⟩ => some o
  | _ => none

/-- Some call other than the `i`-th is deduping the model. -/
def dedupingElsewhere (cfg : QueueCfg) (i : ℕ) (m : String) : Bool :=
  (List.range cfg.threads.length).any fun j =>
    j != i && (cfg.threads[j]?).bind deduping == some m

/-- The move makes no entry of a model active while another call is deduping the model, and queues a
failed entry again only while its model has no active entry. -/
def exclusive (cfg : QueueCfg) : Move QueueCall EsChoice ℕ → Bool
  | .invoke c => !c.writesStatus
  | .pass _ => true
  | .serve i _ =>
    match (cfg.threads[i]?).bind pendingOp with
    | some (.index d) => !dedupingElsewhere cfg i d.modelId
    | some (.update id (.requeueFailedEntries _)) => (cfg.world.doc id).all fun d =>
      d.status != .failed ||
        (activeCount d.modelId cfg.world == 0 && !dedupingElsewhere cfg i d.modelId)
    | _ => true

/-- What exclusive runs keep. -/
structure Deduped (cfg : QueueCfg) : Prop where
  one : ∀ m, activeCount m cfg.world ≤ 1
  deduping : ∀ th ∈ cfg.threads, ∀ m, deduping th = some m → activeCount m cfg.world = 0

theorem not_dedupingElsewhere {cfg : QueueCfg} {i j : ℕ} {m : String} {th : QueueThread}
    (h : dedupingElsewhere cfg i m = false) (hj : cfg.threads[j]? = some th) (hne : j ≠ i) :
    Benchmarker.deduping th ≠ some m := by
  intro hd
  have hlt : j < cfg.threads.length := (List.getElem?_eq_some_iff.mp hj).1
  simp only [dedupingElsewhere, List.any_eq_false, List.mem_range] at h
  have := h j hlt
  rw [hj, Option.bind_some, hd] at this
  simp [hne] at this

theorem deduping_of_endsWithSearch {th : QueueThread} {m : String} {s : Source} {p : Option ℤ}
    {r : Option String} {md : Option EntryMetadata} (hc : th.call = .enqueue m s p r md)
    (h : EndsWithSearch th.past m) : deduping th = some m := by
  obtain ⟨es, now, u, v, pre, post, hpast⟩ := h
  simp [deduping, hc, searchedLast, hpast]

/-- A call that is deduping after an event has just searched, or was deduping and looked at the
clock. -/
theorem deduping_snoc {c : QueueCall} {past : List EsEvent} {e : EsEvent}
    {p q : Prog EsAns (QueueRet c)} {m : String}
    (h : deduping ⟨c, past ++ [e], p⟩ = some m) :
    (∃ u v, e = ⟨.search (existingQuery m), .ok [], u, v⟩) ∨
      (e.op = .now ∧ deduping ⟨c, past, q⟩ = some m) := by
  cases c with
  | enqueue m' s pr r md =>
    simp only [deduping, searchedLast, List.reverse_append, List.reverse_cons, List.reverse_nil,
      List.nil_append, List.singleton_append, Option.ite_none_right_eq_some, Option.some.injEq] at h
    obtain ⟨h, rfl⟩ := h
    split at h
    · rename_i heq
      obtain ⟨rfl, -⟩ := List.cons.inj heq
      rw [beq_iff_eq.mp h]
      exact .inl ⟨_, _, rfl⟩
    · rename_i heq
      obtain ⟨rfl, hrev⟩ := List.cons.inj heq
      simp only [deduping, searchedLast, hrev]
      exact .inr ⟨trivial, if_pos h⟩
    · cases h
  | _ => simp [deduping] at h

section Exclusive

variable {cfg cfg' : QueueCfg} {i : ℕ} {c : QueueCall} {past : List EsEvent} {o : EsOp}
variable {w' : EsWorld} {ch : EsChoice}

/-- **A served request of an exclusive run** makes an entry of a model active only when the model
has none and no other call is deduping it. -/
theorem activeCount_request (hd : Deduped cfg) (hs : Sends c past o) (hc : c.writesStatus = false)
    {k : EsAns o → Prog EsAns _} (hi : cfg.threads[i]? = some ⟨c, past, .await o k⟩)
    (hex : exclusive cfg (.serve i ch) = true) (heff : Effect cfg.world o w') (m : String) :
    activeCount m w' ≤ activeCount m cfg.world ∨
      (activeCount m w' ≤ 1 ∧ dedupingElsewhere cfg i m = false ∧ o.reads = false) := by
  simp only [exclusive, hi, Option.bind_some, pendingOp] at hex
  cases heff with
  | none => exact .inl le_rfl
  | token => exact .inl le_rfl
  | script hfound happ =>
    rename_i id script s d
    have hput := activeCount_put (m := m) (d := d) hfound
    by_cases hact : activeFor m ⟨d, cfg.world.nextSeqNo, cfg.world.primaryTerm⟩ = true
    swap
    · rw [if_neg hact] at hput
      exact .inl (by omega)
    by_cases hr : script.requeues = true
    · cases script <;> cases hr
      simp only [Script.apply, Option.ite_none_right_eq_some, Option.some.injEq] at happ
      obtain ⟨hf, rfl⟩ := happ
      obtain ⟨hm, -⟩ : (m == s.source.modelId) = true ∧ _ := Bool.and_eq_true_iff.mp hact
      obtain rfl : m = s.source.modelId := by simpa using hm
      simp only [doc_of_docs hfound, Option.all_some, hf, bne_self_eq_false, Bool.false_or, Bool.and_eq_true, beq_iff_eq,
        Bool.not_eq_true'] at hex
      rw [if_pos hact] at hput
      exact .inr ⟨by omega, hex.2, rfl⟩
    · have hw : script.writesStatus = false := by
        by_contra hw
        rw [hs.writesStatus (by simpa using hw)] at hc
        cases hc
      rw [if_pos hact, if_pos (Script.activeFor_apply happ hw (by simpa using hr) hact)] at hput
      exact .inl (by omega)
  | doc hfound hne =>
    rename_i id doc s
    obtain ⟨tc, g, now, -, -, rfl, -⟩ := hs.updateDoc_inv
    have hput := activeCount_put (m := m)
      (d := (terminalDoc tc.status tc.message now).merge s.source) hfound
    have hterm : activeFor m ⟨(terminalDoc tc.status tc.message now).merge s.source,
        cfg.world.nextSeqNo, cfg.world.primaryTerm⟩ = false := by
      simp [activeFor, PartialDoc.merge, terminalDoc, tc.status_terminal]
    rw [hterm] at hput
    exact .inl (by simp only [Bool.false_eq_true, if_false] at hput; omega)
  | index d =>
    obtain ⟨m', src, p, rq, md, now, rfl, rfl, hsearch⟩ := hs.index_inv
    have hadd := activeCount_add (w := cfg.world) (m := m) (d := enqueueDoc m' src p rq md now)
    by_cases hm : m = m'
    · subst hm
      have hzero := hd.deduping _ (List.mem_of_getElem? hi) m (deduping_of_endsWithSearch rfl hsearch)
      refine .inr ⟨?_, by simpa [enqueueDoc] using hex, rfl⟩
      rw [hadd, hzero]
      split <;> omega
    · have hother : activeFor m ⟨enqueueDoc m' src p rq md now, cfg.world.nextSeqNo,
          cfg.world.primaryTerm⟩ = false := by simp [activeFor, enqueueDoc, hm]
      rw [hother] at hadd
      exact .inl hadd.le

theorem deduped_move (hr : queueSystem.Reach (fun cfg m => exclusive cfg m = true) {} cfg)
    {m : Move QueueCall EsChoice ℕ} (hex : exclusive cfg m = true)
    (hm : queueSystem.move cfg m = some cfg') (hd : Deduped cfg) : Deduped cfg' := by
  cases m with
  | invoke c =>
    obtain ⟨-, rfl⟩ := move_invoke.mp hm
    refine ⟨hd.one, fun th hth m hded => ?_⟩
    rcases List.mem_append.mp hth with hth | hth
    · exact hd.deduping th hth m hded
    · obtain rfl := List.mem_singleton.mp hth
      cases c <;> simp [deduping, System.fresh, searchedLast] at hded
  | pass t =>
    obtain rfl := move_pass.mp hm
    exact ⟨hd.one, hd.deduping⟩
  | serve i ch =>
    obtain ⟨c, past, o, k, r, w', hi, hsv, rfl⟩ := move_serve.mp hm
    have hth := List.mem_of_getElem? hi
    have hs : Sends c past o := hr.issues (fun c => queueService_sends c []) hth
    have hc : c.writesStatus = false :=
      hr.calls (q := fun c => c.writesStatus = false) (by simp [exclusive])
        (by simp [queueSystem, esSystem]) _ hth
    have heff : Effect cfg.world o w' := serve_effect hsv
    have hcount := activeCount_request hd hs hc hi hex heff
    refine ⟨fun m => ?_, fun th hth' m hded => ?_⟩
    · rcases hcount m with hle | ⟨hle, -⟩
      · exact hle.trans (hd.one m)
      · exact hle
    have hforks : queueSystem.forks c o = [] := rfl
    rw [hforks, List.map_nil, List.append_nil] at hth'
    rcases mem_set_cases hth' with rfl | ⟨j, hne, hj⟩
    · rcases deduping_snoc (q := .await o k) hded with ⟨u, v, he⟩ | ⟨ho, hold⟩
      · cases he
        obtain rfl : w' = cfg.world := heff.eq_of_reads rfl
        exact activeCount_of_search hsv
      · obtain rfl : o = .now := ho
        obtain rfl : w' = cfg.world := heff.eq_of_reads rfl
        exact hd.deduping _ hth m hold
    · have hzero := hd.deduping th (List.mem_of_getElem? hj) m hded
      rcases hcount m with hle | ⟨-, helse, -⟩
      · exact Nat.le_zero.mp (hzero ▸ hle)
      · exact absurd hded (not_dedupingElsewhere helse hj hne)

/-- **One active entry per model**, along every exclusive run from the empty index. -/
theorem active_unique (h : queueSystem.Reach (fun cfg m => exclusive cfg m = true) {} cfg) (m : String) :
    activeCount m cfg.world ≤ 1 := by
  have hd : Deduped cfg := by
    induction h with
    | init => exact ⟨fun m => Nat.zero_le 1, by simp⟩
    | move mv hr hex hm ih => exact deduped_move hr hex hm ih
  exact hd.one m

/-- Two calls queue one model, one after the other; the second finds the first entry. -/
def enqueueInTurn : List (Move QueueCall EsChoice ℕ) :=
  [.invoke (.enqueue "m" .user none none none), .invoke (.enqueue "m" .discovery none none none),
    .serve 0 (.hits []), .serve 0 .ok, .serve 0 .ok, .serve 1 (.hits [0])]

theorem enqueueInTurn_unique : ∃ cfg, queueSystem.run exclusive enqueueInTurn ⟨{}, []⟩ = some cfg ∧
    activeCount "m" cfg.world = 1 ∧ ∀ m, activeCount m cfg.world ≤ 1 := by
  have hrun : ((queueSystem.run exclusive enqueueInTurn ⟨{}, []⟩).map fun cfg =>
      activeCount "m" cfg.world) = some 1 := by decide +kernel
  obtain ⟨cfg, hcfg, hcount⟩ := Option.map_eq_some_iff.mp hrun
  exact ⟨cfg, hcfg, hcount, active_unique (reach_of_run hcfg)⟩

end Exclusive

end Benchmarker
