import Mathlib.Data.List.Infix
import Benchmarker.Fleet.Adoption
import Benchmarker.Scheduler.Parts
import Benchmarker.Scheduler.Settle

/-!
# Failures that have been handled

`failEntry` marks an entry as failed and, when it retries, enqueues another entry for the model. The
failed entry stays in the index, with the retry noted at the end of its error message, and the sweep of
the maintenance tick reads that message for its category only.

* `SweepsEnded`: the sweep re-enqueues neither a failure that was retried nor one of a model that has
  completed since.
* `Handles`, **`handles_entryTask`**, **`retried_tagged`**: a retry is enqueued right after the failure was
  written with the note of it.
* **`sweeps_ended`**: the property, in runs in which the sweeps find ended failures only.
  **`sweeps_handled`**: a failure is re-enqueued whose retry has completed.
-/

namespace Benchmarker

open Js Async Async.Prog Async.System EsWorld

/-! ## What `failEntry` has done -/

/-- What the error message of a failure that is retried contains. -/
def retryTag : String := " (auto-retry "

/-- The text is noted as retried. -/
def Tagged (message : String) : Prop := retryTag.toList <:+: message.toList

instance (message : String) : Decidable (Tagged message) :=
  inferInstanceAs (Decidable (retryTag.toList <:+: message.toList))

theorem tagged_statusMessage {deps : SchedulerDeps} {entry : QueueEntry} {message : String}
    (h : willRetry deps entry message = true) : Tagged (statusMessage deps entry message) := by
  have hinfix : ∀ a t b c d e : List Char, t <:+: a ++ t ++ b ++ c ++ d ++ e := fun a t b c d e =>
    ⟨a, b ++ c ++ d ++ e, by simp only [List.append_assoc]⟩
  unfold Tagged statusMessage retryTag
  rw [if_pos h]
  simp only [String.toList_append]
  exact hinfix _ _ _ _ _ _

/-- The event writes the failure of the entry `id` with a message that notes a retry. -/
def WritesTagged (id : ℕ) (e : SchedEvent) : Prop :=
  ∃ message u v, Tagged message ∧
    (e = ⟨.queue (.updateStatus id .failed (some message) none), .ok true, u, v⟩ ∨
      ∃ token result, result.applied = true ∧
        e = ⟨.queue (.terminal (.fail id message token)), .ok result, u, v⟩)

/-- Something is enqueued only right after the failure of the entry was written with the note of it. -/
def Handles (entry : QueueEntry) (past : List SchedEvent) (o : SchedOp) : Prop :=
  o.kind = .enqueue → ∃ past₀ e rest, past = past₀ ++ e :: rest ∧ WritesTagged entry.id e ∧
    ∀ x ∈ rest, ∀ c, x.op ≠ .queue c

section Handles

variable {deps : SchedulerDeps} {entry : QueueEntry} {leaseToken : Option String} {α : Type}
variable {past : List SchedEvent} {message : String}

/-- The body calls no method of the queue service. -/
abbrev QueueFree (x : SchedJs α) : Prop := x.run.Uses fun o => ∀ c, o ≠ .queue c

theorem queueFree_own {a : OwnOp} : QueueFree (own a) := uses_lift (uses_request.mpr (by simp))

theorem queueFree_clock : QueueFree clock := uses_lift (uses_request.mpr (by simp))

theorem queueFree_extFire {x : ExtOp} : QueueFree (extFire x) :=
  uses_throws_bind (uses_attempt (uses_request.mpr (by simp))) fun _ => uses_throws_pure _

theorem queueFree_isModelCooldown {modelId : String} : QueueFree (isModelCooldown modelId) := by
  refine uses_throws_bind queueFree_clock fun now => uses_throws_bind queueFree_own fun p => ?_
  obtain ⟨active, expired⟩ := p
  cases expired with
  | false => exact uses_throws_pure _
  | true => exact uses_throws_bind queueFree_extFire fun _ => uses_throws_pure _

theorem queueFree_recordModelFailure {modelId errorType : String} :
    QueueFree (recordModelFailure modelId errorType) := by
  refine uses_throws_bind queueFree_clock fun now => uses_throws_bind queueFree_own fun r => ?_
  cases r with
  | none => exact uses_throws_pure _
  | some p => exact queueFree_extFire

theorem queueFree_quarantine {modelId : String} {category : FailureCategory} :
    QueueFree (quarantine modelId category) := by
  refine uses_throws_bind queueFree_isModelCooldown fun active => uses_ite (uses_throws_pure _) ?_
  exact uses_throws_bind queueFree_clock fun now => uses_throws_bind queueFree_own fun _ => queueFree_extFire

/-- A body that enqueues nothing. -/
theorem handles_of_uses {p : Prog SchedAns α} (h : p.Uses fun o => o.kind ≠ .enqueue) :
    p.Issues (Handles entry) past := (h.issues past).mono fun _ _ hne heq => absurd heq hne

theorem QueueFree.handles {x : SchedJs α} (h : QueueFree x) : x.run.Issues (Handles entry) past := by
  refine handles_of_uses (Uses.mono h fun o ho hk => ?_)
  cases o with
  | queue c => exact ho c rfl
  | ext x => cases x <;> simp at hk
  | own a => cases a <;> simp at hk
  | _ => simp at hk

/-- What an applied terminal write has been answered. -/
theorem runs_writeTerminal_applied {id : ℕ} {es : List SchedEvent}
    (h : (writeTerminal id .failed (some message) leaseToken).run.Runs es (.ok true)) (ht : Tagged message) :
    ∃ e, es = [e] ∧ WritesTagged id e := by
  unfold writeTerminal at h
  split at h
  · obtain ⟨u, v, rfl⟩ := runs_queueCall.mp h
    exact ⟨_, rfl, message, u, v, ht, .inl rfl⟩
  · rename_i token _
    obtain ⟨es₁, es₂, result, rfl, h₁, h₂⟩ := runs_ok_bind.mp h
    obtain ⟨u, v, rfl⟩ := runs_queueCall.mp h₁
    obtain ⟨rfl, happ⟩ := runs_throws_pure.mp h₂
    exact ⟨_, rfl, message, u, v, ht, .inr ⟨token, result, Except.ok.inj happ, rfl⟩⟩

/-- **`failEntry` enqueues right after its write.** -/
theorem handles_failEntry : (failEntry deps entry message leaseToken).run.Issues (Handles entry) past := by
  have hwrite : Only [.write] (writeTerminal entry.id .failed (some (statusMessage deps entry message))
      leaseToken) := only_writeTerminal rfl
  rw [failEntry_eq]
  refine (handles_of_uses (Uses.mono hwrite fun o ho => ?_)).throws_bind fun es₁ applied h₁ => ?_
  · rw [List.mem_singleton.mp ho]
    decide
  cases applied with
  | false => exact issues_throws_pure _
  | true =>
    refine queueFree_recordModelFailure.handles.throws_bind fun es₂ _ h₂ => ?_
    have hretry : ∀ es₃, (∀ x ∈ es₃, ∀ c, x.op ≠ .queue c) →
        (if willRetry deps entry message = true then do
          let _ ← attempt (queueCall (retryCall entry (classifyFailure message).category))
          return ()
        else return () : SchedJs Unit).run.Issues (Handles entry) (past ++ es₁ ++ es₂ ++ es₃) := by
      intro es₃ hes₃
      split_ifs with hwill
      · refine Issues.throws_bind (issues_attempt (issues_request fun _ => ?_)) fun _ _ _ =>
          issues_throws_pure _
        obtain ⟨e, rfl, hw⟩ := runs_writeTerminal_applied h₁ (tagged_statusMessage hwill)
        refine ⟨past, e, es₂ ++ es₃, by simp, hw, fun x hx => ?_⟩
        rcases List.mem_append.mp hx with hx | hx
        · exact queueFree_recordModelFailure.events h₂ x hx
        · exact hes₃ x hx
      · exact issues_throws_pure _
    by_cases hretriable : (classifyFailure message).retriable = true
    · have h := hretry [] (by simp)
      rw [List.append_nil] at h
      simpa [hretriable] using h
    · have h : (quarantine entry.modelId (classifyFailure message).category >>= fun _ =>
          (if willRetry deps entry message = true then do
            let _ ← attempt (queueCall (retryCall entry (classifyFailure message).category))
            return ()
          else return () : SchedJs Unit)).run.Issues (Handles entry) (past ++ es₁ ++ es₂) :=
        queueFree_quarantine.handles.throws_bind fun es₃ _ h₃ => hretry es₃ (queueFree_quarantine.events h₃)
      simpa [hretriable] using h

/-- **`processEntry` enqueues right after it has written the failure.** -/
theorem handles_entryTask {resume : Bool} : (entryTask deps entry resume).run.Issues (Handles entry) [] := by
  refine built_entryTask.issues ?_ []
  intro α p hp past
  cases hp with
  | quiet h =>
    refine handles_of_uses (h.mono fun o ho hk => ?_)
    rw [hk] at ho
    revert ho
    decide
  | fails message leaseToken => exact handles_failEntry

end Handles

/-! ## What the index has been asked -/

/-- A request that writes the entry `id`. -/
def FleetOp.writesEntry (id : ℕ) : FleetOp → Bool
  | .es (.update i _) | .es (.updateDoc i _ _ _) => i == id
  | _ => false

/-- The event adds the entry `id` to the index. -/
def enqueues (id : ℕ) : FleetEvent → Bool
  | ⟨.es (.index _), .ok i, _, _⟩ => i == id
  | _ => false

/-- The history has written the entry `id` as `s` and then, before it wrote it again, has enqueued the
entry `id'`. -/
def RetriedAs (past : List FleetEvent) (id : ℕ) (s : Stored) (id' : ℕ) : Prop :=
  ∃ fs e es, past = fs ++ e :: es ∧ e.op.writesEntry id = true ∧ e.post.index.docs[id]? = some s ∧
    ∃ e' ∈ es.takeWhile (fun g => !g.op.writesEntry id), enqueues id' e' = true

/-- The stored failure notes a retry. -/
def Stored.Tagged (s : Stored) : Prop := ∃ message, s.source.errorMessage = some message ∧ Benchmarker.Tagged message

section Written

variable {id : ℕ} {gs : List FleetEvent} {w w' : EsWorld} {ch : EsChoice} {message : String} {now : Time}

theorem serve_failUpdate (ht : Tagged message)
    (h : serve (.update id (.updateStatus .failed now (some message) none)) ch w = some (.ok .updated, w')) :
    ∃ s, w'.docs[id]? = some s ∧ s.Tagged := by
  obtain ⟨s, hs, ⟨hno, -⟩ | ⟨d, -, happly, rfl⟩⟩ := serve_update_ok h
  · cases hno
  · rw [Script.apply, if_pos (by rfl)] at happly
    obtain rfl := Option.some.inj happly
    exact ⟨_, by rw [docs_put_getElem? id hs, if_pos rfl], message, rfl, ht⟩

theorem serve_failDoc {n p : ℕ} {r : UpdateResult} (ht : Tagged message)
    (h : serve (.updateDoc id (terminalDoc .failed (some message) now) n p) ch w = some (.ok r, w')) :
    ∃ s, w'.docs[id]? = some s ∧ s.Tagged := by
  obtain ⟨s, hs, -, rfl⟩ := serve_updateDoc_ok h
  by_cases hsame : (terminalDoc .failed (some message) now).merge s.source = s.source
  · rw [if_pos hsame]
    exact ⟨s, hs, message, by rw [← hsame]; rfl, ht⟩
  · rw [if_neg hsame]
    exact ⟨_, by rw [docs_put_getElem? id hs, if_pos rfl], message, rfl, ht⟩

/-- A history that writes a failure ends with the write, and leaves the note of the retry. -/
def EndsTagged (id : ℕ) (gs : List FleetEvent) : Prop :=
  ∃ gs₁ g, gs = gs₁ ++ [g] ∧ g.op.writesEntry id = true ∧ ∀ host ch,
    serveFleet host g.op ch g.pre = some (g.ans, g.post) → ∃ s, g.post.index.docs[id]? = some s ∧ s.Tagged

theorem endsTagged_updateStatus (ht : Tagged message)
    (h : (ofQueue (updateStatus id .failed (some message) none)).run.Runs gs (.ok true)) :
    EndsTagged id gs := by
  rw [updateStatus, ofQueue_bind] at h
  obtain ⟨gs₁, gs₂, now, rfl, h₁, h₂⟩ := runs_ok_bind.mp h
  rw [ofQueue_bind] at h₂
  obtain ⟨gs₃, gs₄, res, rfl, h₃, h₄⟩ := runs_ok_bind.mp h₂
  obtain ⟨u, v, rfl⟩ := runs_atIndex.mp h₃
  obtain ⟨rfl, hres⟩ := runs_throws_pure.mp h₄
  obtain rfl : res = .updated := by
    cases res with
    | updated => rfl
    | noop => cases hres
  rw [List.append_nil]
  refine ⟨gs₁, _, rfl, beq_self_eq_true id, fun host ch hserve => ?_⟩
  obtain ⟨ch', hs, -⟩ := served_es.mp ⟨ch, hserve⟩
  exact serve_failUpdate ht hs

theorem endsTagged_terminal {token : String} {result : TerminalWrite} (ht : Tagged message)
    (happ : result.applied = true)
    (h : (ofQueue (queueService (.terminal (.fail id message token)))).run.Runs gs (.ok result)) :
    EndsTagged id gs := by
  have hruns := runs_ofQueue h
  obtain ⟨fs, id', doc, n, p, r, pre, post, hes⟩ := (runs_writeTerminalLoop hruns).1 happ
  have hsends := (queueService_sends (.terminal (.fail id message token)) []).mem_after hruns fs _ [] hes
  obtain ⟨tc, g, now, hcall, rfl, rfl, -⟩ := hsends.updateDoc_inv
  obtain rfl := QueueCall.terminal.inj hcall
  rcases List.eq_nil_or_concat gs with rfl | ⟨gs₁, g', rfl⟩
  · simp at hes
  · rw [List.concat_eq_append] at hes ⊢
    obtain ⟨e, he⟩ := (uses_ofQueue _).events h g' (by simp)
    obtain ⟨o, r', u, v⟩ := g'
    obtain rfl : o = .es e := he
    rw [List.filterMap_append] at hes
    obtain ⟨-, hlast⟩ := List.append_inj' hes rfl
    cases List.singleton_inj.mp hlast
    refine ⟨gs₁, _, rfl, beq_self_eq_true _, fun host ch hserve => ?_⟩
    obtain ⟨ch', hs, -⟩ := served_es.mp ⟨ch, hserve⟩
    exact serve_failDoc ht hs

theorem endsTagged_of_writesTagged {e : SchedEvent} (hw : WritesTagged id e)
    (h : (atDaemon e.op).Runs gs e.ans) : EndsTagged id gs := by
  obtain ⟨message, u, v, ht, rfl | ⟨token, result, happ, rfl⟩⟩ := hw
  · exact endsTagged_updateStatus ht h
  · exact endsTagged_terminal ht happ h

/-- The last element that satisfies a test. -/
theorem last_unique {α : Type} {p : α → Bool} {xs xs' ys ys' : List α} {x x' : α}
    (h : xs ++ x :: ys = xs' ++ x' :: ys') (hx : p x = true) (hx' : p x' = true)
    (hys : ∀ y ∈ ys, p y = false) (hys' : ∀ y ∈ ys', p y = false) : x = x' := by
  have hfind : ∀ {zs ws : List α} {z : α}, p z = true → (∀ y ∈ ws, p y = false) →
      (zs ++ z :: ws).reverse.find? p = some z := by
    intro zs ws z hz hws
    have hnone : ws.reverse.find? p = none :=
      List.find?_eq_none.mpr fun y hy => by rw [hws y (List.mem_reverse.mp hy)]; decide
    rw [List.reverse_append, List.reverse_cons, List.find?_append, List.find?_append, hnone]
    simp [hz]
  have heq : (xs ++ x :: ys).reverse.find? p = some x := hfind hx hys
  rw [h, hfind hx' hys'] at heq
  exact (Option.some.inj heq).symm

end Written

section Runs

variable {deps : ℕ → SchedulerDeps} {ok : FleetCfg → FleetMove → Prop} {w₀ : FleetWorld} {cfg : FleetCfg}

/-- What `processEntry` issues. -/
def FleetHandles : FleetCall → List FleetEvent → FleetOp → Prop
  | .sched _ (.processEntry entry _), past, o => Expanded atDaemon (Handles entry) past o
  | _, _, _ => True

theorem fleetHandles (c : FleetCall) :
    ((fleetSystem deps).start c).Issues (FleetHandles c) ([] : List FleetEvent) := by
  have htrue : ∀ {α : Type} (p : Prog FleetAns α), p.Issues (fun _ _ => True) ([] : List FleetEvent) :=
    fun p => (issues_after p []).mono fun _ _ _ => trivial
  cases c with
  | sched host c =>
    cases c with
    | processEntry entry resume => exact issues_sched {} handles_entryTask
    | _ => exact htrue _
  | _ => exact htrue _

/-- Only `enqueue` adds an entry, and it writes no other. -/
theorem enqueue_of_index {c : QueueCall} {gs : List FleetEvent} {d : EsSource}
    {k : FleetAns (.es (.index d)) → Prog FleetAns (QueueRet c)}
    (h : (ofQueue (queueService c)).run.After gs (.await (.es (.index d)) k)) :
    (SchedOp.queue c).kind = .enqueue ∧ ∀ g ∈ gs, ∀ id, g.op.writesEntry id = false := by
  have hindex : (ofQueue (queueService c)).run.Uses fun o => ∀ e, o = .es e → ∀ d, e = .index d →
      ∃ m s p r md, c = .enqueue m s p r md := by
    refine uses_queueService c ?_
    rintro past o hsend d rfl
    obtain ⟨m, s, p, r, md, -, hc, -⟩ := hsend.index_inv
    exact ⟨m, s, p, r, md, hc⟩
  obtain ⟨m, s, p, r, md, rfl⟩ := (hindex.after h).1 _ rfl d rfl
  have hwrites : (ofQueue (queueService (.enqueue m s p r md))).run.Uses fun o => ∀ e, o = .es e →
      ∀ id, (FleetOp.es e).writesEntry id = false := by
    refine uses_queueService _ ?_
    rintro past o hsend id
    cases hsend with
    | read hreads => cases o <;> first | rfl | cases hreads
    | draw hdraw => rfl
    | index now hsearched => rfl
    | reclaimEntry hreclaims => cases hreclaims
    | cancel hcancels => cases hcancels
  refine ⟨by simp, fun g hg id => ?_⟩
  obtain ⟨e, he⟩ := (uses_ofQueue _).events h g hg
  rw [he]
  exact hwrites.events h g hg e he id

/-- **A failure that was retried notes it**, as it stood when the retry was enqueued. -/
theorem retried_tagged (h : (fleetSystem deps).Reach ok w₀ cfg) {th : FleetThread} (hth : th ∈ cfg.threads)
    {host : ℕ} {entry : QueueEntry} {resume : Bool} (hcall : th.call = .sched host (.processEntry entry resume))
    {s : Stored} {id' : ℕ} (hretried : RetriedAs th.past entry.id s id') : s.Tagged := by
  obtain ⟨fs, e, es, hpast, hwrites, hs, e', he', henq⟩ := hretried
  obtain ⟨gs, hs', htake⟩ := List.append_of_mem he'
  have hgs : ∀ g ∈ gs, g.op.writesEntry entry.id = false := by
    have hall : (gs ++ e' :: hs').all (fun g => !g.op.writesEntry entry.id) = true := htake ▸ List.all_takeWhile
    intro g hg
    simpa using List.all_eq_true.mp hall g (List.mem_append_left _ hg)
  obtain ⟨later, hes⟩ : ∃ later, es = gs ++ e' :: later := by
    refine ⟨hs' ++ es.dropWhile fun g => !g.op.writesEntry entry.id, ?_⟩
    rw [← List.cons_append, ← List.append_assoc, ← htake, List.takeWhile_append_dropWhile]
  -- what the retry was issued after
  obtain ⟨d, hop⟩ : ∃ d, e'.op = .es (.index d) := by
    obtain ⟨o, r, u, v⟩ := e'
    unfold enqueues at henq
    split at henq
    · rename_i heq
      cases heq
      exact ⟨_, rfl⟩
    · cases henq
  have hissued := h.issued fleetHandles th hth (fs ++ e :: gs) e' later (by rw [hpast, hes]; simp)
  rw [hcall, hop] at hissued
  obtain ⟨es₁, o, fs₁, gs₁, k, hhandles, hexp, hsplit, hafter⟩ := hissued
  obtain ⟨c, rfl⟩ : ∃ c, o = .queue c := by
    cases o with
    | queue c => exact ⟨c, rfl⟩
    | _ =>
      obtain ⟨-, heq⟩ := after_request hafter
      cases heq
  obtain ⟨hkind, hgs₁⟩ := enqueue_of_index hafter
  obtain ⟨past₀, x, rest, rfl, hx, hrest⟩ := hhandles hkind
  obtain ⟨a, b, rfl, -, hexp₁⟩ := expansion_append hexp
  obtain ⟨b₁, b₂, rfl, hexp₂, hexp₃⟩ := expansion_append (show Expansion atDaemon ([x] ++ rest) b from hexp₁)
  obtain ⟨b₀, g, rfl, hg, hleaves⟩ := endsTagged_of_writesTagged hx (expansion_singleton hexp₂)
  have hfree : ∀ o : SchedOp, (∀ c, o ≠ .queue c) →
      (atDaemon o).Uses fun o => o.writesEntry entry.id = false := by
    intro o ho
    cases o with
    | queue c => exact absurd rfl (ho c)
    | _ => exact uses_request.mpr rfl
  have hb₂ := expansion_events hfree hexp₃ hrest
  -- both writes are the last one of the history
  have hsame : fs ++ e :: gs = (a ++ b₀) ++ g :: (b₂ ++ gs₁) := by
    rw [hsplit]
    simp
  have heq : e = g := by
    refine last_unique (p := fun y => y.op.writesEntry entry.id) hsame hwrites hg hgs fun y hy => ?_
    rcases List.mem_append.mp hy with hy | hy
    · exact hb₂ y hy
    · exact hgs₁ y hy entry.id
  obtain ⟨ch, hserved⟩ := h.served th hth e (by rw [hpast]; simp)
  subst heq
  obtain ⟨s', hs', htag⟩ := hleaves _ ch hserved
  obtain rfl := Option.some.inj (hs.symm.trans hs')
  exact htag

end Runs

/-! ## The property -/

/-- The event moves the failed entry `id`, stored as `s`, back to `pending`. -/
def Requeued (e : FleetEvent) (id : ℕ) (s : Stored) : Prop :=
  (∃ now, e.op = .es (.update id (.requeueFailedEntries now))) ∧ e.pre.index.docs[id]? = some s ∧
    s.source.status = .failed ∧ (e.post.index.doc id).any (·.status = .pending) = true

/-- The entry `d'` is of the same model as `d` and has been completed later. -/
def completedAfter (d d' : EsSource) : Bool :=
  decide (d'.modelId = d.modelId) && decide (d'.status = .completed) &&
    d.completedAt.any fun t => d'.completedAt.any fun t' => decide (t < t')

/-- No sweep re-enqueues a failure for which `failEntry` has enqueued a retry. -/
def SkipsRetried (cfg : FleetCfg) : Prop :=
  ∀ th ∈ cfg.threads, ∀ config, th.call = .runOnce config → ∀ e ∈ th.past, ∀ id s, Requeued e id s →
    ∀ th' ∈ cfg.threads, ∀ host entry resume, th'.call = .sched host (.processEntry entry resume) →
      entry.id = id → ∀ id', RetriedAs th'.past id s id' → e.pre.index.doc id' = none

/-- No sweep re-enqueues a failure of a model that has been completed since. -/
def SkipsCompleted (cfg : FleetCfg) : Prop :=
  ∀ th ∈ cfg.threads, ∀ config, th.call = .runOnce config → ∀ e ∈ th.past, ∀ id s, Requeued e id s →
    ∀ id' d', e.pre.index.doc id' = some d' → completedAfter s.source d' = false

/-- Sweeps re-enqueue only failures whose chain of retries has ended. -/
structure SweepsEnded (cfg : FleetCfg) : Prop where
  unretried : SkipsRetried cfg
  uncompleted : SkipsCompleted cfg

/-- The failure notes no retry, and no entry of its model has been completed since. -/
def ended (w : EsWorld) (d : EsSource) : Bool :=
  d.errorMessage.all (fun message => !decide (Tagged message)) &&
    w.docs.all fun s => !completedAfter d s.source

/-- The sweep would run the failure again. -/
def retriable (d : EsSource) : Bool := (classifyFailure (d.errorMessage.getD "")).retriable

/-- The index that a search has read. -/
def searchedIn : FleetEvent → Option EsWorld
  | ⟨.es (.search _), _, u, _⟩ => some u.index
  | _ => none

/-- No entry of the model has been written between `w` and `w'`. -/
def untouched (modelId : String) (w w' : EsWorld) : Bool :=
  (List.range w'.docs.length).all fun i =>
    (w'.doc i).all fun d => decide (d.modelId ≠ modelId) || decide (w.docs[i]? = w'.docs[i]?)

/-- When a sweep searches the failed entries, every retriable one in its window has ended; and when it
re-enqueues an entry, no entry of that model has been written since its search. -/
def sweepsInPeace (cfg : FleetCfg) : FleetMove → Bool
  | .serve i _ =>
    match cfg.threads[i]? with
    | some ⟨.runOnce _, _, .await (.es (.search q)) _⟩ => cfg.world.index.docs.all fun s =>
        !q.matches s.source || !retriable s.source || ended cfg.world.index s.source
    | some ⟨.runOnce _, past, .await (.es (.update id (.requeueFailedEntries _))) _⟩ =>
      (past.findSome? searchedIn).all fun w =>
        (cfg.world.index.doc id).all fun d => untouched d.modelId w cfg.world.index
    | _ => true
  | _ => true

/-! ## What a sweep has found -/

section Found

variable {past : List FleetEvent} {α : Type}

/-- The first search of the history has returned the entry `id` as a retriable failure. -/
def FoundFailed (past : List FleetEvent) (id : ℕ) : Prop :=
  ∃ fs q hits u v gs hit, past = fs ++ ⟨.es (.search q), .ok hits, u, v⟩ :: gs ∧
    (∀ f ∈ fs, searchedIn f = none) ∧ hit ∈ hits ∧ hit.id = id ∧ retriable hit.source = true

/-- A sweep re-enqueues what it has found. -/
def Finds (past : List FleetEvent) (o : FleetOp) : Prop :=
  ∀ id now, o = .es (.update id (.requeueFailedEntries now)) → FoundFailed past id

theorem finds_of_uses {p : Prog FleetAns α}
    (h : p.Uses fun o => ∀ id now, o ≠ .es (.update id (.requeueFailedEntries now))) :
    p.Issues Finds past := (h.issues past).mono fun _ _ hne id now heq => absurd heq (hne id now)

/-- Only `requeueFailedEntries` moves an entry back, and only one of its list. -/
theorem uses_requeue (c : QueueCall) : (ofQueue (queueService c)).run.Uses fun o => ∀ e, o = .es e →
    ∀ id now, e = .update id (.requeueFailedEntries now) → ∃ ids, c = .requeueFailedEntries ids ∧ id ∈ ids := by
  refine uses_queueService c ?_
  rintro past o hsend id now rfl
  cases hsend with
  | read hreads => cases hreads
  | requeue hlisted => exact ⟨_, rfl, hlisted⟩

theorem finds_ofQueue {c : QueueCall} (h : ∀ ids, c ≠ .requeueFailedEntries ids) :
    (ofQueue (queueService c)).run.Issues Finds past := by
  refine finds_of_uses ((uses_requeue c).mono fun o ho id now heq => ?_)
  obtain ⟨ids, hc, -⟩ := ho _ heq id now rfl
  exact h ids hc

theorem finds_loadActiveModelCooldowns : (attempt loadActiveModelCooldowns).run.Issues Finds past := by
  refine finds_of_uses (uses_attempt (uses_throws_bind (uses_attempt (uses_request.mpr nofun)) fun r => ?_))
  cases r with
  | ok found => exact uses_throws_pure _
  | error err => exact uses_ite (uses_throws_pure _) (uses_throw _)

theorem runs_ofQueue_findFailed {before : Time} {limit : ℕ} {es : List FleetEvent} {failed : List QueueEntry}
    (h : (ofQueue (findFailedEntries before limit)).run.Runs es (.ok failed)) : ∃ q hits u v,
      es = [⟨.es (.search q), .ok hits, u, v⟩] ∧ failed = hits.map fun hit => toEntry hit.id hit.source := by
  rw [findFailedEntries, ofQueue_bind] at h
  obtain ⟨es₁, es₂, hits, rfl, h₁, h₂⟩ := runs_ok_bind.mp h
  obtain ⟨u, v, rfl⟩ := runs_atIndex.mp h₁
  obtain ⟨rfl, hfailed⟩ := runs_throws_pure.mp h₂
  exact ⟨_, hits, u, v, rfl, (Except.ok.inj hfailed).symm⟩

/-- **A sweep re-enqueues retriable failures that its search has returned.** -/
theorem finds_runOnce (config : MaintenanceConfig) : (runOnce config).run.Issues Finds [] := by
  have hnow : (ExceptT.lift (atIndex .now) : FleetJs Time).run.Issues Finds [] :=
    finds_of_uses (uses_lift (uses_request.mpr nofun))
  refine Issues.throws_bind (x := ofQueue dateNow) hnow fun es₁ nowMs h₁ => ?_
  obtain ⟨u₁, v₁, rfl⟩ := runs_ofQueue_dateNow h₁
  unfold sweepDlq
  split_ifs with hoff
  · exact issues_throws_pure _
  refine Issues.throws_bind (finds_ofQueue (c := .findFailedEntries _ _) nofun) fun es₂ failed h₂ => ?_
  obtain ⟨q, hits, u, v, rfl, rfl⟩ := runs_ofQueue_findFailed h₂
  refine finds_loadActiveModelCooldowns.throws_bind fun es₅ active _ => ?_
  dsimp only
  split_ifs with hnone
  · exact issues_throws_pure _
  refine ((uses_requeue (.requeueFailedEntries _)).issues_from _).mono ?_
  rintro past o ⟨ho, gs, rfl⟩ id now rfl
  obtain ⟨ids, hc, hid⟩ := ho _ rfl id now rfl
  obtain rfl := QueueCall.requeueFailedEntries.inj hc
  -- the candidates are hits of the search
  obtain ⟨entry, hentry, rfl⟩ := List.mem_map.mp hid
  have hcand := List.mem_of_mem_take hentry
  obtain ⟨hmem, -⟩ := List.mem_filter.mp hcand
  obtain ⟨hmem, hretriable⟩ := List.mem_filter.mp hmem
  obtain ⟨hit, hhit, rfl⟩ := List.mem_map.mp hmem
  refine ⟨[⟨.es .now, nowMs, u₁, v₁⟩], q, hits, u, v, es₅ ++ gs, hit, ?_, by simp [searchedIn], hhit, rfl,
    hretriable⟩
  rw [List.append_assoc]
  rfl

end Found

section Sweeps

variable {deps : ℕ → SchedulerDeps} {ok : FleetCfg → FleetMove → Prop} {w₀ : FleetWorld} {cfg : FleetCfg}

/-- What the maintenance ticks issue. -/
def FleetFinds : FleetCall → List FleetEvent → FleetOp → Prop
  | .runOnce _, past, o => Finds past o
  | _, _, _ => True

theorem fleetFinds (c : FleetCall) :
    ((fleetSystem deps).start c).Issues (FleetFinds c) ([] : List FleetEvent) := by
  cases c with
  | runOnce config => exact finds_runOnce config
  | _ => exact (issues_after _ []).mono fun _ _ _ => trivial

/-- Every hit is a stored document that matches the query. -/
theorem serve_search_match {q : Query} {ch : EsChoice} {w w' : EsWorld} {hits : List Hit}
    (h : serve (.search q) ch w = some (.ok hits, w')) {hit : Hit} (hhit : hit ∈ hits) :
    ∃ s, w.docs[hit.id]? = some s ∧ s.source = hit.source ∧ q.matches s.source = true := by
  obtain ⟨-, ids, hperm, rfl⟩ := serve_search_ok h
  obtain ⟨hid, hdoc⟩ := mem_hits.mp (List.mem_of_mem_take hhit)
  obtain ⟨s, hs, hsource⟩ := doc_eq_some.mp hdoc
  have hmatches := mem_matching.mp (hperm.mem_iff.mp hid)
  rw [hdoc, ← hsource] at hmatches
  exact ⟨s, hs, hsource, hmatches⟩

theorem eq_of_untouched {m : String} {w w' : EsWorld} (h : untouched m w w' = true) {id : ℕ} {s : Stored}
    (hs : w'.docs[id]? = some s) (hm : s.source.modelId = m) : w.docs[id]? = some s := by
  have hlt : id < w'.docs.length := (List.getElem?_eq_some_iff.mp hs).1
  have hid := List.all_eq_true.mp h id (List.mem_range.mpr hlt)
  rw [doc_of_docs hs, hs] at hid
  simpa [hm] using hid

/-- **What a sweep re-enqueues has ended**, when it is left in peace. -/
theorem ended_of_requeued (h : (fleetSystem deps).Reach (fun cfg m => sweepsInPeace cfg m = true) w₀ cfg)
    {th : FleetThread} (hth : th ∈ cfg.threads) {config : MaintenanceConfig} (hcall : th.call = .runOnce config)
    {e : FleetEvent} (he : e ∈ th.past) {id : ℕ} {s : Stored} (hre : Requeued e id s) :
    ¬s.Tagged ∧ ∀ id' d', e.pre.index.doc id' = some d' → completedAfter s.source d' = false := by
  obtain ⟨⟨now, hop⟩, hs, -, -⟩ := hre
  obtain ⟨fs, gs, hpast⟩ := List.append_of_mem he
  obtain ⟨cfg₀, i, ch, k, hr, hok, hw, hi, -⟩ := h.admitted_at th hth fs e gs hpast
  obtain ⟨call, past, rest⟩ := th
  obtain ⟨o, r, pre, post⟩ := e
  dsimp only at hcall hop hw hs hi k ⊢
  subst hcall hop hw
  have hmem := List.mem_of_getElem? hi
  obtain ⟨fs₁, q, hits, u, v, gs₁, hit, rfl, hfirst, hhit, rfl, hretriable⟩ :=
    hr.issues fleetFinds hmem id now rfl
  -- the search has seen only failures that have ended
  obtain ⟨cfg₁, j, ch', k', -, hok₁, rfl, hj, hsv⟩ := hr.admitted_at _ hmem _ _ _ rfl
  obtain ⟨ch'', hserve, -⟩ := served_es.mp ⟨ch', hsv⟩
  obtain ⟨s₁, hs₁, hsource, hmatches⟩ := serve_search_match hserve hhit
  have hended : ended cfg₁.world.index s₁.source = true := by
    dsimp only [sweepsInPeace] at hok₁
    rw [hj] at hok₁
    dsimp only at hok₁
    have htest := List.all_eq_true.mp hok₁ s₁ (List.mem_of_getElem? hs₁)
    rw [hmatches, hsource, hretriable] at htest
    rw [hsource]
    exact htest
  -- and no entry of the model has been written since
  have hsame : untouched s.source.modelId cfg₁.world.index cfg₀.world.index = true := by
    have hnone : fs₁.findSome? searchedIn = none := List.findSome?_eq_none_iff.mpr hfirst
    dsimp only [sweepsInPeace] at hok
    rw [hi] at hok
    dsimp only at hok
    rw [List.findSome?_append, hnone, Option.none_or, doc_of_docs hs] at hok
    exact hok
  obtain rfl := Option.some.inj (hs₁.symm.trans (eq_of_untouched hsame hs rfl))
  obtain ⟨htag, hafter⟩ := Bool.and_eq_true_iff.mp hended
  refine ⟨?_, fun id' d' hd' => ?_⟩
  · rintro ⟨message, hm, ht⟩
    rw [hm] at htag
    simp [ht] at htag
  · obtain ⟨s', hs', rfl⟩ := doc_eq_some.mp hd'
    by_contra hno
    rw [Bool.not_eq_false] at hno
    have hmodel : s'.source.modelId = s₁.source.modelId := by
      unfold completedAfter at hno
      simp only [Bool.and_eq_true, decide_eq_true_eq] at hno
      exact hno.1.1
    have htest := List.all_eq_true.mp hafter s' (List.mem_of_getElem? (eq_of_untouched hsame hs' hmodel))
    rw [hno] at htest
    cases htest

/-- **Sweeps re-enqueue ended failures only**, in every run in which they are left in peace. -/
theorem sweeps_ended (h : (fleetSystem deps).Reach (fun cfg m => sweepsInPeace cfg m = true) w₀ cfg) :
    SweepsEnded cfg := by
  refine ⟨fun th hth config hcall e he id s hre th' hth' host entry resume hcall' hid id' hretried => ?_,
    fun th hth config hcall e he id s hre => (ended_of_requeued h hth hcall he hre).2⟩
  subst hid
  exact absurd (retried_tagged h hth' hcall' hretried) (ended_of_requeued h hth hcall he hre).1

end Sweeps

/-! ## Runs -/

/-- `RetriedAs`, decided for a history that begins with the write. -/
def retriesFrom (id : ℕ) (s : Stored) (id' : ℕ) : List FleetEvent → Bool
  | [] => false
  | e :: es => e.op.writesEntry id && decide (e.post.index.docs[id]? = some s) &&
      (es.takeWhile fun g => !g.op.writesEntry id).any (enqueues id')

theorem retriedAs_of_tails {past : List FleetEvent} {id id' : ℕ} {s : Stored}
    (h : past.tails.any (retriesFrom id s id') = true) : RetriedAs past id s id' := by
  obtain ⟨es, hes, htest⟩ := List.any_eq_true.mp h
  obtain ⟨fs, hpast⟩ := (List.mem_tails _ _).mp hes
  cases es with
  | nil => cases htest
  | cons e es =>
    simp only [retriesFrom, Bool.and_eq_true, decide_eq_true_eq] at htest
    obtain ⟨⟨hwrites, hs⟩, hany⟩ := htest
    obtain ⟨e', he', henq⟩ := List.any_eq_true.mp hany
    exact ⟨fs, e, es, hpast.symm, hwrites, hs, e', he', henq⟩

/-- The failed entry that the event moves back to `pending`. -/
def requeuedBy (e : FleetEvent) : Option (ℕ × Stored) :=
  match e.op with
  | .es (.update id (.requeueFailedEntries _)) =>
    ((e.pre.index.docs[id]?).filter fun s => decide (s.source.status = .failed) &&
      (e.post.index.doc id).any (·.status = .pending)).map fun s => (id, s)
  | _ => none

theorem requeued_of_requeuedBy {e : FleetEvent} {id : ℕ} {s : Stored} (h : requeuedBy e = some (id, s)) :
    Requeued e id s := by
  unfold requeuedBy at h
  split at h
  · rename_i id' now hop
    obtain ⟨s', hs', heq⟩ := Option.map_eq_some_iff.mp h
    obtain ⟨rfl, rfl⟩ := Prod.mk.inj heq
    obtain ⟨hs, htest⟩ := Option.filter_eq_some_iff.mp hs'
    obtain ⟨hfailed, hpending⟩ := Bool.and_eq_true_iff.mp htest
    exact ⟨⟨now, hop⟩, hs, of_decide_eq_true hfailed, hpending⟩
  · cases h

/-- The thread processes the entry and retries it as `id'` after it has written `s`. -/
def retriesThen (id : ℕ) (s : Stored) (id' : ℕ) (th : FleetThread) : Bool :=
  match th.call with
  | .sched _ (.processEntry entry _) => entry.id == id && th.past.tails.any (retriesFrom id s id')
  | _ => false

/-- A sweep re-enqueues a failure whose retry `id'` is in the queue and has been completed. -/
def resurrects (id' : ℕ) (cfg : FleetCfg) : Bool :=
  cfg.threads.any fun th => (match th.call with | .runOnce _ => true | _ => false) && th.past.any fun e =>
    (requeuedBy e).any fun p => cfg.threads.any (retriesThen p.1 p.2 id') &&
      (e.pre.index.doc id').any (completedAfter p.2.source)

theorem not_skips_of_resurrects {cfg : FleetCfg} {id' : ℕ} (h : resurrects id' cfg = true) :
    ¬SkipsRetried cfg ∧ ¬SkipsCompleted cfg := by
  obtain ⟨th, hth, htest⟩ := List.any_eq_true.mp h
  obtain ⟨hcall, hany⟩ := Bool.and_eq_true_iff.mp htest
  obtain ⟨config, hcall⟩ : ∃ config, th.call = .runOnce config := by
    split at hcall
    · exact ⟨_, ‹_›⟩
    · cases hcall
  obtain ⟨e, he, hre⟩ := List.any_eq_true.mp hany
  obtain ⟨⟨id, s⟩, hby, hboth⟩ := (Option.any_eq_true _ _).mp hre
  obtain ⟨hretries, hcompleted⟩ := Bool.and_eq_true_iff.mp hboth
  obtain ⟨d', hd', hafter⟩ := (Option.any_eq_true _ _).mp hcompleted
  have hrequeued := requeued_of_requeuedBy hby
  refine ⟨fun hskips => ?_, fun hskips => ?_⟩
  · obtain ⟨th', hth', hthen⟩ := List.any_eq_true.mp hretries
    unfold retriesThen at hthen
    split at hthen
    · rename_i host entry resume hcall'
      obtain ⟨hid, htails⟩ := Bool.and_eq_true_iff.mp hthen
      have hnone := hskips th hth config hcall e he id s hrequeued th' hth' host entry resume hcall'
        (eq_of_beq hid) id' (retriedAs_of_tails htails)
      rw [hnone] at hd'
      cases hd'
    · cases hthen
  · rw [hskips th hth config hcall e he id s hrequeued id' d' hd'] at hafter
    cases hafter

/-- The index carries the request out. -/
abbrev indexAnswer : FleetChoice := .es .ok

/-- Host 0 processes entry 0; the write of its first status is rejected, so the run fails and is
retried. -/
def failFirst : List FleetMove :=
  claimByFirst ++ List.replicate 5 (.serve 2 ownAnswer) ++
    [.serve 2 indexAnswer, .serve 2 (.es (.rejected ⟨"fetch failed", none⟩))] ++
    List.replicate 3 (.serve 2 indexAnswer) ++ List.replicate 2 (.serve 2 ownAnswer) ++
    [.serve 2 (.es (.hits [])), .serve 2 indexAnswer, .serve 2 indexAnswer]

/-- The retry, entry 1, is completed. -/
def completeRetry : List FleetMove :=
  [.pass 1000, .invoke (.queue .dequeue), .serve 3 (.es (.hits [1])), .serve 3 indexAnswer,
    .serve 3 (.es (.uuid "b")), .serve 3 indexAnswer, .serve 3 indexAnswer,
    .invoke (.queue (.terminal (.complete 1 "b"))), .serve 4 indexAnswer, .serve 4 indexAnswer,
    .serve 4 indexAnswer]

/-- The sweep of the thread `i`, eight days later, finds entry 0. -/
def sweepLater (i : ℕ) : List FleetMove :=
  [.pass (8 * 24 * msPerHour), .invoke (.runOnce {}), .serve i indexAnswer, .serve i (.es (.hits [0])),
    .serve i (.cooldowns []), .serve i indexAnswer, .serve i indexAnswer]

/-- **A handled failure is run again**: the sweep re-enqueues the entry that `failEntry` has retried, and
whose retry has completed. -/
theorem sweeps_handled : ∃ cfg, (fleetSystem fun _ => oneSuiteDeps).Reachable {} cfg ∧
    ¬SkipsRetried cfg ∧ ¬SkipsCompleted cfg := by
  have hrun : ((fleetSystem fun _ => oneSuiteDeps).run (fun _ _ => true)
      (failFirst ++ completeRetry ++ sweepLater 5) ⟨{}, []⟩).any (resurrects 1) = true := by decide +kernel
  obtain ⟨cfg, hcfg, htest⟩ := (Option.any_eq_true _ _).mp hrun
  exact ⟨cfg, reachable_of_run hcfg, not_skips_of_resurrects htest⟩

/-- Entry 0 is marked as failed by hand. -/
def failByHand : List FleetMove :=
  [.invoke (.queue (.enqueue "m" .user none none none)), .serve 0 (.es (.hits [])), .serve 0 indexAnswer,
    .serve 0 indexAnswer, .invoke (.queue (.updateStatus 0 .failed (some "fetch failed") none)),
    .serve 1 indexAnswer, .serve 1 indexAnswer]

/-- A failure that nobody has retried is re-enqueued. -/
theorem unhandled_swept : ∃ cfg, (fleetSystem fun _ => oneSuiteDeps).run sweepsInPeace
      (failByHand ++ sweepLater 2) ⟨{}, []⟩ = some cfg ∧
    (cfg.world.index.doc 0).map EsSource.status = some .pending ∧ SweepsEnded cfg := by
  have hrun : ((fleetSystem fun _ => oneSuiteDeps).run sweepsInPeace (failByHand ++ sweepLater 2)
      ⟨{}, []⟩).any (fun cfg => decide ((cfg.world.index.doc 0).map EsSource.status = some .pending)) =
        true := by decide +kernel
  obtain ⟨cfg, hcfg, hstatus⟩ := (Option.any_eq_true _ _).mp hrun
  exact ⟨cfg, hcfg, of_decide_eq_true hstatus, sweeps_ended (reach_of_run hcfg)⟩

end Benchmarker
