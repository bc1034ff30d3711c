import Benchmarker.Queue.Fence
import Benchmarker.Scheduler.Settle

/-!
# Retries

`failEntry` queues a failed model again with a counter in the entry's metadata. The counter and the
rest of the metadata go through the document that `enqueue` indexes, through everything that happens
to the document until the entry is claimed, and through `toEntry`.

* `EntryRequest`: what was asked for when an entry was queued. **`request_apply`**: no script of the
  queue service changes it; **`request_reach`**: nothing changes it in any run.
* `Retry`: one entry is a retry of another. **`retry_request`**: what it asks for.
* **`retry_chain`**: chains of retries.
-/

namespace Benchmarker

open Async Async.Prog Async.System EsWorld

/-- What was asked for when an entry was queued: everything but its progress. -/
structure EntryRequest where
  modelId : String
  source : Source
  priority : ℤ
  requestedBy : Option String
  metadata : EntryMetadata
  deriving DecidableEq

def QueueEntry.request (entry : QueueEntry) : EntryRequest where
  modelId := entry.modelId
  source := entry.source
  priority := entry.priority
  requestedBy := entry.requestedBy
  metadata := { entry.metadata.getD {} with pipelineProgress := none }

/-- The request of a stored document. -/
def EsSource.request (d : EsSource) : EntryRequest := (toEntry 0 d).request

/-! ## Runs of the queue -/

/-- **No script changes what was asked for.** -/
theorem request_apply {script : Script} {s d : EsSource} (h : script.apply s = some d) :
    d.request = s.request := by
  cases script <;> simp only [Script.apply, Option.ite_none_right_eq_some, Option.some.injEq] at h
  case updateStatus status now msg fence =>
    obtain ⟨-, rfl⟩ := h
    unfold statusMutations
    cases msg <;> cases status.terminal <;> rfl
  case updateProgress progress fence =>
    obtain ⟨-, rfl⟩ := h
    show EntryRequest.mk _ _ _ _ _ = EntryRequest.mk _ _ _ _ _
    congr 1
    cases hm : s.metadata with
    | none => simp [toEntry, progressMutation, toEntryMetadata, hm]
    | some m => simp [toEntry, progressMutation, toEntryMetadata, hm]
  all_goals
    obtain ⟨-, rfl⟩ := h
    rfl

theorem request_merge (doc : PartialDoc) (s : EsSource) : (doc.merge s).request = s.request := rfl

/-- The documents stay, and so does what they ask for. -/
def KeepsRequests (w w' : EsWorld) : Prop :=
  ∀ id d, w.doc id = some d → ∃ d', w'.doc id = some d' ∧ d'.request = d.request

theorem KeepsRequests.refl (w : EsWorld) : KeepsRequests w w := fun _ d hd => ⟨d, hd, rfl⟩

theorem KeepsRequests.trans {u v w : EsWorld} (h : KeepsRequests u v) (h' : KeepsRequests v w) :
    KeepsRequests u w := by
  intro id d hd
  obtain ⟨d₁, hd₁, heq⟩ := h id d hd
  obtain ⟨d₂, hd₂, heq'⟩ := h' id d₁ hd₁
  exact ⟨d₂, hd₂, heq'.trans heq⟩

theorem keepsRequests_put {w : EsWorld} {id : ℕ} {s : Stored} {d : EsSource}
    (hs : w.docs[id]? = some s) (h : d.request = s.source.request) : KeepsRequests w (w.put id d) := by
  intro i d' hd'
  rw [doc, docs_put_getElem? i hs]
  by_cases hi : i = id
  · subst hi
    rw [doc_of_docs hs] at hd'
    rw [if_pos rfl]
    exact ⟨d, rfl, by rw [h, Option.some.inj hd']⟩
  · rw [if_neg hi]
    exact ⟨d', hd', rfl⟩

theorem Effect.keepsRequests {w w' : EsWorld} {o : EsOp} (h : Effect w o w') : KeepsRequests w w' := by
  cases h with
  | none => exact .refl _
  | token t => exact fun _ d hd => ⟨d, hd, rfl⟩
  | script hs happly => exact keepsRequests_put hs (request_apply happly)
  | doc hs => exact keepsRequests_put hs (request_merge _ _)
  | index d =>
    intro id d' hd'
    obtain ⟨s, hs, rfl⟩ := doc_eq_some.mp hd'
    exact ⟨s.source, doc_of_docs (docs_add_getElem? id hs), rfl⟩

/-- The event adds the entry `id` to the index. -/
def adds (id : ℕ) (e : EsEvent) : Bool :=
  match e.op with
  | .index d => e.pre.docs.length = id ∧ e.post = e.pre.add d
  | _ => false

/-- A call has added the entry `id` to the index. -/
def Added (c : QueueCall) (id : ℕ) (cfg : QueueCfg) : Prop :=
  ∃ th ∈ cfg.threads, th.call = c ∧ ∃ e ∈ th.past, adds id e = true

instance (c : QueueCall) (id : ℕ) (cfg : QueueCfg) : Decidable (Added c id cfg) :=
  inferInstanceAs (Decidable (∃ th ∈ cfg.threads, th.call = c ∧ ∃ e ∈ th.past, adds id e = true))

theorem adds_eq_true {id : ℕ} {e : EsEvent} (h : adds id e = true) :
    ∃ d, e.op = .index d ∧ e.pre.docs.length = id ∧ e.post = e.pre.add d := by
  unfold adds at h
  split at h
  · rename_i d hop
    exact ⟨d, hop, of_decide_eq_true h⟩
  · cases h

/-- **What was asked for stays**: whatever happens in a run, an entry that a call of `enqueue` has
added asks for what the call did. -/
theorem request_reach {w₀ : EsWorld} {cfg : QueueCfg} (h : queueSystem.Reachable w₀ cfg)
    {c : QueueCall} {id : ℕ} (hadd : Added c id cfg) {d : EsSource} (hd : cfg.world.doc id = some d) :
    ∃ m s p r md now, c = .enqueue m s p r md ∧ d.request = (enqueueDoc m s p r md now).request := by
  obtain ⟨th, hth, rfl, e, he, hadds⟩ := hadd
  obtain ⟨d₀, hop, rfl, hpost⟩ := adds_eq_true hadds
  obtain ⟨fs, gs, hsplit⟩ := List.append_of_mem he
  have hsends := h.issued (fun c => queueService_sends c []) th hth fs e gs hsplit
  rw [hop] at hsends
  obtain ⟨m, s, p, r, md, now, hcall, rfl, -⟩ := hsends.index_inv
  refine ⟨m, s, p, r, md, now, hcall, ?_⟩
  -- the new document, and what has become of it
  have hnew : e.post.doc e.pre.docs.length = some (enqueueDoc m s p r md now) := by
    rw [hpost, doc, docs_add, List.getElem?_append_right (Nat.le_refl _), Nat.sub_self]
    rfl
  have hkept := (h.chain KeepsRequests.refl KeepsRequests.trans
    (fun hsv => (serve_effect hsv).keepsRequests) (fun _ w => .refl w) th hth).2 e he
  obtain ⟨d', hd', heq⟩ := hkept _ _ hnew
  rw [Option.some.inj (hd.symm.trans hd'), heq]

/-! ## One retry -/

section Retry

variable (deps : SchedulerDeps)

/-- `entry'` is a retry of `entry`: a call of `failEntry` for `entry` has sent an `enqueue` that has
added an entry to the queue, and the index holds it as `entry'` in some later state. -/
def Retry (entry entry' : QueueEntry) : Prop :=
  ∃ (message : String) (leaseToken : Option String) (es : List SchedEvent) (r : Except JsError Unit)
    (c : QueueCall) (w₀ : EsWorld) (cfg : QueueCfg) (d : EsSource),
    (failEntry deps entry message leaseToken).run.Runs es r ∧ (∃ e ∈ es, e.op = .queue c) ∧
    queueSystem.Reachable w₀ cfg ∧ Added c entry'.id cfg ∧ cfg.world.doc entry'.id = some d ∧
    entry' = toEntry entry'.id d

/-- What the retry of an entry asks for. -/
def EntryRequest.retry (req : EntryRequest) (category : FailureCategory) : EntryRequest :=
  { req with metadata := { req.metadata with
      infraRetryCount := some (req.metadata.infraRetryCount.getD 0 + 1)
      reason := some ("auto-retry after " ++ category.text ++ " failure") } }

/-- `maxInfraRetries` or `maxResourceFitRetries`, whichever is larger. -/
def maxRetries : ℕ :=
  max ((deps.config.retry.bind (·.maxInfraRetries)).getD 2)
    ((deps.config.retry.bind (·.maxResourceFitRetries)).getD 1)

variable {deps} {entry entry' : QueueEntry}

theorem retryBudget_le (category : FailureCategory) : retryBudget deps category ≤ maxRetries deps := by
  unfold retryBudget maxRetries
  split
  · exact le_max_right _ _
  · exact le_max_left _ _

/-- A body that enqueues nothing. -/
theorem Only.uses {α : Type} {ks : List OpKind} {x : SchedJs α} {q : SchedOp → Prop} (h : Only ks x)
    (hq : ∀ o : SchedOp, o.kind ∈ ks → q o) : x.run.Uses q := Uses.mono h hq

/-- **What `failEntry` enqueues**: a retry, and only within the budget. -/
theorem enqueue_of_failEntry {message : String} {leaseToken : Option String} :
    (failEntry deps entry message leaseToken).run.Uses fun o => o.kind = .enqueue →
      willRetry deps entry message = true ∧
        o = .queue (retryCall entry (classifyFailure message).category) := by
  have hno : ∀ {α : Type} {ks : List OpKind} {x : SchedJs α}, Only ks x → .enqueue ∉ ks →
      x.run.Uses fun o => o.kind = .enqueue → willRetry deps entry message = true ∧
        o = .queue (retryCall entry (classifyFailure message).category) :=
    fun h hks => h.uses fun o ho hk => absurd (hk ▸ ho) hks
  have hretry : (if willRetry deps entry message = true then do
      let _ ← attempt (queueCall (retryCall entry (classifyFailure message).category))
      return ()
    else return () : SchedJs Unit).run.Uses fun o => o.kind = .enqueue →
      willRetry deps entry message = true ∧
        o = .queue (retryCall entry (classifyFailure message).category) := by
    split_ifs with hwill
    · refine uses_throws_bind (uses_attempt ?_) fun _ => uses_throws_pure _
      exact uses_request.mpr fun _ => ⟨hwill, rfl⟩
    · exact uses_throws_pure _
  rw [failEntry_eq]
  refine uses_throws_bind (hno (only_writeTerminal rfl) (by simp)) fun applied => ?_
  refine uses_ite (uses_throws_pure _) (uses_throws_bind (hno only_recordModelFailure (by simp)) fun _ => ?_)
  exact uses_ite (uses_throws_bind (hno only_quarantine (by simp)) fun _ => hretry) hretry

/-- The document of a retry. -/
theorem request_enqueueDoc {category : FailureCategory} {now : Time} :
    (enqueueDoc entry.modelId entry.source (some entry.priority) entry.requestedBy
      (some (retryMetadata entry category)) now).request = entry.request.retry category := by
  obtain ⟨id, m, s, p, st, ra, sa, ca, em, rb, lt, ha, metadata⟩ := entry
  cases metadata <;> rfl

/-- **One retry** asks for what its predecessor did, with the counter raised by one. -/
theorem retry_request (h : Retry deps entry entry') : ∃ category,
    entry.retryCount < retryBudget deps category ∧ entry'.request = entry.request.retry category := by
  obtain ⟨message, leaseToken, es, r, c, w₀, cfg, d, hfail, ⟨e, he, hop⟩, hreach, hadd, hd, hentry⟩ := h
  obtain ⟨m, s, p, rb, md, now, rfl, hreq⟩ := request_reach hreach hadd hd
  obtain ⟨hwill, hcall⟩ := enqueue_of_failEntry.events hfail e he (by rw [hop]; rfl)
  rw [hop] at hcall
  injection hcall with hcall
  injection hcall with hm hs hp hrb hmd
  refine ⟨(classifyFailure message).category, ?_, ?_⟩
  · have hbudget := (Bool.and_eq_true_iff.mp hwill).2
    exact of_decide_eq_true hbudget
  · have hsame : entry'.request = d.request := by rw [hentry]; rfl
    rw [hsame, hreq, hm, hs, hp, hrb, hmd, request_enqueueDoc]

theorem retryCount_eq (entry : QueueEntry) :
    entry.retryCount = entry.request.metadata.infraRetryCount.getD 0 := by
  unfold QueueEntry.retryCount QueueEntry.request
  cases entry.metadata <;> rfl

theorem retryCount_retry (h : Retry deps entry entry') : entry'.retryCount = entry.retryCount + 1 := by
  obtain ⟨category, -, hreq⟩ := retry_request h
  rw [retryCount_eq, hreq, retryCount_eq]
  rfl

/-! ## Chains of retries -/

/-- A chain of retries raises the counter at most to the larger budget. -/
theorem retryCount_add_length (entries : List QueueEntry) (h : List.IsChain (Retry deps) (entry :: entries))
    (hne : entries ≠ []) : entry.retryCount + entries.length ≤ maxRetries deps := by
  induction entries generalizing entry with
  | nil => exact absurd rfl hne
  | cons next entries ih =>
    obtain ⟨hretry, hrest⟩ := List.isChain_cons_cons.mp h
    obtain ⟨category, hlt, -⟩ := retry_request hretry
    have hle : retryBudget deps category ≤ _ := retryBudget_le category
    cases entries with
    | nil =>
      rw [List.length_singleton]
      omega
    | cons _ entries =>
      have hih := ih hrest (List.cons_ne_nil _ _)
      rw [retryCount_retry hretry] at hih
      simp only [List.length_cons] at hih ⊢
      omega

/-- What the entries of a chain ask for. -/
theorem request_chain (entries : List QueueEntry) (h : List.IsChain (Retry deps) (entry :: entries))
    {i : ℕ} {e : QueueEntry} (hi : entries[i]? = some e) : ∃ reason, e.request = { entry.request with
      metadata := { entry.request.metadata with
        infraRetryCount := some (entry.retryCount + i + 1), reason := reason } } := by
  induction entries generalizing entry i with
  | nil => simp at hi
  | cons next entries ih =>
    obtain ⟨hretry, hrest⟩ := List.isChain_cons_cons.mp h
    obtain ⟨category, -, hreq⟩ := retry_request hretry
    have hnext : next.request = { entry.request with metadata := { entry.request.metadata with
        infraRetryCount := some (entry.retryCount + 1),
        reason := some ("auto-retry after " ++ category.text ++ " failure") } } := by
      rw [hreq, retryCount_eq]
      rfl
    cases i with
    | zero =>
      obtain rfl := Option.some.inj hi
      exact ⟨_, hnext⟩
    | succ i =>
      obtain ⟨reason, he⟩ := ih hrest hi
      have hcount : next.retryCount + i + 1 = entry.retryCount + (i + 1) + 1 := by
        rw [retryCount_retry hretry]
        omega
      exact ⟨reason, by rw [he, hcount, hnext]⟩

/-- **The retry budget**: a chain of retries is no longer than the larger budget, each of its entries
counts one more retry than the one before it, and all of them ask for what the first one did. -/
theorem retry_chain (entries : List QueueEntry) (h : List.IsChain (Retry deps) (entry :: entries)) :
    entries.length ≤ max ((deps.config.retry.bind (·.maxInfraRetries)).getD 2)
        ((deps.config.retry.bind (·.maxResourceFitRetries)).getD 1) ∧
      ∀ i e, entries[i]? = some e →
        e.metadata.bind (·.infraRetryCount) = some (entry.retryCount + i + 1) ∧
        ∃ reason, e.request = { entry.request with metadata := { entry.request.metadata with
          infraRetryCount := some (entry.retryCount + i + 1), reason := reason } } := by
  constructor
  · by_cases hne : entries = []
    · rw [hne]
      exact Nat.zero_le _
    · have hle : entry.retryCount + entries.length ≤ maxRetries deps := retryCount_add_length entries h hne
      exact Nat.le_trans (Nat.le_add_left _ _) hle
  · intro i e hi
    obtain ⟨reason, he⟩ := request_chain entries h hi
    refine ⟨?_, reason, he⟩
    have hcount := congrArg (·.metadata.infraRetryCount) he
    cases hm : e.metadata with
    | none =>
      simp only [QueueEntry.request, hm] at hcount
      cases hcount
    | some m =>
      simp only [QueueEntry.request, hm] at hcount
      exact hcount

/-- The `enqueue` that follows when the entry runs out of memory. -/
def oneRetry : QueueCall := retryCall oneEntry .resourceFit

/-- Its search finds no other entry of the model. -/
def enqueueOnce : List (Move QueueCall EsChoice ℕ) :=
  [.invoke oneRetry, .serve 0 (.hits []), .serve 0 .ok, .serve 0 .ok]

theorem retried_once : ∃ entry' : QueueEntry, [entry'].length ≤
      max ((oneSuiteDeps.config.retry.bind (·.maxInfraRetries)).getD 2)
        ((oneSuiteDeps.config.retry.bind (·.maxResourceFitRetries)).getD 1) ∧
    ∀ (i : ℕ) (e : QueueEntry), [entry'][i]? = some e →
      e.metadata.bind (·.infraRetryCount) = some (oneEntry.retryCount + i + 1) ∧
      ∃ reason, e.request = { oneEntry.request with metadata := { oneEntry.request.metadata with
        infraRetryCount := some (oneEntry.retryCount + i + 1), reason := reason } } := by
  have hrun : ((queueSystem.run (fun _ _ => true) enqueueOnce ⟨{}, []⟩).any fun cfg =>
      decide (Added oneRetry 0 cfg) && (cfg.world.doc 0).isSome) = true := by decide +kernel
  obtain ⟨cfg, hcfg, htest⟩ := (Option.any_eq_true _ _).mp hrun
  obtain ⟨hadd, hsome⟩ := Bool.and_eq_true_iff.mp htest
  obtain ⟨d, hd⟩ := Option.isSome_iff_exists.mp hsome
  have hfail : (failEntry oneSuiteDeps oneEntry "CUDA out of memory" (some "t")).run.Runs
      (history storeUp (failEntry oneSuiteDeps oneEntry "CUDA out of memory" (some "t"))) (.ok ()) :=
    runs_history storeUp (by decide +kernel)
  have hretry : Retry oneSuiteDeps oneEntry (toEntry 0 d) :=
    ⟨_, _, _, _, oneRetry, {}, cfg, d, hfail, by decide +kernel, reachable_of_run hcfg,
      of_decide_eq_true hadd, hd, rfl⟩
  exact ⟨_, retry_chain [toEntry 0 d] (.cons_cons hretry (.singleton _))⟩

end Retry

end Benchmarker
