import Mathlib.Data.List.Nodup
import Benchmarker.Async.Alone
import Benchmarker.Fleet.World
import Benchmarker.Scheduler.Detached

/-!
# Taking in the next entry

A poll of a scheduler that runs alone over the queue index, with queue calls that succeed: what it
begins to process.

* `Undisturbed`: how a request is served meanwhile; time may pass.
* `begun`, `picked`: what a history begins to process, and what its search for pending entries finds.
* `Kept`, `Passive`: a part of the poll that begins nothing and leaves the entries as they are.
  `passive_heartbeatActiveEntries`, `passive_reclaimStuckEntries`: the poll up to its capacity check.
* `alone_takeEntry`, `alone_dequeue`, `alone_pollBody`, **`alone_poll`**: what the poll takes in.
* `IntakeDue`, **`begins_one_iff`**: when it begins exactly one pending entry.
-/

namespace Benchmarker

open Js Async Async.Prog

/-! ## Undisturbed requests -/

/-- A request of a daemon with its answer. -/
abbrev DaemonEvent : Type := Event FleetAns FleetWorld

/-- A request to the queue index is answered. -/
def FleetOp.succeeds : (o : FleetOp) → FleetAns o → Bool
  | .es (.search _), r => r.isOk
  | .es (.count _), r => r.isOk
  | .es (.get _), r => r.isOk
  | .es (.update _ _), r => r.isOk
  | .es (.updateDoc _ _ _ _), r => r.isOk
  | .es (.index _), r => r.isOk
  | _, _ => true

theorem exists_ok {α : Type} {r : Except JsError α} (h : r.isOk = true) : ∃ a, r = .ok a := by
  cases r with
  | ok a => exact ⟨a, rfl⟩
  | error e => cases h

/-- How a request is served while nobody else sends any. -/
def Undisturbed (host : ℕ) (o : FleetOp) (w : FleetWorld) (r : FleetAns o) (w' : FleetWorld) : Prop :=
  (∃ t, Served host o (w.pass t) r w') ∧ o.succeeds r = true

/-- The entry that a request begins to process. -/
def FleetOp.begins : FleetOp → List ℕ
  | .sched (.own (.beginRun entry _)) => [entry.id]
  | _ => []

/-- What the search of `dequeue` finds. -/
def pickedBy : (o : FleetOp) → FleetAns o → List Hit
  | .es (.search q), .ok hits => if q = pendingQuery 1 then hits else []
  | _, _ => []

def begun (es : List DaemonEvent) : List ℕ := es.flatMap fun e => e.op.begins

def picked (es : List DaemonEvent) : List Hit := es.flatMap fun e => pickedBy e.op e.ans

theorem begun_append (es fs : List DaemonEvent) : begun (es ++ fs) = begun es ++ begun fs :=
  List.flatMap_append

theorem picked_append (es fs : List DaemonEvent) : picked (es ++ fs) = picked es ++ picked fs :=
  List.flatMap_append

/-- The request begins nothing and is not the search of `dequeue`. -/
def FleetOp.silent : FleetOp → Bool
  | .sched (.own (.beginRun _ _)) => false
  | .es (.search q) => q ≠ pendingQuery 1
  | _ => true

theorem begins_of_silent {o : FleetOp} (h : o.silent = true) : o.begins = [] := by
  unfold FleetOp.begins
  split
  · cases h
  · rfl

theorem pickedBy_of_silent {o : FleetOp} (h : o.silent = true) (r : FleetAns o) : pickedBy o r = [] := by
  unfold pickedBy
  split
  · exact if_neg (of_decide_eq_true h)
  · rfl

theorem silent_events {es fs : List DaemonEvent} (h : ∀ e ∈ fs, e.op.silent = true) :
    begun (es ++ fs) = begun es ∧ picked (es ++ fs) = picked es := by
  have hb : begun fs = [] := List.flatMap_eq_nil_iff.2 fun e he => begins_of_silent (h e he)
  have hp : picked fs = [] := List.flatMap_eq_nil_iff.2 fun e he => pickedBy_of_silent (h e he) e.ans
  rw [begun_append, picked_append, hb, hp, List.append_nil, List.append_nil]
  exact ⟨rfl, rfl⟩

/-! ## Passive parts -/

/-- A document, its heartbeat apart. -/
def EsSource.still (d : EsSource) : EsSource := { d with heartbeatAt := none }

/-- The entries are as they were, their heartbeats apart, and the scheduler owns the same ones. -/
structure Kept (host : ℕ) (w w' : FleetWorld) : Prop where
  docs : ∀ id, (w'.index.doc id).map EsSource.still = (w.index.doc id).map EsSource.still
  clock : w.index.clock ≤ w'.index.clock
  activeRuns : (w'.host host).activeRuns = (w.host host).activeRuns
  inProcess : (w'.host host).entryInProcess = (w.host host).entryInProcess
  deferred : (w'.host host).deferredCleanups = (w.host host).deferredCleanups
  shuttingDown : (w'.host host).shuttingDown = (w.host host).shuttingDown

/-- From `w` and `past` to `w'` and `es`, nothing was begun and no entry changed. -/
structure Passive (host : ℕ) (w : FleetWorld) (past : List DaemonEvent) (w' : FleetWorld)
    (es : List DaemonEvent) : Prop where
  kept : Kept host w w'
  begun : begun es = begun past
  picked : picked es = picked past

section Passive

variable {host : ℕ} {w w' w'' : FleetWorld} {past es fs : List DaemonEvent}

theorem Kept.refl : Kept host w w := ⟨fun _ => rfl, le_refl _, rfl, rfl, rfl, rfl⟩

theorem Kept.trans (h : Kept host w w') (h' : Kept host w' w'') : Kept host w w'' where
  docs id := (h'.docs id).trans (h.docs id)
  clock := le_trans h.clock h'.clock
  activeRuns := h'.activeRuns.trans h.activeRuns
  inProcess := h'.inProcess.trans h.inProcess
  deferred := h'.deferred.trans h.deferred
  shuttingDown := h'.shuttingDown.trans h.shuttingDown

theorem Passive.refl : Passive host w past w past := ⟨Kept.refl, rfl, rfl⟩

theorem Passive.trans (h : Passive host w past w' es) (h' : Passive host w' es w'' fs) :
    Passive host w past w'' fs :=
  ⟨h.kept.trans h'.kept, h'.begun.trans h.begun, h'.picked.trans h.picked⟩

theorem Passive.snoc {o : FleetOp} {r : FleetAns o} (ho : o.silent = true) (h : Kept host w w') :
    Passive host w past w' (past ++ [⟨o, r, w, w'⟩]) := by
  have hall : ∀ e ∈ [(⟨o, r, w, w'⟩ : DaemonEvent)], e.op.silent = true := fun e he => by
    rw [List.mem_singleton.1 he]
    exact ho
  exact ⟨h, (silent_events hall).1, (silent_events hall).2⟩

theorem Kept.pass {t : ℕ} : Kept host w (w.pass t) :=
  ⟨fun _ => rfl, Nat.le_add_right _ _, rfl, rfl, rfl, rfl⟩

/-- A document that is found later was there before. -/
theorem Kept.doc (h : Kept host w w') {id : ℕ} {d : EsSource} (hd : w'.index.doc id = some d) :
    ∃ d₀, w.index.doc id = some d₀ ∧ d₀.still = d.still := by
  have hdocs := h.docs id
  rw [hd] at hdocs
  obtain ⟨d₀, hd₀, heq⟩ := Option.map_eq_some_iff.1 hdocs.symm
  exact ⟨d₀, hd₀, heq⟩

theorem Kept.symm_docs (h : Kept host w w') {id : ℕ} {d : EsSource} (hd : w.index.doc id = some d) :
    ∃ d', w'.index.doc id = some d' ∧ d'.still = d.still := by
  have hdocs := h.docs id
  rw [hd] at hdocs
  obtain ⟨d', hd', heq⟩ := Option.map_eq_some_iff.1 hdocs
  exact ⟨d', hd', heq⟩

end Passive

/-! ## Single requests -/

/-- The world after a piece of the scheduler on `host`, at a later time. -/
def FleetWorld.afterOwn (host : ℕ) (a : OwnOp) (t : ℕ) (w : FleetWorld) : FleetWorld :=
  { w.pass t with host := Function.update w.host host (a.apply (w.host host)).2 }

/-- A piece that leaves alone what the scheduler owns. -/
def OwnOp.Keeps (a : OwnOp) : Prop :=
  ∀ s : SchedulerState, (a.apply s).2.activeRuns = s.activeRuns ∧
    (a.apply s).2.entryInProcess = s.entryInProcess ∧
    (a.apply s).2.deferredCleanups = s.deferredCleanups ∧ (a.apply s).2.shuttingDown = s.shuttingDown

section Requests

variable {host : ℕ} {w : FleetWorld} {past : List DaemonEvent}

theorem undisturbed_es {o : EsOp} {r : EsAns o} {w' : FleetWorld}
    (h : Undisturbed host (.es o) w r w') :
    ∃ t ch, serve o ch (w.index.pass t) = some (r, w'.index) ∧ w' = { w with index := w'.index } := by
  obtain ⟨⟨t, hs⟩, -⟩ := h
  obtain ⟨ch, hch, hw⟩ := served_es.1 hs
  exact ⟨t, ch, hch, hw⟩

theorem undisturbed_own {a : OwnOp} {r : OwnAns a} {w' : FleetWorld}
    (h : Undisturbed host (.sched (.own a)) w r w') :
    r = (a.apply (w.host host)).1 ∧ ∃ t, w' = w.afterOwn host a t := by
  obtain ⟨⟨t, ch, hs⟩, -⟩ := h
  cases ch <;> simp only [serveFleet, reduceCtorEq] at hs
  obtain ⟨hr, hw⟩ := Prod.mk.inj (Option.some.inj hs)
  exact ⟨hr.symm, t, hw.symm⟩

theorem undisturbed_now {r : Time} {w' : FleetWorld} (h : Undisturbed host (.sched .now) w r w') :
    ∃ t, w' = w.pass t ∧ r = w'.index.clock := by
  obtain ⟨⟨t, ch, hs⟩, -⟩ := h
  cases ch <;> simp only [serveFleet, reduceCtorEq] at hs
  obtain ⟨rfl, rfl⟩ := Prod.mk.inj (Option.some.inj hs)
  exact ⟨t, rfl, rfl⟩

/-- A request to the index that leaves its documents alone. -/
theorem kept_of_docs {index : EsWorld} (hdocs : index.docs = w.index.docs)
    (hclock : w.index.clock ≤ index.clock) : Kept host w { w with index := index } :=
  ⟨fun id => by simp only [EsWorld.doc, hdocs], hclock, rfl, rfl, rfl, rfl⟩

theorem kept_own {a : OwnOp} (ha : a.Keeps) (t : ℕ) : Kept host w (w.afterOwn host a t) := by
  have hstate : (w.afterOwn host a t).host host = (a.apply (w.host host)).2 := Function.update_self _ _ _
  obtain ⟨h₁, h₂, h₃, h₄⟩ := ha (w.host host)
  exact ⟨fun _ => rfl, Nat.le_add_right _ _, by rw [hstate, h₁], by rw [hstate, h₂], by rw [hstate, h₃],
    by rw [hstate, h₄]⟩

/-- A write that keeps all of a document but its heartbeat. -/
theorem kept_put {index : EsWorld} (hdocs : index.docs = w.index.docs)
    (hclock : w.index.clock ≤ index.clock) {id : ℕ} {d d₀ : EsSource} (hd : index.doc id = some d₀)
    (hstill : d.still = d₀.still) : Kept host w { w with index := index.put id d } := by
  refine ⟨fun id' => ?_, hclock, rfl, rfl, rfl, rfl⟩
  show ((index.put id d).doc id').map EsSource.still = (w.index.doc id').map EsSource.still
  rw [EsWorld.doc_put hd, show w.index.doc id' = index.doc id' by simp only [EsWorld.doc, hdocs]]
  by_cases h : id' = id
  · rw [if_pos h, h, hd, Option.map_some, Option.map_some, hstill]
  · rw [if_neg h]

end Requests

/-! ## Requests in a body -/

section Bodies

variable {host : ℕ} {w : FleetWorld} {past : List DaemonEvent} {α β : Type}
variable {R : List DaemonEvent → α → FleetWorld → Prop}
variable {Q : List DaemonEvent → Except JsError β → FleetWorld → Prop}

theorem alone_sched_bind {x : SchedJs α} {f : α → SchedJs β}
    (hx : (ofSched x).run.Alone (Undisturbed host) (Returns R) past w)
    (hf : ∀ es a w, R es a w → (ofSched (f a)).run.Alone (Undisturbed host) Q es w) :
    (ofSched (x >>= f)).run.Alone (Undisturbed host) Q past w := by
  rw [ofSched_bind]
  exact hx.throws_bind hf

theorem alone_queue_bind {x : EsJs α} {f : α → EsJs β}
    (hx : (ofQueue x).run.Alone (Undisturbed host) (Returns R) past w)
    (hf : ∀ es a w, R es a w → (ofQueue (f a)).run.Alone (Undisturbed host) Q es w) :
    (ofQueue (x >>= f)).run.Alone (Undisturbed host) Q past w := by
  rw [ofQueue_bind]
  exact hx.throws_bind hf

theorem ofSched_queueCall (c : QueueCall) : ofSched (queueCall c) = ofQueue (queueService c) :=
  ExceptT.ext (bind_ret _)

/-- A part whose error is caught. -/
theorem alone_sched_attempt {x : SchedJs α} {R : List DaemonEvent → Except JsError α → FleetWorld → Prop}
    (h : (ofSched x).run.Alone (Undisturbed host) R past w) :
    (ofSched (attempt x)).run.Alone (Undisturbed host) (Returns R) past w := by
  rw [ofSched, expandThrows_attempt, alone_attempt]
  exact h.mono fun es r w' hr => ⟨r, rfl, hr⟩

/-- A call of the queue service whose error is caught. -/
theorem alone_attempt_call {c : QueueCall}
    {R : List DaemonEvent → Except JsError (QueueVal c) → FleetWorld → Prop}
    (h : (ofQueue (queueService c)).run.Alone (Undisturbed host) R past w) :
    (ofSched (attempt (queueCall c))).run.Alone (Undisturbed host) (Returns R) past w := by
  refine alone_sched_attempt ?_
  rw [ofSched_queueCall]
  exact h

theorem alone_own (a : OwnOp) : (ofSched (own a)).run.Alone (Undisturbed host)
    (Returns fun es b w' => b = (a.apply (w.host host)).1 ∧ ∃ t, w' = w.afterOwn host a t ∧
      es = past ++ [⟨.sched (.own a), b, w, w'⟩]) past w := by
  intro r w' hr
  obtain ⟨hr, t, hw⟩ := undisturbed_own hr
  exact ⟨r, rfl, hr, t, hw, rfl⟩

theorem passive_own {a : OwnOp} (ha : a.Keeps) (hsilent : (FleetOp.sched (.own a)).silent = true) :
    (ofSched (own a)).run.Alone (Undisturbed host)
      (Returns fun es b w' => b = (a.apply (w.host host)).1 ∧ Passive host w past w' es) past w := by
  refine (alone_own a).mono fun es r w' hr => ?_
  obtain ⟨b, rfl, hb, t, rfl, rfl⟩ := hr
  exact ⟨b, rfl, hb, .snoc hsilent (kept_own ha t)⟩

theorem passive_clock : (ofSched clock).run.Alone (Undisturbed host)
    (Returns fun es now w' => now = w'.index.clock ∧ Passive host w past w' es) past w := by
  intro r w' hr
  obtain ⟨t, rfl, hr⟩ := undisturbed_now hr
  exact ⟨r, rfl, hr, .snoc rfl Kept.pass⟩

theorem alone_search (q : Query) : (ofQueue (esSearch q)).run.Alone (Undisturbed host)
    (Returns fun es hits w' => (∃ ids : List ℕ, ids.Perm (w.index.matching q) ∧
        hits = (w.index.hits ids).take q.size) ∧
      Kept host w w' ∧ es = past ++ [⟨.es (.search q), .ok hits, w, w'⟩]) past w := by
  intro r w' hr
  obtain ⟨hits, rfl⟩ := exists_ok hr.2
  obtain ⟨t, ch, hs, hw⟩ := undisturbed_es hr
  obtain ⟨hw', ids, hperm, hhits⟩ := serve_search_ok hs
  refine ⟨hits, rfl, ⟨ids, hperm, hhits⟩, ?_, rfl⟩
  rw [hw, hw']
  exact kept_of_docs rfl (Nat.le_add_right _ _)

theorem passive_now : (ofQueue dateNow).run.Alone (Undisturbed host)
    (Returns fun es _ w' => Passive host w past w' es) past w := by
  intro r w' hr
  obtain ⟨t, ch, hs, hw⟩ := undisturbed_es hr
  have hindex : w'.index = w.index.pass t := (serve_effect hs).eq_of_reads rfl
  refine ⟨r, rfl, .snoc rfl ?_⟩
  rw [hw, hindex]
  exact kept_of_docs rfl (Nat.le_add_right _ _)

theorem passive_uuid : (ofQueue randomUUID).run.Alone (Undisturbed host)
    (Returns fun es _ w' => Passive host w past w' es) past w := by
  intro r w' hr
  obtain ⟨t, ch, hs, hw⟩ := undisturbed_es hr
  refine ⟨r, rfl, .snoc rfl ?_⟩
  rw [hw, (serve_randomUUID hs).2]
  exact kept_of_docs rfl (Nat.le_add_right _ _)

theorem serve_count {q : Query} {ch : EsChoice} {v v' : EsWorld} {n : ℕ}
    (h : serve (.count q) ch v = some (.ok n, v')) : n = (v.matching q).length := by
  rcases serve_cases h with ⟨ch', h⟩ | ⟨e, hf, -⟩ | ⟨e, r', hf, -⟩
  · cases ch' <;> simp only [accept, reduceCtorEq] at h
    exact (Except.ok.inj (Prod.mk.inj (Option.some.inj h)).1).symm
  · simp [failed] at hf
  · simp [failed] at hf

theorem passive_count (q : Query) : (ofQueue (esCount q)).run.Alone (Undisturbed host)
    (Returns fun es n w' => n = (w.index.matching q).length ∧ Passive host w past w' es) past w := by
  intro r w' hr
  obtain ⟨n, rfl⟩ := exists_ok hr.2
  obtain ⟨t, ch, hs, hw⟩ := undisturbed_es hr
  have hindex : w'.index = w.index.pass t := (serve_effect hs).eq_of_reads rfl
  have hn : n = ((w.index.pass t).matching q).length := serve_count hs
  refine ⟨n, rfl, hn, .snoc rfl ?_⟩
  rw [hw, hindex]
  exact kept_of_docs rfl (Nat.le_add_right _ _)

/-- An update is made of a document, or leaves it alone. -/
theorem alone_update (id : ℕ) (script : Script) :
    (ofQueue (esUpdate id script)).run.Alone (Undisturbed host)
      (Returns fun es result w' => (∃ t d, w.index.doc id = some d ∧
        (result = .noop ∧ script.apply d = none ∧ w' = w.pass t ∨
          ∃ d', result = .updated ∧ script.apply d = some d' ∧
            w' = { w with index := (w.index.pass t).put id d' })) ∧
        es = past ++ [⟨.es (.update id script), .ok result, w, w'⟩]) past w := by
  intro r w' hr
  obtain ⟨result, rfl⟩ := exists_ok hr.2
  obtain ⟨t, ch, hs, hw⟩ := undisturbed_es hr
  obtain ⟨d, hd, hcases⟩ := serve_update_ok hs
  have hdoc : w.index.doc id = some d.source := by
    rw [EsWorld.doc, show w.index.docs[id]? = some d from hd]
    rfl
  refine ⟨result, rfl, ⟨t, d.source, hdoc, ?_⟩, rfl⟩
  rcases hcases with ⟨rfl, hnone, hw'⟩ | ⟨d', rfl, hsome, hw'⟩
  · refine .inl ⟨rfl, hnone, ?_⟩
    rw [hw, hw']
    rfl
  · refine .inr ⟨d', rfl, hsome, ?_⟩
    rw [hw, hw']

/-- A document that does not exist is not an answer. -/
theorem serve_get_ne {id : ℕ} {ch : EsChoice} {v v' : EsWorld} :
    serve (.get id) ch v ≠ some (.ok none, v') := by
  intro h
  rcases serve_cases h with ⟨ch', h⟩ | ⟨e, hf, -⟩ | ⟨e, r', hf, -⟩
  · cases ch' <;> simp only [accept, reduceCtorEq] at h
    split at h <;> simp at h
  · simp [failed] at hf
  · simp [failed] at hf

theorem passive_get (id : ℕ) : (ofQueue (esGet id)).run.Alone (Undisturbed host)
    (Returns fun es found w' => (∃ g, found = some g ∧ g.id = id ∧ w.index.doc id = some g.source) ∧
      Passive host w past w' es) past w := by
  intro r w' hr
  obtain ⟨found, rfl⟩ := exists_ok hr.2
  obtain ⟨t, ch, hs, hw⟩ := undisturbed_es hr
  cases found with
  | none => exact absurd hs serve_get_ne
  | some g =>
    obtain ⟨hw', stored, hstored, rfl⟩ := serve_get_found hs
    have hdoc : w.index.doc id = some stored.source := by
      rw [EsWorld.doc, show w.index.docs[id]? = some stored from hstored]
      rfl
    refine ⟨_, rfl, ⟨_, rfl, rfl, hdoc⟩, .snoc rfl ?_⟩
    rw [hw, hw']
    exact kept_of_docs rfl (Nat.le_add_right _ _)

end Bodies

/-! ## Up to the capacity check -/

section Checks

variable {host : ℕ} {w : FleetWorld} {past : List DaemonEvent}

theorem passive_heartbeat (id : ℕ) (token : String) :
    (ofQueue (heartbeat id token)).run.Alone (Undisturbed host)
      (fun es _ w' => Passive host w past w' es) past w := by
  refine alone_queue_bind passive_now fun es now w' hnow => ?_
  refine alone_queue_bind (alone_update id (.heartbeat now token)) fun es' result w'' hupdate => ?_
  obtain ⟨⟨t, d, hd, hcases⟩, rfl⟩ := hupdate
  refine hnow.trans (.snoc rfl ?_)
  rcases hcases with ⟨-, -, rfl⟩ | ⟨d', -, happly, rfl⟩
  · exact Kept.pass
  · rw [Script.apply] at happly
    split_ifs at happly
    refine kept_put (show (w'.index.pass t).docs = w'.index.docs from rfl) (Nat.le_add_right _ _) hd ?_
    rw [← Option.some.inj happly]
    rfl

/-- The heartbeats of a poll. -/
theorem passive_heartbeatEach (ids : List ℕ) :
    (ofSched (heartbeatEach ids)).run.Alone (Undisturbed host)
      (Returns fun es _ w' => Passive host w past w' es) past w := by
  induction ids generalizing w past with
  | nil => exact ⟨(), rfl, Passive.refl⟩
  | cons id ids ih =>
    have hleases : (OwnOp.leaseOf id).Keeps := fun s => ⟨rfl, rfl, rfl, rfl⟩
    refine alone_sched_bind (passive_own hleases rfl) fun es token w' hown => ?_
    have hrest : ∀ fs v, Passive host w past v fs → (ofSched (heartbeatEach ids)).run.Alone
        (Undisturbed host) (Returns fun es _ w' => Passive host w past w' es) fs v := fun fs v hv =>
      ih.mono fun gs r u hr => by
        obtain ⟨a, ha, hquiet⟩ := hr
        exact ⟨a, ha, hv.trans hquiet⟩
    cases token with
    | none => exact hrest es w' hown.2
    | some token =>
      refine alone_sched_bind (alone_attempt_call (c := .heartbeat id token)
        (passive_heartbeat id token)) fun es' r w'' hbeat => ?_
      exact hrest es' w'' (hown.2.trans hbeat)

theorem passive_heartbeatActiveEntries :
    (ofSched heartbeatActiveEntries).run.Alone (Undisturbed host)
      (Returns fun es _ w' => Passive host w past w' es) past w := by
  have hkeys : OwnOp.leaseKeys.Keeps := fun s => ⟨rfl, rfl, rfl, rfl⟩
  refine alone_sched_bind (passive_own hkeys rfl) fun es ids w' hown => ?_
  refine (passive_heartbeatEach ids).mono fun fs r v hr => ?_
  obtain ⟨a, ha, hquiet⟩ := hr
  exact ⟨a, ha, hown.2.trans hquiet⟩

theorem status_of_still {d d' : EsSource} (h : d.still = d'.still) : d.status = d'.status := by
  have hstatus := congrArg EsSource.status h
  exact hstatus

theorem mem_of_matches {q : Query} {l : List Status} {d : EsSource} (hq : q.status = some l)
    (h : q.matches d = true) : d.status ∈ l := by
  simp only [Query.matches, Bool.and_eq_true, hq, Option.all_some, List.contains_iff_mem] at h
  exact h.1.1.1.2

/-- A hit is a document that matches. -/
theorem matches_of_hit {q : Query} {ids : List ℕ} {hit : Hit} {n : ℕ}
    (hperm : ids.Perm (w.index.matching q)) (h : hit ∈ (w.index.hits ids).take n) :
    w.index.doc hit.id = some hit.source ∧ q.matches hit.source = true := by
  obtain ⟨hid, hd⟩ := EsWorld.mem_hits.1 (List.mem_of_mem_take h)
  have hmatch := EsWorld.mem_matching.1 (hperm.mem_iff.1 hid)
  rw [hd] at hmatch
  exact ⟨hd, hmatch⟩

theorem inFlight_of_mem {status : Status} (h : status ∈ [Status.deploying, .benchmarking]) :
    status.inFlight = true := by
  cases status <;> simp_all [Status.inFlight]

/-- Every entry in flight is being processed by the scheduler. -/
def AllOwned (host : ℕ) (w : FleetWorld) : Prop :=
  ∀ id d, w.index.doc id = some d → d.status.inFlight = true → id ∈ (w.host host).entryInProcess

theorem Kept.allOwned {w' : FleetWorld} (h : Kept host w w') (hall : AllOwned host w) :
    AllOwned host w' := by
  intro id d hd hflight
  obtain ⟨d₀, hd₀, hstill⟩ := h.doc hd
  rw [h.inProcess]
  refine hall id d₀ hd₀ ?_
  rw [status_of_still hstill]
  exact hflight

/-- No entry is reclaimed when all are excluded. -/
theorem reclaimEach_excluded {staleAfterMs : ℕ} {excludeIds : List ℕ} {nowMs : Time}
    {entries : List QueueEntry} {n : ℕ} (h : ∀ e ∈ entries, e.id ∈ excludeIds) :
    reclaimEach staleAfterMs excludeIds nowMs entries n = return n := by
  induction entries with
  | nil => rfl
  | cons e entries ih =>
    rw [reclaimEach, if_pos]
    · exact ih fun e' he' => h e' (List.mem_cons_of_mem _ he')
    · rw [List.contains_iff_mem.2 (h e List.mem_cons_self)]
      rfl

theorem passive_getActiveEntries : (ofQueue getActiveEntries).run.Alone (Undisturbed host)
    (Returns fun es entries w' => (∀ e ∈ entries, ∃ d, w.index.doc e.id = some d ∧
      d.status.inFlight = true) ∧ Passive host w past w' es) past w := by
  refine alone_queue_bind (alone_search _) fun es hits w' hsearch => ?_
  obtain ⟨⟨ids, hperm, rfl⟩, hkept, rfl⟩ := hsearch
  refine ⟨_, rfl, fun e he => ?_, .snoc (by decide) hkept⟩
  obtain ⟨hit, hhit, rfl⟩ := List.mem_map.1 he
  obtain ⟨hd, hmatch⟩ := matches_of_hit hperm hhit
  exact ⟨hit.source, hd, inFlight_of_mem (mem_of_matches rfl hmatch)⟩

theorem passive_reclaimStaleEntries {staleAfterMs : ℕ} {excludeIds : List ℕ}
    (h : ∀ id d, w.index.doc id = some d → d.status.inFlight = true → id ∈ excludeIds) :
    (ofQueue (reclaimStaleEntries staleAfterMs excludeIds)).run.Alone (Undisturbed host)
      (fun es _ w' => Passive host w past w' es) past w := by
  refine alone_queue_bind passive_getActiveEntries fun es entries w' hactive => ?_
  refine alone_queue_bind passive_now fun es' nowMs w'' hnow => ?_
  rw [reclaimEach_excluded]
  · exact hactive.2.trans hnow
  · intro e he
    obtain ⟨d, hd, hflight⟩ := hactive.1 e he
    exact h e.id d hd hflight

/-- The periodic reclaim of a poll spares the entries that the scheduler processes. -/
theorem passive_reclaimStuckEntries {deps : SchedulerDeps} (hall : AllOwned host w) :
    (ofSched (reclaimStuckEntries deps)).run.Alone (Undisturbed host)
      (Returns fun es _ w' => Passive host w past w' es) past w := by
  refine alone_sched_bind passive_clock fun es nowMs w' hclock => ?_
  have hdue : (OwnOp.reclaimDue nowMs
      (deps.config.entryStaleAfterMs.getD defaultEntryStaleAfterMs)).Keeps := by
    intro s
    rw [OwnOp.apply]
    split_ifs
    · exact ⟨rfl, rfl, rfl, rfl⟩
    · exact ⟨rfl, rfl, rfl, rfl⟩
  refine alone_sched_bind (passive_own hdue rfl) fun es' owned w'' hown => ?_
  have hquiet := hclock.2.trans hown.2
  cases howned : owned with
  | none => exact ⟨(), rfl, hquiet⟩
  | some ids =>
    have hids : ids = (w'.host host).ownedEntryIds := by
      have heq := hown.1
      rw [howned, OwnOp.apply] at heq
      split_ifs at heq
      exact Option.some.inj heq
    refine alone_sched_bind (alone_attempt_call (c := .reclaimStaleEntries _ ids)
      (passive_reclaimStaleEntries fun id d hd hflight => ?_)) fun es'' r v hreclaim => ?_
    · have hin := hquiet.kept.allOwned hall id d hd hflight
      rw [hids, SchedulerState.ownedEntryIds, ← hown.2.kept.inProcess]
      exact List.mem_append_left _ (List.mem_append_right _ hin)
    · exact ⟨(), rfl, hquiet.trans hreclaim⟩

end Checks

/-! ## Taking an entry -/

section Take

variable {deps : SchedulerDeps} {host : ℕ} {w : FleetWorld} {past : List DaemonEvent}

/-- The entry is retired instead of processed: its model is excluded by now, and it was not forced. -/
def recencyExcluded (deps : SchedulerDeps) (entry : QueueEntry) : Bool :=
  (entry.metadata.bind (·.force)) ≠ some true && (findMatchingExcludePattern deps entry.modelId).isSome

/-- From `past` to `es`, the entries of `ids` were begun, and the search of `dequeue` found `hits`. -/
def Began (past : List DaemonEvent) (ids : List ℕ) (hits : List Hit) (es : List DaemonEvent) : Prop :=
  begun es = begun past ++ ids ∧ picked es = picked past ++ hits

theorem Passive.began {w' : FleetWorld} {es : List DaemonEvent} (h : Passive host w past w' es) :
    Began past [] [] es :=
  ⟨by rw [h.begun, List.append_nil], by rw [h.picked, List.append_nil]⟩

theorem Began.trans {es fs : List DaemonEvent} {ids ids' : List ℕ} {hits hits' : List Hit}
    (h : Began past ids hits es) (h' : Began es ids' hits' fs) :
    Began past (ids ++ ids') (hits ++ hits') fs :=
  ⟨by rw [h'.1, h.1, List.append_assoc], by rw [h'.2, h.2, List.append_assoc]⟩

theorem silent_began {fs : List DaemonEvent} (h : ∀ e ∈ fs, e.op.silent = true) :
    Began past [] [] (past ++ fs) := by
  have hb : begun (past ++ fs) = begun past := (silent_events h).1
  have hp : picked (past ++ fs) = picked past := (silent_events h).2
  exact ⟨by rw [hb, List.append_nil], by rw [hp, List.append_nil]⟩

/-- A body whose requests are all silent. -/
theorem alone_silent {α : Type} {x : FleetJs α} (h : x.run.Uses fun o => o.silent = true) :
    x.run.Alone (Undisturbed host) (fun es _ _ => Began past [] [] es) past w := by
  refine (alone_uses h).mono fun es _ _ hes => ?_
  obtain ⟨fs, rfl, hfs⟩ := hes
  exact silent_began hfs

/-- A request to the index that is no search. -/
def EsOp.noSearch : EsOp → Bool
  | .search _ => false
  | _ => true

theorem silent_ofQueue {α : Type} {x : EsJs α} (h : x.run.Uses fun o => o.noSearch = true) :
    (ofQueue x).run.Uses fun o => o.silent = true :=
  h.expand fun o ho => uses_request.2 <| by
    cases o with
    | search q => cases ho
    | _ => rfl

theorem noSearch_writeTerminalLoop (id : ℕ) (status : Status) (errorMessage : Option String)
    (leaseToken : String) (attempts : ℕ) :
    (writeTerminalLoop id status errorMessage leaseToken attempts).run.Uses
      fun o => o.noSearch = true := by
  induction attempts with
  | zero => exact uses_throws_pure _
  | succ attempts ih =>
    refine uses_throws_bind (uses_attempt (uses_request.2 rfl)) fun found => ?_
    split
    · exact uses_ite (uses_throws_pure _) (uses_throw _)
    · exact uses_throws_pure _
    · refine uses_ite (uses_throws_pure _) (uses_ite (uses_throws_pure _) ?_)
      refine uses_throws_bind (uses_lift (uses_request.2 rfl)) fun now => ?_
      refine uses_throws_bind (uses_attempt (uses_request.2 rfl)) fun written => ?_
      split
      · exact uses_throws_pure _
      · exact uses_ite ih (uses_throw _)

theorem noSearch_updateStatus (id : ℕ) (status : Status) (errorMessage leaseToken : Option String) :
    (updateStatus id status errorMessage leaseToken).run.Uses fun o => o.noSearch = true :=
  uses_throws_bind (uses_lift (uses_request.2 rfl)) fun _ =>
    uses_throws_bind (uses_request.2 rfl) fun _ => uses_throws_pure _

/-- An entry whose model is excluded is retired, if the call does not throw. -/
theorem alone_retire {entry : QueueEntry} {token : Option String} :
    (ofSched (retireIfRecencyExcluded deps entry token)).run.Alone (Undisturbed host)
      (fun es r _ => Began past [] [] es ∧
        (recencyExcluded deps entry = false → r = .ok false) ∧
        (recencyExcluded deps entry = true → r ≠ .ok false)) past w := by
  unfold retireIfRecencyExcluded recencyExcluded
  have hcall : ∀ c : QueueCall, (queueService c).run.Uses (fun o => o.noSearch = true) →
      (ofSched (queueCall c >>= fun _ => pure true)).run.Alone (Undisturbed host)
        (fun es r _ => Began past [] [] es ∧ r ≠ .ok false) past w := by
    intro c hc
    rw [ofSched_bind, ofSched_queueCall, alone_throws_bind]
    refine (alone_silent (silent_ofQueue hc)).mono fun es r v hes => ?_
    cases r with
    | ok a => exact ⟨hes, by simp⟩
    | error e => exact ⟨hes, by simp⟩
  by_cases hforce : (entry.metadata.bind (·.force)) = some true
  · rw [if_pos hforce]
    exact ⟨(Passive.refl : Passive host w past w past).began, fun _ => rfl, by simp [hforce]⟩
  · rw [if_neg hforce]
    cases hmatch : findMatchingExcludePattern deps entry.modelId with
    | none => exact ⟨(Passive.refl : Passive host w past w past).began, fun _ => rfl, by simp⟩
    | some pattern =>
      have hexcluded : (decide ((entry.metadata.bind (·.force)) ≠ some true) &&
          (some pattern).isSome) = true := by
        simp [hforce]
      cases truthy token with
      | none =>
        refine (hcall (.updateStatus entry.id .cancelled none none)
          (noSearch_updateStatus _ _ _ _)).mono fun es r v hr => ⟨hr.1, fun h => ?_, fun _ => hr.2⟩
        rw [hexcluded] at h
        cases h
      | some token =>
        refine (hcall (.terminal (.cancelActive entry.id _ token))
          (noSearch_writeTerminalLoop _ _ _ _ _)).mono fun es r v hr => ⟨hr.1, fun h => ?_, fun _ => hr.2⟩
        rw [hexcluded] at h
        cases h

/-- **A claimed entry is begun unless it is retired.** -/
theorem alone_takeEntry {entry : QueueEntry} {token : Option String} {resume : Bool} :
    (ofSched (takeEntry deps entry token resume)).run.Alone (Undisturbed host)
      (fun es _ _ => Began past (if recencyExcluded deps entry = true then [] else [entry.id]) [] es)
      past w := by
  have hkeep : (ofSched (keepLease entry.id token)).run.Alone (Undisturbed host)
      (Returns fun es _ _ => Began past [] [] es) past w := by
    unfold keepLease
    cases truthy token with
    | none => exact ⟨(), rfl, (Passive.refl : Passive host w past w past).began⟩
    | some token =>
      have hset : (OwnOp.setLease entry.id token).Keeps := fun s => ⟨rfl, rfl, rfl, rfl⟩
      exact (passive_own hset rfl).mono fun es r v hr => by
        obtain ⟨a, ha, -, hquiet⟩ := hr
        exact ⟨a, ha, hquiet.began⟩
  refine alone_sched_bind hkeep fun es _ v hes => ?_
  rw [ofSched_bind, alone_throws_bind]
  refine alone_retire.mono fun fs r u hr => ?_
  obtain ⟨hfs, hno, hyes⟩ := hr
  have hpast := hes.trans hfs
  by_cases hexcluded : recencyExcluded deps entry = true
  · have hdrop : (OwnOp.dropLease entry.id).Keeps := fun s => ⟨rfl, rfl, rfl, rfl⟩
    rw [if_pos hexcluded]
    cases r with
    | error e => exact hpast
    | ok retired =>
      cases retired with
      | false => exact absurd rfl (hyes hexcluded)
      | true =>
        refine (passive_own hdrop rfl).mono fun gs r' v' hr' => ?_
        obtain ⟨a, -, -, hquiet⟩ := hr'
        exact hpast.trans hquiet.began
  · rw [if_neg hexcluded, hno (Bool.eq_false_iff.2 hexcluded)]
    refine (alone_own (.beginRun entry resume)).mono fun gs r' v' hr' => ?_
    obtain ⟨b, -, -, t, -, rfl⟩ := hr'
    rw [← List.nil_append [entry.id]]
    refine hpast.trans ⟨?_, ?_⟩
    · rw [begun_append]
      rfl
    · rw [picked_append]
      rfl

end Take

/-! ## The poll -/

section Poll

variable {deps : SchedulerDeps} {host : ℕ} {w : FleetWorld} {past : List DaemonEvent}

/-- The query of `countTerminalSince`. -/
def terminalSince (since : Time) : Query where
  status := some [.completed, .failed]
  completedGte := some since
  size := 0

/-- The models that have ended today have used the cap up. -/
def CapReached (deps : SchedulerDeps) (w : FleetWorld) : Prop :=
  ∃ caps, deps.config.costCaps.filter (·.enabled) = some caps ∧
    caps.maxModelsPerDay ≤ (w.index.matching (terminalSince (startOfUtcDay w.index.clock))).length

/-- No entry is in flight. -/
def NoneInFlight (w : FleetWorld) : Prop :=
  ∀ id d, w.index.doc id = some d → d.status.inFlight = false

/-- A poll that should take in an entry. -/
structure IntakeDue (deps : SchedulerDeps) (host : ℕ) (w : FleetWorld) : Prop where
  pending : ∃ id d, w.index.doc id = some d ∧ d.status = .pending
  owned : AllOwned host w
  deferred : (w.host host).deferredCleanups = []
  cap : ¬ CapReached deps w
  room : (w.host host).activeRuns < deps.maxConcurrentRuns

/-- The history begins exactly one entry, which was pending. -/
def BeginsOne (w : FleetWorld) (es : List DaemonEvent) : Prop :=
  ∃ id d, begun es = [id] ∧ w.index.doc id = some d ∧ d.status = .pending

theorem startOfUtcDay_le {t t' : Time} (h : t ≤ t') : startOfUtcDay t ≤ startOfUtcDay t' := by
  have hday : ∀ s : ℕ, s - s % 86400000 = 86400000 * (s / 86400000) := fun s =>
    Nat.sub_eq_of_eq_add (Nat.div_add_mod s 86400000).symm
  show (t : ℕ) - t % 86400000 ≤ t' - t' % 86400000
  rw [hday t, hday t']
  exact Nat.mul_le_mul_left _ (Nat.div_le_div_right h)

/-- What counts against the cap later has counted before. -/
theorem matching_le {w' : FleetWorld} (h : Kept host w w') :
    (w'.index.matching (terminalSince (startOfUtcDay w'.index.clock))).length ≤
      (w.index.matching (terminalSince (startOfUtcDay w.index.clock))).length := by
  have hnodup : ∀ (v : EsWorld) (q : Query), (v.matching q).Nodup := fun v q =>
    List.nodup_range.filter _
  refine (List.subperm_of_subset (hnodup _ _) fun id hid => ?_).length_le
  rw [EsWorld.mem_matching, Option.any_eq_true] at hid ⊢
  obtain ⟨d, hd, hmatch⟩ := hid
  obtain ⟨d₀, hd₀, hstill⟩ := h.doc hd
  have hsince := startOfUtcDay_le h.clock
  have hstatus := status_of_still hstill
  have hcompleted : d₀.completedAt = d.completedAt := by
    have heq := congrArg EsSource.completedAt hstill
    exact heq
  refine ⟨d₀, hd₀, ?_⟩
  simp only [Query.matches, terminalSince, Option.all_none, Option.all_some, Bool.true_and,
    Bool.and_true, Bool.and_eq_true, hstatus, hcompleted] at hmatch ⊢
  refine ⟨hmatch.1, ?_⟩
  rw [Option.any_eq_true] at hmatch ⊢
  obtain ⟨-, t, ht, hle⟩ := hmatch
  exact ⟨t, ht, decide_eq_true (le_trans hsince (of_decide_eq_true hle))⟩

theorem Kept.not_capReached {w' : FleetWorld} (h : Kept host w w') (hcap : ¬ CapReached deps w) :
    ¬ CapReached deps w' := fun ⟨caps, hcaps, hle⟩ => hcap ⟨caps, hcaps, le_trans hle (matching_le h)⟩

/-- The cap check of a poll below the cap. -/
theorem passive_isDailyCostCapReached (hcap : ¬ CapReached deps w) :
    (ofSched (isDailyCostCapReached deps)).run.Alone (Undisturbed host)
      (Returns fun es reached w' => reached = false ∧ Passive host w past w' es) past w := by
  unfold isDailyCostCapReached
  cases hcaps : deps.config.costCaps.filter (·.enabled) with
  | none => exact ⟨false, rfl, rfl, Passive.refl⟩
  | some caps =>
    refine alone_sched_bind passive_clock fun es now w' hclock => ?_
    obtain ⟨rfl, hquiet⟩ := hclock
    refine alone_sched_bind (alone_attempt_call (c := .countTerminalSince _)
      (passive_count (terminalSince (startOfUtcDay w'.index.clock)))) fun es' counted w'' hcounted => ?_
    obtain ⟨n, rfl, hn, hquiet'⟩ := hcounted
    have hnote : ∀ b, (OwnOp.noteCostCap b).Keeps := fun b s => ⟨rfl, rfl, rfl, rfl⟩
    have hbelow : decide (n ≥ caps.maxModelsPerDay) = false := by
      refine decide_eq_false fun hle => ?_
      exact hquiet.kept.not_capReached hcap ⟨caps, hcaps, hn ▸ hle⟩
    dsimp only
    rw [hbelow]
    refine alone_sched_bind (passive_own (hnote false) rfl) fun es'' _ v hown => ?_
    exact ⟨false, rfl, rfl, (hquiet.trans hquiet').trans hown.2⟩

/-- **`dequeue` claims the pending entry that its search finds first.** -/
theorem alone_dequeue (hpending : ∃ id d, w.index.doc id = some d ∧ d.status = .pending) :
    (ofQueue dequeue).run.Alone (Undisturbed host)
      (Returns fun es claimed _ => ∃ hit entry, claimed = some entry ∧ entry.id = hit.id ∧
        w.index.doc hit.id = some hit.source ∧ hit.source.status = .pending ∧
        recencyExcluded deps entry = recencyExcluded deps (toEntry hit.id hit.source) ∧
        Began past [] [hit] es) past w := by
  refine alone_queue_bind (alone_search _) fun es hits w' hsearch => ?_
  obtain ⟨⟨ids, hperm, rfl⟩, hkept, rfl⟩ := hsearch
  obtain ⟨id, d, hd, hstatus⟩ := hpending
  have hmem : (⟨id, d⟩ : Hit) ∈ w.index.hits ids := by
    refine EsWorld.mem_hits.2 ⟨hperm.mem_iff.2 (EsWorld.mem_matching.2 ?_), hd⟩
    rw [hd]
    simp [Query.matches, pendingQuery, hstatus]
  cases hhits : w.index.hits ids with
  | nil =>
    rw [hhits] at hmem
    cases hmem
  | cons hit rest =>
    have hfirst : hit ∈ (w.index.hits ids).take 1 := by
      rw [hhits]
      exact List.mem_cons_self
    obtain ⟨hdoc, hmatch⟩ := matches_of_hit hperm hfirst
    have hpend : hit.source.status = .pending :=
      List.mem_singleton.1 (mem_of_matches (q := pendingQuery 1) rfl hmatch)
    rw [show List.take (pendingQuery 1).size (hit :: rest) = [hit] from rfl]
    dsimp only [List.head?_cons]
    have hpicked : Began past [] [hit] (past ++ [⟨.es (.search (pendingQuery 1)), .ok [hit], w, w'⟩]) := by
      refine ⟨?_, ?_⟩
      · rw [begun_append]
        rfl
      · rw [picked_append]
        rfl
    refine alone_queue_bind passive_now fun es now w₁ hnow => ?_
    refine alone_queue_bind passive_uuid fun es₁ token w₂ huuid => ?_
    refine alone_queue_bind (alone_update hit.id (.dequeue now token)) fun es₂ result w₃ hupdate => ?_
    obtain ⟨⟨t, d₁, hd₁, hcases⟩, rfl⟩ := hupdate
    have hearlier := hnow.trans huuid
    obtain ⟨d₀, hd₀, hstill⟩ := (hkept.trans hearlier.kept).doc hd₁
    obtain rfl := Option.some.inj (hdoc.symm.trans hd₀)
    have hstatus₁ : d₁.status = .pending := (status_of_still hstill).symm.trans hpend
    rcases hcases with ⟨-, hnone, -⟩ | ⟨d', rfl, happly, rfl⟩
    · rw [Script.apply, if_pos hstatus₁] at hnone
      cases hnone
    · rw [Script.apply, if_pos hstatus₁] at happly
      rw [if_neg (by decide)]
      refine alone_queue_bind (passive_get hit.id) fun es₃ found w₄ hget => ?_
      obtain ⟨⟨g, rfl, hgid, hgdoc⟩, hquiet⟩ := hget
      have hput : (w₂.index.put hit.id d').doc hit.id = some d' := by
        rw [EsWorld.doc_put hd₁, if_pos rfl]
      have hsource : g.source = d' := Option.some.inj (hgdoc.symm.trans hput)
      have hpast : Began past [] [hit] es₃ := by
        have hlast : Began es₁ [] [] (es₁ ++ [⟨.es (.update hit.id (.dequeue now token)), .ok .updated,
            w₂, { w₂ with index := (w₂.index.pass t).put hit.id d' }⟩]) :=
          silent_began (by rintro e he; rw [List.mem_singleton.1 he]; rfl)
        exact ((hpicked.trans hearlier.began).trans hlast).trans hquiet.began
      refine ⟨_, rfl, hit, toEntry g.id g.source, rfl, hgid, hdoc, hpend, ?_, hpast⟩
      rw [hsource, ← Option.some.inj happly]
      have hmodel : hit.source.modelId = d₁.modelId := by
        have heq := congrArg EsSource.modelId hstill
        exact heq
      have hmetadata : hit.source.metadata = d₁.metadata := by
        have heq := congrArg EsSource.metadata hstill
        exact heq
      simp only [recencyExcluded, toEntry, hmodel, hmetadata]
      rfl

theorem IntakeDue.kept {w' : FleetWorld} (h : IntakeDue deps host w) (hkept : Kept host w w') :
    IntakeDue deps host w' where
  pending := by
    obtain ⟨id, d, hd, hstatus⟩ := h.pending
    obtain ⟨d', hd', hstill⟩ := hkept.symm_docs hd
    exact ⟨id, d', hd', (status_of_still hstill).trans hstatus⟩
  owned := hkept.allOwned h.owned
  deferred := hkept.deferred.trans h.deferred
  cap := hkept.not_capReached h.cap
  room := by
    rw [hkept.activeRuns]
    exact h.room

/-- What a poll that should take in an entry does. -/
inductive Intake (deps : SchedulerDeps) (host : ℕ) (w : FleetWorld) (es : List DaemonEvent) : Prop
  /-- The scheduler is shutting down, or has found an entry in flight, which it owns. -/
  | idle : (w.host host).shuttingDown = true ∨ ¬ NoneInFlight w → Began [] [] [] es → Intake deps host w es
  /-- A pending entry was claimed. -/
  | claimed (hit : Hit) : (w.host host).shuttingDown = false → NoneInFlight w →
    (∃ d, w.index.doc hit.id = some d ∧ d.status = .pending) →
    Began [] (if recencyExcluded deps (toEntry hit.id hit.source) = true then [] else [hit.id]) [hit] es →
    Intake deps host w es

theorem Kept.noneInFlight {w' : FleetWorld} (h : Kept host w w') : NoneInFlight w' ↔ NoneInFlight w := by
  constructor
  · intro hnone id d hd
    obtain ⟨d', hd', hstill⟩ := h.symm_docs hd
    rw [← status_of_still hstill]
    exact hnone id d' hd'
  · intro hnone id d hd
    obtain ⟨d₀, hd₀, hstill⟩ := h.doc hd
    rw [← status_of_still hstill]
    exact hnone id d₀ hd₀

/-- The entry that `getCurrent` finds is in flight; it finds one if there is any. -/
theorem passive_getCurrent : (ofQueue getCurrent).run.Alone (Undisturbed host)
    (Returns fun es found w' => (∀ e, found = some e → ∃ d, w.index.doc e.id = some d ∧
      d.status.inFlight = true) ∧ (found = none → NoneInFlight w) ∧ Passive host w past w' es) past w := by
  refine alone_queue_bind (alone_search _) fun es hits w' hsearch => ?_
  obtain ⟨⟨ids, hperm, rfl⟩, hkept, rfl⟩ := hsearch
  refine ⟨_, rfl, fun e he => ?_, fun hnone id d hd => ?_, .snoc (by decide) hkept⟩
  · obtain ⟨hit, hhit, rfl⟩ := Option.map_eq_some_iff.1 he
    obtain ⟨hd, hmatch⟩ := matches_of_hit hperm (List.mem_of_mem_head? hhit)
    exact ⟨hit.source, hd, inFlight_of_mem (mem_of_matches rfl hmatch)⟩
  · by_contra hflight
    have hmem : (⟨id, d⟩ : Hit) ∈ w.index.hits ids := by
      refine EsWorld.mem_hits.2 ⟨hperm.mem_iff.2 (EsWorld.mem_matching.2 ?_), hd⟩
      rw [hd]
      cases hs : d.status <;> simp_all [Query.matches, Status.inFlight]
    cases hhits : w.index.hits ids with
    | nil =>
      rw [hhits] at hmem
      cases hmem
    | cons hit rest =>
      rw [hhits] at hnone
      cases hnone

/-- The body of a poll, once there is room. -/
theorem alone_pollBody (hdue : IntakeDue deps host w) :
    (ofSched (pollBody deps)).run.Alone (Undisturbed host)
      (fun es _ _ => (¬ NoneInFlight w ∧ Began past [] [] es) ∨
        ∃ hit, NoneInFlight w ∧ (∃ d, w.index.doc hit.id = some d ∧ d.status = .pending) ∧
          Began past (if recencyExcluded deps (toEntry hit.id hit.source) = true then [] else [hit.id])
            [hit] es) past w := by
  have hcurrent : (ofSched (queueCall .getCurrent)).run.Alone (Undisturbed host)
      (Returns fun es found w' => (∀ e, found = some e → ∃ d, w.index.doc e.id = some d ∧
        d.status.inFlight = true) ∧ (found = none → NoneInFlight w) ∧ Passive host w past w' es)
      past w := by
    rw [ofSched_queueCall]
    exact passive_getCurrent
  refine alone_sched_bind hcurrent fun es found w₁ hfound => ?_
  obtain ⟨hsome, hnone, hquiet⟩ := hfound
  cases found with
  | some entry =>
    obtain ⟨d, hd, hflight⟩ := hsome entry rfl
    have howns : (OwnOp.owns entry.id).Keeps := fun s => ⟨rfl, rfl, rfl, rfl⟩
    have hin : entry.id ∈ (w₁.host host).entryInProcess := by
      rw [hquiet.kept.inProcess]
      exact hdue.owned entry.id d hd hflight
    refine alone_sched_bind (passive_own howns rfl) fun es' owned w₂ hown => ?_
    rw [hown.1, show ((OwnOp.owns entry.id).apply (w₁.host host)).1 = true from
      decide_eq_true (.inl hin), if_pos rfl]
    refine .inl ⟨fun hno => ?_, (hquiet.trans hown.2).began⟩
    rw [hno entry.id d hd] at hflight
    cases hflight
  | none =>
    have hfree := hnone rfl
    refine alone_sched_bind (passive_isDailyCostCapReached (hquiet.kept.not_capReached hdue.cap))
      fun es' reached w₂ hcap => ?_
    obtain ⟨rfl, hcap⟩ := hcap
    have hearlier := hquiet.trans hcap
    obtain ⟨id, d, hd, hstatus⟩ := hdue.pending
    obtain ⟨d', hd', hstill⟩ := hearlier.kept.symm_docs hd
    have hdequeue : (ofSched (queueCall .dequeue)).run.Alone (Undisturbed host)
        (Returns fun fs claimed _ => ∃ hit entry, claimed = some entry ∧ entry.id = hit.id ∧
          w₂.index.doc hit.id = some hit.source ∧ hit.source.status = .pending ∧
          recencyExcluded deps entry = recencyExcluded deps (toEntry hit.id hit.source) ∧
          Began es' [] [hit] fs) es' w₂ := by
      rw [ofSched_queueCall]
      exact alone_dequeue ⟨id, d', hd', (status_of_still hstill).trans hstatus⟩
    rw [if_neg Bool.false_ne_true]
    refine alone_sched_bind hdequeue fun fs claimed w₃ hclaimed => ?_
    obtain ⟨hit, entry, rfl, hid, hdoc, hpend, hexcluded, hfs⟩ := hclaimed
    refine alone_takeEntry.mono fun gs r w₄ hgs => .inr ⟨hit, hfree, ?_, ?_⟩
    · obtain ⟨d₀, hd₀, hstill₀⟩ := hearlier.kept.doc hdoc
      exact ⟨d₀, hd₀, (status_of_still hstill₀).trans hpend⟩
    · rw [hexcluded, hid] at hgs
      exact (hearlier.began.trans hfs).trans hgs

/-- **What a poll that runs alone takes in.** -/
theorem alone_poll (hdue : IntakeDue deps host w) :
    (ofSched (poll deps)).run.Alone (Undisturbed host) (fun es _ _ => Intake deps host w es) [] w := by
  have hdown : OwnOp.isShuttingDown.Keeps := fun s => ⟨rfl, rfl, rfl, rfl⟩
  have hroom : (OwnOp.hasRoom deps.maxConcurrentRuns).Keeps := fun s => ⟨rfl, rfl, rfl, rfl⟩
  refine alone_sched_bind (passive_own hdown rfl) fun es down w₁ hown => ?_
  cases hstop : (w.host host).shuttingDown with
  | true =>
    rw [hown.1, show (OwnOp.isShuttingDown.apply (w.host host)).1 = true from hstop, if_pos rfl]
    exact .idle (.inl hstop) hown.2.began
  | false =>
    rw [hown.1, show (OwnOp.isShuttingDown.apply (w.host host)).1 = false from hstop,
      if_neg Bool.false_ne_true]
    refine alone_sched_bind passive_heartbeatActiveEntries fun es₁ _ w₂ hbeat => ?_
    have hquiet := hown.2.trans hbeat
    refine alone_sched_bind (passive_reclaimStuckEntries (hquiet.kept.allOwned hdue.owned))
      fun es₂ _ w₃ hreclaim => ?_
    have hquiet := hquiet.trans hreclaim
    refine alone_sched_bind (passive_own hroom rfl) fun es₃ room w₄ hhas => ?_
    have hyes : ((OwnOp.hasRoom deps.maxConcurrentRuns).apply (w₃.host host)).1 = true := by
      refine decide_eq_true ⟨?_, ?_⟩
      · rw [hquiet.kept.activeRuns]
        exact hdue.room
      · rw [hquiet.kept.deferred]
        exact hdue.deferred
    have hquiet := hquiet.trans hhas.2
    have hdue' : IntakeDue deps host w₄ := hdue.kept hquiet.kept
    rw [hhas.1, hyes, if_pos rfl]
    refine alone_sched_bind (alone_sched_attempt (alone_pollBody hdue')) fun fs r w₅ hfs => ?_
    rcases hfs with ⟨hsome, hfs⟩ | ⟨hit, hfree, ⟨d, hd, hstatus⟩, hfs⟩
    · exact .idle (.inr fun hno => hsome (hquiet.kept.noneInFlight.2 hno)) (hquiet.began.trans hfs)
    · obtain ⟨d₀, hd₀, hstill⟩ := hquiet.kept.doc hd
      exact .claimed hit hstop (hquiet.kept.noneInFlight.1 hfree)
        ⟨d₀, hd₀, (status_of_still hstill).trans hstatus⟩ (hquiet.began.trans hfs)

/-- **When a poll takes in the next entry.** A poll that runs alone, with an entry pending, every entry in
flight owned, no deferred poll, the cost cap not reached and room for a run, begins exactly one pending
entry when the scheduler is not shutting down, nothing is in flight, and the entry that the search of
`dequeue` finds is not retired. -/
theorem begins_one_iff {es : List DaemonEvent} {r : Except JsError Unit} {w' : FleetWorld}
    (hdue : IntakeDue deps host w) (hrun : (ofSched (poll deps)).run.Runs es r)
    (halone : Chain (Undisturbed host) w es w') :
    BeginsOne w es ↔ (w.host host).shuttingDown = false ∧ NoneInFlight w ∧
      ∀ hit ∈ picked es, recencyExcluded deps (toEntry hit.id hit.source) = false := by
  have hintake := (alone_poll hdue).runs hrun halone
  rw [List.nil_append] at hintake
  cases hintake with
  | idle hwhy hbegan =>
    have hnone : begun es = [] := hbegan.1
    constructor
    · rintro ⟨id, d, hone, -⟩
      rw [hnone] at hone
      cases hone
    · rintro ⟨hrunning, hfree, -⟩
      rcases hwhy with hdown | hflight
      · rw [hrunning] at hdown
        cases hdown
      · exact absurd hfree hflight
  | claimed hit hrunning hfree hpending hbegan =>
    have hpicked : picked es = [hit] := hbegan.2
    have hbegun := hbegan.1
    rw [hpicked]
    by_cases hexcluded : recencyExcluded deps (toEntry hit.id hit.source) = true
    · rw [if_pos hexcluded] at hbegun
      constructor
      · rintro ⟨id, d, hone, -⟩
        rw [hbegun] at hone
        cases hone
      · rintro ⟨-, -, hno⟩
        rw [hno hit (List.mem_singleton_self hit)] at hexcluded
        cases hexcluded
    · rw [if_neg hexcluded] at hbegun
      obtain ⟨d, hd, hstatus⟩ := hpending
      refine iff_of_true ⟨hit.id, d, hbegun, hd, hstatus⟩ ⟨hrunning, hfree, fun h hh => ?_⟩
      rw [List.mem_singleton.1 hh]
      exact Bool.eq_false_iff.2 hexcluded

end Poll

/-! ## Two runs -/

/-- How the world serves a request that succeeds. -/
def serveSucceeding (host : ℕ) (o : FleetOp) (ch : FleetChoice) (w : FleetWorld) :
    Option (FleetAns o × FleetWorld) := (serveFleet host o ch w).filter fun a => o.succeeds a.1

theorem undisturbed_of_serveSucceeding {host : ℕ} (o : FleetOp) (w : FleetWorld) (r : FleetAns o)
    (w' : FleetWorld) (h : ∃ ch, serveSucceeding host o ch w = some (r, w')) : Undisturbed host o w r w' := by
  obtain ⟨ch, h⟩ := h
  obtain ⟨hserve, hok⟩ := Option.filter_eq_some_iff.1 h
  exact ⟨⟨0, ch, hserve⟩, hok⟩

/-- A scheduler for two runs at a time. -/
def twoRunsDeps : SchedulerDeps := { oneSuiteDeps with maxConcurrentRuns := 2 }

/-- A poll along given choices. -/
def playPoll (w : FleetWorld) (chs : List FleetChoice) :
    Option (List DaemonEvent × Except JsError Unit × FleetWorld) :=
  (ofSched (poll twoRunsDeps)).run.play (serveSucceeding 0) chs w

/-- A queue document of a model. -/
def queuedDoc (modelId : String) (status : Status) (leaseToken : Option String) : Stored :=
  ⟨⟨modelId, .discovery, 0, status, 0, leaseToken.map fun _ => 0, none, none, none, leaseToken,
    leaseToken.map fun _ => 0, none⟩, 0, 1⟩

/-- A scheduler that runs entry 0 while entry 1 waits. -/
def oneRunning : FleetWorld where
  index := { docs := [queuedDoc "a/m" .deploying (some "t"), queuedDoc "b/m" .pending none], nextSeqNo := 1 }
  host := Function.update (fun _ => {}) 0
    { activeRuns := 1, entryInProcess := [0], entryLeases := [(0, "t")] }

/-- A scheduler that runs nothing while entry 0 waits. -/
def oneWaiting : FleetWorld where
  index := { docs := [queuedDoc "b/m" .pending none], nextSeqNo := 1 }

abbrev ownStep : FleetChoice := .sched networkDown false

theorem oneRunning_due : IntakeDue twoRunsDeps 0 oneRunning where
  pending := ⟨1, _, rfl, rfl⟩
  owned id d hd hflight := by
    match id, hd with
    | 0, _ => exact List.mem_singleton_self 0
    | 1, hd =>
      cases hd
      cases hflight
  deferred := rfl
  cap := fun ⟨_, hcaps, _⟩ => nomatch hcaps
  room := by decide

theorem oneWaiting_due : IntakeDue twoRunsDeps 0 oneWaiting where
  pending := ⟨0, _, rfl, rfl⟩
  owned id d hd hflight := by
    match id, hd with
    | 0, hd =>
      cases hd
      cases hflight
  deferred := rfl
  cap := fun ⟨_, hcaps, _⟩ => nomatch hcaps
  room := by decide

/-- A poll of the scheduler that runs nothing begins the entry that waits. -/
theorem oneWaiting_begins : ∃ es r w', (ofSched (poll twoRunsDeps)).run.Runs es r ∧
    Chain (Undisturbed 0) oneWaiting es w' ∧ BeginsOne oneWaiting es := by
  have hplay : (playPoll oneWaiting [ownStep, ownStep, ownStep, ownStep, ownStep, .es (.hits []),
      .es (.hits [0]), .es .ok, .es (.uuid "u"), .es .ok, .es .ok, ownStep, ownStep]).any
        (fun x => (picked x.1).length = 1) = true := by
    decide +kernel
  obtain ⟨⟨es, r, w'⟩, hx, hpicked⟩ := (Option.any_eq_true _ _).mp hplay
  obtain ⟨hruns, hchain⟩ := runs_play hx
  have halone := hchain.mono undisturbed_of_serveSucceeding
  refine ⟨es, r, w', hruns, halone, (begins_one_iff oneWaiting_due hruns halone).2 ⟨rfl, ?_, ?_⟩⟩
  · intro id d hd
    match id, hd with
    | 0, hd =>
      cases hd
      rfl
  · intro hit _
    simp [recencyExcluded, findMatchingExcludePattern, twoRunsDeps, oneSuiteDeps]

/-- **A running entry blocks the next one.** The scheduler has room for a second run, and its poll begins
nothing. -/
theorem oneRunning_blocked : IntakeDue twoRunsDeps 0 oneRunning ∧
    ∃ es r w', (ofSched (poll twoRunsDeps)).run.Runs es r ∧ Chain (Undisturbed 0) oneRunning es w' ∧
      ¬ BeginsOne oneRunning es := by
  have hplay : (playPoll oneRunning [ownStep, ownStep, ownStep, .es .ok, .es .ok, ownStep, ownStep, ownStep,
      .es (.hits [0]), ownStep]).any (fun x => begun x.1 = []) = true := by
    decide +kernel
  obtain ⟨⟨es, r, w'⟩, hx, hbegun⟩ := (Option.any_eq_true _ _).mp hplay
  obtain ⟨hruns, hchain⟩ := runs_play hx
  refine ⟨oneRunning_due, es, r, w', hruns, hchain.mono undisturbed_of_serveSucceeding, ?_⟩
  rintro ⟨id, d, hone, -⟩
  rw [of_decide_eq_true hbegun] at hone
  cases hone

end Benchmarker
