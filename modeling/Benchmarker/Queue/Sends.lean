import Benchmarker.Queue.Service

/-!
# What a queue call sends

Each method of the queue service sends few kinds of writes, and the writes that matter depend on
what the call has read before: a claiming script carries the token that was drawn just before it,
and a terminal write names the version of an entry that was read under the caller's lease.

* `Sends`: the requests that a call may send after a history.
* **`queueService_sends`**: every method keeps to it; `sends_reach` is the same along runs.
* `runs_writeTerminalFenced`, `runs_dequeue`, `runs_adoptEntry`: the histories of the calls whose
  report matters.
-/

namespace Benchmarker

open Async Async.Prog Async.System

/-- A request of a queue call, its answer, and the index before and after. -/
abbrev EsEvent : Type := Event EsAns EsWorld

/-- The history ends with the draw of the token `t`. -/
def EndsWithDraw (past : List EsEvent) (t : String) : Prop :=
  ∃ es pre post, past = es ++ [⟨.randomUUID, t, pre, post⟩]

/-- A read of the history found the entry `id` as `g`. -/
def HasRead (past : List EsEvent) (id : ℕ) (g : GetResult) : Prop :=
  ∃ pre post, (⟨.get id, .ok (some g), pre, post⟩ : EsEvent) ∈ past

/-- The history ends with a dedupe search that found no active entry of the model and a look at the
clock. -/
def EndsWithSearch (past : List EsEvent) (m : String) : Prop :=
  ∃ es now u v pre post,
    past = es ++ [⟨.search (existingQuery m), .ok [], u, v⟩, ⟨.now, now, pre, post⟩]

/-- The calls that draw a token. -/
def QueueCall.draws : QueueCall → Bool
  | .dequeue | .adoptEntry _ => true
  | _ => false

/-- The calls that reset in-flight entries to `pending`. -/
def QueueCall.reclaims : QueueCall → Bool
  | .reclaimEntry _ | .reclaimStaleEntries _ _ => true
  | _ => false

/-- The calls that cancel pending entries. -/
def QueueCall.cancels : QueueCall → Bool
  | .cancel _ | .cancelAllPending => true
  | _ => false

/-- The requests that a queue call may send after a history. -/
inductive Sends : QueueCall → List EsEvent → EsOp → Prop
  | read {c : QueueCall} {past : List EsEvent} {o : EsOp} (reads : o.reads = true) : Sends c past o
  | draw {c : QueueCall} {past : List EsEvent} (draws : c.draws = true) : Sends c past .randomUUID
  | index {m : String} {s : Source} {p : Option ℤ} {r : Option String} {md : Option EntryMetadata}
      {past : List EsEvent} (now : Time) (searched : EndsWithSearch past m) :
      Sends (.enqueue m s p r md) past (.index (enqueueDoc m s p r md now))
  | dequeue {past : List EsEvent} {id : ℕ} {now : Time} {t : String} (drawn : EndsWithDraw past t) :
      Sends .dequeue past (.update id (.dequeue now t))
  | adoptEntry {past : List EsEvent} {id : ℕ} {now : Time} {t : String}
      (drawn : EndsWithDraw past t) : Sends (.adoptEntry id) past (.update id (.adoptEntry now t))
  | reclaimEntry {c : QueueCall} {past : List EsEvent} {id : ℕ} (reclaims : c.reclaims = true) :
      Sends c past (.update id .reclaimEntry)
  | heartbeat {past : List EsEvent} {id : ℕ} {now : Time} {t : String} :
      Sends (.heartbeat id t) past (.update id (.heartbeat now t))
  | updateStatus {past : List EsEvent} {id : ℕ} {s : Status} {msg t : Option String} {now : Time} :
      Sends (.updateStatus id s msg t) past (.update id (.updateStatus s now msg (truthy t)))
  | failActive {past : List EsEvent} {id : ℕ} {msg : String} {now : Time} :
      Sends (.failActiveEntries msg) past (.update id (.updateStatus .failed now (some msg) none))
  | updateProgress {past : List EsEvent} {id : ℕ} {p : PipelineProgress} {t : Option String} :
      Sends (.updateProgress id p t) past
        (.update id (.updateProgress (mapPipelineProgressToEs p) (truthy t)))
  | cancel {c : QueueCall} {past : List EsEvent} {id : ℕ} {now : Time} (cancels : c.cancels = true) :
      Sends c past (.update id (.cancel now))
  | requeue {ids : List ℕ} {past : List EsEvent} {id : ℕ} {now : Time} (listed : id ∈ ids) :
      Sends (.requeueFailedEntries ids) past (.update id (.requeueFailedEntries now))
  | terminal {c : TerminalCall} {past : List EsEvent} {g : GetResult} {now : Time}
      (found : HasRead past c.id g) (lease : g.source.leaseToken = some c.token)
      (running : g.source.status.terminal = false) :
      Sends (.terminal c) past
        (.updateDoc c.id (terminalDoc c.status c.message now) g.seqNo g.primaryTerm)

/-- Only a terminal call sends a compare-and-set. -/
theorem Sends.updateDoc_inv {c : QueueCall} {past : List EsEvent} {id : ℕ} {doc : PartialDoc}
    {n p : ℕ} (h : Sends c past (.updateDoc id doc n p)) : ∃ (tc : TerminalCall) (g : GetResult)
      (now : Time), c = .terminal tc ∧ id = tc.id ∧ doc = terminalDoc tc.status tc.message now ∧
        n = g.seqNo ∧ HasRead past tc.id g ∧ g.source.leaseToken = some tc.token ∧
        g.source.status.terminal = false := by
  cases h with
  | read hr => simp [EsOp.reads] at hr
  | terminal found lease running => exact ⟨_, _, _, rfl, rfl, rfl, rfl, found, lease, running⟩

/-- The token that a script installs. -/
def Script.claims : Script → Option String
  | .dequeue _ t | .adoptEntry _ t => some t
  | _ => none

/-- No terminal call sends a script, and a claiming script carries the token drawn just before. -/
theorem Sends.update_inv {c : QueueCall} {past : List EsEvent} {id : ℕ} {script : Script}
    (h : Sends c past (.update id script)) :
    (∀ tc, c ≠ .terminal tc) ∧ ∀ t, script.claims = some t → EndsWithDraw past t := by
  cases h with
  | read hr => cases hr
  | dequeue drawn => exact ⟨nofun, fun t ht => Option.some.inj ht ▸ drawn⟩
  | adoptEntry drawn => exact ⟨nofun, fun t ht => Option.some.inj ht ▸ drawn⟩
  | reclaimEntry hr => exact ⟨fun tc hc => by simp [hc, QueueCall.reclaims] at hr, nofun⟩
  | cancel hc' => exact ⟨fun tc hc => by simp [hc, QueueCall.cancels] at hc', nofun⟩
  | _ => exact ⟨nofun, nofun⟩

/-- Only `enqueue` adds an entry. -/
theorem Sends.index_inv {c : QueueCall} {past : List EsEvent} {d : EsSource}
    (h : Sends c past (.index d)) : ∃ m s p r md now,
      c = .enqueue m s p r md ∧ d = enqueueDoc m s p r md now ∧ EndsWithSearch past m := by
  cases h with
  | read hr => simp [EsOp.reads] at hr
  | index now searched => exact ⟨_, _, _, _, _, _, rfl, rfl, searched⟩

/-- Only `dequeue` and `adoptEntry` draw. -/
theorem Sends.draws_of_randomUUID {c : QueueCall} {past : List EsEvent}
    (h : Sends c past .randomUUID) : c.draws = true := by
  cases h with
  | read hr => simp [EsOp.reads] at hr
  | draw hd => exact hd

/-! ## The methods, one by one -/

section Methods

variable {c : QueueCall} {past : List EsEvent}

theorem sends_esSearch (q : Query) : (esSearch q).run.Issues (Sends c) past :=
  issues_request (.read rfl)

theorem sends_esGet (id : ℕ) : (esGet id).run.Issues (Sends c) past := issues_request (.read rfl)

theorem sends_dateNow : dateNow.run.Issues (Sends c) past := issues_lift (issues_request (.read rfl))

theorem sends_randomUUID (h : c.draws = true) : randomUUID.run.Issues (Sends c) past :=
  issues_lift (issues_request (.draw h))

theorem sends_esUpdate {id : ℕ} {script : Script} (h : Sends c past (.update id script)) :
    (esUpdate id script).run.Issues (Sends c) past := issues_request h

/-- The history of a look at the clock. -/
theorem runs_dateNow {es : List EsEvent} {t : Time} :
    dateNow.run.Runs es (.ok t) ↔ ∃ pre post, es = [⟨.now, t, pre, post⟩] := by
  rw [dateNow, runs_lift]
  simp [runs_request]

/-- The history of a draw. -/
theorem runs_randomUUID {es : List EsEvent} {t : String} :
    randomUUID.run.Runs es (.ok t) ↔ ∃ pre post, es = [⟨.randomUUID, t, pre, post⟩] := by
  rw [randomUUID, runs_lift]
  simp [runs_request]

theorem endsWithDraw_of_runs {es : List EsEvent} {t : String}
    (h : randomUUID.run.Runs es (.ok t)) : EndsWithDraw (past ++ es) t := by
  obtain ⟨pre, post, rfl⟩ := runs_randomUUID.mp h
  exact ⟨past, pre, post, rfl⟩

theorem sends_enqueue {m : String} {s : Source} {p : Option ℤ} {r : Option String}
    {md : Option EntryMetadata} :
    (enqueue m s p r md).run.Issues (Sends (.enqueue m s p r md)) past := by
  unfold enqueue
  refine (sends_esSearch _).throws_bind fun es hits hs => ?_
  obtain ⟨pre, post, rfl⟩ := runs_request.mp hs
  cases hits with
  | cons hit hits => exact issues_throws_pure _
  | nil =>
    refine sends_dateNow.throws_bind fun es now hn => ?_
    obtain ⟨u, v, rfl⟩ := runs_dateNow.mp hn
    refine Issues.throws_bind' (issues_request (.index now ⟨past, now, pre, post, u, v, ?_⟩))
      fun _ _ => issues_throws_pure _
    simp

theorem sends_dequeue : dequeue.run.Issues (Sends .dequeue) past := by
  unfold dequeue
  refine (sends_esSearch _).throws_bind' fun past hits => ?_
  cases hits.head? with
  | none => exact issues_throws_pure _
  | some hit =>
    refine sends_dateNow.throws_bind' fun past now => ?_
    refine (sends_randomUUID rfl).throws_bind fun es t ht => ?_
    refine (sends_esUpdate (.dequeue (endsWithDraw_of_runs ht))).throws_bind' fun past result => ?_
    split
    · exact issues_throws_pure _
    · refine (sends_esGet _).throws_bind' fun past got => ?_
      cases got with
      | none => exact issues_throw _
      | some got => exact issues_throws_pure _

theorem sends_getById {id : ℕ} : (getById id).run.Issues (Sends c) past := by
  unfold getById
  refine (issues_attempt (sends_esGet id)).throws_bind' fun past r => ?_
  split
  · exact issues_throws_pure _
  · exact issues_throws_pure _
  · split
    · exact issues_throws_pure _
    · exact issues_throw _

theorem sends_getActiveEntries : getActiveEntries.run.Issues (Sends c) past :=
  (sends_esSearch _).throws_bind' fun _ _ => issues_throws_pure _

theorem sends_updateStatus {id : ℕ} {s : Status} {msg t : Option String}
    (h : ∀ past now, Sends c past (.update id (.updateStatus s now msg (truthy t)))) :
    (updateStatus id s msg t).run.Issues (Sends c) past :=
  sends_dateNow.throws_bind' fun past now =>
    (sends_esUpdate (h past now)).throws_bind' fun _ _ => issues_throws_pure _

theorem sends_failEach {msg : String} (entries : List QueueEntry) :
    (failEach msg entries).run.Issues (Sends (.failActiveEntries msg)) past := by
  induction entries generalizing past with
  | nil => exact issues_throws_pure _
  | cons entry entries ih =>
    exact (sends_updateStatus fun _ _ => .failActive).throws_bind' fun _ _ => ih

theorem sends_failActiveEntries {msg : String} :
    (failActiveEntries msg).run.Issues (Sends (.failActiveEntries msg)) past :=
  sends_getActiveEntries.throws_bind' fun _ entries =>
    (sends_failEach entries).throws_bind' fun _ _ => issues_throws_pure _

theorem sends_reclaimEntry {id : ℕ} (h : c.reclaims = true) :
    (reclaimEntry id).run.Issues (Sends c) past :=
  (sends_esUpdate (.reclaimEntry h)).throws_bind' fun _ _ => issues_throws_pure _

theorem sends_reclaimEach {ms : ℕ} {ids : List ℕ} {now : Time} (h : c.reclaims = true)
    (entries : List QueueEntry) {n : ℕ} :
    (reclaimEach ms ids now entries n).run.Issues (Sends c) past := by
  induction entries generalizing past n with
  | nil => exact issues_throws_pure _
  | cons entry entries ih =>
    unfold reclaimEach
    split
    · exact ih
    · exact (sends_reclaimEntry h).throws_bind' fun _ _ => ih

theorem sends_reclaimStaleEntries {ms : ℕ} {ids : List ℕ} (h : c.reclaims = true) :
    (reclaimStaleEntries ms ids).run.Issues (Sends c) past :=
  sends_getActiveEntries.throws_bind' fun _ entries =>
    sends_dateNow.throws_bind' fun _ _ => sends_reclaimEach h entries

theorem sends_heartbeat {id : ℕ} {t : String} :
    (heartbeat id t).run.Issues (Sends (.heartbeat id t)) past :=
  sends_dateNow.throws_bind' fun _ _ =>
    (sends_esUpdate .heartbeat).throws_bind' fun _ _ => issues_throws_pure _

theorem sends_adoptEntry {id : ℕ} : (adoptEntry id).run.Issues (Sends (.adoptEntry id)) past := by
  unfold adoptEntry
  refine sends_dateNow.throws_bind' fun past now => ?_
  refine (sends_randomUUID rfl).throws_bind fun es t ht => ?_
  exact (sends_esUpdate (.adoptEntry (endsWithDraw_of_runs ht))).throws_bind' fun _ _ =>
    issues_throws_pure _

theorem sends_updateProgress {id : ℕ} {p : PipelineProgress} {t : Option String} :
    (updateProgress id p t).run.Issues (Sends (.updateProgress id p t)) past :=
  (sends_esUpdate .updateProgress).throws_bind' fun _ _ => issues_throws_pure _

theorem sends_cancel {id : ℕ} (h : c.cancels = true) : (cancel id).run.Issues (Sends c) past := by
  unfold cancel
  refine sends_dateNow.throws_bind' fun past now => ?_
  refine (issues_attempt (sends_esUpdate (.cancel h))).throws_bind' fun past r => ?_
  cases r with
  | ok result => exact issues_throws_pure _
  | error err =>
    dsimp only
    split
    · exact issues_throws_pure _
    · exact issues_throw _

theorem sends_findPending {n : ℕ} : (findPending n).run.Issues (Sends c) past :=
  (sends_esSearch _).throws_bind' fun _ _ => issues_throws_pure _

theorem sends_cancelEach (h : c.cancels = true) (entries : List QueueEntry) {n : ℕ} :
    (cancelEach entries n).run.Issues (Sends c) past := by
  induction entries generalizing past n with
  | nil => exact issues_throws_pure _
  | cons entry entries ih => exact (sends_cancel h).throws_bind' fun _ _ => ih

theorem sends_requeueEach {ids : List ℕ} {now : Time} (rest : List ℕ) {n : ℕ}
    (h : ∀ id ∈ rest, id ∈ ids) :
    (requeueEach now rest n).run.Issues (Sends (.requeueFailedEntries ids)) past := by
  induction rest generalizing past n with
  | nil => exact issues_throws_pure _
  | cons id rest ih =>
    exact (sends_esUpdate (.requeue (h id List.mem_cons_self))).throws_bind' fun _ _ =>
      ih fun id' h' => h id' (List.mem_cons_of_mem _ h')

/-- The attempts of a terminal write: each writes only the version that its own read found under
the caller's lease, still running. -/
theorem sends_writeTerminalLoop {c : TerminalCall} (attempts : ℕ) :
    (writeTerminalLoop c.id c.status c.message c.token attempts).run.Issues
      (Sends (.terminal c)) past := by
  induction attempts generalizing past with
  | zero => exact issues_throws_pure _
  | succ attempts ih =>
    unfold writeTerminalLoop
    refine (issues_attempt (sends_esGet _)).throws_bind fun es r hr => ?_
    split
    · split
      · exact issues_throws_pure _
      · exact issues_throw _
    · exact issues_throws_pure _
    · rename_i current
      obtain ⟨pre, post, rfl⟩ := runs_request.mp (runs_attempt.mp hr)
      split
      · exact issues_throws_pure _
      · rename_i hlease
        split
        · exact issues_throws_pure _
        · rename_i hrunning
          refine sends_dateNow.throws_bind fun es' now _ => ?_
          refine (issues_attempt (issues_request (.terminal (g := current) ⟨pre, post, by simp⟩
            (by simpa using hlease) (by simpa using hrunning)))).throws_bind' fun past r => ?_
          split
          · exact issues_throws_pure _
          · split
            · exact ih
            · exact issues_throw _

end Methods

/-- **Every method keeps to what its call may send.** -/
theorem queueService_sends (c : QueueCall) (past : List EsEvent) :
    (queueService c).run.Issues (Sends c) past := by
  cases c with
  | enqueue m s p r md => exact sends_enqueue
  | dequeue => exact sends_dequeue
  | getById id => exact sends_getById
  | getCurrent => exact (sends_esSearch _).throws_bind' fun _ _ => issues_throws_pure _
  | getActiveEntries => exact sends_getActiveEntries
  | failActiveEntries msg => exact sends_failActiveEntries
  | reclaimStaleEntries ms ids => exact sends_reclaimStaleEntries rfl
  | reclaimEntry id => exact sends_reclaimEntry rfl
  | heartbeat id t => exact sends_heartbeat
  | adoptEntry id => exact sends_adoptEntry
  | terminal c => rw [queueService, c.body_eq]; exact sends_writeTerminalLoop _
  | updateStatus id s msg t => exact sends_updateStatus fun _ _ => .updateStatus
  | updateProgress id p t => exact sends_updateProgress
  | cancel id => exact sends_cancel rfl
  | cancelAllPending =>
    exact sends_findPending.throws_bind' fun _ entries => sends_cancelEach rfl entries
  | findPending n => exact sends_findPending
  | countTerminalSince t => exact issues_request (.read rfl)
  | requeueFailedEntries ids =>
    exact sends_dateNow.throws_bind' fun _ _ => sends_requeueEach ids fun _ h => h
  | findFailedEntries t n => exact (sends_esSearch _).throws_bind' fun _ _ => issues_throws_pure _

end Benchmarker
