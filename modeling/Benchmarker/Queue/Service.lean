import Benchmarker.Queue.Run

/-!
# The queue service

The methods of `QueueService` as programs over the requests of the queue index. An Elasticsearch
call is one request; `new Date()` and `randomUUID()` are requests to the clock and the token
source. An `await` that throws ends the program unless the source catches it (`attempt`).

* `enqueue`, `dequeue`, `reclaimEntry`, `heartbeat`, `adoptEntry`, `writeTerminalFenced`,
  `updateStatus`, `updateProgress`, `cancel`, `requeueFailedEntries` and the searches.
* `QueueCall`, `queueService`: a call of one of the methods, and its program.
* `queueSystem`: any number of calls interleaved over one index.
-/

namespace Benchmarker

open Async Async.Prog

/-- The body of a method of the queue service. -/
abbrev EsJs (α : Type) : Type := ExceptT JsError (Prog EsAns) α

/-- Send one request to the index. -/
abbrev esRequest (o : EsOp) : Prog EsAns (EsAns o) := request o

def esSearch (q : Query) : EsJs (List Hit) := ExceptT.mk (esRequest (.search q))

def esCount (q : Query) : EsJs ℕ := ExceptT.mk (esRequest (.count q))

def esGet (id : ℕ) : EsJs (Option GetResult) :=
  ExceptT.mk (esRequest (.get id))

def esUpdate (id : ℕ) (script : Script) : EsJs UpdateResult :=
  ExceptT.mk (esRequest (.update id script))

def esUpdateDoc (id : ℕ) (doc : PartialDoc) (ifSeqNo ifPrimaryTerm : ℕ) : EsJs UpdateResult :=
  ExceptT.mk (esRequest (.updateDoc id doc ifSeqNo ifPrimaryTerm))

def esIndex (doc : EsSource) : EsJs ℕ := ExceptT.mk (esRequest (.index doc))

def dateNow : EsJs Time := ExceptT.lift (esRequest .now)

def randomUUID : EsJs String := ExceptT.lift (esRequest .randomUUID)

/-- An optional string counts as absent when it is empty. -/
def truthy (s : Option String) : Option String := s.filter (· ≠ "")

/-- `DEFAULT_ENTRY_STALE_AFTER_MS`. -/
def defaultEntryStaleAfterMs : ℕ := 120000

/-- `TERMINAL_WRITE_MAX_ATTEMPTS`. -/
def terminalWriteMaxAttempts : ℕ := 3

inductive TerminalWriteReason
  | leaseMismatch | alreadyTerminal | notFound | conflict
  deriving DecidableEq, Repr

/-- What a fenced terminal write reports. -/
structure TerminalWrite where
  applied : Bool
  reason : Option TerminalWriteReason := none
  deriving DecidableEq, Repr

/-! ## Methods -/

/-- The document that `enqueue` indexes. -/
def enqueueDoc (modelId : String) (source : Source) (priority : Option ℤ)
    (requestedBy : Option String) (metadata : Option EntryMetadata) (now : Time) : EsSource where
  modelId := modelId
  source := source
  priority := priority.getD (if source = .user then 100 else 10)
  status := .pending
  requestedAt := now
  startedAt := none
  completedAt := none
  errorMessage := none
  requestedBy := requestedBy
  leaseToken := none
  heartbeatAt := none
  metadata := metadata.map enqueueMetadata

/-- The dedupe search of `enqueue`. -/
def existingQuery (modelId : String) : Query where
  modelId := some modelId
  status := some [.pending, .deploying, .benchmarking]
  size := 1

def enqueue (modelId : String) (source : Source) (priority : Option ℤ)
    (requestedBy : Option String) (metadata : Option EntryMetadata) : EsJs QueueEntry := do
  let existing ← esSearch (existingQuery modelId)
  match existing.head? with
  | some hit => return toEntry hit.id hit.source
  | none =>
    let now ← dateNow
    let doc := enqueueDoc modelId source priority requestedBy metadata now
    let id ← esIndex doc
    return toEntry id doc

/-- The search of `dequeue` and `findPending`. -/
def pendingQuery (size : ℕ) : Query where
  status := some [.pending]
  sort := .priority
  size := size

/-- `dequeue`: claim the first pending entry, then read it back. -/
def dequeue : EsJs (Option QueueEntry) := do
  let hits ← esSearch (pendingQuery 1)
  match hits.head? with
  | none => return none
  | some hit =>
    let now ← dateNow
    let leaseToken ← randomUUID
    let result ← esUpdate hit.id (.dequeue now leaseToken)
    if result = .noop then return none
    else
      match ← esGet hit.id with
      | some got => return some (toEntry got.id got.source)
      | none => throw ⟨"Cannot read properties of undefined", none⟩

def getById (id : ℕ) : EsJs (Option QueueEntry) := do
  match ← attempt (esGet id) with
  | .ok (some got) => return some (toEntry got.id got.source)
  | .ok none => return none
  | .error err => if isStatusCode err 404 then return none else throw err

def getCurrent : EsJs (Option QueueEntry) := do
  let hits ← esSearch { status := some [.deploying, .benchmarking], size := 1 }
  return hits.head?.map fun hit => toEntry hit.id hit.source

def getActiveEntries : EsJs (List QueueEntry) := do
  let hits ← esSearch
    { status := some [.deploying, .benchmarking], sort := .startedAt, size := 100 }
  return hits.map fun hit => toEntry hit.id hit.source

def updateStatus (id : ℕ) (status : Status) (errorMessage leaseToken : Option String) :
    EsJs Bool := do
  let now ← dateNow
  let result ← esUpdate id (.updateStatus status now errorMessage (truthy leaseToken))
  return result ≠ .noop

/-- The loop of `failActiveEntries`. -/
def failEach (errorMessage : String) : List QueueEntry → EsJs Unit
  | [] => return ()
  | entry :: entries => do
    let _ ← updateStatus entry.id .failed (some errorMessage) none
    failEach errorMessage entries

def failActiveEntries (errorMessage : String) : EsJs ℕ := do
  let entries ← getActiveEntries
  failEach errorMessage entries
  return entries.length

def reclaimEntry (id : ℕ) : EsJs Bool := do
  let result ← esUpdate id .reclaimEntry
  return result ≠ .noop

/-- The staleness test of `reclaimStaleEntries`. -/
def isStale (staleAfterMs : ℕ) (nowMs : Time) (entry : QueueEntry) : Bool :=
  match entry.heartbeatAt.or entry.startedAt with
  | none => true
  | some refMs => (nowMs : ℤ) - refMs ≥ staleAfterMs

/-- The loop of `reclaimStaleEntries`. -/
def reclaimEach (staleAfterMs : ℕ) (excludeIds : List ℕ) (nowMs : Time) :
    List QueueEntry → ℕ → EsJs ℕ
  | [], reclaimed => return reclaimed
  | entry :: entries, reclaimed => do
    if excludeIds.contains entry.id || !isStale staleAfterMs nowMs entry then
      reclaimEach staleAfterMs excludeIds nowMs entries reclaimed
    else
      let applied ← reclaimEntry entry.id
      reclaimEach staleAfterMs excludeIds nowMs entries (if applied then reclaimed + 1 else reclaimed)

def reclaimStaleEntries (staleAfterMs : ℕ) (excludeIds : List ℕ) : EsJs ℕ := do
  let entries ← getActiveEntries
  let nowMs ← dateNow
  reclaimEach staleAfterMs excludeIds nowMs entries 0

def heartbeat (id : ℕ) (leaseToken : String) : EsJs Bool := do
  let now ← dateNow
  let result ← esUpdate id (.heartbeat now leaseToken)
  return result ≠ .noop

def adoptEntry (id : ℕ) : EsJs (Option String) := do
  let now ← dateNow
  let leaseToken ← randomUUID
  let result ← esUpdate id (.adoptEntry now leaseToken)
  return if result = .noop then none else some leaseToken

/-- The partial document of `writeTerminalFenced`. -/
def terminalDoc (status : Status) (errorMessage : Option String) (now : Time) : PartialDoc where
  status := status
  completedAt := now
  leaseToken := none
  errorMessage := errorMessage

/-- The loop of `writeTerminalFenced`, with the number of attempts left. -/
def writeTerminalLoop (id : ℕ) (status : Status) (errorMessage : Option String)
    (leaseToken : String) : ℕ → EsJs TerminalWrite
  | 0 => return ⟨false, some .conflict⟩
  | attempts + 1 => do
    match ← attempt (esGet id) with
    | .error err => if isStatusCode err 404 then return ⟨false, some .notFound⟩ else throw err
    | .ok none => return ⟨false, some .notFound⟩
    | .ok (some current) =>
      if current.source.leaseToken ≠ some leaseToken then return ⟨false, some .leaseMismatch⟩
      else if current.source.status.terminal then return ⟨false, some .alreadyTerminal⟩
      else
        let now ← dateNow
        let doc := terminalDoc status errorMessage now
        match ← attempt (esUpdateDoc id doc current.seqNo current.primaryTerm) with
        | .ok _ => return ⟨true, none⟩
        | .error err =>
          if isStatusCode err 409 then writeTerminalLoop id status errorMessage leaseToken attempts
          else throw err

def writeTerminalFenced (id : ℕ) (status : Status) (errorMessage : Option String)
    (leaseToken : String) : EsJs TerminalWrite :=
  writeTerminalLoop id status errorMessage leaseToken terminalWriteMaxAttempts

def complete (id : ℕ) (leaseToken : String) : EsJs TerminalWrite :=
  writeTerminalFenced id .completed none leaseToken

def fail (id : ℕ) (errorMessage leaseToken : String) : EsJs TerminalWrite :=
  writeTerminalFenced id .failed (some errorMessage) leaseToken

def cancelActive (id : ℕ) (reason leaseToken : String) : EsJs TerminalWrite :=
  writeTerminalFenced id .cancelled (some reason) leaseToken

def updateProgress (id : ℕ) (progress : PipelineProgress) (leaseToken : Option String) :
    EsJs Bool := do
  let result ← esUpdate id
    (.updateProgress (mapPipelineProgressToEs progress) (truthy leaseToken))
  return result ≠ .noop

def cancel (id : ℕ) : EsJs (Option Bool) := do
  let now ← dateNow
  match ← attempt (esUpdate id (.cancel now)) with
  | .ok result => return some (result ≠ .noop)
  | .error err => if isStatusCode err 404 then return none else throw err

def findPending (limit : ℕ) : EsJs (List QueueEntry) := do
  let hits ← esSearch (pendingQuery limit)
  return hits.map fun hit => toEntry hit.id hit.source

/-- The loop of `cancelAllPending`. -/
def cancelEach : List QueueEntry → ℕ → EsJs ℕ
  | [], cancelled => return cancelled
  | entry :: entries, cancelled => do
    let result ← cancel entry.id
    cancelEach entries (if result = some true then cancelled + 1 else cancelled)

def cancelAllPending : EsJs ℕ := do
  let pending ← findPending 500
  cancelEach pending 0

def countTerminalSince (since : Time) : EsJs ℕ :=
  esCount { status := some [.completed, .failed], completedGte := some since, size := 0 }

/-- The loop of `requeueFailedEntries`. -/
def requeueEach (now : Time) : List ℕ → ℕ → EsJs ℕ
  | [], requeued => return requeued
  | id :: ids, requeued => do
    let result ← esUpdate id (.requeueFailedEntries now)
    requeueEach now ids (if result ≠ .noop then requeued + 1 else requeued)

def requeueFailedEntries (ids : List ℕ) : EsJs ℕ := do
  let now ← dateNow
  requeueEach now ids 0

def findFailedEntries (before : Time) (limit : ℕ) : EsJs (List QueueEntry) := do
  let hits ← esSearch
    { status := some [.failed], completedLte := some before, sort := .completedAt, size := limit }
  return hits.map fun hit => toEntry hit.id hit.source

/-! ## Calls -/

/-- A fenced terminal write. -/
inductive TerminalCall
  | complete (id : ℕ) (leaseToken : String)
  | fail (id : ℕ) (errorMessage leaseToken : String)
  | cancelActive (id : ℕ) (reason leaseToken : String)
  deriving DecidableEq

namespace TerminalCall

/-- The entry that the call is about. -/
def id : TerminalCall → ℕ
  | complete id _ | fail id _ _ | cancelActive id _ _ => id

/-- The lease token that the caller holds. -/
def token : TerminalCall → String
  | complete _ t | fail _ _ t | cancelActive _ _ t => t

/-- The status that the call writes. -/
def status : TerminalCall → Status
  | complete _ _ => .completed
  | fail _ _ _ => .failed
  | cancelActive _ _ _ => .cancelled

/-- The error message that the call writes. -/
def message : TerminalCall → Option String
  | complete _ _ => none
  | fail _ msg _ => some msg
  | cancelActive _ reason _ => some reason

theorem status_terminal (c : TerminalCall) : c.status.terminal = true := by cases c <;> rfl

/-- The program of the call. -/
def body : TerminalCall → EsJs TerminalWrite
  | complete id t => Benchmarker.complete id t
  | fail id msg t => Benchmarker.fail id msg t
  | cancelActive id reason t => Benchmarker.cancelActive id reason t

theorem body_eq (c : TerminalCall) :
    c.body = writeTerminalFenced c.id c.status c.message c.token := by cases c <;> rfl

end TerminalCall

/-- A call of a method of the queue service. -/
inductive QueueCall
  | enqueue (modelId : String) (source : Source) (priority : Option ℤ)
      (requestedBy : Option String) (metadata : Option EntryMetadata)
  | dequeue
  | getById (id : ℕ)
  | getCurrent
  | getActiveEntries
  | failActiveEntries (errorMessage : String)
  | reclaimStaleEntries (staleAfterMs : ℕ) (excludeIds : List ℕ)
  | reclaimEntry (id : ℕ)
  | heartbeat (id : ℕ) (leaseToken : String)
  | adoptEntry (id : ℕ)
  | terminal (c : TerminalCall)
  | updateStatus (id : ℕ) (status : Status) (errorMessage leaseToken : Option String)
  | updateProgress (id : ℕ) (progress : PipelineProgress) (leaseToken : Option String)
  | cancel (id : ℕ)
  | cancelAllPending
  | findPending (limit : ℕ)
  | countTerminalSince (since : Time)
  | requeueFailedEntries (ids : List ℕ)
  | findFailedEntries (before : Time) (limit : ℕ)
  deriving DecidableEq

/-- The value that a call returns. -/
@[reducible] def QueueVal : QueueCall → Type
  | .enqueue _ _ _ _ _ => QueueEntry
  | .dequeue | .getById _ | .getCurrent => Option QueueEntry
  | .getActiveEntries | .findPending _ | .findFailedEntries _ _ => List QueueEntry
  | .failActiveEntries _ | .reclaimStaleEntries _ _ | .cancelAllPending | .countTerminalSince _ |
    .requeueFailedEntries _ => ℕ
  | .reclaimEntry _ | .heartbeat _ _ | .updateStatus _ _ _ _ | .updateProgress _ _ _ => Bool
  | .adoptEntry _ => Option String
  | .terminal _ => TerminalWrite
  | .cancel _ => Option Bool

/-- The program of a call. -/
def queueService : (c : QueueCall) → EsJs (QueueVal c)
  | .enqueue m s p r md => enqueue m s p r md
  | .dequeue => dequeue
  | .getById id => getById id
  | .getCurrent => getCurrent
  | .getActiveEntries => getActiveEntries
  | .failActiveEntries msg => failActiveEntries msg
  | .reclaimStaleEntries ms ids => reclaimStaleEntries ms ids
  | .reclaimEntry id => reclaimEntry id
  | .heartbeat id t => heartbeat id t
  | .adoptEntry id => adoptEntry id
  | .terminal c => c.body
  | .updateStatus id s msg t => updateStatus id s msg t
  | .updateProgress id p t => updateProgress id p t
  | .cancel id => cancel id
  | .cancelAllPending => cancelAllPending
  | .findPending n => findPending n
  | .countTerminalSince t => countTerminalSince t
  | .requeueFailedEntries ids => requeueFailedEntries ids
  | .findFailedEntries t n => findFailedEntries t n

/-- What a finished call reports: a value, or the error it threw. -/
abbrev QueueRet (c : QueueCall) : Type := Except JsError (QueueVal c)

/-- **Any number of queue calls interleaved over one index**, at single-request granularity. -/
def queueSystem : System EsAns QueueRet EsWorld EsChoice ℕ := esSystem fun c => (queueService c).run

end Benchmarker
