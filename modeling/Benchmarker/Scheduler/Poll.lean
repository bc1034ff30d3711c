import Benchmarker.Scheduler.Entry

/-!
# Polling the queue

`Scheduler.start`, `poll` and `stop`, and the tasks that they start in the background. The
heartbeat loop runs over the entries that are leased when it starts; an entry released meanwhile is
passed over.

* `poll`: heartbeats, the periodic reclaim, the capacity check, then an adopted or a dequeued entry.
* `entryTask`, `deferredTask`: a background call with its `finally` handler.
* `schedBody`: the body of every method that is not awaited.
-/

namespace Benchmarker

open Js Async Async.Prog

/-- Return, or throw again what was caught. -/
def rethrow (outcome : Except JsError Unit) : SchedJs Unit :=
  match outcome with
  | .ok () => pure ()
  | .error err => throw err

section Poll

variable (deps : SchedulerDeps)

/-- The loop of `heartbeatActiveEntries`. -/
def heartbeatEach : List ℕ → SchedJs Unit
  | [] => return ()
  | entryId :: entryIds => do
    match ← own (.leaseOf entryId) with
    | some token =>
      let _ ← attempt (queueCall (.heartbeat entryId token))
      heartbeatEach entryIds
    | none => heartbeatEach entryIds

def heartbeatActiveEntries : SchedJs Unit := do heartbeatEach (← own .leaseKeys)

def reclaimStuckEntries : SchedJs Unit := do
  let staleAfterMs := deps.config.entryStaleAfterMs.getD defaultEntryStaleAfterMs
  let nowMs ← clock
  match ← own (.reclaimDue nowMs staleAfterMs) with
  | none => return ()
  | some owned =>
    let _ ← attempt (queueCall (.reclaimStaleEntries staleAfterMs owned))
    return ()

/-- `setUTCHours(0, 0, 0, 0)`. -/
def startOfUtcDay (now : Time) : Time := now - now % (24 * 60 * 60 * 1000)

def isDailyCostCapReached : SchedJs Bool := do
  match deps.config.costCaps.filter (·.enabled) with
  | none => return false
  | some caps =>
    let now ← clock
    match ← attempt (queueCall (.countTerminalSince (startOfUtcDay now))) with
    | .error _ => return false
    | .ok terminalToday =>
      let reached := decide (terminalToday ≥ caps.maxModelsPerDay)
      own (.noteCostCap reached)
      return reached

/-- `findMatchingExcludePattern`, over the patterns that compile. -/
def findMatchingExcludePattern (modelId : String) : Option ExcludePattern :=
  (deps.config.excludeModelPatterns.getD []).find? fun p => p.matcher.any (· modelId)

def retireIfRecencyExcluded (entry : QueueEntry) (leaseToken : Option String) : SchedJs Bool := do
  if (entry.metadata.bind (·.force)) = some true then return false
  else
    match findMatchingExcludePattern deps entry.modelId with
    | none => return false
    | some matched =>
      match truthy leaseToken with
      | some token =>
        let _ ← queueCall (.terminal (.cancelActive entry.id
          ("Skipped: matches excludeModelPatterns (" ++ matched.source ++ ") — outdated generation")
          token))
        return true
      | none =>
        let _ ← queueCall (.updateStatus entry.id .cancelled none none)
        return true

/-- Keep the lease of a claimed entry, unless there is none. -/
def keepLease (id : ℕ) (token : Option String) : SchedJs Unit :=
  match truthy token with
  | some token => own (.setLease id token)
  | none => pure ()

/-- What `poll` does with an entry that it has claimed: retire it, or process it unawaited. -/
def takeEntry (entry : QueueEntry) (token : Option String) (resume : Bool) : SchedJs Unit := do
  keepLease entry.id token
  if ← retireIfRecencyExcluded deps entry token then own (.dropLease entry.id)
  else own (.beginRun entry resume)

/-- Take over an in-flight entry. -/
def adoptInFlight (inFlight : QueueEntry) : SchedJs Unit := do
  if ← own (.owns inFlight.id) then return ()
  else
    let adopted ← queueCall (.adoptEntry inFlight.id)
    takeEntry deps inFlight (adopted.or inFlight.leaseToken) true

/-- Claim a pending entry, below the cost cap. -/
def dequeueNext : SchedJs Unit := do
  if ← isDailyCostCapReached deps then return ()
  else
    match ← queueCall .dequeue with
    | none => return ()
    | some entry => takeEntry deps entry entry.leaseToken false

/-- The `try` block of `poll`. -/
def pollBody : SchedJs Unit := do
  match ← queueCall .getCurrent with
  | some inFlight => adoptInFlight deps inFlight
  | none => dequeueNext deps

/-- `Scheduler.poll`. -/
def poll : SchedJs Unit := do
  if ← own .isShuttingDown then return ()
  else
    heartbeatActiveEntries
    reclaimStuckEntries deps
    if ← own (.hasRoom deps.maxConcurrentRuns) then
      let _ ← attempt (pollBody deps)
      return ()
    else return ()

/-- The cooldowns that `start` rehydrates. -/
def rehydrate : List (String × Time) → SchedJs Unit
  | [] => return ()
  | (modelId, expireAt) :: rest => do
    own (.setCooldown modelId expireAt)
    rehydrate rest

/-- `Scheduler.start`, up to the timer; the timer's ticks are calls of `poll`. -/
def start : SchedJs Unit := do
  match ← attempt (extCall .loadActiveModelCooldowns) with
  | .ok active => rehydrate active
  | .error _ => pure ()
  poll deps

/-- Await the deferred polls one by one: `Promise.all` rejects when one of them does. -/
def awaitPolls : List ℕ → SchedJs Unit
  | [] => return ()
  | id :: ids => do
    extCall (.pollSettled id)
    awaitPolls ids

/-- `Scheduler.stop`. -/
def stop : SchedJs Unit := do
  own .beginStop
  extFire .drainActiveRuns
  awaitPolls (← own .deferredIds)

/-! ## Background calls -/

/-- A call of `processEntry` with its `finally` handler. -/
def entryTask (entry : QueueEntry) (resume : Bool) : SchedJs Unit := do
  let outcome ← attempt (processEntry deps entry resume)
  own (.endRun entry.id)
  rethrow outcome

/-- A detached poll with its `finally` handler. -/
def deferredTask (job : DetachedPoll) : SchedJs Unit := do
  let outcome ← attempt (detachedPoll deps job)
  own (.endDeferred job.queueEntryId)
  rethrow outcome

/-- The body of a method that is not awaited. -/
def schedBody : SchedCall → SchedJs Unit
  | .start => start deps
  | .poll => poll deps
  | .stop => stop
  | .processEntry entry resume => entryTask deps entry resume
  | .detachedPoll job => deferredTask deps job
  | .guard job => guardTask job

end Poll

end Benchmarker
