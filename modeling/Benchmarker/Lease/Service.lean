import Benchmarker.Lease.Index

/-!
# The lease service

The methods of `GpuVmLeaseService` as programs over the requests of the lease document. None of them
throws: what a request throws ends up in the result or is dropped.

* `readLease`, `isFresh`, `shouldRefuseFreshLease`, `refuseAfterConflict`: the parts of `acquire`.
* `acquire`, `heartbeat`, `release`. `LeaseCall`, `leaseSystem`: any number of their calls interleaved.
-/

namespace Benchmarker.GpuVmLease

open Async Async.Prog

/-- The body of a method of the lease service. -/
abbrev LeaseJs (α : Type) : Type := ExceptT JsError (Prog LeaseAns) α

/-- Send one request. -/
abbrev leaseRequest (o : LeaseOp) : Prog LeaseAns (LeaseAns o) := request o

def esGet : LeaseJs (Option LeaseRead) := ExceptT.mk (leaseRequest .get)

def esIndex (document : EsLease) (ifSeqNo ifPrimaryTerm : ℕ) : LeaseJs Unit :=
  ExceptT.mk (leaseRequest (.index document ifSeqNo ifPrimaryTerm))

def esCreate (document : EsLease) : LeaseJs Unit := ExceptT.mk (leaseRequest (.create document))

def esUpdate (heartbeatAt : Stamp) : LeaseJs Unit := ExceptT.mk (leaseRequest (.update heartbeatAt))

def esDelete : LeaseJs Unit := ExceptT.mk (leaseRequest .delete)

/-- `this.now()`. -/
def thisNow : LeaseJs Time := ExceptT.lift (leaseRequest .now)

/-- `this.owns`. -/
def thisOwns : LeaseJs Bool := ExceptT.lift (leaseRequest .owns)

def setOwns (b : Bool) : LeaseJs Unit := ExceptT.lift (leaseRequest (.setOwns b))

structure AcquireResult where
  success : Bool
  heldBy : Option EsLease := none
  heldByAgeMs : Option ℤ := none
  staleAfterMs : Option ℕ := none
  error : Option String := none
  deriving DecidableEq

/-! ## Reading the lease -/

def readLease : LeaseJs (Option LeaseRead) := do
  match ← attempt esGet with
  | .ok res => return res
  | .error err => if isStatusCode err 404 then return none else throw err

/-- `defaultIsProcessAlive`, for a whole number. -/
def isProcessAlive (pid : ℤ) : LeaseJs Bool := do
  if pid ≤ 0 then return false
  else
    match ← ExceptT.lift (leaseRequest (.kill pid)) with
    | none => return true
    | some code => return code = "EPERM"

section Methods

variable (svc : GpuVmLeaseService)

def isMine (holder : EsLease) : Bool :=
  holder.ownerHostname = svc.ownerHostname && holder.ownerPid = svc.ownerPid

def isFresh (holder : EsLease) : LeaseJs Bool := do
  match holder.heartbeatAt.parse with
  | none => return false
  | some heartbeat =>
    let now ← thisNow
    return decide ((now : ℤ) - heartbeat < svc.staleAfterMs)

def isSameHostDeadOwner (holder : EsLease) : LeaseJs Bool := do
  if holder.ownerHostname = svc.ownerHostname ∧ holder.ownerPid ≠ svc.ownerPid then
    return !(← isProcessAlive holder.ownerPid)
  else return false

def shouldRefuseFreshLease (holder : EsLease) : LeaseJs Bool := do
  if ← isFresh svc holder then
    if isMine svc holder then return false
    else return !(← isSameHostDeadOwner svc holder)
  else return false

def buildDoc (acquiredAt : Stamp) : LeaseJs EsLease := do
  let now ← thisNow
  return {
    vmHost := svc.vmHost
    ownerHostname := svc.ownerHostname
    ownerPid := svc.ownerPid
    acquiredAt := acquiredAt
    heartbeatAt := .iso now }

/-- The result that refuses a lease because of its holder. -/
def refusal (holder : EsLease) : LeaseJs AcquireResult := do
  let now ← thisNow
  return {
    success := false
    heldBy := some holder
    heldByAgeMs := holder.heartbeatAt.parse.map fun heartbeat => (now : ℤ) - heartbeat
    staleAfterMs := some svc.staleAfterMs }

/-- `refuseAfterConflict`, on the document that it has read. -/
def refuseHolder (current : Option LeaseRead) : LeaseJs AcquireResult := do
  match current with
  | some current =>
    if ← shouldRefuseFreshLease svc current.source then refusal svc current.source
    else return { success := false, error := some "lease contended (version conflict)" }
  | none => return { success := false, error := some "lease contended (version conflict)" }

def refuseAfterConflict : LeaseJs AcquireResult := do
  let current ← readLease
  refuseHolder svc current

/-- What `acquire` does after its conditional write. -/
def settleWrite (outcome : Except JsError Unit) : LeaseJs AcquireResult := do
  match outcome with
  | .ok () =>
    setOwns true
    return { success := true }
  | .error err => if isStatusCode err 409 then refuseAfterConflict svc else throw err

/-- The `acquired_at` with which a lease is taken over. -/
def takeoverStamp (holder : EsLease) : LeaseJs Stamp := do
  if isMine svc holder then return holder.acquiredAt
  else
    let now ← thisNow
    return .iso now

/-- Take over an existing lease, or refresh it. -/
def replaceLease (existing : LeaseRead) : LeaseJs AcquireResult := do
  let acquiredAt ← takeoverStamp svc existing.source
  let doc ← buildDoc svc acquiredAt
  let outcome ← attempt (esIndex doc existing.seqNo existing.primaryTerm)
  settleWrite svc outcome

/-- Create the lease. -/
def createLease : LeaseJs AcquireResult := do
  let now ← thisNow
  let doc ← buildDoc svc (.iso now)
  let outcome ← attempt (esCreate doc)
  settleWrite svc outcome

/-- The `try` block of `acquire`, after the lease has been read. -/
def acquireAfter (existing : Option LeaseRead) : LeaseJs AcquireResult := do
  match existing with
  | some existing =>
    if ← shouldRefuseFreshLease svc existing.source then refusal svc existing.source
    else replaceLease svc existing
  | none => createLease svc

/-- The `try` block of `acquire`. -/
def acquireBody : LeaseJs AcquireResult := do
  let existing ← readLease
  acquireAfter svc existing

def acquire : LeaseJs AcquireResult := do
  match ← attempt (acquireBody svc) with
  | .ok result => return result
  | .error err => return { success := false, error := some err.message }

end Methods

/-- `heartbeat`; the flag that it reads is the one of the calling service. -/
def heartbeat : LeaseJs Unit := do
  if ← thisOwns then
    let now ← thisNow
    let _ ← attempt (esUpdate (.iso now))
    return ()
  else return ()

def release : LeaseJs Unit := do
  if ← thisOwns then
    match ← attempt esDelete with
    | .ok () => setOwns false
    | .error err => if isStatusCode err 404 then setOwns false else return ()
  else return ()


/-! ## Calls -/

inductive LeaseCall
  | acquire (svc : GpuVmLeaseService)
  | heartbeat (svc : GpuVmLeaseService)
  | release (svc : GpuVmLeaseService)
  deriving DecidableEq

/-- The service whose method is called. -/
def LeaseCall.service : LeaseCall → GpuVmLeaseService
  | acquire svc | heartbeat svc | release svc => svc

@[reducible] def LeaseRet : LeaseCall → Type
  | .acquire _ => Except JsError AcquireResult
  | .heartbeat _ | .release _ => Except JsError Unit

/-- The program of a call. -/
def leaseBody : (c : LeaseCall) → Prog LeaseAns (LeaseRet c)
  | .acquire svc => (acquire svc).run
  | .heartbeat _ => heartbeat.run
  | .release _ => release.run

/-- The moves that are no requests: the clock advances, or the process of a service exits. -/
inductive LeaseTick
  | clock (d : ℕ)
  | exit (svc : GpuVmLeaseService)
  deriving DecidableEq

def LeaseTick.apply : LeaseTick → LeaseWorld → LeaseWorld
  | .clock d, w => { w with clock := w.clock + d }
  | .exit svc, w => w.flag svc false

/-- **Any number of services on one VM host**, their calls interleaved at single-request
granularity. -/
def leaseSystem : System LeaseAns LeaseRet LeaseWorld LeaseChoice LeaseTick where
  start := leaseBody
  client _ := true
  forks _ _ := []
  serve c o ch w := serve c.service o ch w
  pass := LeaseTick.apply

abbrev LeaseThread : Type := Thread LeaseAns LeaseRet LeaseWorld

abbrev LeaseCfg : Type := Cfg LeaseAns LeaseRet LeaseWorld

abbrev LeaseEvent : Type := Event LeaseAns LeaseWorld

end Benchmarker.GpuVmLease
