import Mathlib.Logic.Function.Basic
import Benchmarker.Async.Threads
import Benchmarker.Async.Uses

/-!
# The lockfile

`Lockfile.acquire`, `release` and `forceRelease` as programs over file operations, run by any number
of processes that share one path. The calls are synchronous, so a process makes one call at a time;
between two file operations of a call the other processes may do anything. A process that has died
takes no further step. The content of the file is what `readPid` parses: a pid, or something else.

* `LockOp`, `LockJs`: the file operations, and bodies that issue them.
* `acquire`, `release`, `forceRelease`; `lockBody`: the program of a call.
* `LockWorld`, `lockSystem`: the shared file and the processes.
-/

namespace Benchmarker.Lockfile

open Async Async.Prog Async.System

/-- The file operations of `Lockfile`, its probe of a process, and the writes of its private field. -/
inductive LockOp
  | existsSync
  | readFileSync
  | kill (pid : ℕ)
  | unlinkSync
  | writeFileSync (pid : ℕ)
  | setAcquired (acquired : Bool)
  deriving DecidableEq

/-- A delete or a write of the lockfile. -/
def LockOp.changesFile : LockOp → Bool
  | .unlinkSync | .writeFileSync _ => true
  | _ => false

/-- An error of the file system. -/
structure FsError where
  code : String
  deriving DecidableEq, Repr

/-- The answers to the requests; `readFileSync` gives the pid in the file, if there is one. -/
@[reducible] def LockAns : LockOp → Type
  | .existsSync | .kill _ => Bool
  | .readFileSync => Except FsError (Option ℕ)
  | .unlinkSync | .writeFileSync _ => Except FsError Unit
  | .setAcquired _ => Unit

/-- The body of a method. -/
abbrev LockJs (α : Type) : Type := ExceptT FsError (Prog LockAns) α

def existsSync : LockJs Bool := ExceptT.lift (request LockOp.existsSync)

def readFileSync : LockJs (Option ℕ) := ExceptT.mk (request LockOp.readFileSync)

/-- `isProcessRunning`. -/
def isProcessRunning (pid : ℕ) : LockJs Bool := ExceptT.lift (request (LockOp.kill pid))

def unlinkSync : LockJs Unit := ExceptT.mk (request LockOp.unlinkSync)

def writeFileSync (pid : ℕ) : LockJs Unit := ExceptT.mk (request (LockOp.writeFileSync pid))

/-- `this.acquired = acquired`. -/
def setAcquired (acquired : Bool) : LockJs Unit :=
  ExceptT.lift (request (LockOp.setAcquired acquired))

/-! ## Methods -/

def readPid : LockJs (Option ℕ) := do
  if ← existsSync then
    match ← attempt readFileSync with
    | .ok pid => return pid
    | .error _ => return none
  else return none

/-- The `try` block of `forceRelease`. -/
def removeFile : LockJs Unit := do
  if ← existsSync then
    unlinkSync
    setAcquired false
  else setAcquired false

def forceRelease : LockJs Bool := do
  match ← attempt removeFile with
  | .ok () => return true
  | .error _ => return false

/-- Whether the process in the lockfile is running. -/
def ownerIsRunning : LockJs Bool := do
  match ← readPid with
  | some pid => isProcessRunning pid
  | none => return false

/-- The end of `acquire`. -/
def writeLock (pid : ℕ) : LockJs Bool := do
  writeFileSync pid
  setAcquired true
  return true

/-- `acquire`, called by the process `pid`. -/
def acquire (pid : ℕ) : LockJs Bool := do
  if ← existsSync then
    if ← ownerIsRunning then return false
    else
      let _ ← forceRelease
      writeLock pid
  else writeLock pid

/-- The `try` block of `release`. -/
def deleteFile : LockJs Unit := do
  unlinkSync
  setAcquired false

def release : LockJs Bool := do
  if ← existsSync then
    match ← attempt deleteFile with
    | .ok () => return true
    | .error _ => return false
  else
    setAcquired false
    return true

/-! ## Processes -/

/-- A call of a method by a process. -/
inductive LockCall
  | acquire (pid : ℕ)
  | release (pid : ℕ)
  | forceRelease (pid : ℕ)
  deriving DecidableEq

namespace LockCall

/-- The process that makes the call. -/
def pid : LockCall → ℕ
  | acquire p | release p | forceRelease p => p

/-- A call that gives the lock up. -/
def frees : LockCall → Bool
  | acquire _ => false
  | release _ | forceRelease _ => true

end LockCall

/-- The program of a call. -/
def lockBody : LockCall → LockJs Bool
  | .acquire pid => acquire pid
  | .release _ => release
  | .forceRelease _ => forceRelease

/-- The lockfile, the processes that are alive, and the private field of each of them. -/
structure LockWorld where
  /-- The pid in the file, if there is a file and a pid in it. -/
  file : Option (Option ℕ)
  alive : ℕ → Bool
  acquired : ℕ → Bool := fun _ => false

/-- Whether a file operation is carried out. -/
inductive FsChoice
  | ok
  | fails (e : FsError)

/-- Serve a request of the process `pid`. -/
def serveFs (pid : ℕ) : (o : LockOp) → FsChoice → LockWorld → LockAns o × LockWorld
  | .existsSync, _, w => (w.file.isSome, w)
  | .readFileSync, .ok, w =>
    match w.file with
    | none => (.error ⟨"ENOENT"⟩, w)
    | some content => (.ok content, w)
  | .readFileSync, .fails e, w => (.error e, w)
  | .kill q, _, w => (w.alive q, w)
  | .unlinkSync, .ok, w =>
    match w.file with
    | none => (.error ⟨"ENOENT"⟩, w)
    | some _ => (.ok (), { w with file := none })
  | .unlinkSync, .fails e, w => (.error e, w)
  | .writeFileSync q, .ok, w => (.ok (), { w with file := some (some q) })
  | .writeFileSync _, .fails e, w => (.error e, w)
  | .setAcquired b, _, w => ((), { w with acquired := Function.update w.acquired pid b })

/-- The processes; a tick is the death of one. -/
def lockSystem : System LockAns (fun _ : LockCall => Except FsError Bool) LockWorld FsChoice ℕ where
  start c := (lockBody c).run
  client _ := true
  forks _ _ := []
  serve c o ch w := if w.alive c.pid then some (serveFs c.pid o ch w) else none
  pass pid w := { w with alive := Function.update w.alive pid false }

abbrev LockCfg : Type := Cfg LockAns (fun _ : LockCall => Except FsError Bool) LockWorld

abbrev LockMove : Type := Move LockCall FsChoice ℕ

/-- A process makes one call at a time. -/
def Sequential (cfg : LockCfg) (m : LockMove) : Prop :=
  ∀ c, m = .invoke c → ∀ th ∈ cfg.threads, th.call.pid = c.pid → th.pending = none

/-- `isAcquired()`, which a live process can only ask between its other calls. -/
def IsAcquired (cfg : LockCfg) (pid : ℕ) : Prop :=
  cfg.world.alive pid = true ∧ cfg.world.acquired pid = true ∧
    ∀ th ∈ cfg.threads, th.call.pid = pid → th.pending = none

/-- The lockfile holds the pid of another live process. -/
def OthersFile (w : LockWorld) (pid : ℕ) : Prop :=
  ∃ q, q ≠ pid ∧ w.alive q = true ∧ w.file = some (some q)

/-- At most one live process holds the lock, and no `release` of a process that does not hold it has
deleted the lockfile of another live process. -/
structure LockSafe (cfg : LockCfg) : Prop where
  exclusive : ∀ p q, IsAcquired cfg p → IsAcquired cfg q → p = q
  release : ∀ th ∈ cfg.threads, ∀ pid, th.call = .release pid → ∀ e ∈ th.past,
    e.pre.acquired pid = false → OthersFile e.pre pid → e.post.file = e.pre.file

/-- Only a process that holds the lock gives it up; and when an `acquire` deletes or writes the
lockfile, that is not the lockfile of another live process. -/
def Careful (cfg : LockCfg) : LockMove → Prop
  | .invoke c => c.frees = true → IsAcquired cfg c.pid
  | .serve i _ => ∀ th o, cfg.threads[i]? = some th → th.pending = some o → th.call.frees = false →
    o.changesFile = true → ¬OthersFile cfg.world th.call.pid
  | .pass _ => True

/-! These conditions can be decided. -/

instance (cfg : LockCfg) (pid : ℕ) : Decidable (IsAcquired cfg pid) :=
  inferInstanceAs (Decidable (_ ∧ _ ∧ _))

instance (w : LockWorld) (pid : ℕ) : Decidable (OthersFile w pid) :=
  decidable_of_iff ((w.file.join.any fun q => decide (q ≠ pid) && w.alive q) = true) <| by
    obtain ⟨_ | _ | q, alive, acquired⟩ := w <;> simp [OthersFile]

instance (cfg : LockCfg) : (m : LockMove) → Decidable (Sequential cfg m)
  | .invoke c => decidable_of_iff (∀ th ∈ cfg.threads, th.call.pid = c.pid → th.pending = none)
    ⟨fun h c' hc => by cases hc; exact h, fun h => h c rfl⟩
  | .serve _ _ => isTrue nofun
  | .pass _ => isTrue nofun

instance (cfg : LockCfg) : (m : LockMove) → Decidable (Careful cfg m)
  | .invoke c => inferInstanceAs (Decidable (c.frees = true → IsAcquired cfg c.pid))
  | .serve i _ => decidable_of_iff ((cfg.threads[i]?.all fun th => th.pending.all fun o =>
      decide (th.call.frees = false → o.changesFile = true → ¬OthersFile cfg.world th.call.pid)) = true)
    (by simp only [Careful, Option.all_eq_true, decide_eq_true_eq]
        exact ⟨fun h th o hth ho => h th hth o ho, fun h th hth o ho => h th o hth ho⟩)
  | .pass _ => isTrue trivial

end Benchmarker.Lockfile
