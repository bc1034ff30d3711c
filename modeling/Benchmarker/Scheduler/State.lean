import Benchmarker.Scheduler.Data

/-!
# The private state of the scheduler

The fields of `Scheduler` that its methods share, and the uninterrupted pieces of code that read
and write them. Such a piece is one `OwnOp`; the clock is read before it and handed in. Pieces that
follow each other without an `await` in the source are separate requests here, so every run of the
code is a run of the model in which nothing comes between them.

* `SchedulerState`: the fields.
* `OwnOp`, `OwnAns`, `OwnOp.apply`: the pieces, their answers and their effect.
-/

namespace Benchmarker

open Js

/-- An entry of `modelFailureTracker`. -/
structure FailureRecord where
  count : ℕ
  lastErrorType : String
  lastAt : Time
  deriving DecidableEq, Repr

/-- The private fields of `Scheduler`. -/
structure SchedulerState where
  modelFailureTracker : JsMap String FailureRecord := []
  modelCooldown : JsMap String Time := []
  activeRuns : ℕ := 0
  shuttingDown : Bool := false
  /-- The entries with a deferred Buildkite poll. -/
  deferredCleanups : List ℕ := []
  entryInProcess : List ℕ := []
  entryLeases : JsMap ℕ String := []
  costCapEngaged : Bool := false
  lastReclaimAtMs : Time := 0
  deriving DecidableEq

/-- `MAX_TRACKED_FAILURES`. -/
def maxTrackedFailures : ℕ := 200

/-- `MAX_COOLDOWN_ENTRIES`. -/
def maxCooldownEntries : ℕ := 200

/-- `SIX_HOURS_MS`. -/
def sixHoursMs : ℕ := 6 * 60 * 60 * 1000

/-- `Set.prototype.add`. -/
def setAdd {α : Type} [DecidableEq α] (s : List α) (a : α) : List α :=
  if a ∈ s then s else s ++ [a]

@[simp] theorem mem_setAdd {α : Type} [DecidableEq α] {s : List α} {a b : α} :
    b ∈ setAdd s a ↔ b ∈ s ∨ b = a := by
  unfold setAdd
  split_ifs with h
  · constructor
    · exact .inl
    · rintro (hb | rfl)
      · exact hb
      · exact h
  · simp

/-- What a loop that adds to a set collects. -/
theorem mem_foldl_setAdd {α β : Type} [DecidableEq β] {p : α → Prop} [DecidablePred p] {f : α → β}
    {l : List α} {acc : List β} {b : β} :
    b ∈ l.foldl (fun acc a => if p a then setAdd acc (f a) else acc) acc ↔
      b ∈ acc ∨ ∃ a ∈ l, p a ∧ f a = b := by
  induction l generalizing acc with
  | nil => simp
  | cons a l ih =>
    rw [List.foldl_cons, ih, List.exists_mem_cons_iff]
    by_cases ha : p a
    · rw [if_pos ha, mem_setAdd]
      constructor
      · rintro ((h | rfl) | h)
        · exact .inl h
        · exact .inr (.inl ⟨ha, rfl⟩)
        · exact .inr (.inr h)
      · rintro (h | ⟨-, rfl⟩ | h)
        · exact .inl (.inl h)
        · exact .inl (.inr rfl)
        · exact .inr h
    · rw [if_neg ha]
      constructor
      · rintro (h | h)
        · exact .inl h
        · exact .inr (.inr h)
      · rintro (h | ⟨h, -⟩ | h)
        · exact .inl h
        · exact absurd h ha
        · exact .inr h

/-! ## Deferred Buildkite polls -/

/-- The `infrastructure` that `runCIEvals` takes over. -/
structure Infrastructure where
  releasePublicEndpoint : Option ℕ
  deploymentName : String
  localPort : Option ℕ
  sshForward : Bool
  tunnelService : Bool
  publicEndpointUrl : Option String
  deriving DecidableEq

/-- The variables of `runCIEvals` that all its builds share. -/
structure EvalSession where
  connectorId : String
  connectorJson : String
  startedAt : Time
  deriving DecidableEq

/-- The variables of `runCIEvals` that `pollWeeklyMatrix` closes over. -/
structure MatrixRun where
  evalSuites : List String
  skipSuiteIds : Option (List String)
  session : EvalSession
  deriving DecidableEq

/-- A detached poll chain, with the variables that it closes over. -/
structure DetachedPoll where
  run : PipelineRun
  queueEntryId : ℕ
  infrastructure : Infrastructure
  leaseToken : Option String
  matrix : MatrixRun
  /-- An infrastructure guard watches the poll. -/
  guarded : Bool
  deriving DecidableEq

/-! ## The failure tracker -/

namespace SchedulerState

variable (s : SchedulerState)

def pruneStaleModelEntries (now : Time) : SchedulerState :=
  { s with
    modelFailureTracker :=
      if s.modelFailureTracker.size > maxTrackedFailures then
        s.modelFailureTracker.filter fun kv => ¬(now - kv.2.lastAt > sixHoursMs)
      else s.modelFailureTracker
    modelCooldown := s.modelCooldown.filter fun kv => ¬(now ≥ kv.2) }

/-- The record of a model after one more failure of a type, before the three-strike test. -/
def strike (modelId errorType : String) (now : Time) : FailureRecord :=
  let existing := (s.modelFailureTracker.get modelId).getD ⟨0, "", 0⟩
  { count := if existing.lastErrorType ≠ "" ∧ existing.lastErrorType ≠ errorType then 1
      else existing.count + 1
    lastErrorType := errorType
    lastAt := now }

/-- `recordModelFailure`, with the cooldown that it persists: its expiry and the strike count. -/
def recordModelFailure (modelId errorType : String) (now : Time) :
    Option (Time × ℕ) × SchedulerState :=
  let existing := s.strike modelId errorType now
  let blacklisted := existing.count ≥ 3
  let expireAt := now + sixHoursMs
  let s := if blacklisted then { s with modelCooldown := s.modelCooldown.set modelId expireAt }
    else s
  let kept := if blacklisted then { existing with count := 0 } else existing
  let s := { s with modelFailureTracker := s.modelFailureTracker.set modelId kept }
  let s := if s.modelFailureTracker.size > maxTrackedFailures ∨
      s.modelCooldown.size > maxCooldownEntries then s.pruneStaleModelEntries now else s
  (if blacklisted then some (expireAt, existing.count) else none, s)

/-- `isModelCooldown`: whether the model is on cooldown, and whether an expired cooldown was
dropped. -/
def isModelCooldown (modelId : String) (now : Time) : (Bool × Bool) × SchedulerState :=
  match (s.modelCooldown.get modelId).filter (· ≠ 0) with
  | none => ((false, false), s)
  | some expireAt =>
    if now ≥ expireAt then
      ((false, true), { s with modelCooldown := s.modelCooldown.delete modelId })
    else ((true, false), s)

def ownedEntryIds : List ℕ := s.entryLeases.keys ++ s.entryInProcess ++ s.deferredCleanups

end SchedulerState

/-! ## Uninterrupted pieces -/

/-- The uninterrupted pieces of the scheduler's methods. -/
inductive OwnOp
  | isShuttingDown
  | leaseKeys
  | leaseOf (id : ℕ)
  /-- The throttle of `reclaimStuckEntries`, with the entries that it must not touch. -/
  | reclaimDue (nowMs : Time) (staleAfterMs : ℕ)
  /-- The capacity check of `poll` and its check for deferred polls. -/
  | hasRoom (maxConcurrentRuns : ℕ)
  /-- `entryInProcess.has(id) || deferredCleanups.has(id)`. -/
  | owns (id : ℕ)
  | setLease (id : ℕ) (token : String)
  | dropLease (id : ℕ)
  | noteCostCap (reached : Bool)
  /-- `activeRuns++`, `entryInProcess.add` and the call of `processEntry`. -/
  | beginRun (entry : QueueEntry) (resume : Bool)
  /-- The `finally` handler of that call. -/
  | endRun (id : ℕ)
  | isModelCooldown (modelId : String) (now : Time)
  | recordModelFailure (modelId errorType : String) (now : Time)
  | setCooldown (modelId : String) (expireAt : Time)
  /-- Start a detached poll chain and `deferredCleanups.set`. -/
  | deferPoll (job : DetachedPoll)
  /-- The `finally` handler of a deferred poll. -/
  | endDeferred (id : ℕ)
  | beginStop
  | deferredIds
  deriving DecidableEq

/-- The answers of the pieces. -/
@[reducible] def OwnAns : OwnOp → Type
  | .isShuttingDown | .hasRoom _ | .owns _ => Bool
  | .leaseKeys | .deferredIds => List ℕ
  | .leaseOf _ => Option String
  | .reclaimDue _ _ => Option (List ℕ)
  | .isModelCooldown _ _ => Bool × Bool
  | .recordModelFailure _ _ _ => Option (Time × ℕ)
  | .setLease _ _ | .dropLease _ | .noteCostCap _ | .beginRun _ _ | .endRun _ | .setCooldown _ _
  | .deferPoll _ | .endDeferred _ | .beginStop => Unit

/-- The effect of a piece. -/
def OwnOp.apply : (a : OwnOp) → SchedulerState → OwnAns a × SchedulerState
  | .isShuttingDown, s => (s.shuttingDown, s)
  | .leaseKeys, s => (s.entryLeases.keys, s)
  | .leaseOf id, s => (s.entryLeases.get id, s)
  | .reclaimDue nowMs staleAfterMs, s =>
    if nowMs < s.lastReclaimAtMs + staleAfterMs then (none, s)
    else (some s.ownedEntryIds, { s with lastReclaimAtMs := nowMs })
  | .hasRoom maxConcurrentRuns, s =>
    (decide (s.activeRuns < maxConcurrentRuns ∧ s.deferredCleanups = []), s)
  | .owns id, s => (decide (id ∈ s.entryInProcess ∨ id ∈ s.deferredCleanups), s)
  | .setLease id token, s => ((), { s with entryLeases := s.entryLeases.set id token })
  | .dropLease id, s => ((), { s with entryLeases := s.entryLeases.delete id })
  | .noteCostCap reached, s => ((), { s with costCapEngaged := reached })
  | .beginRun entry _, s =>
    ((), { s with
      activeRuns := s.activeRuns + 1
      entryInProcess := setAdd s.entryInProcess entry.id })
  | .endRun id, s =>
    ((), { s with
      activeRuns := s.activeRuns - 1
      entryInProcess := s.entryInProcess.filter (· ≠ id)
      entryLeases := if id ∈ s.deferredCleanups then s.entryLeases else s.entryLeases.delete id })
  | .isModelCooldown modelId now, s => s.isModelCooldown modelId now
  | .recordModelFailure modelId errorType now, s => s.recordModelFailure modelId errorType now
  | .setCooldown modelId expireAt, s =>
    ((), { s with modelCooldown := s.modelCooldown.set modelId expireAt })
  | .deferPoll job, s =>
    ((), { s with deferredCleanups := setAdd s.deferredCleanups job.queueEntryId })
  | .endDeferred id, s =>
    ((), { s with
      deferredCleanups := s.deferredCleanups.filter (· ≠ id)
      entryLeases := s.entryLeases.delete id })
  | .beginStop, s => ((), { s with shuttingDown := true })
  | .deferredIds, s => (s.deferredCleanups, s)

end Benchmarker
