import Benchmarker.Js.Map
import Benchmarker.Js.Regex
import Mathlib.Tactic.SplitIfs

/-!
# The pool of SSH connections

`SSHClientPool`: one connection is kept for a host, a port and a user, and a call waits for it. Between two `await`s
the code runs alone, so a step is what happens at one resumption; calls, timers and events of clients come in any order.

* `Pool`, `getConnection`, `removeConnection`, `resetIdleTimer`, `step`: the code. `Run`: its runs.
* `keyOf`, `live`, `armed`: what is seen of a connection, and how each operation changes it.
* `Got`, `Does`, **`does_of_step`**: what a call for a connection and a step do.
-/

namespace Benchmarker.Ssh

open Js

/-- The fields of a configuration that name a connection. -/
structure Target where
  host : String
  port : ℕ
  username : String
  deriving DecidableEq

/-- `${config.host}:${config.port}:${config.username}` -/
def getConnectionKey (config : Target) : String :=
  config.host ++ ":" ++ toString config.port ++ ":" ++ config.username

/-- `idleTimer`: whether the timer runs. -/
structure Connection where
  key : String
  connected : Bool
  idleTimer : Bool
  deriving DecidableEq

/-- A command, or one of the four transfers of a file. -/
inductive Kind
  | exec | transfer
  deriving DecidableEq

/-- Where a call waits: for `connect` or for the delay before the next attempt, for its turn with a connection, or for
the command or the transfer on it. `again`: it is the retry of a command. -/
inductive Phase
  | connecting (attempt : ℕ) (again : Bool)
  | sleeping (attempt : ℕ) (again : Bool)
  | acquired (id : ℕ) (again : Bool)
  | running (id : ℕ) (again : Bool)
  | settled
  deriving DecidableEq

structure Call where
  kind : Kind
  config : Target
  phase : Phase
  deriving DecidableEq

/-- `opened`: every connection that was ever made; `connections` holds their places in it. -/
structure Pool where
  connections : JsMap String ℕ := []
  opened : List Connection := []
  calls : List Call := []
  closed : Bool := false
  deriving DecidableEq

/-- What a command is rejected with: an `SSHError`, another error, or something else. -/
inductive Rejection
  | ssh
  | error (message : String) (code : Option String)
  | other

inductive Action
  | invoke (kind : Kind) (config : Target)
  | connectResolved (i : ℕ)
  | connectRejected (i : ℕ)
  | wake (i : ℕ)
  | proceed (i : ℕ)
  | succeed (i : ℕ)
  | fail (i : ℕ) (err : Rejection)
  | dropped (id : ℕ)
  | idle (id : ℕ)
  | disconnect (config : Target)
  | close

/-- The connection that a phase holds. -/
def Phase.holds : Phase → Option ℕ
  | acquired id _ | running id _ => some id
  | _ => none

def Phase.isAcquired : Phase → Bool
  | acquired _ _ => true
  | _ => false

/-- The call is in the retry of a command. -/
def Phase.again : Phase → Bool
  | connecting _ again | sleeping _ again | acquired _ again | running _ again => again
  | settled => false

/-- The call is a transfer, or the retry of a command. -/
def Call.isBare (call : Call) : Bool := call.kind = .transfer || call.phase.again

/-- The call is in `createConnection`. -/
def Phase.attempts : Phase → Bool
  | connecting _ _ | sleeping _ _ => true
  | _ => false

/-! ## The code -/

def connectionErrors : List String :=
  ["ECONNRESET", "ECONNREFUSED", "ETIMEDOUT", "EPIPE", "EHOSTUNREACH", "ENETUNREACH", "Not connected",
    "Channel open failure", "Connection lost"]

/-- Whether `exec` connects again: an `SSHError` is thrown on. -/
def isConnectionError : Rejection → Bool
  | .error message code => connectionErrors.any fun pattern => includes message pattern || code = some pattern
  | _ => false

/-- `createConnection` at the head of its loop. -/
def attemptAt (maxRetries attempt : ℕ) (again : Bool) : Phase :=
  if attempt ≤ maxRetries then .connecting attempt again else .settled

namespace Pool

variable (p : Pool)

def modify (id : ℕ) (f : Connection → Connection) : Pool := { p with opened := p.opened.modify id f }

def setPhase (i : ℕ) (phase : Phase) : Pool := { p with calls := p.calls.modify i fun call => { call with phase } }

def resetIdleTimer (id : ℕ) : Pool := p.modify id fun c => { c with idleTimer := true }

def clearIdleTimer (id : ℕ) : Pool := p.modify id fun c => { c with idleTimer := false }

/-- A client that reports an error or its end. -/
def drop (id : ℕ) : Pool := p.modify id fun c => { c with connected := false }

def removeConnection (key : String) : Pool :=
  match p.connections.get key with
  | none => p
  | some id =>
    { p.modify id fun c => { c with connected := false, idleTimer := false } with
      connections := p.connections.delete key }

/-- `this.removeConnection(connection.key)` -/
def removeOwn (id : ℕ) : Pool := (p.opened[id]?.map Connection.key).elim p p.removeConnection

/-- Whether a connection is as `q` says. -/
def flag (q : Connection → Bool) (id : ℕ) : Bool := p.opened[id]?.any q

/-- Whether a connection is up. -/
abbrev live (id : ℕ) : Bool := p.flag Connection.connected id

/-- Whether the timer of a connection runs. -/
abbrev armed (id : ℕ) : Bool := p.flag Connection.idleTimer id

/-- The key of a connection. -/
def keyOf (id : ℕ) : Option String := p.opened[id]?.map Connection.key

/-- `getConnection`, with the phase in which it leaves its call. -/
def getConnection (maxRetries : ℕ) (config : Target) (again : Bool) : Pool × Phase :=
  if p.closed then (p, .settled)
  else match p.connections.get (getConnectionKey config) with
    | some id =>
      if p.live id then (p, .acquired id again)
      else (p.removeConnection (getConnectionKey config), attemptAt maxRetries 1 again)
    | none => (p, attemptAt maxRetries 1 again)

/-- `createConnection` from the resolution of `connect` on. -/
def addConnection (key : String) : Pool :=
  { p with
    connections := p.connections.set key p.opened.length
    opened := p.opened ++ [{ key, connected := true, idleTimer := true }] }

/-- `close()` -/
def shut : Pool := p.connections.keys.foldl removeConnection { p with closed := true }

/-- A call begins. -/
def invoke (maxRetries : ℕ) (kind : Kind) (config : Target) : Pool :=
  let (p, phase) := p.getConnection maxRetries config false
  { p with calls := p.calls ++ [{ kind, config, phase }] }

/-- A call runs on. Timers wait until no call is ready to. -/
def step (maxRetries : ℕ) : Action → Option Pool
  | .invoke kind config => some (p.invoke maxRetries kind config)
  | .connectResolved i =>
    match p.calls[i]? with
    | some { config, phase := .connecting _ again, .. } =>
      some ((p.addConnection (getConnectionKey config)).setPhase i (.acquired p.opened.length again))
    | _ => none
  | .connectRejected i =>
    match p.calls[i]? with
    | some { phase := .connecting attempt again, .. } =>
      some (p.setPhase i (if attempt < maxRetries then .sleeping attempt again else .settled))
    | _ => none
  | .wake i =>
    match p.calls[i]? with
    | some { phase := .sleeping attempt again, .. } => some (p.setPhase i (attemptAt maxRetries (attempt + 1) again))
    | _ => none
  | .proceed i =>
    match p.calls[i]? with
    | some { kind := .exec, phase := .acquired id false, .. } => some ((p.setPhase i (.running id false)).clearIdleTimer id)
    | some { phase := .acquired id again, .. } => some (p.setPhase i (.running id again))
    | _ => none
  | .succeed i =>
    match p.calls[i]? with
    | some { phase := .running id _, .. } => some ((p.resetIdleTimer id).setPhase i .settled)
    | _ => none
  | .fail i err =>
    match p.calls[i]? with
    | some { kind := .exec, config, phase := .running id false } =>
      if isConnectionError err then
        let (p, phase) := ((p.resetIdleTimer id).removeOwn id).getConnection maxRetries config true
        some (p.setPhase i phase)
      else some ((p.resetIdleTimer id).setPhase i .settled)
    | some { phase := .running _ _, .. } => some (p.setPhase i .settled)
    | _ => none
  | .dropped id => some (p.drop id)
  | .idle id =>
    if p.armed id ∧ p.calls.all (fun call => !call.phase.isAcquired) then some ((p.removeOwn id).clearIdleTimer id)
    else none
  | .disconnect config => some (p.removeConnection (getConnectionKey config))
  | .close => some p.shut

/-- The runs whose actions all satisfy a condition. -/
inductive Run (maxRetries : ℕ) (good : Pool → Action → Prop) (p : Pool) : Pool → Prop
  | start : Run maxRetries good p p
  | step {p' p'' : Pool} {a : Action} : Run maxRetries good p p' → good p' a → p'.step maxRetries a = some p'' →
      Run maxRetries good p p''

/-! ## What an operation changes -/

theorem of_getElem?_concat {α : Type} {l : List α} {a b : α} {i : ℕ} (h : (l ++ [a])[i]? = some b) :
    l[i]? = some b ∨ i = l.length ∧ b = a := by
  rcases Nat.lt_or_ge i l.length with hlt | hge
  · exact .inl (by rwa [List.getElem?_append_left hlt] at h)
  · obtain ⟨hlt, hb⟩ := List.getElem?_eq_some_iff.mp h
    have hi : i = l.length := Nat.le_antisymm (Nat.lt_succ_iff.mp (by simpa using hlt)) hge
    subst hi
    exact .inr ⟨rfl, by simpa using hb.symm⟩

theorem countP_modify {α : Type} {l : List α} {i : ℕ} {a : α} (q : α → Bool) (f : α → α) (h : l[i]? = some a) :
    (l.modify i f).countP q + (if q a then 1 else 0) = l.countP q + if q (f a) then 1 else 0 := by
  induction l generalizing i with
  | nil => cases h
  | cons b l ih =>
    cases i with
    | zero =>
      obtain rfl : b = a := Option.some.inj h
      simp only [List.modify_zero_cons, List.countP_cons]
      omega
    | succ i =>
      have hl := ih (i := i) (by simpa using h)
      simp only [List.modify_succ_cons, List.countP_cons]
      omega

section Observers

variable {p : Pool} {id j i : ℕ} {key key' : String} {f : Connection → Connection} {q : Connection → Bool}
  {phase : Phase}

theorem getElem?_opened_modify :
    (p.modify id f).opened[j]? = if id = j then p.opened[j]?.map f else p.opened[j]? := by
  show (p.opened.modify id f)[j]? = _
  rw [List.getElem?_modify]
  split_ifs <;> simp

theorem keyOf_modify (hf : ∀ c, (f c).key = c.key) : (p.modify id f).keyOf j = p.keyOf j := by
  rw [keyOf, getElem?_opened_modify, keyOf]
  split_ifs
  · rw [Option.map_map]
    exact congrArg (p.opened[j]?.map ·) (funext hf)
  · rfl

@[simp] theorem keyOf_resetIdleTimer : (p.resetIdleTimer id).keyOf j = p.keyOf j := keyOf_modify fun _ => rfl

@[simp] theorem keyOf_clearIdleTimer : (p.clearIdleTimer id).keyOf j = p.keyOf j := keyOf_modify fun _ => rfl

@[simp] theorem keyOf_drop : (p.drop id).keyOf j = p.keyOf j := keyOf_modify fun _ => rfl

theorem flag_modify (hf : ∀ c, q (f c) = q c) : (p.modify id f).flag q j = p.flag q j := by
  rw [flag, getElem?_opened_modify, flag]
  split_ifs
  · rw [Option.any_map]
    exact congrArg (p.opened[j]?.any ·) (funext hf)
  · rfl

theorem flag_modify_of_false (hf : ∀ c, q (f c) = false) :
    (p.modify id f).flag q j = (decide (id ≠ j) && p.flag q j) := by
  rw [flag, getElem?_opened_modify, flag]
  by_cases h : id = j
  · rw [if_pos h, Option.any_map, funext hf]
    simp [h]
  · simp [h]

@[simp] theorem live_resetIdleTimer : (p.resetIdleTimer id).live j = p.live j := flag_modify fun _ => rfl

@[simp] theorem live_clearIdleTimer : (p.clearIdleTimer id).live j = p.live j := flag_modify fun _ => rfl

@[simp] theorem armed_drop : (p.drop id).armed j = p.armed j := flag_modify fun _ => rfl

@[simp] theorem live_drop : (p.drop id).live j = (decide (id ≠ j) && p.live j) := flag_modify_of_false fun _ => rfl

@[simp] theorem armed_clearIdleTimer : (p.clearIdleTimer id).armed j = (decide (id ≠ j) && p.armed j) :=
  flag_modify_of_false fun _ => rfl

@[simp] theorem armed_resetIdleTimer :
    (p.resetIdleTimer id).armed j = (decide (id = j) && (p.keyOf j).isSome || p.armed j) := by
  rw [armed, flag, resetIdleTimer, getElem?_opened_modify, armed, flag, keyOf]
  by_cases h : id = j
  · rw [if_pos h]
    cases p.opened[j]? <;> simp [h]
  · simp [h]

theorem removeConnection_of_none (h : p.connections.get key = none) : p.removeConnection key = p := by
  rw [removeConnection, h]

theorem removeConnection_of_some (h : p.connections.get key = some id) : p.removeConnection key =
    { p.modify id fun c => { c with connected := false, idleTimer := false } with
      connections := p.connections.delete key } := by
  rw [removeConnection, h]

@[simp] theorem calls_removeConnection : (p.removeConnection key).calls = p.calls := by
  unfold removeConnection
  split <;> rfl

@[simp] theorem closed_removeConnection : (p.removeConnection key).closed = p.closed := by
  unfold removeConnection
  split <;> rfl

theorem get_removeConnection :
    (p.removeConnection key).connections.get key' = if key = key' then none else p.connections.get key' := by
  cases h : p.connections.get key with
  | none =>
    rw [removeConnection_of_none h]
    split_ifs with hk
    · rw [← hk, h]
    · rfl
  | some id =>
    rw [removeConnection_of_some h]
    exact JsMap.get_delete

@[simp] theorem keyOf_removeConnection : (p.removeConnection key).keyOf j = p.keyOf j := by
  cases h : p.connections.get key with
  | none => rw [removeConnection_of_none h]
  | some id =>
    rw [removeConnection_of_some h]
    exact keyOf_modify fun _ => rfl

@[simp] theorem length_opened_removeConnection : (p.removeConnection key).opened.length = p.opened.length := by
  unfold removeConnection
  split
  · rfl
  · exact List.length_modify ..

theorem flag_removeConnection (hq : ∀ c : Connection, q { c with connected := false, idleTimer := false } = false) :
    (p.removeConnection key).flag q j = (decide (p.connections.get key ≠ some j) && p.flag q j) := by
  cases h : p.connections.get key with
  | none => rw [removeConnection_of_none h]; simp
  | some id =>
    rw [removeConnection_of_some h]
    show (p.modify id fun c => { c with connected := false, idleTimer := false }).flag q j = _
    rw [flag_modify_of_false hq]
    simp

@[simp] theorem live_removeConnection :
    (p.removeConnection key).live j = (decide (p.connections.get key ≠ some j) && p.live j) :=
  flag_removeConnection fun _ => rfl

@[simp] theorem armed_removeConnection :
    (p.removeConnection key).armed j = (decide (p.connections.get key ≠ some j) && p.armed j) :=
  flag_removeConnection fun _ => rfl

theorem getElem?_opened_addConnection : (p.addConnection key).opened[j]? =
    if j = p.opened.length then some { key, connected := true, idleTimer := true } else p.opened[j]? := by
  show (p.opened ++ [_])[j]? = _
  rcases Nat.lt_trichotomy j p.opened.length with h | h | h
  · rw [List.getElem?_append_left h, if_neg h.ne]
  · rw [h, List.getElem?_concat_length, if_pos rfl]
  · rw [if_neg h.ne', List.getElem?_eq_none h.le, List.getElem?_eq_none]
    simpa using Nat.succ_le_of_lt h

theorem keyOf_addConnection :
    (p.addConnection key).keyOf j = if j = p.opened.length then some key else p.keyOf j := by
  rw [keyOf, getElem?_opened_addConnection, keyOf]
  split_ifs <;> rfl

theorem flag_addConnection (hq : ∀ key, q { key, connected := true, idleTimer := true } = true) :
    (p.addConnection key).flag q j = if j = p.opened.length then true else p.flag q j := by
  rw [flag, getElem?_opened_addConnection, flag]
  split_ifs
  · exact hq key
  · rfl

theorem live_addConnection : (p.addConnection key).live j = if j = p.opened.length then true else p.live j :=
  flag_addConnection fun _ => rfl

theorem armed_addConnection : (p.addConnection key).armed j = if j = p.opened.length then true else p.armed j :=
  flag_addConnection fun _ => rfl

theorem getElem?_calls_setPhase : (p.setPhase i phase).calls[j]? =
    if i = j then p.calls[j]?.map (fun call => { call with phase }) else p.calls[j]? := by
  show (p.calls.modify i _)[j]? = _
  rw [List.getElem?_modify]
  split_ifs <;> simp

theorem removeOwn_of_some (h : p.keyOf id = some key) : p.removeOwn id = p.removeConnection key := by
  rw [removeOwn, ← keyOf, h]
  rfl

theorem removeOwn_of_none (h : p.keyOf id = none) : p.removeOwn id = p := by
  rw [removeOwn, ← keyOf, h]
  rfl

theorem lt_of_keyOf (h : p.keyOf id = some key) : id < p.opened.length := by
  by_contra hlt
  rw [keyOf, List.getElem?_eq_none (not_lt.mp hlt)] at h
  cases h

end Observers

/-! ## Calls that get a connection -/

/-- What `getConnection` does. -/
inductive Got (p : Pool) (config : Target) (again : Bool) : Pool × Phase → Prop
  | refused : p.closed = true → Got p config again (p, .settled)
  | existing (id : ℕ) : p.connections.get (getConnectionKey config) = some id → p.live id = true →
      Got p config again (p, .acquired id again)
  | created (phase : Phase) : p.closed = false → phase.holds = none →
      Got p config again (p.removeConnection (getConnectionKey config), phase)

theorem holds_attemptAt (maxRetries attempt : ℕ) (again : Bool) : (attemptAt maxRetries attempt again).holds = none := by
  unfold attemptAt
  split_ifs <;> rfl

theorem got (p : Pool) (maxRetries : ℕ) (config : Target) (again : Bool) :
    Got p config again (p.getConnection maxRetries config again) := by
  unfold getConnection
  cases hclosed : p.closed with
  | true => exact .refused hclosed
  | false =>
    rw [if_neg Bool.false_ne_true]
    cases hget : p.connections.get (getConnectionKey config) with
    | none =>
      have hnone : Got p config again (p.removeConnection (getConnectionKey config), attemptAt maxRetries 1 again) :=
        .created _ hclosed (holds_attemptAt _ _ _)
      rwa [removeConnection_of_none hget] at hnone
    | some id =>
      cases hlive : p.live id with
      | true =>
        simp only [hlive, if_true]
        exact .existing id hget hlive
      | false =>
        simp only [hlive, Bool.false_eq_true, if_false]
        exact .created _ hclosed (holds_attemptAt maxRetries 1 again)

/-! ## What a step does -/

/-- The steps. The conditions on a call are what its phase says. -/
inductive Does (maxRetries : ℕ) (p : Pool) : Action → Pool → Prop
  | invoked (kind : Kind) (config : Target) : Does maxRetries p (.invoke kind config) (p.invoke maxRetries kind config)
  | connected {i attempt : ℕ} {call : Call} {again : Bool} (hcall : p.calls[i]? = some call)
      (hphase : call.phase = .connecting attempt again) :
      Does maxRetries p (.connectResolved i)
        ((p.addConnection (getConnectionKey call.config)).setPhase i (.acquired p.opened.length again))
  | waits {i : ℕ} {call : Call} {phase : Phase} {a : Action} (hcall : p.calls[i]? = some call)
      (hattempts : call.phase.attempts = true) (hholds : phase.holds = none) : Does maxRetries p a (p.setPhase i phase)
  | starts {i id : ℕ} {call : Call} (hcall : p.calls[i]? = some call) (hkind : call.kind = .exec)
      (hphase : call.phase = .acquired id false) :
      Does maxRetries p (.proceed i) ((p.setPhase i (.running id false)).clearIdleTimer id)
  | continues {i id : ℕ} {call : Call} {again : Bool} (hcall : p.calls[i]? = some call)
      (hkind : call.kind = .exec → again = true) (hphase : call.phase = .acquired id again) :
      Does maxRetries p (.proceed i) (p.setPhase i (.running id again))
  | ends {i id : ℕ} {call : Call} {again : Bool} {a : Action} (hcall : p.calls[i]? = some call)
      (hphase : call.phase = .running id again) : Does maxRetries p a ((p.resetIdleTimer id).setPhase i .settled)
  | retries {i id : ℕ} {call : Call} {err : Rejection} (hcall : p.calls[i]? = some call) (hkind : call.kind = .exec)
      (hphase : call.phase = .running id false) :
      Does maxRetries p (.fail i err)
        ((((p.resetIdleTimer id).removeOwn id).getConnection maxRetries call.config true).1.setPhase i
          (((p.resetIdleTimer id).removeOwn id).getConnection maxRetries call.config true).2)
  | gives {i id : ℕ} {call : Call} {again : Bool} {err : Rejection} (hcall : p.calls[i]? = some call)
      (hkind : call.kind = .exec → again = true) (hphase : call.phase = .running id again) :
      Does maxRetries p (.fail i err) (p.setPhase i .settled)
  | dropped (id : ℕ) : Does maxRetries p (.dropped id) (p.drop id)
  | idle {id : ℕ} (harmed : p.armed id = true) (hready : ∀ call ∈ p.calls, call.phase.isAcquired = false) :
      Does maxRetries p (.idle id) ((p.removeOwn id).clearIdleTimer id)
  | disconnected (config : Target) :
      Does maxRetries p (.disconnect config) (p.removeConnection (getConnectionKey config))
  | shut : Does maxRetries p .close p.shut

theorem again_of_ne {kind : Kind} {again : Bool} (h : ¬(kind = .exec ∧ again = false)) (hkind : kind = .exec) :
    again = true := by
  cases again
  · exact absurd ⟨hkind, rfl⟩ h
  · rfl

theorem does_of_step {p p' : Pool} {maxRetries : ℕ} {a : Action} (h : p.step maxRetries a = some p') :
    Does maxRetries p a p' := by
  cases a with
  | invoke kind config =>
    cases h
    exact .invoked kind config
  | connectResolved i =>
    simp only [step] at h
    split at h
    · rename_i hcall
      have hdoes := @Does.connected maxRetries p i _ _ _ hcall rfl
      cases h
      exact hdoes
    · cases h
  | connectRejected i =>
    simp only [step] at h
    split at h
    · rename_i hcall
      cases h
      refine .waits hcall rfl ?_
      split_ifs <;> rfl
    · cases h
  | wake i =>
    simp only [step] at h
    split at h
    · rename_i hcall
      cases h
      exact .waits hcall rfl (holds_attemptAt _ _ _)
    · cases h
  | proceed i =>
    simp only [step] at h
    split at h
    · rename_i hcall
      cases h
      exact .starts hcall rfl rfl
    · rename_i hno hcall
      cases h
      exact .continues hcall (again_of_ne fun ⟨hexec, hfirst⟩ => hno hexec hfirst) rfl
    · cases h
  | succeed i =>
    simp only [step] at h
    split at h
    · rename_i hcall
      cases h
      exact .ends hcall rfl
    · cases h
  | fail i err =>
    simp only [step] at h
    split at h
    · rename_i hcall
      have hdoes := @Does.retries maxRetries p i _ _ err hcall rfl rfl
      split_ifs at h with herr
      · cases h
        exact hdoes
      · cases h
        exact .ends hcall rfl
    · rename_i hno hcall
      cases h
      exact .gives hcall (again_of_ne fun ⟨hexec, hfirst⟩ => hno hexec hfirst) rfl
    · cases h
  | dropped id =>
    cases h
    exact .dropped id
  | idle id =>
    simp only [step] at h
    split_ifs at h with hfires
    cases h
    exact .idle hfires.1 fun call hcall => by simpa using List.all_eq_true.mp hfires.2 call hcall
  | disconnect config =>
    cases h
    exact .disconnected config
  | close =>
    cases h
    exact .shut

end Pool

end Benchmarker.Ssh
