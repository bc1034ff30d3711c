import Benchmarker.Ssh.Pool

/-!
# Runs of the pool of SSH connections

* `Kept`, **`kept_of_run`**: whom a connection serves, when it ends, and which connections the pool loses.
* `Shuts`, **`closed_of_run`**: what may still be opened after `close`.
* `Serial`, `Calm`, **`calm_of_run`**: while the calls for a host do not overlap, no connection is lost, and none is
  closed under a command.
-/

namespace Benchmarker.Ssh

open Js

namespace Pool

/-! ## What every run keeps -/

/-- A command runs on the connection for the first time. -/
def Busy (p : Pool) (id : ℕ) : Prop :=
  ∃ (i : ℕ) (call : Call), p.calls[i]? = some call ∧ call.kind = .exec ∧ call.phase = .running id false

/-- A later connection was opened for the same key. -/
def Displaced (p : Pool) (id : ℕ) : Prop :=
  ∃ key id', id < id' ∧ p.keyOf id = some key ∧ p.keyOf id' = some key

/-- A connection is kept under its key, and serves only calls of that key. It will be closed when it is idle, unless a
command runs on it. A connection that is up is in the pool, or a later one took its place. -/
structure Kept (p : Pool) : Prop where
  pooled : ∀ key id, p.connections.get key = some id → p.keyOf id = some key
  own : ∀ (i : ℕ) (call : Call) (id : ℕ), p.calls[i]? = some call → call.phase.holds = some id →
    p.keyOf id = some (getConnectionKey call.config)
  tended : ∀ key id, p.connections.get key = some id → p.armed id = true ∨ p.Busy id
  accounted : ∀ id, p.live id = true → (∃ key, p.connections.get key = some id) ∨ p.Displaced id

section Kept

variable {p p' : Pool} {id i : ℕ} {key : String} {f : Connection → Connection} {call : Call} {phase : Phase}
  {maxRetries : ℕ} {config : Target} {kind : Kind} {again : Bool} {a : Action}

theorem Kept.modify (h : p.Kept) (hkey : ∀ c, (f c).key = c.key)
    (hlive : ∀ j, (p.modify id f).live j = true → p.live j = true)
    (harmed : ∀ key j, p.connections.get key = some j → p.armed j = true → (p.modify id f).armed j = true ∨ p.Busy j) :
    (p.modify id f).Kept where
  pooled key id hget := (keyOf_modify hkey).trans (h.pooled key id hget)
  own i call id hcall hholds := (keyOf_modify hkey).trans (h.own i call id hcall hholds)
  tended key id hget := (h.tended key id hget).elim (harmed key id hget) .inr
  accounted id hup := by
    refine (h.accounted id (hlive id hup)).imp_right fun hdisplaced => ?_
    simpa only [Displaced, keyOf_modify hkey] using hdisplaced

theorem Kept.resetIdleTimer (h : p.Kept) : (p.resetIdleTimer id).Kept := by
  refine h.modify (fun _ => rfl) (fun j hup => ?_) fun _ j _ harmed => .inl ?_
  · exact live_resetIdleTimer.symm.trans hup
  · exact armed_resetIdleTimer.trans (by rw [harmed, Bool.or_true])

theorem Kept.drop (h : p.Kept) : (p.drop id).Kept := by
  refine h.modify (fun _ => rfl) (fun j hup => ?_) fun _ j _ harmed => .inl ?_
  · exact (Bool.and_eq_true_iff.mp (live_drop.symm.trans hup)).2
  · exact armed_drop.trans harmed

theorem Kept.clearIdleTimer (h : p.Kept) (hbusy : p.Busy id ∨ ∀ key, p.connections.get key ≠ some id) :
    (p.clearIdleTimer id).Kept := by
  refine h.modify (fun _ => rfl) (fun j hup => ?_) fun key j hget harmed => ?_
  · exact live_clearIdleTimer.symm.trans hup
  · by_cases hj : id = j
    · subst hj
      exact .inr (hbusy.resolve_right fun hno => hno key hget)
    · exact .inl (armed_clearIdleTimer.trans (by simp [hj, harmed]))

theorem Kept.removeConnection (h : p.Kept) : (p.removeConnection key).Kept where
  pooled key' id hget := by
    rw [get_removeConnection] at hget
    split_ifs at hget
    rw [keyOf_removeConnection]
    exact h.pooled key' id hget
  own i call id hcall hholds := by
    rw [calls_removeConnection] at hcall
    rw [keyOf_removeConnection]
    exact h.own i call id hcall hholds
  tended key' id hget := by
    rw [get_removeConnection] at hget
    split_ifs at hget with hkey
    rw [armed_removeConnection, Busy, calls_removeConnection]
    refine (h.tended key' id hget).imp_left fun harmed => ?_
    have hne : p.connections.get key ≠ some id := fun hsame =>
      hkey (Option.some.inj ((h.pooled key id hsame).symm.trans (h.pooled key' id hget)))
    simp [hne, harmed]
  accounted id hup := by
    rw [live_removeConnection, Bool.and_eq_true_iff, decide_eq_true_eq] at hup
    obtain ⟨hne, hup⟩ := hup
    rcases h.accounted id hup with ⟨key', hget⟩ | hdisplaced
    · refine .inl ⟨key', ?_⟩
      rw [get_removeConnection, if_neg, hget]
      rintro rfl
      exact hne hget
    · exact .inr (by simpa only [Displaced, keyOf_removeConnection] using hdisplaced)

theorem Kept.removeOwn (h : p.Kept) : (p.removeOwn id).Kept := by
  cases hkey : p.keyOf id with
  | none => rwa [removeOwn_of_none hkey]
  | some key =>
    rw [removeOwn_of_some hkey]
    exact h.removeConnection

theorem Kept.addConnection (h : p.Kept) : (p.addConnection key).Kept := by
  have hold : ∀ {key' id}, p.keyOf id = some key' → (p.addConnection key).keyOf id = some key' := fun hkey => by
    rw [keyOf_addConnection, if_neg (lt_of_keyOf hkey).ne, hkey]
  have hnew : (p.addConnection key).keyOf p.opened.length = some key := by rw [keyOf_addConnection, if_pos rfl]
  have hget : ∀ key', (p.addConnection key).connections.get key' =
      if key = key' then some p.opened.length else p.connections.get key' := fun key' => JsMap.get_set
  refine ⟨fun key' id hid => ?_, fun i call id hcall hholds => hold (h.own i call id hcall hholds),
    fun key' id hid => ?_, fun id hup => ?_⟩
  · rw [hget] at hid
    split_ifs at hid with hkey
    · rw [← Option.some.inj hid, hnew, hkey]
    · exact hold (h.pooled key' id hid)
  · rw [hget] at hid
    rw [armed_addConnection]
    split_ifs at hid with hkey
    · exact .inl (if_pos (Option.some.inj hid).symm)
    · rw [if_neg (lt_of_keyOf (h.pooled key' id hid)).ne]
      exact h.tended key' id hid
  · rw [live_addConnection] at hup
    by_cases hid : id = p.opened.length
    · exact .inl ⟨key, by rw [hget, if_pos rfl, hid]⟩
    rw [if_neg hid] at hup
    rcases h.accounted id hup with ⟨key', hkey'⟩ | ⟨key', id', hlt, hkey, hkey'⟩
    · by_cases hsame : key = key'
      · subst hsame
        have hlt := lt_of_keyOf (h.pooled key id hkey')
        exact .inr ⟨key, _, hlt, hold (h.pooled key id hkey'), hnew⟩
      · exact .inl ⟨key', by rw [hget, if_neg hsame, hkey']⟩
    · exact .inr ⟨key', id', hlt, hold hkey, hold hkey'⟩

theorem Kept.setPhase (h : p.Kept) (hcall : p.calls[i]? = some call)
    (hholds : ∀ id, phase.holds = some id → p.keyOf id = some (getConnectionKey call.config))
    (hfree : ∀ key id, call.kind = .exec → call.phase = .running id false → p.connections.get key = some id →
      p.armed id = true) : (p.setPhase i phase).Kept where
  pooled := h.pooled
  own j call' id hcall' hholds' := by
    rw [getElem?_calls_setPhase] at hcall'
    split_ifs at hcall' with hij
    · rw [← hij, hcall, Option.map_some] at hcall'
      rw [← Option.some.inj hcall'] at hholds' ⊢
      exact hholds id hholds'
    · exact h.own j call' id hcall' hholds'
  tended key id hget := by
    rcases h.tended key id hget with harmed | ⟨j, call', hcall', hexec, hrunning⟩
    · exact .inl harmed
    · by_cases hij : i = j
      · rw [← hij, hcall] at hcall'
        rw [← Option.some.inj hcall'] at hexec hrunning
        exact .inl (hfree key id hexec hrunning hget)
      · exact .inr ⟨j, call', by rw [getElem?_calls_setPhase, if_neg hij, hcall'], hexec, hrunning⟩
  accounted := h.accounted

theorem Kept.begin (h : p.Kept) (hholds : ∀ id, phase.holds = some id → p.keyOf id = some (getConnectionKey config)) :
    Kept { p with calls := p.calls ++ [{ kind, config, phase }] } where
  pooled := h.pooled
  own i call id hcall hid := by
    rcases of_getElem?_concat hcall with hcall | ⟨-, rfl⟩
    · exact h.own i call id hcall hid
    · exact hholds id hid
  tended key id hget := by
    refine (h.tended key id hget).imp_right fun ⟨i, call, hcall, hrest⟩ => ⟨i, call, ?_, hrest⟩
    exact (List.getElem?_append_left (List.getElem?_eq_some_iff.mp hcall).1).trans hcall
  accounted := h.accounted

theorem Kept.getConnection (h : p.Kept) : (p.getConnection maxRetries config again).1.Kept := by
  cases hgot : p.getConnection maxRetries config again with
  | mk p' phase =>
    cases hgot ▸ got p maxRetries config again with
    | refused _ => exact h
    | existing id _ _ => exact h
    | created phase _ _ => exact h.removeConnection

theorem keyOf_of_holds (h : p.Kept) (hholds : (p.getConnection maxRetries config again).2.holds = some id) :
    (p.getConnection maxRetries config again).1.keyOf id = some (getConnectionKey config) := by
  cases hgot : p.getConnection maxRetries config again with
  | mk p' phase =>
    rw [hgot] at hholds
    cases hgot ▸ got p maxRetries config again with
    | refused _ => cases hholds
    | existing id' hget _ =>
      rw [← Option.some.inj hholds]
      exact h.pooled _ _ hget
    | created phase _ hnone => rw [hnone] at hholds; cases hholds

theorem calls_getConnection : (p.getConnection maxRetries config again).1.calls = p.calls := by
  cases hgot : p.getConnection maxRetries config again with
  | mk p' phase =>
    cases hgot ▸ got p maxRetries config again with
    | refused _ => rfl
    | existing id _ _ => rfl
    | created phase _ _ => exact calls_removeConnection

theorem Kept.foldl_removeConnection (keys : List String) (h : p.Kept) :
    (keys.foldl Pool.removeConnection p).Kept := by
  induction keys generalizing p with
  | nil => exact h
  | cons key keys ih => exact ih h.removeConnection

theorem Kept.shut (h : p.Kept) : p.shut.Kept :=
  Kept.foldl_removeConnection _ ⟨h.pooled, h.own, h.tended, h.accounted⟩

/-- A command fails for the first time, and its connection leaves the pool. -/
theorem not_pooled_removeOwn (h : p.Kept) : (p.removeOwn id).connections.get key ≠ some id := by
  intro hget
  cases hkey : p.keyOf id with
  | none =>
    rw [removeOwn_of_none hkey] at hget
    exact absurd ((h.pooled key id hget).symm.trans hkey) nofun
  | some key' =>
    rw [removeOwn_of_some hkey, get_removeConnection] at hget
    split_ifs at hget with hne
    exact hne (Option.some.inj (hkey.symm.trans (h.pooled key id hget)))

theorem calls_removeOwn : (p.removeOwn id).calls = p.calls := by
  cases hkey : p.keyOf id with
  | none => rw [removeOwn_of_none hkey]
  | some key => rw [removeOwn_of_some hkey, calls_removeConnection]

/-- `getConnection` puts nothing into the pool. -/
theorem get_getConnection (h : (p.getConnection maxRetries config again).1.connections.get key = some id) :
    p.connections.get key = some id := by
  cases hgot : p.getConnection maxRetries config again with
  | mk p' phase =>
    rw [hgot] at h
    cases hgot ▸ got p maxRetries config again with
    | refused _ => exact h
    | existing id' _ _ => exact h
    | created phase _ _ =>
      rw [get_removeConnection] at h
      split_ifs at h
      exact h

/-- The timer of a command that has run is set again. -/
theorem armed_of_pooled (h : p.Kept) (hget : p.connections.get key = some id) : (p.resetIdleTimer id).armed id = true := by
  have hkey : p.keyOf id = some key := h.pooled key id hget
  rw [armed_resetIdleTimer, hkey]
  simp

theorem kept_step (h : p.Kept) (hstep : p.step maxRetries a = some p') : p'.Kept := by
  cases does_of_step hstep with
  | invoked kind config => exact h.getConnection.begin fun id hid => keyOf_of_holds h hid
  | connected hcall hphase =>
    refine h.addConnection.setPhase hcall (fun id hid => ?_) fun _ _ _ hrunning => ?_
    · rw [← Option.some.inj hid, keyOf_addConnection, if_pos rfl]
    · exact nomatch hphase.symm.trans hrunning
  | waits hcall hattempts hholds =>
    refine h.setPhase hcall (fun id hid => ?_) fun _ _ _ hrunning => ?_
    · exact nomatch hholds.symm.trans hid
    · rw [hrunning] at hattempts
      cases hattempts
  | @starts i id call hcall hkind hphase =>
    have hown := h.own i call id hcall (by rw [hphase]; rfl)
    refine Kept.clearIdleTimer ?_ (.inl ⟨i, { call with phase := .running id false }, ?_, hkind, rfl⟩)
    · refine h.setPhase hcall (fun id' hid => ?_) fun _ _ _ hrunning => nomatch hphase.symm.trans hrunning
      rwa [← Option.some.inj hid]
    · rw [getElem?_calls_setPhase, if_pos rfl, hcall]
      rfl
  | @continues i id call again hcall hkind hphase =>
    have hown := h.own i call id hcall (by rw [hphase]; rfl)
    refine h.setPhase hcall (fun id' hid => ?_) fun _ _ _ hrunning => nomatch hphase.symm.trans hrunning
    rwa [← Option.some.inj hid]
  | ends hcall hphase =>
    refine h.resetIdleTimer.setPhase hcall (fun _ hid => nomatch hid) fun key id' _ hrunning hget => ?_
    cases hphase.symm.trans hrunning
    exact armed_of_pooled h hget
  | @retries i id call err hcall hkind hphase =>
    have hremoved : ((p.resetIdleTimer id).removeOwn id).Kept := h.resetIdleTimer.removeOwn
    refine hremoved.getConnection.setPhase ?_ (fun id' hid => keyOf_of_holds hremoved hid)
      fun key id' _ hrunning hget => ?_
    · rw [calls_getConnection, calls_removeOwn]
      exact hcall
    · cases hphase.symm.trans hrunning
      exact absurd (get_getConnection hget) (not_pooled_removeOwn h.resetIdleTimer)
  | gives hcall hkind hphase =>
    refine h.setPhase hcall (fun _ hid => nomatch hid) fun key id' hexec hrunning _ => ?_
    cases hphase.symm.trans hrunning
    exact nomatch hkind hexec
  | dropped id => exact h.drop
  | idle _ _ => exact h.removeOwn.clearIdleTimer (.inr fun _ => not_pooled_removeOwn h)
  | disconnected config => exact h.removeConnection
  | shut => exact h.shut

theorem kept_start : Kept {} := ⟨nofun, nofun, nofun, nofun⟩

theorem Kept.run {good : Pool → Action → Prop} (h : p.Kept) (hrun : Run maxRetries good p p') : p'.Kept := by
  induction hrun with
  | start => exact h
  | step _ _ hstep ih => exact kept_step ih hstep

/-- **Every run**, with whatever calls, timers and failures in whatever order. -/
theorem kept_of_run {good : Pool → Action → Prop} (h : Run maxRetries good {} p) : p.Kept := kept_start.run h

end Kept

def gpuHost : Target := ⟨"gpu-1", 22, "root"⟩

/-- A command waits for the connection. -/
def dialling : Pool where
  calls := [{ kind := .exec, config := gpuHost, phase := .connecting 1 false }]

/-- The command runs. -/
def commanded : Pool where
  connections := [(getConnectionKey gpuHost, 0)]
  opened := [{ key := getConnectionKey gpuHost, connected := true, idleTimer := false }]
  calls := [{ kind := .exec, config := gpuHost, phase := .running 0 false }]

theorem run_dialling : Run 3 (fun _ _ => True) {} dialling := .step (a := .invoke .exec gpuHost) .start trivial rfl

theorem run_commanded : Run 3 (fun _ _ => True) {} commanded :=
  .step (a := .proceed 0) (.step (a := .connectResolved 0) run_dialling trivial rfl) trivial rfl

theorem kept_commanded : commanded.Kept := kept_of_run run_commanded

/-! ## A pool that is closed -/

/-- The calls that may still open a connection. -/
def attempting (p : Pool) : ℕ := p.calls.countP fun call => call.phase.attempts

/-- The connections that were opened, and the calls that may open one. -/
def spent (p : Pool) : ℕ := p.opened.length + p.attempting

section Closed

variable {p p' p₀ : Pool} {id i : ℕ} {key : String} {f : Connection → Connection} {call : Call} {phase : Phase}
  {maxRetries : ℕ} {config : Target} {kind : Kind} {again : Bool} {a : Action}

/-- What a pool that is closed may still do. -/
structure Shuts (p p' : Pool) : Prop where
  closed : p'.closed = true
  opened : p.opened.length ≤ p'.opened.length
  spent : p'.spent ≤ p.spent
  pooled : ∀ key id, p'.connections.get key = some id → p.connections.get key = some id ∨ p.opened.length ≤ id

theorem attempting_setPhase (hcall : p.calls[i]? = some call) : (p.setPhase i phase).attempting +
    (if call.phase.attempts then 1 else 0) = p.attempting + if phase.attempts then 1 else 0 :=
  countP_modify _ _ hcall

/-- A call that does not connect, and does not begin to. -/
theorem Shuts.setPhase (h : p.Shuts p') (hcall : p'.calls[i]? = some call)
    (hattempts : phase.attempts = true → call.phase.attempts = true) : p.Shuts (p'.setPhase i phase) where
  closed := h.closed
  opened := h.opened
  pooled := h.pooled
  spent := by
    refine le_trans ?_ h.spent
    have hcount := @attempting_setPhase p' i call phase hcall
    refine Nat.add_le_add_left ?_ p'.opened.length
    cases hp : phase.attempts with
    | true => rw [hp, hattempts hp] at hcount; exact (Nat.add_right_cancel hcount).le
    | false => rw [hp] at hcount; exact (Nat.le_add_right _ _).trans hcount.le

theorem Shuts.modify (h : p.Shuts p') : p.Shuts (p'.modify id f) where
  closed := h.closed
  opened := h.opened.trans (List.length_modify ..).ge
  pooled := h.pooled
  spent := (Nat.add_le_add_right (List.length_modify ..).le _).trans h.spent

theorem Shuts.removeConnection (h : p.Shuts p') : p.Shuts (p'.removeConnection key) where
  closed := closed_removeConnection.trans h.closed
  opened := h.opened.trans length_opened_removeConnection.ge
  pooled key' id hget := by
    rw [get_removeConnection] at hget
    split_ifs at hget
    exact h.pooled key' id hget
  spent := by
    rw [Pool.spent, attempting, length_opened_removeConnection, calls_removeConnection]
    exact h.spent

theorem Shuts.removeOwn (h : p.Shuts p') : p.Shuts (p'.removeOwn id) := by
  cases hkey : p'.keyOf id with
  | none => rwa [removeOwn_of_none hkey]
  | some key =>
    rw [removeOwn_of_some hkey]
    exact h.removeConnection

theorem Shuts.foldl_removeConnection (keys : List String) (h : p.Shuts p') :
    p.Shuts (keys.foldl Pool.removeConnection p') := by
  induction keys generalizing p' with
  | nil => exact h
  | cons key keys ih => exact ih h.removeConnection

theorem Shuts.refl (h : p.closed = true) : p.Shuts p := ⟨h, le_rfl, le_rfl, fun _ _ => .inl⟩

theorem Shuts.trans {p'' : Pool} (h : p.Shuts p') (h' : p'.Shuts p'') : p.Shuts p'' where
  closed := h'.closed
  opened := h.opened.trans h'.opened
  spent := h'.spent.trans h.spent
  pooled key id hget := by
    rcases h'.pooled key id hget with hold | hlate
    · exact h.pooled key id hold
    · exact .inr (h.opened.trans hlate)

theorem getConnection_of_closed (h : p.closed = true) : p.getConnection maxRetries config again = (p, .settled) := by
  rw [getConnection, if_pos h]

/-- A connection is opened by a call that attempted to. -/
theorem shuts_connected (h : p.closed = true) (hcall : p.calls[i]? = some call) (hattempts : call.phase.attempts = true) :
    p.Shuts ((p.addConnection key).setPhase i (.acquired id again)) where
  closed := h
  opened := (List.sublist_append_left p.opened _).length_le
  pooled key' id hget := by
    have hset : (p.connections.set key p.opened.length).get key' = some id := hget
    rw [JsMap.get_set] at hset
    split_ifs at hset
    · exact .inr (Option.some.inj hset).le
    · exact .inl hset
  spent := by
    have hcount : ((p.addConnection key).setPhase i (.acquired id again)).attempting + 1 = p.attempting := by
      have hmodify := @attempting_setPhase (p.addConnection key) i call (.acquired id again) hcall
      rwa [hattempts] at hmodify
    have hlength : ((p.addConnection key).setPhase i (.acquired id again)).opened.length = p.opened.length + 1 :=
      List.length_append
    rw [Pool.spent, Pool.spent, hlength, ← hcount, Nat.add_right_comm, Nat.add_assoc]

theorem shuts_step (h : p.closed = true) (hstep : p.step maxRetries a = some p') : p.Shuts p' := by
  have hrefl := Shuts.refl h
  cases does_of_step hstep with
  | invoked kind config =>
    rw [invoke, getConnection_of_closed h]
    refine ⟨h, le_rfl, ?_, fun _ _ => .inl⟩
    rw [Pool.spent, attempting, List.countP_append]
    rfl
  | connected hcall hphase => exact shuts_connected h hcall (by rw [hphase]; rfl)
  | waits hcall hattempts _ => exact hrefl.setPhase hcall fun _ => hattempts
  | starts hcall _ _ =>
    refine Shuts.modify (hrefl.setPhase hcall ?_)
    exact nofun
  | continues hcall _ _ => exact hrefl.setPhase hcall nofun
  | ends hcall _ => exact hrefl.modify.setPhase hcall nofun
  | @retries i id call err hcall hkind hphase =>
    have hremoved : p.Shuts ((p.resetIdleTimer id).removeOwn id) := hrefl.modify.removeOwn
    have hcall' : ((p.resetIdleTimer id).removeOwn id).calls[i]? = some call := by
      rw [calls_removeOwn]
      exact hcall
    rw [getConnection_of_closed hremoved.closed]
    show p.Shuts (((p.resetIdleTimer id).removeOwn id).setPhase i .settled)
    exact hremoved.setPhase hcall' nofun
  | gives hcall _ _ => exact hrefl.setPhase hcall nofun
  | dropped id => exact hrefl.modify
  | idle _ _ => exact hrefl.removeOwn.modify
  | disconnected config => exact hrefl.removeConnection
  | shut => exact Shuts.foldl_removeConnection _ ⟨rfl, le_rfl, le_rfl, fun _ _ => .inl⟩

theorem get_foldl_removeConnection (keys : List String) : (keys.foldl removeConnection p).connections.get key =
    if key ∈ keys then none else p.connections.get key := by
  induction keys generalizing p with
  | nil => rfl
  | cons key' keys ih =>
    rw [List.foldl_cons, ih, get_removeConnection]
    by_cases hkey : key ∈ keys
    · rw [if_pos hkey, if_pos (List.mem_cons_of_mem _ hkey)]
    · rw [if_neg hkey]
      by_cases heq : key' = key
      · rw [if_pos heq, if_pos (heq ▸ List.mem_cons_self)]
      · rw [if_neg heq, if_neg]
        simpa [hkey] using Ne.symm heq

/-- `close()` leaves nothing in the pool. -/
theorem get_shut : p.shut.connections.get key = none := by
  rw [shut, get_foldl_removeConnection]
  split_ifs with hmem
  · rfl
  · refine Option.eq_none_iff_forall_ne_some.mpr fun id hget => hmem ?_
    exact List.mem_map.mpr ⟨_, JsMap.mem_of_get_eq_some hget, rfl⟩

theorem shuts_of_run {good : Pool → Action → Prop} (h : p.closed = true) (hrun : Run maxRetries good p p') :
    p.Shuts p' := by
  induction hrun with
  | start => exact .refl h
  | step _ _ hstep ih => exact ih.trans (shuts_step ih.closed hstep)

/-- **After `close`** at most as many connections are opened as calls were connecting, and the pool holds no others.
So if none was, it stays empty. -/
theorem closed_of_run {good good' : Pool → Action → Prop} (h : Run maxRetries good {} p)
    (hrun : Run maxRetries good' p.shut p') :
    p'.closed = true ∧ p'.opened.length ≤ p.opened.length + p.attempting ∧
      (∀ key id, p'.connections.get key = some id → p.opened.length ≤ id) ∧
      (p.attempting = 0 → ∀ key, p'.connections.get key = none) := by
  have hshut : Shuts { p with closed := true } p.shut :=
    Shuts.foldl_removeConnection _ ⟨rfl, le_rfl, le_rfl, fun _ _ => .inl⟩
  have hshuts := shuts_of_run hshut.closed hrun
  have hkept : p'.Kept := (kept_start.run h).shut.run hrun
  have hopened : p'.opened.length ≤ p.opened.length + p.attempting :=
    (Nat.le_add_right _ _).trans (hshuts.spent.trans hshut.spent)
  have hlate : ∀ key id, p'.connections.get key = some id → p.opened.length ≤ id := fun key id hget => by
    rcases hshuts.pooled key id hget with hold | hlate
    · exact nomatch get_shut.symm.trans hold
    · exact hshut.opened.trans hlate
  refine ⟨hshuts.closed, hopened, hlate, fun hnone key => ?_⟩
  refine Option.eq_none_iff_forall_ne_some.mpr fun id hget => ?_
  have hlt := lt_of_keyOf (hkept.pooled key id hget)
  rw [hnone] at hopened
  exact absurd (hlate key id hget) (not_le.mpr (hlt.trans_le hopened))

end Closed

/-- The pool was closed while the command waited for the connection. -/
def dialledLate : Pool where
  connections := [(getConnectionKey gpuHost, 0)]
  opened := [{ key := getConnectionKey gpuHost, connected := true, idleTimer := true }]
  calls := [{ kind := .exec, config := gpuHost, phase := .acquired 0 false }]
  closed := true

theorem closed_dialledLate : dialledLate.closed = true ∧ dialledLate.opened.length ≤ 0 + 1 ∧
    (∀ key id, dialledLate.connections.get key = some id → 0 ≤ id) ∧
    (dialling.attempting = 0 → ∀ key, dialledLate.connections.get key = none) :=
  closed_of_run run_dialling
    (.step (a := .connectResolved 0) (.start : Run 3 (fun _ _ => True) dialling.shut dialling.shut) trivial rfl)

/-! ## Calls that do not overlap -/

/-- Every call for the key is settled, except one. -/
def Quiet (p : Pool) (except : Option ℕ) (key : String) : Prop :=
  ∀ (i : ℕ) (call : Call), some i ≠ except → p.calls[i]? = some call → getConnectionKey call.config = key →
    call.phase = .settled

/-- A call begins, and a key is disconnected, when the calls before for the key are settled. No timer runs out under a
transfer or under the retry of a command, where it is not stopped. -/
def Serial (p : Pool) : Action → Prop
  | .invoke _ config | .disconnect config => p.Quiet none (getConnectionKey config)
  | .close => ∀ key, p.Quiet none key
  | .idle id => ∀ call ∈ p.calls, p.keyOf id = some (getConnectionKey call.config) → call.isBare = false
  | _ => True

/-- One call at a time uses the connection of a key. What is up or has a timer is in the pool, a call that connects has
no connection there, and while a command runs for the first time no timer of its key does. -/
structure Calm (p : Pool) (except : Option ℕ) : Prop where
  single : ∀ (i j : ℕ) (call call' : Call), p.calls[i]? = some call → p.calls[j]? = some call' →
    getConnectionKey call.config = getConnectionKey call'.config → call.phase ≠ .settled → call'.phase ≠ .settled →
    i = j
  sole : ∀ id, p.live id = true → ∃ key, p.connections.get key = some id
  timers : ∀ id, p.armed id = true → ∃ key, p.connections.get key = some id
  held : ∀ (i : ℕ) (call : Call) (id : ℕ), some i ≠ except → p.calls[i]? = some call → call.phase.holds = some id →
    p.connections.get (getConnectionKey call.config) = some id
  fresh : ∀ (i : ℕ) (call : Call), some i ≠ except → p.calls[i]? = some call → call.phase.attempts = true →
    p.connections.get (getConnectionKey call.config) = none
  still : ∀ (i : ℕ) (call : Call) (id j : ℕ), some i ≠ except → p.calls[i]? = some call → call.kind = .exec →
    call.phase = .running id false → p.keyOf j = some (getConnectionKey call.config) → p.armed j = false

section Calm

variable {p p' : Pool} {except : Option ℕ} {id i : ℕ} {key : String} {f : Connection → Connection} {call : Call}
  {phase : Phase} {maxRetries : ℕ} {config : Target} {kind : Kind} {again : Bool} {a : Action}

theorem Calm.but (h : p.Calm none) : p.Calm except where
  single := h.single
  sole := h.sole
  timers := h.timers
  held i call id _ := h.held i call id nofun
  fresh i call _ := h.fresh i call nofun
  still i call id j _ := h.still i call id j nofun

/-- A call that is not settled is the only one of its key. -/
theorem Calm.quiet (h : p.Calm none) (hcall : p.calls[i]? = some call) (hphase : call.phase ≠ .settled) :
    p.Quiet (some i) (getConnectionKey call.config) := by
  intro j call' hne hcall' hkey
  by_contra hphase'
  exact hne (congrArg some (h.single j i call' call hcall' hcall hkey hphase' hphase))

theorem Calm.resetIdleTimer (h : p.Calm except) (hkept : p.Kept) (hget : p.connections.get key = some id)
    (hquiet : p.Quiet except key) : (p.resetIdleTimer id).Calm except where
  single := h.single
  sole id' hup := h.sole id' (live_resetIdleTimer.symm.trans hup)
  timers id' harmed := by
    rw [armed_resetIdleTimer, Bool.or_eq_true, Bool.and_eq_true, decide_eq_true_eq] at harmed
    rcases harmed with ⟨rfl, -⟩ | harmed
    · exact ⟨key, hget⟩
    · exact h.timers id' harmed
  held := h.held
  fresh := h.fresh
  still i call id' j hne hcall hexec hphase hkey := by
    rw [keyOf_resetIdleTimer] at hkey
    have hother : ¬id = j := by
      rintro rfl
      have hsame := Option.some.inj ((hkept.pooled key id hget).symm.trans hkey)
      exact nomatch hphase.symm.trans (hquiet i call hne hcall hsame.symm)
    rw [armed_resetIdleTimer, h.still i call id' j hne hcall hexec hphase hkey]
    simp [hother]

/-- An operation on one connection that neither connects it nor starts its timer. -/
theorem Calm.modify (h : p.Calm except) (hkey : ∀ c, (f c).key = c.key)
    (hlive : ∀ j, (p.modify id f).live j = true → p.live j = true)
    (harmed : ∀ j, (p.modify id f).armed j = true → p.armed j = true) : (p.modify id f).Calm except where
  single := h.single
  sole id' hup := h.sole id' (hlive id' hup)
  timers id' hup := h.timers id' (harmed id' hup)
  held := h.held
  fresh := h.fresh
  still i call id' j hne hcall hexec hphase hkey' := by
    rw [keyOf_modify hkey] at hkey'
    exact Bool.eq_false_iff.mpr fun hup =>
      Bool.eq_false_iff.mp (h.still i call id' j hne hcall hexec hphase hkey') (harmed j hup)

theorem Calm.drop (h : p.Calm except) : (p.drop id).Calm except := by
  refine h.modify (fun _ => rfl) (fun j hup => ?_) fun j hup => armed_drop.symm.trans hup
  exact (Bool.and_eq_true_iff.mp (live_drop.symm.trans hup)).2

theorem Calm.clearIdleTimer (h : p.Calm except) : (p.clearIdleTimer id).Calm except := by
  refine h.modify (fun _ => rfl) (fun j hup => live_clearIdleTimer.symm.trans hup) fun j hup => ?_
  exact (Bool.and_eq_true_iff.mp (armed_clearIdleTimer.symm.trans hup)).2

theorem Calm.removeConnection (h : p.Calm except) (hquiet : p.Quiet except key) :
    (p.removeConnection key).Calm except := by
  have hkeep : ∀ id key', p.connections.get key ≠ some id → p.connections.get key' = some id →
      (p.removeConnection key).connections.get key' = some id := by
    intro id key' hne hget
    rw [get_removeConnection, if_neg, hget]
    rintro rfl
    exact hne hget
  refine ⟨?_, fun id hup => ?_, fun id harmed => ?_, fun i call id hne hcall hholds => ?_,
    fun i call hne hcall hattempts => ?_, fun i call id j hne hcall hexec hphase hkey => ?_⟩
  · rw [calls_removeConnection]
    exact h.single
  · rw [live_removeConnection, Bool.and_eq_true_iff, decide_eq_true_eq] at hup
    obtain ⟨key', hget⟩ := h.sole id hup.2
    exact ⟨key', hkeep id key' hup.1 hget⟩
  · rw [armed_removeConnection, Bool.and_eq_true_iff, decide_eq_true_eq] at harmed
    obtain ⟨key', hget⟩ := h.timers id harmed.2
    exact ⟨key', hkeep id key' harmed.1 hget⟩
  · rw [calls_removeConnection] at hcall
    rw [get_removeConnection, if_neg]
    · exact h.held i call id hne hcall hholds
    · intro hkey
      rw [hquiet i call hne hcall hkey.symm] at hholds
      cases hholds
  · rw [calls_removeConnection] at hcall
    rw [get_removeConnection, h.fresh i call hne hcall hattempts, ite_self]
  · rw [calls_removeConnection] at hcall
    rw [keyOf_removeConnection] at hkey
    rw [armed_removeConnection, h.still i call id j hne hcall hexec hphase hkey, Bool.and_false]

theorem Calm.addConnection (h : p.Calm except) (hquiet : p.Quiet except key)
    (hnone : p.connections.get key = none) : (p.addConnection key).Calm except := by
  have hget : ∀ key', (p.addConnection key).connections.get key' =
      if key = key' then some p.opened.length else p.connections.get key' := fun key' => JsMap.get_set
  have hkeep : ∀ id key', p.connections.get key' = some id → (p.addConnection key).connections.get key' = some id := by
    intro id key' hold
    rw [hget, if_neg, hold]
    rintro rfl
    exact nomatch hnone.symm.trans hold
  refine ⟨h.single, fun id hup => ?_, fun id harmed => ?_, fun i call id hne hcall hholds => ?_,
    fun i call hne hcall hattempts => ?_, fun i call id j hne hcall hexec hphase hkey => ?_⟩
  · rw [live_addConnection] at hup
    split_ifs at hup with hid
    · exact ⟨key, by rw [hget, if_pos rfl, hid]⟩
    · obtain ⟨key', hold⟩ := h.sole id hup
      exact ⟨key', hkeep id key' hold⟩
  · rw [armed_addConnection] at harmed
    split_ifs at harmed with hid
    · exact ⟨key, by rw [hget, if_pos rfl, hid]⟩
    · obtain ⟨key', hold⟩ := h.timers id harmed
      exact ⟨key', hkeep id key' hold⟩
  · exact hkeep id _ (h.held i call id hne hcall hholds)
  · rw [hget, if_neg, h.fresh i call hne hcall hattempts]
    intro hkey
    rw [hquiet i call hne hcall hkey.symm] at hattempts
    cases hattempts
  · have hother : key ≠ getConnectionKey call.config := by
      intro hsame
      exact nomatch hphase.symm.trans (hquiet i call hne hcall hsame.symm)
    rw [keyOf_addConnection] at hkey
    split_ifs at hkey with hj
    · exact absurd (Option.some.inj hkey) hother
    · rw [armed_addConnection, if_neg hj]
      exact h.still i call id j hne hcall hexec hphase hkey

/-- A call goes on, in a phase that fits the pool. -/
theorem Calm.setPhase (h : p.Calm (some i)) (hcall : p.calls[i]? = some call)
    (hsettled : call.phase = .settled → phase = .settled)
    (hheld : ∀ id, phase.holds = some id → p.connections.get (getConnectionKey call.config) = some id)
    (hfresh : phase.attempts = true → p.connections.get (getConnectionKey call.config) = none)
    (hstill : ∀ id, call.kind = .exec → phase = .running id false → ∀ j,
      p.keyOf j = some (getConnectionKey call.config) → p.armed j = false) : (p.setPhase i phase).Calm none := by
  have hof : ∀ {j call'}, (p.setPhase i phase).calls[j]? = some call' →
      i = j ∧ call' = { call with phase } ∨ i ≠ j ∧ p.calls[j]? = some call' := by
    intro j call' hcall'
    rw [getElem?_calls_setPhase] at hcall'
    split_ifs at hcall' with hij
    · subst hij
      rw [hcall] at hcall'
      exact .inl ⟨rfl, (Option.some.inj hcall').symm⟩
    · exact .inr ⟨hij, hcall'⟩
  have hne : ∀ {j}, i ≠ j → some j ≠ some i := fun hij hsame => hij (Option.some.inj hsame).symm
  refine ⟨fun j j' c c' hc hc' hkey hphase hphase' => ?_, h.sole, h.timers, fun j c id _ hc hholds => ?_,
    fun j c _ hc hattempts => ?_, fun j c id j' _ hc hexec hrunning hkey => ?_⟩
  · rcases hof hc with ⟨rfl, rfl⟩ | ⟨hij, hc⟩ <;> rcases hof hc' with ⟨rfl, rfl⟩ | ⟨hij', hc'⟩
    · rfl
    · exact h.single i j' call c' hcall hc' hkey (mt hsettled hphase) hphase'
    · exact h.single j i c call hc hcall hkey hphase (mt hsettled hphase')
    · exact h.single j j' c c' hc hc' hkey hphase hphase'
  · rcases hof hc with ⟨rfl, rfl⟩ | ⟨hij, hc⟩
    · exact hheld id hholds
    · exact h.held j c id (hne hij) hc hholds
  · rcases hof hc with ⟨rfl, rfl⟩ | ⟨hij, hc⟩
    · exact hfresh hattempts
    · exact h.fresh j c (hne hij) hc hattempts
  · rcases hof hc with ⟨rfl, rfl⟩ | ⟨hij, hc⟩
    · exact hstill id hexec hrunning j' hkey
    · exact h.still j c id j' (hne hij) hc hexec hrunning hkey

/-- A call begins that is alone with its key. -/
theorem Calm.begin (h : p.Calm none) (hquiet : p.Quiet none (getConnectionKey config))
    (hheld : ∀ id, phase.holds = some id → p.connections.get (getConnectionKey config) = some id)
    (hfresh : phase.attempts = true → p.connections.get (getConnectionKey config) = none)
    (hstarts : ∀ id, phase ≠ .running id false) :
    Calm { p with calls := p.calls ++ [{ kind, config, phase }] } none := by
  refine ⟨fun j j' c c' hc hc' hkey hphase hphase' => ?_, h.sole, h.timers, fun j c id _ hc hholds => ?_,
    fun j c _ hc hattempts => ?_, fun j c id j' _ hc hexec hrunning hkey => ?_⟩
  · rcases of_getElem?_concat hc with hc | ⟨rfl, rfl⟩ <;> rcases of_getElem?_concat hc' with hc' | ⟨rfl, rfl⟩
    · exact h.single j j' c c' hc hc' hkey hphase hphase'
    · exact absurd (hquiet j c nofun hc hkey) hphase
    · exact absurd (hquiet j' c' nofun hc' hkey.symm) hphase'
    · rfl
  · rcases of_getElem?_concat hc with hc | ⟨rfl, rfl⟩
    · exact h.held j c id nofun hc hholds
    · exact hheld id hholds
  · rcases of_getElem?_concat hc with hc | ⟨rfl, rfl⟩
    · exact h.fresh j c nofun hc hattempts
    · exact hfresh hattempts
  · rcases of_getElem?_concat hc with hc | ⟨rfl, rfl⟩
    · exact h.still j c id j' nofun hc hexec hrunning hkey
    · exact absurd hrunning (hstarts id)

/-- What `getConnection` leaves, for a call that is alone with its key. -/
theorem Calm.getConnection (h : p.Calm except) (hquiet : p.Quiet except (getConnectionKey config)) :
    (p.getConnection maxRetries config again).1.Calm except ∧
      (∀ id, (p.getConnection maxRetries config again).2.holds = some id →
        (p.getConnection maxRetries config again).1.connections.get (getConnectionKey config) = some id) ∧
      ((p.getConnection maxRetries config again).2.attempts = true →
        (p.getConnection maxRetries config again).1.connections.get (getConnectionKey config) = none) ∧
      ∀ id, (p.getConnection maxRetries config again).2 ≠ .running id false := by
  cases hgot : p.getConnection maxRetries config again with
  | mk p' phase =>
    cases hgot ▸ got p maxRetries config again with
    | refused _ => exact ⟨h, nofun, nofun, nofun⟩
    | existing id hget _ => exact ⟨h, fun _ hid => hget.trans hid, nofun, nofun⟩
    | created phase _ hnone =>
      refine ⟨h.removeConnection hquiet, fun id hid => ?_, fun _ => ?_, fun id hrunning => ?_⟩
      · exact nomatch hnone.symm.trans hid
      · rw [get_removeConnection, if_pos rfl]
      · obtain rfl : phase = .running id false := hrunning
        cases hnone

theorem Calm.foldl_removeConnection (keys : List String) (h : p.Calm none) (hquiet : ∀ key, p.Quiet none key) :
    (keys.foldl Pool.removeConnection p).Calm none := by
  induction keys generalizing p with
  | nil => exact h
  | cons key keys ih =>
    refine ih (h.removeConnection (hquiet key)) fun key' i call hne hcall hkey => ?_
    rw [calls_removeConnection] at hcall
    exact hquiet key' i call hne hcall hkey

theorem quiet_of_calls (hcalls : p'.calls = p.calls) (h : p.Quiet except key) : p'.Quiet except key := by
  intro i call hne hcall hkey
  rw [hcalls] at hcall
  exact h i call hne hcall hkey

/-- A timer runs out only when no call uses the connection. -/
theorem Calm.quiet_of_idle (h : p.Calm none) (hget : p.connections.get key = some id)
    (hkey : p.keyOf id = some key) (harmed : p.armed id = true)
    (hready : ∀ call ∈ p.calls, call.phase.isAcquired = false)
    (hbare : ∀ call ∈ p.calls, p.keyOf id = some (getConnectionKey call.config) → call.isBare = false) :
    p.Quiet none key := by
  intro i call _ hcall hsame
  have hmem := List.mem_of_getElem? hcall
  have hfirst := hbare call hmem (hsame.symm ▸ hkey)
  rw [Call.isBare, Bool.or_eq_false_iff, decide_eq_false_iff_not] at hfirst
  have hexec : call.kind = .exec := by
    cases hkind : call.kind with
    | exec => rfl
    | transfer => exact absurd hkind hfirst.1
  cases hphase : call.phase with
  | connecting attempt again =>
    have hnone := h.fresh i call nofun hcall (by rw [hphase]; rfl)
    rw [hsame, hget] at hnone
    cases hnone
  | sleeping attempt again =>
    have hnone := h.fresh i call nofun hcall (by rw [hphase]; rfl)
    rw [hsame, hget] at hnone
    cases hnone
  | acquired id' again =>
    have hacquired := hready call hmem
    rw [hphase] at hacquired
    cases hacquired
  | running id' again =>
    rw [hphase] at hfirst
    obtain rfl : again = false := hfirst.2
    have hstill := h.still i call id' id nofun hcall hexec hphase (hsame.symm ▸ hkey)
    exact nomatch harmed.symm.trans hstill
  | settled => rfl

theorem calm_step (h : p.Calm none) (hkept : p.Kept) (hserial : p.Serial a) (hstep : p.step maxRetries a = some p') :
    p'.Calm none := by
  cases does_of_step hstep with
  | invoked kind config =>
    obtain ⟨hcalm, hheld, hfresh, hstarts⟩ := @Calm.getConnection _ _ maxRetries config false h hserial
    exact hcalm.begin (quiet_of_calls calls_getConnection hserial) hheld hfresh hstarts
  | @connected i attempt call again hcall hphase =>
    have hquiet := h.quiet hcall (by rw [hphase]; exact nofun)
    have hnone := h.fresh i call nofun hcall (by rw [hphase]; rfl)
    have hget : (p.addConnection (getConnectionKey call.config)).connections.get (getConnectionKey call.config) =
        some p.opened.length := JsMap.get_set_self
    refine (h.but.addConnection hquiet hnone).setPhase hcall (fun hsettled => ?_) (fun id hid => ?_) nofun nofun
    · exact nomatch hphase.symm.trans hsettled
    · exact hget.trans hid
  | @waits i call phase _ hcall hattempts hholds =>
    have hnone := h.fresh i call nofun hcall hattempts
    refine h.but.setPhase hcall (fun hsettled => ?_) (fun id hid => nomatch hholds.symm.trans hid) (fun _ => hnone)
      fun id _ hrunning => ?_
    · rw [hsettled] at hattempts
      cases hattempts
    · rw [hrunning] at hholds
      cases hholds
  | @starts i id call hcall hkind hphase =>
    have hget := h.held i call id nofun hcall (by rw [hphase]; rfl)
    have hcleared : (p.clearIdleTimer id).Calm (some i) := h.but.clearIdleTimer
    refine hcleared.setPhase hcall (fun hsettled => ?_) (fun id' hid => hget.trans hid) nofun fun id' _ _ j hkey => ?_
    · exact nomatch hphase.symm.trans hsettled
    · rw [keyOf_clearIdleTimer] at hkey
      rw [armed_clearIdleTimer, Bool.and_eq_false_imp]
      intro hother
      refine Bool.eq_false_iff.mpr fun harmed => of_decide_eq_true hother ?_
      obtain ⟨key, hpooled⟩ := h.timers j harmed
      rw [Option.some.inj ((hkept.pooled key j hpooled).symm.trans hkey), hget] at hpooled
      exact Option.some.inj hpooled
  | @continues i id call again hcall hkind hphase =>
    have hget := h.held i call id nofun hcall (by rw [hphase]; rfl)
    refine h.but.setPhase hcall (fun hsettled => ?_) (fun id' hid => hget.trans hid) nofun fun id' hexec hrunning => ?_
    · exact nomatch hphase.symm.trans hsettled
    · cases hrunning
      cases hkind hexec
  | @ends i id call again _ hcall hphase =>
    have hget := h.held i call id nofun hcall (by rw [hphase]; rfl)
    have hquiet := h.quiet hcall (by rw [hphase]; exact nofun)
    exact (h.but.resetIdleTimer hkept hget hquiet).setPhase hcall (fun _ => rfl) nofun nofun nofun
  | @retries i id call err hcall hkind hphase =>
    have hget := h.held i call id nofun hcall (by rw [hphase]; rfl)
    have hquiet := h.quiet hcall (by rw [hphase]; exact nofun)
    have hown : (p.resetIdleTimer id).removeOwn id =
        (p.resetIdleTimer id).removeConnection (getConnectionKey call.config) :=
      removeOwn_of_some (keyOf_resetIdleTimer.trans (hkept.pooled _ id hget))
    have hremoved := (h.but.resetIdleTimer hkept hget hquiet).removeConnection hquiet
    rw [hown]
    obtain ⟨hcalm, hheld, hfresh, hstarts⟩ := @Calm.getConnection _ _ maxRetries call.config true hremoved
      (quiet_of_calls calls_removeConnection hquiet)
    refine hcalm.setPhase ?_ (fun hsettled => nomatch hphase.symm.trans hsettled) hheld hfresh
      fun id _ hrunning => absurd hrunning (hstarts id)
    rw [calls_getConnection, calls_removeConnection]
    exact hcall
  | gives hcall _ _ => exact h.but.setPhase hcall (fun _ => rfl) nofun nofun nofun
  | dropped id => exact h.drop
  | @idle id harmed hready =>
    obtain ⟨key, hget⟩ := h.timers id harmed
    have hkey := hkept.pooled key id hget
    rw [removeOwn_of_some hkey]
    exact (h.removeConnection (h.quiet_of_idle hget hkey harmed hready hserial)).clearIdleTimer
  | disconnected config => exact h.removeConnection hserial
  | shut => exact Calm.foldl_removeConnection _ ⟨h.single, h.sole, h.timers, h.held, h.fresh, h.still⟩ hserial

/-- **While the calls for a host do not overlap**: a connection that is up is the one in the pool, and a command runs
for the first time on it, with no timer that could close it. -/
theorem calm_of_run (h : Run maxRetries Serial {} p) : p.Calm none := by
  induction h with
  | start => exact ⟨nofun, nofun, nofun, nofun, nofun, nofun⟩
  | step hrun hserial hstep ih => exact calm_step ih (kept_start.run hrun) hserial hstep

end Calm

theorem calm_commanded : commanded.Calm none :=
  calm_of_run (.step (a := .proceed 0) (.step (a := .connectResolved 0)
    (.step (a := .invoke .exec gpuHost) (.start : Run 3 Serial {} {}) nofun rfl) trivial rfl) trivial rfl)

end Pool

end Benchmarker.Ssh
