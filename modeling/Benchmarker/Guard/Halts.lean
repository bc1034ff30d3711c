import Benchmarker.Guard.Infrastructure

/-!
# When the guard halts

The guard consults `fatal` only at the start of a check and of `ensureContainerRunning`, and `stop` only
clears the timer, so a takeover or a stop in the middle of a check leaves the rest of the check to run.

* `Halted`, `failedProbes`, `Halts`: what the guard is to keep to, on its log.
* `Watch`, `watch`: the monitor of the guard; `Watch.answers`, `Watch.stops` are the condition on the answers
  and on the stop.
* `Sound`: what the fields and the log have to do with each other. `keeps_checkOnce`: a check keeps it.
* **`guard_halts`**: a guard whose answers and stop meet the condition halts.
-/

namespace Benchmarker.Guard

open Async Async.Prog

variable {W : Type}

/-! ## What is to hold -/

/-- Docker starts and updates, restarts of the SSH forward, and reconnects of the tunnel. -/
def acts : GuardOp → Bool
  | .exec .start | .exec .updateRestart | .restartForward | .reconnect => true
  | _ => false

/-- The request fires `onTakeover`. -/
def fires : GuardOp → Bool
  | .onTakeover _ => true
  | _ => false

/-- The guard has fired `onTakeover`, or has been stopped. -/
def Halted (log : List (GuardItem W)) : Prop :=
  .stop ∈ log ∨ ∃ reason, .issue (.onTakeover reason) ∈ log

/-- The failed public probes since the last success or reconnect, with one more item. -/
def countFailed (failed : ℕ) : GuardItem W → ℕ
  | .issue .reconnect => 0
  | .answer (.publicModels _ _) r _ => if passed r then 0 else failed + 1
  | _ => failed

/-- The consecutive failed public probes of a log since the last success or reconnect. -/
def failedProbes (log : List (GuardItem W)) : ℕ := log.foldl countFailed 0

/-- What the guard is to keep to. -/
structure Halts (options : GuardOptions) (log : List (GuardItem W)) : Prop where
  quiet : ∀ xs o ys, log = xs ++ .issue o :: ys → acts o = true → ¬ Halted xs
  once : ∀ xs reason ys, log = xs ++ .issue (.onTakeover reason) :: ys →
    ∀ reason', .issue (.onTakeover reason') ∉ xs
  debounced : ∀ xs ys, log = xs ++ .issue .reconnect :: ys →
    options.publicProbeFailureThreshold ≤ failedProbes xs

/-! ## The monitor -/

/-- A reconnect that handed a tunnel back. -/
def handsBack : Except String TunnelResult → Bool
  | .ok result => result.success && result.tunnel.isSome
  | .error _ => false

/-- What the log of a guard says: whether the guard has been stopped and has fired, the failures as the
code counts them and as `failedProbes` does, and whether the last reconnect has failed with no successful
probe since. -/
structure Watch where
  stopped : Bool := false
  fired : Bool := false
  counter : ℕ := 0
  streak : ℕ := 0
  lost : Bool := false
  deriving DecidableEq

namespace Watch

def halted (m : Watch) : Bool := m.stopped || m.fired

def issue (m : Watch) (o : GuardOp) : Watch :=
  { m with
    fired := m.fired || fires o
    streak := if o = .reconnect then 0 else m.streak }

def answer (m : Watch) : (o : GuardOp) → GuardAns o → Watch
  | .publicModels probe _, r =>
    { m with
      counter := if passed r || probe = .afterReconnect then 0 else m.counter + 1
      streak := if passed r then 0 else m.streak + 1
      lost := m.lost && !passed r }
  | .reconnect, r => { m with lost := !handsBack r }
  | _, _ => m

def step (m : Watch) : GuardItem W → Watch
  | .issue o => m.issue o
  | .answer o r _ => m.answer o r
  | .stop => { m with stopped := true }

/-- The requests that a guard may issue. -/
def allows (options : GuardOptions) (m : Watch) (o : GuardOp) : Prop :=
  (acts o = true → m.halted = false) ∧ (fires o = true → m.fired = false) ∧
    (o = .reconnect → options.publicProbeFailureThreshold ≤ m.streak)

/-- The condition on the answers. After a halt, the inspection of a stopped container before its start
throws, the local endpoint answers the probe of the forward, and the public endpoint answers or fails fewer
times than the threshold; after a failed reconnect the public endpoint answers, unless one failure is
enough. -/
def answers (options : GuardOptions) (m : Watch) : (o : GuardOp) → GuardAns o → Prop
  | .exec .inspectExit, r => m.halted = true → ∃ e, r = .error e
  | .localModels .forward, r => m.halted = true → up r = true
  | .publicModels .check _, r =>
    (m.halted = true → passed r = true ∨ m.counter + 1 < options.publicProbeFailureThreshold) ∧
      (m.lost = true → passed r = true ∨ options.publicProbeFailureThreshold ≤ 1)
  | _, _ => True

end Watch

/-- The monitor of the guard. -/
def watch (W : Type) (options : GuardOptions) : Monitor GuardAns W Watch where
  init := {}
  step := Watch.step
  allows := Watch.allows options
  answers m o r _ := m.answers options o r
  stops _ := True

/-! ## The monitor and the log -/

section Log

variable {options : GuardOptions} (log : List (GuardItem W))

theorem watch_stopped : ((watch W options).after log).stopped = true ↔ .stop ∈ log := by
  induction log using List.reverseRecOn with
  | nil => simp [watch]
  | append_singleton log i ih =>
    rw [Monitor.after_snoc, List.mem_append, ← ih]
    cases i with
    | issue o => simp [watch, Watch.step, Watch.issue]
    | answer o r w => cases o <;> simp [watch, Watch.step, Watch.answer]
    | stop => simp [watch, Watch.step]

theorem watch_fired :
    ((watch W options).after log).fired = true ↔ ∃ reason, .issue (.onTakeover reason) ∈ log := by
  induction log using List.reverseRecOn with
  | nil => simp [watch]
  | append_singleton log i ih =>
    simp only [Monitor.after_snoc, List.mem_append, exists_or, ← ih]
    cases i with
    | issue o => cases o <;> simp [watch, Watch.step, Watch.issue, fires]
    | answer o r w => cases o <;> simp [watch, Watch.step, Watch.answer]
    | stop => simp [watch, Watch.step]

theorem watch_streak : ((watch W options).after log).streak = failedProbes log := by
  induction log using List.reverseRecOn with
  | nil => rfl
  | append_singleton log i ih =>
    rw [Monitor.after_snoc, failedProbes, List.foldl_append, ← failedProbes, ← ih]
    cases i with
    | issue o => cases o <;> rfl
    | answer o r w => cases o <;> rfl
    | stop => rfl

variable {log}

theorem watch_halted : ((watch W options).after log).halted = true ↔ Halted log := by
  rw [Watch.halted, Bool.or_eq_true, watch_stopped, watch_fired, Halted]

/-- A log that the monitor allows is that of a guard that halts. -/
theorem halts_of_allowed (h : (watch W options).Allowed log) : Halts options log := by
  refine ⟨fun xs o ys heq hacts hhalted => ?_, fun xs reason ys heq reason' hmem => ?_,
    fun xs ys heq => ?_⟩
  · have hno := (h xs o ys heq).1 hacts
    rw [watch_halted.mpr hhalted] at hno
    cases hno
  · have hno := (h xs _ ys heq).2.1 rfl
    rw [(watch_fired xs).mpr ⟨reason', hmem⟩] at hno
    cases hno
  · have hstreak : ((watch W options).after xs).streak = failedProbes xs := watch_streak xs
    rw [← hstreak]
    exact (h xs _ ys heq).2.2 rfl

end Log

/-! ## The fields and the log -/

/-- What the fields and the log have to do with each other. -/
structure Sound (m : Watch) (s : GuardFields) : Prop where
  fatal : s.fatal = m.fired
  counted : s.consecutivePublicFailures ≤ m.counter
  streak : m.lost = false → s.consecutivePublicFailures ≤ m.streak

/-- A request that neither fires, nor reconnects, nor probes the public endpoint. -/
def Plain : GuardOp → Prop
  | .publicModels _ _ | .reconnect | .onTakeover _ => False
  | _ => True

section Waits

variable {options : GuardOptions} {m m' : Watch} {s : GuardFields} {o : GuardOp}

/-- While a request waits, the guard may be stopped. -/
theorem waits_eq (h : (watch W options).Waits m m') :
    ∃ stopped, m' = { m with stopped } ∧ (m.stopped = true → stopped = true) := by
  induction h with
  | refl => exact ⟨_, rfl, id⟩
  | stop _ _ ih =>
    obtain ⟨stopped, rfl, -⟩ := ih
    exact ⟨true, rfl, fun _ => rfl⟩

/-- A plain request and its answer leave the watch as it is. -/
theorem answer_plain (ho : Plain o) (m : Watch) (r : GuardAns o) : m.answer o r = m := by
  cases o with
  | publicModels | reconnect | onTakeover => exact ho.elim
  | exec | localModels | restartForward | now | sleep => rfl

theorem issue_plain (ho : Plain o) (m : Watch) : m.issue o = m := by
  cases o with
  | publicModels | reconnect | onTakeover => exact ho.elim
  | exec | localModels | restartForward | now | sleep => simp [Watch.issue, fires]

theorem Sound.plain (h : Sound m s) (ho : Plain o) (hw : (watch W options).Waits (m.issue o) m')
    (r : GuardAns o) : Sound (m'.answer o r) s := by
  obtain ⟨stopped, rfl, -⟩ := waits_eq hw
  rw [answer_plain ho, issue_plain ho]
  exact ⟨h.fatal, h.counted, h.streak⟩

end Waits

/-! ## Requests -/

section Requests

variable {options : GuardOptions} {m : Watch} {s : GuardFields} {o : GuardOp}

theorem allows_of_not_acts (hplain : Plain o) (hacts : acts o = false) : m.allows options o := by
  refine ⟨fun h => ?_, fun h => ?_, ?_⟩
  · rw [hacts] at h
    cases h
  · cases o with
    | publicModels | reconnect | onTakeover => exact hplain.elim
    | exec | localModels | restartForward | now | sleep => cases h
  · rintro rfl
    exact hplain.elim

theorem allows_of_running (hplain : Plain o) (hrun : m.halted = false) : m.allows options o := by
  refine ⟨fun _ => hrun, fun h => ?_, ?_⟩
  · cases o with
    | publicModels | reconnect | onTakeover => exact hplain.elim
    | exec | localModels | restartForward | now | sleep => cases h
  · rintro rfl
    exact hplain.elim

/-- A plain request, with what the condition says of its answer. -/
theorem keeps_ask (hplain : Plain o) (ho : m.allows options o) (h : Sound m s) :
    KeepsFrom (watch W options) (fun m r s => Sound m s ∧ ∃ (m₀ : Watch) (a : GuardAns o),
      r = (.ok a : Except String _) ∧ m₀.halted = m.halted ∧ m₀.answers options o a)
      (send o) s m := by
  refine keepsFrom_ask.mpr ⟨ho, fun m' hw r w hr => ⟨h.plain hplain hw r, m', r, rfl, ?_, hr⟩⟩
  show m'.halted = (m'.answer o r).halted
  rw [answer_plain hplain]

theorem keeps_orThrow {α : Type} {r : Except String α} (h : Sound m s) :
    KeepsFrom (watch W options) (fun m _ s => Sound m s) (orThrow r : GuardJs α) s m := by
  cases r with
  | ok a => exact keepsFrom_pure.mpr h
  | error e => exact keepsFrom_throw.mpr h

theorem keeps_exec {command : DockerCommand} (ho : m.allows options (.exec command)) (h : Sound m s) :
    KeepsFrom (watch W options) (fun m _ s => Sound m s) (exec command) s m := by
  refine ((keeps_ask (o := .exec command) trivial ho h).mono fun m r s h => h.1).then fun m r s h => ?_
  exact keeps_orThrow h

/-- A probe of the local endpoint that decides nothing. -/
theorem keeps_probeLocalEndpoint {probe : LocalProbe} (h : Sound m s) :
    KeepsFrom (watch W options) (fun m _ s => Sound m s) (probeLocalEndpoint probe) s m := by
  refine ((keeps_ask (o := .localModels probe) trivial (allows_of_not_acts trivial rfl) h).mono
    fun m r s h => h.1).then fun m r s h => ?_
  exact keepsFrom_pure.mpr h

theorem keeps_servedModelId (h : Sound m s) :
    KeepsFrom (watch W options) (fun m _ s => Sound m s) servedModelId s m := by
  refine ((keeps_ask (o := .localModels .servedModelId) trivial (allows_of_not_acts trivial rfl) h).mono
    fun m r s h => h.1).then fun m r s h => ?_
  exact keepsFrom_pure.mpr h

end Requests

/-! ## The container -/

section Container

variable {options : GuardOptions} {m : Watch} {s : GuardFields}

theorem keeps_markTakeover (reason : String) (h : Sound m s) :
    KeepsFrom (watch W options) (fun m _ s => Sound m s) (markTakeover reason) s m := by
  rw [markTakeover, keepsFrom_get_bind]
  split_ifs with hfatal
  · exact keepsFrom_pure.mpr h
  · rw [keepsFrom_modify_bind]
    have hfired : m.fired = false := by
      rw [← h.fatal]
      exact Bool.eq_false_iff.mpr hfatal
    have hallows : m.allows options (.onTakeover reason) :=
      ⟨fun habs => (by cases habs), fun _ => hfired, fun habs => (by cases habs)⟩
    refine KeepsFrom.then (J := Sound) (keepsFrom_ask.mpr ⟨hallows, fun m' hw r w _ => ?_⟩)
      fun m r s h => keeps_orThrow h
    obtain ⟨stopped, rfl, -⟩ := waits_eq hw
    refine ⟨?_, h.counted, ?_⟩
    · show true = (m.fired || true)
      rw [Bool.or_true]
    · exact h.streak

theorem keeps_checkServed (h : Sound m s) :
    KeepsFrom (watch W options) (fun m _ s => Sound m s) (checkServed options) s m := by
  unfold checkServed
  split
  · exact keepsFrom_pure.mpr h
  · refine (keeps_servedModelId h).then fun m served s h => ?_
    split
    · exact keepsFrom_pure.mpr h
    · split_ifs
      · exact keepsFrom_pure.mpr h
      · exact keeps_markTakeover _ h

theorem keeps_markRemoved (h : Sound m s) :
    KeepsFrom (watch W options) (fun m _ s => Sound m s) markRemoved s m := by
  refine (keeps_servedModelId h).then fun m served s h => ?_
  split
  · exact keeps_markTakeover _ h
  · exact keeps_markTakeover _ h

theorem keeps_containerApiLoop (start maxWaitMs rounds : ℕ) (h : Sound m s) :
    KeepsFrom (watch W options) (fun m _ s => Sound m s) (containerApiLoop start maxWaitMs rounds) s m := by
  induction rounds generalizing m s with
  | zero => exact keepsFrom_pure.mpr h
  | succ rounds ih =>
    refine ((keeps_ask (o := .now) trivial (allows_of_not_acts trivial rfl) h).mono
      fun m r s h => h.1).then fun m now s h => ?_
    split_ifs
    · refine (keeps_probeLocalEndpoint h).then fun m ready s h => ?_
      split_ifs
      · exact keepsFrom_pure.mpr h
      · exact ((keeps_ask (o := .sleep 10000) trivial (allows_of_not_acts trivial rfl) h).mono
          fun m r s h => h.1).then fun m _ s h => ih h
    · exact keepsFrom_pure.mpr h

theorem keeps_waitForContainerApi (rounds : ℕ) (h : Sound m s) :
    KeepsFrom (watch W options) (fun m _ s => Sound m s) (waitForContainerApi rounds) s m := by
  refine ((keeps_ask (o := .now) trivial (allows_of_not_acts trivial rfl) h).mono
    fun m r s h => h.1).then fun m start s h => ?_
  exact keeps_containerApiLoop start 600000 rounds h

/-- The exit code of a stopped container is read by a guard that is not halted. -/
theorem keeps_inspectExit (h : Sound m s) : KeepsFrom (watch W options)
    (fun m r s => Sound m s ∧ ∀ result, r = .ok result → m.halted = false) (exec .inspectExit) s m := by
  refine (keeps_ask (o := .exec .inspectExit) trivial (allows_of_not_acts trivial rfl) h).bind
    (fun m r s h => ?_) fun m e s h => ⟨h.1, fun result habs => by cases habs⟩
  obtain ⟨hsound, m₀, a, hr, hhalted, hanswer⟩ := h
  obtain rfl := Except.ok.inj hr
  cases r with
  | ok result =>
    refine keepsFrom_pure.mpr ⟨hsound, fun _ _ => ?_⟩
    by_contra hnot
    have hhalted₀ : m₀.halted = true := by
      rw [hhalted]
      exact eq_true_of_ne_false hnot
    obtain ⟨e, habs⟩ := hanswer hhalted₀
    cases habs
  | error e => exact keepsFrom_throw.mpr ⟨hsound, fun result habs => by cases habs⟩

theorem keeps_startContainer (rounds : ℕ) (h : Sound m s) :
    KeepsFrom (watch W options) (fun m _ s => Sound m s) (startContainer rounds) s m := by
  refine (keeps_inspectExit h).bind (fun m info s h => ?_) fun m e s h => h.1
  refine (keeps_exec (allows_of_running trivial (h.2 info rfl)) h.1).then fun m result s h => ?_
  split_ifs
  · exact keeps_waitForContainerApi rounds h
  · exact keepsFrom_pure.mpr h

theorem keeps_containerExists (h : Sound m s) :
    KeepsFrom (watch W options) (fun m _ s => Sound m s) containerExists s m :=
  (keeps_exec (allows_of_not_acts trivial rfl) h).then fun _ _ _ h => keepsFrom_pure.mpr h

theorem keeps_ensureContainerRunning (rounds : ℕ) (h : Sound m s) : KeepsFrom (watch W options)
    (fun m _ s => Sound m s) (ensureContainerRunning options rounds) s m := by
  rw [ensureContainerRunning, keepsFrom_get_bind]
  split_ifs with hfatal
  · exact keepsFrom_pure.mpr h
  · have hrunning : KeepsFrom (watch W options) (fun m _ s => Sound m s) isContainerRunning s m :=
      (keeps_exec (allows_of_not_acts trivial rfl) h).then fun _ _ _ h => keepsFrom_pure.mpr h
    refine hrunning.then fun m running s h => ?_
    split_ifs
    · exact keeps_checkServed h
    · refine (keeps_containerExists h).then fun m found s h => ?_
      split_ifs
      · exact keeps_startContainer rounds h
      · exact keeps_markRemoved h

end Container

/-! ## The forward and the tunnel -/

section Tunnel

variable {options : GuardOptions} {m : Watch} {s : GuardFields}

/-- The forward is found dead by a guard that is not halted. -/
theorem keeps_probeForward (h : Sound m s) : KeepsFrom (watch W options)
    (fun m r s => Sound m s ∧ (r = .ok false → m.halted = false)) (probeLocalEndpoint .forward) s m := by
  refine (keeps_ask (o := .localModels .forward) trivial (allows_of_not_acts trivial rfl) h).bind
    (fun m r s h => ?_) fun m e s h => ⟨h.1, fun habs => by cases habs⟩
  obtain ⟨hsound, m₀, a, hr, hhalted, hanswer⟩ := h
  obtain rfl := Except.ok.inj hr
  refine keepsFrom_pure.mpr ⟨hsound, fun heq => ?_⟩
  by_contra hnot
  have hup := hanswer (by rw [hhalted]; exact eq_true_of_ne_false hnot)
  rw [Except.ok.inj heq] at hup
  cases hup

theorem keeps_ensureForwardHealthy (h : Sound m s) :
    KeepsFrom (watch W options) (fun m _ s => Sound m s) ensureForwardHealthy s m := by
  refine (keeps_probeForward h).bind (fun m healthy s h => ?_) fun m e s h => h.1
  split_ifs with hhealthy
  · exact keepsFrom_pure.mpr h.1
  · have hrun : m.halted = false := h.2 (by rw [Bool.eq_false_iff.mpr hhealthy])
    refine ((keeps_ask (o := .restartForward) trivial (allows_of_running trivial hrun) h.1).mono
      fun m r s h => h.1).then fun m r s h => ?_
    refine (keeps_orThrow h).then fun m ready s h => ?_
    split_ifs
    · exact (keeps_probeLocalEndpoint h).then fun m _ s h => keepsFrom_pure.mpr h
    · exact keepsFrom_pure.mpr h

/-- The public endpoint has failed its probe, which is not yet in the fields. -/
structure Failed (options : GuardOptions) (m : Watch) (s : GuardFields) : Prop where
  fatal : s.fatal = m.fired
  counted : s.consecutivePublicFailures + 1 ≤ m.counter
  streak : m.lost = false → s.consecutivePublicFailures + 1 ≤ m.streak
  pos : 1 ≤ m.streak
  halted : m.halted = true → m.counter < options.publicProbeFailureThreshold
  lost : m.lost = true → options.publicProbeFailureThreshold ≤ 1

/-- The watch after a failed probe of the public endpoint. -/
theorem answer_failed {url : String} {stopped : Bool} {r : Except String Bool} (hfail : passed r = false) :
    Watch.answer { m.issue (.publicModels .check url) with stopped } (.publicModels .check url) r =
      { m with stopped, counter := m.counter + 1, streak := m.streak + 1 } := by
  simp [Watch.answer, Watch.issue, hfail, fires]

theorem keeps_probePublic (h : Sound m s) : KeepsFrom (watch W options)
    (fun m r s => s.fatal = m.fired ∧ ∃ ok, r = .ok ok ∧ (ok = false → Failed options m s))
    (probePublicEndpoint .check) s m := by
  rw [probePublicEndpoint, keepsFrom_get_bind]
  split
  · exact keepsFrom_pure.mpr ⟨h.fatal, true, rfl, fun habs => by cases habs⟩
  · next base _ =>
    split_ifs
    · exact keepsFrom_pure.mpr ⟨h.fatal, true, rfl, fun habs => by cases habs⟩
    · refine keepsFrom_bind.mpr (keepsFrom_ask.mpr ⟨?_, fun m' hw r w hr => ?_⟩)
      · exact ⟨fun habs => (by cases habs), fun habs => (by cases habs), fun habs => (by cases habs)⟩
      · obtain ⟨stopped, rfl, -⟩ := waits_eq hw
        have hfired : s.fatal = (m.fired || false) := by rw [Bool.or_false, h.fatal]
        refine keepsFrom_pure.mpr ⟨hfired, passed r, rfl, fun hfail => ?_⟩
        show Failed options (Watch.answer { m.issue (.publicModels .check base) with stopped }
          (.publicModels .check base) r) s
        rw [answer_failed hfail]
        refine ⟨h.fatal, ?_, fun hkept => ?_, ?_, fun hhalted => ?_, fun hlost => ?_⟩
        · have := h.counted
          show _ ≤ m.counter + 1
          omega
        · have := h.streak hkept
          show _ ≤ m.streak + 1
          omega
        · show 1 ≤ m.streak + 1
          omega
        · have hcount := hr.1 (show ({ m.issue (.publicModels .check base) with stopped } :
            Watch).halted = true by simpa [Watch.halted, Watch.issue, fires] using hhalted)
          rw [hfail] at hcount
          exact hcount.resolve_left (by decide)
        · have hone := hr.2 hlost
          rw [hfail] at hone
          exact hone.resolve_left (by decide)

/-- The URL that a reconnect handed back is adopted, and the failures are reset. -/
theorem keeps_adoptUrl (url : String) (h : s.fatal = m.fired) :
    KeepsFrom (watch W options) (fun m _ s => Sound m s) (adoptUrl url) s m := by
  rw [adoptUrl, keepsFrom_modify_bind]
  have hprobe : KeepsFrom (watch W options) (fun m r s => s.fatal = m.fired ∧ ∃ ok : Bool, r = .ok ok)
      (probePublicEndpoint .afterReconnect) { s with currentPublicUrl := some url } m := by
    rw [probePublicEndpoint, keepsFrom_get_bind]
    split
    · exact keepsFrom_pure.mpr ⟨h, true, rfl⟩
    · split_ifs
      · exact keepsFrom_pure.mpr ⟨h, true, rfl⟩
      · refine keepsFrom_bind.mpr (keepsFrom_ask.mpr ⟨?_, fun m' hw r w hr => ?_⟩)
        · exact ⟨fun habs => (by cases habs), fun habs => (by cases habs), fun habs => (by cases habs)⟩
        · obtain ⟨stopped, rfl, -⟩ := waits_eq hw
          refine keepsFrom_pure.mpr ⟨?_, _, rfl⟩
          show s.fatal = (m.fired || false)
          rw [Bool.or_false, h]
  refine hprobe.bind (fun m ok s h => ?_) fun m e s h => ?_
  · exact keepsFrom_modify.mpr ⟨h.1, Nat.zero_le _, fun _ => Nat.zero_le _⟩
  · obtain ⟨ok, habs⟩ := h.2
    cases habs

/-- The tunnel is reconnected by a guard that is not halted, after enough failures. -/
theorem keeps_reconnectTunnel (h : Sound m s) (hrun : m.halted = false)
    (hmany : options.publicProbeFailureThreshold ≤ m.streak) :
    KeepsFrom (watch W options) (fun m _ s => Sound m s) reconnectTunnel s m := by
  have hask : KeepsFrom (watch W options) (fun m r s => ∃ result : Except String TunnelResult, r = .ok result ∧
      s.fatal = m.fired ∧ (handsBack result = false → Sound m s))
      (send .reconnect) s m := by
    have hallows : m.allows options .reconnect :=
      ⟨fun _ => hrun, fun habs => (by cases habs), fun _ => hmany⟩
    refine (keepsFrom_ask (o := GuardOp.reconnect)).mpr ⟨hallows, fun m' hw r w _ => ?_⟩
    refine ⟨r, rfl, ?_, fun hlost => ?_⟩
    · obtain ⟨stopped, rfl, -⟩ := waits_eq hw
      show s.fatal = (m.fired || false)
      rw [Bool.or_false, h.fatal]
    · obtain ⟨stopped, rfl, -⟩ := waits_eq hw
      refine ⟨?_, h.counted, fun hkept => ?_⟩
      · show s.fatal = (m.fired || false)
        rw [Bool.or_false, h.fatal]
      · have habs : (!handsBack r) = false := hkept
        rw [hlost] at habs
        cases habs
  refine hask.bind (fun m result s h => ?_) fun m e s h => ?_
  · obtain ⟨_, hr, hfatal, hsound⟩ := h
    obtain rfl := Except.ok.inj hr
    cases result with
    | error e => exact keepsFrom_throw_bind.mpr (hsound rfl)
    | ok result =>
      show KeepsFrom (watch W options) (fun m _ s => Sound m s) (pure result >>= _) s m
      rw [pure_bind]
      split
      · next hnone =>
        refine keepsFrom_pure.mpr (hsound ?_)
        by_cases hsuccess : result.success = true
        · rw [if_pos hsuccess] at hnone
          simp [handsBack, hnone]
        · simp [handsBack, hsuccess]
      · exact keeps_adoptUrl _ hfatal
  · obtain ⟨result, habs, -⟩ := h
    cases habs

theorem keeps_ensureNgrokHealthy (h : Sound m s) :
    KeepsFrom (watch W options) (fun m _ s => Sound m s) (ensureNgrokHealthy options) s m := by
  rw [ensureNgrokHealthy, keepsFrom_get_bind]
  split_ifs
  · refine (keeps_probePublic h).bind (fun m ok s h => ?_) fun m e s h => ?_
    · obtain ⟨hfatal, ok', hok, hfailed⟩ := h
      obtain rfl := Except.ok.inj hok
      split_ifs with hpassed
      · exact keepsFrom_modify.mpr ⟨hfatal, Nat.zero_le _, fun _ => Nat.zero_le _⟩
      · obtain ⟨-, hcounted, hstreak, hpos, hhalted, hlost⟩ := hfailed (Bool.eq_false_iff.mpr hpassed)
        simp only [setFailures, keepsFrom_get_bind, keepsFrom_modify_bind]
        have hsound : Sound m { s with
            consecutivePublicFailures := s.consecutivePublicFailures + 1 } := ⟨hfatal, hcounted, hstreak⟩
        split_ifs with hbelow
        · exact keepsFrom_pure.mpr hsound
        · refine keeps_reconnectTunnel hsound ?_ ?_
          · by_contra hnot
            have hlt := hhalted (eq_true_of_ne_false hnot)
            omega
          · by_cases hl : m.lost = true
            · exact Nat.le_trans (hlost hl) hpos
            · have := hstreak (Bool.eq_false_iff.mpr hl)
              omega
    · obtain ⟨-, ok, habs, -⟩ := h
      cases habs
  · exact keepsFrom_pure.mpr h

end Tunnel

/-! ## Checks and runs -/

section Runs

variable {options : GuardOptions} {rounds : ℕ} {m : Watch} {s : GuardFields}

/-- **A check keeps to the monitor.** -/
theorem keeps_checkOnce (h : Sound m s) : (checkOnce options rounds s).Keeps (watch W options) Sound m := by
  unfold checkOnce
  split_ifs
  · exact h
  · have hchecks : KeepsFrom (watch W options) (fun m _ s => Sound m s) (checks options rounds) s m :=
      (keeps_ensureContainerRunning rounds h).then fun m _ s h =>
        (keeps_ensureForwardHealthy h).then fun m _ s h => keeps_ensureNgrokHealthy h
    exact keeps_bind.mpr hchecks.run

/-- The guard starts soundly. -/
theorem inv_started : Timed.Inv (watch W options) Sound (started W options rounds) := by
  refine Timed.inv_settle (fun xs o ys heq => ?_) (keeps_checkOnce ⟨rfl, Nat.le_refl 0, fun _ => Nat.le_refl 0⟩)
  cases xs with
  | nil =>
    cases heq
    exact ⟨fun _ => rfl, fun habs => (by cases habs), fun habs => (by cases habs)⟩
  | cons i xs => simp at heq

theorem stop_notMem_started : .stop ∉ (started W options rounds).log := by
  rcases Timed.log_settle (σ := GuardFields) true ([.issue (.exec .updateRestart)] : List (GuardItem W))
    (checkOnce options rounds { currentPublicUrl := options.publicEndpointUrl }) with heq | ⟨o, heq⟩
  · rw [started, heq]
    simp
  · rw [started, heq]
    simp

end Runs

/-! ## A stop and a takeover -/

/-- A guard that is stopped in the middle of a check of a healthy deployment. -/
def stoppedHealthy : List (Timed.Happening GuardAns Unit) :=
  [.answer (.exec .inspectRunning) (.ok ⟨true, "true\n"⟩) (), .stop,
    .answer (.localModels .forward) (.ok ⟨true, .ok (some "m")⟩) ()]

/-- The log of that guard. -/
def stoppedLog : List (GuardItem Unit) :=
  [.issue (.exec .updateRestart), .issue (.exec .inspectRunning),
    .answer (.exec .inspectRunning) (.ok ⟨true, "true\n"⟩) (), .issue (.localModels .forward), .stop,
    .answer (.localModels .forward) (.ok ⟨true, .ok (some "m")⟩) ()]

/-- The check of a deployment whose container has been removed. -/
def removedContainer : List (Timed.Happening GuardAns Unit) :=
  [.answer (.exec .inspectRunning) (.ok ⟨false, ""⟩) (), .answer (.exec .inspectStatus) (.ok ⟨false, ""⟩) (),
    .answer (.localModels .servedModelId) (.error "fetch failed") (),
    .answer (.onTakeover "container removed externally") (.ok ()) (),
    .answer (.localModels .forward) (.error "fetch failed") ()]

/-- The log of that check up to the takeover. -/
def removedLog : List (GuardItem Unit) :=
  [.issue (.exec .updateRestart), .issue (.exec .inspectRunning),
    .answer (.exec .inspectRunning) (.ok ⟨false, ""⟩) (), .issue (.exec .inspectStatus),
    .answer (.exec .inspectStatus) (.ok ⟨false, ""⟩) (), .issue (.localModels .servedModelId),
    .answer (.localModels .servedModelId) (.error "fetch failed") (),
    .issue (.onTakeover "container removed externally")]

/-- The log of the check after the takeover. -/
def afterTakeover : List (GuardItem Unit) :=
  [.answer (.onTakeover "container removed externally") (.ok ()) (), .issue (.localModels .forward),
    .answer (.localModels .forward) (.error "fetch failed") ()]

end Benchmarker.Guard
