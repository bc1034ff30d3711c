import Benchmarker.Guard.Halts

/-!
# When a takeover is real

The answers of a run tell of the machine as it is when they are formed: whether the container of the
deployment is there, and which model the endpoint serves. A command over SSH may fail whatever the machine
is like.

* `Vm`, `Vm.takenOver`, `Truthful`: the machine, a takeover, and answers that say what the machine is like.
* `Founded`: no inspection of the container's status fails on a machine that is not taken over.
* **`takeover_founded`**: a takeover is fired only after an answer of a machine that is taken over.
-/

namespace Benchmarker.Guard

open Async Async.Prog

/-- The machine of the deployment: whether the container exists, and the model that the endpoint
serves. -/
structure Vm where
  container : Bool
  serves : Option String
  deriving DecidableEq, Repr

/-- The container has been removed, or the endpoint serves a model other than the expected one. -/
def Vm.takenOver (options : GuardOptions) (w : Vm) : Bool :=
  !w.container || options.expected.any fun expected => w.serves.any (· ≠ expected)

/-- A model that the endpoint names is the one it serves. -/
def Truthful : (o : GuardOp) → GuardAns o → Vm → Prop
  | .localModels _, r, w => ∀ id, servedId r = some id → w.serves = some id
  | _, _, _ => True

/-- The inspection of the container's status fails only on a machine that is taken over. -/
def Founded (options : GuardOptions) : (o : GuardOp) → GuardAns o → Vm → Prop
  | .exec .inspectStatus, r, w => ∀ result, r = .ok result → result.success = false →
      w.takenOver options = true
  | _, _, _ => True

/-- Every answer of the log satisfies the condition. -/
def AnswersAre (P : (o : GuardOp) → GuardAns o → Vm → Prop) (log : List (GuardItem Vm)) : Prop :=
  ∀ xs o r w ys, log = xs ++ .answer o r w :: ys → P o r w

/-- A takeover is fired only after an answer of a machine that is taken over. -/
def TakeoversReal (options : GuardOptions) (log : List (GuardItem Vm)) : Prop :=
  ∀ xs reason ys, log = xs ++ .issue (.onTakeover reason) :: ys →
    ∃ o r w, .answer o r w ∈ xs ∧ w.takenOver options = true

/-! ## The monitor -/

/-- Whether a log tells of a takeover. -/
def tells (options : GuardOptions) (told : Bool) : GuardItem Vm → Bool
  | .answer _ _ w => told || w.takenOver options
  | _ => told

/-- The monitor of takeovers: one is fired only after the log has told of it. -/
def witness (options : GuardOptions) : Monitor GuardAns Vm Bool where
  init := false
  step := tells options
  allows told o := fires o = true → told = true
  answers _ o r w := Truthful o r w ∧ Founded options o r w
  stops _ := True

section Monitor

variable {options : GuardOptions} {log : List (GuardItem Vm)}

theorem exists_of_told (h : (witness options).after log = true) :
    ∃ o r w, .answer o r w ∈ log ∧ w.takenOver options = true := by
  induction log using List.reverseRecOn with
  | nil => cases h
  | append_singleton log i ih =>
    have hearlier : (witness options).after log = true →
        ∃ o r w, .answer o r w ∈ log ++ [i] ∧ w.takenOver options = true := by
      intro hlog
      obtain ⟨o, r, w, hmem, hw⟩ := ih hlog
      exact ⟨o, r, w, List.mem_append_left _ hmem, hw⟩
    rw [Monitor.after_snoc] at h
    cases i with
    | issue o => exact hearlier h
    | stop => exact hearlier h
    | answer o r w =>
      by_cases hw : w.takenOver options = true
      · exact ⟨o, r, w, List.mem_append_right _ List.mem_cons_self, hw⟩
      · refine hearlier ?_
        have htold : ((witness options).after log || w.takenOver options) = true := h
        rw [Bool.eq_false_iff.mpr hw, Bool.or_false] at htold
        exact htold

theorem takeoversReal_of_allowed (h : (witness options).Allowed log) : TakeoversReal options log :=
  fun xs _ ys heq => exists_of_told (h xs _ ys heq rfl)

theorem admits_of_answers (htrue : AnswersAre Truthful log) (hfounded : AnswersAre (Founded options) log) :
    (witness options).Admits log :=
  ⟨fun xs o r w ys heq => ⟨htrue xs o r w ys heq, hfounded xs o r w ys heq⟩, fun _ _ _ => trivial⟩

end Monitor

/-! ## Checks -/

section Checks

variable {options : GuardOptions} {told : Bool} {s : GuardFields}

/-- The request does not fire a takeover. -/
def Silent (o : GuardOp) : Prop := fires o = false

theorem tells_mono (told : Bool) (i : GuardItem Vm) (h : told = true) : tells options told i = true := by
  cases i with
  | issue | stop => exact h
  | answer o r w => rw [tells, h, Bool.true_or]

/-- A body that does not fire a takeover. -/
theorem keeps_silent {α : Type} {x : GuardJs α} (h : UsesFrom Silent x) :
    KeepsFrom (witness options) (fun _ _ _ => True) x s told :=
  h.keepsFrom (J := fun _ => True) (fun _ _ _ ho habs => by rw [ho] at habs; cases habs)
    (fun _ _ _ => trivial) trivial

/-- Once the log has told of a takeover, any body may go on. -/
theorem keeps_told {α : Type} {x : GuardJs α} (h : told = true) :
    KeepsFrom (witness options) (fun _ _ _ => True) x s told := by
  have hall : UsesFrom (fun _ => True) x := fun s => by
    induction x.run.run s with
    | ret a => trivial
    | await o k ih => exact ⟨trivial, ih⟩
  exact (hall.keepsFrom (J := fun told => told = true) (fun _ _ htold _ _ => htold) tells_mono h).mono
    fun _ _ _ _ => trivial

theorem usesFrom_exec (command : DockerCommand) : UsesFrom Silent (exec command) :=
  usesFrom_bind (usesFrom_ask rfl) fun _ => usesFrom_orThrow _

theorem usesFrom_probeLocal (probe : LocalProbe) : UsesFrom Silent (probeLocalEndpoint probe) :=
  usesFrom_bind (usesFrom_ask rfl) fun _ => usesFrom_pure _

theorem usesFrom_probePublic (probe : PublicProbe) : UsesFrom Silent (probePublicEndpoint probe) := by
  refine usesFrom_bind usesFrom_get fun fields => ?_
  split
  · exact usesFrom_pure _
  · exact usesFrom_ite (usesFrom_pure _) (usesFrom_bind (usesFrom_ask rfl) fun _ => usesFrom_pure _)

theorem usesFrom_containerApiLoop (start maxWaitMs rounds : ℕ) :
    UsesFrom Silent (containerApiLoop start maxWaitMs rounds) := by
  induction rounds with
  | zero => exact usesFrom_pure _
  | succ rounds ih =>
    refine usesFrom_bind (usesFrom_ask rfl) fun now => usesFrom_ite ?_ (usesFrom_pure _)
    refine usesFrom_bind (usesFrom_probeLocal _) fun ready => usesFrom_ite (usesFrom_pure _) ?_
    exact usesFrom_bind (usesFrom_ask rfl) fun _ => ih

theorem usesFrom_startContainer (rounds : ℕ) : UsesFrom Silent (startContainer rounds) := by
  refine usesFrom_bind (usesFrom_exec _) fun _ => usesFrom_bind (usesFrom_exec _) fun result => ?_
  refine usesFrom_ite ?_ (usesFrom_pure _)
  exact usesFrom_bind (usesFrom_ask rfl) fun start => usesFrom_containerApiLoop start 600000 rounds

theorem usesFrom_ensureForwardHealthy : UsesFrom Silent ensureForwardHealthy := by
  refine usesFrom_bind (usesFrom_probeLocal _) fun healthy => usesFrom_ite (usesFrom_pure _) ?_
  refine usesFrom_bind (usesFrom_ask rfl) fun r => usesFrom_bind (usesFrom_orThrow r) fun ready => ?_
  exact usesFrom_ite (usesFrom_bind (usesFrom_probeLocal _) fun _ => usesFrom_pure _) (usesFrom_pure _)

theorem usesFrom_reconnectTunnel : UsesFrom Silent reconnectTunnel := by
  refine usesFrom_bind (usesFrom_ask rfl) fun r => usesFrom_bind (usesFrom_orThrow r) fun result => ?_
  split
  · exact usesFrom_pure _
  · exact usesFrom_bind (usesFrom_modify _) fun _ => usesFrom_bind (usesFrom_probePublic _)
      fun _ => usesFrom_modify _

theorem usesFrom_ensureNgrokHealthy : UsesFrom Silent (ensureNgrokHealthy options) := by
  refine usesFrom_bind usesFrom_get fun fields => usesFrom_ite ?_ (usesFrom_pure _)
  refine usesFrom_bind (usesFrom_probePublic _) fun ok => usesFrom_ite (usesFrom_modify _) ?_
  refine usesFrom_bind usesFrom_get fun fields => usesFrom_bind (usesFrom_modify _) fun _ => ?_
  exact usesFrom_ite (usesFrom_pure _) usesFrom_reconnectTunnel

/-- A served model that is not the expected one tells of a takeover. -/
theorem keeps_checkServed_real :
    KeepsFrom (witness options) (fun _ _ _ => True) (checkServed options) s told := by
  unfold checkServed
  split
  · exact keepsFrom_pure.mpr trivial
  · next expected hexpected =>
    have hserved : KeepsFrom (witness options) (fun told r _ => ∀ id, r = .ok (some id) →
        id ≠ expected → told = true) servedModelId s told := by
      refine keepsFrom_bind.mpr (keepsFrom_ask.mpr ⟨fun habs => (by cases habs), fun m' _ r w hr => ?_⟩)
      refine keepsFrom_pure.mpr fun id hid hne => ?_
      have hserves : w.serves = some id := hr.1 id (Except.ok.inj hid)
      show (m' || w.takenOver options) = true
      rw [Vm.takenOver, hexpected, hserves]
      simp [hne]
    refine hserved.bind (fun told served s h => ?_) fun _ _ _ _ => trivial
    cases served with
    | none => exact keepsFrom_pure.mpr trivial
    | some id =>
      by_cases hempty : id = ""
      · subst hempty
        exact keepsFrom_pure.mpr trivial
      · have hfilter : (some id).filter (· ≠ "") = some id := by simp [hempty]
        simp only [hfilter]
        split_ifs with heq
        · exact keepsFrom_pure.mpr trivial
        · exact keeps_told (h id rfl heq)

/-- A failed inspection of the status tells of a takeover. -/
theorem keeps_containerExists_real : KeepsFrom (witness options)
    (fun told r _ => r = .ok false → told = true) containerExists s told := by
  have hexec : KeepsFrom (witness options) (fun told r _ => ∀ result : ExecResult, r = .ok result →
      result.success = false → told = true) (exec .inspectStatus) s told := by
    refine keepsFrom_bind.mpr (keepsFrom_ask.mpr ⟨fun habs => (by cases habs), fun m' _ r w hr => ?_⟩)
    cases r with
    | ok result =>
      refine keepsFrom_pure.mpr fun result' heq hfail => ?_
      obtain rfl := Except.ok.inj heq
      show (m' || w.takenOver options) = true
      rw [hr.2 result rfl hfail, Bool.or_true]
    | error e => exact keepsFrom_throw.mpr fun result habs => by cases habs
  refine hexec.bind (fun told result s h => ?_) fun _ _ _ _ habs => by cases habs
  exact keepsFrom_pure.mpr fun heq => h result rfl (Except.ok.inj heq)

theorem keeps_ensureContainerRunning_real (rounds : ℕ) : KeepsFrom (witness options)
    (fun _ _ _ => True) (ensureContainerRunning options rounds) s told := by
  rw [ensureContainerRunning, keepsFrom_get_bind]
  split_ifs
  · exact keepsFrom_pure.mpr trivial
  · have hrunning : UsesFrom Silent isContainerRunning :=
      usesFrom_bind (usesFrom_exec _) fun _ => usesFrom_pure _
    refine (keeps_silent hrunning).bind (fun told running s _ => ?_) fun _ _ _ _ => trivial
    split_ifs
    · exact keeps_checkServed_real
    · refine keeps_containerExists_real.bind (fun told found s h => ?_) fun _ _ _ _ => trivial
      split_ifs with hfound
      · exact keeps_silent (usesFrom_startContainer rounds)
      · exact keeps_told (h (by rw [Bool.eq_false_iff.mpr hfound]))

/-- **A check fires a takeover only after an answer that tells of one.** -/
theorem keeps_checkOnce_real (rounds : ℕ) : (checkOnce options rounds s).Keeps (witness options)
    (fun _ _ => True) told := by
  unfold checkOnce
  split_ifs
  · trivial
  · have hchecks : KeepsFrom (witness options) (fun _ _ _ => True) (checks options rounds) s told :=
      (keeps_ensureContainerRunning_real rounds).bind (fun _ _ _ _ =>
        keeps_silent (usesFrom_bind usesFrom_ensureForwardHealthy fun _ => usesFrom_ensureNgrokHealthy))
        fun _ _ _ _ => trivial
    exact keeps_bind.mpr hchecks.run

end Checks

/-! ## Runs -/

/-- **A takeover is fired only after an answer of a machine that is taken over**, when the inspection of
the container's status fails on no other machine. -/
theorem takeover_founded (options : GuardOptions) (rounds : ℕ) {c : Timed GuardAns GuardFields Vm}
    (hr : GuardRun options rounds c) (htrue : AnswersAre Truthful c.log)
    (hfounded : AnswersAre (Founded options) c.log) : TakeoversReal options c.log := by
  have hstart : Timed.Inv (witness options) (fun _ _ => True) (started Vm options rounds) := by
    refine Timed.inv_settle (fun xs o ys heq => ?_) (keeps_checkOnce_real rounds)
    cases xs with
    | nil =>
      cases heq
      exact fun habs => (by cases habs)
    | cons i xs => simp at heq
  exact takeoversReal_of_allowed (Timed.Reach.inv hr hstart stop_notMem_started
    (fun _ _ _ _ => keeps_checkOnce_real rounds) (admits_of_answers htrue hfounded)).1

/-! ## Lost inspections -/

/-- A deployment that runs and serves the model `m`. -/
def healthy : Vm := ⟨true, some "m"⟩

/-- A machine whose container has been removed. -/
def removed : Vm := ⟨false, none⟩

/-- The check of a container by two inspections that fail, up to the takeover. -/
def lostInspections (w : Vm) : List (Timed.Happening GuardAns Vm) :=
  [.answer (.exec .inspectRunning) (.ok ⟨false, ""⟩) w, .answer (.exec .inspectStatus) (.ok ⟨false, ""⟩) w,
    .answer (.localModels .servedModelId) (.error "fetch failed") w]

/-- The log before the takeover. -/
def lostLog (w : Vm) : List (GuardItem Vm) :=
  [.issue (.exec .updateRestart), .issue (.exec .inspectRunning),
    .answer (.exec .inspectRunning) (.ok ⟨false, ""⟩) w, .issue (.exec .inspectStatus),
    .answer (.exec .inspectStatus) (.ok ⟨false, ""⟩) w, .issue (.localModels .servedModelId),
    .answer (.localModels .servedModelId) (.error "fetch failed") w]

/-- The guard of the model `m`. -/
def guardOptions : GuardOptions := { expectedModelId := some "m" }

theorem run_lostInspections (w : Vm) : ∃ c : Timed GuardAns GuardFields Vm,
    GuardRun guardOptions 0 c ∧
      c.log = lostLog w ++ [.issue (.onTakeover "container removed externally")] := by
  have hreplay : (Timed.replay (checkOnce guardOptions 0) (lostInspections w)
      (started Vm guardOptions 0)).map (·.log) =
      some (lostLog w ++ [.issue (.onTakeover "container removed externally")]) := rfl
  exact Timed.exists_of_replay hreplay

/-- What the answers of the check satisfy. -/
theorem answersAre_lostLog {P : (o : GuardOp) → GuardAns o → Vm → Prop} {w : Vm}
    (hrunning : P (.exec .inspectRunning) (.ok ⟨false, ""⟩) w)
    (hstatus : P (.exec .inspectStatus) (.ok ⟨false, ""⟩) w)
    (hserved : P (.localModels .servedModelId) (.error "fetch failed") w) :
    AnswersAre P (lostLog w ++ [.issue (.onTakeover "container removed externally")]) := by
  intro xs o r w' ys heq
  have hmem : (.answer o r w' : GuardItem Vm) ∈
      lostLog w ++ [.issue (.onTakeover "container removed externally")] := by
    rw [heq]
    exact List.mem_append_right _ List.mem_cons_self
  simp only [lostLog, List.cons_append, List.nil_append, List.mem_cons, List.not_mem_nil,
    reduceCtorEq, Item.answer.injEq, false_or, or_false] at hmem
  rcases hmem with ⟨rfl, hr, rfl⟩ | ⟨rfl, hr, rfl⟩ | ⟨rfl, hr, rfl⟩
  · cases hr; exact hrunning
  · cases hr; exact hstatus
  · cases hr; exact hserved

theorem truthful_lostLog (w : Vm) :
    AnswersAre Truthful (lostLog w ++ [.issue (.onTakeover "container removed externally")]) :=
  answersAre_lostLog trivial trivial fun _ habs => (by cases habs)

/-- The takeover of a removed container is real. -/
theorem removed_founded : ∃ c : Timed GuardAns GuardFields Vm, GuardRun guardOptions 0 c ∧
    c.log = lostLog removed ++ [.issue (.onTakeover "container removed externally")] ∧
      TakeoversReal guardOptions c.log := by
  obtain ⟨c, hr, hlog⟩ := run_lostInspections removed
  refine ⟨c, hr, hlog, takeover_founded guardOptions 0 hr ?_ ?_⟩
  · rw [hlog]
    exact truthful_lostLog removed
  · rw [hlog]
    exact answersAre_lostLog trivial (fun _ _ _ => rfl) trivial

/-- **Two lost inspections abort a healthy run.** -/
theorem takeover_of_healthy : ∃ c : Timed GuardAns GuardFields Vm, GuardRun guardOptions 0 c ∧
    AnswersAre Truthful c.log ∧ (∀ o r w, .answer o r w ∈ c.log → w = healthy) ∧
      ¬ TakeoversReal guardOptions c.log := by
  obtain ⟨c, hr, hlog⟩ := run_lostInspections healthy
  have hhealthy : ∀ o r w, .answer o r w ∈ c.log → w = healthy := by
    intro o r w hmem
    obtain ⟨xs, ys, heq⟩ := List.append_of_mem hmem
    have hall : AnswersAre (fun _ _ w => w = healthy) c.log := by
      rw [hlog]
      exact answersAre_lostLog rfl rfl rfl
    exact hall xs o r w ys heq
  refine ⟨c, hr, by rw [hlog]; exact truthful_lostLog healthy, hhealthy, fun hreal => ?_⟩
  obtain ⟨o, r, w, hmem, hw⟩ := hreal (lostLog healthy) _ [] hlog
  have hsame : w = healthy := hhealthy o r w (by rw [hlog]; exact List.mem_append_left _ hmem)
  rw [hsame] at hw
  exact absurd hw (by decide)

end Benchmarker.Guard
