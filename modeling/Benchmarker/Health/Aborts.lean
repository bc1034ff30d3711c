import Benchmarker.Health.Wait

/-!
# Aborted waits

`waitForHealthy` throws before its timeout exactly after a poll with a fatal classification. The inspects
of such a poll and the logs that it has read say whether it was right to give up.

* `inspections`, `shownLogs`, `readings`: what a history shows.
* `Down`, `FatalLogs`, `Justified`: the evidence for an abort. `Mixed`, `Clear`: when there is some.
* `Attempts`, `runs_inspectLoop`: the attempts of one poll. **`down_iff`**.
* `runs_poll_fatal`, **`justified_iff_clear`**: one poll. `runs_pollLoop_error`: the loop.
* **`abort_justified_iff`**: an aborted wait is justified exactly when its last poll was clear.
* `networkAbort`, `mixedAbort`, **`unjustified_abort`**: two aborts without evidence.
-/

namespace Benchmarker.Health

open Async Async.Prog Js

variable {W : Type}

/-! ## What a history shows -/

/-- What the answer to an inspect says. -/
def inspection : (o : HealthOp) → HealthAns o → Option Inspected
  | .exec (.inspect _) _ _, answer => some (inspected answer)
  | _, _ => none

/-- The logs that the answer to a request shows. -/
def logsIn : (o : HealthOp) → HealthAns o → Option String
  | .exec (.logs _ _) _ _, answer => returnedLogs answer
  | _, _ => none

def reading : (o : HealthOp) → HealthAns o → Option ℤ
  | .now, t => some t
  | _, _ => none

def inspections (es : List (Event HealthAns W)) : List Inspected :=
  es.filterMap fun e => inspection e.op e.ans

def shownLogs (es : List (Event HealthAns W)) : List String :=
  es.filterMap fun e => logsIn e.op e.ans

/-- The readings of the clock. -/
def readings (es : List (Event HealthAns W)) : List ℤ := es.filterMap fun e => reading e.op e.ans

/-! ## Evidence -/

/-- Docker has reported the container stopped, or not found on all attempts, or has refused to answer. -/
def Down (l : List Inspected) : Prop :=
  .stopped ∈ l ∨ l = List.replicate maxSshAttempts .notFound ∨ .authFailure ∈ l

/-- The last attempt has not found the container, and an earlier one was inconclusive. -/
def Mixed (l : List Inspected) : Prop :=
  .inconclusive ∈ l ∧ ∃ a b, l = [a, b, .notFound]

/-- The last attempt does not report the container down. -/
def SeenUp (l : List Inspected) : Prop :=
  l.getLast? = some .running ∨ l.getLast? = some .inconclusive

variable (es : List (Event HealthAns W))

/-- The logs match a pattern of a category that is fatal by default. -/
def FatalLogs : Prop :=
  ∃ logs ∈ shownLogs es, ∃ p ∈ fatalErrorPatterns, p.category.fatal = true ∧ p.matchesLogs logs = true

def NetworkLogs : Prop := ∃ logs ∈ shownLogs es, networkPattern.matchesLogs logs = true

/-- There is evidence for giving up after the poll, and the container was declared down only on the word
of docker. -/
def Justified (r : HealthCheckPollResult) : Prop :=
  (Down (inspections es) ∨ FatalLogs es) ∧ (r.containerRunning = false → Down (inspections es))

/-- No attempt was inconclusive before a last one that found no container, and the logs of a container
that is up match more than the network pattern if they match that. -/
def Clear : Prop :=
  ¬ Mixed (inspections es) ∧ (SeenUp (inspections es) → NetworkLogs es → FatalLogs es)

/-! ## The attempts of a poll -/

/-- The classes of the answers to the attempts, when so many attempts are left, and whether the container
counts as running. -/
inductive Attempts : ℕ → List Inspected → Bool → Prop
  | running (n : ℕ) : Attempts (n + 1) [.running] true
  | stopped (n : ℕ) : Attempts (n + 1) [.stopped] false
  | authFailure (n : ℕ) : Attempts (n + 1) [.authFailure] false
  | missing : Attempts 1 [.notFound] false
  | unknown : Attempts 1 [.inconclusive] true
  | retry {n : ℕ} {c : Inspected} {l : List Inspected} {b : Bool} :
    c = .notFound ∨ c = .inconclusive → Attempts (n + 1) l b → Attempts (n + 2) (c :: l) b

variable {options : HealthCheckOptions} {containerName : String} {es}

/-- The requests of the attempts: none shows logs or the clock. -/
def AttemptOp : HealthOp → Prop
  | .exec (.inspect _) _ _ => True
  | .sleep _ => True
  | _ => False

theorem runs_send {o : HealthOp} {r : HealthAns o} (h : (send o).Runs es r) :
    ∃ pre post, es = [⟨o, r, pre, post⟩] := runs_request.mp h

theorem inspections_append (es fs : List (Event HealthAns W)) :
    inspections (es ++ fs) = inspections es ++ inspections fs := List.filterMap_append

theorem runs_inspectLoop {n : ℕ} {b : Bool} (hn : 0 < n)
    (h : (inspectLoop options containerName n).Runs es b) :
    Attempts n (inspections es) b ∧ ∀ e ∈ es, AttemptOp e.op := by
  induction n generalizing es with
  | zero => exact absurd hn (Nat.lt_irrefl 0)
  | succ n ih =>
    obtain ⟨es₁, es₂, answer, rfl, h₁, h₂⟩ := runs_bind.mp h
    obtain ⟨pre, post, rfl⟩ := runs_send h₁
    rw [inspections_append, show inspections [_] = [inspected answer] from rfl]
    -- what the next attempt gives, when there is one
    have hretry : ∀ c, c = Inspected.notFound ∨ c = .inconclusive → 0 < n →
        (send (.sleep retryDelayMs) >>= fun _ => inspectLoop options containerName n).Runs es₂ b →
        Attempts (n + 1) (c :: inspections es₂) b ∧ ∀ e ∈ es₂, AttemptOp e.op := by
      intro c hc hpos hruns
      obtain ⟨fs, gs, _, rfl, hsleep, hloop⟩ := runs_bind.mp hruns
      obtain ⟨pre, post, rfl⟩ := runs_send hsleep
      obtain ⟨hattempts, hops⟩ := ih hpos hloop
      rw [inspections_append, show inspections [_] = [] from rfl, List.nil_append]
      obtain ⟨m, rfl⟩ : ∃ m, n = m + 1 := ⟨n - 1, by omega⟩
      refine ⟨.retry hc hattempts, fun e he => ?_⟩
      rcases List.mem_append.mp he with he | he
      · rw [List.mem_singleton.mp he]
        trivial
      · exact hops e he
    have hrest : Attempts (n + 1) (inspected answer :: inspections es₂) b ∧
        ∀ e ∈ es₂, AttemptOp e.op := by
      cases hc : inspected answer with
      | running =>
        simp only [hc] at h₂
        obtain ⟨rfl, rfl⟩ := runs_ret.mp h₂
        exact ⟨.running n, by simp⟩
      | stopped =>
        simp only [hc] at h₂
        obtain ⟨rfl, rfl⟩ := runs_ret.mp h₂
        exact ⟨.stopped n, by simp⟩
      | authFailure =>
        simp only [hc] at h₂
        obtain ⟨rfl, rfl⟩ := runs_ret.mp h₂
        exact ⟨.authFailure n, by simp⟩
      | notFound =>
        simp only [hc] at h₂
        by_cases hpos : 0 < n
        · rw [if_pos hpos] at h₂
          exact hretry _ (.inl rfl) hpos h₂
        · rw [if_neg hpos] at h₂
          obtain ⟨rfl, rfl⟩ := runs_ret.mp h₂
          obtain rfl : n = 0 := by omega
          exact ⟨.missing, by simp⟩
      | inconclusive =>
        simp only [hc] at h₂
        by_cases hpos : 0 < n
        · rw [if_pos hpos] at h₂
          exact hretry _ (.inr rfl) hpos h₂
        · rw [if_neg hpos] at h₂
          obtain ⟨rfl, rfl⟩ := runs_ret.mp h₂
          obtain rfl : n = 0 := by omega
          exact ⟨.unknown, by simp⟩
    refine ⟨hrest.1, fun e he => ?_⟩
    rcases List.mem_append.mp he with he | he
    · rw [List.mem_singleton.mp he]
      trivial
    · exact hrest.2 e he

/-- **What the attempts conclude**: the container counts as down on the word of docker, or by mixing an
inconclusive attempt with a last one that found no container; never by both. -/
theorem down_iff {l : List Inspected} {b : Bool} (h : Attempts maxSshAttempts l b) :
    (Down l ↔ b = false ∧ ¬ Mixed l) ∧ (SeenUp l ↔ b = true) ∧ (b = true → ¬ Mixed l) := by
  rw [Down, Mixed, SeenUp]
  generalize hn : maxSshAttempts = n at h
  cases h with
  | running | stopped | authFailure => simp [List.replicate_succ]
  | missing | unknown => cases hn
  | retry hc h =>
    cases h with
    | running | stopped | authFailure => rcases hc with rfl | rfl <;> simp [List.replicate_succ]
    | missing | unknown => cases hn
    | retry hc' h =>
      cases h with
      | running | stopped | authFailure | missing | unknown =>
        rcases hc with rfl | rfl <;> rcases hc' with rfl | rfl <;> simp [List.replicate]
      | retry => simp [maxSshAttempts] at hn

/-! ## One poll -/

variable {jsonParse : String → Option Json} {elapsedMs : ℤ} {r : HealthCheckPollResult}
variable {c : HealthCheckErrorClassification}

theorem shownLogs_append (es fs : List (Event HealthAns W)) :
    shownLogs (es ++ fs) = shownLogs es ++ shownLogs fs := List.filterMap_append

theorem runs_execSSH {command : Command} {answer : Except String CommandResult}
    (h : (execSSH options command).Runs es answer) :
    ∃ timeout asRoot pre post, es = [⟨.exec command timeout asRoot, answer, pre, post⟩] := by
  obtain ⟨pre, post, rfl⟩ := runs_send h
  exact ⟨_, _, pre, post, rfl⟩

theorem runs_checkHealthEndpoint {ok : Bool} (h : (checkHealthEndpoint options).Runs es ok) :
    inspections es = [] := by
  obtain ⟨es₁, es₂, answer, rfl, h₁, h₂⟩ := runs_bind.mp h
  obtain ⟨timeout, asRoot, pre, post, rfl⟩ := runs_execSSH h₁
  cases answer with
  | ok result =>
    obtain ⟨rfl, -⟩ := runs_ret.mp h₂
    rfl
  | error msg =>
    obtain ⟨rfl, -⟩ := runs_ret.mp h₂
    rfl

theorem runs_checkModelsEndpoint {ok : Bool}
    (h : (checkModelsEndpoint options jsonParse).Runs es ok) : inspections es = [] := by
  obtain ⟨es₁, es₂, answer, rfl, h₁, h₂⟩ := runs_bind.mp h
  obtain ⟨timeout, asRoot, pre, post, rfl⟩ := runs_execSSH h₁
  obtain ⟨rfl, -⟩ := runs_ret.mp h₂
  rfl

theorem runs_getContainerLogs {logs : Option String}
    (h : (getContainerLogs options containerName).Runs es logs) :
    inspections es = [] ∧ shownLogs es = logs.toList := by
  obtain ⟨es₁, es₂, answer, rfl, h₁, h₂⟩ := runs_bind.mp h
  obtain ⟨timeout, asRoot, pre, post, rfl⟩ := runs_execSSH h₁
  obtain ⟨rfl, rfl⟩ := runs_ret.mp h₂
  refine ⟨rfl, ?_⟩
  show List.filterMap _ [_] = _
  cases hlogs : returnedLogs answer <;> simp [logsIn, hlogs]

/-- **A poll with a classification**: its attempts say whether the container counts as running, and if it
does the classification is that of the logs. -/
theorem runs_poll_classified (h : (poll options containerName jsonParse elapsedMs).Runs es r)
    (hc : r.errorClassification = some c) :
    Attempts maxSshAttempts (inspections es) r.containerRunning ∧
      (r.containerRunning = true → ∃ logs ∈ shownLogs es, classifyContainerLogs logs = some c) := by
  obtain ⟨es₁, es₂, up, rfl, h₁, h₂⟩ := runs_bind.mp h
  have hattempts := (runs_inspectLoop (n := maxSshAttempts) (by decide) h₁).1
  rw [inspections_append, shownLogs_append]
  cases up with
  | false =>
    obtain ⟨fs, gs, logs, rfl, hlogs, hret⟩ := runs_bind.mp h₂
    obtain ⟨rfl, rfl⟩ := runs_ret.mp hret
    rw [inspections_append, (runs_getContainerLogs hlogs).1]
    exact ⟨by simpa [inspections] using hattempts, fun hup => by cases hup⟩
  | true =>
    obtain ⟨fs₁, gs, ok, rfl, hhealth, hrest⟩ := runs_bind.mp h₂
    obtain ⟨fs₂, hs, okModels, rfl, hmodels, hrest⟩ := runs_bind.mp hrest
    have hfs₁ := runs_checkHealthEndpoint hhealth
    have hfs₂ := runs_checkModelsEndpoint hmodels
    cases ok with
    | true =>
      obtain ⟨rfl, rfl⟩ := runs_ret.mp hrest
      cases hc
    | false =>
      by_cases hlong : 60000 < elapsedMs
      · simp only [Bool.false_eq_true, if_false, if_pos hlong] at hrest
        obtain ⟨ls, ks, logs, rfl, hlogs, hret⟩ := runs_bind.mp hrest
        obtain ⟨rfl, rfl⟩ := runs_ret.mp hret
        obtain ⟨hls, hshown⟩ := runs_getContainerLogs hlogs
        refine ⟨?_, fun _ => ?_⟩
        · rw [inspections_append, inspections_append, inspections_append, hfs₁, hfs₂, hls]
          simpa [inspections] using hattempts
        · obtain ⟨text, htext, hclass⟩ := Option.bind_eq_some_iff.mp hc
          refine ⟨text, ?_, hclass⟩
          rw [shownLogs_append, shownLogs_append, shownLogs_append, hshown, htext]
          simp
      · simp only [Bool.false_eq_true, if_false, if_neg hlong] at hrest
        obtain ⟨rfl, rfl⟩ := runs_ret.mp hrest
        cases hc

/-- Logs that are classified match a pattern of a fatal category or the network pattern. -/
theorem fatalLogs_or_networkLogs {logs : String} (hlogs : logs ∈ shownLogs es)
    (hc : classifyContainerLogs logs = some c) : FatalLogs es ∨ NetworkLogs es := by
  obtain ⟨-, p, hp, hmatch, -⟩ := classifyContainerLogs_eq_some hc
  rcases fatal_or_network hp with hfatal | rfl
  · exact .inl ⟨logs, hlogs, p, hp, hfatal, hmatch⟩
  · exact .inr ⟨logs, hlogs, hmatch⟩

/-- **Giving up after a poll is justified exactly when the poll was clear.** -/
theorem justified_iff_clear (h : (poll options containerName jsonParse elapsedMs).Runs es r)
    (hc : r.errorClassification = some c) : Justified es r ↔ Clear es := by
  obtain ⟨hattempts, hlogs⟩ := runs_poll_classified h hc
  obtain ⟨hdown, hup, hmixed⟩ := down_iff hattempts
  constructor
  · rintro ⟨hevidence, hword⟩
    refine ⟨fun hmix => ?_, fun hseen _ => ?_⟩
    · cases hr : r.containerRunning with
      | true => exact hmixed hr hmix
      | false => exact (hdown.mp (hword hr)).2 hmix
    · rcases hevidence with hd | hfatal
      · rw [hup, (hdown.mp hd).1] at hseen
        cases hseen
      · exact hfatal
  · rintro ⟨hnot, hnetwork⟩
    have hword : r.containerRunning = false → Down (inspections es) := fun hr => hdown.mpr ⟨hr, hnot⟩
    refine ⟨?_, hword⟩
    cases hr : r.containerRunning with
    | false => exact .inl (hword hr)
    | true =>
      obtain ⟨logs, hmem, hclass⟩ := hlogs hr
      rcases fatalLogs_or_networkLogs hmem hclass with hfatal | hnet
      · exact .inr hfatal
      · exact .inr (hnetwork (hup.mpr hr) hnet)

/-! ## The loop -/

variable {modelId : String} {timeoutMs : ℚ} {startTime : ℤ} {e : HealthCheckServiceError}

/-- The history ends with a poll and a reading of the clock. -/
def LastPoll (options : HealthCheckOptions) (containerName : String) (jsonParse : String → Option Json)
    (es round : List (Event HealthAns W)) (r : HealthCheckPollResult) : Prop :=
  ∃ past t pre post elapsedMs, es = past ++ round ++ [⟨.now, t, pre, post⟩] ∧
    (poll options containerName jsonParse elapsedMs).Runs round r

/-- The clock never shows that the wait has taken its time. -/
def BeforeTimeout (timeoutMs : ℚ) (es : List (Event HealthAns W)) : Prop :=
  ∀ startTime ∈ (readings es).head?, ∀ t ∈ readings es, ((t - startTime : ℤ) : ℚ) < timeoutMs

theorem LastPoll.append {round : List (Event HealthAns W)} (fs : List (Event HealthAns W))
    (h : LastPoll options containerName jsonParse es round r) :
    LastPoll options containerName jsonParse (fs ++ es) round r := by
  obtain ⟨past, t, pre, post, elapsedMs, rfl, hpoll⟩ := h
  exact ⟨fs ++ past, t, pre, post, elapsedMs, by simp only [List.append_assoc], hpoll⟩

theorem readings_append (es fs : List (Event HealthAns W)) :
    readings (es ++ fs) = readings es ++ readings fs := List.filterMap_append

theorem mem_readings_append {t : ℤ} (fs : List (Event HealthAns W)) (h : t ∈ readings es) :
    t ∈ readings (fs ++ es) := by
  rw [readings_append]
  exact List.mem_append_right _ h

theorem runs_call {o : HealthOp} {x : Except HealthCheckServiceError (HealthAns o)}
    (h : (call o).run.Runs es x) : ∃ answer pre post, x = .ok answer ∧ es = [⟨o, answer, pre, post⟩] := by
  obtain ⟨answer, hsend, rfl⟩ := runs_lift.mp h
  obtain ⟨pre, post, rfl⟩ := runs_send hsend
  exact ⟨answer, pre, post, rfl, rfl⟩

theorem runs_call_bind {α : Type} {o : HealthOp}
    {f : HealthAns o → ExceptT HealthCheckServiceError (Prog HealthAns) α}
    {x : Except HealthCheckServiceError α} (h : (call o >>= f).run.Runs es x) :
    ∃ answer pre post fs, es = ⟨o, answer, pre, post⟩ :: fs ∧ (f answer).run.Runs fs x := by
  rcases runs_throws_bind.mp h with ⟨es₁, es₂, a, rfl, h₁, h₂⟩ | ⟨e, h, -⟩
  · obtain ⟨answer, pre, post, hans, rfl⟩ := runs_call h₁
    cases hans
    exact ⟨a, pre, post, es₂, rfl, h₂⟩
  · obtain ⟨answer, pre, post, hans, -⟩ := runs_call h
    cases hans

theorem runs_lift_bind {α β : Type} {p : HealthProg α}
    {f : α → ExceptT HealthCheckServiceError (Prog HealthAns) β}
    {x : Except HealthCheckServiceError β} (h : (ExceptT.lift p >>= f).run.Runs es x) :
    ∃ es₁ es₂ a, es = es₁ ++ es₂ ∧ p.Runs es₁ a ∧ (f a).run.Runs es₂ x := by
  rcases runs_throws_bind.mp h with ⟨es₁, es₂, a, rfl, h₁, h₂⟩ | ⟨e, h, -⟩
  · obtain ⟨a', h₁, ha⟩ := runs_lift.mp h₁
    cases ha
    exact ⟨es₁, es₂, a, rfl, h₁, h₂⟩
  · obtain ⟨a', -, ha⟩ := runs_lift.mp h
    cases ha

/-- How a loop that does not return a result ends: it throws after a poll with that classification, or
it sees that the time is over. -/
theorem runs_pollLoop (rounds polls : ℕ) {x : Except HealthCheckServiceError (Option LoopEnd)}
    (h : (pollLoop options containerName jsonParse modelId timeoutMs startTime rounds polls).run.Runs
      es x) :
    (∀ e, x = .error e → ∃ round r, LastPoll options containerName jsonParse es round r ∧
      r.errorClassification = some e.classification) ∧
    (∀ attempts, x = .ok (some (.timedOut attempts)) →
      ∃ t ∈ readings es, ¬ ((t - startTime : ℤ) : ℚ) < timeoutMs) := by
  induction rounds generalizing polls es with
  | zero =>
    obtain ⟨-, rfl⟩ := runs_throws_pure.mp h
    exact ⟨fun e he => (by cases he), fun attempts he => (by cases he)⟩
  | succ rounds ih =>
    obtain ⟨t, pre, post, fs, rfl, hif⟩ := runs_call_bind h
    by_cases htime : ((t - startTime : ℤ) : ℚ) < timeoutMs
    · rw [if_pos htime] at hif
      obtain ⟨later, pre', post', gs, rfl, hround⟩ := runs_call_bind hif
      obtain ⟨round, rest, r, rfl, hpoll, hafter⟩ := runs_lift_bind hround
      by_cases hhealthy : r.healthy = true
      · rw [if_pos hhealthy] at hafter
        obtain ⟨finish, pre'', post'', hs, rfl, hinfo⟩ := runs_call_bind hafter
        obtain ⟨fs₁, fs₂, info, rfl, -, hret⟩ := runs_lift_bind hinfo
        obtain ⟨-, rfl⟩ := runs_throws_pure.mp hret
        exact ⟨fun e he => (by cases he), fun attempts he => (by cases he)⟩
      · rw [if_neg hhealthy] at hafter
        cases hfatal : r.errorClassification.filter (·.isFatal) with
        | some c =>
          simp only [hfatal] at hafter
          obtain ⟨finish, pre'', post'', hs, rfl, hthrow⟩ := runs_call_bind hafter
          obtain ⟨rfl, rfl⟩ := runs_throw.mp hthrow
          refine ⟨fun e he => ?_, fun attempts he => (by cases he)⟩
          cases he
          exact ⟨round, r, ⟨[_, _], finish, pre'', post'', _, rfl, hpoll⟩,
            (Option.filter_eq_some_iff.mp hfatal).1⟩
        | none =>
          simp only [hfatal] at hafter
          obtain ⟨u, pre'', post'', hs, rfl, hloop⟩ := runs_call_bind hafter
          obtain ⟨herror, htimeout⟩ := ih _ hloop
          constructor
          · intro e he
            obtain ⟨round', r', hlast, hclass⟩ := herror e he
            exact ⟨round', r', (hlast.append [_]).append ([_, _] ++ round), hclass⟩
          · intro attempts he
            obtain ⟨t', ht', hover⟩ := htimeout attempts he
            exact ⟨t', mem_readings_append ([_, _] ++ round) (mem_readings_append [_] ht'), hover⟩
    · rw [if_neg htime] at hif
      obtain ⟨rfl, rfl⟩ := runs_throws_pure.mp hif
      exact ⟨fun e he => (by cases he), fun attempts _ => ⟨t, List.mem_singleton_self t, htime⟩⟩

/-! ## Aborts -/

/-- **An aborted wait is justified exactly when its last poll was clear.** -/
theorem abort_justified_iff {timeoutMsOverride : Option ℚ} {rounds : ℕ}
    (h : (waitForHealthy options containerName jsonParse modelId timeoutMsOverride rounds).run.Runs es
      (.error e))
    (hbefore : BeforeTimeout (timeoutMsOverride.getD options.timeoutMs) es) :
    ∃ round r, LastPoll options containerName jsonParse es round r ∧
      r.errorClassification = some e.classification ∧ (Justified round r ↔ Clear round) := by
  obtain ⟨start, pre, post, fs, rfl, hwait⟩ := runs_call_bind h
  rcases runs_throws_bind.mp hwait with ⟨gs, hs, loopEnd, rfl, hloop, hend⟩ | ⟨e', hloop, he⟩
  · obtain ⟨-, htimeout⟩ := runs_pollLoop rounds 0 hloop
    cases loopEnd with
    | none =>
      obtain ⟨-, hne⟩ := runs_throws_pure.mp hend
      cases hne
    | some loopEnd =>
      cases loopEnd with
      | healthy result =>
        obtain ⟨-, hne⟩ := runs_throws_pure.mp hend
        cases hne
      | timedOut attempts =>
        obtain ⟨t, ht, hover⟩ := htimeout attempts rfl
        refine absurd (hbefore start rfl t ?_) hover
        show t ∈ readings ([_] ++ (gs ++ hs))
        rw [readings_append, readings_append]
        exact List.mem_append_right _ (List.mem_append_left _ ht)
  · cases he
    obtain ⟨round, r, hlast, hclass⟩ := (runs_pollLoop rounds 0 hloop).1 e rfl
    obtain ⟨past, t, pre', post', elapsedMs, hfs, hpoll⟩ := hlast
    exact ⟨round, r, LastPoll.append [_] ⟨past, t, pre', post', elapsedMs, hfs, hpoll⟩, hclass,
      justified_iff_clear hpoll hclass⟩

/-! ## Two aborts without evidence -/

/-- A host with the given logs and answers to the inspects, on which nothing listens. Its clock shows a
minute and a millisecond more at every reading. -/
def serveHost (logs : String) : (o : HealthOp) → ℤ × List (Except String CommandResult) →
    HealthAns o × (ℤ × List (Except String CommandResult))
  | .now, (t, answers) => (t, (t + 60001, answers))
  | .sleep _, w => ((), w)
  | .exec (.inspect _) _ _, (t, answers) => (answers.headD (.error "read ECONNRESET"), (t, answers.tail))
  | .exec (.logs _ _) _ _, w => (.ok ⟨logs, "", some 0, true, 0⟩, w)
  | .exec (.health _) _ _, w => (.ok ⟨"", "", some 7, false, 0⟩, w)
  | .exec (.models _) _ _, w => (.ok ⟨"", "", some 7, false, 0⟩, w)

/-- A wait on such a host, for one round. -/
def hostRun (logs : String) (answers : List (Except String CommandResult)) :=
  (waitForHealthy {} "vllm" (fun _ => none) "m" none 1).run.drive (serveHost logs) (0, answers)

/-- A container that is up and retries a download. -/
def networkAbort := hostRun "ConnectionError: retrying" [.ok ⟨"true", "", some 0, true, 0⟩]

/-- Two inspects that are cut off, and one that finds no container. -/
def mixedAbort := hostRun "" [.error "read ECONNRESET", .error "read ECONNRESET",
  .ok ⟨"", "Error: No such object: vllm", some 1, false, 0⟩]

/-- A container that has stopped. -/
def stoppedAbort := hostRun "" [.ok ⟨"false", "", some 0, true, 0⟩]

/-- The wait has thrown. -/
def threw {α : Type} : Except HealthCheckServiceError α → Bool
  | .ok _ => false
  | .error _ => true

theorem exists_of_threw {α : Type} {x : Except HealthCheckServiceError α} (h : threw x = true) :
    ∃ e, x = .error e := by
  cases x with
  | ok a => cases h
  | error e => exact ⟨e, rfl⟩

theorem inspections_subset (past round rest : List (Event HealthAns W)) :
    (inspections round).Sublist (inspections (past ++ round ++ rest)) := by
  rw [inspections_append, inspections_append]
  exact (List.sublist_append_right _ _).trans (List.sublist_append_left _ _)

/-- The evidence of the last poll is there in the whole history. -/
theorem Justified.evidence {round : List (Event HealthAns W)} (hj : Justified round r)
    (h : LastPoll options containerName jsonParse es round r) :
    .stopped ∈ inspections es ∨ .authFailure ∈ inspections es ∨
      (List.replicate maxSshAttempts .notFound).Sublist (inspections es) ∨ FatalLogs es := by
  obtain ⟨past, t, pre, post, elapsedMs, rfl, -⟩ := h
  have hsub := inspections_subset past round [⟨.now, t, pre, post⟩]
  rcases hj.1 with (hstop | hmissing | hauth) | ⟨logs, hlogs, hmatch⟩
  · exact .inl (hsub.subset hstop)
  · rw [hmissing] at hsub
    exact .inr (.inr (.inl hsub))
  · exact .inr (.inl (hsub.subset hauth))
  · refine .inr (.inr (.inr ⟨logs, ?_, hmatch⟩))
    rw [shownLogs_append, shownLogs_append]
    exact List.mem_append_left _ (List.mem_append_right _ hlogs)

/-- The wait throws before its timeout, without evidence in its last poll. -/
def Unjustified (es : List (Event HealthAns (ℤ × List (Except String CommandResult)))) : Prop :=
  (∃ e, (waitForHealthy {} "vllm" (fun _ => none) "m" none 1).run.Runs es (.error e)) ∧
    BeforeTimeout 600000 es ∧
    ∀ round r, LastPoll {} "vllm" (fun _ => none) es round r → ¬ Justified round r

/-- No log line of the text matches a pattern of a category that is fatal by default. -/
def harmless (logs : String) : Bool :=
  fatalErrorPatterns.all fun p => !(p.category.fatal && p.matchesLogs logs)

theorem not_fatalLogs (h : ∀ logs ∈ shownLogs es, harmless logs = true) : ¬ FatalLogs es := by
  rintro ⟨logs, hlogs, p, hp, hfatal, hmatch⟩
  have hp' := List.all_eq_true.mp (h logs hlogs) p hp
  rw [hfatal, hmatch] at hp'
  cases hp'

theorem beforeTimeout_of_readings (h : readings es = [0, 60001, 120002, 180003]) :
    BeforeTimeout 600000 es := by
  intro start hstart t ht
  rw [h] at hstart ht
  cases hstart
  revert t
  decide +kernel

theorem unjustified_hostRun {logs : String} {answers : List (Except String CommandResult)}
    {run : List (Event HealthAns (ℤ × List (Except String CommandResult))) ×
      Except HealthCheckServiceError (Option HealthCheckResult) × ℤ × List (Except String CommandResult)}
    (hrun : run = hostRun logs answers)
    (h : threw run.2.1 = true ∧ readings run.1 = [0, 60001, 120002, 180003] ∧
      (∀ logs ∈ shownLogs run.1, harmless logs = true) ∧ .stopped ∉ inspections run.1 ∧
      .authFailure ∉ inspections run.1 ∧
      ¬ (List.replicate maxSshAttempts .notFound).Sublist (inspections run.1)) : Unjustified run.1 := by
  obtain ⟨hthrew, hreadings, hlogs, hstop, hauth, hmissing⟩ := h
  obtain ⟨e, he⟩ := exists_of_threw hthrew
  refine ⟨⟨e, ?_⟩, beforeTimeout_of_readings hreadings, fun round r hlast hj => ?_⟩
  · rw [← he, hrun]
    exact runs_drive _ _ _
  · rcases hj.evidence hlast with h | h | h | h
    · exact hstop h
    · exact hauth h
    · exact hmissing h
    · exact not_fatalLogs hlogs h

/-- A network error in the logs of a container that is up ends the wait, and so does an inspect that
finds no container after two that were cut off. -/
theorem unjustified_abort : Unjustified networkAbort.1 ∧ Unjustified mixedAbort.1 := by
  constructor
  · exact unjustified_hostRun rfl (by decide +kernel)
  · exact unjustified_hostRun rfl (by decide +kernel)

theorem abort_justified_stopped : ∃ round r,
    LastPoll {} "vllm" (fun _ => none) stoppedAbort.1 round r ∧ (Justified round r ↔ Clear round) := by
  have hthrew : threw stoppedAbort.2.1 = true := by decide +kernel
  obtain ⟨e, he⟩ := exists_of_threw hthrew
  have hruns : (waitForHealthy {} "vllm" (fun _ => none) "m" none 1).run.Runs stoppedAbort.1
      (.error e) := by
    rw [← he]
    exact runs_drive _ _ _
  have hreadings : readings stoppedAbort.1 = [0, 60001, 120002, 180003] := by decide +kernel
  obtain ⟨round, r, hlast, -, hiff⟩ :=
    abort_justified_iff hruns (beforeTimeout_of_readings hreadings)
  exact ⟨round, r, hlast, hiff⟩

end Benchmarker.Health
