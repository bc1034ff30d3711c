import Mathlib.Data.List.Nodup
import Mathlib.Data.List.TakeWhile
import Benchmarker.Js.Map

/-!
# The health monitor

`HealthMonitor.tick`, with any number of ticks under way: a tick waits for the checker, and then for every
handler of every alert that it raises. What a handler does has no effect on the monitor.

* `Monitor`, `process`, `move`, `Reach`: the source and its runs.
* `streak`, `Consecutive`: how many completed ticks in a row failed a check.
* **`alerts_consecutive`**: the runs in which an alert counts consecutive failures.
-/

namespace Benchmarker.Health

open Js

/-! ## Checks and alerts -/

structure HealthCheck where
  ok : Bool
  message : Option String := none
  deriving DecidableEq

/-- An object has every name once. -/
structure SystemHealthCheckResult where
  ok : Bool
  checks : JsMap String HealthCheck
  nodup : checks.keys.Nodup

/-- What a tick reads when the checker has answered. -/
structure Reading where
  timestamp : String
  uptimeSeconds : ℤ
  memoryMB : ℤ
  deriving DecidableEq

structure HealthSnapshot where
  timestamp : String
  ok : Bool
  checks : JsMap String HealthCheck
  uptimeSeconds : ℤ
  memoryMB : ℤ
  deriving DecidableEq

inductive AlertLevel
  | warning | critical
  deriving DecidableEq, Repr

structure Alert where
  level : AlertLevel
  check : String
  message : String
  timestamp : String
  consecutiveFailures : ℕ
  deriving DecidableEq

structure MonitorOptions where
  /-- `thresholds.consecutiveFailures` -/
  consecutiveFailures : ℕ := 3
  maxHistory : ℕ := 100
  /-- The number of alert handlers. -/
  handlers : ℕ := 0

/-! ## Ticks -/

/-- A tick that waits for a handler: so many handlers of the alert are left, and these checks. -/
structure Alerting where
  timestamp : String
  handlersLeft : ℕ
  rest : JsMap String HealthCheck
  deriving DecidableEq

structure Monitor where
  failureCounts : JsMap String ℕ := []
  history : List HealthSnapshot := []
  /-- The number of ticks that wait for the checker. -/
  checking : ℕ := 0
  /-- The ticks that wait for a handler. -/
  alerting : List Alerting := []
  /-- The snapshots of all ticks, the last one first; the source keeps the last of them only. -/
  completed : List HealthSnapshot := []
  /-- The alerts, each with the ticks that were completed. -/
  raised : List (Alert × List HealthSnapshot) := []
  deriving DecidableEq

/-- What a tick makes of the answer of the checker, which may throw. -/
def resultOf : Except String SystemHealthCheckResult → SystemHealthCheckResult
  | .ok result => result
  | .error text =>
    { ok := false
      checks := [("system", ⟨false, some ("Health check threw: " ++ text)⟩)]
      nodup := List.nodup_singleton _ }

def Monitor.count (monitor : Monitor) (name : String) : ℕ := (monitor.failureCounts.get name).getD 0

def snapshotOf (result : SystemHealthCheckResult) (reading : Reading) : HealthSnapshot :=
  ⟨reading.timestamp, result.ok, result.checks, reading.uptimeSeconds, reading.memoryMB⟩

/-- The history is cut at its front. -/
def record (options : MonitorOptions) (snapshot : HealthSnapshot) (monitor : Monitor) : Monitor :=
  let history := monitor.history ++ [snapshot]
  { monitor with
    history := if options.maxHistory < history.length then history.tail else history
    completed := snapshot :: monitor.completed }

def alertOf (options : MonitorOptions) (timestamp name : String) (check : HealthCheck) (count : ℕ) : Alert where
  level := if options.consecutiveFailures ≤ count then .critical else .warning
  check := name
  message := check.message.getD ("Check \x22" ++ name ++ "\x22 failed")
  timestamp := timestamp
  consecutiveFailures := count

/-- The loop over checks, up to the first handler that is waited for. -/
def process (options : MonitorOptions) (timestamp : String) : Monitor → JsMap String HealthCheck → Monitor
  | monitor, [] => monitor
  | monitor, (name, check) :: rest =>
    if check.ok then
      process options timestamp { monitor with failureCounts := monitor.failureCounts.set name 0 } rest
    else
      let count := monitor.count name + 1
      let raised := { monitor with
        failureCounts := monitor.failureCounts.set name count
        raised := (alertOf options timestamp name check count, monitor.completed) :: monitor.raised }
      if options.handlers = 0 then process options timestamp raised rest
      else { raised with alerting := ⟨timestamp, options.handlers, rest⟩ :: raised.alerting }

/-- What happens next: a tick starts, the checker answers one, or a handler that one waits for is done. -/
inductive MonitorMove
  | start
  | answered (outcome : Except String SystemHealthCheckResult) (reading : Reading)
  | settled (i : ℕ)

def move (options : MonitorOptions) (monitor : Monitor) : MonitorMove → Option Monitor
  | .start => some { monitor with checking := monitor.checking + 1 }
  | .answered outcome reading =>
    if monitor.checking = 0 then none
    else
      let result := resultOf outcome
      let recorded := record options (snapshotOf result reading)
        { monitor with checking := monitor.checking - 1 }
      some (process options reading.timestamp recorded result.checks)
  | .settled i =>
    monitor.alerting[i]?.map fun tick =>
      if 1 < tick.handlersLeft then
        { monitor with alerting := monitor.alerting.set i { tick with handlersLeft := tick.handlersLeft - 1 } }
      else process options tick.timestamp { monitor with alerting := monitor.alerting.eraseIdx i } tick.rest

/-- The runs whose moves all satisfy a condition. -/
inductive Reach (options : MonitorOptions) (good : Monitor → MonitorMove → Prop) : Monitor → Prop
  | init : Reach options good {}
  | step {monitor monitor' : Monitor} {m : MonitorMove} : Reach options good monitor → good monitor m →
      move options monitor m = some monitor' → Reach options good monitor'

/-! ## Failures in a row -/

/-- The tick failed the check. -/
def failed (name : String) (snapshot : HealthSnapshot) : Bool := (snapshot.checks.get name).any fun check => !check.ok

/-- How many of the last completed ticks failed the check. -/
def streak (completed : List HealthSnapshot) (name : String) : ℕ := (completed.takeWhile (failed name)).length

/-- As many ticks as the alert says were completed last, and all failed the check. -/
def Consecutive (alert : Alert) (completed : List HealthSnapshot) : Prop :=
  alert.consecutiveFailures ≤ completed.length ∧
    ∀ snapshot ∈ completed.take alert.consecutiveFailures, failed alert.check snapshot = true

/-- The checker answers a tick while no other one waits for a handler, and with every check whose failures
are counted. -/
def Orderly (monitor : Monitor) : MonitorMove → Prop
  | .answered outcome _ =>
    monitor.alerting = [] ∧ ∀ name, 0 < monitor.count name → name ∈ (resultOf outcome).checks.keys
  | _ => True

section Counts

variable {options : MonitorOptions} {timestamp name : String} {check : HealthCheck} {monitor monitor' : Monitor}
  {rest : JsMap String HealthCheck} {completed : List HealthSnapshot} {snapshot : HealthSnapshot} {n : ℕ}
  {m : MonitorMove} {alert : Alert}

theorem streak_cons : streak (snapshot :: completed) name =
    if failed name snapshot then streak completed name + 1 else 0 := by
  rw [streak, List.takeWhile_cons]
  split_ifs <;> rfl

theorem consecutive_of_le (h : alert.consecutiveFailures ≤ streak completed alert.check) :
    Consecutive alert completed := by
  refine ⟨h.trans (List.takeWhile_prefix _).length_le, fun snapshot hmem => ?_⟩
  obtain ⟨rest, hrest⟩ := List.takeWhile_prefix (failed alert.check) (l := completed)
  rw [← hrest, List.take_append_of_le_length h] at hmem
  exact List.mem_takeWhile_imp (List.mem_of_mem_take hmem)

/-- The counts when a tick has these checks left: those that it will raise are behind by one, and those
that it will reset may be anything. -/
structure Due (monitor : Monitor) (rest : JsMap String HealthCheck) : Prop where
  nodup : rest.keys.Nodup
  other : ∀ name, name ∉ rest.keys → monitor.count name ≤ streak monitor.completed name
  failing : ∀ name check, (name, check) ∈ rest → check.ok = false →
    monitor.count name + 1 ≤ streak monitor.completed name

/-- Every alert counted consecutive failures. -/
def Sound (monitor : Monitor) : Prop := ∀ x ∈ monitor.raised, Consecutive x.1 x.2

theorem count_set {counts : JsMap String ℕ} {other : String} (h : monitor.failureCounts = counts.set name n) :
    monitor.count other = if name = other then n else (counts.get other).getD 0 := by
  rw [Monitor.count, h, JsMap.get_set]
  split_ifs <;> rfl

theorem Due.congr (h : Due monitor rest) (hcompleted : monitor'.completed = monitor.completed)
    (hcounts : monitor'.failureCounts = monitor.failureCounts) : Due monitor' rest := by
  have hcount : ∀ name, monitor'.count name = monitor.count name := fun name => by
    rw [Monitor.count, Monitor.count, hcounts]
  refine ⟨h.nodup, fun name hname => ?_, fun name check hmem hfails => ?_⟩
  · rw [hcount, hcompleted]
    exact h.other name hname
  · rw [hcount, hcompleted]
    exact h.failing name check hmem hfails

/-- A check is done with: its count is at most what it has to be. -/
theorem Due.next (h : Due monitor ((name, check) :: rest))
    (hcompleted : monitor'.completed = monitor.completed)
    (hcounts : monitor'.failureCounts = monitor.failureCounts.set name n)
    (hle : n ≤ streak monitor.completed name) : Due monitor' rest where
  nodup := (List.nodup_cons.mp h.nodup).2
  other := by
    intro other hother
    rw [hcompleted, count_set hcounts]
    split_ifs with hsame
    · exact hsame ▸ hle
    · refine h.other other fun hmem => ?_
      rcases List.mem_cons.mp hmem with heq | hmem
      · exact hsame heq.symm
      · exact hother hmem
  failing := by
    intro other check' hmem hfails
    have hne : name ≠ other := by
      rintro rfl
      exact (List.nodup_cons.mp h.nodup).1 (List.mem_map.mpr ⟨_, hmem, rfl⟩)
    rw [hcompleted, count_set hcounts, if_neg hne]
    exact h.failing other check' (List.mem_cons_of_mem _ hmem) hfails

/-- **The loop** raises alerts that count consecutive failures, and leaves at most one tick that waits. -/
theorem process_spec (options : MonitorOptions) (timestamp : String) (hdue : Due monitor rest)
    (hsound : Sound monitor) :
    Sound (process options timestamp monitor rest) ∧
      ((process options timestamp monitor rest).alerting = monitor.alerting ∧
          Due (process options timestamp monitor rest) [] ∨
        ∃ tick, (process options timestamp monitor rest).alerting = tick :: monitor.alerting ∧
          Due (process options timestamp monitor rest) tick.rest) := by
  induction rest generalizing monitor with
  | nil => exact ⟨hsound, .inl ⟨rfl, hdue⟩⟩
  | cons entry rest ih =>
    obtain ⟨name, check⟩ := entry
    rw [process]
    by_cases hok : check.ok = true
    · rw [if_pos hok]
      exact ih (hdue.next rfl rfl (Nat.zero_le _)) hsound
    · rw [if_neg hok]
      have hle := hdue.failing name check List.mem_cons_self (Bool.eq_false_iff.mpr hok)
      have hsound' : ∀ x ∈ (alertOf options timestamp name check (monitor.count name + 1), monitor.completed) ::
          monitor.raised, Consecutive x.1 x.2 := by
        intro x hx
        rcases List.mem_cons.mp hx with rfl | hx
        · exact consecutive_of_le hle
        · exact hsound x hx
      dsimp only
      split_ifs
      · exact ih (hdue.next rfl rfl hle) hsound'
      · exact ⟨hsound', .inr ⟨_, rfl, hdue.next rfl rfl hle⟩⟩

/-- What holds between the moves of an orderly run: at most one tick waits for a handler. -/
structure Inv (monitor : Monitor) : Prop where
  sound : Sound monitor
  due : monitor.alerting = [] ∧ Due monitor [] ∨ ∃ tick, monitor.alerting = [tick] ∧ Due monitor tick.rest

theorem inv_process (hdue : Due monitor rest) (hsound : Sound monitor) (hnone : monitor.alerting = []) :
    Inv (process options timestamp monitor rest) := by
  obtain ⟨hsound', hdue'⟩ := process_spec options timestamp hdue hsound
  rw [hnone] at hdue'
  exact ⟨hsound', hdue'⟩

theorem due_record {result : SystemHealthCheckResult} {reading : Reading} (hdue : Due monitor [])
    (hreported : ∀ name, 0 < monitor.count name → name ∈ result.checks.keys) :
    Due (record options (snapshotOf result reading) { monitor with checking := n }) result.checks where
  nodup := result.nodup
  other := by
    intro name hname
    have hzero : monitor.count name = 0 := by
      by_contra hne
      exact hname (hreported name (Nat.pos_of_ne_zero hne))
    exact (Nat.le_of_eq hzero).trans (Nat.zero_le _)
  failing := by
    intro name check hmem hfails
    have hle : monitor.count name ≤ streak monitor.completed name := hdue.other name List.not_mem_nil
    have hfailed : failed name (snapshotOf result reading) = true := by
      have hget : result.checks.get name = some check := (JsMap.get_eq_some_iff result.nodup).mpr hmem
      rw [failed, snapshotOf, hget, Option.any_some, hfails]
      rfl
    have hstreak : streak (snapshotOf result reading :: monitor.completed) name =
        streak monitor.completed name + 1 := by
      rw [streak_cons, if_pos hfailed]
    exact (Nat.add_le_add_right hle 1).trans_eq hstreak.symm

/-- **One move** of an orderly run. -/
theorem inv_move (hinv : Inv monitor) (hgood : Orderly monitor m) (h : move options monitor m = some monitor') :
    Inv monitor' := by
  cases m with
  | start =>
    obtain rfl := Option.some.inj h
    refine ⟨hinv.sound, ?_⟩
    rcases hinv.due with ⟨hnone, hdue⟩ | ⟨tick, htick, hdue⟩
    · exact .inl ⟨hnone, hdue.congr rfl rfl⟩
    · exact .inr ⟨tick, htick, hdue.congr rfl rfl⟩
  | answered outcome reading =>
    obtain ⟨hnone, hreported⟩ := hgood
    rw [move] at h
    split_ifs at h
    obtain rfl := Option.some.inj h
    rcases hinv.due with ⟨-, hdue⟩ | ⟨tick, htick, -⟩
    · exact inv_process (due_record hdue hreported) hinv.sound hnone
    · rw [hnone] at htick
      cases htick
  | settled i =>
    obtain ⟨tick, htick, rfl⟩ := Option.map_eq_some_iff.mp h
    rcases hinv.due with ⟨hnone, -⟩ | ⟨tick', honly, hdue⟩
    · rw [hnone] at htick
      cases htick
    · rw [honly] at htick
      obtain ⟨rfl, rfl⟩ : i = 0 ∧ tick' = tick := by
        cases i with
        | zero => exact ⟨rfl, Option.some.inj htick⟩
        | succ i => cases htick
      split_ifs
      · refine ⟨hinv.sound, .inr ⟨⟨tick'.timestamp, tick'.handlersLeft - 1, tick'.rest⟩, ?_, hdue.congr rfl rfl⟩⟩
        dsimp only
        rw [honly]
        rfl
      · refine inv_process (hdue.congr rfl rfl) hinv.sound ?_
        dsimp only
        rw [honly]
        rfl

end Counts

/-- **The runs in which an alert counts consecutive failures**: those in which the checker answers a tick only
while no other one waits for an alert handler, and with every check whose failures are counted. -/
theorem alerts_consecutive (options : MonitorOptions) (monitor : Monitor) (h : Reach options Orderly monitor) :
    ∀ x ∈ monitor.raised, Consecutive x.1 x.2 := by
  have hinv : Inv monitor := by
    induction h with
    | init =>
      refine ⟨nofun, .inl ⟨rfl, List.nodup_nil, fun name _ => Nat.zero_le _, nofun⟩⟩
    | step _ hgood hmove ih => exact inv_move ih hgood hmove
  exact hinv.sound

/-! ## Runs -/

/-- The names whose failures are counted are among those of the counts. -/
theorem orderly_answered {monitor : Monitor} {outcome : Except String SystemHealthCheckResult} {reading : Reading}
    (hnone : monitor.alerting = [])
    (hkeys : ∀ name ∈ monitor.failureCounts.keys, name ∈ (resultOf outcome).checks.keys) :
    Orderly monitor (.answered outcome reading) := by
  refine ⟨hnone, fun name hpos => hkeys name ?_⟩
  rw [Monitor.count] at hpos
  cases hget : monitor.failureCounts.get name with
  | none =>
    rw [hget] at hpos
    exact absurd hpos (Nat.lt_irrefl 0)
  | some n => exact List.mem_map.mpr ⟨_, JsMap.mem_of_get_eq_some hget, rfl⟩

/-- One check of the queue. -/
def queueCheck (ok : Bool) : SystemHealthCheckResult where
  ok := ok
  checks := [("queue", ⟨ok, none⟩)]
  nodup := List.nodup_cons.mpr ⟨List.not_mem_nil, List.nodup_nil⟩

def noReading : Reading := ⟨"2026-01-01T00:00:00.000Z", 0, 0⟩

/-- The queue fails two ticks in a row, and the handler of the first alert is done before the second. -/
theorem queue_consecutive : ∃ monitor, Reach { handlers := 1 } Orderly monitor ∧
    (∃ x ∈ monitor.raised, x.1.consecutiveFailures = 2) ∧ ∀ x ∈ monitor.raised, Consecutive x.1 x.2 := by
  have h₁ : Reach { handlers := 1 } Orderly _ := .step .init (m := .start) trivial rfl
  have h₂ : Reach { handlers := 1 } Orderly _ :=
    .step h₁ (m := .answered (.ok (queueCheck false)) noReading) (orderly_answered rfl (by decide)) rfl
  have h₃ : Reach { handlers := 1 } Orderly _ := .step h₂ (m := .settled 0) trivial rfl
  have h₄ : Reach { handlers := 1 } Orderly _ := .step h₃ (m := .start) trivial rfl
  have h₅ : Reach { handlers := 1 } Orderly _ :=
    .step h₄ (m := .answered (.ok (queueCheck false)) noReading) (orderly_answered rfl (by decide)) rfl
  exact ⟨_, h₅, ⟨_, List.mem_cons_self, rfl⟩, alerts_consecutive _ _ h₅⟩

/-- The checker throws, then finds the queue healthy, then throws again. -/
theorem throws_apart : ¬ ∀ (options : MonitorOptions) (monitor : Monitor), Reach options (fun _ _ => True) monitor →
    ∀ x ∈ monitor.raised, Consecutive x.1 x.2 := by
  intro h
  have h₁ : Reach {} (fun _ _ => True) _ := .step .init (m := .start) trivial rfl
  have h₂ : Reach {} (fun _ _ => True) _ := .step h₁ (m := .answered (.error "timeout") noReading) trivial rfl
  have h₃ : Reach {} (fun _ _ => True) _ := .step h₂ (m := .start) trivial rfl
  have h₄ : Reach {} (fun _ _ => True) _ :=
    .step h₃ (m := .answered (.ok (queueCheck true)) noReading) trivial rfl
  have h₅ : Reach {} (fun _ _ => True) _ := .step h₄ (m := .start) trivial rfl
  have h₆ : Reach {} (fun _ _ => True) _ := .step h₅ (m := .answered (.error "timeout") noReading) trivial rfl
  have hfailed := (h _ _ h₆ _ List.mem_cons_self).2 _ (List.mem_cons_of_mem _ List.mem_cons_self)
  revert hfailed
  decide

end Benchmarker.Health
