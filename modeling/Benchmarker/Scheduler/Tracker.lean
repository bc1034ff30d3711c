import Benchmarker.Scheduler.Strikes

/-!
# The size of the failure tracker

`recordModelFailure` prunes when more than `MAX_TRACKED_FAILURES` models are tracked, but only records that are older
than six hours. A call takes no time: its readings of the clock agree.

* `ModelFailure`, `SchedulerState.fails`: a call, and the state after it. `tracker_fails`, `cooldown_fails`.
* `Bounded`: the tracker is within its bound and nothing live is pruned. `FewRecent`: few other models failed lately.
* **`bounded_iff`**: one call. **`tracker_bounded_iff`**: all calls of a daemon.
* **`size_failsAll_crowd`**: models that fail at the same time are all tracked, however many.
-/

namespace Benchmarker

open Js

/-- A call of `recordModelFailure`. -/
structure ModelFailure where
  modelId : String
  errorType : String
  now : Time

section Entries

variable {β : Type} {t : JsMap String β} {k : String} {v : β} {p : String × β → Bool}

/-- The entries that stay of a map with one entry set: those of the other keys, and the new one. -/
theorem length_filter_set (h : t.keys.Nodup) (hp : p (k, v) = true) :
    ((t.set k v).filter p).length = (t.filter fun kv => kv.1 ≠ k && p kv).length + 1 := by
  induction t with
  | nil =>
    show ([(k, v)].filter p).length = 1
    rw [List.filter_cons_of_pos hp]
    rfl
  | cons kv t ih =>
    obtain ⟨hno, hnodup⟩ := List.nodup_cons.mp h
    rw [JsMap.set_cons]
    by_cases hk : kv.1 = k
    · have hothers : (t.filter fun kv => kv.1 ≠ k && p kv) = t.filter p := by
        refine List.filter_congr fun kv' hkv' => ?_
        have hne : kv'.1 ≠ k := fun heq => hno (List.mem_map.mpr ⟨kv', hkv', heq.trans hk.symm⟩)
        rw [decide_eq_true hne, Bool.true_and]
      rw [if_pos hk, List.filter_cons_of_pos hp, List.filter_cons_of_neg (by simp [hk]), hothers, List.length_cons]
    · rw [if_neg hk, List.filter_cons, List.filter_cons, decide_eq_true hk, Bool.true_and]
      split_ifs
      · rw [List.length_cons, List.length_cons, ih hnodup]
      · exact ih hnodup

theorem nodup_filter (h : t.keys.Nodup) : JsMap.keys (t.filter p : JsMap String β) |>.Nodup :=
  (List.filter_sublist.map _).nodup h

end Entries

/-! ## One call -/

namespace SchedulerState

variable (s : SchedulerState) (f : ModelFailure)

/-- The state after the call. -/
def fails : SchedulerState := (s.recordModelFailure f.modelId f.errorType f.now).2

/-- What the call writes into the tracker. -/
def written : FailureRecord :=
  let existing := s.strike f.modelId f.errorType f.now
  if existing.count ≥ 3 then { existing with count := 0 } else existing

/-- The record is not older than the cooldown window. -/
def isRecent (now : Time) (kv : String × FailureRecord) : Bool := ¬(now - kv.2.lastAt > sixHoursMs)

/-- The models other than the one that fails which have failed in the last six hours. -/
def othersRecent : List (String × FailureRecord) :=
  s.modelFailureTracker.filter fun kv => kv.1 ≠ f.modelId && isRecent f.now kv

theorem written_lastAt : (s.written f).lastAt = f.now := by
  unfold written
  dsimp only
  split_ifs <;> rfl

/-- The state before pruning. -/
def counted : SchedulerState :=
  { s with
    modelCooldown := if (s.strike f.modelId f.errorType f.now).count ≥ 3 then
      s.modelCooldown.set f.modelId (f.now + sixHoursMs) else s.modelCooldown
    modelFailureTracker := s.modelFailureTracker.set f.modelId (s.written f) }

theorem fails_eq : s.fails f = if (s.counted f).modelFailureTracker.size > maxTrackedFailures ∨
    (s.counted f).modelCooldown.size > maxCooldownEntries then (s.counted f).pruneStaleModelEntries f.now
    else s.counted f := by
  unfold fails recordModelFailure counted written
  dsimp only
  by_cases hthree : (s.strike f.modelId f.errorType f.now).count ≥ 3
  · simp only [if_pos hthree]
  · simp only [if_neg hthree]

/-- The tracker after the call: pruned if it is too large. -/
theorem tracker_fails : (s.fails f).modelFailureTracker =
    if (s.modelFailureTracker.set f.modelId (s.written f)).size > maxTrackedFailures then
      (s.modelFailureTracker.set f.modelId (s.written f)).filter (isRecent f.now)
    else s.modelFailureTracker.set f.modelId (s.written f) := by
  rw [fails_eq]
  split_ifs with hsize hlarge hlarge
  · exact if_pos hlarge
  · exact if_neg hlarge
  · exact absurd (.inl hlarge) hsize
  · rfl

/-- What is found on cooldown after the call, if it has not expired. -/
theorem cooldown_fails {m : String} {expireAt : Time} (h : s.modelCooldown.get m = some expireAt)
    (hlive : f.now < expireAt) : ∃ expireAt', (s.fails f).modelCooldown.get m = some expireAt' ∧
      (expireAt' = expireAt ∨ m = f.modelId ∧ expireAt' = f.now + sixHoursMs) := by
  have hcounted : ∃ expireAt', (s.counted f).modelCooldown.get m = some expireAt' ∧ f.now < expireAt' ∧
      (expireAt' = expireAt ∨ m = f.modelId ∧ expireAt' = f.now + sixHoursMs) := by
    unfold counted
    dsimp only
    split_ifs
    · rw [JsMap.get_set]
      by_cases hm : f.modelId = m
      · exact ⟨f.now + sixHoursMs, if_pos hm, Nat.lt_add_of_pos_right (by decide), .inr ⟨hm.symm, rfl⟩⟩
      · exact ⟨expireAt, (if_neg hm).trans h, hlive, .inl rfl⟩
    · exact ⟨expireAt, h, hlive, .inl rfl⟩
  obtain ⟨expireAt', hget, hlive', hcases⟩ := hcounted
  refine ⟨expireAt', ?_, hcases⟩
  rw [fails_eq]
  split_ifs
  · exact get_filter hget (decide_eq_true (Nat.not_le.mpr hlive'))
  · exact hget

end SchedulerState

/-- What the bound promises of a call: no more models than `MAX_TRACKED_FAILURES`, every cooldown that has not
expired, and the record just written. -/
structure Bounded (s : SchedulerState) (f : ModelFailure) : Prop where
  size : (s.fails f).modelFailureTracker.size ≤ maxTrackedFailures
  cooldowns : ∀ m expireAt, s.modelCooldown.get m = some expireAt → f.now < expireAt →
    ∃ expireAt', (s.fails f).modelCooldown.get m = some expireAt' ∧
      (expireAt' = expireAt ∨ m = f.modelId ∧ expireAt' = f.now + sixHoursMs)
  newest : (s.fails f).modelFailureTracker.get f.modelId = some (s.written f)

/-- Fewer other models than the bound have failed in the last six hours. -/
def FewRecent (s : SchedulerState) (f : ModelFailure) : Prop := (s.othersRecent f).length < maxTrackedFailures

section Calls

variable {s : SchedulerState} {f : ModelFailure} {calls : List ModelFailure}

theorem isRecent_written : SchedulerState.isRecent f.now (f.modelId, s.written f) = true := by
  have hzero : f.now - (s.written f).lastAt = 0 := by rw [s.written_lastAt f, Nat.sub_self]
  rw [SchedulerState.isRecent, hzero]
  rfl

/-- **One call**: the tracker stays within its bound if few other models have failed lately. -/
theorem bounded_iff (h : s.modelFailureTracker.keys.Nodup) : Bounded s f ↔ FewRecent s f := by
  have hlength := length_filter_set h (@isRecent_written s f)
  have hsize : (s.fails f).modelFailureTracker.size ≤ maxTrackedFailures ↔ FewRecent s f := by
    rw [s.tracker_fails f, FewRecent, SchedulerState.othersRecent]
    split_ifs with hlarge
    · rw [JsMap.size, hlength]
      exact Nat.succ_le_iff
    · have hle := Nat.not_lt.mp hlarge
      have hothers := (List.length_filter_le (SchedulerState.isRecent f.now) _).trans hle
      rw [hlength] at hothers
      exact iff_of_true hle hothers
  refine ⟨fun hbounded => hsize.mp hbounded.size, fun hfew => ⟨hsize.mpr hfew, fun m expireAt => s.cooldown_fails f, ?_⟩⟩
  rw [s.tracker_fails f]
  split_ifs
  · exact get_filter JsMap.get_set_self isRecent_written
  · exact JsMap.get_set_self

theorem nodup_fails (h : s.modelFailureTracker.keys.Nodup) : (s.fails f).modelFailureTracker.keys.Nodup := by
  rw [s.tracker_fails f]
  split_ifs
  · exact nodup_filter (JsMap.nodup_set h)
  · exact JsMap.nodup_set h

/-! ## All calls -/

/-- The state after the calls, in turn. -/
def SchedulerState.failsAll (s : SchedulerState) (calls : List ModelFailure) : SchedulerState :=
  calls.foldl SchedulerState.fails s

/-- A daemon that has just started: it has loaded the stored cooldowns and tracks no failure. -/
def freshDaemon (cooldown : JsMap String Time) : SchedulerState := { modelCooldown := cooldown }

theorem nodup_failsAll (h : s.modelFailureTracker.keys.Nodup) : (s.failsAll calls).modelFailureTracker.keys.Nodup := by
  induction calls generalizing s with
  | nil => exact h
  | cons f calls ih => exact ih (nodup_fails h)

/-- **All calls of a daemon** keep the tracker within its bound, and drop nothing live, exactly if at each of them few
other models have failed in the last six hours. -/
theorem tracker_bounded_iff (cooldown : JsMap String Time) (calls : List ModelFailure) :
    (∀ before f after, calls = before ++ f :: after → Bounded ((freshDaemon cooldown).failsAll before) f) ↔
      ∀ before f after, calls = before ++ f :: after → FewRecent ((freshDaemon cooldown).failsAll before) f := by
  have hstep : ∀ before f, Bounded ((freshDaemon cooldown).failsAll before) f ↔
      FewRecent ((freshDaemon cooldown).failsAll before) f :=
    fun before f => bounded_iff (nodup_failsAll List.nodup_nil)
  exact forall_congr' fun before => forall_congr' fun f => forall_congr' fun after => imp_congr_right fun _ => hstep before f

/-! ## A crowd -/

/-- Models that fail at the same time. -/
def crowd (n : ℕ) : List ModelFailure := (List.range n).map fun i => ⟨String.ofList (List.replicate i 'm'), "error", 0⟩

/-- A new model is tracked beside those that failed at the same time. -/
theorem tracker_fails_new (hnow : ∀ kv ∈ s.modelFailureTracker, kv.2.lastAt = f.now)
    (hnew : s.modelFailureTracker.has f.modelId = false) :
    (s.fails f).modelFailureTracker = s.modelFailureTracker ++ [(f.modelId, s.written f)] := by
  have hrecent : ∀ kv ∈ s.modelFailureTracker ++ [(f.modelId, s.written f)],
      SchedulerState.isRecent f.now kv = true := by
    intro kv hkv
    rcases List.mem_append.mp hkv with hkv | hkv
    · have hzero : f.now - kv.2.lastAt = 0 := by rw [hnow kv hkv, Nat.sub_self]
      rw [SchedulerState.isRecent, hzero]
      rfl
    · rw [List.mem_singleton.mp hkv]
      exact isRecent_written
  rw [s.tracker_fails f, JsMap.set_of_not_has hnew]
  split_ifs
  · exact List.filter_eq_self.mpr hrecent
  · rfl

theorem tracker_failsAll_crowd (n : ℕ) :
    ((freshDaemon []).failsAll (crowd n)).modelFailureTracker.keys = (crowd n).map (·.modelId) ∧
      ∀ kv ∈ ((freshDaemon []).failsAll (crowd n)).modelFailureTracker, kv.2.lastAt = 0 := by
  induction n with
  | zero => exact ⟨rfl, nofun⟩
  | succ n ih =>
    obtain ⟨hkeys, hnow⟩ := ih
    have hcrowd : crowd (n + 1) = crowd n ++ [⟨String.ofList (List.replicate n 'm'), "error", 0⟩] := by
      rw [crowd, List.range_succ, List.map_append]
      rfl
    have hnew : ((freshDaemon []).failsAll (crowd n)).modelFailureTracker.has
        (String.ofList (List.replicate n 'm')) = false := by
      refine List.any_eq_false.mpr fun kv hkv hname => ?_
      have hmem : kv.1 ∈ (crowd n).map (·.modelId) := hkeys ▸ List.mem_map_of_mem hkv
      rw [of_decide_eq_true hname, crowd, List.map_map] at hmem
      obtain ⟨i, hi, heq⟩ := List.mem_map.mp hmem
      have hlength := congrArg String.length heq
      simp only [Function.comp, String.length_ofList, List.length_replicate] at hlength
      exact absurd (List.mem_range.mp hi) (by omega)
    rw [hcrowd, SchedulerState.failsAll, List.foldl_append, List.foldl_cons, List.foldl_nil,
      ← SchedulerState.failsAll, tracker_fails_new hnow hnew]
    refine ⟨?_, fun kv hkv => ?_⟩
    · rw [JsMap.keys, List.map_append, List.map_append, ← hkeys]
      rfl
    · rcases List.mem_append.mp hkv with hkv | hkv
      · exact hnow kv hkv
      · rw [List.mem_singleton.mp hkv]
        exact SchedulerState.written_lastAt _ _

/-- **Models that fail at the same time are all tracked**, however many they are. -/
theorem size_failsAll_crowd (n : ℕ) : ((freshDaemon []).failsAll (crowd n)).modelFailureTracker.size = n := by
  have hlength := congrArg List.length (tracker_failsAll_crowd n).1
  rw [JsMap.keys, List.length_map, List.length_map, crowd, List.length_map, List.length_range] at hlength
  exact hlength

end Calls

/-- A model more than the bound. -/
theorem crowd_not_bounded : ¬ ∀ (cooldown : JsMap String Time) (calls before : List ModelFailure) (f : ModelFailure)
    (after : List ModelFailure), calls = before ++ f :: after → Bounded ((freshDaemon cooldown).failsAll before) f := by
  intro h
  have hcrowd : crowd 201 = crowd 200 ++ ⟨String.ofList (List.replicate 200 'm'), "error", 0⟩ :: [] := by
    rw [crowd, List.range_succ, List.map_append]
    rfl
  have hsize := (h [] (crowd 201) _ _ _ hcrowd).size
  have hall : (((freshDaemon []).failsAll (crowd 200)).fails ⟨String.ofList (List.replicate 200 'm'), "error", 0⟩) =
      (freshDaemon []).failsAll (crowd 201) := by
    rw [hcrowd, SchedulerState.failsAll, SchedulerState.failsAll, List.foldl_append, List.foldl_cons, List.foldl_nil]
  rw [hall, size_failsAll_crowd] at hsize
  exact absurd hsize (by decide)

end Benchmarker
