import Benchmarker.Breaker.Tally

/-!
# The test attempt of a half-open circuit

A half-open circuit is meant to admit a single test attempt. `canAttempt` admits every caller while
the circuit is half open, so there is a single attempt exactly when no caller asks while an attempt
is out.

* `probes`: the attempts that a half-open circuit has admitted since the last outcome.
* `Waiting`: the latest check of the model has no outcome yet.
* **`oneProbe_iff`**: one attempt at a time, exactly if nobody checks a half-open circuit in between.
-/

namespace Benchmarker.Breaker

open ModelFailureRecord

/-! ## Attempts -/

/-- The circuit of the model is half open. -/
def HalfOpenIn (s : Session) (modelId : String) : Prop :=
  ∃ r, s.breaker.records.get modelId = some r ∧ r.state = .halfOpen

section Probes

variable (o : CircuitBreakerOptions) (modelId : String)

/-- A check that a half-open circuit admits is one more attempt; an outcome or a reset ends them. -/
def noteProbe (s : Session) (n : ℕ) (now : Time) : Call → ℕ
  | .canAttempt id =>
    if id = modelId ∧ (canAttempt o now id s.breaker).1.allowed = true ∧
      (canAttempt o now id s.breaker).1.state = .halfOpen then n + 1 else n
  | .recordFailure id _ _ => if id = modelId then 0 else n
  | .recordSuccess id => if id = modelId then 0 else n
  | .reset id => if id = modelId then 0 else n
  | .resetAll => 0
  | _ => n

/-- The attempts that the half-open circuit has admitted since the last outcome. -/
def probesFrom (s : Session) (n : ℕ) : List (Time × Call) → ℕ
  | [] => n
  | (now, c) :: calls => probesFrom (step o s now c).2 (noteProbe o modelId s n now c) calls

def probes (calls : List (Time × Call)) : ℕ := probesFrom o modelId {} 0 calls

/-- A half-open circuit never has two attempts out. -/
def OneProbe (calls : List (Time × Call)) : Prop :=
  ∀ before after, calls = before ++ after → probes o modelId before ≤ 1

end Probes

/-- After one more call, the latest check of the model has no outcome. -/
def noteWaiting (modelId : String) (waiting : Bool) : Time × Call → Bool
  | (_, .canAttempt id) => waiting || id = modelId
  | (_, .recordFailure id _ _) => waiting && id ≠ modelId
  | (_, .recordSuccess id) => waiting && id ≠ modelId
  | (_, .reset id) => waiting && id ≠ modelId
  | (_, .resetAll) => false
  | _ => waiting

/-- The model has been checked since its last outcome. -/
def Waiting (modelId : String) (calls : List (Time × Call)) : Prop :=
  calls.foldl (noteWaiting modelId) false = true

/-- Nobody checks a half-open circuit while the outcome of an earlier check is out. -/
def Orderly (o : CircuitBreakerOptions) (modelId : String) (calls : List (Time × Call)) : Prop :=
  ∀ before now after, calls = before ++ (now, .canAttempt modelId) :: after →
    HalfOpenIn (run o {} before).2 modelId → ¬Waiting modelId before

variable {o : CircuitBreakerOptions} {now : Time} {c : Call} {modelId : String} {s : Session} {n : ℕ}
  {calls : List (Time × Call)}

/-! ## One model -/

/-- The tally is half open. -/
def HalfOpenTally (t : Option Tally) : Prop := ∃ r, t = some r ∧ r.state = .halfOpen

theorem halfOpenIn_iff : HalfOpenIn s modelId ↔ HalfOpenTally (tally s modelId) := by
  unfold HalfOpenIn HalfOpenTally tally
  cases s.breaker.records.get modelId with
  | none => simp
  | some r => simp [forget, ModelFailureRecord.map]

/-- The state that a check answers with is the state that it leaves. -/
theorem state_answer {A : Type} (o : CircuitBreakerOptions) (now : Time) (r : ModelFailureRecord A)
    (last : Option String) :
    (r.check o now last).1.state = (r.check o now last).2.state ∧
      ((r.check o now last).2.state ≠ .opened → (r.check o now last).1.allowed = true) := by
  unfold check
  split
  · next hs => exact ⟨hs.symm, fun _ => rfl⟩
  · next hs => exact ⟨hs.symm, fun _ => rfl⟩
  · next hs =>
    split_ifs
    · exact ⟨rfl, fun _ => rfl⟩
    · exact ⟨hs.symm, fun h => absurd hs h⟩

/-- A check counts as an attempt if it leaves the circuit half open. -/
theorem admitted_iff : ((canAttempt o now modelId s.breaker).1.allowed = true ∧
      (canAttempt o now modelId s.breaker).1.state = .halfOpen) ↔
    HalfOpenTally (stepTally o now modelId (tally s modelId) (.canAttempt modelId)) := by
  rw [← tally_step (c := .canAttempt modelId) now modelId fun _ => Call.noConfusion, ← halfOpenIn_iff]
  unfold HalfOpenIn
  simp only [step, canAttempt]
  cases hget : s.breaker.records.get modelId with
  | none => simp [hget]
  | some r =>
    simp only [Js.JsMap.get_set_self, Option.some.injEq, exists_eq_left']
    set cleaned := r.cleanExpiredFailures o now s.breaker.heap.allocPair.1
    set last := (s.breaker.heap.allocPair.2.read cleaned.lastFailureReasons).getLast?
    obtain ⟨hstate, hallowed⟩ := state_answer o now cleaned last
    rw [hstate]
    exact ⟨fun h => h.2, fun h => ⟨hallowed (by rw [h]; decide), h⟩⟩

theorem halfOpen_check {t : Option Tally} (h : HalfOpenTally t) :
    HalfOpenTally (stepTally o now modelId t (.canAttempt modelId)) := by
  obtain ⟨r, rfl, hs⟩ := h
  have hclean : r.cleanExpiredFailures o now ((), ()) = r :=
    cleanExpiredFailures_of_not_closed (by rw [hs]; decide)
  refine ⟨r, ?_, hs⟩
  simp only [stepTally, ↓reduceIte, Option.map_some, hclean, check_halfOpen hs]

variable (o now modelId s n) in
/-- A call checks the model, ends its attempts, or does not concern it. -/
theorem call_cases (hrestore : ∀ name, c ≠ .restore name) : c = .canAttempt modelId ∨
    (noteProbe o modelId s n now c = 0 ∧ ∀ waiting, noteWaiting modelId waiting (now, c) = false) ∨
    (noteProbe o modelId s n now c = n ∧ (∀ waiting, noteWaiting modelId waiting (now, c) = waiting) ∧
      ∀ t, stepTally o now modelId t c = t) := by
  cases c with
  | canAttempt id =>
    by_cases hid : id = modelId
    · exact .inl (hid ▸ rfl)
    · exact .inr (.inr ⟨if_neg fun h => hid h.1, fun waiting => by simp [noteWaiting, hid],
        fun t => if_neg hid⟩)
  | recordFailure id reason category =>
    by_cases hid : id = modelId
    · exact .inr (.inl ⟨if_pos hid, fun waiting => by simp [noteWaiting, hid]⟩)
    · exact .inr (.inr ⟨if_neg hid, fun waiting => by simp [noteWaiting, hid], fun t => if_neg hid⟩)
  | recordSuccess id =>
    by_cases hid : id = modelId
    · exact .inr (.inl ⟨if_pos hid, fun waiting => by simp [noteWaiting, hid]⟩)
    · exact .inr (.inr ⟨if_neg hid, fun waiting => by simp [noteWaiting, hid], fun t => if_neg hid⟩)
  | reset id =>
    by_cases hid : id = modelId
    · exact .inr (.inl ⟨if_pos hid, fun waiting => by simp [noteWaiting, hid]⟩)
    · exact .inr (.inr ⟨if_neg hid, fun waiting => by simp [noteWaiting, hid], fun t => if_neg hid⟩)
  | resetAll => exact .inr (.inl ⟨rfl, fun _ => rfl⟩)
  | restore name => exact absurd rfl (hrestore name)
  | getBlockedModels => exact .inr (.inr ⟨rfl, fun _ => rfl, fun _ => rfl⟩)
  | snapshot name => exact .inr (.inr ⟨rfl, fun _ => rfl, fun _ => rfl⟩)

/-- A half-open circuit has attempts out exactly if the model has been checked since its last
outcome, and another circuit has none. -/
structure Counted (t : Option Tally) (n : ℕ) (waiting : Bool) : Prop where
  halfOpen : HalfOpenTally t → (waiting = true ↔ 1 ≤ n)
  other : ¬HalfOpenTally t → n = 0

variable (o now modelId s n) in
theorem noteProbe_check : noteProbe o modelId s n now (.canAttempt modelId) = n ∧
      ¬HalfOpenTally (stepTally o now modelId (tally s modelId) (.canAttempt modelId)) ∨
    noteProbe o modelId s n now (.canAttempt modelId) = n + 1 ∧
      HalfOpenTally (stepTally o now modelId (tally s modelId) (.canAttempt modelId)) := by
  by_cases h : HalfOpenTally (stepTally o now modelId (tally s modelId) (.canAttempt modelId))
  · exact .inr ⟨if_pos ⟨rfl, admitted_iff.mpr h⟩, h⟩
  · exact .inl ⟨if_neg fun hc => h (admitted_iff.mp hc.2), h⟩

theorem counted_step {waiting : Bool} (hrestore : ∀ name, c ≠ .restore name)
    (h : Counted (tally s modelId) n waiting) :
    Counted (stepTally o now modelId (tally s modelId) c) (noteProbe o modelId s n now c)
      (noteWaiting modelId waiting (now, c)) := by
  rcases call_cases o now modelId s n hrestore with
    rfl | ⟨hn, hw⟩ | ⟨hn, hw, ht⟩
  · have hwaiting : noteWaiting modelId waiting (now, .canAttempt modelId) = true := by
      simp [noteWaiting]
    rw [hwaiting]
    rcases noteProbe_check o now modelId s n with
      ⟨hn, hstate⟩ | ⟨hn, hstate⟩
    · exact ⟨fun hs => absurd hs hstate,
        fun _ => hn.trans (h.other fun hs => hstate (halfOpen_check hs))⟩
    · exact ⟨fun _ => by simp [hn], fun hs => absurd hstate hs⟩
  · rw [hn, hw]
    exact ⟨fun _ => by simp, fun _ => rfl⟩
  · rw [hn, hw, ht]
    exact h

/-! ## Histories -/

theorem probesFrom_append {calls' : List (Time × Call)} : probesFrom o modelId s n (calls ++ calls') =
    probesFrom o modelId (run o s calls).2 (probesFrom o modelId s n calls) calls' := by
  induction calls generalizing s n with
  | nil => rfl
  | cons tc calls ih => exact ih

theorem probes_append : probes o modelId (calls ++ [(now, c)]) =
    noteProbe o modelId (run o {} calls).2 (probes o modelId calls) now c := probesFrom_append

variable (o modelId) in
theorem counted_run (hno : NoRestore calls) : Counted (tally (run o {} calls).2 modelId)
    (probes o modelId calls) (calls.foldl (noteWaiting modelId) false) := by
  induction calls using List.reverseRecOn with
  | nil => exact ⟨fun ⟨_, h, _⟩ => (by cases h), fun _ => rfl⟩
  | append_singleton calls tc ih =>
    obtain ⟨now, c⟩ := tc
    rw [probes_append, tally_append hno, List.foldl_append]
    exact counted_step hno.last (ih hno.of_append)

theorem orderly_of_oneProbe (hno : NoRestore calls) (h : OneProbe o modelId calls) :
    Orderly o modelId calls := by
  intro before now after he hhalf hwaiting
  have he' : calls = (before ++ [(now, .canAttempt modelId)]) ++ after := by
    rw [he]
    simp
  have hno' : NoRestore before := by
    rw [he] at hno
    exact hno.of_append
  have hbefore : 1 ≤ probes o modelId before :=
    ((counted_run _ _ hno').halfOpen (halfOpenIn_iff.mp hhalf)).mp hwaiting
  have hafter := h _ after he'
  rw [probes_append] at hafter
  rcases noteProbe_check o now modelId (run o {} before).2 (probes o modelId before) with ⟨-, hstate⟩ | ⟨hn, -⟩
  · exact hstate (halfOpen_check (halfOpenIn_iff.mp hhalf))
  · omega

theorem oneProbe_of_orderly (hno : NoRestore calls) (h : Orderly o modelId calls) :
    OneProbe o modelId calls := by
  intro before after he
  subst he
  induction before using List.reverseRecOn generalizing after with
  | nil => exact Nat.zero_le 1
  | append_singleton before tc ih =>
    obtain ⟨now, c⟩ := tc
    have hle : probes o modelId before ≤ 1 := by
      refine ih ((now, c) :: after) ?_ ?_
      · simpa using hno
      · simpa using h
    rw [probes_append]
    rcases call_cases o now modelId (run o {} before).2 (probes o modelId before)
      hno.of_append.last with rfl | ⟨hn, -⟩ | ⟨hn, -⟩
    · -- The check is admitted only while no attempt is out.
      have hcounted := counted_run o modelId hno.of_append.of_append
      have hzero : probes o modelId before = 0 := by
        by_cases hhalf : HalfOpenTally (tally (run o {} before).2 modelId)
        · have hnot := h before now after (by simp) (halfOpenIn_iff.mpr hhalf)
          have := (hcounted.halfOpen hhalf).not.mp hnot
          omega
        · exact hcounted.other hhalf
      rcases noteProbe_check o now modelId (run o {} before).2 (probes o modelId before) with ⟨hn, -⟩ | ⟨hn, -⟩ <;> omega
    · omega
    · omega

/-- **A half-open circuit admits one attempt at a time** exactly if nobody checks it while the
outcome of an earlier check is out. -/
theorem oneProbe_iff (hno : NoRestore calls) :
    (∀ modelId, OneProbe o modelId calls) ↔ ∀ modelId, Orderly o modelId calls :=
  forall_congr' fun _ => ⟨orderly_of_oneProbe hno, oneProbe_of_orderly hno⟩

/-- One model fails, and three callers check it after the reset timeout. -/
def threeCallers : List (Time × Call) :=
  [(0, .recordFailure "m" "timeout" "timeout"), (300000, .canAttempt "m"), (300001, .canAttempt "m"),
    (300002, .canAttempt "m")]

theorem noRestore_threeCallers : NoRestore threeCallers := fun _ _ h => by simp [threeCallers] at h

/-- The law of the half-open circuit at three callers. -/
theorem oneProbe_threeCallers :
    (∀ modelId, OneProbe {} modelId threeCallers) ↔ ∀ modelId, Orderly {} modelId threeCallers :=
  oneProbe_iff noRestore_threeCallers

/-- All three callers are admitted. -/
theorem three_probes : ¬∀ (o : CircuitBreakerOptions) (calls : List (Time × Call)),
    NoRestore calls → ∀ modelId, OneProbe o modelId calls := by
  intro h
  have hone := h { failureThreshold := 1 } threeCallers noRestore_threeCallers "m" threeCallers []
    (List.append_nil _).symm
  revert hone
  decide +kernel

end Benchmarker.Breaker
