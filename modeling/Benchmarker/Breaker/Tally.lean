import Benchmarker.Breaker.Circuit

/-!
# The circuit of one model

What becomes of one model's record in a session depends only on the calls that name the model, and
not on the arrays. Forgetting the arrays turns the breaker into one small automaton per model.

* `tally`, `stepTally`: the record of a model without its arrays, and what a call does to it.
* **`tally_step`**: the breaker runs this automaton, restores apart.
* `run_append`, `prefix_induction`: histories call by call.
-/

namespace Benchmarker.Breaker

open Js ModelFailureRecord

/-- A record without its arrays. -/
abbrev Tally : Type := ModelFailureRecord Unit

/-- The arrays forgotten. -/
def forget {A : Type} (r : ModelFailureRecord A) : Tally := r.map fun _ => ()

def tally (s : Session) (modelId : String) : Option Tally :=
  (s.breaker.records.get modelId).map forget

section Step

variable (o : CircuitBreakerOptions) (now : Time) (modelId : String)

/-- What a call does to the tally of a model. -/
def stepTally (t : Option Tally) : Call → Option Tally
  | .canAttempt id => if id = modelId then
      t.map fun r => ((r.cleanExpiredFailures o now ((), ())).check o now none).2 else t
  | .recordFailure id _ _ => if id = modelId then
      some ((t.getD (.fresh modelId now ((), ()))).fail o now) else t
  | .recordSuccess id => if id = modelId then t.map (·.succeed o ((), ())) else t
  | .reset id => if id = modelId then none else t
  | .resetAll => none
  | _ => t

end Step

variable {o : CircuitBreakerOptions} {now : Time} {s : Session} {c : Call} {modelId : String}
  {calls : List (Time × Call)}

/-- The last reason is only in the text of a denial. -/
theorem check_last {A : Type} {r : ModelFailureRecord A} (last last' : Option String) :
    (r.check o now last).2 = (r.check o now last').2 ∧
      (r.check o now last).1.allowed = (r.check o now last').1.allowed ∧
      (r.check o now last).1.state = (r.check o now last').1.state := by
  unfold check
  split
  · exact ⟨rfl, rfl, rfl⟩
  · exact ⟨rfl, rfl, rfl⟩
  · split_ifs <;> exact ⟨rfl, rfl, rfl⟩

theorem forget_cleanExpiredFailures {A : Type} {r : ModelFailureRecord A} {new : A × A} :
    forget (r.cleanExpiredFailures o now new) =
      (forget r).cleanExpiredFailures o now ((), ()) := map_cleanExpiredFailures _

theorem forget_check {A : Type} {r : ModelFailureRecord A} {last : Option String} :
    forget (r.check o now last).2 = ((forget r).check o now none).2 :=
  (map_check _ _ _ _ _).2.trans (check_last last none).1

theorem forget_fail {A : Type} {r : ModelFailureRecord A} :
    forget (r.fail o now) = (forget r).fail o now := map_fail _

theorem forget_succeed {A : Type} {r : ModelFailureRecord A} {new : A × A} :
    forget (r.succeed o new) = (forget r).succeed o ((), ()) := map_succeed _

theorem forget_recordOf {b : CircuitBreaker} : forget (recordOf now modelId b).1 =
    ((b.records.get modelId).map forget).getD (.fresh modelId now ((), ())) := by
  unfold recordOf
  cases b.records.get modelId <;> rfl

variable (now modelId) in
/-- **The breaker runs one automaton for each model.** -/
theorem tally_step (hc : ∀ name, c ≠ .restore name) :
    tally (step o s now c).2 modelId = stepTally o now modelId (tally s modelId) c := by
  unfold tally
  cases c with
  | canAttempt id =>
    simp only [step, stepTally, canAttempt]
    cases hget : s.breaker.records.get id with
    | none =>
      by_cases hid : id = modelId
      · subst hid
        simp [hget]
      · simp [hid]
    | some r =>
      dsimp only
      rw [JsMap.get_set]
      by_cases hid : id = modelId
      · subst hid
        simp only [↓reduceIte, hget, Option.map_some, forget_check, forget_cleanExpiredFailures]
      · simp only [if_neg hid]
  | recordFailure id reason category =>
    simp only [step, stepTally, recordFailure, JsMap.get_set]
    by_cases hid : id = modelId
    · subst hid
      simp only [↓reduceIte, Option.map_some, forget_fail, forget_recordOf]
    · simp only [if_neg hid]
  | recordSuccess id =>
    simp only [step, stepTally, recordSuccess]
    cases hget : s.breaker.records.get id with
    | none =>
      by_cases hid : id = modelId
      · subst hid
        simp [hget]
      · simp [hid]
    | some r =>
      dsimp only
      rw [JsMap.get_set]
      by_cases hid : id = modelId
      · subst hid
        simp only [↓reduceIte, hget, Option.map_some, forget_succeed]
      · simp only [if_neg hid]
  | getBlockedModels => rfl
  | reset id =>
    simp only [step, stepTally, reset, JsMap.get_delete]
    by_cases hid : id = modelId
    · simp [hid]
    · simp [hid]
  | resetAll => rfl
  | snapshot name => rfl
  | restore name => exact absurd rfl (hc name)

/-! ## Histories -/

theorem run_append {calls' : List (Time × Call)} :
    (run o s (calls ++ calls')).2 = (run o (run o s calls).2 calls').2 := by
  induction calls generalizing s with
  | nil => rfl
  | cons tc calls ih => exact ih

/-- No snapshot is restored. -/
def NoRestore (calls : List (Time × Call)) : Prop := ∀ now name, (now, .restore name) ∉ calls

theorem NoRestore.of_append {calls' : List (Time × Call)} (h : NoRestore (calls ++ calls')) :
    NoRestore calls := fun now name hmem => h now name (List.mem_append_left _ hmem)

theorem NoRestore.last (h : NoRestore (calls ++ [(now, c)])) (name : String) :
    c ≠ .restore name := fun e => h now name (by simp [e])

/-- The tally after one more call. -/
theorem tally_append (h : NoRestore (calls ++ [(now, c)])) :
    tally (run o {} (calls ++ [(now, c)])).2 modelId =
      stepTally o now modelId (tally (run o {} calls).2 modelId) c := by
  rw [run_append]
  exact tally_step _ _ h.last

theorem tally_start : tally ({} : Session) modelId = none := rfl

/-! ## The updates of a tally -/

section Updates

variable {r : Tally}

theorem check_closed (h : r.state = .closed) : (r.check o now none).2 = r := by
  simp [check, h]

theorem check_halfOpen (h : r.state = .halfOpen) : (r.check o now none).2 = r := by
  simp [check, h]

variable (o now r) in
theorem state_cleanExpiredFailures :
    (r.cleanExpiredFailures o now ((), ())).state = r.state := by
  unfold cleanExpiredFailures
  split_ifs <;> rfl

variable (o now r) in
/-- A check leaves a circuit as it is, or makes an open one half open. -/
theorem state_check : (r.check o now none).2.state = r.state ∨
    r.state = .opened ∧ (r.check o now none).2.state = .halfOpen := by
  unfold check
  split
  · exact .inl rfl
  · exact .inl rfl
  · next hs =>
    split_ifs
    · exact .inr ⟨hs, rfl⟩
    · exact .inl rfl

variable (o now) in
theorem fail_closed (h : r.state = .closed) : (r.fail o now).failureCount = r.failureCount + 1 ∧
    (r.fail o now).lastFailureAt = now ∧
    (((r.failureCount + 1 : ℕ) : ℤ) < o.failureThreshold ∧ (r.fail o now).state = .closed ∨
      o.failureThreshold ≤ ((r.failureCount + 1 : ℕ) : ℤ) ∧ (r.fail o now).state = .opened) := by
  simp only [fail, h]
  by_cases hdue : ((r.failureCount + 1 : ℕ) : ℤ) ≥ o.failureThreshold
  · rw [if_pos hdue]
    exact ⟨rfl, rfl, .inr ⟨hdue, rfl⟩⟩
  · rw [if_neg hdue]
    exact ⟨rfl, rfl, .inl ⟨Int.not_le.mp hdue, rfl⟩⟩

/-- A failure closes no circuit. -/
theorem state_fail (h : r.state ≠ .closed) : (r.fail o now).state = .opened := by
  cases hs : r.state with
  | closed => exact absurd hs h
  | halfOpen => simp [fail, hs]
  | opened => simp [fail, hs]

/-- A closed circuit after a success has no failures. -/
theorem succeed_closed (h : (r.succeed o ((), ())).state = .closed) :
    (r.succeed o ((), ())).failureCount = 0 := by
  revert h
  unfold succeed
  split
  · next hs =>
    split_ifs
    · exact fun _ => rfl
    · intro h
      rw [show r.state = .closed from h] at hs
      cases hs
  · exact fun _ => rfl
  · next hs =>
    intro h
    rw [h] at hs
    cases hs

end Updates

end Benchmarker.Breaker
