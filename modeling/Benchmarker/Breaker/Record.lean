import Benchmarker.Queue.Doc

/-!
# The failure record of a model

What the circuit breaker keeps for one model, and what each operation does with it. The record is
generic in its two arrays: the breaker holds references to them, its snapshots share them.

* `cleanExpiredFailures`, `check`: the two halves of `canAttempt`.
* `fail`, `succeed`: the state after a failure and after a success.
* `Sound`: an open circuit has an opening time, and a record has fewer successes in `HALF_OPEN` than
  close it.
-/

namespace Benchmarker.Breaker

/-- `CircuitBreakerOptions`, with every default filled in. -/
structure CircuitBreakerOptions where
  failureThreshold : ℤ := 3
  resetTimeoutMs : ℤ := 300000
  successThreshold : ℤ := 1
  failureWindowMs : ℤ := 600000

inductive CircuitState | closed | opened | halfOpen
  deriving DecidableEq, Repr

/-- `ModelFailureRecord`, with arrays of type `A`. -/
structure ModelFailureRecord (A : Type) where
  modelId : String
  failureCount : ℕ
  lastFailureAt : Time
  firstFailureAt : Time
  state : CircuitState
  openedAt : Option Time
  halfOpenSuccesses : ℕ
  lastFailureReasons : A
  failureCategories : A
  deriving DecidableEq

structure CircuitCheckResult where
  allowed : Bool
  state : CircuitState
  reason : Option String := none
  retryAfterMs : Option ℤ := none
  deriving DecidableEq

/-- `MAX_FAILURE_REASONS`. -/
def maxFailureReasons : ℕ := 5

/-- The reasons after one more: the last five. -/
def pushReason (reasons : List String) (reason : String) : List String :=
  let pushed := reasons ++ [reason]
  if pushed.length > maxFailureReasons then pushed.drop 1 else pushed

/-- The categories after one more, each once. -/
def pushCategory (categories : List String) (category : String) : List String :=
  if category ∈ categories then categories else categories ++ [category]

/-- `Math.ceil(ms / 1000)`. -/
def ceilSeconds (ms : ℤ) : ℤ := -(-ms / 1000)

namespace ModelFailureRecord

variable {A B : Type}

/-- The record that the first failure of a model creates. -/
def fresh (modelId : String) (now : Time) (arrays : A × A) : ModelFailureRecord A where
  modelId := modelId
  failureCount := 0
  lastFailureAt := now
  firstFailureAt := now
  state := .closed
  openedAt := none
  halfOpenSuccesses := 0
  lastFailureReasons := arrays.1
  failureCategories := arrays.2

/-- The two arrays. -/
def arrays (r : ModelFailureRecord A) : A × A := (r.lastFailureReasons, r.failureCategories)

/-- The record with its arrays read by `f`. -/
def map (f : A → B) (r : ModelFailureRecord A) : ModelFailureRecord B where
  modelId := r.modelId
  failureCount := r.failureCount
  lastFailureAt := r.lastFailureAt
  firstFailureAt := r.firstFailureAt
  state := r.state
  openedAt := r.openedAt
  halfOpenSuccesses := r.halfOpenSuccesses
  lastFailureReasons := f r.lastFailureReasons
  failureCategories := f r.failureCategories

section Ops

variable (o : CircuitBreakerOptions) (now : Time) (new : A × A) (r : ModelFailureRecord A)

/-- `now - (record.openedAt ?? now)`. -/
def elapsedSinceOpen : ℤ := (now : ℤ) - (r.openedAt.getD now : ℕ)

/-- `cleanExpiredFailures`, with the two arrays that it would assign. -/
def cleanExpiredFailures : ModelFailureRecord A :=
  if r.state ≠ .closed then r
  else if (now : ℤ) - (r.lastFailureAt : ℕ) > o.failureWindowMs then
    { r with
      failureCount := 0
      firstFailureAt := now
      lastFailureReasons := new.1
      failureCategories := new.2 }
  else r

/-- The text of a denial. -/
def denial (lastReason : Option String) : String :=
  "Circuit OPEN for model '" ++ r.modelId ++ "': " ++ toString r.failureCount ++
    " consecutive failures. Retry after " ++
    toString (ceilSeconds (o.resetTimeoutMs - r.elapsedSinceOpen now)) ++ "s. Last failure: " ++
    lastReason.getD "unknown"

/-- The `switch` of `canAttempt` on a record without expired failures. -/
def check (lastReason : Option String) : CircuitCheckResult × ModelFailureRecord A :=
  match r.state with
  | .closed => ({ allowed := true, state := .closed }, r)
  | .halfOpen => ({ allowed := true, state := .halfOpen }, r)
  | .opened =>
    if r.elapsedSinceOpen now ≥ o.resetTimeoutMs then
      ({ allowed := true, state := .halfOpen }, { r with state := .halfOpen, halfOpenSuccesses := 0 })
    else
      ({ allowed := false
         state := .opened
         reason := some (r.denial o now lastReason)
         retryAfterMs := some (o.resetTimeoutMs - r.elapsedSinceOpen now) }, r)

/-- One more failure, and the circuit opens if it is due. The arrays are pushed to elsewhere. -/
def fail : ModelFailureRecord A :=
  let counted := { r with failureCount := r.failureCount + 1, lastFailureAt := now }
  match r.state with
  | .halfOpen => { counted with state := .opened, openedAt := some now, halfOpenSuccesses := 0 }
  | .closed =>
    if (counted.failureCount : ℤ) ≥ o.failureThreshold then
      { counted with state := .opened, openedAt := some now }
    else counted
  | .opened => counted

/-- One more success. -/
def succeed : ModelFailureRecord A :=
  match r.state with
  | .halfOpen =>
    if ((r.halfOpenSuccesses + 1 : ℕ) : ℤ) ≥ o.successThreshold then
      { r with
        state := .closed
        failureCount := 0
        openedAt := none
        halfOpenSuccesses := 0
        lastFailureReasons := new.1
        failureCategories := new.2 }
    else { r with halfOpenSuccesses := r.halfOpenSuccesses + 1 }
  | .closed =>
    { r with failureCount := 0, lastFailureReasons := new.1, failureCategories := new.2 }
  | .opened => r

/-- `getBlockedModels` lists the record. -/
def blocked : Bool := r.state = .opened ∧ r.elapsedSinceOpen now < o.resetTimeoutMs

end Ops

variable {o : CircuitBreakerOptions} {now : Time} {new : A × A} {r : ModelFailureRecord A}
  {last : Option String}

/-! ## The model stays -/

@[simp] theorem modelId_cleanExpiredFailures :
    (r.cleanExpiredFailures o now new).modelId = r.modelId := by
  unfold cleanExpiredFailures
  split_ifs <;> rfl

@[simp] theorem modelId_check : (r.check o now last).2.modelId = r.modelId := by
  unfold check
  split
  · rfl
  · rfl
  · split_ifs <;> rfl

@[simp] theorem modelId_fail : (r.fail o now).modelId = r.modelId := by
  unfold fail
  dsimp only
  split
  · rfl
  · split_ifs <;> rfl
  · rfl

@[simp] theorem modelId_succeed : (r.succeed o new).modelId = r.modelId := by
  unfold succeed
  split
  · split_ifs <;> rfl
  · rfl
  · rfl

/-! ## The arrays -/

theorem arrays_cleanExpiredFailures : (r.cleanExpiredFailures o now new).arrays = r.arrays ∨
    (r.cleanExpiredFailures o now new).arrays = new := by
  unfold cleanExpiredFailures
  split_ifs
  · exact .inl rfl
  · exact .inr rfl
  · exact .inl rfl

@[simp] theorem arrays_check : (r.check o now last).2.arrays = r.arrays := by
  unfold check
  split
  · rfl
  · rfl
  · split_ifs <;> rfl

@[simp] theorem arrays_fail : (r.fail o now).arrays = r.arrays := by
  unfold fail
  dsimp only
  split
  · rfl
  · split_ifs <;> rfl
  · rfl

theorem arrays_succeed : (r.succeed o new).arrays = r.arrays ∨ (r.succeed o new).arrays = new := by
  unfold succeed
  split
  · split_ifs
    · exact .inr rfl
    · exact .inl rfl
  · exact .inr rfl
  · exact .inl rfl

/-! Reading the arrays commutes with the updates. -/

section Map

variable (f : A → B)

theorem map_cleanExpiredFailures : (r.cleanExpiredFailures o now new).map f =
    (r.map f).cleanExpiredFailures o now (f new.1, f new.2) := by
  unfold cleanExpiredFailures
  by_cases hs : r.state ≠ .closed
  · rw [if_pos hs, if_pos (show (r.map f).state ≠ .closed from hs)]
  · rw [if_neg hs, if_neg (show ¬(r.map f).state ≠ .closed from hs)]
    by_cases hw : (now : ℤ) - (r.lastFailureAt : ℕ) > o.failureWindowMs
    · rw [if_pos hw, if_pos (show (now : ℤ) - ((r.map f).lastFailureAt : ℕ) > _ from hw)]
      rfl
    · rw [if_neg hw, if_neg (show ¬(now : ℤ) - ((r.map f).lastFailureAt : ℕ) > _ from hw)]

variable (o now r last) in
theorem map_check : (r.check o now last).1 = ((r.map f).check o now last).1 ∧
    (r.check o now last).2.map f = ((r.map f).check o now last).2 := by
  unfold check
  rw [show (r.map f).state = r.state from rfl,
    show (r.map f).elapsedSinceOpen now = r.elapsedSinceOpen now from rfl]
  cases r.state with
  | closed => exact ⟨rfl, rfl⟩
  | halfOpen => exact ⟨rfl, rfl⟩
  | opened =>
    dsimp only
    split_ifs
    · exact ⟨rfl, rfl⟩
    · exact ⟨rfl, rfl⟩

theorem map_fail : (r.fail o now).map f = (r.map f).fail o now := by
  unfold fail
  rw [show (r.map f).state = r.state from rfl]
  cases r.state with
  | closed =>
    dsimp only
    by_cases h : ((r.failureCount + 1 : ℕ) : ℤ) ≥ o.failureThreshold
    · rw [if_pos h, if_pos (show (((r.map f).failureCount + 1 : ℕ) : ℤ) ≥ _ from h)]
      rfl
    · rw [if_neg h, if_neg (show ¬(((r.map f).failureCount + 1 : ℕ) : ℤ) ≥ _ from h)]
      rfl
  | halfOpen => rfl
  | opened => rfl

theorem map_succeed :
    (r.succeed o new).map f = (r.map f).succeed o (f new.1, f new.2) := by
  unfold succeed
  rw [show (r.map f).state = r.state from rfl]
  cases r.state with
  | closed => rfl
  | opened => rfl
  | halfOpen =>
    dsimp only
    by_cases h : ((r.halfOpenSuccesses + 1 : ℕ) : ℤ) ≥ o.successThreshold
    · rw [if_pos h, if_pos (show (((r.map f).halfOpenSuccesses + 1 : ℕ) : ℤ) ≥ _ from h)]
      rfl
    · rw [if_neg h, if_neg (show ¬(((r.map f).halfOpenSuccesses + 1 : ℕ) : ℤ) ≥ _ from h)]
      rfl

end Map

/-! ## Soundness -/

variable (o r) in
/-- An open circuit has an opening time, and it takes more successes to close a circuit. -/
structure Sound : Prop where
  openedAt : r.state = .opened → r.openedAt ≠ none
  halfOpen : (r.halfOpenSuccesses : ℤ) < o.successThreshold

theorem sound_fresh (ho : 1 ≤ o.successThreshold) {modelId : String} :
    (fresh modelId now new).Sound o :=
  ⟨fun hs => (by cases hs), by show (0 : ℤ) < o.successThreshold; omega⟩

theorem Sound.cleanExpiredFailures (h : r.Sound o) :
    (r.cleanExpiredFailures o now new).Sound o := by
  unfold ModelFailureRecord.cleanExpiredFailures
  split_ifs
  · exact h
  · exact ⟨h.openedAt, h.halfOpen⟩
  · exact h

theorem Sound.check (ho : 1 ≤ o.successThreshold) (h : r.Sound o) :
    (r.check o now last).2.Sound o := by
  unfold ModelFailureRecord.check
  split
  · exact h
  · exact h
  · split_ifs
    · exact ⟨fun hs => (by cases hs), by show (0 : ℤ) < o.successThreshold; omega⟩
    · exact h

theorem Sound.fail (ho : 1 ≤ o.successThreshold) (h : r.Sound o) : (r.fail o now).Sound o := by
  unfold ModelFailureRecord.fail
  dsimp only
  split
  · exact ⟨fun _ => Option.some_ne_none _, by show (0 : ℤ) < o.successThreshold; omega⟩
  · split_ifs
    · exact ⟨fun _ => Option.some_ne_none _, h.halfOpen⟩
    · exact ⟨h.openedAt, h.halfOpen⟩
  · exact ⟨h.openedAt, h.halfOpen⟩

theorem Sound.succeed (ho : 1 ≤ o.successThreshold) (h : r.Sound o) :
    (r.succeed o new).Sound o := by
  unfold ModelFailureRecord.succeed
  split
  · split_ifs with hlt
    · exact ⟨fun hs => (by cases hs), by show (0 : ℤ) < o.successThreshold; omega⟩
    · exact ⟨h.openedAt, by show ((r.halfOpenSuccesses + 1 : ℕ) : ℤ) < o.successThreshold; omega⟩
  · exact ⟨h.openedAt, h.halfOpen⟩
  · exact h

/-! ## Denials -/

/-- Only an open circuit is denied, and only until the reset timeout has passed. -/
theorem check_denied : (r.check o now last).1.allowed = false ↔ r.blocked o now = true := by
  unfold check blocked
  rw [decide_eq_true_iff]
  split
  · next hs => simp [hs]
  · next hs => simp [hs]
  · next hs =>
    by_cases h : r.elapsedSinceOpen now ≥ o.resetTimeoutMs
    · rw [if_pos h]
      simp only [Bool.true_eq_false, hs, true_and, false_iff]
      omega
    · rw [if_neg h]
      simp only [hs, true_and, true_iff]
      omega

theorem cleanExpiredFailures_of_not_closed (h : r.state ≠ .closed) :
    r.cleanExpiredFailures o now new = r := if_pos h

/-- The expired failures of a closed circuit do not matter to a denial. -/
theorem blocked_cleanExpiredFailures :
    (r.cleanExpiredFailures o now new).blocked o now = r.blocked o now := by
  by_cases h : r.state = .closed
  · have hclean : (r.cleanExpiredFailures o now new).state = .closed := by
      unfold cleanExpiredFailures
      split_ifs <;> exact h
    simp [blocked, h, hclean]
  · rw [cleanExpiredFailures_of_not_closed h]

/-- A sound record is blocked if it is open and its reset timeout has not passed since it opened. -/
theorem blocked_iff (h : r.Sound o) : r.blocked o now = true ↔
    r.state = .opened ∧ ∃ t, r.openedAt = some t ∧ (now : ℤ) - (t : ℕ) < o.resetTimeoutMs := by
  unfold blocked
  rw [decide_eq_true_iff]
  refine and_congr_right fun hs => ?_
  obtain ⟨t, ht⟩ := Option.ne_none_iff_exists'.mp (h.openedAt hs)
  simp [elapsedSinceOpen, ht]

end ModelFailureRecord

end Benchmarker.Breaker
