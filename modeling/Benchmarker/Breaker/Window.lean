import Benchmarker.Breaker.Tally

/-!
# The failure window

Failures expire after `failureWindowMs`, but only `canAttempt` forgets them: a failure that is
recorded before the next check is counted on top of the expired ones.

* `recentFailures`, `windowRun`: the failures of a model since its last success, and how many of the
  latest lie within the window of each other.
* `Timely`: no failure is recorded on a closed circuit that still counts an expired one.
* **`window_iff`**: the breaker keeps the window exactly in the histories whose failures are timely.
-/

namespace Benchmarker.Breaker

open ModelFailureRecord

/-! ## The window -/

/-- The times of a model's failures after one more call, newest first; a success forgets them. -/
def noteOutcome (modelId : String) (failures : List Time) : Time × Call → List Time
  | (now, .recordFailure id _ _) => if id = modelId then now :: failures else failures
  | (_, .recordSuccess id) => if id = modelId then [] else failures
  | _ => failures

/-- The times of the model's failures since its last success, newest first. -/
def recentFailures (modelId : String) (calls : List (Time × Call)) : List Time :=
  calls.foldl (noteOutcome modelId) []

/-- How many of the latest failures were no more than the window after the one before. -/
def windowRun (window : ℤ) : List Time → ℕ
  | [] => 0
  | [_] => 1
  | t :: t' :: ts => if (t : ℤ) - (t' : ℕ) ≤ window then windowRun window (t' :: ts) + 1 else 1

/-- The circuit of a model is closed: it has no record, or a closed one. -/
def ClosedIn (s : Session) (modelId : String) : Prop :=
  ∀ r, s.breaker.records.get modelId = some r → r.state = .closed

section Law

variable (o : CircuitBreakerOptions) (calls : List (Time × Call))

/-- What the window promises of a history: a closed circuit counts no expired failure, and it opens
only for failures within the window. -/
structure WindowKept : Prop where
  counted : ∀ before after, calls = before ++ after → ∀ modelId r,
    (run o {} before).2.breaker.records.get modelId = some r → r.state = .closed →
    r.failureCount ≤ windowRun o.failureWindowMs (recentFailures modelId before)
  opens : ∀ before now c after, calls = before ++ (now, c) :: after → ∀ modelId r,
    ClosedIn (run o {} before).2 modelId →
    (run o {} (before ++ [(now, c)])).2.breaker.records.get modelId = some r → r.state = .opened →
    o.failureThreshold ≤
      windowRun o.failureWindowMs (recentFailures modelId (before ++ [(now, c)]))

/-- No failure is recorded on a closed circuit that counts an expired one. -/
def Timely : Prop :=
  ∀ (before : List (Time × Call)) (now : Time) (modelId reason category : String)
    (after : List (Time × Call)),
    calls = before ++ (now, .recordFailure modelId reason category) :: after →
    ∀ r, (run o {} before).2.breaker.records.get modelId = some r → r.state = .closed →
      r.failureCount = 0 ∨ (now : ℤ) - (r.lastFailureAt : ℕ) ≤ o.failureWindowMs

end Law

variable {o : CircuitBreakerOptions} {now : Time} {c : Call} {modelId : String}
  {calls : List (Time × Call)} {failures : List Time} {window : ℤ}

theorem recentFailures_append : recentFailures modelId (calls ++ [(now, c)]) =
    noteOutcome modelId (recentFailures modelId calls) (now, c) := by
  rw [recentFailures, List.foldl_append]
  rfl

theorem noteOutcome_failure {reason category : String} :
    noteOutcome modelId failures (now, .recordFailure modelId reason category) = now :: failures :=
  if_pos rfl

theorem windowRun_pos {t : Time} : 1 ≤ windowRun window (t :: failures) := by
  cases failures with
  | nil => exact le_rfl
  | cons t' ts =>
    unfold windowRun
    split_ifs
    · exact Nat.le_add_left 1 _
    · exact le_rfl

theorem windowRun_of_le {t t' : Time} (h : (t : ℤ) - (t' : ℕ) ≤ window) :
    windowRun window (t :: t' :: failures) = windowRun window (t' :: failures) + 1 := if_pos h

theorem windowRun_of_lt {t t' : Time} (h : window < (t : ℤ) - (t' : ℕ)) :
    windowRun window (t :: t' :: failures) = 1 := if_neg (Int.not_le.mpr h)

/-! ## One model -/

/-- A closed circuit that counts failures has not enough of them, and remembers the last one. -/
def Remembers (o : CircuitBreakerOptions) (failures : List Time) (t : Option Tally) : Prop :=
  ∀ r, t = some r → r.state = .closed → 1 ≤ r.failureCount →
    (r.failureCount : ℤ) < o.failureThreshold ∧ ∃ rest, failures = r.lastFailureAt :: rest

/-- A closed circuit counts only failures within the window. -/
def Within (o : CircuitBreakerOptions) (failures : List Time) (t : Option Tally) : Prop :=
  ∀ r, t = some r → r.state = .closed → r.failureCount ≤ windowRun o.failureWindowMs failures

/-- A call that records no failure of the model leaves a closed circuit as it was, with its failures
remembered, or counting none. -/
theorem stepTally_quiet {t : Option Tally} {r : Tally} (failures : List Time) (hrestore : ∀ name, c ≠ .restore name)
    (hquiet : ∀ reason category, c ≠ .recordFailure modelId reason category)
    (hr : stepTally o now modelId t c = some r) (hclosed : r.state = .closed) :
    r.failureCount = 0 ∨ t = some r ∧ noteOutcome modelId failures (now, c) = failures := by
  cases c with
  | canAttempt id =>
    simp only [stepTally] at hr
    split_ifs at hr with hid
    · obtain ⟨r₀, rfl, rfl⟩ := Option.map_eq_some_iff.mp hr
      set cleaned := r₀.cleanExpiredFailures o now ((), ()) with hcleaned
      have hsame : cleaned.state = .closed := by
        rcases state_check o now cleaned with h | ⟨-, h⟩
        · rw [← h]
          exact hclosed
        · rw [h] at hclosed
          cases hclosed
      rw [check_closed hsame, hcleaned]
      unfold cleanExpiredFailures
      split_ifs
      · exact .inr ⟨rfl, rfl⟩
      · exact .inl rfl
      · exact .inr ⟨rfl, rfl⟩
    · exact .inr ⟨hr, rfl⟩
  | recordFailure id reason category =>
    have hid : ¬id = modelId := fun e => hquiet reason category (e ▸ rfl)
    simp only [stepTally, if_neg hid] at hr
    exact .inr ⟨hr, if_neg hid⟩
  | recordSuccess id =>
    simp only [stepTally] at hr
    split_ifs at hr with hid
    · obtain ⟨r₀, rfl, rfl⟩ := Option.map_eq_some_iff.mp hr
      exact .inl (succeed_closed hclosed)
    · exact .inr ⟨hr, if_neg hid⟩
  | reset id =>
    simp only [stepTally] at hr
    split_ifs at hr
    exact .inr ⟨hr, rfl⟩
  | resetAll => cases hr
  | restore name => exact absurd rfl (hrestore name)
  | getBlockedModels => exact .inr ⟨hr, rfl⟩
  | snapshot name => exact .inr ⟨hr, rfl⟩

/-- The tally that a failure is counted on. -/
theorem stepTally_failure {t : Option Tally} {r : Tally} {reason category : String}
    (hr : stepTally o now modelId t (.recordFailure modelId reason category) = some r) :
    r = (t.getD (.fresh modelId now ((), ()))).fail o now := by
  simp only [stepTally, ↓reduceIte, Option.some.injEq] at hr
  exact hr.symm

theorem remembers_step {t : Option Tally} (hrestore : ∀ name, c ≠ .restore name)
    (h : Remembers o failures t) :
    Remembers o (noteOutcome modelId failures (now, c)) (stepTally o now modelId t c) := by
  intro r hr hclosed hcount
  by_cases hfail : ∃ reason category, c = .recordFailure modelId reason category
  · obtain ⟨reason, category, rfl⟩ := hfail
    rw [stepTally_failure hr] at hclosed ⊢
    set r₀ := t.getD (.fresh modelId now ((), ()))
    have hs : r₀.state = .closed := by
      by_contra hne
      rw [state_fail hne] at hclosed
      cases hclosed
    obtain ⟨hnew, hlast, hdue⟩ := fail_closed o now hs
    refine ⟨?_, failures, ?_⟩
    · rcases hdue with hdue | ⟨-, hopen⟩
      · rw [hnew]
        exact hdue.1
      · rw [hopen] at hclosed
        cases hclosed
    · rw [hlast]
      exact if_pos rfl
  · rcases stepTally_quiet failures hrestore (fun a b e => hfail ⟨a, b, e⟩) hr hclosed with
      hzero | ⟨ht, hnote⟩
    · omega
    · rw [hnote]
      exact h r ht hclosed hcount

theorem remembers_run (hno : NoRestore calls) :
    Remembers o (recentFailures modelId calls) (tally (run o {} calls).2 modelId) := by
  induction calls using List.reverseRecOn with
  | nil => exact fun r hr => (by cases hr)
  | append_singleton calls tc ih =>
    obtain ⟨now, c⟩ := tc
    rw [recentFailures_append, tally_append hno]
    exact remembers_step hno.last (ih hno.of_append)

/-- A timely failure leaves the count of a closed circuit within the window. -/
theorem count_le_of_timely {r : Tally} (hclosed : r.state = .closed)
    (hwithin : r.failureCount ≤ windowRun o.failureWindowMs failures)
    (hmem : 1 ≤ r.failureCount → ∃ rest, failures = r.lastFailureAt :: rest)
    (htimely : r.failureCount = 0 ∨ (now : ℤ) - (r.lastFailureAt : ℕ) ≤ o.failureWindowMs) :
    (r.fail o now).failureCount ≤ windowRun o.failureWindowMs (now :: failures) := by
  rw [(fail_closed _ _ hclosed).1]
  by_cases hzero : r.failureCount = 0
  · rw [hzero]
    exact windowRun_pos
  · obtain ⟨rest, rfl⟩ := hmem (by omega)
    rw [windowRun_of_le (htimely.resolve_left hzero)]
    omega

/-- A closed circuit opens only by a failure that reaches the threshold. -/
theorem stepTally_opens {t : Option Tally} {r : Tally} (hrestore : ∀ name, c ≠ .restore name)
    (ht : ∀ r, t = some r → r.state = .closed) (hr : stepTally o now modelId t c = some r)
    (hopen : r.state = .opened) :
    ∃ reason category, c = .recordFailure modelId reason category ∧
      o.failureThreshold ≤ (r.failureCount : ℕ) := by
  have hstuck : t = some r → False := fun h => by
    rw [ht r h] at hopen
    cases hopen
  cases c with
  | recordFailure id reason category =>
    by_cases hid : id = modelId
    · subst hid
      refine ⟨reason, category, rfl, ?_⟩
      rw [stepTally_failure hr] at hopen ⊢
      set r₀ := t.getD (.fresh id now ((), ())) with hr₀
      have hs : r₀.state = .closed := by
        cases t with
        | none => rfl
        | some r₁ => exact ht r₁ rfl
      obtain ⟨hnew, -, hdue⟩ := fail_closed o now hs
      rcases hdue with ⟨-, hclosed⟩ | ⟨hdue, -⟩
      · rw [hclosed] at hopen
        cases hopen
      · rw [hnew]
        exact hdue
    · simp only [stepTally, if_neg hid] at hr
      exact (hstuck hr).elim
  | canAttempt id =>
    simp only [stepTally] at hr
    split_ifs at hr
    · obtain ⟨r₀, h₀, rfl⟩ := Option.map_eq_some_iff.mp hr
      have hclean := state_cleanExpiredFailures o now r₀
      rcases state_check o now (r₀.cleanExpiredFailures o now ((), ())) with
        h | ⟨h, -⟩
      · rw [h, hclean, ht r₀ h₀] at hopen
        cases hopen
      · rw [hclean, ht r₀ h₀] at h
        cases h
    · exact (hstuck hr).elim
  | recordSuccess id =>
    simp only [stepTally] at hr
    split_ifs at hr
    · obtain ⟨r₀, h₀, rfl⟩ := Option.map_eq_some_iff.mp hr
      simp [succeed, ht r₀ h₀] at hopen
    · exact (hstuck hr).elim
  | reset id =>
    simp only [stepTally] at hr
    split_ifs at hr
    exact (hstuck hr).elim
  | resetAll => cases hr
  | restore name => exact absurd rfl (hrestore name)
  | getBlockedModels => exact (hstuck hr).elim
  | snapshot name => exact (hstuck hr).elim

/-- A failure of the model, if there is one, is timely. -/
def TimelyCall (o : CircuitBreakerOptions) (modelId : String) (t : Option Tally) (now : Time)
    (c : Call) : Prop :=
  ∀ reason category, c = .recordFailure modelId reason category → ∀ r, t = some r →
    r.state = .closed → r.failureCount = 0 ∨ (now : ℤ) - (r.lastFailureAt : ℕ) ≤ o.failureWindowMs

/-- The count after a failure on a closed circuit. -/
theorem count_le_step {t : Option Tally} {reason category : String}
    (hrem : Remembers o failures t) (hwithin : Within o failures t)
    (htimely : TimelyCall o modelId t now (.recordFailure modelId reason category))
    (ht : ∀ r, t = some r → r.state = .closed) :
    ((t.getD (.fresh modelId now ((), ()))).fail o now).failureCount ≤
      windowRun o.failureWindowMs (now :: failures) := by
  cases t with
  | none => exact count_le_of_timely rfl (Nat.zero_le _) (fun h => by cases h) (.inl rfl)
  | some r =>
    exact count_le_of_timely (ht r rfl) (hwithin r rfl (ht r rfl))
      (fun h => (hrem r rfl (ht r rfl) h).2) (htimely reason category rfl r rfl (ht r rfl))

theorem within_step {t : Option Tally} (hrestore : ∀ name, c ≠ .restore name)
    (hrem : Remembers o failures t) (hwithin : Within o failures t)
    (htimely : TimelyCall o modelId t now c) :
    Within o (noteOutcome modelId failures (now, c)) (stepTally o now modelId t c) := by
  intro r hr hclosed
  by_cases hfail : ∃ reason category, c = .recordFailure modelId reason category
  · obtain ⟨reason, category, rfl⟩ := hfail
    have hstate : ∀ r₀, t = some r₀ → r₀.state = .closed := by
      rintro r₀ rfl
      by_contra hne
      rw [stepTally_failure hr] at hclosed
      rw [show ((some r₀).getD (fresh modelId now ((), ())) |>.fail o now).state = .opened from
        state_fail hne] at hclosed
      cases hclosed
    rw [stepTally_failure hr, noteOutcome_failure]
    exact count_le_step hrem hwithin htimely hstate
  · rcases stepTally_quiet failures hrestore (fun a b e => hfail ⟨a, b, e⟩) hr
      hclosed with hzero | ⟨ht, hnote⟩
    · omega
    · rw [hnote]
      exact hwithin r ht hclosed

/-! ## Histories -/

/-- The record of a model in a session, and its tally. -/
theorem tally_eq_some {s : Session} {t : Tally} (h : tally s modelId = some t) :
    ∃ r, s.breaker.records.get modelId = some r ∧ forget r = t := Option.map_eq_some_iff.mp h

theorem Timely.of_append {calls' : List (Time × Call)} (h : Timely o (calls ++ calls')) :
    Timely o calls := fun before now id reason category after he =>
  h before now id reason category (after ++ calls') (by rw [he]; simp)

theorem Timely.last (h : Timely o (calls ++ [(now, c)])) :
    TimelyCall o modelId (tally (run o {} calls).2 modelId) now c := by
  rintro reason category rfl t ht hclosed
  obtain ⟨r, hr, rfl⟩ := tally_eq_some ht
  exact h calls now modelId reason category [] rfl r hr hclosed

theorem within_run (hno : NoRestore calls) (htimely : Timely o calls) :
    Within o (recentFailures modelId calls) (tally (run o {} calls).2 modelId) := by
  induction calls using List.reverseRecOn with
  | nil => exact fun r hr => (by cases hr)
  | append_singleton calls tc ih =>
    obtain ⟨now, c⟩ := tc
    rw [recentFailures_append, tally_append hno]
    exact within_step hno.last (remembers_run hno.of_append)
      (ih hno.of_append htimely.of_append) htimely.last

theorem tally_of_get {s : Session} {r : Record} (h : s.breaker.records.get modelId = some r) :
    tally s modelId = some (forget r) := by
  rw [tally, h]
  rfl

theorem windowKept_of_timely (hno : NoRestore calls) (htimely : Timely o calls) :
    WindowKept o calls := by
  refine ⟨fun before after he id r hr hclosed => ?_, fun before now c after he id r hbefore hr hopen => ?_⟩
  · subst he
    exact within_run hno.of_append htimely.of_append _ (tally_of_get hr) hclosed
  · rw [show before ++ (now, c) :: after = (before ++ [(now, c)]) ++ after by simp] at he
    subst he
    have hno' := hno.of_append
    have htimely' := htimely.of_append
    have ht : ∀ t, tally (run o {} before).2 id = some t → t.state = .closed := by
      intro t ht
      obtain ⟨r₀, hr₀, rfl⟩ := tally_eq_some ht
      exact hbefore r₀ hr₀
    have hstep := tally_of_get hr
    rw [tally_append hno'] at hstep
    obtain ⟨reason, category, rfl, hdue⟩ := stepTally_opens hno'.last ht hstep hopen
    have hcount : (forget r).failureCount ≤ windowRun o.failureWindowMs
        (recentFailures id (before ++ [(now, .recordFailure id reason category)])) := by
      rw [recentFailures_append, stepTally_failure hstep, noteOutcome_failure]
      exact count_le_step (remembers_run hno'.of_append) (within_run hno'.of_append htimely'.of_append)
        htimely'.last ht
    omega

theorem timely_of_windowKept (hno : NoRestore calls) (h : WindowKept o calls) : Timely o calls := by
  intro before now id reason category after he r hr hclosed
  by_contra hlate
  rw [not_or, Int.not_le] at hlate
  have he' : calls = (before ++ [(now, .recordFailure id reason category)]) ++ after := by
    rw [he]
    simp
  have hno' : NoRestore (before ++ [(now, .recordFailure id reason category)]) := by
    rw [he'] at hno
    exact hno.of_append
  obtain ⟨hfew, rest, hrest⟩ := remembers_run hno'.of_append _ (tally_of_get hr) hclosed
    (Nat.one_le_iff_ne_zero.mpr hlate.1)
  -- Only the new failure is in the window, and the circuit counts the old ones too.
  have hrun : windowRun o.failureWindowMs
      (recentFailures id (before ++ [(now, .recordFailure id reason category)])) = 1 := by
    rw [recentFailures_append, hrest, noteOutcome_failure]
    exact windowRun_of_lt hlate.2
  have hstep : tally (run o {} (before ++ [(now, .recordFailure id reason category)])).2 id =
      some ((forget r).fail o now) := by
    rw [tally_append hno', tally_of_get hr]
    simp [stepTally]
  obtain ⟨r', hr', hforget⟩ := tally_eq_some hstep
  obtain ⟨hnew, -, hdue⟩ := fail_closed (r := forget r) o now hclosed
  have hcount : r'.failureCount = r.failureCount + 1 := by
    rw [← hforget] at hnew
    exact hnew
  rcases hdue with ⟨-, hstate⟩ | ⟨hdue, hstate⟩
  · rw [← hforget] at hstate
    have := h.counted _ after he' id r' hr' hstate
    omega
  · rw [← hforget] at hstate
    have hclosedIn : ClosedIn (run o {} before).2 id := by
      intro r₀ hr₀
      rw [hr] at hr₀
      cases hr₀
      exact hclosed
    have := h.opens before now _ after he id r' hclosedIn hr' hstate
    have hfew' : ((r.failureCount : ℕ) : ℤ) < o.failureThreshold := hfew
    omega

/-- **The window is kept** exactly in the histories whose failures are timely. -/
theorem window_iff (hno : NoRestore calls) : WindowKept o calls ↔ Timely o calls :=
  ⟨timely_of_windowKept hno, windowKept_of_timely hno⟩

/-- Two failures in a row, far apart. -/
def farApart : List (Time × Call) :=
  [(0, .recordFailure "m" "timeout" "timeout"), (700000, .recordFailure "m" "timeout" "timeout")]

theorem noRestore_farApart : NoRestore farApart := fun _ _ h => by simp [farApart] at h

/-- The law of the window at a history whose second failure is late. -/
theorem window_farApart : WindowKept {} farApart ↔ Timely {} farApart :=
  window_iff noRestore_farApart

/-- Two failures open a circuit although the first has expired, since no check came between. -/
theorem expired_counted : ¬∀ (o : CircuitBreakerOptions) (calls : List (Time × Call)),
    NoRestore calls → WindowKept o calls := by
  intro h
  have hkept := h { failureThreshold := 2 } farApart noRestore_farApart
  have hclosed : ClosedIn (run { failureThreshold := 2 } {}
      [(0, .recordFailure "m" "timeout" "timeout")]).2 "m" := by
    intro r hr
    cases hr
    rfl
  exact absurd (hkept.opens [(0, .recordFailure "m" "timeout" "timeout")] 700000
    (.recordFailure "m" "timeout" "timeout") [] rfl "m" _ hclosed rfl rfl) (by decide)

end Benchmarker.Breaker
