import Benchmarker.Async.Vars

/-!
# A program on a timer

A timer starts a program again and again, one run at a time, from the variables that the last run left.
A stop ends the timer and lets the run that is under way go on. What happens is a log: the requests in the
order in which they are issued, their answers, and the stop.

* `Item`, `Monitor`: what a log shows; a monitor keeps a state of the log, says which requests may be
  issued and which answers and stops are admitted.
* `Keeps T Post p`: whatever admitted answers and stops come, `p` issues only what `T` allows and ends in
  `Post`. **`keeps_bind`**, `keepsFrom_bind`: it composes.
* `Timed`, `Timed.Step`, `Timed.Reach`: the runs. **`Reach.inv`**: every issued request is allowed.
* `Timed.replay`: the run along given happenings.
-/

namespace Async

open Prog

variable {Op : Type} {Ans : Op → Type} {σ W M α β ε : Type}

/-- What a log shows: a request when it is issued, its answer with the world that it tells of, and the
stop of the timer. -/
inductive Item {Op : Type} (Ans : Op → Type) (W : Type) : Type
  | issue (o : Op)
  | answer (o : Op) (r : Ans o) (w : W)
  | stop

/-- A state that follows a log, the requests that may be issued in it, and the answers and stops that
are admitted in it. -/
structure Monitor {Op : Type} (Ans : Op → Type) (W M : Type) where
  init : M
  step : M → Item Ans W → M
  allows : M → Op → Prop
  answers : M → (o : Op) → Ans o → W → Prop
  stops : M → Prop

namespace Monitor

variable (T : Monitor Ans W M)

/-- The state after a log. -/
def after (log : List (Item Ans W)) : M := log.foldl T.step T.init

@[simp] theorem after_nil : T.after [] = T.init := rfl

@[simp] theorem after_snoc (log : List (Item Ans W)) (i : Item Ans W) :
    T.after (log ++ [i]) = T.step (T.after log) i := by
  rw [after, List.foldl_append]
  rfl

/-- Admitted stops lead from a state to a later one. -/
inductive Waits : M → M → Prop
  | refl (m : M) : Waits m m
  | stop {m m' : M} : Waits m m' → T.stops m' → Waits m (T.step m' .stop)

/-- Every answer and every stop of the log is admitted. -/
def Admits (log : List (Item Ans W)) : Prop :=
  (∀ xs o r w ys, log = xs ++ .answer o r w :: ys → T.answers (T.after xs) o r w) ∧
    ∀ xs ys, log = xs ++ .stop :: ys → T.stops (T.after xs)

/-- The same, going through the rest of a log from a state. -/
def AdmitsFrom : M → List (Item Ans W) → Prop
  | _, [] => True
  | m, .answer o r w :: log => T.answers m o r w ∧ AdmitsFrom (T.step m (.answer o r w)) log
  | m, .stop :: log => T.stops m ∧ AdmitsFrom (T.step m .stop) log
  | m, .issue o :: log => AdmitsFrom (T.step m (.issue o)) log

/-- Every request of the log is allowed. -/
def Allowed (log : List (Item Ans W)) : Prop :=
  ∀ xs o ys, log = xs ++ .issue o :: ys → T.allows (T.after xs) o

variable {T} {log : List (Item Ans W)} {i : Item Ans W}

/-- The items before the last one of a log, or the log without it. -/
theorem snoc_cases {xs ys : List (Item Ans W)} {i' : Item Ans W} (h : log ++ [i] = xs ++ i' :: ys) :
    (xs = log ∧ i' = i ∧ ys = []) ∨ ∃ zs, ys = zs ++ [i] ∧ log = xs ++ i' :: zs := by
  rcases List.eq_nil_or_concat ys with rfl | ⟨zs, j, rfl⟩
  · obtain ⟨rfl, hlast⟩ := List.append_inj' h rfl
    exact .inl ⟨rfl, (List.cons.inj hlast).1.symm, rfl⟩
  · rw [List.concat_eq_append, ← List.cons_append, ← List.append_assoc] at h
    obtain ⟨rfl, hlast⟩ := List.append_inj' h rfl
    obtain rfl := (List.cons.inj hlast).1
    exact .inr ⟨zs, by rw [List.concat_eq_append], rfl⟩

theorem Admits.init_of_snoc (h : T.Admits (log ++ [i])) : T.Admits log := by
  constructor
  · intro xs o r w ys heq
    exact h.1 xs o r w (ys ++ [i]) (by rw [heq, List.append_assoc, List.cons_append])
  · intro xs ys heq
    exact h.2 xs (ys ++ [i]) (by rw [heq, List.append_assoc, List.cons_append])

theorem Admits.answer {o : Op} {r : Ans o} {w : W} (h : T.Admits (log ++ [.answer o r w])) :
    T.answers (T.after log) o r w := h.1 log o r w [] rfl

theorem Admits.stop (h : T.Admits (log ++ [.stop])) : T.stops (T.after log) := h.2 log [] rfl

theorem AdmitsFrom.of_append {m : M} {xs ys : List (Item Ans W)} (h : T.AdmitsFrom m (xs ++ ys)) :
    T.AdmitsFrom (xs.foldl T.step m) ys := by
  induction xs generalizing m with
  | nil => exact h
  | cons i xs ih =>
    cases i with
    | issue o => exact ih h
    | answer o r w => exact ih h.2
    | stop => exact ih h.2

theorem AdmitsFrom.admits (h : T.AdmitsFrom T.init log) : T.Admits log := by
  constructor
  · intro xs o r w ys heq
    rw [heq] at h
    exact h.of_append.1
  · intro xs ys heq
    rw [heq] at h
    exact h.of_append.1

theorem Allowed.issue {o : Op} (h : T.Allowed log) (ho : T.allows (T.after log) o) :
    T.Allowed (log ++ [.issue o]) := by
  intro xs o' ys heq
  rcases snoc_cases heq with ⟨rfl, hi, -⟩ | ⟨zs, -, rfl⟩
  · cases hi
    exact ho
  · exact h xs o' zs rfl

theorem Allowed.snoc (h : T.Allowed log) (hi : ∀ o, i ≠ .issue o) : T.Allowed (log ++ [i]) := by
  intro xs o ys heq
  rcases snoc_cases heq with ⟨-, hio, -⟩ | ⟨zs, -, rfl⟩
  · exact absurd hio.symm (hi o)
  · exact h xs o zs rfl

end Monitor

/-! ## Programs under a monitor -/

namespace Prog

variable {T : Monitor Ans W M} {Post Post' : M → α → Prop} {m : M}

/-- Whatever admitted answers and stops come, the program issues only what the monitor allows, and ends
in `Post`. -/
def Keeps (T : Monitor Ans W M) (Post : M → α → Prop) : Prog Ans α → M → Prop
  | ret a, m => Post m a
  | await o k, m => T.allows m o ∧ ∀ m', T.Waits (T.step m (.issue o)) m' → ∀ r w,
      T.answers m' o r w → (k r).Keeps T Post (T.step m' (.answer o r w))

@[simp] theorem keeps_ret {a : α} : (ret a : Prog Ans α).Keeps T Post m ↔ Post m a := Iff.rfl

theorem keeps_await {o : Op} {k : Ans o → Prog Ans α} : (await o k).Keeps T Post m ↔
    T.allows m o ∧ ∀ m', T.Waits (T.step m (.issue o)) m' → ∀ r w,
      T.answers m' o r w → (k r).Keeps T Post (T.step m' (.answer o r w)) := Iff.rfl

theorem Keeps.mono {p : Prog Ans α} (h : p.Keeps T Post m) (hpost : ∀ m a, Post m a → Post' m a) :
    p.Keeps T Post' m := by
  induction p generalizing m with
  | ret a => exact hpost m a h
  | await o k ih => exact ⟨h.1, fun m' hm r w hr => ih r (h.2 m' hm r w hr)⟩

theorem keeps_congr {p : Prog Ans α} (hpost : ∀ m a, Post m a ↔ Post' m a) :
    p.Keeps T Post m ↔ p.Keeps T Post' m :=
  ⟨fun h => h.mono fun m a => (hpost m a).mp, fun h => h.mono fun m a => (hpost m a).mpr⟩

/-- **What a program keeps, it keeps up to its `>>=` and after it.** -/
theorem keeps_bind {p : Prog Ans α} {f : α → Prog Ans β} {Post : M → β → Prop} :
    (p >>= f).Keeps T Post m ↔ p.Keeps T (fun m a => (f a).Keeps T Post m) m := by
  induction p generalizing m with
  | ret a => rfl
  | await o k ih =>
    rw [await_bind, keeps_await, keeps_await]
    simp only [ih]

/-- A program that issues only allowed requests keeps an assertion that every item of a log keeps. -/
theorem Uses.keeps {q : Op → Prop} {J : M → Prop} {p : Prog Ans α} (h : p.Uses q)
    (hq : ∀ m o, J m → q o → T.allows m o) (hstep : ∀ m i, J m → J (T.step m i)) (hm : J m) :
    p.Keeps T (fun m _ => J m) m := by
  induction p generalizing m with
  | ret a => exact hm
  | await o k ih =>
    refine ⟨hq m o hm h.1, fun m' hw r w _ => ih r (h.2 r) (hstep _ _ ?_)⟩
    have hlater : ∀ {m₁ m₂ : M}, T.Waits m₁ m₂ → J m₁ → J m₂ := by
      intro m₁ m₂ hw h₁
      induction hw with
      | refl => exact h₁
      | stop _ _ ih => exact hstep _ _ ih
    exact hlater hw (hstep m _ hm)

/-- `Keeps`, for a body with variables. -/
def KeepsFrom (T : Monitor Ans W M) (Post : M → Except ε α → σ → Prop)
    (x : ExceptT ε (StateT σ (Prog Ans)) α) (s : σ) (m : M) : Prop :=
  (x.run.run s).Keeps T (fun m (p : Except ε α × σ) => Post m p.1 p.2) m

section Vars

variable {x : ExceptT ε (StateT σ (Prog Ans)) α} {f : α → ExceptT ε (StateT σ (Prog Ans)) β} {s : σ}

theorem KeepsFrom.mono {Post Post' : M → Except ε α → σ → Prop} (h : KeepsFrom T Post x s m)
    (hpost : ∀ m r s, Post m r s → Post' m r s) : KeepsFrom T Post' x s m :=
  Keeps.mono h fun m p hp => hpost m p.1 p.2 hp

theorem keepsFrom_bind {Post : M → Except ε β → σ → Prop} : KeepsFrom T Post (x >>= f) s m ↔
    KeepsFrom T (fun m r s => match r with
      | .ok a => KeepsFrom T Post (f a) s m
      | .error e => Post m (.error e) s) x s m := by
  rw [KeepsFrom, run_vars_bind, keeps_bind, KeepsFrom]
  refine keeps_congr fun m p => ?_
  obtain ⟨r, s'⟩ := p
  cases r with
  | ok a => rfl
  | error e => rfl

/-- The form of `keepsFrom_bind` for a middle assertion. -/
theorem KeepsFrom.bind {Mid : M → Except ε α → σ → Prop} {Post : M → Except ε β → σ → Prop}
    (h : KeepsFrom T Mid x s m)
    (hok : ∀ m a s, Mid m (.ok a) s → KeepsFrom T Post (f a) s m)
    (herr : ∀ m e s, Mid m (.error e) s → Post m (.error e) s) : KeepsFrom T Post (x >>= f) s m := by
  refine keepsFrom_bind.mpr (h.mono fun m r s hmid => ?_)
  cases r with
  | ok a => exact hok m a s hmid
  | error e => exact herr m e s hmid

/-- The form of `keepsFrom_bind` for an assertion that every part keeps. -/
theorem KeepsFrom.then {J : M → σ → Prop} (h : KeepsFrom T (fun m _ s => J m s) x s m)
    (hf : ∀ m a s, J m s → KeepsFrom T (fun m _ s => J m s) (f a) s m) :
    KeepsFrom T (fun m _ s => J m s) (x >>= f) s m :=
  h.bind hf fun _ _ _ h => h

@[simp] theorem keepsFrom_pure {Post : M → Except ε α → σ → Prop} {a : α} :
    KeepsFrom T Post (pure a : ExceptT ε (StateT σ (Prog Ans)) α) s m ↔ Post m (.ok a) s := Iff.rfl

@[simp] theorem keepsFrom_throw {Post : M → Except ε α → σ → Prop} {e : ε} :
    KeepsFrom T Post (throw e : ExceptT ε (StateT σ (Prog Ans)) α) s m ↔ Post m (.error e) s := Iff.rfl

theorem keepsFrom_throw_bind {Post : M → Except ε β → σ → Prop} {e : ε} :
    KeepsFrom T Post ((throw e : ExceptT ε (StateT σ (Prog Ans)) α) >>= f) s m ↔ Post m (.error e) s := by
  rw [keepsFrom_bind]
  rfl

@[simp] theorem keepsFrom_get_bind {Post : M → Except ε β → σ → Prop}
    {g : σ → ExceptT ε (StateT σ (Prog Ans)) β} :
    KeepsFrom T Post (get >>= g) s m ↔ KeepsFrom T Post (g s) s m := by
  rw [keepsFrom_bind]
  rfl

@[simp] theorem keepsFrom_modify {Post : M → Except ε Unit → σ → Prop} {g : σ → σ} :
    KeepsFrom T Post (modify g : ExceptT ε (StateT σ (Prog Ans)) Unit) s m ↔ Post m (.ok ()) (g s) :=
  Iff.rfl

@[simp] theorem keepsFrom_modify_bind {Post : M → Except ε β → σ → Prop} {g : σ → σ}
    {y : Unit → ExceptT ε (StateT σ (Prog Ans)) β} :
    KeepsFrom T Post (modify g >>= y) s m ↔ KeepsFrom T Post (y ()) (g s) m := by
  rw [keepsFrom_bind]
  rfl

theorem keepsFrom_ask {o : Op} {Post : M → Except ε (Ans o) → σ → Prop} :
    KeepsFrom T Post (ask o : ExceptT ε (StateT σ (Prog Ans)) (Ans o)) s m ↔
      T.allows m o ∧ ∀ m', T.Waits (T.step m (.issue o)) m' → ∀ r w, T.answers m' o r w →
        Post (T.step m' (.answer o r w)) (.ok r) s := Iff.rfl

theorem UsesFrom.keepsFrom {q : Op → Prop} {J : M → Prop} (h : UsesFrom q x)
    (hq : ∀ m o, J m → q o → T.allows m o) (hstep : ∀ m i, J m → J (T.step m i)) (hm : J m) :
    KeepsFrom T (fun m _ _ => J m) x s m := (h s).keeps hq hstep hm

theorem KeepsFrom.run {Post : M → Except ε α → σ → Prop} (h : KeepsFrom T Post x s m) :
    (x.run.run s).Keeps T (fun m (p : Except ε α × σ) => Post m p.1 p.2) m := h

end Vars

-- A body is taken apart by the lemmas above, not by evaluating it.
attribute [irreducible] KeepsFrom

end Prog

/-! ## Runs -/

/-- The program waits for the next tick with its variables, or for the answer to a request. -/
inductive Phase {Op : Type} (Ans : Op → Type) (σ : Type) : Type
  | idle (s : σ)
  | busy (o : Op) (k : Ans o → Prog Ans σ)

/-- A timer that runs or has been stopped, the program, and the log. -/
structure Timed {Op : Type} (Ans : Op → Type) (σ W : Type) where
  live : Bool
  phase : Phase Ans σ
  log : List (Item Ans W)

namespace Timed

/-- Run a program up to its next request. -/
def settle (live : Bool) (log : List (Item Ans W)) : Prog Ans σ → Timed Ans σ W
  | .ret s => ⟨live, .idle s, log⟩
  | .await o k => ⟨live, .busy o k, log ++ [.issue o]⟩

/-- One step: a tick while nothing is under way (any other tick does nothing), an answer, a stop. -/
inductive Step (body : σ → Prog Ans σ) : Timed Ans σ W → Timed Ans σ W → Prop
  | tick (s : σ) (log : List (Item Ans W)) :
    Step body ⟨true, .idle s, log⟩ (settle true log (body s))
  | answer (live : Bool) (o : Op) (k : Ans o → Prog Ans σ) (log : List (Item Ans W)) (r : Ans o) (w : W) :
    Step body ⟨live, .busy o k, log⟩ (settle live (log ++ [.answer o r w]) (k r))
  | stop (live : Bool) (ph : Phase Ans σ) (log : List (Item Ans W)) :
    Step body ⟨live, ph, log⟩ ⟨false, ph, log ++ [.stop]⟩

/-- The configurations that are reached from a given one. -/
inductive Reach (body : σ → Prog Ans σ) (c₀ : Timed Ans σ W) : Timed Ans σ W → Prop
  | init : Reach body c₀ c₀
  | step {c c' : Timed Ans σ W} : Reach body c₀ c → Step body c c' → Reach body c₀ c'

/-- What happens to a configuration. -/
inductive Happening {Op : Type} (Ans : Op → Type) (W : Type) : Type
  | tick
  | answer (o : Op) (r : Ans o) (w : W)
  | stop

/-- The configuration after something has happened; `none` when it cannot happen. -/
def happen [DecidableEq Op] (body : σ → Prog Ans σ) (c : Timed Ans σ W) :
    Happening Ans W → Option (Timed Ans σ W)
  | .tick =>
    match c with
    | ⟨true, .idle s, log⟩ => some (settle true log (body s))
    | _ => none
  | .answer o r w =>
    match c.phase with
    | .busy o' k =>
      if h : o = o' then some (settle c.live (c.log ++ [.answer o r w]) (k (h ▸ r))) else none
    | .idle _ => none
  | .stop => some ⟨false, c.phase, c.log ++ [.stop]⟩

theorem step_of_happen [DecidableEq Op] {body : σ → Prog Ans σ} {c c' : Timed Ans σ W}
    {x : Happening Ans W} (h : happen body c x = some c') : Step body c c' := by
  obtain ⟨live, ph, log⟩ := c
  cases x with
  | tick =>
    cases live with
    | false => cases h
    | true =>
      cases ph with
      | idle s => cases h; exact .tick s log
      | busy o k => cases h
  | answer o r w =>
    cases ph with
    | idle s => cases h
    | busy o' k =>
      simp only [happen] at h
      split_ifs at h with heq
      subst heq
      cases h
      exact .answer live o k log r w
  | stop => cases h; exact .stop live ph log

/-- The configuration after a list of happenings. -/
def replay [DecidableEq Op] (body : σ → Prog Ans σ) :
    List (Happening Ans W) → Timed Ans σ W → Option (Timed Ans σ W)
  | [], c => some c
  | x :: xs, c => (happen body c x).bind (replay body xs)

theorem reach_of_replay [DecidableEq Op] {body : σ → Prog Ans σ} {c₀ c c' : Timed Ans σ W}
    {xs : List (Happening Ans W)} (hr : Reach body c₀ c) (h : replay body xs c = some c') :
    Reach body c₀ c' := by
  induction xs generalizing c with
  | nil => cases h; exact hr
  | cons x xs ih =>
    obtain ⟨c₁, h₁, h₂⟩ := Option.bind_eq_some_iff.mp h
    exact ih (hr.step (step_of_happen h₁)) h₂

/-- A log that a list of happenings leads to is the log of a run. -/
theorem exists_of_replay [DecidableEq Op] {body : σ → Prog Ans σ} {c₀ : Timed Ans σ W}
    {xs : List (Happening Ans W)} {log : List (Item Ans W)}
    (h : (replay body xs c₀).map (·.log) = some log) : ∃ c, Reach body c₀ c ∧ c.log = log := by
  obtain ⟨c, hc, hlog⟩ := Option.map_eq_some_iff.mp h
  exact ⟨c, reach_of_replay .init hc, hlog⟩

/-- What holds of a configuration while the log is admitted: between two ticks of a running timer the
variables satisfy `Post`, a run under way keeps to the monitor, and so did the log. -/
def Inv (T : Monitor Ans W M) (Post : M → σ → Prop) (c : Timed Ans σ W) : Prop :=
  T.Allowed c.log ∧ match c.phase with
    | .idle s => c.live = true → Post (T.after c.log) s
    | .busy o k => ∃ m, T.Waits m (T.after c.log) ∧ ∀ m', T.Waits m m' → ∀ r w,
        T.answers m' o r w → (k r).Keeps T Post (T.step m' (.answer o r w))

variable {T : Monitor Ans W M} {Post : M → σ → Prop} {body : σ → Prog Ans σ} {c c' c₀ : Timed Ans σ W}

theorem inv_settle {live : Bool} {log : List (Item Ans W)} {p : Prog Ans σ} (hlog : T.Allowed log)
    (h : p.Keeps T Post (T.after log)) : Inv T Post (settle live log p) := by
  cases p with
  | ret s => exact ⟨hlog, fun _ => h⟩
  | await o k =>
    refine ⟨hlog.issue h.1, ?_⟩
    show ∃ m, T.Waits m (T.after (log ++ [.issue o])) ∧ _
    rw [Monitor.after_snoc]
    exact ⟨_, .refl _, h.2⟩

theorem log_settle (live : Bool) (log : List (Item Ans W)) (p : Prog Ans σ) :
    (settle live log p).log = log ∨ ∃ o, (settle live log p).log = log ++ [.issue o] := by
  cases p with
  | ret s => exact .inl rfl
  | await o k => exact .inr ⟨o, rfl⟩

/-- A log that is admitted up to the next request was admitted before it. -/
theorem admits_of_settle {live : Bool} {log : List (Item Ans W)} {p : Prog Ans σ}
    (h : T.Admits (settle live log p).log) : T.Admits log := by
  rcases log_settle live log p with heq | ⟨o, heq⟩
  · rwa [heq] at h
  · rw [heq] at h
    exact h.init_of_snoc

theorem admits_of_step (hs : Step body c c') (h : T.Admits c'.log) : T.Admits c.log := by
  cases hs with
  | tick s log => exact admits_of_settle h
  | answer live o k log r w => exact (admits_of_settle h).init_of_snoc
  | stop live ph log => exact Monitor.Admits.init_of_snoc h

/-- A timer that runs has not been stopped. -/
theorem stop_notMem_of_live (hr : Reach body c₀ c) (h₀ : .stop ∉ c₀.log) (hlive : c.live = true) :
    .stop ∉ c.log := by
  induction hr with
  | init => exact h₀
  | step _ hs ih =>
    cases hs with
    | tick s log =>
      have hpast := ih rfl
      rcases log_settle true log (body s) with heq | ⟨o, heq⟩
      · rwa [heq]
      · rw [heq]
        simp [hpast]
    | answer live o k log r w =>
      have hl : live = true := by
        have : (settle live (log ++ [.answer o r w]) (k r)).live = live := by
          cases k r <;> rfl
        rw [← this, hlive]
      have hpast := ih hl
      rcases log_settle live (log ++ [.answer o r w]) (k r) with heq | ⟨o', heq⟩
      · rw [heq]
        simp [hpast]
      · rw [heq]
        simp [hpast]
    | stop live ph log => cases hlive

/-- **One step keeps the invariant.** -/
theorem inv_step (hbody : ∀ log s, .stop ∉ log → Post (T.after log) s →
      (body s).Keeps T Post (T.after log))
    (hs : Step body c c') (hstop : c.live = true → .stop ∉ c.log) (h : Inv T Post c)
    (hadm : T.Admits c'.log) : Inv T Post c' := by
  cases hs with
  | tick s log => exact inv_settle h.1 (hbody log s (hstop rfl) (h.2 rfl))
  | answer live o k log r w =>
    have hlog : T.Admits (log ++ [.answer o r w]) := admits_of_settle hadm
    obtain ⟨hallowed, m, hwaits, hk⟩ := h
    have hkeeps := hk _ hwaits r w hlog.answer
    refine inv_settle (hallowed.snoc fun o' heq => (by cases heq)) ?_
    rwa [Monitor.after_snoc]
  | stop live ph log =>
    obtain ⟨hallowed, hph⟩ := h
    refine ⟨hallowed.snoc fun o heq => (by cases heq), ?_⟩
    cases ph with
    | idle s =>
      intro habs
      cases habs
    | busy o k =>
      obtain ⟨m, hwaits, hk⟩ := hph
      refine ⟨m, ?_, hk⟩
      show T.Waits m (T.after (log ++ [.stop]))
      rw [Monitor.after_snoc]
      exact hwaits.stop (Monitor.Admits.stop hadm)

/-- **In every run whose answers and stops are admitted, every request is allowed.** -/
theorem Reach.inv (hr : Reach body c₀ c) (h₀ : Inv T Post c₀) (hlog₀ : .stop ∉ c₀.log)
    (hbody : ∀ log s, .stop ∉ log → Post (T.after log) s → (body s).Keeps T Post (T.after log))
    (hadm : T.Admits c.log) : Inv T Post c := by
  induction hr with
  | init => exact h₀
  | step hr hs ih =>
    exact inv_step hbody hs (stop_notMem_of_live hr hlog₀) (ih (admits_of_step hs hadm)) hadm

end Timed

end Async
