import Benchmarker.Async.Vars

/-!
# Rejections that are dropped or thrown

Some requests of a program may be rejected. It drops a rejection when it goes on in the same way
whatever the answer is; else it throws, and a handler may catch what was thrown. Two worlds that answer
alike, but for more rejections in the one, then make the program issue the same requests, or they do not.

* `Policy`: which answers reject a request, and which requests have their rejections dropped.
* `Reacts P Q p`: after a rejection with `e` that is not dropped, `p` goes on with a program of `Q e`;
  **`reacts_bind`** composes it. `Calm`, `Throws`: bodies that drop every rejection, or throw the others.
* `Policy.RejectsMore`: a world that rejects more requests. `Policy.Exposed`: a request that could have
  been rejected with effect.
* **`Reacts.drive_ops`**, `Reacts.drive_rejecting`, **`Reacts.outcome_iff`**: exactly when further
  rejections make no difference.
-/

namespace Async.Prog

variable {Op : Type} {Ans : Op → Type} {α β W ε σ : Type}

/-- Which answers reject a request, and which requests have their rejections dropped. -/
structure Policy (Ans : Op → Type) (ε : Type) where
  rejects : (o : Op) → Ans o → ε → Prop
  dropped : Op → Prop

/-- The program drops the answers that it should drop, and after another rejection with `e` it goes on
with a program that satisfies `Q e`. -/
def Reacts (P : Policy Ans ε) (Q : ε → Prog Ans α → Prop) : Prog Ans α → Prop
  | ret _ => True
  | await o k => (P.dropped o → ∀ r r', k r = k r') ∧
      (¬P.dropped o → ∀ r e, P.rejects o r e → Q e (k r)) ∧ ∀ r, (k r).Reacts P Q

variable {P : Policy Ans ε} {Q Q' : ε → Prog Ans α → Prop} {R : ε → Prog Ans β → Prop}

@[simp] theorem reacts_ret (a : α) : (ret a : Prog Ans α).Reacts P Q := trivial

/-- A request that cannot be rejected. -/
def Policy.Accepts (P : Policy Ans ε) (o : Op) : Prop := ¬P.dropped o ∧ ∀ r e, ¬P.rejects o r e

theorem reacts_await {o : Op} {k : Ans o → Prog Ans α} (ho : P.Accepts o)
    (hk : ∀ r, (k r).Reacts P Q) : (await o k).Reacts P Q :=
  ⟨fun hd => absurd hd ho.1, fun _ r e hr => absurd hr (ho.2 r e), hk⟩

theorem reacts_of_uses {p : Prog Ans α} (h : p.Uses P.Accepts) : p.Reacts P Q := by
  induction p with
  | ret a => trivial
  | await o k ih => exact reacts_await h.1 fun r => ih r (h.2 r)

/-- **The condition composes**, when what follows turns `Q` into `R`. -/
theorem reacts_bind {p : Prog Ans α} {f : α → Prog Ans β} (hp : p.Reacts P Q)
    (hf : ∀ a, (f a).Reacts P R) (hQ : ∀ e q, Q e q → R e (q >>= f)) : (p >>= f).Reacts P R := by
  induction p with
  | ret a => exact hf a
  | await o k ih =>
    refine ⟨fun hd r r' => ?_, fun hd r e hr => hQ e _ (hp.2.1 hd r e hr), fun r => ih r (hp.2.2 r)⟩
    show k r >>= f = k r' >>= f
    rw [hp.1 hd r r']

/-! ## Bodies that throw -/

section Throws

variable {x : ExceptT ε (Prog Ans) α} {f : α → ExceptT ε (Prog Ans) β}

/-- The body drops every rejection. -/
abbrev Calm (P : Policy Ans ε) (x : ExceptT ε (Prog Ans) α) : Prop := x.run.Reacts P fun _ _ => False

/-- The body throws the rejections that it does not drop. -/
abbrev Throws (P : Policy Ans ε) (x : ExceptT ε (Prog Ans) α) : Prop :=
  x.run.Reacts P fun e q => q = ret (.error e)

/-- `Throws`, for a body with variables. -/
abbrev ThrowsFrom (P : Policy Ans ε) (x : ExceptT ε (StateT σ (Prog Ans)) α) : Prop :=
  ∀ s, (x.run.run s).Reacts P fun e q => ∃ s', q = ret (.error e, s')

theorem Calm.reacts {Q : ε → Prog Ans (Except ε α) → Prop} (h : Calm P x) : x.run.Reacts P Q := by
  rw [← bind_ret x.run]
  exact reacts_bind h (fun _ => trivial) fun _ _ hf => hf.elim

/-- A calm body before the rest. -/
theorem reacts_calm_bind {Q : ε → Prog Ans (Except ε β) → Prop} (hx : Calm P x)
    (hf : ∀ a, (f a).run.Reacts P Q) : (x >>= f).run.Reacts P Q := by
  rw [ExceptT.run_bind]
  refine reacts_bind hx (fun r => ?_) fun _ _ h => h.elim
  cases r with
  | ok a => exact hf a
  | error e => trivial

theorem calm_bind (hx : Calm P x) (hf : ∀ a, Calm P (f a)) : Calm P (x >>= f) := reacts_calm_bind hx hf

@[simp] theorem calm_pure (a : α) : Calm P (pure a : ExceptT ε (Prog Ans) α) := trivial

@[simp] theorem calm_throw (e : ε) : Calm P (throw e : ExceptT ε (Prog Ans) α) := trivial

theorem calm_ite {c : Prop} [Decidable c] {y : ExceptT ε (Prog Ans) α} (hx : Calm P x)
    (hy : Calm P y) : Calm P (if c then x else y) := by
  split_ifs
  · exact hx
  · exact hy

theorem calm_of_uses (h : x.run.Uses P.Accepts) : Calm P x := reacts_of_uses h

theorem calm_attempt (hx : Calm P x) : Calm P (attempt x) := by
  rw [Calm, attempt, run_lift]
  exact reacts_bind hx (fun _ => trivial) fun _ _ h => h.elim

/-- A body whose outcome is dropped. -/
theorem run_attempt_bind {y : ExceptT ε (Prog Ans) β} :
    (attempt x >>= fun _ => y).run = x.run >>= fun _ => y.run := by
  rw [ExceptT.run_bind, attempt, run_lift, bind_assoc]
  rfl

/-- A request whose answer is dropped. -/
theorem calm_dropped {o : Op} {k : Ans o → Prog Ans (Except ε α)} {y : ExceptT ε (Prog Ans) β}
    (hx : x.run = await o k) (hk : ∀ r, ∃ a, k r = ret a) (hrej : P.dropped o) (hy : Calm P y) :
    Calm P (attempt x >>= fun _ => y) := by
  have hrest : ∀ r, (k r >>= fun _ => y.run) = y.run := by
    intro r
    obtain ⟨a, ha⟩ := hk r
    rw [ha]
    rfl
  rw [Calm, run_attempt_bind, hx]
  refine ⟨fun _ r r' => ?_, fun hd => absurd hrej hd, fun r => ?_⟩
  · show (k r >>= fun _ => y.run) = k r' >>= fun _ => y.run
    rw [hrest, hrest]
  · show (k r >>= fun _ => y.run).Reacts P _
    rw [hrest]
    exact hy

/-- The first request of the body is `o`. -/
def Starts (o : Op) (x : ExceptT ε (Prog Ans) α) : Prop := ∃ k, x.run = await o k

theorem Starts.bind {o : Op} (h : Starts o x) : Starts o (x >>= f) := by
  obtain ⟨k, hk⟩ := h
  rw [Starts, ExceptT.run_bind, hk, await_bind]
  exact ⟨_, rfl⟩

theorem Starts.attempt {o : Op} (h : Starts o x) : Starts o (attempt x) := by
  obtain ⟨k, hk⟩ := h
  rw [Starts, Prog.attempt, run_lift, hk, await_bind]
  exact ⟨_, rfl⟩

theorem Calm.throws (h : Calm P x) : Throws P x := h.reacts

theorem throws_bind (hx : Throws P x) (hf : ∀ a, Throws P (f a)) : Throws P (x >>= f) := by
  rw [Throws, ExceptT.run_bind]
  refine reacts_bind hx (fun r => ?_) ?_
  · cases r with
    | ok a => exact hf a
    | error e => trivial
  · rintro e q rfl
    rfl

theorem throws_ite {c : Prop} [Decidable c] {y : ExceptT ε (Prog Ans) α} (hx : Throws P x)
    (hy : Throws P y) : Throws P (if c then x else y) := by
  split_ifs
  · exact hx
  · exact hy

end Throws

section ThrowsFrom

variable {x : ExceptT ε (StateT σ (Prog Ans)) α} {f : α → ExceptT ε (StateT σ (Prog Ans)) β}

theorem throwsFrom_bind (hx : ThrowsFrom P x) (hf : ∀ a, ThrowsFrom P (f a)) :
    ThrowsFrom P (x >>= f) := by
  intro s
  rw [run_vars_bind]
  refine reacts_bind (hx s) (fun p => ?_) ?_
  · obtain ⟨r, s'⟩ := p
    cases r with
    | ok a => exact hf a s'
    | error e => trivial
  · rintro e q ⟨s', rfl⟩
    exact ⟨s', rfl⟩

@[simp] theorem throwsFrom_pure (a : α) :
    ThrowsFrom P (pure a : ExceptT ε (StateT σ (Prog Ans)) α) := fun _ => trivial

@[simp] theorem throwsFrom_get : ThrowsFrom P (get : ExceptT ε (StateT σ (Prog Ans)) σ) :=
  fun _ => trivial

@[simp] theorem throwsFrom_modify (g : σ → σ) :
    ThrowsFrom P (modify g : ExceptT ε (StateT σ (Prog Ans)) Unit) := fun _ => trivial

theorem throwsFrom_ite {c : Prop} [Decidable c] {y : ExceptT ε (StateT σ (Prog Ans)) α}
    (hx : ThrowsFrom P x) (hy : ThrowsFrom P y) : ThrowsFrom P (if c then x else y) := by
  split_ifs
  · exact hx
  · exact hy

end ThrowsFrom

/-! ## Worlds that reject more -/

section Worlds

variable {S S' : (o : Op) → W → Ans o × W}

/-- The world `S'` answers like `S`, but may reject requests that `S` does not reject. -/
def Policy.RejectsMore (P : Policy Ans ε) (S S' : (o : Op) → W → Ans o × W) : Prop :=
  ∀ o w, S' o w = S o w ∨
    (∀ e, ¬P.rejects o (S o w).1 e) ∧ (∃ e, P.rejects o (S' o w).1 e) ∧ (S' o w).2 = (S o w).2

/-- The event's request could have been rejected, with effect, and has not been. -/
def Policy.Exposed (P : Policy Ans ε) (e : Event Ans W) : Prop :=
  ¬P.dropped e.op ∧ (∃ r err, P.rejects e.op r err) ∧ ∀ err, ¬P.rejects e.op e.ans err

/-- **Dropped rejections make no difference**: the same requests are issued. -/
theorem Reacts.drive_ops {p : Prog Ans α} (hp : p.Reacts P Q) (hmore : P.RejectsMore S S') {w : W}
    (hes : ∀ e ∈ (p.drive S w).1, ¬P.Exposed e) :
    (p.drive S' w).1.map (·.op) = (p.drive S w).1.map (·.op) := by
  induction p generalizing w with
  | ret a => rfl
  | await o k ih =>
    obtain ⟨hhead, htail⟩ := List.forall_mem_cons.mp hes
    simp only [drive, List.map_cons]
    rcases hmore o w with heq | ⟨hok, ⟨e, hrej⟩, hworld⟩
    · rw [heq, ih _ (hp.2.2 _) htail]
    · have hdrop : P.dropped o := by
        by_contra hd
        exact hhead ⟨hd, ⟨_, e, hrej⟩, hok⟩
      rw [hp.1 hdrop (S' o w).1 (S o w).1, hworld, ih _ (hp.2.2 _) htail]

open Classical in
/-- The world that rejects with `e` whatever can be rejected with effect. -/
noncomputable def Policy.rejecting (P : Policy Ans ε) (S : (o : Op) → W → Ans o × W) (e : ε) (o : Op)
    (w : W) : Ans o × W :=
  if h : (¬P.dropped o ∧ ∀ err, ¬P.rejects o (S o w).1 err) ∧ ∃ r, P.rejects o r e then
    (h.2.choose, (S o w).2)
  else S o w

theorem Policy.rejectsMore_rejecting (e : ε) : P.RejectsMore S (P.rejecting S e) := by
  intro o w
  unfold rejecting
  split_ifs with h
  · exact .inr ⟨h.1.2, ⟨e, h.2.choose_spec⟩, rfl⟩
  · exact .inl rfl

/-- **A rejection with effect**: up to it the requests are those of the milder world, whatever the error
is; after it the program goes on with one of `Q e`. -/
theorem Reacts.drive_rejecting {p : Prog Ans α} (hp : p.Reacts P Q)
    (hrej : ∀ o r e, P.rejects o r e → ∀ e', ∃ r', P.rejects o r' e') {w : W}
    (hes : ∃ e ∈ (p.drive S w).1, P.Exposed e) : ∃ ops : List Op, ∀ e, ∃ q u, Q e q ∧
      (p.drive (P.rejecting S e) w).1.map (·.op) =
        ops ++ (q.drive (P.rejecting S e) u).1.map (·.op) := by
  induction p generalizing w with
  | ret a =>
    obtain ⟨e, he, -⟩ := hes
    cases he
  | await o k ih =>
    by_cases hhead : P.Exposed (⟨o, (S o w).1, w, (S o w).2⟩ : Event Ans W)
    · refine ⟨[o], fun e => ?_⟩
      obtain ⟨hd, ⟨r, err, hr⟩, hok⟩ := hhead
      have h : (¬P.dropped o ∧ ∀ err, ¬P.rejects o (S o w).1 err) ∧ ∃ r, P.rejects o r e :=
        ⟨⟨hd, hok⟩, hrej o r err hr e⟩
      have heq : P.rejecting S e o w = (h.2.choose, (S o w).2) := dif_pos h
      refine ⟨k (P.rejecting S e o w).1, (P.rejecting S e o w).2, ?_, rfl⟩
      rw [heq]
      exact hp.2.1 hd _ e h.2.choose_spec
    · have htail : ∃ e ∈ ((k (S o w).1).drive S (S o w).2).1, P.Exposed e := by
        obtain ⟨e, he, hexp⟩ := hes
        rcases List.mem_cons.mp he with rfl | he
        · exact absurd hexp hhead
        · exact ⟨e, he, hexp⟩
      obtain ⟨ops, hops⟩ := ih _ (hp.2.2 _) htail
      refine ⟨o :: ops, fun e => ?_⟩
      obtain ⟨q, u, hq, heq⟩ := hops e
      have hsame : P.rejecting S e o w = S o w := by
        refine dif_neg fun h => hhead ⟨h.1.1, ?_, h.1.2⟩
        obtain ⟨r, hr⟩ := h.2
        exact ⟨r, e, hr⟩
      refine ⟨q, u, hq, ?_⟩
      simp only [drive, List.map_cons, List.cons_append]
      rw [hsame, heq]

/-- The requests of a history that count. -/
def outcome (c : Op → Bool) (es : List (Event Ans W)) : List Op := (es.map (·.op)).filter c

/-- **Further rejections make no difference to what counts**, if and only if no request is accepted whose
rejection has an effect. Two errors suffice whose handlers differ in their first request. -/
theorem Reacts.outcome_iff {p : Prog Ans α} (hp : p.Reacts P Q) {c : Op → Bool} (e₁ e₂ : ε)
    (hrej : ∀ o r e, P.rejects o r e → ∀ e', ∃ r', P.rejects o r' e')
    (hQ : ∀ q₁ q₂, Q e₁ q₁ → Q e₂ q₂ → ∃ o₁ k₁ o₂ k₂, q₁ = await o₁ k₁ ∧ q₂ = await o₂ k₂ ∧
      c o₁ = true ∧ c o₂ = true ∧ o₁ ≠ o₂) (S : (o : Op) → W → Ans o × W) (w : W) :
    (∀ S', P.RejectsMore S S' → outcome c (p.drive S' w).1 = outcome c (p.drive S w).1) ↔
      ∀ e ∈ (p.drive S w).1, ¬P.Exposed e := by
  constructor
  · intro hsame e he hexp
    obtain ⟨ops, hops⟩ := hp.drive_rejecting hrej ⟨e, he, hexp⟩
    obtain ⟨q₁, u₁, hq₁, heq₁⟩ := hops e₁
    obtain ⟨q₂, u₂, hq₂, heq₂⟩ := hops e₂
    obtain ⟨o₁, k₁, o₂, k₂, rfl, rfl, hc₁, hc₂, hne⟩ := hQ q₁ q₂ hq₁ hq₂
    have h := (hsame _ (P.rejectsMore_rejecting e₁)).trans (hsame _ (P.rejectsMore_rejecting e₂)).symm
    rw [outcome, outcome, heq₁, heq₂, List.filter_append, List.filter_append] at h
    have h := List.append_cancel_left h
    simp only [drive, List.map_cons, List.filter_cons, hc₁, hc₂, if_true] at h
    exact hne (List.cons.inj h).1
  · intro hes S' hmore
    rw [outcome, outcome, hp.drive_ops hmore hes]

end Worlds

end Async.Prog
