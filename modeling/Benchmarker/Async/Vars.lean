import Benchmarker.Async.Uses

/-!
# Programs with variables

A body that reads and writes variables while it waits for answers, and may throw: the variables
outlive the throw.

* `RunsFrom x s es r s'`: from the variables `s`, the answers in `es` make `x` end in `r` and `s'`.
* **`runsFrom_bind`**, `runsFrom_pure`, `runsFrom_modify`, `runsFrom_get`.
* `UsesFrom`: which requests such a body may issue. `BuiltFrom`: what it is put together from.
* `Preserves R x`: what `x` does to the variables, whatever the answers are and however it ends.
  `Throughout H x`: what every history of `x` satisfies.
-/

namespace Async.Prog

variable {Op : Type} {Ans : Op → Type} {α β W ε σ : Type} {q : Op → Prop}

/-- From the variables `s`, the answers recorded in `es` make `x` end in `r` and `s'`. -/
def RunsFrom (x : ExceptT ε (StateT σ (Prog Ans)) α) (s : σ) (es : List (Event Ans W))
    (r : Except ε α) (s' : σ) : Prop := (x.run.run s).Runs es (r, s')

/-- Every request that the body may issue satisfies `q`, whatever its variables are. -/
def UsesFrom (q : Op → Prop) (x : ExceptT ε (StateT σ (Prog Ans)) α) : Prop :=
  ∀ s, (x.run.run s).Uses q

variable {x : ExceptT ε (StateT σ (Prog Ans)) α} {f : α → ExceptT ε (StateT σ (Prog Ans)) β}
variable {es : List (Event Ans W)} {s s' : σ}

theorem run_vars_bind : (x >>= f).run.run s = x.run.run s >>= fun p =>
    match p.1 with
    | .ok a => (f a).run.run p.2
    | .error e => ret (.error e, p.2) := by
  rw [ExceptT.run_bind, StateT.run_bind]
  refine congrArg _ (funext fun p => ?_)
  obtain ⟨r, s'⟩ := p
  cases r <;> rfl

/-- **A finished history of `x >>= f`** is one of `x` and one of the rest, unless `x` throws. -/
theorem runsFrom_bind {b : Except ε β} : RunsFrom (x >>= f) s es b s' ↔
    (∃ es₁ es₂ a t, es = es₁ ++ es₂ ∧ RunsFrom x s es₁ (.ok a) t ∧ RunsFrom (f a) t es₂ b s') ∨
      ∃ e, RunsFrom x s es (.error e) s' ∧ b = .error e := by
  rw [RunsFrom, run_vars_bind, runs_bind]
  constructor
  · rintro ⟨es₁, es₂, ⟨r, t⟩, rfl, h₁, h₂⟩
    cases r with
    | ok a => exact .inl ⟨es₁, es₂, a, t, rfl, h₁, h₂⟩
    | error e =>
      obtain ⟨rfl, heq⟩ := runs_ret.mp h₂
      obtain ⟨rfl, rfl⟩ := Prod.mk.inj heq
      exact .inr ⟨e, by rwa [List.append_nil], rfl⟩
  · rintro (⟨es₁, es₂, a, t, rfl, h₁, h₂⟩ | ⟨e, h, rfl⟩)
    · exact ⟨es₁, es₂, (.ok a, t), rfl, h₁, h₂⟩
    · exact ⟨es, [], (.error e, s'), by rw [List.append_nil], h, runs_ret.mpr ⟨rfl, rfl⟩⟩

@[simp] theorem runsFrom_pure {a : α} {r : Except ε α} :
    RunsFrom (pure a : ExceptT ε (StateT σ (Prog Ans)) α) s es r s' ↔
      es = [] ∧ .ok a = r ∧ s = s' := by
  rw [RunsFrom, show (pure a : ExceptT ε (StateT σ (Prog Ans)) α).run.run s = ret (.ok a, s) from rfl,
    runs_ret, Prod.mk.injEq]

@[simp] theorem runsFrom_get {r : Except ε σ} :
    RunsFrom (get : ExceptT ε (StateT σ (Prog Ans)) σ) s es r s' ↔
      es = [] ∧ .ok s = r ∧ s = s' := by
  rw [RunsFrom, show (get : ExceptT ε (StateT σ (Prog Ans)) σ).run.run s = ret (.ok s, s) from rfl,
    runs_ret, Prod.mk.injEq]

@[simp] theorem runsFrom_modify {g : σ → σ} {r : Except ε Unit} :
    RunsFrom (modify g : ExceptT ε (StateT σ (Prog Ans)) Unit) s es r s' ↔
      es = [] ∧ .ok () = r ∧ g s = s' := by
  rw [RunsFrom, show (modify g : ExceptT ε (StateT σ (Prog Ans)) Unit).run.run s =
    ret (.ok (), g s) from rfl, runs_ret, Prod.mk.injEq]

@[simp] theorem runsFrom_get_bind {g : σ → ExceptT ε (StateT σ (Prog Ans)) β} {r : Except ε β} :
    RunsFrom (get >>= g) s es r s' ↔ RunsFrom (g s) s es r s' := by
  rw [runsFrom_bind]
  simp

@[simp] theorem runsFrom_modify_bind {g : σ → σ} {x : Unit → ExceptT ε (StateT σ (Prog Ans)) β}
    {r : Except ε β} : RunsFrom (modify g >>= x) s es r s' ↔ RunsFrom (x ()) (g s) es r s' := by
  rw [runsFrom_bind]
  simp only [runsFrom_modify, reduceCtorEq, false_and, and_false, exists_false, or_false]
  constructor
  · rintro ⟨_, fs, _, _, rfl, ⟨rfl, -, rfl⟩, h⟩
    exact h
  · intro h
    exact ⟨[], es, (), g s, (List.nil_append _).symm, ⟨rfl, trivial, rfl⟩, h⟩

/-! ## Requests -/

/-- A request that does not throw. -/
def ask (o : Op) : ExceptT ε (StateT σ (Prog Ans)) (Ans o) :=
  ExceptT.lift (StateT.lift (request o))

/-- Go on with a value, or throw an error. -/
def orThrow (r : Except ε α) : ExceptT ε (StateT σ (Prog Ans)) α :=
  match r with
  | .ok a => pure a
  | .error e => throw e

theorem runsFrom_ask {o : Op} {r : Except ε (Ans o)} :
    RunsFrom (ask o : ExceptT ε (StateT σ (Prog Ans)) (Ans o)) s es r s' ↔
      ∃ a pre post, es = [⟨o, a, pre, post⟩] ∧ r = .ok a ∧ s' = s := by
  rw [RunsFrom, show (ask o : ExceptT ε (StateT σ (Prog Ans)) (Ans o)).run.run s =
    await o fun a => ret (.ok a, s) from rfl, runs_await]
  constructor
  · rintro ⟨a, pre, post, fs, rfl, h⟩
    obtain ⟨rfl, heq⟩ := runs_ret.mp h
    obtain ⟨rfl, rfl⟩ := Prod.mk.inj heq
    exact ⟨a, pre, post, rfl, rfl, rfl⟩
  · rintro ⟨a, pre, post, rfl, rfl, rfl⟩
    exact ⟨a, pre, post, [], rfl, runs_ret.mpr ⟨rfl, rfl⟩⟩

@[simp] theorem runsFrom_orThrow {r r' : Except ε α} :
    RunsFrom (orThrow r : ExceptT ε (StateT σ (Prog Ans)) α) s es r' s' ↔ es = [] ∧ r = r' ∧ s = s' := by
  cases r with
  | ok a => exact runsFrom_pure
  | error e =>
    rw [RunsFrom, show (orThrow (.error e) : ExceptT ε (StateT σ (Prog Ans)) α).run.run s =
      ret (.error e, s) from rfl, runs_ret, Prod.mk.injEq]

/-- A request whose error is thrown. -/
theorem runsFrom_ask_orThrow {o : Op} {g : Ans o → Except ε α} {r : Except ε α} :
    RunsFrom (ask o >>= fun a => orThrow (g a) : ExceptT ε (StateT σ (Prog Ans)) α) s es r s' ↔
      ∃ a pre post, es = [⟨o, a, pre, post⟩] ∧ r = g a ∧ s' = s := by
  rw [runsFrom_bind]
  constructor
  · rintro (⟨es₁, es₂, a, t, rfl, h₁, h₂⟩ | ⟨e, h, -⟩)
    · obtain ⟨a', pre, post, rfl, ha, rfl⟩ := runsFrom_ask.mp h₁
      obtain rfl := Except.ok.inj ha
      obtain ⟨rfl, rfl, rfl⟩ := runsFrom_orThrow.mp h₂
      exact ⟨a, pre, post, rfl, rfl, rfl⟩
    · obtain ⟨a, pre, post, -, habs, -⟩ := runsFrom_ask.mp h
      cases habs
  · rintro ⟨a, pre, post, rfl, rfl, rfl⟩
    exact .inl ⟨[⟨o, a, pre, post⟩], [], a, s', rfl, runsFrom_ask.mpr ⟨a, pre, post, rfl, rfl, rfl⟩,
      runsFrom_orThrow.mpr ⟨rfl, rfl, rfl⟩⟩

/-! ## Issued requests -/

theorem usesFrom_ask {o : Op} (ho : q o) :
    UsesFrom q (ask o : ExceptT ε (StateT σ (Prog Ans)) (Ans o)) := fun _ => ⟨ho, fun _ => trivial⟩

theorem usesFrom_orThrow (r : Except ε α) :
    UsesFrom q (orThrow r : ExceptT ε (StateT σ (Prog Ans)) α) := by
  cases r with
  | ok a => exact fun _ => trivial
  | error e => exact fun _ => trivial

theorem usesFrom_bind (hx : UsesFrom q x) (hf : ∀ a, UsesFrom q (f a)) : UsesFrom q (x >>= f) := by
  intro s
  rw [run_vars_bind]
  refine uses_bind (hx s) fun p => ?_
  obtain ⟨r, s'⟩ := p
  cases r with
  | ok a => exact hf a s'
  | error e => exact uses_ret _

@[simp] theorem usesFrom_pure (a : α) :
    UsesFrom q (pure a : ExceptT ε (StateT σ (Prog Ans)) α) := fun _ => trivial

@[simp] theorem usesFrom_get : UsesFrom q (get : ExceptT ε (StateT σ (Prog Ans)) σ) :=
  fun _ => trivial

@[simp] theorem usesFrom_modify (g : σ → σ) :
    UsesFrom q (modify g : ExceptT ε (StateT σ (Prog Ans)) Unit) := fun _ => trivial

theorem usesFrom_ite {c : Prop} [Decidable c] {y : ExceptT ε (StateT σ (Prog Ans)) α}
    (hx : UsesFrom q x) (hy : UsesFrom q y) : UsesFrom q (if c then x else y) := by
  split_ifs
  · exact hx
  · exact hy

theorem UsesFrom.mono {q' : Op → Prop} (h : UsesFrom q x) (hq : ∀ o, q o → q' o) :
    UsesFrom q' x := fun s => (h s).mono hq

theorem UsesFrom.events (h : UsesFrom q x) {r : Except ε α} (hr : RunsFrom x s es r s') :
    ∀ e ∈ es, q e.op := (h s).events hr

/-! ## Parts -/

/-- `Built`, for a body with variables. -/
def BuiltFrom (B : (α : Type) → Prog Ans α → Prop) (x : ExceptT ε (StateT σ (Prog Ans)) α) : Prop :=
  ∀ s, Built B (x.run.run s)

section BuiltFrom

variable {B : (α : Type) → Prog Ans α → Prop}

theorem builtFrom_bind (hx : BuiltFrom B x) (hf : ∀ a, BuiltFrom B (f a)) : BuiltFrom B (x >>= f) := by
  intro s
  rw [run_vars_bind]
  refine .bind (hx s) fun p => ?_
  obtain ⟨r, s'⟩ := p
  cases r with
  | ok a => exact hf a s'
  | error e => exact .ret _

theorem builtFrom_pure (a : α) : BuiltFrom B (pure a : ExceptT ε (StateT σ (Prog Ans)) α) := fun _ => .ret _

theorem builtFrom_get : BuiltFrom B (get : ExceptT ε (StateT σ (Prog Ans)) σ) := fun _ => .ret _

theorem builtFrom_modify (g : σ → σ) : BuiltFrom B (modify g : ExceptT ε (StateT σ (Prog Ans)) Unit) :=
  fun _ => .ret _

theorem builtFrom_ite {c : Prop} [Decidable c] {y : ExceptT ε (StateT σ (Prog Ans)) α}
    (hx : BuiltFrom B x) (hy : BuiltFrom B y) : BuiltFrom B (if c then x else y) := by
  split_ifs
  · exact hx
  · exact hy

end BuiltFrom

/-! ## Variables -/

/-- Every finished history of the body leads from variables to variables that `R` relates. -/
def Preserves (R : σ → σ → Prop) (x : ExceptT ε (StateT σ (Prog Ans)) α) : Prop :=
  ∀ (W : Type) (es : List (Event Ans W)) (s s' : σ) (r : Except ε α), RunsFrom x s es r s' → R s s'

section Preserves

variable {R : σ → σ → Prop}

theorem preserves_bind (htrans : ∀ s t u, R s t → R t u → R s u) (hx : Preserves R x)
    (hf : ∀ a, Preserves R (f a)) : Preserves R (x >>= f) := by
  intro W es s s' r h
  rcases runsFrom_bind.mp h with ⟨es₁, es₂, a, t, -, h₁, h₂⟩ | ⟨e, h₁, -⟩
  · exact htrans s t s' (hx W es₁ s t _ h₁) (hf a W es₂ t s' r h₂)
  · exact hx W es s s' _ h₁

theorem preserves_pure (hrefl : ∀ s, R s s) (a : α) :
    Preserves R (pure a : ExceptT ε (StateT σ (Prog Ans)) α) := by
  intro W es s s' r h
  obtain ⟨-, -, rfl⟩ := runsFrom_pure.mp h
  exact hrefl s

theorem preserves_get (hrefl : ∀ s, R s s) :
    Preserves R (get : ExceptT ε (StateT σ (Prog Ans)) σ) := by
  intro W es s s' r h
  obtain ⟨-, -, rfl⟩ := runsFrom_get.mp h
  exact hrefl s

theorem preserves_modify {g : σ → σ} (hg : ∀ s, R s (g s)) :
    Preserves R (modify g : ExceptT ε (StateT σ (Prog Ans)) Unit) := by
  intro W es s s' r h
  obtain ⟨-, -, rfl⟩ := runsFrom_modify.mp h
  exact hg s

theorem preserves_ite {c : Prop} [Decidable c] {y : ExceptT ε (StateT σ (Prog Ans)) α}
    (hx : Preserves R x) (hy : Preserves R y) : Preserves R (if c then x else y) := by
  split_ifs
  · exact hx
  · exact hy

end Preserves

/-! ## Histories -/

/-- Every finished history of the body satisfies `H`. -/
def Throughout (H : List (Event Ans W) → Prop) (x : ExceptT ε (StateT σ (Prog Ans)) α) : Prop :=
  ∀ es s r s', RunsFrom x s es r s' → H es

section Throughout

variable {H : List (Event Ans W) → Prop}

theorem throughout_bind (happend : ∀ es fs, H es → H fs → H (es ++ fs)) (hx : Throughout H x)
    (hf : ∀ a, Throughout H (f a)) : Throughout H (x >>= f) := by
  intro es s r s' h
  rcases runsFrom_bind.mp h with ⟨es₁, es₂, a, t, rfl, h₁, h₂⟩ | ⟨e, h₁, -⟩
  · exact happend es₁ es₂ (hx es₁ s _ t h₁) (hf a es₂ t r s' h₂)
  · exact hx es s _ s' h₁

theorem throughout_of_uses (hq : ∀ es : List (Event Ans W), (∀ e ∈ es, q e.op) → H es)
    (hx : UsesFrom q x) : Throughout H x := fun es _ _ _ h => hq es (hx.events h)

theorem throughout_ite {c : Prop} [Decidable c] {y : ExceptT ε (StateT σ (Prog Ans)) α}
    (hx : Throughout H x) (hy : Throughout H y) : Throughout H (if c then x else y) := by
  split_ifs
  · exact hx
  · exact hy

end Throughout

end Async.Prog
