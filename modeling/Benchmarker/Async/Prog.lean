import Mathlib.Control.Basic
import Mathlib.Data.List.Basic
import Mathlib.Data.List.Induction

/-!
# Programs over requests

An asynchronous program is a tree: it has returned, or it waits for the answer to a request and
continues with it. Everything between two requests runs without interruption, so the requests are
exactly the points where other programs may step in.

* `Prog`, `Prog.bind`, `request`: programs and their monad; `ExceptT ε (Prog Ans)` adds throws.
* `Event`, `After`, `Runs`: the answers recorded in a history bring a program to a later program;
  **`runs_bind`** cuts a finished history at a `>>=`.
* `Issues`: every request that a program issues satisfies a condition on the history before it;
  **`Issues.after`** carries it along a history, `Issues.bind` composes it.
* `attempt`, **`runs_throws_bind`**, `Issues.throws_bind`: the same for bodies that throw.
* `expand`, `expandThrows`: a program in the place of every request. `Expansion`, **`issues_expand`**:
  its histories, and what it issues.
* `eval`, `eval_ok_bind`: the value of a program when every request has one fixed answer; `trace` is
  its history. `drive`, `play`: the history of a program that a
  changing world serves.
-/

namespace Async

variable {Op : Type} {Ans : Op → Type} {α β γ W : Type}

/-- A program: it has returned, or it waits for the answer to a request. -/
inductive Prog {Op : Type} (Ans : Op → Type) (α : Type) : Type
  | ret (a : α)
  | await (o : Op) (k : Ans o → Prog Ans α)

/-- A served request: the request, its answer, the world before and the world after. -/
structure Event {Op : Type} (Ans : Op → Type) (W : Type) where
  op : Op
  ans : Ans op
  pre : W
  post : W

namespace Prog

/-- Continue a program with the value it returns. -/
def bind : Prog Ans α → (α → Prog Ans β) → Prog Ans β
  | ret a, f => f a
  | await o k, f => await o fun r => (k r).bind f

instance : Monad (Prog Ans) where
  pure := ret
  bind := bind

@[simp] theorem pure_def (a : α) : (pure a : Prog Ans α) = ret a := rfl

@[simp] theorem ret_bind (a : α) (f : α → Prog Ans β) : (ret a : Prog Ans α) >>= f = f a := rfl

@[simp] theorem await_bind (o : Op) (k : Ans o → Prog Ans α) (f : α → Prog Ans β) :
    (await o k : Prog Ans α) >>= f = await o fun r => k r >>= f := rfl

theorem bind_ret (p : Prog Ans α) : p >>= ret = p := by
  induction p with
  | ret a => rfl
  | await o k ih => rw [await_bind]; exact congrArg (await o) (funext ih)

theorem bind_assoc (p : Prog Ans α) (f : α → Prog Ans β) (g : β → Prog Ans γ) :
    p >>= f >>= g = p >>= fun a => f a >>= g := by
  induction p with
  | ret a => rfl
  | await o k ih => simp only [await_bind]; exact congrArg (await o) (funext ih)

instance : LawfulMonad (Prog Ans) :=
  LawfulMonad.mk' _ (fun p => bind_ret p) (fun _ _ => rfl) bind_assoc

/-- Issue one request and return its answer. -/
def request (o : Op) : Prog Ans (Ans o) := await o ret

/-! ## Histories -/

/-- `p.After es q`: the answers recorded in `es` bring `p` to `q`. -/
inductive After : Prog Ans α → List (Event Ans W) → Prog Ans α → Prop
  | refl (p : Prog Ans α) : After p [] p
  | step {o : Op} {k : Ans o → Prog Ans α} {es : List (Event Ans W)} {q : Prog Ans α}
      (r : Ans o) (pre post : W) : After (k r) es q → After (await o k) (⟨o, r, pre, post⟩ :: es) q

/-- `p.Runs es a`: the answers recorded in `es` make `p` return `a`. -/
def Runs (p : Prog Ans α) (es : List (Event Ans W)) (a : α) : Prop := p.After es (ret a)

theorem After.snoc {p : Prog Ans α} {es : List (Event Ans W)} {o : Op} {k : Ans o → Prog Ans α}
    (h : p.After es (await o k)) (r : Ans o) (pre post : W) :
    p.After (es ++ [⟨o, r, pre, post⟩]) (k r) := by
  generalize hq : await o k = q at h
  induction h with
  | refl p => subst hq; exact .step r pre post (.refl _)
  | step r' pre' post' _ ih => exact .step r' pre' post' (ih hq)

theorem After.trans {p q s : Prog Ans α} {es fs : List (Event Ans W)} (h : p.After es q)
    (h' : q.After fs s) : p.After (es ++ fs) s := by
  induction h with
  | refl p => exact h'
  | step r pre post _ ih => exact .step r pre post (ih h')

theorem after_ret_iff {a : α} {es : List (Event Ans W)} {q : Prog Ans α} :
    (ret a).After es q ↔ es = [] ∧ q = ret a := by
  constructor
  · intro h; cases h; exact ⟨rfl, rfl⟩
  · rintro ⟨rfl, rfl⟩; exact .refl _

@[simp] theorem runs_ret {a b : α} {es : List (Event Ans W)} :
    (ret a : Prog Ans α).Runs es b ↔ es = [] ∧ a = b := by
  simp only [Runs, after_ret_iff, ret.injEq, eq_comm]

theorem runs_await {o : Op} {k : Ans o → Prog Ans α} {es : List (Event Ans W)} {b : α} :
    (await o k).Runs es b ↔
      ∃ (r : Ans o) (pre post : W) (fs : List (Event Ans W)),
        es = ⟨o, r, pre, post⟩ :: fs ∧ (k r).Runs fs b := by
  constructor
  · intro h
    cases h with
    | step r pre post h => exact ⟨r, pre, post, _, rfl, h⟩
  · rintro ⟨r, pre, post, fs, rfl, h⟩
    exact .step r pre post h

/-- **A finished history of `p >>= f` is a finished history of `p` and one of the rest.** -/
theorem runs_bind {p : Prog Ans α} {f : α → Prog Ans β} {es : List (Event Ans W)} {b : β} :
    (p >>= f).Runs es b ↔ ∃ es₁ es₂ a, es = es₁ ++ es₂ ∧ p.Runs es₁ a ∧ (f a).Runs es₂ b := by
  induction p generalizing es with
  | ret a => simp
  | await o k ih =>
    simp only [await_bind, runs_await, ih]
    constructor
    · rintro ⟨r, pre, post, fs, rfl, es₁, es₂, a, rfl, h₁, h₂⟩
      exact ⟨⟨o, r, pre, post⟩ :: es₁, es₂, a, rfl, ⟨r, pre, post, es₁, rfl, h₁⟩, h₂⟩
    · rintro ⟨_, es₂, a, rfl, ⟨r, pre, post, es₁, rfl, h₁⟩, h₂⟩
      exact ⟨r, pre, post, es₁ ++ es₂, rfl, es₁, es₂, a, rfl, h₁, h₂⟩

/-- **A program has one finished history along given answers.** -/
theorem Runs.append_inj {p : Prog Ans α} {es fs gs hs : List (Event Ans W)} {a b : α}
    (h : p.Runs es a) (h' : p.Runs fs b) (heq : es ++ gs = fs ++ hs) : es = fs ∧ a = b := by
  induction p generalizing es fs with
  | ret c =>
    obtain ⟨rfl, rfl⟩ := runs_ret.mp h
    obtain ⟨rfl, rfl⟩ := runs_ret.mp h'
    exact ⟨rfl, rfl⟩
  | await o k ih =>
    obtain ⟨r, pre, post, es, rfl, h₁⟩ := runs_await.mp h
    obtain ⟨r', pre', post', fs, rfl, h₂⟩ := runs_await.mp h'
    obtain ⟨he, htail⟩ := List.cons.inj heq
    cases he
    obtain ⟨rfl, rfl⟩ := ih r h₁ h₂ htail
    exact ⟨rfl, rfl⟩

theorem runs_request {o : Op} {es : List (Event Ans W)} {r : Ans o} :
    (request o).Runs es r ↔ ∃ pre post, es = [⟨o, r, pre, post⟩] := by
  simp only [request, runs_await, runs_ret]
  constructor
  · rintro ⟨r', pre, post, fs, rfl, rfl, rfl⟩; exact ⟨pre, post, rfl⟩
  · rintro ⟨pre, post, rfl⟩; exact ⟨r, pre, post, [], rfl, rfl, rfl⟩

/-! ## Conditions on the issued requests -/

/-- Every request that `p` issues after the history `past` satisfies `P` at its own history. -/
def Issues (P : List (Event Ans W) → Op → Prop) : List (Event Ans W) → Prog Ans α → Prop
  | _, ret _ => True
  | past, await o k => P past o ∧ ∀ r pre post, (k r).Issues P (past ++ [⟨o, r, pre, post⟩])

variable {P Q : List (Event Ans W) → Op → Prop} {past : List (Event Ans W)}

@[simp] theorem issues_ret (a : α) : (ret a : Prog Ans α).Issues P past := trivial

theorem Issues.mono {p : Prog Ans α} (hPQ : ∀ past o, P past o → Q past o) (h : p.Issues P past) :
    p.Issues Q past := by
  induction p generalizing past with
  | ret a => trivial
  | await o k ih => exact ⟨hPQ _ _ h.1, fun r pre post => ih r (h.2 r pre post)⟩

/-- **The condition travels along a history.** -/
theorem Issues.after {p q : Prog Ans α} {es : List (Event Ans W)} (h : p.Issues P past)
    (ha : p.After es q) : q.Issues P (past ++ es) := by
  induction ha generalizing past with
  | refl p => rwa [List.append_nil]
  | step r pre post _ ih =>
    have := ih (h.2 r pre post)
    rwa [List.append_assoc] at this

theorem Issues.bind {p : Prog Ans α} {f : α → Prog Ans β} (hp : p.Issues P past)
    (hf : ∀ es a, p.Runs es a → (f a).Issues P (past ++ es)) : (p >>= f).Issues P past := by
  induction p generalizing past with
  | ret a => have := hf [] a (.refl _); rwa [List.append_nil] at this
  | await o k ih =>
    refine ⟨hp.1, fun r pre post => ih r (hp.2 r pre post) fun es a h => ?_⟩
    have := hf (⟨o, r, pre, post⟩ :: es) a (.step r pre post h)
    rwa [List.append_assoc]

/-- The form of `Issues.bind` for a condition that holds of the rest after any history. -/
theorem Issues.bind' {p : Prog Ans α} {f : α → Prog Ans β} (hp : p.Issues P past)
    (hf : ∀ past a, (f a).Issues P past) : (p >>= f).Issues P past :=
  hp.bind fun _ _ _ => hf _ _

theorem issues_request {o : Op} (h : P past o) : (request o).Issues P past :=
  ⟨h, fun _ _ _ => trivial⟩

/-- Every event of a history satisfies the condition at the events before it. -/
theorem Issues.mem_after {p q : Prog Ans α} {es : List (Event Ans W)} (h : p.Issues P past)
    (ha : p.After es q) : ∀ fs e gs, es = fs ++ e :: gs → P (past ++ fs) e.op := by
  induction ha generalizing past with
  | refl p => intro fs e gs he; simp at he
  | step r pre post _ ih =>
    intro fs e gs he
    cases fs with
    | nil =>
      obtain ⟨rfl, -⟩ := List.cons.inj he
      rw [List.append_nil]; exact h.1
    | cons f fs =>
      obtain ⟨rfl, rfl⟩ := List.cons.inj he
      have := ih (h.2 r pre post) fs e gs rfl
      rwa [List.append_assoc] at this

/-! ## Programs that throw -/

section Throws

variable {ε : Type} {x : ExceptT ε (Prog Ans) α} {f : α → ExceptT ε (Prog Ans) β}

/-- The outcome of a body, caught. -/
def attempt (x : ExceptT ε (Prog Ans) α) : ExceptT ε (Prog Ans) (Except ε α) := ExceptT.lift x.run

theorem run_lift (p : Prog Ans α) :
    (ExceptT.lift p : ExceptT ε (Prog Ans) α).run = p >>= fun a => ret (.ok a) := rfl

/-- **A finished history of `x >>= f`** is one of `x` and one of the rest, unless `x` throws. -/
theorem runs_throws_bind {es : List (Event Ans W)} {b : Except ε β} : (x >>= f).run.Runs es b ↔
    (∃ es₁ es₂ a, es = es₁ ++ es₂ ∧ x.run.Runs es₁ (.ok a) ∧ (f a).run.Runs es₂ b) ∨
      ∃ e, x.run.Runs es (.error e) ∧ b = .error e := by
  rw [ExceptT.run_bind, runs_bind]
  constructor
  · rintro ⟨es₁, es₂, r, rfl, h₁, h₂⟩
    cases r with
    | ok a => exact .inl ⟨es₁, es₂, a, rfl, h₁, h₂⟩
    | error e =>
      obtain ⟨rfl, rfl⟩ := runs_ret.mp h₂
      exact .inr ⟨e, by rwa [List.append_nil], rfl⟩
  · rintro (⟨es₁, es₂, a, rfl, h₁, h₂⟩ | ⟨e, h, rfl⟩)
    · exact ⟨es₁, es₂, .ok a, rfl, h₁, h₂⟩
    · exact ⟨es, [], .error e, by rw [List.append_nil], h, runs_ret.mpr ⟨rfl, rfl⟩⟩

/-- The form of `runs_throws_bind` for a body that returns. -/
theorem runs_ok_bind {es : List (Event Ans W)} {b : β} : (x >>= f).run.Runs es (.ok b) ↔
    ∃ es₁ es₂ a, es = es₁ ++ es₂ ∧ x.run.Runs es₁ (.ok a) ∧ (f a).run.Runs es₂ (.ok b) := by
  rw [runs_throws_bind]
  simp

@[simp] theorem runs_throws_pure {a : α} {es : List (Event Ans W)} {r : Except ε α} :
    (pure a : ExceptT ε (Prog Ans) α).run.Runs es r ↔ es = [] ∧ .ok a = r := runs_ret

theorem eq_of_runs_pure {a b : α} {es : List (Event Ans W)}
    (h : (pure a : ExceptT ε (Prog Ans) α).run.Runs es (.ok b)) : a = b :=
  Except.ok.inj (runs_throws_pure.mp h).2

@[simp] theorem runs_throw {e : ε} {es : List (Event Ans W)} {r : Except ε α} :
    (throw e : ExceptT ε (Prog Ans) α).run.Runs es r ↔ es = [] ∧ .error e = r := runs_ret

theorem runs_lift {p : Prog Ans α} {es : List (Event Ans W)} {r : Except ε α} :
    (ExceptT.lift p : ExceptT ε (Prog Ans) α).run.Runs es r ↔ ∃ a, p.Runs es a ∧ r = .ok a := by
  rw [run_lift, runs_bind]
  constructor
  · rintro ⟨es₁, es₂, a, rfl, h, h'⟩
    obtain ⟨rfl, rfl⟩ := runs_ret.mp h'
    exact ⟨a, by rwa [List.append_nil], rfl⟩
  · rintro ⟨a, h, rfl⟩
    exact ⟨es, [], a, by rw [List.append_nil], h, runs_ret.mpr ⟨rfl, rfl⟩⟩

theorem runs_attempt {es : List (Event Ans W)} {r : Except ε α} :
    (attempt x).run.Runs es (.ok r) ↔ x.run.Runs es r := by
  rw [attempt, runs_lift]
  simp

theorem Issues.throws_bind (hx : x.run.Issues P past)
    (hf : ∀ es a, x.run.Runs es (.ok a) → (f a).run.Issues P (past ++ es)) :
    (x >>= f).run.Issues P past := by
  rw [ExceptT.run_bind]
  refine hx.bind fun es r h => ?_
  cases r with
  | ok a => exact hf es a h
  | error e => exact issues_ret _

/-- The form of `Issues.throws_bind` for a condition that holds of the rest after any history. -/
theorem Issues.throws_bind' (hx : x.run.Issues P past) (hf : ∀ past a, (f a).run.Issues P past) :
    (x >>= f).run.Issues P past :=
  hx.throws_bind fun _ _ _ => hf _ _

theorem issues_lift {p : Prog Ans α} (h : p.Issues P past) :
    (ExceptT.lift p : ExceptT ε (Prog Ans) α).run.Issues P past := by
  rw [run_lift]
  exact h.bind' fun _ _ => issues_ret _

theorem issues_attempt (h : x.run.Issues P past) : (attempt x).run.Issues P past := issues_lift h

@[simp] theorem issues_throws_pure (a : α) :
    (pure a : ExceptT ε (Prog Ans) α).run.Issues P past := trivial

@[simp] theorem issues_throw (e : ε) : (throw e : ExceptT ε (Prog Ans) α).run.Issues P past := trivial

end Throws

/-! ## Undisturbed histories -/

/-- A history that leads from one world to another with nothing in between, every event being
served as `S` says. -/
def Chain (S : (o : Op) → W → Ans o → W → Prop) : W → List (Event Ans W) → W → Prop
  | w, [], w' => w = w'
  | w, e :: es, w' => e.pre = w ∧ S e.op e.pre e.ans e.post ∧ Chain S e.post es w'

theorem chain_append {S : (o : Op) → W → Ans o → W → Prop} {es fs : List (Event Ans W)}
    {w w' : W} : Chain S w (es ++ fs) w' ↔ ∃ u, Chain S w es u ∧ Chain S u fs w' := by
  induction es generalizing w with
  | nil => simp [Chain]
  | cons e es ih => simp [Chain, ih, and_assoc]

/-- The history of a program that a world serves as `S` says, the value it returns and the world at
the end. -/
def drive (S : (o : Op) → W → Ans o × W) : Prog Ans α → W → List (Event Ans W) × α × W
  | ret a, w => ([], a, w)
  | await o k, w =>
    let rest := (k (S o w).1).drive S (S o w).2
    (⟨o, (S o w).1, w, (S o w).2⟩ :: rest.1, rest.2)

theorem runs_drive (S : (o : Op) → W → Ans o × W) (p : Prog Ans α) (w : W) :
    p.Runs (p.drive S w).1 (p.drive S w).2.1 := by
  induction p generalizing w with
  | ret a => exact .refl _
  | await o k ih => exact .step _ _ _ (ih (S o w).1 (S o w).2)

theorem chain_drive (S : (o : Op) → W → Ans o × W) (p : Prog Ans α) (w : W) :
    Chain (fun o w r w' => S o w = (r, w')) w (p.drive S w).1 (p.drive S w).2.2 := by
  induction p generalizing w with
  | ret a => rfl
  | await o k ih => exact ⟨rfl, rfl, ih (S o w).1 (S o w).2⟩

/-- The history of a program along given choices, each of which says how the next request is served,
the value it returns and the world at the end. -/
def play {Ch : Type} (S : (o : Op) → Ch → W → Option (Ans o × W)) :
    Prog Ans α → List Ch → W → Option (List (Event Ans W) × α × W)
  | ret a, [], w => some ([], a, w)
  | await o k, ch :: chs, w => (S o ch w).bind fun x =>
    ((k x.1).play S chs x.2).map fun y => (⟨o, x.1, w, x.2⟩ :: y.1, y.2)
  | _, _, _ => none

/-- A history along given choices is an undisturbed history of the program. -/
theorem runs_play {Ch : Type} {S : (o : Op) → Ch → W → Option (Ans o × W)} {p : Prog Ans α}
    {chs : List Ch} {w w' : W} {es : List (Event Ans W)} {a : α}
    (h : p.play S chs w = some (es, a, w')) :
    p.Runs es a ∧ Chain (fun o w r w' => ∃ ch, S o ch w = some (r, w')) w es w' := by
  induction p generalizing chs w es with
  | ret b =>
    cases chs with
    | nil => cases h; exact ⟨.refl _, rfl⟩
    | cons ch chs => cases h
  | await o k ih =>
    cases chs with
    | nil => cases h
    | cons ch chs =>
      obtain ⟨x, hx, hy⟩ := Option.bind_eq_some_iff.mp h
      obtain ⟨⟨fs, b, u⟩, hrest, heq⟩ := Option.map_eq_some_iff.mp hy
      cases heq
      obtain ⟨hruns, hchain⟩ := ih x.1 hrest
      exact ⟨.step _ _ _ hruns, rfl, ⟨ch, hx⟩, hchain⟩

theorem Chain.mono {S T : (o : Op) → W → Ans o → W → Prop} (hST : ∀ o w r w', S o w r w' → T o w r w')
    {es : List (Event Ans W)} {w w' : W} (h : Chain S w es w') : Chain T w es w' := by
  induction es generalizing w with
  | nil => exact h
  | cons e es ih => exact ⟨h.1, hST _ _ _ _ h.2.1, ih h.2.2⟩

/-- The steps of an undisturbed history. -/
theorem Chain.steps {S : (o : Op) → W → Ans o → W → Prop} {es : List (Event Ans W)} {w w' : W}
    (h : Chain S w es w') : ∀ e ∈ es, S e.op e.pre e.ans e.post := by
  induction es generalizing w with
  | nil => simp
  | cons e es ih => exact List.forall_mem_cons.mpr ⟨h.2.1, ih h.2.2⟩

/-! ## Expanding requests into programs -/

/-- Run the program `h o` in the place of every request `o`. -/
def expand {Op' : Type} {Ans' : Op' → Type} (h : ∀ o, Prog Ans' (Ans o)) :
    Prog Ans α → Prog Ans' α
  | ret a => ret a
  | await o k => (h o).bind fun r => (k r).expand h

@[simp] theorem expand_ret {Op' : Type} {Ans' : Op' → Type} (h : ∀ o, Prog Ans' (Ans o)) (a : α) :
    (ret a : Prog Ans α).expand h = ret a := rfl

@[simp] theorem expand_await {Op' : Type} {Ans' : Op' → Type} (h : ∀ o, Prog Ans' (Ans o)) (o : Op)
    (k : Ans o → Prog Ans α) : (await o k).expand h = h o >>= fun r => (k r).expand h := rfl

theorem expand_bind {Op' : Type} {Ans' : Op' → Type} (h : ∀ o, Prog Ans' (Ans o)) (p : Prog Ans α)
    (f : α → Prog Ans β) : (p >>= f).expand h = p.expand h >>= fun a => (f a).expand h := by
  induction p with
  | ret a => rfl
  | await o k ih =>
    rw [await_bind, expand_await, expand_await, bind_assoc]
    exact congrArg (h o >>= ·) (funext ih)

/-- The expansion of a body that throws. -/
def expandThrows {ε : Type} {Op' : Type} {Ans' : Op' → Type} (h : ∀ o, Prog Ans' (Ans o))
    (x : ExceptT ε (Prog Ans) α) : ExceptT ε (Prog Ans') α := ExceptT.mk (x.run.expand h)

section ExpandThrows

variable {ε : Type} {Op' : Type} {Ans' : Op' → Type} {h : ∀ o, Prog Ans' (Ans o)}

@[simp] theorem expandThrows_pure (a : α) :
    expandThrows h (pure a : ExceptT ε (Prog Ans) α) = pure a := rfl

@[simp] theorem expandThrows_throw (e : ε) :
    expandThrows h (throw e : ExceptT ε (Prog Ans) α) = throw e := rfl

theorem expandThrows_bind (x : ExceptT ε (Prog Ans) α) (f : α → ExceptT ε (Prog Ans) β) :
    expandThrows h (x >>= f) = expandThrows h x >>= fun a => expandThrows h (f a) := by
  refine ExceptT.ext ?_
  show ((x >>= f).run).expand h = _
  rw [ExceptT.run_bind, ExceptT.run_bind, expand_bind]
  refine congrArg (x.run.expand h >>= ·) (funext fun r => ?_)
  cases r with
  | ok a => rfl
  | error e => rfl

theorem expandThrows_attempt (x : ExceptT ε (Prog Ans) α) :
    expandThrows h (attempt x) = attempt (expandThrows h x) := by
  refine ExceptT.ext ?_
  show ((attempt x).run).expand h = _
  rw [attempt, attempt, run_lift, run_lift, expand_bind]
  rfl

end ExpandThrows

/-- `Expansion h es fs`: the history `fs` consists of a history of `h o` for every event of `es`. -/
inductive Expansion {Op' W' : Type} {Ans' : Op' → Type} (h : ∀ o, Prog Ans' (Ans o)) :
    List (Event Ans W) → List (Event Ans' W') → Prop
  | nil : Expansion h [] []
  | snoc {es : List (Event Ans W)} {fs gs : List (Event Ans' W')} {o : Op} {r : Ans o} (pre post : W) :
    Expansion h es fs → (h o).Runs gs r → Expansion h (es ++ [⟨o, r, pre, post⟩]) (fs ++ gs)

theorem expansion_snoc {Op' W' : Type} {Ans' : Op' → Type} {h : ∀ o, Prog Ans' (Ans o)}
    {es : List (Event Ans W)} {e : Event Ans W} {fs : List (Event Ans' W')} :
    Expansion h (es ++ [e]) fs ↔
      ∃ fs₁ gs, fs = fs₁ ++ gs ∧ Expansion h es fs₁ ∧ (h e.op).Runs gs e.ans := by
  constructor
  · intro hexp
    generalize hes : es ++ [e] = es' at hexp
    cases hexp with
    | nil => simp at hes
    | snoc pre post h₁ h₂ =>
      obtain ⟨rfl, hlast⟩ := List.append_inj' hes rfl
      obtain rfl := List.singleton_inj.mp hlast
      exact ⟨_, _, rfl, h₁, h₂⟩
  · rintro ⟨fs₁, gs, rfl, h₁, h₂⟩
    exact .snoc e.pre e.post h₁ h₂

theorem expansion_nil {Op' W' : Type} {Ans' : Op' → Type} {h : ∀ o, Prog Ans' (Ans o)}
    {fs : List (Event Ans' W')} (hexp : Expansion h ([] : List (Event Ans W)) fs) : fs = [] := by
  generalize hes : ([] : List (Event Ans W)) = es at hexp
  cases hexp with
  | nil => rfl
  | snoc pre post _ _ => simp at hes

theorem expansion_singleton {Op' W' : Type} {Ans' : Op' → Type} {h : ∀ o, Prog Ans' (Ans o)}
    {e : Event Ans W} {fs : List (Event Ans' W')} (hexp : Expansion h [e] fs) : (h e.op).Runs fs e.ans := by
  obtain ⟨fs₁, gs, rfl, hnil, hrun⟩ := expansion_snoc.mp (show Expansion h ([] ++ [e]) fs from hexp)
  rwa [expansion_nil hnil, List.nil_append]

theorem expansion_append {Op' W' : Type} {Ans' : Op' → Type} {h : ∀ o, Prog Ans' (Ans o)}
    {es es' : List (Event Ans W)} {fs : List (Event Ans' W')} (hexp : Expansion h (es ++ es') fs) :
    ∃ fs₁ fs₂, fs = fs₁ ++ fs₂ ∧ Expansion h es fs₁ ∧ Expansion h es' fs₂ := by
  induction es' using List.reverseRecOn generalizing fs with
  | nil => exact ⟨fs, [], (List.append_nil _).symm, by rwa [List.append_nil] at hexp, .nil⟩
  | append_singleton es' e ih =>
    rw [← List.append_assoc] at hexp
    obtain ⟨fs₀, gs, rfl, hexp₀, hrun⟩ := expansion_snoc.mp hexp
    obtain ⟨fs₁, fs₂, rfl, h₁, h₂⟩ := ih hexp₀
    exact ⟨fs₁, fs₂ ++ gs, List.append_assoc _ _ _, h₁, expansion_snoc.mpr ⟨fs₂, gs, rfl, h₂, hrun⟩⟩

/-- A program issues what it waits for after a history of its own. -/
theorem issues_after (p : Prog Ans α) (past : List (Event Ans W)) : p.Issues
    (fun past' o => ∃ (gs : List (Event Ans W)) (k : Ans o → Prog Ans α),
      past' = past ++ gs ∧ p.After gs (await o k)) past := by
  induction p generalizing past with
  | ret a => trivial
  | await o k ih =>
    refine ⟨⟨[], k, by simp, .refl _⟩, fun r pre post => (ih r _).mono ?_⟩
    rintro past' o' ⟨gs, k', rfl, h⟩
    exact ⟨⟨o, r, pre, post⟩ :: gs, k', by simp, .step r pre post h⟩

/-- The request `o'` is one of the expansion of a request that satisfies `P`, and the history is an
expansion of the history of that request. -/
def Expanded {Op' W' : Type} {Ans' : Op' → Type} (h : ∀ o, Prog Ans' (Ans o))
    (P : List (Event Ans W) → Op → Prop) (fs : List (Event Ans' W')) (o' : Op') : Prop :=
  ∃ (es : List (Event Ans W)) (o : Op) (fs₁ gs : List (Event Ans' W')) (k : Ans' o' → Prog Ans' (Ans o)),
    P es o ∧ Expansion h es fs₁ ∧ fs = fs₁ ++ gs ∧ (h o).After gs (await o' k)

/-- **What an expanded program issues**: a request of the expansion of a request that the program
issues, after an expansion of the program's history. -/
theorem issues_expand {Op' W' : Type} {Ans' : Op' → Type} {h : ∀ o, Prog Ans' (Ans o)} (w : W)
    {p : Prog Ans α} {es : List (Event Ans W)} {fs : List (Event Ans' W')} (hp : p.Issues P es)
    (hexp : Expansion h es fs) : (p.expand h).Issues (Expanded h P) fs := by
  induction p generalizing es fs with
  | ret a => trivial
  | await o k ih =>
    have hfirst : (h o).Issues (Expanded h P) fs := by
      refine (issues_after (h o) fs).mono ?_
      rintro fs' o' ⟨gs, k', rfl, hafter⟩
      exact ⟨es, o, fs, gs, k', hp.1, hexp, rfl, hafter⟩
    exact hfirst.bind fun gs r hr => ih r (hp.2 r w w) (.snoc w w hexp hr)

/-! ## Fixed answers -/

/-- The value of a program when every request `o` is answered by `env o`. -/
def eval (env : ∀ o, Ans o) : Prog Ans α → α
  | ret a => a
  | await o k => (k (env o)).eval env

@[simp] theorem eval_ret (env : ∀ o, Ans o) (a : α) : (ret a : Prog Ans α).eval env = a := rfl

@[simp] theorem eval_request (env : ∀ o, Ans o) (o : Op) : (request o).eval env = env o := rfl

@[simp] theorem eval_bind (env : ∀ o, Ans o) (p : Prog Ans α) (f : α → Prog Ans β) :
    (p >>= f).eval env = (f (p.eval env)).eval env := by
  induction p with
  | ret a => rfl
  | await o k ih => exact ih (env o)

/-- The history of a program when every request `o` is answered by `env o`. -/
def trace (env : ∀ o, Ans o) (w : W) : Prog Ans α → List (Event Ans W)
  | ret _ => []
  | await o k => ⟨o, env o, w, w⟩ :: (k (env o)).trace env w

theorem runs_trace (env : ∀ o, Ans o) (w : W) (p : Prog Ans α) :
    p.Runs (p.trace env w) (p.eval env) := by
  induction p with
  | ret a => exact .refl _
  | await o k ih => exact .step _ _ _ (ih (env o))

theorem runs_of_eval {env : ∀ o, Ans o} {p : Prog Ans α} {a : α} (w : W) (h : p.eval env = a) :
    p.Runs (p.trace env w) a := by
  rw [← h]
  exact runs_trace env w p

theorem trace_bind (env : ∀ o, Ans o) (w : W) (p : Prog Ans α) (f : α → Prog Ans β) :
    (p >>= f).trace env w = p.trace env w ++ (f (p.eval env)).trace env w := by
  induction p with
  | ret a => rfl
  | await o k ih => exact congrArg (_ :: ·) (ih (env o))

section EvalThrows

variable {ε : Type} {env : ∀ o, Ans o}

@[simp] theorem eval_throws_pure (a : α) :
    (pure a : ExceptT ε (Prog Ans) α).run.eval env = .ok a := rfl

@[simp] theorem eval_throw (e : ε) :
    (throw e : ExceptT ε (Prog Ans) α).run.eval env = .error e := rfl

@[simp] theorem eval_lift_request (o : Op) :
    (ExceptT.lift (request o) : ExceptT ε (Prog Ans) (Ans o)).run.eval env = .ok (env o) := rfl

@[simp] theorem eval_attempt (x : ExceptT ε (Prog Ans) α) :
    (attempt x).run.eval env = .ok (x.run.eval env) := by
  rw [attempt, run_lift, eval_bind, eval_ret]

/-- The history of `x >>= f` begins with the history of `x`. -/
theorem trace_throws_bind (x : ExceptT ε (Prog Ans) α) (f : α → ExceptT ε (Prog Ans) β) (w : W) :
    ∃ es, (x >>= f).run.trace env w = x.run.trace env w ++ es := by
  rw [ExceptT.run_bind, trace_bind]
  exact ⟨_, rfl⟩

theorem trace_attempt (x : ExceptT ε (Prog Ans) α) (w : W) :
    (attempt x).run.trace env w = x.run.trace env w := by
  rw [attempt, run_lift, trace_bind]
  exact List.append_nil _

/-- A body that goes on after `x` returns what `x` and the rest return. -/
theorem eval_ok_bind {x : ExceptT ε (Prog Ans) α} {f : α → ExceptT ε (Prog Ans) β} {b : β} :
    (x >>= f).run.eval env = .ok b ↔
      ∃ a, x.run.eval env = .ok a ∧ (f a).run.eval env = .ok b := by
  rw [ExceptT.run_bind, eval_bind]
  cases x.run.eval env with
  | ok a => simp
  | error e => simp

end EvalThrows

end Prog

end Async
