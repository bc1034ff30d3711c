import Benchmarker.Async.Prog

/-!
# What a program ensures

The weakest precondition of a program over its history. Whatever admitted answers come, every request
satisfies a condition at the history before it, and the history and the returned value satisfy another
one at the end.

* `Prog.Ensures`. **`ensures_bind`**, `ensures_throws_bind`: it composes. `Ensures.mono`.
* **`Ensures.issued`**, **`Ensures.runs`**: what it says about a history.
-/

namespace Async

namespace Prog

variable {Op : Type} {Ans : Op → Type} {α β ε W : Type}

/-- Whatever answers come that satisfy `A`, every request of `p` satisfies `P` at the history before it,
and `p` ends in `Q`. -/
def Ensures (A : (o : Op) → Ans o → Prop) (P : List (Event Ans W) → Op → Prop)
    (Q : List (Event Ans W) → α → Prop) : List (Event Ans W) → Prog Ans α → Prop
  | past, ret a => Q past a
  | past, await o k => P past o ∧
      ∀ r pre post, A o r → (k r).Ensures A P Q (past ++ [⟨o, r, pre, post⟩])

variable {A : (o : Op) → Ans o → Prop} {P : List (Event Ans W) → Op → Prop}
variable {Q Q' : List (Event Ans W) → α → Prop} {past : List (Event Ans W)}

@[simp] theorem ensures_ret {a : α} : (ret a : Prog Ans α).Ensures A P Q past ↔ Q past a := Iff.rfl

theorem ensures_await {o : Op} {k : Ans o → Prog Ans α} : (await o k).Ensures A P Q past ↔
    P past o ∧ ∀ r pre post, A o r → (k r).Ensures A P Q (past ++ [⟨o, r, pre, post⟩]) := Iff.rfl

theorem Ensures.mono {p : Prog Ans α} (h : p.Ensures A P Q past) (hQ : ∀ es a, Q es a → Q' es a) :
    p.Ensures A P Q' past := by
  induction p generalizing past with
  | ret a => exact hQ past a h
  | await o k ih => exact ⟨h.1, fun r pre post hr => ih r (h.2 r pre post hr)⟩

/-- **What a program ensures, it ensures up to its `>>=` and after it.** -/
theorem ensures_bind {p : Prog Ans α} {f : α → Prog Ans β} {Q : List (Event Ans W) → β → Prop} :
    (p >>= f).Ensures A P Q past ↔ p.Ensures A P (fun es a => (f a).Ensures A P Q es) past := by
  induction p generalizing past with
  | ret a => rfl
  | await o k ih =>
    rw [await_bind, ensures_await, ensures_await]
    simp only [ih]

/-- The form of `ensures_bind` for bodies that throw. -/
theorem ensures_throws_bind {x : ExceptT ε (Prog Ans) α} {f : α → ExceptT ε (Prog Ans) β}
    {Q : List (Event Ans W) → Except ε β → Prop} : (x >>= f).run.Ensures A P Q past ↔
      x.run.Ensures A P (fun es r => match r with
        | .ok a => (f a).run.Ensures A P Q es
        | .error e => Q es (.error e)) past := by
  rw [ExceptT.run_bind, ensures_bind]
  constructor
  · intro h
    refine h.mono fun es r hr => ?_
    cases r with
    | ok a => exact hr
    | error e => exact hr
  · intro h
    refine h.mono fun es r hr => ?_
    cases r with
    | ok a => exact hr
    | error e => exact hr

@[simp] theorem ensures_throws_pure {a : α} {Q : List (Event Ans W) → Except ε α → Prop} :
    (pure a : ExceptT ε (Prog Ans) α).run.Ensures A P Q past ↔ Q past (.ok a) := Iff.rfl

theorem ensures_attempt {x : ExceptT ε (Prog Ans) α} {Q : List (Event Ans W) → Except ε (Except ε α) → Prop} :
    (attempt x).run.Ensures A P Q past ↔ x.run.Ensures A P (fun es r => Q es (.ok r)) past := by
  rw [attempt, run_lift, ensures_bind]
  rfl

/-- The condition travels along a history. -/
theorem Ensures.after {p q : Prog Ans α} {es : List (Event Ans W)} (h : p.Ensures A P Q past)
    (ha : p.After es q) (hes : ∀ e ∈ es, A e.op e.ans) : q.Ensures A P Q (past ++ es) := by
  induction ha generalizing past with
  | refl p => rwa [List.append_nil]
  | step r pre post _ ih =>
    have htail := ih (h.2 r pre post (hes _ List.mem_cons_self))
      fun e he => hes e (List.mem_cons_of_mem _ he)
    rwa [List.append_assoc] at htail

/-- **Every request of a history satisfies the condition at the events before it.** -/
theorem Ensures.issued {p q : Prog Ans α} {es : List (Event Ans W)} (h : p.Ensures A P Q past)
    (ha : p.After es q) (hes : ∀ e ∈ es, A e.op e.ans) :
    ∀ fs e gs, es = fs ++ e :: gs → P (past ++ fs) e.op := by
  induction ha generalizing past with
  | refl p =>
    intro fs e gs he
    simp at he
  | step r pre post _ ih =>
    intro fs e gs he
    cases fs with
    | nil =>
      obtain ⟨rfl, -⟩ := List.cons.inj he
      rw [List.append_nil]
      exact h.1
    | cons f fs =>
      obtain ⟨rfl, rfl⟩ := List.cons.inj he
      have htail := ih (h.2 r pre post (hes _ List.mem_cons_self))
        (fun e he => hes e (List.mem_cons_of_mem _ he)) fs e gs rfl
      rwa [List.append_assoc] at htail

/-- **A finished history satisfies the last condition.** -/
theorem Ensures.runs {p : Prog Ans α} {es : List (Event Ans W)} {a : α} (h : p.Ensures A P Q past)
    (hr : p.Runs es a) (hes : ∀ e ∈ es, A e.op e.ans) : Q (past ++ es) a :=
  h.after hr hes

end Prog

end Async
