import Benchmarker.Async.Uses

/-!
# A program that runs alone

The weakest precondition of a program over the worlds that it runs through, when nothing comes between
its requests.

* `Prog.Alone`. **`alone_bind`**, `alone_throws_bind`, `alone_attempt`: it composes. `Alone.mono`, `Alone.strengthen`.
* `Returns`, **`Alone.throws_bind`**: a body that returns. `alone_uses`: what is known of a program from its requests only.
* **`Alone.runs`**: what it says about an undisturbed history.
-/

namespace Async

namespace Prog

variable {Op : Type} {Ans : Op → Type} {α β ε W : Type}

/-- From the world `w` and after the history `past`, with every request served as `S` says, `p` ends in
`Q`. -/
def Alone (S : (o : Op) → W → Ans o → W → Prop) (Q : List (Event Ans W) → α → W → Prop) :
    List (Event Ans W) → W → Prog Ans α → Prop
  | past, w, ret a => Q past a w
  | past, w, await o k =>
    ∀ r w', S o w r w' → (k r).Alone S Q (past ++ [⟨o, r, w, w'⟩]) w'

variable {S : (o : Op) → W → Ans o → W → Prop} {Q Q' : List (Event Ans W) → α → W → Prop}
variable {past : List (Event Ans W)} {w : W}

@[simp] theorem alone_ret {a : α} : (ret a : Prog Ans α).Alone S Q past w ↔ Q past a w := Iff.rfl

theorem Alone.mono {p : Prog Ans α} (h : p.Alone S Q past w) (hQ : ∀ es a w, Q es a w → Q' es a w) :
    p.Alone S Q' past w := by
  induction p generalizing past w with
  | ret a => exact hQ past a w h
  | await o k ih => exact fun r w' hr => ih r (h r w' hr)

theorem Alone.strengthen {T : (o : Op) → W → Ans o → W → Prop} {p : Prog Ans α} (h : p.Alone S Q past w)
    (hT : ∀ o w r w', T o w r w' → S o w r w') : p.Alone T Q past w := by
  induction p generalizing past w with
  | ret a => exact h
  | await o k ih => exact fun r w' hr => ih r (h r w' (hT o w r w' hr))

/-- **What a program that runs alone leads to, it leads to up to its `>>=` and after it.** -/
theorem alone_bind {p : Prog Ans α} {f : α → Prog Ans β} {Q : List (Event Ans W) → β → W → Prop} :
    (p >>= f).Alone S Q past w ↔ p.Alone S (fun es a w => (f a).Alone S Q es w) past w := by
  induction p generalizing past w with
  | ret a => rfl
  | await o k ih =>
    rw [await_bind]
    exact forall_congr' fun r => forall_congr' fun w' => imp_congr_right fun _ => ih r

section Throws

variable {x : ExceptT ε (Prog Ans) α} {f : α → ExceptT ε (Prog Ans) β}

/-- The form of `alone_bind` for bodies that throw. -/
theorem alone_throws_bind {Q : List (Event Ans W) → Except ε β → W → Prop} :
    (x >>= f).run.Alone S Q past w ↔
      x.run.Alone S (fun es r w => match r with
        | .ok a => (f a).run.Alone S Q es w
        | .error e => Q es (.error e) w) past w := by
  rw [ExceptT.run_bind, alone_bind]
  constructor
  · intro h
    refine h.mono fun es r w hr => ?_
    cases r with
    | ok a => exact hr
    | error e => exact hr
  · intro h
    refine h.mono fun es r w hr => ?_
    cases r with
    | ok a => exact hr
    | error e => exact hr

@[simp] theorem alone_throws_pure {a : α} {Q : List (Event Ans W) → Except ε α → W → Prop} :
    (pure a : ExceptT ε (Prog Ans) α).run.Alone S Q past w ↔ Q past (.ok a) w := Iff.rfl

theorem alone_lift {p : Prog Ans α} {Q : List (Event Ans W) → Except ε α → W → Prop} :
    (ExceptT.lift p : ExceptT ε (Prog Ans) α).run.Alone S Q past w ↔
      p.Alone S (fun es a w => Q es (.ok a) w) past w := by
  rw [run_lift, alone_bind]
  rfl

theorem alone_attempt {Q : List (Event Ans W) → Except ε (Except ε α) → W → Prop} :
    (attempt x).run.Alone S Q past w ↔ x.run.Alone S (fun es r w => Q es (.ok r) w) past w := alone_lift

/-- The body returns, in `R`. -/
def Returns (R : List (Event Ans W) → α → W → Prop) (es : List (Event Ans W)) (r : Except ε α) (w : W) :
    Prop := ∃ a, r = .ok a ∧ R es a w

variable {R : List (Event Ans W) → α → W → Prop}

/-- **The rule for a sequence whose first part returns.** -/
theorem Alone.throws_bind {Q : List (Event Ans W) → Except ε β → W → Prop}
    (hx : x.run.Alone S (Returns R) past w) (hf : ∀ es a w, R es a w → (f a).run.Alone S Q es w) :
    (x >>= f).run.Alone S Q past w := by
  refine alone_throws_bind.2 (hx.mono fun es r w hr => ?_)
  obtain ⟨a, rfl, ha⟩ := hr
  exact hf es a w ha

end Throws

/-- A program adds requests to the history that it uses. -/
theorem alone_uses {q : Op → Prop} {p : Prog Ans α} (h : p.Uses q) :
    p.Alone S (fun es _ _ => ∃ fs, es = past ++ fs ∧ ∀ e ∈ fs, q e.op) past w := by
  induction p generalizing past w with
  | ret a => exact ⟨[], (List.append_nil past).symm, fun _ he => absurd he List.not_mem_nil⟩
  | await o k ih =>
    intro r w' _
    refine (ih r (h.2 r)).mono fun es _ _ hes => ?_
    obtain ⟨fs, rfl, hfs⟩ := hes
    refine ⟨_ :: fs, List.append_assoc _ _ _, fun e he => ?_⟩
    rcases List.mem_cons.1 he with rfl | he
    · exact h.1
    · exact hfs e he

/-- **An undisturbed history ends as the program does alone.** -/
theorem Alone.runs {p : Prog Ans α} {es : List (Event Ans W)} {a : α} {w' : W}
    (h : p.Alone S Q past w) (hr : p.Runs es a) (hes : Chain S w es w') : Q (past ++ es) a w' := by
  induction p generalizing past w es with
  | ret b =>
    obtain ⟨rfl, hb⟩ := after_ret_iff.1 hr
    obtain rfl := hes
    rw [List.append_nil]
    cases hb
    exact h
  | await o k ih =>
    obtain ⟨r, pre, post, es, rfl, hk⟩ := runs_await.1 hr
    obtain ⟨rfl, hs, hes⟩ := hes
    have htail := ih r (h r post hs) hk hes
    rwa [List.append_assoc] at htail

end Prog

end Async
