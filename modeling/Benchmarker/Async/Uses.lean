import Benchmarker.Async.Prog

/-!
# Which requests a program issues

* `Uses q p`: every request that `p` may issue satisfies `q`, whatever the answers are.
* `uses_bind`, `uses_throws_bind`, `uses_attempt`: the condition composes.
* **`Uses.events`**: it holds of every event of a history; `Uses.issues`: it is a condition on the
  issued requests. `filter_events_eq_nil`: what a history does not contain.
* `next`, `Follows R p`: the request that a program goes on with after an answer; **`Follows.after`**.
* `Built B p`: `p` is put together from programs that satisfy `B`. **`Built.issues`**.
* `ThrowsOn c x`: `x` throws exactly when an event of its history satisfies `c`.
-/

namespace Async.Prog

variable {Op : Type} {Ans : Op → Type} {α β W ε : Type} {q : Op → Prop}

/-- Every request that the program may issue satisfies `q`. -/
def Uses (q : Op → Prop) : Prog Ans α → Prop
  | ret _ => True
  | await o k => q o ∧ ∀ r, (k r).Uses q

@[simp] theorem uses_ret (a : α) : (ret a : Prog Ans α).Uses q := trivial

@[simp] theorem uses_request {o : Op} : (request o : Prog Ans (Ans o)).Uses q ↔ q o :=
  and_iff_left fun _ => trivial

theorem Uses.mono {q' : Op → Prop} {p : Prog Ans α} (h : p.Uses q) (hq : ∀ o, q o → q' o) :
    p.Uses q' := by
  induction p with
  | ret a => trivial
  | await o k ih => exact ⟨hq o h.1, fun r => ih r (h.2 r)⟩

theorem uses_bind {p : Prog Ans α} {f : α → Prog Ans β} (hp : p.Uses q)
    (hf : ∀ a, (f a).Uses q) : (p >>= f).Uses q := by
  induction p with
  | ret a => exact hf a
  | await o k ih => exact ⟨hp.1, fun r => ih r (hp.2 r)⟩

theorem Uses.expand {Op' : Type} {Ans' : Op' → Type} {h : ∀ o, Prog Ans' (Ans o)}
    {q' : Op' → Prop} {p : Prog Ans α} (hp : p.Uses q) (hh : ∀ o, q o → (h o).Uses q') :
    (p.expand h).Uses q' := by
  induction p with
  | ret a => trivial
  | await o k ih => exact uses_bind (hh o hp.1) fun r => ih r (hp.2 r)

theorem uses_expand {Op' : Type} {Ans' : Op' → Type} {h : ∀ o, Prog Ans' (Ans o)}
    {q' : Op' → Prop} (hh : ∀ o, (h o).Uses q') (p : Prog Ans α) : (p.expand h).Uses q' := by
  induction p with
  | ret a => trivial
  | await o k ih => exact uses_bind (hh o) ih

theorem Uses.after {p p' : Prog Ans α} {es : List (Event Ans W)} (h : p.Uses q) (ha : p.After es p') :
    p'.Uses q := by
  induction ha with
  | refl p => exact h
  | step r pre post _ ih => exact ih (h.2 r)

/-! ## What follows a request -/

/-- The request that the program waits for; none when it has returned. -/
def next : Prog Ans α → Option Op
  | ret _ => none
  | await o _ => some o

/-- Whatever answer a request gets, `R` relates the two to the request that the program goes on with. -/
def Follows (R : (o : Op) → Ans o → Option Op → Prop) : Prog Ans α → Prop
  | ret _ => True
  | await o k => ∀ r, R o r (k r).next ∧ (k r).Follows R

variable {R : (o : Op) → Ans o → Option Op → Prop}

@[simp] theorem follows_ret (a : α) : (ret a : Prog Ans α).Follows R := trivial

theorem follows_await {o : Op} {k : Ans o → Prog Ans α} :
    (await o k).Follows R ↔ ∀ r, R o r (k r).next ∧ (k r).Follows R := Iff.rfl

/-- **The relation travels along a history.** -/
theorem Follows.after {p q : Prog Ans α} {es : List (Event Ans W)} (h : p.Follows R)
    (ha : p.After es q) : q.Follows R := by
  induction ha with
  | refl p => exact h
  | step r pre post _ ih => exact ih (h r).2

section Throws

variable {x : ExceptT ε (Prog Ans) α} {f : α → ExceptT ε (Prog Ans) β}

theorem uses_throws_bind (hx : x.run.Uses q) (hf : ∀ a, (f a).run.Uses q) :
    (x >>= f).run.Uses q := by
  rw [ExceptT.run_bind]
  refine uses_bind hx fun r => ?_
  cases r with
  | ok a => exact hf a
  | error e => exact uses_ret _

@[simp] theorem uses_throws_pure (a : α) : (pure a : ExceptT ε (Prog Ans) α).run.Uses q := trivial

@[simp] theorem uses_throw (e : ε) : (throw e : ExceptT ε (Prog Ans) α).run.Uses q := trivial

theorem uses_lift {p : Prog Ans α} (h : p.Uses q) :
    (ExceptT.lift p : ExceptT ε (Prog Ans) α).run.Uses q := by
  rw [run_lift]
  exact uses_bind h fun _ => uses_ret _

theorem uses_attempt (h : x.run.Uses q) : (attempt x).run.Uses q := uses_lift h

theorem uses_ite {c : Prop} [Decidable c] {y : ExceptT ε (Prog Ans) α} (hx : x.run.Uses q)
    (hy : y.run.Uses q) : (if c then x else y).run.Uses q := by
  split_ifs
  · exact hx
  · exact hy

end Throws

/-! ## Histories -/

/-- **Every event of a history satisfies the condition.** -/
theorem Uses.events {p p' : Prog Ans α} {es : List (Event Ans W)} (h : p.Uses q)
    (ha : p.After es p') : ∀ e ∈ es, q e.op := by
  induction ha with
  | refl p => simp
  | step r pre post _ ih => exact List.forall_mem_cons.mpr ⟨h.1, ih (h.2 r)⟩

/-- A condition on the issued requests that does not look at the history. -/
theorem Issues.uses (w : W) {p : Prog Ans α} {past : List (Event Ans W)}
    (h : p.Issues (fun _ o => q o) past) : p.Uses q := by
  induction p generalizing past with
  | ret a => trivial
  | await o k ih => exact ⟨h.1, fun r => ih r (h.2 r w w)⟩

theorem Uses.issues {p : Prog Ans α} (h : p.Uses q) (past : List (Event Ans W)) :
    p.Issues (fun _ o => q o) past := by
  induction p generalizing past with
  | ret a => trivial
  | await o k ih => exact ⟨h.1, fun r _ _ => ih r (h.2 r) _⟩

/-- What the requests of an expansion satisfy. -/
theorem expansion_events {Op' W' : Type} {Ans' : Op' → Type} {h : ∀ o, Prog Ans' (Ans o)}
    {q' : Op' → Prop} (hh : ∀ o, q o → (h o).Uses q') {es : List (Event Ans W)}
    {fs : List (Event Ans' W')} (hexp : Expansion h es fs) (hes : ∀ e ∈ es, q e.op) : ∀ f ∈ fs, q' f.op := by
  induction hexp with
  | nil => simp
  | snoc pre post _ hrun ih =>
    obtain ⟨hpast, hlast⟩ := List.forall_mem_append.mp hes
    intro f hf
    rcases List.mem_append.mp hf with hf | hf
    · exact ih hpast f hf
    · exact (hh _ (hlast _ (List.mem_singleton_self _))).events hrun f hf

/-- A program issues the requests that it uses after the history that it starts from. -/
theorem Uses.issues_from {p : Prog Ans α} (h : p.Uses q) (past : List (Event Ans W)) :
    p.Issues (fun past' o => q o ∧ ∃ es, past' = past ++ es) past := by
  refine (issues_after p past).mono ?_
  rintro past' o ⟨es, k, rfl, hafter⟩
  exact ⟨(h.after hafter).1, es, rfl⟩

/-- The events that a history gains satisfy what the issued requests do. -/
theorem Uses.issues_all {R : Event Ans W → Prop} (hR : ∀ e : Event Ans W, q e.op → R e) {p : Prog Ans α}
    (h : p.Uses q) {past : List (Event Ans W)} (hpast : ∀ e ∈ past, R e) :
    p.Issues (fun past o => q o ∧ ∀ e ∈ past, R e) past := by
  induction p generalizing past with
  | ret a => trivial
  | await o k ih =>
    refine ⟨⟨h.1, hpast⟩, fun r pre post => ih r (h.2 r) fun e he => ?_⟩
    rcases List.mem_append.mp he with he | he
    · exact hpast e he
    · rw [List.mem_singleton.mp he]
      exact hR _ h.1

theorem filter_events_eq_nil {p p' : Prog Ans α} {es : List (Event Ans W)} {c : Op → Bool}
    (h : p.Uses fun o => c o = false) (ha : p.After es p') :
    (es.map (·.op)).filter c = [] := by
  rw [List.filter_eq_nil_iff]
  intro o ho
  obtain ⟨e, he, rfl⟩ := List.mem_map.mp ho
  rw [h.events ha e he]
  decide

/-! ## Parts -/

/-- The program is put together from programs that satisfy `B`. -/
inductive Built (B : (α : Type) → Prog Ans α → Prop) : {α : Type} → Prog Ans α → Prop
  | part {α : Type} {p : Prog Ans α} : B α p → Built B p
  | ret {α : Type} (a : α) : Built B (ret a)
  | bind {α β : Type} {p : Prog Ans α} {f : α → Prog Ans β} : Built B p → (∀ a, Built B (f a)) →
    Built B (p >>= f)

section Built

variable {B : (α : Type) → Prog Ans α → Prop}

/-- **A condition that every part satisfies after any history is satisfied by the whole.** -/
theorem Built.issues {P : List (Event Ans W) → Op → Prop}
    (hB : ∀ α (p : Prog Ans α), B α p → ∀ past, p.Issues P past) {p : Prog Ans α} (h : Built B p)
    (past : List (Event Ans W)) : p.Issues P past := by
  induction h generalizing past with
  | part hp => exact hB _ _ hp past
  | ret a => trivial
  | bind _ _ ihp ihf => exact (ihp past).bind fun es a _ => ihf a (past ++ es)

variable {x : ExceptT ε (Prog Ans) α} {f : α → ExceptT ε (Prog Ans) β}

theorem built_throws_bind (hx : Built B x.run) (hf : ∀ a, Built B (f a).run) : Built B (x >>= f).run := by
  rw [ExceptT.run_bind]
  refine .bind hx fun r => ?_
  cases r with
  | ok a => exact hf a
  | error e => exact .ret _

theorem built_throws_pure (a : α) : Built B (pure a : ExceptT ε (Prog Ans) α).run := .ret _

theorem built_throw (e : ε) : Built B (throw e : ExceptT ε (Prog Ans) α).run := .ret _

theorem built_lift {p : Prog Ans α} (h : Built B p) :
    Built B (ExceptT.lift p : ExceptT ε (Prog Ans) α).run := by
  rw [run_lift]
  exact .bind h fun _ => .ret _

theorem built_attempt (h : Built B x.run) : Built B (attempt x).run := built_lift h

theorem built_ite {c : Prop} [Decidable c] {y : ExceptT ε (Prog Ans) α} (hx : Built B x.run)
    (hy : Built B y.run) : Built B (if c then x else y).run := by
  split_ifs
  · exact hx
  · exact hy

end Built

/-! ## Throws -/

/-- The body throws exactly when an event of its history satisfies `c`. -/
def ThrowsOn (c : Event Ans W → Bool) (x : ExceptT ε (Prog Ans) α) : Prop :=
  ∀ es r, x.run.Runs es r → ((∃ e, r = .error e) ↔ ∃ v ∈ es, c v = true)

section ThrowsOn

variable {c : Event Ans W → Bool} {x : ExceptT ε (Prog Ans) α} {f : α → ExceptT ε (Prog Ans) β}

theorem throwsOn_bind (hx : ThrowsOn c x) (hf : ∀ a, ThrowsOn c (f a)) : ThrowsOn c (x >>= f) := by
  intro es r h
  rcases runs_throws_bind.mp h with ⟨es₁, es₂, a, rfl, h₁, h₂⟩ | ⟨e, h₁, rfl⟩
  · have hnone : ¬∃ v ∈ es₁, c v = true := fun hv => by
      obtain ⟨e, he⟩ := (hx _ _ h₁).mpr hv
      cases he
    rw [hf a _ _ h₂]
    constructor
    · rintro ⟨v, hv, hc⟩
      exact ⟨v, List.mem_append_right _ hv, hc⟩
    · rintro ⟨v, hv, hc⟩
      rcases List.mem_append.mp hv with hv | hv
      · exact absurd ⟨v, hv, hc⟩ hnone
      · exact ⟨v, hv, hc⟩
  · exact iff_of_true ⟨e, rfl⟩ ((hx _ _ h₁).mp ⟨e, rfl⟩)

theorem throwsOn_pure (a : α) : ThrowsOn c (pure a : ExceptT ε (Prog Ans) α) := by
  intro es r h
  obtain ⟨rfl, rfl⟩ := runs_throws_pure.mp h
  simp

/-- A program that cannot throw, and whose events do not satisfy `c`. -/
theorem throwsOn_lift {p : Prog Ans α} (h : ∀ es a, p.Runs es a → ∀ v ∈ es, c v = false) :
    ThrowsOn c (ExceptT.lift p : ExceptT ε (Prog Ans) α) := by
  intro es r hr
  obtain ⟨a, ha, rfl⟩ := runs_lift.mp hr
  refine iff_of_false (fun ⟨e, he⟩ => nomatch he) fun ⟨v, hv, hc⟩ => ?_
  rw [h es a ha v hv] at hc
  cases hc

theorem throwsOn_attempt (h : ∀ es r, x.run.Runs es r → ∀ v ∈ es, c v = false) :
    ThrowsOn c (attempt x) := throwsOn_lift h

theorem throwsOn_ite {p : Prop} [Decidable p] {y : ExceptT ε (Prog Ans) α} (hx : ThrowsOn c x)
    (hy : ThrowsOn c y) : ThrowsOn c (if p then x else y) := by
  split_ifs
  · exact hx
  · exact hy

end ThrowsOn

end Async.Prog
