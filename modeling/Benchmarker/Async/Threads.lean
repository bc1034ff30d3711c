import Mathlib.Data.List.Perm.Basic
import Mathlib.Data.List.Flatten
import Benchmarker.Async.Prog

/-!
# Interleaved programs

Any number of calls run as threads over one world. A move starts a new call, serves the request
that some thread waits for, or lets the world change on its own; every order of moves is a run, so
two requests of one thread may have any requests of the others between them.

* `System`, `Thread`, `Cfg`, `Move`, `System.move`, `Reach`: the threads and their runs;
  `Reach ok` keeps to the moves that satisfy `ok`.
* `move_invoke`, `move_serve`, `move_pass`: what one move does.
* **`Reach.after`**, **`Reach.admitted_at`**, **`Reach.issues`**, **`Reach.chain`**: a thread's history
  is one of its program, its events answered what it waited for in worlds of the run, its pending
  request satisfies the condition of its program, and a relation that every move keeps links its
  events. `Reach.admitted`, `served`, `awaited`, `visited`: parts of it. **`Reach.restrict`**: a run keeps
  to the calls that its threads are.
* **`Reach.world_inv`**, **`Reach.le_one_of_fresh`**: invariants of the world, and counts that only
  the draw of a fresh name raises.
* `Cfg.events`, `events_serve`: the events of all threads; serving a request adds exactly one.
-/

namespace Async

open Prog

variable {Op Call W Choice Tick : Type} {Ans : Op → Type} {Ret : Call → Type}

/-- Calls that run as threads over one world. `client c` says that `c` may be called from outside;
the other calls are started by a request of a call, in whose `forks` they are. `serve` is partial: a choice
that does not describe an answer of the world is no move. -/
structure System (Ans : Op → Type) (Ret : Call → Type) (W Choice Tick : Type) where
  start : (c : Call) → Prog Ans (Ret c)
  client : Call → Bool
  forks : Call → Op → List Call
  serve : Call → (o : Op) → Choice → W → Option (Ans o × W)
  pass : Tick → W → W

/-- A running call: its history and what is left of its program. -/
structure Thread (Ans : Op → Type) (Ret : Call → Type) (W : Type) where
  call : Call
  past : List (Event Ans W)
  now : Prog Ans (Ret call)

/-- The request that a thread waits for; none when its call has returned. -/
def Thread.pending (th : Thread Ans Ret W) : Option Op :=
  match th.now with
  | .ret _ => none
  | .await o _ => some o

/-- The world and the threads, in the order in which they were started. -/
structure Cfg (Ans : Op → Type) (Ret : Call → Type) (W : Type) where
  world : W
  threads : List (Thread Ans Ret W)

/-- One move of a run. -/
inductive Move (Call Choice Tick : Type)
  | invoke (c : Call)
  | serve (i : ℕ) (ch : Choice)
  | pass (t : Tick)

namespace System

variable (S : System Ans Ret W Choice Tick)

/-- The thread of a call that has just been made. -/
def fresh (c : Call) : Thread Ans Ret W := ⟨c, [], S.start c⟩

/-- Serve the pending request of a thread. -/
def advance (w : W) (ch : Choice) : Thread Ans Ret W → Option (W × Thread Ans Ret W × List Call)
  | ⟨_, _, .ret _⟩ => none
  | ⟨c, past, .await o k⟩ =>
    (S.serve c o ch w).map fun a => (a.2, ⟨c, past ++ [⟨o, a.1, w, a.2⟩], k a.1⟩, S.forks c o)

/-- The configuration after a move; `none` when the move is not possible. -/
def move (cfg : Cfg Ans Ret W) : Move Call Choice Tick → Option (Cfg Ans Ret W)
  | .invoke c =>
    if S.client c then some { cfg with threads := cfg.threads ++ [S.fresh c] } else none
  | .serve i ch =>
    match cfg.threads[i]? with
    | none => none
    | some th => (S.advance cfg.world ch th).map fun a =>
        ⟨a.1, cfg.threads.set i a.2.1 ++ a.2.2.map S.fresh⟩
  | .pass t => some { cfg with world := S.pass t cfg.world }

/-- The configuration after a list of moves that all pass a test. -/
def run (ok : Cfg Ans Ret W → Move Call Choice Tick → Bool) :
    List (Move Call Choice Tick) → Cfg Ans Ret W → Option (Cfg Ans Ret W)
  | [], cfg => some cfg
  | m :: ms, cfg => if ok cfg m then (S.move cfg m).bind (run ok ms) else none

/-- The configurations that moves satisfying `ok` reach from the world `w₀`. -/
inductive Reach (ok : Cfg Ans Ret W → Move Call Choice Tick → Prop) (w₀ : W) :
    Cfg Ans Ret W → Prop
  | init : Reach ok w₀ ⟨w₀, []⟩
  | move {cfg cfg' : Cfg Ans Ret W} (m : Move Call Choice Tick) : Reach ok w₀ cfg → ok cfg m →
      S.move cfg m = some cfg' → Reach ok w₀ cfg'

/-- The configurations that any moves reach from the world `w₀`. -/
abbrev Reachable (w₀ : W) : Cfg Ans Ret W → Prop := S.Reach (fun _ _ => True) w₀

variable {S} {ok : Cfg Ans Ret W → Move Call Choice Tick → Prop} {w₀ : W} {cfg cfg' : Cfg Ans Ret W}

/-! ## What one move does -/

theorem move_invoke {c : Call} : S.move cfg (.invoke c) = some cfg' ↔
    S.client c = true ∧ cfg' = { cfg with threads := cfg.threads ++ [S.fresh c] } := by
  simp only [System.move, Option.ite_none_right_eq_some, Option.some.injEq, @eq_comm _ cfg']

theorem move_pass {t : Tick} : S.move cfg (.pass t) = some cfg' ↔
    cfg' = { cfg with world := S.pass t cfg.world } := by
  simp only [System.move, Option.some.injEq, @eq_comm _ cfg']

/-- **Serving a request** answers the thread that waits for it, changes the world as the server
does, and starts the calls that the request forks. -/
theorem move_serve {i : ℕ} {ch : Choice} : S.move cfg (.serve i ch) = some cfg' ↔
    ∃ (c : Call) (past : List (Event Ans W)) (o : Op) (k : Ans o → Prog Ans (Ret c)) (r : Ans o)
      (w' : W), cfg.threads[i]? = some ⟨c, past, .await o k⟩ ∧
      S.serve c o ch cfg.world = some (r, w') ∧
      cfg' = ⟨w', cfg.threads.set i ⟨c, past ++ [⟨o, r, cfg.world, w'⟩], k r⟩ ++
        (S.forks c o).map S.fresh⟩ := by
  simp only [System.move]
  cases hth : cfg.threads[i]? with
  | none => simp
  | some th =>
    obtain ⟨c, past, p⟩ := th
    cases p with
    | ret a =>
      simp only [System.advance, Option.map_none, reduceCtorEq, false_iff]
      rintro ⟨c', past', o, k, r, w', he, -⟩
      cases he
    | await o k =>
      simp only [System.advance, Option.map_map, Option.map_eq_some_iff, Function.comp_apply]
      constructor
      · rintro ⟨⟨r, w'⟩, hs, rfl⟩
        exact ⟨c, past, o, k, r, w', rfl, hs, rfl⟩
      · rintro ⟨c', past', o', k', r, w', he, hs, rfl⟩
        cases he
        exact ⟨(r, w'), hs, rfl⟩

/-- The threads after a move: an old one, a fresh one, or the one that was answered. -/
theorem mem_threads_move {m : Move Call Choice Tick} (h : S.move cfg m = some cfg')
    {th : Thread Ans Ret W} (hth : th ∈ cfg'.threads) :
    th ∈ cfg.threads ∨ (∃ c, th = S.fresh c) ∨
      ∃ (c : Call) (past : List (Event Ans W)) (o : Op) (k : Ans o → Prog Ans (Ret c)) (r : Ans o)
        (ch : Choice), (⟨c, past, .await o k⟩ : Thread Ans Ret W) ∈ cfg.threads ∧
        S.serve c o ch cfg.world = some (r, cfg'.world) ∧
        th = ⟨c, past ++ [⟨o, r, cfg.world, cfg'.world⟩], k r⟩ := by
  cases m with
  | invoke c =>
    obtain ⟨-, rfl⟩ := move_invoke.mp h
    rcases List.mem_append.mp hth with hth | hth
    · exact .inl hth
    · exact .inr (.inl ⟨c, List.mem_singleton.mp hth⟩)
  | pass t =>
    obtain rfl := move_pass.mp h
    exact .inl hth
  | serve i ch =>
    obtain ⟨c, past, o, k, r, w', hi, hs, rfl⟩ := move_serve.mp h
    rcases List.mem_append.mp hth with hth | hth
    · rcases List.mem_or_eq_of_mem_set hth with hth | rfl
      · exact .inl hth
      · exact .inr (.inr ⟨c, past, o, k, r, ch, List.mem_of_getElem? hi, hs, rfl⟩)
    · obtain ⟨c', -, rfl⟩ := List.mem_map.mp hth
      exact .inr (.inl ⟨c', rfl⟩)

/-! ## Runs -/

theorem Reach.run {test : Cfg Ans Ret W → Move Call Choice Tick → Bool}
    {ms : List (Move Call Choice Tick)} (h : S.Reach (fun cfg m => test cfg m = true) w₀ cfg)
    (hr : S.run test ms cfg = some cfg') : S.Reach (fun cfg m => test cfg m = true) w₀ cfg' := by
  induction ms generalizing cfg with
  | nil => obtain rfl := Option.some.inj hr; exact h
  | cons m ms ih =>
    simp only [System.run, Option.ite_none_right_eq_some] at hr
    obtain ⟨cfg₁, h₁, h₂⟩ := Option.bind_eq_some_iff.mp hr.2
    exact ih (h.move m hr.1 h₁) h₂

theorem Reach.mono {ok' : Cfg Ans Ret W → Move Call Choice Tick → Prop}
    (hok : ∀ cfg m, ok cfg m → ok' cfg m) (h : S.Reach ok w₀ cfg) : S.Reach ok' w₀ cfg := by
  induction h with
  | init => exact .init
  | move m _ hm hs ih => exact .move m ih (hok _ _ hm) hs

/-- A list of moves that pass the test reaches its last configuration. -/
theorem reach_of_run {test : Cfg Ans Ret W → Move Call Choice Tick → Bool}
    {ms : List (Move Call Choice Tick)} (hr : S.run test ms ⟨w₀, []⟩ = some cfg) :
    S.Reach (fun cfg m => test cfg m = true) w₀ cfg := Reach.init.run hr

theorem reachable_of_run {test : Cfg Ans Ret W → Move Call Choice Tick → Bool}
    {ms : List (Move Call Choice Tick)} (hr : S.run test ms ⟨w₀, []⟩ = some cfg) :
    S.Reachable w₀ cfg := (reach_of_run hr).mono fun _ _ _ => trivial

/-- **The history of a thread is a history of its program.** -/
theorem Reach.after (h : S.Reach ok w₀ cfg) :
    ∀ th ∈ cfg.threads, (S.start th.call).After th.past th.now := by
  induction h with
  | init => simp
  | move m _ _ hs ih =>
    intro th hth
    rcases mem_threads_move hs hth with hth | ⟨c, rfl⟩ | ⟨c, past, o, k, r, ch, hold, -, rfl⟩
    · exact ih th hth
    · exact .refl _
    · exact (ih _ hold).snoc r _ _

/-- A property of the calls that are made and forked holds of every thread's call. -/
theorem Reach.calls {q : Call → Prop} (hinvoke : ∀ {cfg c}, ok cfg (.invoke c) → q c)
    (hforks : ∀ c₀ o, ∀ c ∈ S.forks c₀ o, q c) (h : S.Reach ok w₀ cfg) : ∀ th ∈ cfg.threads, q th.call := by
  induction h with
  | init => simp
  | move m _ hok hs ih =>
    intro th hth
    cases m with
    | invoke c =>
      obtain ⟨-, rfl⟩ := move_invoke.mp hs
      rcases List.mem_append.mp hth with hth | hth
      · exact ih th hth
      · obtain rfl := List.mem_singleton.mp hth
        exact hinvoke hok
    | pass t =>
      obtain rfl := move_pass.mp hs
      exact ih th hth
    | serve i ch =>
      obtain ⟨c, past, o, k, r, w', hi, -, rfl⟩ := move_serve.mp hs
      rcases List.mem_append.mp hth with hth | hth
      · rcases List.mem_or_eq_of_mem_set hth with hth | rfl
        · exact ih th hth
        · exact ih ⟨c, past, .await o k⟩ (List.mem_of_getElem? hi)
      · obtain ⟨c', hc', rfl⟩ := List.mem_map.mp hth
        exact hforks c o c' hc'

/-- **Every event of a thread was served to it by an admitted move**, after the events before it. -/
theorem Reach.admitted_at (h : S.Reach ok w₀ cfg) : ∀ th ∈ cfg.threads, ∀ fs e gs,
    th.past = fs ++ e :: gs → ∃ (cfg₀ : Cfg Ans Ret W) (i : ℕ) (ch : Choice)
      (k : Ans e.op → Prog Ans (Ret th.call)), S.Reach ok w₀ cfg₀ ∧ ok cfg₀ (.serve i ch) ∧
      cfg₀.world = e.pre ∧ cfg₀.threads[i]? = some ⟨th.call, fs, .await e.op k⟩ ∧
      S.serve th.call e.op ch e.pre = some (e.ans, e.post) := by
  induction h with
  | init => simp
  | @move cfg cfg' m hr hok hs ih =>
    intro th hth
    cases m with
    | invoke c =>
      obtain ⟨-, rfl⟩ := move_invoke.mp hs
      rcases List.mem_append.mp hth with hth | hth
      · exact ih th hth
      · rw [List.mem_singleton.mp hth]
        simp [System.fresh]
    | pass t =>
      obtain rfl := move_pass.mp hs
      exact ih th hth
    | serve i ch =>
      obtain ⟨c, past, o, k, r, w', hi, hsv, rfl⟩ := move_serve.mp hs
      rcases List.mem_append.mp hth with hth | hth
      · rcases List.mem_or_eq_of_mem_set hth with hth | rfl
        · exact ih th hth
        · intro fs e gs he
          rcases List.eq_nil_or_concat gs with rfl | ⟨gs, e', rfl⟩
          · obtain ⟨rfl, hlast⟩ := List.append_inj' he rfl
            obtain rfl := List.singleton_inj.mp hlast
            exact ⟨cfg, i, ch, k, hr, hok, rfl, hi, hsv⟩
          · -- an earlier event
            rw [List.concat_eq_append, ← List.cons_append, ← List.append_assoc] at he
            obtain ⟨hpast, -⟩ := List.append_inj' he rfl
            exact ih _ (List.mem_of_getElem? hi) fs e gs hpast
      · obtain ⟨c', -, rfl⟩ := List.mem_map.mp hth
        simp [System.fresh]

/-- Every event of a thread was served to it by an admitted move. -/
theorem Reach.admitted (h : S.Reach ok w₀ cfg) : ∀ th ∈ cfg.threads, ∀ e ∈ th.past,
    ∃ (cfg₀ : Cfg Ans Ret W) (i : ℕ) (ch : Choice) (past : List (Event Ans W))
      (k : Ans e.op → Prog Ans (Ret th.call)), S.Reach ok w₀ cfg₀ ∧ ok cfg₀ (.serve i ch) ∧
      cfg₀.world = e.pre ∧ cfg₀.threads[i]? = some ⟨th.call, past, .await e.op k⟩ ∧
      S.serve th.call e.op ch e.pre = some (e.ans, e.post) := by
  intro th hth e he
  obtain ⟨fs, gs, hpast⟩ := List.append_of_mem he
  obtain ⟨cfg₀, i, ch, k, h₀⟩ := h.admitted_at th hth fs e gs hpast
  exact ⟨cfg₀, i, ch, fs, k, h₀⟩

/-- **Every event of a thread was served by the world.** -/
theorem Reach.served (h : S.Reach ok w₀ cfg) : ∀ th ∈ cfg.threads, ∀ e ∈ th.past,
    ∃ ch, S.serve th.call e.op ch e.pre = some (e.ans, e.post) := by
  intro th hth e he
  obtain ⟨-, -, ch, -, -, -, -, -, -, hsv⟩ := h.admitted th hth e he
  exact ⟨ch, hsv⟩

/-- **The pending request of a thread satisfies the condition that its program keeps.** -/
theorem Reach.issues {P : Call → List (Event Ans W) → Op → Prop}
    (hP : ∀ c, (S.start c).Issues (P c) []) (h : S.Reach ok w₀ cfg) {c : Call}
    {past : List (Event Ans W)} {o : Op} {k : Ans o → Prog Ans (Ret c)}
    (hth : (⟨c, past, .await o k⟩ : Thread Ans Ret W) ∈ cfg.threads) : P c past o := by
  have := (hP c).after (h.after _ hth)
  exact this.1

/-- Every event of a thread satisfied the condition when its request was issued. -/
theorem Reach.issued {P : Call → List (Event Ans W) → Op → Prop}
    (hP : ∀ c, (S.start c).Issues (P c) []) (h : S.Reach ok w₀ cfg) : ∀ th ∈ cfg.threads,
      ∀ fs e gs, th.past = fs ++ e :: gs → P th.call fs e.op := by
  intro th hth fs e gs he
  have := (hP th.call).mem_after (h.after th hth) fs e gs he
  rwa [List.nil_append] at this

/-- Every event of a thread answered a request that it was waiting for. -/
theorem Reach.awaited (h : S.Reach ok w₀ cfg) : ∀ th ∈ cfg.threads, ∀ e ∈ th.past,
    ∃ (cfg₀ : Cfg Ans Ret W) (past : List (Event Ans W)) (k : Ans e.op → Prog Ans (Ret th.call)),
      S.Reach ok w₀ cfg₀ ∧ cfg₀.world = e.pre ∧ ⟨th.call, past, .await e.op k⟩ ∈ cfg₀.threads := by
  intro th hth e he
  obtain ⟨cfg₀, i, -, past, k, hr, -, hw, hi, -⟩ := h.admitted th hth e he
  exact ⟨cfg₀, past, k, hr, hw, List.mem_of_getElem? hi⟩

/-- Every event of a thread started from a world of the run. -/
theorem Reach.visited (h : S.Reach ok w₀ cfg) : ∀ th ∈ cfg.threads, ∀ e ∈ th.past,
    ∃ cfg₀, S.Reach ok w₀ cfg₀ ∧ cfg₀.world = e.pre := by
  intro th hth e he
  obtain ⟨cfg₀, past, k, hr, hw, -⟩ := h.awaited th hth e he
  exact ⟨cfg₀, hr, hw⟩

/-- **A run keeps to the calls that its threads are.** -/
theorem Reach.restrict {q : Call → Prop} (h : S.Reach ok w₀ cfg) (hq : ∀ th ∈ cfg.threads, q th.call) :
    S.Reach (fun cfg m => ok cfg m ∧ ∀ c, m = .invoke c → q c) w₀ cfg := by
  induction h with
  | init => exact .init
  | @move cfg cfg' m hr hok hs ih =>
    cases m with
    | invoke c =>
      obtain ⟨-, rfl⟩ := move_invoke.mp hs
      have hold := ih fun th hth => hq th (List.mem_append_left _ hth)
      refine hold.move _ ⟨hok, fun c' hc' => ?_⟩ hs
      cases hc'
      exact hq (S.fresh c) (List.mem_append_right _ (List.mem_singleton_self _))
    | pass t =>
      have hsame := move_pass.mp hs
      subst hsame
      exact (ih hq).move _ ⟨hok, nofun⟩ hs
    | serve i ch =>
      obtain ⟨c, past, o, k, r, w', hi, -, rfl⟩ := move_serve.mp hs
      refine (ih fun th hth => ?_).move _ ⟨hok, nofun⟩ hs
      obtain ⟨j, hj⟩ := List.mem_iff_getElem?.mp hth
      by_cases hij : i = j
      · subst hij
        obtain rfl := Option.some.inj (hi.symm.trans hj)
        have hlt : i < cfg.threads.length := (List.getElem?_eq_some_iff.mp hi).1
        exact hq ⟨c, _, k r⟩ (List.mem_append_left _ (List.mem_set hlt _))
      · refine hq th (List.mem_append_left _ (List.mem_of_getElem? (i := j) ?_))
        rw [List.getElem?_set_ne hij, hj]

/-- **Linked histories.** A transitive relation that every move of the world satisfies links the
events of a thread to its later events and to the present world. -/
theorem Reach.chain {M : W → W → Prop} (hrefl : ∀ w, M w w)
    (htrans : ∀ {u v w}, M u v → M v w → M u w)
    (hserve : ∀ {c o ch w r w'}, S.serve c o ch w = some (r, w') → M w w')
    (hpass : ∀ t w, M w (S.pass t w)) (h : S.Reach ok w₀ cfg) : ∀ th ∈ cfg.threads,
      th.past.Pairwise (fun e e' => M e.post e'.pre) ∧ ∀ e ∈ th.past, M e.post cfg.world := by
  induction h with
  | init => simp
  | @move cfg cfg' m _ _ hs ih =>
    have hworld : M cfg.world cfg'.world := by
      cases m with
      | invoke c => obtain ⟨-, rfl⟩ := move_invoke.mp hs; exact hrefl _
      | pass t => obtain rfl := move_pass.mp hs; exact hpass _ _
      | serve i ch =>
        obtain ⟨c, past, o, k, r, w', -, hsv, rfl⟩ := move_serve.mp hs
        exact hserve hsv
    intro th hth
    rcases mem_threads_move hs hth with hth | ⟨c, rfl⟩ | ⟨c, past, o, k, r, ch, hold, hsv, rfl⟩
    · exact ⟨(ih th hth).1, fun e he => htrans ((ih th hth).2 e he) hworld⟩
    · simp [System.fresh]
    · obtain ⟨hpair, hlast⟩ := ih _ hold
      refine ⟨List.pairwise_append.mpr ⟨hpair, List.pairwise_singleton _ _, ?_⟩, ?_⟩
      · intro e he e' he'
        obtain rfl := List.mem_singleton.mp he'
        exact hlast e he
      · intro e he
        rcases List.mem_append.mp he with he | he
        · exact htrans (hlast e he) hworld
        · obtain rfl := List.mem_singleton.mp he
          exact hrefl _

/-- **An invariant of the world**: it holds at first, and every admitted move keeps it. -/
theorem Reach.world_inv {I : W → Prop} (h₀ : I w₀)
    (hserve : ∀ {cfg i c past o k ch r w'}, S.Reach ok w₀ cfg → ok cfg (.serve i ch) →
      cfg.threads[i]? = some ⟨c, past, .await o k⟩ → S.serve c o ch cfg.world = some (r, w') →
      I cfg.world → I w')
    (hpass : ∀ t w, I w → I (S.pass t w)) (h : S.Reach ok w₀ cfg) : I cfg.world := by
  induction h with
  | init => exact h₀
  | move m hr hok hs ih =>
    cases m with
    | invoke c => obtain ⟨-, rfl⟩ := move_invoke.mp hs; exact ih
    | pass t => obtain rfl := move_pass.mp hs; exact hpass _ _ ih
    | serve i ch =>
      obtain ⟨c, past, o, k, r, w', hi, hsv, rfl⟩ := move_serve.mp hs
      exact hserve hr hok hi hsv ih

/-- **Names drawn once.** A count that a move raises only by drawing the name, from undrawn to
drawn and then by one, never exceeds one, and is zero before the draw. -/
theorem Reach.le_one_of_fresh (drawn : W → Prop) (f : Cfg Ans Ret W → ℕ) (h₀ : f ⟨w₀, []⟩ = 0)
    (hstep : ∀ {cfg m cfg'}, S.Reach ok w₀ cfg → ok cfg m → S.move cfg m = some cfg' →
      (f cfg' ≤ f cfg ∧ (drawn cfg.world → drawn cfg'.world)) ∨
        (f cfg' ≤ f cfg + 1 ∧ ¬drawn cfg.world ∧ drawn cfg'.world))
    (h : S.Reach ok w₀ cfg) : f cfg ≤ 1 ∧ (¬drawn cfg.world → f cfg = 0) := by
  induction h with
  | init => exact ⟨by omega, fun _ => h₀⟩
  | move m hr hok hs ih =>
    rcases hstep hr hok hs with ⟨hle, hmono⟩ | ⟨hle, hfresh, hdrawn⟩
    · refine ⟨Nat.le_trans hle ih.1, fun hn => ?_⟩
      have := ih.2 fun hd => hn (hmono hd)
      omega
    · have := ih.2 hfresh
      exact ⟨by omega, fun hn => absurd hdrawn hn⟩

end System

/-! ## The events of all threads -/

/-- Overwriting one element of a list changes a count by that element alone. -/
theorem countP_set_add {α : Type} (p : α → Bool) {l : List α} {i : ℕ} {a b : α}
    (hi : l[i]? = some a) : (l.set i b).countP p + (if p a then 1 else 0) =
      l.countP p + if p b then 1 else 0 := by
  induction l generalizing i with
  | nil => simp at hi
  | cons c l ih =>
    cases i with
    | zero =>
      obtain rfl := Option.some.inj hi
      simp only [List.set_cons_zero, List.countP_cons]
      omega
    | succ i =>
      have := ih hi
      simp only [List.set_cons_succ, List.countP_cons]
      omega

/-- An element of an overwritten list is the new one or stands elsewhere. -/
theorem mem_set_cases {α : Type} {l : List α} {i : ℕ} {a b : α} (h : a ∈ l.set i b) :
    a = b ∨ ∃ j, j ≠ i ∧ l[j]? = some a := by
  obtain ⟨j, hj⟩ := List.mem_iff_getElem?.mp h
  rw [List.getElem?_set] at hj
  by_cases hij : i = j
  · rw [if_pos hij] at hj
    exact .inl (Option.some.inj (Option.ite_none_right_eq_some.mp hj).2).symm
  · rw [if_neg hij] at hj
    exact .inr ⟨j, Ne.symm hij, hj⟩

/-- Two elements at different places are counted twice. -/
theorem index_eq_of_countP_le_one {α : Type} {p : α → Bool} {l : List α} (h : l.countP p ≤ 1)
    {i j : ℕ} {a b : α} (hi : l[i]? = some a) (hj : l[j]? = some b) (ha : p a = true)
    (hb : p b = true) : i = j := by
  induction l generalizing i j with
  | nil => simp at hi
  | cons c l ih =>
    rw [List.countP_cons] at h
    have hzero : ∀ {k : ℕ} {d : α}, l[k]? = some d → p d = true → 0 < l.countP p := fun hk hd =>
      List.countP_pos_iff.mpr ⟨_, List.mem_of_getElem? hk, hd⟩
    cases i with
    | zero =>
      obtain rfl := Option.some.inj hi
      cases j with
      | zero => rfl
      | succ j => have := hzero hj hb; rw [if_pos ha] at h; omega
    | succ i =>
      cases j with
      | zero =>
        obtain rfl := Option.some.inj hj
        have := hzero hi ha
        rw [if_pos hb] at h; omega
      | succ j => rw [ih (by omega) hi hj]

/-- The events of all threads, each with the call that it belongs to. -/
def Cfg.events (cfg : Cfg Ans Ret W) : List (Call × Event Ans W) :=
  cfg.threads.flatMap fun th => th.past.map fun e => (th.call, e)

/-- Adding one element to the image of one entry adds one element to the flattened list. -/
theorem flatMap_set_perm {α β : Type} (f : α → List β) {l : List α} {i : ℕ} {a b : α} {x : β}
    (hi : l[i]? = some a) (hb : f b = f a ++ [x]) :
    ((l.set i b).flatMap f).Perm (x :: l.flatMap f) := by
  induction l generalizing i with
  | nil => simp at hi
  | cons c l ih =>
    cases i with
    | zero =>
      obtain rfl := Option.some.inj hi
      simp only [List.set_cons_zero, List.flatMap_cons, hb, List.append_assoc]
      exact List.perm_middle
    | succ i =>
      simp only [List.set_cons_succ, List.flatMap_cons]
      exact ((ih hi).append_left (f c)).trans List.perm_middle

namespace System

variable {S : System Ans Ret W Choice Tick} {cfg cfg' : Cfg Ans Ret W}

theorem events_fresh (cs : List Call) :
    ((cs.map S.fresh).flatMap fun th => th.past.map fun e => (th.call, e)) = [] := by
  simp [System.fresh, List.flatMap_map]

/-- **Serving a request adds exactly one event.** -/
theorem events_serve {i : ℕ} {c : Call} {past : List (Event Ans W)} {o : Op}
    {k : Ans o → Prog Ans (Ret c)} (hi : cfg.threads[i]? = some ⟨c, past, .await o k⟩) (r : Ans o)
    (w' : W) (e : Event Ans W) (cs : List Call) :
    Cfg.events ⟨w', cfg.threads.set i ⟨c, past ++ [e], k r⟩ ++ cs.map S.fresh⟩ |>.Perm
      ((c, e) :: cfg.events) := by
  simp only [Cfg.events, List.flatMap_append, events_fresh, List.append_nil]
  exact flatMap_set_perm _ hi (by simp)

theorem events_invoke {c : Call} (h : S.move cfg (.invoke c) = some cfg') :
    cfg'.events = cfg.events := by
  obtain ⟨-, rfl⟩ := move_invoke.mp h
  simp [Cfg.events, System.fresh]

theorem events_pass {t : Tick} (h : S.move cfg (.pass t) = some cfg') :
    cfg'.events = cfg.events := by
  obtain rfl := move_pass.mp h
  rfl

end System

end Async
