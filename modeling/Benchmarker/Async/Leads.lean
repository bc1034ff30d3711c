import Benchmarker.Async.Threads
import Benchmarker.Async.Uses

/-!
# What a program may lead to

Where `Alone` speaks of every undisturbed history of a program, `Leads` asks for one: the value that it may
end with, and the world.

* `Prog.Leads`. **`Leads.bind`**, `Leads.throws_bind`, `leads_attempt`: it composes.
* **`exists_leads`**: a program whose requests can all be served in place ends somewhere.
* **`Reach.leads`**: what a thread may be led to is reached.
-/

namespace Async

variable {Op : Type} {Ans : Op → Type} {α β ε W : Type}

namespace Prog

/-- Some undisturbed history of `p` from `w`, served as `S` says, ends with `a` in `w'`. -/
def Leads (S : (o : Op) → W → Ans o → W → Prop) (p : Prog Ans α) (w : W) (a : α) (w' : W) : Prop :=
  ∃ es, p.Runs es a ∧ Chain S w es w'

variable {S : (o : Op) → W → Ans o → W → Prop} {p : Prog Ans α} {f : α → Prog Ans β}
  {u v w : W} {a : α} {b : β}

theorem leads_ret : (ret a : Prog Ans α).Leads S w a w := ⟨[], .refl _, rfl⟩

theorem leads_request {o : Op} {r : Ans o} (h : S o w r v) : (request o).Leads S w r v :=
  ⟨[⟨o, r, w, v⟩], runs_request.mpr ⟨w, v, rfl⟩, rfl, h, rfl⟩

theorem Leads.bind (hp : p.Leads S w a u) (hf : (f a).Leads S u b v) : (p >>= f).Leads S w b v := by
  obtain ⟨es, hes, hchain⟩ := hp
  obtain ⟨fs, hfs, hchain'⟩ := hf
  exact ⟨es ++ fs, runs_bind.mpr ⟨es, fs, a, rfl, hes, hfs⟩, chain_append.mpr ⟨u, hchain, hchain'⟩⟩

section Throws

variable {x : ExceptT ε (Prog Ans) α} {g : α → ExceptT ε (Prog Ans) β} {r : Except ε β}

theorem Leads.throws_bind (hx : x.run.Leads S w (.ok a) u) (hg : (g a).run.Leads S u r v) :
    (x >>= g).run.Leads S w r v := by
  rw [ExceptT.run_bind]
  exact hx.bind hg

theorem leads_lift (h : p.Leads S w a v) :
    (ExceptT.lift p : ExceptT ε (Prog Ans) α).run.Leads S w (.ok a) v := by
  rw [run_lift]
  exact h.bind leads_ret

theorem leads_attempt {r : Except ε α} (h : x.run.Leads S w r v) :
    (attempt x).run.Leads S w (.ok r) v := leads_lift h

end Throws

/-- **Where every request can be served in place, a program ends in place.** -/
theorem exists_leads {q : Op → Prop} (hS : ∀ o w, q o → ∃ r, S o w r w) (h : p.Uses q) (w : W) :
    ∃ a, p.Leads S w a w := by
  induction p with
  | ret a => exact ⟨a, leads_ret⟩
  | await o k ih =>
    obtain ⟨r, hr⟩ := hS o w h.1
    obtain ⟨a, ha⟩ := ih r (h.2 r)
    exact ⟨a, (leads_request hr).bind ha⟩

end Prog

namespace System

open Prog

variable {Call Choice Tick : Type} {Ret : Call → Type} {S : System Ans Ret W Choice Tick}
  {ok : Cfg Ans Ret W → Move Call Choice Tick → Prop} {w₀ w : W} {cfg : Cfg Ans Ret W} {c : Call}

/-- A request of the call `c` that the system serves. -/
def Serves (S : System Ans Ret W Choice Tick) (c : Call) (o : Op) (w : W) (r : Ans o) (w' : W) : Prop :=
  ∃ ch, S.serve c o ch w = some (r, w')

/-- **A thread is led to whatever its program may lead to**, and nothing else moves. -/
theorem Reach.follow {i : ℕ} {past es : List (Event Ans W)} {p q : Prog Ans (Ret c)}
    (hok : ∀ cfg i ch, ok cfg (.serve i ch)) (hforks : ∀ o, S.forks c o = []) (h : S.Reach ok w₀ cfg)
    (hi : cfg.threads[i]? = some ⟨c, past, p⟩) (ha : p.After es q)
    (hes : Chain (S.Serves c) cfg.world es w) : ∃ cfg', S.Reach ok w₀ cfg' ∧ cfg'.world = w ∧
      cfg'.threads = cfg.threads.set i ⟨c, past ++ es, q⟩ := by
  induction ha generalizing cfg past with
  | refl p =>
    obtain rfl : cfg.world = w := hes
    refine ⟨cfg, h, rfl, ?_⟩
    obtain ⟨hlt, hget⟩ := List.getElem?_eq_some_iff.mp hi
    rw [List.append_nil, ← hget, List.set_getElem_self]
  | @step o k es q r pre post ha ih =>
    obtain ⟨rfl, ⟨ch, hserve⟩, hes⟩ := hes
    have hlt : i < cfg.threads.length := (List.getElem?_eq_some_iff.mp hi).1
    have hmove : S.move cfg (.serve i ch) =
        some ⟨post, cfg.threads.set i ⟨c, past ++ [⟨o, r, cfg.world, post⟩], k r⟩⟩ := by
      refine move_serve.mpr ⟨c, past, o, k, r, post, hi, hserve, ?_⟩
      rw [hforks, List.map_nil, List.append_nil]
    obtain ⟨cfg', hreach, hworld, hthreads⟩ := ih (h.move _ (hok cfg i ch) hmove)
      (List.getElem?_set_self hlt) hes
    refine ⟨cfg', hreach, hworld, ?_⟩
    rw [hthreads, List.set_set, List.append_assoc]
    rfl

/-- A call that is made may return what its program leads to, in the world that it leads to. -/
theorem Reach.leads {a : Ret c} (hok : ∀ cfg i ch, ok cfg (.serve i ch))
    (hforks : ∀ o, S.forks c o = []) (h : S.Reach ok w₀ cfg) (hclient : S.client c = true)
    (hinvoke : ok cfg (.invoke c)) (hp : (S.start c).Leads (S.Serves c) cfg.world a w) :
    ∃ cfg' es, S.Reach ok w₀ cfg' ∧ cfg'.world = w ∧
      cfg'.threads = cfg.threads ++ [⟨c, es, .ret a⟩] ∧ Chain (S.Serves c) cfg.world es w := by
  obtain ⟨es, hruns, hes⟩ := hp
  have hmove : S.move cfg (.invoke c) = some { cfg with threads := cfg.threads ++ [S.fresh c] } :=
    move_invoke.mpr ⟨hclient, rfl⟩
  obtain ⟨cfg', hreach, hworld, hthreads⟩ := Reach.follow hok hforks (h.move _ hinvoke hmove)
    List.getElem?_concat_length hruns hes
  refine ⟨cfg', es, hreach, hworld, ?_, hes⟩
  rw [hthreads, List.set_append_right _ _ (Nat.le_refl _)]
  simp [System.fresh]

end System

end Async
