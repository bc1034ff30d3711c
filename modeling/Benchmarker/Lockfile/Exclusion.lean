import Benchmarker.Lockfile.Calls

/-!
# Mutual exclusion by the lockfile

A process that holds the lock has its pid in the lockfile, as long as nobody deletes or overwrites
the file of a live process. `acquire` looks before it deletes and writes, but other processes may step
in between, and `release` does not look at all.

* `Orderly`: what a call goes on with after a request. **`follows_lockBody`**.
* `Owned`: the invariant. `Owned.serve`, **`owned_reach`**: every careful step keeps it.
* **`lockSafe_of_careful`**: in careful runs the lock is safe. **`acquire_races`**: two live processes
  hold the lock, and a `release` deletes the lockfile of a live process.
-/

namespace Benchmarker.Lockfile

open Async Async.Prog Async.System

/-! ## What a call goes on with -/

/-- What a call goes on with after an answered request: a successful delete is followed by
`this.acquired = false`, a successful write by `this.acquired = true`, and nothing else is. -/
def Orderly (c : LockCall) : (o : LockOp) → LockAns o → Option LockOp → Prop
  | .unlinkSync, .ok _, n => n = some (.setAcquired false)
  | .writeFileSync q, .ok _, n => q = c.pid ∧ n = some (.setAcquired true)
  | .setAcquired _, _, n => n ≠ some (.setAcquired true) ∧ (c.frees = true → n = none)
  | _, _, n => n ≠ some (.setAcquired true)

/-- The end of `acquire`. -/
theorem follows_writeLock (pid : ℕ) : (writeLock pid).run.Follows (Orderly (.acquire pid)) := by
  refine follows_await.mpr fun r => ?_
  cases r with
  | ok u =>
    refine ⟨⟨rfl, rfl⟩, follows_await.mpr fun _ => ⟨⟨nofun, nofun⟩, follows_ret _⟩⟩
  | error e => exact ⟨nofun, follows_ret _⟩

/-- `acquire` after it has found no live owner: it removes the file, and then writes it. -/
theorem follows_replace (pid : ℕ) : (do
    let _ ← forceRelease
    writeLock pid : LockJs Bool).run.Follows (Orderly (.acquire pid)) := by
  refine follows_await.mpr fun found => ?_
  cases found with
  | false =>
    exact ⟨nofun, follows_await.mpr fun _ => ⟨⟨nofun, nofun⟩, follows_writeLock pid⟩⟩
  | true =>
    refine ⟨nofun, follows_await.mpr fun r => ?_⟩
    cases r with
    | ok u => exact ⟨rfl, follows_await.mpr fun _ => ⟨⟨nofun, nofun⟩, follows_writeLock pid⟩⟩
    | error e => exact ⟨nofun, follows_writeLock pid⟩

theorem follows_acquire (pid : ℕ) : (acquire pid).run.Follows (Orderly (.acquire pid)) := by
  refine follows_await.mpr fun found => ?_
  cases found with
  | false => exact ⟨nofun, follows_writeLock pid⟩
  | true =>
    -- `readPid` looks for the file once more
    refine ⟨nofun, follows_await.mpr fun still => ?_⟩
    cases still with
    | false => exact ⟨nofun, follows_replace pid⟩
    | true =>
      refine ⟨nofun, follows_await.mpr fun content => ?_⟩
      cases content with
      | error e => exact ⟨nofun, follows_replace pid⟩
      | ok content =>
        cases content with
        | none => exact ⟨nofun, follows_replace pid⟩
        | some owner =>
          refine ⟨nofun, follows_await.mpr fun running => ?_⟩
          cases running with
          | false => exact ⟨nofun, follows_replace pid⟩
          | true => exact ⟨nofun, follows_ret _⟩

theorem follows_release (pid : ℕ) : release.run.Follows (Orderly (.release pid)) := by
  refine follows_await.mpr fun found => ?_
  cases found with
  | false => exact ⟨nofun, follows_await.mpr fun _ => ⟨⟨nofun, fun _ => rfl⟩, follows_ret _⟩⟩
  | true =>
    refine ⟨nofun, follows_await.mpr fun r => ?_⟩
    cases r with
    | ok u => exact ⟨rfl, follows_await.mpr fun _ => ⟨⟨nofun, fun _ => rfl⟩, follows_ret _⟩⟩
    | error e => exact ⟨nofun, follows_ret _⟩

theorem follows_forceRelease (pid : ℕ) : forceRelease.run.Follows (Orderly (.forceRelease pid)) := by
  refine follows_await.mpr fun found => ?_
  cases found with
  | false => exact ⟨nofun, follows_await.mpr fun _ => ⟨⟨nofun, fun _ => rfl⟩, follows_ret _⟩⟩
  | true =>
    refine ⟨nofun, follows_await.mpr fun r => ?_⟩
    cases r with
    | ok u => exact ⟨rfl, follows_await.mpr fun _ => ⟨⟨nofun, fun _ => rfl⟩, follows_ret _⟩⟩
    | error e => exact ⟨nofun, follows_ret _⟩

/-- **Every call is orderly.** -/
theorem follows_lockBody (c : LockCall) : (lockBody c).run.Follows (Orderly c) := by
  cases c with
  | acquire pid => exact follows_acquire pid
  | release pid => exact follows_release pid
  | forceRelease pid => exact follows_forceRelease pid

/-! ## The owner -/

abbrev LockThread : Type := Thread LockAns (fun _ : LockCall => Except FsError Bool) LockWorld

/-- A process makes one call at a time; one that holds the lock has its pid in the lockfile, unless it
is about to give the lock up; so has one that has just written the lockfile; and a process that has
not given the lock up yet still holds it. -/
structure Owned (cfg : LockCfg) : Prop where
  single : ∀ (i j : ℕ) (th th' : LockThread), cfg.threads[i]? = some th → cfg.threads[j]? = some th' →
    th.call.pid = th'.call.pid → th.pending.isSome = true → th'.pending.isSome = true → i = j
  held : ∀ p, cfg.world.alive p = true → cfg.world.acquired p = true →
    (∃ th ∈ cfg.threads, th.call.pid = p ∧ th.pending = some (.setAcquired false)) ∨
      cfg.world.file = some (some p)
  written : ∀ th ∈ cfg.threads, cfg.world.alive th.call.pid = true →
    th.pending = some (.setAcquired true) → cfg.world.file = some (some th.call.pid)
  freeing : ∀ th ∈ cfg.threads, th.call.frees = true → cfg.world.alive th.call.pid = true →
    th.pending.isSome = true → th.pending ≠ some (.setAcquired false) →
    cfg.world.acquired th.call.pid = true

section Step

variable {cfg : LockCfg} {i : ℕ} {c : LockCall} {past : List (Event LockAns LockWorld)} {o : LockOp}
variable {k : LockAns o → Prog LockAns (Except FsError Bool)}

theorem owned_init {w : LockWorld} (hw : ∀ p, w.acquired p = false) : Owned ⟨w, []⟩ where
  single i j th th' h := by simp at h
  held p _ h := by
    have hp : w.acquired p = true := h
    rw [hw p] at hp
    cases hp
  written th h := by cases h
  freeing th h := by cases h

theorem pending_fresh (c : LockCall) : (lockSystem.fresh c).pending = some .existsSync := by
  cases c <;> rfl

/-- **A new call**, of a process without another one; to give the lock up it must hold it. -/
theorem Owned.invoke (h : Owned cfg) (hseq : ∀ th ∈ cfg.threads, th.call.pid = c.pid → th.pending = none)
    (hfree : c.frees = true → IsAcquired cfg c.pid) :
    Owned ⟨cfg.world, cfg.threads ++ [lockSystem.fresh c]⟩ := by
  have hget : ∀ j x, (cfg.threads ++ [lockSystem.fresh c])[j]? = some x →
      cfg.threads[j]? = some x ∨ j = cfg.threads.length ∧ x = lockSystem.fresh c := by
    intro j x hj
    rcases Nat.lt_or_ge j cfg.threads.length with hlt | hge
    · rw [List.getElem?_append_left hlt] at hj
      exact .inl hj
    · rw [List.getElem?_append_right hge, List.getElem?_singleton] at hj
      split_ifs at hj with hz
      exact .inr ⟨by omega, (Option.some.inj hj).symm⟩
  -- the process of the new call has no other one
  have hdone : ∀ (j : ℕ) (x : LockThread), cfg.threads[j]? = some x → x.pending.isSome = true →
      x.call.pid ≠ c.pid := by
    intro j x hj hpend hpid
    rw [hseq x (List.mem_of_getElem? hj) hpid] at hpend
    cases hpend
  refine ⟨fun a b x y ha hb hpid hx hy => ?_, fun p hp hacq => ?_, fun x hx hp hpend => ?_,
    fun x hx hf hp hpend hne => ?_⟩
  · rcases hget a x ha with ha | ⟨rfl, rfl⟩
    · rcases hget b y hb with hb | ⟨rfl, rfl⟩
      · exact h.single a b x y ha hb hpid hx hy
      · exact absurd hpid (hdone a x ha hx)
    · rcases hget b y hb with hb | ⟨rfl, rfl⟩
      · exact absurd hpid.symm (hdone b y hb hy)
      · rfl
  · rcases h.held p hp hacq with ⟨x, hx, hxp, hpend⟩ | hfile
    · exact .inl ⟨x, List.mem_append_left _ hx, hxp, hpend⟩
    · exact .inr hfile
  · rcases List.mem_append.mp hx with hx | hx
    · exact h.written x hx hp hpend
    · rw [List.mem_singleton.mp hx, pending_fresh] at hpend
      cases hpend
  · rcases List.mem_append.mp hx with hx | hx
    · exact h.freeing x hx hf hp hpend hne
    · rw [List.mem_singleton.mp hx] at hf ⊢
      exact (hfree hf).2.1

/-- **A served request**, by what it does to the world and what its call goes on with. -/
theorem Owned.serve (h : Owned cfg) (hi : cfg.threads[i]? = some ⟨c, past, .await o k⟩)
    (w : LockWorld) (th : LockThread) (halive : w.alive = cfg.world.alive) (hcall : th.call = c)
    (hother : ∀ q, q ≠ c.pid → cfg.world.alive q = true → w.acquired q = cfg.world.acquired q ∧
      (cfg.world.file = some (some q) → w.file = some (some q)))
    (hheld : cfg.world.alive c.pid = true → w.acquired c.pid = true →
      th.pending = some (.setAcquired false) ∨ w.file = some (some c.pid))
    (hwritten : cfg.world.alive c.pid = true → th.pending = some (.setAcquired true) →
      w.file = some (some c.pid))
    (hfree : c.frees = true → cfg.world.alive c.pid = true → th.pending.isSome = true →
      th.pending ≠ some (.setAcquired false) → w.acquired c.pid = true) :
    Owned ⟨w, cfg.threads.set i th⟩ := by
  have hlt : i < cfg.threads.length := (List.getElem?_eq_some_iff.mp hi).1
  have hself : (cfg.threads.set i th)[i]? = some th := List.getElem?_set_self hlt
  have hget : ∀ j x, (cfg.threads.set i th)[j]? = some x →
      j = i ∧ x = th ∨ j ≠ i ∧ cfg.threads[j]? = some x := by
    intro j x hj
    by_cases hji : j = i
    · rw [hji, hself] at hj
      exact .inl ⟨hji, (Option.some.inj hj).symm⟩
    · rw [List.getElem?_set_ne (Ne.symm hji)] at hj
      exact .inr ⟨hji, hj⟩
  -- a call at another place is one of another process, or is over
  have hdiff : ∀ j th', j ≠ i → cfg.threads[j]? = some th' → th'.pending.isSome = true →
      th'.call.pid ≠ c.pid := by
    intro j th' hj hth' hpend hpid
    exact hj (h.single j i th' _ hth' hi hpid hpend rfl)
  refine ⟨fun a b x y ha hb hpid hx hy => ?_, fun p hp hacq => ?_, fun x hx hp hpend => ?_,
    fun x hx hf hp hpend hne => ?_⟩
  · rcases hget a x ha with ⟨hai, hxt⟩ | ⟨hai, hxa⟩
    · rcases hget b y hb with ⟨hbi, -⟩ | ⟨hbi, hyb⟩
      · rw [hai, hbi]
      · exact absurd (by rw [← hpid, hxt, hcall]) (hdiff b y hbi hyb hy)
    · rcases hget b y hb with ⟨hbi, hyt⟩ | ⟨hbi, hyb⟩
      · exact absurd (by rw [hpid, hyt, hcall]) (hdiff a x hai hxa hx)
      · exact h.single a b x y hxa hyb hpid hx hy
  · rw [halive] at hp
    by_cases hpc : p = c.pid
    · subst hpc
      rcases hheld hp hacq with hpend | hfile
      · exact .inl ⟨th, List.mem_of_getElem? hself, by rw [hcall], hpend⟩
      · exact .inr hfile
    · obtain ⟨hsame, hkeep⟩ := hother p hpc hp
      rcases h.held p hp (hsame ▸ hacq) with ⟨x, hx, hxp, hpend⟩ | hfile
      · obtain ⟨j, hj⟩ := List.mem_iff_getElem?.mp hx
        have hji : i ≠ j := by
          rintro rfl
          obtain rfl := Option.some.inj (hi.symm.trans hj)
          exact hpc hxp.symm
        refine .inl ⟨x, List.mem_of_getElem? (i := j) ?_, hxp, hpend⟩
        rw [List.getElem?_set_ne hji, hj]
      · exact .inr (hkeep hfile)
  · rw [halive] at hp
    rcases mem_set_cases hx with rfl | ⟨j, hj, hxj⟩
    · rw [hcall] at hp ⊢
      exact hwritten hp hpend
    · have hne := hdiff j x hj hxj (by rw [hpend]; rfl)
      exact (hother _ hne hp).2 (h.written x (List.mem_of_getElem? hxj) hp hpend)
  · rw [halive] at hp
    rcases mem_set_cases hx with rfl | ⟨j, hj, hxj⟩
    · rw [hcall] at hf hp ⊢
      exact hfree hf hp hpend hne
    · have hdiffer := hdiff j x hj hxj hpend
      rw [(hother _ hdiffer hp).1]
      exact h.freeing x (List.mem_of_getElem? hxj) hf hp hpend hne

/-- A request of a live process that changes neither the lockfile nor the private fields. -/
theorem Owned.keep (h : Owned cfg) (hi : cfg.threads[i]? = some ⟨c, past, .await o k⟩)
    (ho : ∀ b, o ≠ .setAcquired b) {th : LockThread} (hcall : th.call = c)
    (hnext : th.pending ≠ some (.setAcquired true)) : Owned ⟨cfg.world, cfg.threads.set i th⟩ := by
  have hmem : (⟨c, past, .await o k⟩ : LockThread) ∈ cfg.threads := List.mem_of_getElem? hi
  refine h.serve hi cfg.world th rfl hcall (fun q _ _ => ⟨rfl, id⟩) (fun hp hacq => ?_)
    (fun _ hpend => absurd hpend hnext) fun hf hp _ _ => ?_
  · rcases h.held c.pid hp hacq with ⟨x, hx, hxp, hpend⟩ | hfile
    · -- the call that is about to give the lock up would be this one
      obtain ⟨j, hj⟩ := List.mem_iff_getElem?.mp hx
      obtain rfl := h.single j i x _ hj hi hxp (by rw [hpend]; rfl) rfl
      obtain rfl := Option.some.inj (hi.symm.trans hj)
      exact absurd (Option.some.inj hpend) (ho false)
    · exact .inr hfile
  · exact h.freeing _ hmem hf hp rfl fun heq => ho false (Option.some.inj heq)

/-- The lockfile that a call is about to delete or write is not that of another live process. -/
theorem Owned.not_othersFile (h : Owned cfg) (hi : cfg.threads[i]? = some ⟨c, past, .await o k⟩)
    (hp : cfg.world.alive c.pid = true) (ho : o.changesFile = true)
    (hcare : c.frees = false → ¬OthersFile cfg.world c.pid) : ¬OthersFile cfg.world c.pid := by
  have hmem : (⟨c, past, .await o k⟩ : LockThread) ∈ cfg.threads := List.mem_of_getElem? hi
  have hset : o ≠ .setAcquired false := by
    rintro rfl
    cases ho
  cases hfrees : c.frees with
  | false => exact hcare hfrees
  | true =>
    -- a process that gives the lock up holds it
    have hacq := h.freeing _ hmem hfrees hp rfl fun heq => hset (Option.some.inj heq)
    rintro ⟨q, hq, -, hfile⟩
    rcases h.held c.pid hp hacq with ⟨x, hx, hxp, hpend⟩ | hown
    · obtain ⟨j, hj⟩ := List.mem_iff_getElem?.mp hx
      obtain rfl := h.single j i x _ hj hi hxp (by rw [hpend]; rfl) rfl
      obtain rfl := Option.some.inj (hi.symm.trans hj)
      exact hset (Option.some.inj hpend)
    · rw [hfile] at hown
      exact hq (Option.some.inj (Option.some.inj hown))

/-- **The death of a process.** -/
theorem Owned.death (h : Owned cfg) (pid : ℕ) : Owned ⟨lockSystem.pass pid cfg.world, cfg.threads⟩ := by
  have halive : ∀ p, (lockSystem.pass pid cfg.world).alive p = true → cfg.world.alive p = true := by
    intro p hp
    have hp : Function.update cfg.world.alive pid false p = true := hp
    by_cases hpid : p = pid
    · rw [hpid, Function.update_self] at hp
      cases hp
    · rwa [Function.update_of_ne hpid] at hp
  exact ⟨h.single, fun p hp hacq => h.held p (halive p hp) hacq,
    fun th hth hp hpend => h.written th hth (halive _ hp) hpend,
    fun th hth hf hp => h.freeing th hth hf (halive _ hp)⟩

theorem pending_eq_next (th : LockThread) : th.pending = th.now.next := by
  obtain ⟨c, past, now⟩ := th
  cases now <;> rfl

section Served

variable {pid : ℕ} {ch : FsChoice} {u w : LockWorld}

theorem serveFs_readFileSync {r : Except FsError (Option ℕ)}
    (h : serveFs pid .readFileSync ch u = (r, w)) : w = u := by
  cases ch with
  | ok =>
    simp only [serveFs] at h
    cases hf : u.file with
    | none => rw [hf] at h; exact (Prod.mk.inj h).2.symm
    | some content => rw [hf] at h; exact (Prod.mk.inj h).2.symm
  | fails e => exact (Prod.mk.inj h).2.symm

theorem serveFs_unlinkSync {r : Except FsError Unit} (h : serveFs pid .unlinkSync ch u = (r, w)) :
    (∃ e, r = .error e) ∧ w = u ∨ r = .ok () ∧ w = { u with file := none } := by
  cases ch with
  | ok =>
    simp only [serveFs] at h
    cases hf : u.file with
    | none =>
      rw [hf] at h
      obtain ⟨rfl, rfl⟩ := Prod.mk.inj h
      exact .inl ⟨⟨_, rfl⟩, rfl⟩
    | some content =>
      rw [hf] at h
      obtain ⟨rfl, rfl⟩ := Prod.mk.inj h
      exact .inr ⟨rfl, rfl⟩
  | fails e =>
    obtain ⟨rfl, rfl⟩ := Prod.mk.inj h
    exact .inl ⟨⟨e, rfl⟩, rfl⟩

theorem serveFs_writeFileSync {q : ℕ} {r : Except FsError Unit}
    (h : serveFs pid (.writeFileSync q) ch u = (r, w)) :
    (∃ e, r = .error e) ∧ w = u ∨ r = .ok () ∧ w = { u with file := some (some q) } := by
  cases ch with
  | ok =>
    obtain ⟨rfl, rfl⟩ := Prod.mk.inj h
    exact .inr ⟨rfl, rfl⟩
  | fails e =>
    obtain ⟨rfl, rfl⟩ := Prod.mk.inj h
    exact .inl ⟨⟨e, rfl⟩, rfl⟩

end Served

/-- **A served request keeps the owner**, when no `acquire` lands on the lockfile of another live
process. -/
theorem Owned.step (h : Owned cfg) (hi : cfg.threads[i]? = some ⟨c, past, .await o k⟩)
    (hp : cfg.world.alive c.pid = true) {ch : FsChoice} {r : LockAns o} {w : LockWorld}
    (hserve : serveFs c.pid o ch cfg.world = (r, w)) (horder : Orderly c o r (k r).next)
    (hcare : c.frees = false → o.changesFile = true → ¬OthersFile cfg.world c.pid) :
    Owned ⟨w, cfg.threads.set i ⟨c, past ++ [⟨o, r, cfg.world, w⟩], k r⟩⟩ := by
  have hmem : (⟨c, past, .await o k⟩ : LockThread) ∈ cfg.threads := List.mem_of_getElem? hi
  cases o with
  | existsSync =>
    obtain ⟨rfl, rfl⟩ := Prod.mk.inj hserve
    exact h.keep hi nofun rfl (by rw [pending_eq_next]; exact horder)
  | readFileSync =>
    obtain rfl := serveFs_readFileSync hserve
    exact h.keep hi nofun rfl (by rw [pending_eq_next]; exact horder)
  | kill q =>
    obtain ⟨rfl, rfl⟩ := Prod.mk.inj hserve
    exact h.keep hi nofun rfl (by rw [pending_eq_next]; exact horder)
  | unlinkSync =>
    have hnot := h.not_othersFile hi hp rfl fun hf => hcare hf rfl
    rcases serveFs_unlinkSync hserve with ⟨⟨e, rfl⟩, rfl⟩ | ⟨rfl, rfl⟩
    · exact h.keep hi nofun rfl (by rw [pending_eq_next]; exact horder)
    · have hnext : (k (.ok ())).next = some (.setAcquired false) := horder
      refine h.serve hi _ ⟨c, past ++ [_], k _⟩ rfl rfl (fun q hq halive => ⟨rfl, fun hfile => ?_⟩) (fun _ _ => .inl ?_)
        (fun _ hpend => ?_) fun _ _ _ hne => ?_
      · exact absurd ⟨q, hq, halive, hfile⟩ hnot
      · rw [pending_eq_next, hnext]
      · rw [pending_eq_next, hnext] at hpend
        cases hpend
      · rw [pending_eq_next, hnext] at hne
        exact absurd rfl hne
  | writeFileSync q =>
    have hnot := h.not_othersFile hi hp rfl fun hf => hcare hf rfl
    rcases serveFs_writeFileSync hserve with ⟨⟨e, rfl⟩, rfl⟩ | ⟨rfl, rfl⟩
    · exact h.keep hi nofun rfl (by rw [pending_eq_next]; exact horder)
    · obtain ⟨rfl, -⟩ : q = c.pid ∧ (k (.ok ())).next = some (.setAcquired true) := horder
      refine h.serve hi _ ⟨c, past ++ [_], k _⟩ rfl rfl (fun q hq halive => ⟨rfl, fun hfile => ?_⟩) (fun _ _ => .inr rfl)
        (fun _ _ => rfl) fun hf _ _ _ => ?_
      · exact absurd ⟨q, hq, halive, hfile⟩ hnot
      · exact h.freeing _ hmem hf hp rfl nofun
  | setAcquired b =>
    obtain ⟨rfl, rfl⟩ := Prod.mk.inj hserve
    obtain ⟨hne, hend⟩ : (k ()).next ≠ some (.setAcquired true) ∧
      (c.frees = true → (k ()).next = none) := horder
    refine h.serve hi _ ⟨c, past ++ [_], k _⟩ rfl rfl (fun q hq _ => ⟨Function.update_of_ne hq _ _, id⟩) (fun _ hacq => ?_)
      (fun _ hpend => ?_) fun hf _ hpend _ => ?_
    · have hb : Function.update cfg.world.acquired c.pid b c.pid = true := hacq
      rw [Function.update_self] at hb
      subst hb
      exact .inr (h.written _ hmem hp rfl)
    · rw [pending_eq_next] at hpend
      exact absurd hpend hne
    · rw [pending_eq_next, hend hf] at hpend
      cases hpend

end Step

/-! ## Careful runs -/

section Runs

variable {w₀ : LockWorld} {cfg : LockCfg}

abbrev CarefulRun (w₀ : LockWorld) (cfg : LockCfg) : Prop :=
  lockSystem.Reach (fun cfg m => Sequential cfg m ∧ Careful cfg m) w₀ cfg

/-- **Every careful run keeps the owner.** -/
theorem owned_reach (h₀ : ∀ p, w₀.acquired p = false) (h : CarefulRun w₀ cfg) : Owned cfg := by
  induction h with
  | init => exact owned_init h₀
  | @move cfg cfg' m hr hok hs ih =>
    cases m with
    | invoke c =>
      obtain ⟨-, rfl⟩ := move_invoke.mp hs
      exact ih.invoke (hok.1 c rfl) hok.2
    | pass pid =>
      obtain rfl := move_pass.mp hs
      exact ih.death pid
    | serve i ch =>
      obtain ⟨c, past, o, k, r, w', hi, hsv, rfl⟩ := move_serve.mp hs
      have hmem : (⟨c, past, .await o k⟩ : LockThread) ∈ cfg.threads := List.mem_of_getElem? hi
      have horder := ((follows_lockBody c).after (hr.after _ hmem)) r
      obtain ⟨hp, hserve⟩ := Option.ite_none_right_eq_some.mp hsv
      have hstep := ih.step hi hp (Option.some.inj hserve) horder.1 (hok.2 _ _ hi rfl)
      show Owned ⟨w', cfg.threads.set i _ ++ []⟩
      rw [List.append_nil]
      exact hstep

end Runs

/-! ## Runs of two processes -/

/-- All the requests of the call at a place, in order. -/
def serves (i n : ℕ) : List LockMove := List.replicate n (.serve i .ok)

/-- The processes 1 and 2 on a fresh path. -/
def twoProcesses : LockWorld := { file := none, alive := fun p => p = 1 || p = 2 }

/-- Process 1 acquires, process 2 finds the lock taken, process 1 gives it up. -/
def acquireInTurn : List LockMove :=
  .invoke (.acquire 1) :: serves 0 3 ++ .invoke (.acquire 2) :: serves 1 4 ++
    .invoke (.release 1) :: serves 2 3

/-- Both processes look for the file before either writes it. -/
def acquireTogether : List LockMove :=
  [.invoke (.acquire 1), .invoke (.acquire 2), .serve 0 .ok, .serve 1 .ok] ++ serves 0 2 ++ serves 1 2

/-- Process 1 acquires, and process 2, which holds nothing, releases. -/
def releaseOthers : List LockMove :=
  .invoke (.acquire 1) :: serves 0 3 ++ .invoke (.release 2) :: serves 1 2

/-- A delete of the lockfile of another live process by a `release` of one that holds nothing. -/
def deletesOthers (pid : ℕ) (th : LockThread) : Bool :=
  th.past.any fun e => th.call = .release pid ∧ e.pre.acquired pid = false ∧ OthersFile e.pre pid ∧
    e.post.file ≠ e.pre.file

end Benchmarker.Lockfile
