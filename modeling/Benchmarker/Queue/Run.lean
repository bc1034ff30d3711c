import Benchmarker.Async.Threads
import Benchmarker.Queue.Index

/-!
# Runs over the queue index

Programs interleaved over one queue index, and what every run keeps, whatever the programs are:
sequence numbers only grow, so a document whose sequence number is still the one that was read has
not been written since.

* `esSystem`: any programs over the requests, interleaved over one index.
* `EsWorld.Wf`, **`wf_reach`**: every sequence number is below the next one.
* `EsWorld.Later`, **`later_reach`**: the index only moves on; **`Later.unwritten`**: an unchanged
  sequence number means an unchanged document.
-/

namespace Benchmarker

open Async Async.Prog Async.System

/-- **Programs interleaved over one index**, at single-request granularity. -/
def esSystem {Call : Type} {Ret : Call → Type} (start : (c : Call) → Prog EsAns (Ret c)) :
    System EsAns Ret EsWorld EsChoice ℕ where
  start := start
  client _ := true
  forks _ _ := []
  serve _ o ch w := serve o ch w
  pass := EsWorld.pass

/-! ## Reading the index -/

namespace EsWorld

variable {w : EsWorld} {id : ℕ} {d : EsSource}

theorem doc_eq_some : w.doc id = some d ↔ ∃ s, w.docs[id]? = some s ∧ s.source = d := by
  rw [doc, Option.map_eq_some_iff]

theorem doc_eq_of_docs {w' : EsWorld} (h : w'.docs = w.docs) : w'.doc id = w.doc id := by rw [doc, doc, h]

theorem doc_of_docs {s : Stored} (h : w.docs[id]? = some s) : w.doc id = some s.source := by
  rw [doc, h]; rfl

@[simp] theorem docs_pass (t : ℕ) : (w.pass t).docs = w.docs := rfl

@[simp] theorem docs_issue (t : String) : (w.issue t).docs = w.docs := rfl

@[simp] theorem issued_put : (w.put id d).issued = w.issued := rfl

@[simp] theorem issued_add : (w.add d).issued = w.issued := rfl

theorem docs_put : (w.put id d).docs = w.docs.set id ⟨d, w.nextSeqNo, w.primaryTerm⟩ := rfl

theorem docs_add : (w.add d).docs = w.docs ++ [⟨d, w.nextSeqNo, w.primaryTerm⟩] := rfl

theorem docs_put_getElem? (i : ℕ) {s : Stored} (h : w.docs[id]? = some s) :
    (w.put id d).docs[i]? =
      if i = id then some ⟨d, w.nextSeqNo, w.primaryTerm⟩ else w.docs[i]? := by
  have hlt : id < w.docs.length := (List.getElem?_eq_some_iff.mp h).1
  rw [docs_put, List.getElem?_set]
  by_cases hi : i = id
  · rw [if_pos hi, if_pos hi.symm, if_pos hlt]
  · rw [if_neg hi, if_neg (Ne.symm hi)]

theorem doc_put {d₀ : EsSource} (h : w.doc id = some d₀) (i : ℕ) :
    (w.put id d).doc i = if i = id then some d else w.doc i := by
  obtain ⟨s, hs, -⟩ := doc_eq_some.mp h
  unfold doc
  rw [docs_put_getElem? i hs]
  by_cases hi : i = id
  · rw [if_pos hi, if_pos hi]
    rfl
  · rw [if_neg hi, if_neg hi]

theorem docs_add_getElem? (i : ℕ) {s : Stored} (h : w.docs[i]? = some s) :
    (w.add d).docs[i]? = some s := by
  rw [docs_add, List.getElem?_append_left (List.getElem?_eq_some_iff.mp h).1, h]

/-! ## Versions -/

/-- Every sequence number is below the next one. -/
def Wf (w : EsWorld) : Prop := ∀ (id : ℕ) (s : Stored), w.docs[id]? = some s → s.seqNo < w.nextSeqNo

/-- The index moves on from `w` to `w'`: documents stay, and one that was written meanwhile has a
sequence number that `w` had not given yet. -/
structure Later (w w' : EsWorld) : Prop where
  next : w.nextSeqNo ≤ w'.nextSeqNo
  docs : ∀ (id : ℕ) (s : Stored), w.docs[id]? = some s →
    ∃ s', w'.docs[id]? = some s' ∧ (s' = s ∨ w.nextSeqNo ≤ s'.seqNo)

theorem Later.refl (w : EsWorld) : Later w w := ⟨le_rfl, fun _ s h => ⟨s, h, .inl rfl⟩⟩

theorem Later.trans {u v w : EsWorld} (h : Later u v) (h' : Later v w) : Later u w := by
  refine ⟨h.next.trans h'.next, fun id s hs => ?_⟩
  obtain ⟨s₁, h₁, hor⟩ := h.docs id s hs
  obtain ⟨s₂, h₂, hor'⟩ := h'.docs id s₁ h₁
  refine ⟨s₂, h₂, ?_⟩
  rcases hor' with rfl | hlt
  · exact hor
  · exact .inr (h.next.trans hlt)

/-- **An unchanged sequence number means an unchanged document.** -/
theorem Later.unwritten {w w' : EsWorld} (h : Later w w') (hw : w.Wf) {id : ℕ} {s s' : Stored}
    (hs : w.docs[id]? = some s) (hs' : w'.docs[id]? = some s') (hv : s'.seqNo = s.seqNo) :
    s' = s := by
  obtain ⟨s'', h'', hor⟩ := h.docs id s hs
  obtain rfl := Option.some.inj (hs'.symm.trans h'')
  rcases hor with heq | hlt
  · exact heq
  · have := hw id s hs
    omega

theorem later_put {s : Stored} (h : w.docs[id]? = some s) : Later w (w.put id d) := by
  refine ⟨Nat.le_succ _, fun i s' hs' => ?_⟩
  rw [docs_put_getElem? i h]
  split_ifs
  · exact ⟨_, rfl, .inr le_rfl⟩
  · exact ⟨s', hs', .inl rfl⟩

theorem later_add : Later w (w.add d) :=
  ⟨Nat.le_succ _, fun i s' hs' => ⟨s', docs_add_getElem? i hs', .inl rfl⟩⟩

theorem wf_put {s : Stored} (hw : w.Wf) (h : w.docs[id]? = some s) : (w.put id d).Wf := by
  intro i s' hs'
  rw [docs_put_getElem? i h] at hs'
  split_ifs at hs'
  · obtain rfl := Option.some.inj hs'
    exact Nat.lt_succ_self _
  · exact (hw i s' hs').trans (Nat.lt_succ_self _)

theorem wf_add (hw : w.Wf) : (w.add d).Wf := by
  intro i s' hs'
  rw [docs_add] at hs'
  rcases List.mem_append.mp (List.mem_of_getElem? hs') with hmem | hmem
  · obtain ⟨j, hj⟩ := List.mem_iff_getElem?.mp hmem
    exact (hw j s' hj).trans (Nat.lt_succ_self _)
  · obtain rfl := List.mem_singleton.mp hmem
    exact Nat.lt_succ_self _

end EsWorld

open EsWorld

theorem Effect.later {w w' : EsWorld} {o : EsOp} (h : Effect w o w') : Later w w' := by
  cases h with
  | none => exact .refl _
  | token t => exact ⟨le_rfl, fun _ s hs => ⟨s, hs, .inl rfl⟩⟩
  | script hs => exact later_put hs
  | doc hs => exact later_put hs
  | index d => exact later_add

theorem Effect.wf {w w' : EsWorld} {o : EsOp} (h : Effect w o w') (hw : w.Wf) : w'.Wf := by
  cases h with
  | none => exact hw
  | token t => exact hw
  | script hs => exact wf_put hw hs
  | doc hs => exact wf_put hw hs
  | index d => exact wf_add hw

theorem Effect.issued_subset {w w' : EsWorld} {o : EsOp} (h : Effect w o w') :
    w.issued ⊆ w'.issued := by
  cases h with
  | token t => exact List.subset_cons_self _ _
  | _ => exact fun _ ht => ht

section Runs

variable {Call : Type} {Ret : Call → Type} {start : (c : Call) → Prog EsAns (Ret c)}
variable {ok : Cfg EsAns Ret EsWorld → Move Call EsChoice ℕ → Prop} {w₀ : EsWorld}
variable {cfg : Cfg EsAns Ret EsWorld}

theorem wf_reach (h₀ : w₀.Wf) (h : (esSystem start).Reach ok w₀ cfg) : cfg.world.Wf :=
  h.world_inv h₀ (fun _ _ _ hsv hw => (serve_effect hsv).wf hw) fun _ _ hw => hw

/-- **The index only moves on**, from every request of a thread to its next requests and to now. -/
theorem later_reach (h : (esSystem start).Reach ok w₀ cfg) : ∀ th ∈ cfg.threads,
    th.past.Pairwise (fun e e' => Later e.post e'.pre) ∧ ∀ e ∈ th.past, Later e.post cfg.world :=
  h.chain Later.refl Later.trans (fun hsv => (serve_effect hsv).later)
    fun _ _ => ⟨le_rfl, fun _ s hs => ⟨s, hs, .inl rfl⟩⟩

end Runs

end Benchmarker
