import Mathlib.Data.List.Induction
import Mathlib.Data.List.Infix

/-!
# Patterns over an alphabet

Regular expressions over any alphabet, in which only a class is repeated, or any text lazily: `ends` lists what
a match leaves of the text, in the order of backtracking.

* `Pattern`, `Pattern.ends`, `Pattern.find`, `Pattern.capture`.
* `Single`: a pattern that matches in one way; `Steady`: one whose matches have a fixed length.
* **`find_of_mem`**: the first match starts no later than any match. **`lazy_first`**: a lazy match ends no
  later than any other. **`find_leaves`**: what the first match leaves. **`capture_lazy`**: what a lazy group
  captures.
-/

namespace Js

inductive Pattern (α : Type)
  | eps
  | chr (p : α → Bool)
  | seq (a b : Pattern α)
  | alt (a b : Pattern α)
  /-- A class, as often as possible. -/
  | many (p : α → Bool)
  /-- Any text, as short as possible. -/
  | lazyAny
  /-- The end of the text. -/
  | eod
  /-- A match is ahead. -/
  | ahead (a : Pattern α)

namespace Pattern

variable {α : Type} {p : α → Bool} {a b r head stop : Pattern α} {s t u v w x y z : List α} {c : α}

def manyEnds (p : α → Bool) : List α → List (List α)
  | [] => [[]]
  | c :: cs => if p c then manyEnds p cs ++ [c :: cs] else [c :: cs]

/-- What the matches at the front of the text leave of it, the preferred one first. -/
def ends : Pattern α → List α → List (List α)
  | eps, s => [s]
  | chr _, [] => []
  | chr p, c :: cs => if p c then [cs] else []
  | seq a b, s => (a.ends s).flatMap b.ends
  | alt a b, s => a.ends s ++ b.ends s
  | many p, s => manyEnds p s
  | lazyAny, s => s.tails
  | eod, s => if s.isEmpty then [s] else []
  | ahead a, s => if (a.ends s).isEmpty then [] else [s]

/-- The text from the first match on, and what the match leaves. -/
def find (r : Pattern α) (s : List α) : Option (List α × List α) :=
  s.tails.findSome? fun t => (r.ends t).head?.map (t, ·)

/-- The text of the group in the first match of `before group after` at the front. -/
def captureAt (before group after : Pattern α) (s : List α) : Option (List α) :=
  (before.ends s).findSome? fun u => (group.ends u).findSome? fun x =>
    if (after.ends x).isEmpty then none else some (u.take (u.length - x.length))

def capture (before group after : Pattern α) (s : List α) : Option (List α) :=
  s.tails.findSome? (captureAt before group after)

/-! ## Notation -/

def lit [DecidableEq α] (l : List α) : Pattern α := l.foldr (fun c r => seq (chr fun d => d = c) r) eps

def seqs (rs : List (Pattern α)) : Pattern α := rs.foldr seq eps

def opt (r : Pattern α) : Pattern α := alt r eps

/-- A class, at least once. -/
def plus (p : α → Bool) : Pattern α := seq (chr p) (many p)

/-! ## Ends -/

theorem mem_ends_seq : u ∈ (seq a b).ends s ↔ ∃ v ∈ a.ends s, u ∈ b.ends v := List.mem_flatMap

theorem mem_ends_chr : u ∈ (chr p).ends s ↔ ∃ c, p c = true ∧ s = c :: u := by
  cases s with
  | nil => exact iff_of_false List.not_mem_nil fun ⟨_, _, h⟩ => by cases h
  | cons c cs =>
    rw [ends]
    constructor
    · intro h
      split_ifs at h with hp
      · exact ⟨c, hp, by rw [List.mem_singleton.mp h]⟩
      · cases h
    · rintro ⟨d, hd, h⟩
      obtain ⟨rfl, rfl⟩ := List.cons.inj h
      rw [if_pos hd]
      exact List.mem_singleton_self _

theorem mem_manyEnds (h : u ∈ manyEnds p s) : ∃ w, s = w ++ u ∧ ∀ c ∈ w, p c = true := by
  induction s with
  | nil => exact ⟨[], (List.mem_singleton.mp h).symm, nofun⟩
  | cons c cs ih =>
    rw [manyEnds] at h
    split_ifs at h with hp
    · rcases List.mem_append.mp h with h | h
      · obtain ⟨w, rfl, hw⟩ := ih h
        exact ⟨c :: w, rfl, List.forall_mem_cons.mpr ⟨hp, hw⟩⟩
      · exact ⟨[], (List.mem_singleton.mp h).symm, nofun⟩
    · exact ⟨[], (List.mem_singleton.mp h).symm, nofun⟩

theorem mem_ends_lit [DecidableEq α] {l : List α} : u ∈ (lit l).ends s ↔ s = l ++ u := by
  induction l generalizing s with
  | nil => exact List.mem_singleton.trans eq_comm
  | cons c l ih =>
    show u ∈ (seq (chr fun d => d = c) (lit l)).ends s ↔ _
    rw [mem_ends_seq]
    simp only [mem_ends_chr, ih]
    constructor
    · rintro ⟨v, ⟨d, hd, rfl⟩, rfl⟩
      rw [of_decide_eq_true hd]
      rfl
    · rintro rfl
      exact ⟨l ++ u, ⟨c, decide_eq_true rfl, rfl⟩, rfl⟩

theorem append_mem_manyEnds (h : ∀ c ∈ w, p c = true) : u ∈ manyEnds p (w ++ u) := by
  induction w with
  | nil =>
    cases u with
    | nil => exact List.mem_singleton_self _
    | cons c u =>
      rw [List.nil_append, manyEnds]
      split_ifs
      · exact List.mem_append_right _ (List.mem_singleton_self _)
      · exact List.mem_singleton_self _
  | cons c w ih =>
    rw [List.cons_append, manyEnds, if_pos (h c List.mem_cons_self)]
    exact List.mem_append_left _ (ih fun d hd => h d (List.mem_cons_of_mem c hd))

/-- A match leaves a suffix. -/
theorem suffix_of_mem (h : u ∈ r.ends s) : u <:+ s := by
  induction r generalizing s u with
  | eps => exact (List.mem_singleton.mp h).symm ▸ List.suffix_rfl
  | chr p =>
    obtain ⟨c, -, rfl⟩ := mem_ends_chr.mp h
    exact List.suffix_cons c u
  | seq a b iha ihb =>
    obtain ⟨v, hv, hu⟩ := mem_ends_seq.mp h
    exact (ihb hu).trans (iha hv)
  | alt a b iha ihb => exact (List.mem_append.mp h).elim iha ihb
  | many p =>
    obtain ⟨w, rfl, -⟩ := mem_manyEnds h
    exact List.suffix_append w u
  | lazyAny => exact (List.mem_tails _ _).mp h
  | eod =>
    rw [ends] at h
    split_ifs at h
    · exact (List.mem_singleton.mp h).symm ▸ List.suffix_rfl
    · cases h
  | ahead a =>
    rw [ends] at h
    split_ifs at h
    · cases h
    · exact (List.mem_singleton.mp h).symm ▸ List.suffix_rfl

/-- What a pattern consumes has only such characters. -/
def Within (P : α → Prop) : Pattern α → Prop
  | chr p | many p => ∀ c, p c = true → P c
  | seq a b | alt a b => a.Within P ∧ b.Within P
  | lazyAny => ∀ c, P c
  | eps | eod | ahead _ => True

theorem Within.of_mem {P : α → Prop} (h : r.Within P) (hu : u ∈ r.ends s) : ∃ w, s = w ++ u ∧ ∀ c ∈ w, P c := by
  induction r generalizing s u with
  | eps => exact ⟨[], (List.mem_singleton.mp hu).symm, nofun⟩
  | chr p =>
    obtain ⟨c, hc, rfl⟩ := mem_ends_chr.mp hu
    exact ⟨[c], rfl, fun d hd => List.mem_singleton.mp hd ▸ h c hc⟩
  | seq a b iha ihb =>
    obtain ⟨v, hv, hv'⟩ := mem_ends_seq.mp hu
    obtain ⟨w, rfl, hw⟩ := iha h.1 hv
    obtain ⟨w', rfl, hw'⟩ := ihb h.2 hv'
    exact ⟨w ++ w', (List.append_assoc _ _ _).symm, List.forall_mem_append.mpr ⟨hw, hw'⟩⟩
  | alt a b iha ihb => exact (List.mem_append.mp hu).elim (iha h.1) (ihb h.2)
  | many p =>
    obtain ⟨w, rfl, hw⟩ := mem_manyEnds hu
    exact ⟨w, rfl, fun c hc => h c (hw c hc)⟩
  | lazyAny =>
    obtain ⟨w, rfl⟩ := suffix_of_mem hu
    exact ⟨w, rfl, fun c _ => h c⟩
  | eod =>
    rw [ends] at hu
    split_ifs at hu
    · exact ⟨[], (List.mem_singleton.mp hu).symm, nofun⟩
    · cases hu
  | ahead a =>
    rw [ends] at hu
    split_ifs at hu
    · cases hu
    · exact ⟨[], (List.mem_singleton.mp hu).symm, nofun⟩

/-! ## Patterns that match in one way -/

/-- At most one match starts at the front of a text. -/
def Single (r : Pattern α) : Prop := ∀ s v, v ∈ r.ends s → r.ends s = [v]

theorem single_chr : (chr p).Single := by
  intro s v h
  obtain ⟨c, hc, rfl⟩ := mem_ends_chr.mp h
  rw [ends, if_pos hc]

theorem Single.seq (ha : a.Single) (hb : b.Single) : (seq a b).Single := by
  intro s v h
  obtain ⟨u, hu, hv⟩ := mem_ends_seq.mp h
  rw [ends, ha s u hu, List.flatMap_singleton, hb u v hv]

theorem single_lit [DecidableEq α] (l : List α) : (lit l).Single := by
  induction l with
  | nil => exact fun s v h => by rw [List.mem_singleton.mp h]; rfl
  | cons c l ih => exact single_chr.seq ih

/-- The longest repetition is preferred, and another one is followed by a member of the class. -/
theorem manyEnds_eq (p : α → Bool) (s : List α) : ∃ l, manyEnds p s = s.dropWhile p :: l ∧
    ∀ u ∈ l, ∃ c cs, u = c :: cs ∧ p c = true := by
  induction s with
  | nil => exact ⟨[], rfl, nofun⟩
  | cons c cs ih =>
    rw [manyEnds, List.dropWhile_cons]
    split_ifs with h
    · obtain ⟨l, hl, hall⟩ := ih
      refine ⟨l ++ [c :: cs], by rw [hl]; rfl, fun u hu => ?_⟩
      rcases List.mem_append.mp hu with hu | hu
      · exact hall u hu
      · exact ⟨c, cs, List.mem_singleton.mp hu, h⟩
    · exact ⟨[], rfl, nofun⟩

/-- A class is left where a text follows that does not start with a member. -/
theorem ends_many_lit [DecidableEq α] {l : List α} (h : p c = false) (s : List α) :
    (seq (many p) (lit (c :: l))).ends s = (lit (c :: l)).ends (s.dropWhile p) := by
  obtain ⟨rest, hrest, hall⟩ := manyEnds_eq p s
  rw [ends, ends, hrest, List.flatMap_cons]
  refine (congrArg _ (List.flatMap_eq_nil_iff.mpr fun u hu => ?_)).trans (List.append_nil _)
  obtain ⟨d, cs, rfl, hd⟩ := hall u hu
  refine List.eq_nil_iff_forall_not_mem.mpr fun v hv => ?_
  rw [(List.cons.inj (mem_ends_lit.mp hv)).1, h] at hd
  cases hd

theorem single_many_lit [DecidableEq α] {l : List α} (h : p c = false) :
    (seq (many p) (lit (c :: l))).Single := by
  intro s v hv
  rw [ends_many_lit h] at hv ⊢
  exact single_lit _ _ _ hv

/-! ## The first match -/

theorem find_cons (r : Pattern α) (c : α) (cs : List α) :
    r.find (c :: cs) = ((r.ends (c :: cs)).head?.map (c :: cs, ·)).or (r.find cs) := by
  rw [find, List.tails, List.findSome?_cons, find]
  cases (r.ends (c :: cs)).head? <;> rfl

theorem find_nil (r : Pattern α) : r.find [] = (r.ends []).head?.map ([], ·) := by
  rw [find, List.tails, List.findSome?_cons]
  cases (r.ends []).head? <;> rfl

theorem find_eq_some (h : r.find s = some (t, u)) : t <:+ s ∧ (r.ends t).head? = some u := by
  obtain ⟨t', ht', h⟩ := List.exists_of_findSome?_eq_some h
  obtain ⟨u', hu', heq⟩ := Option.map_eq_some_iff.mp h
  cases heq
  exact ⟨(List.mem_tails _ _).mp ht', hu'⟩

/-- **The first match starts no later than any match.** -/
theorem find_of_mem (hu : u ∈ r.ends t) (ht : t <:+ s) : ∃ t' u', r.find s = some (t', u') ∧ t <:+ t' := by
  have hhead : ∃ u', (r.ends t).head? = some u' := ⟨_, List.head?_eq_some_head (List.ne_nil_of_mem hu)⟩
  obtain ⟨u', hu'⟩ := hhead
  induction s with
  | nil =>
    obtain rfl := List.suffix_nil.mp ht
    exact ⟨[], u', by rw [find_nil, hu', Option.map_some], List.suffix_rfl⟩
  | cons c cs ih =>
    rw [find_cons]
    cases hfirst : (r.ends (c :: cs)).head? with
    | some v => exact ⟨_, v, rfl, ht⟩
    | none =>
      rcases List.suffix_cons_iff.mp ht with rfl | ht
      · rw [hu'] at hfirst
        cases hfirst
      · exact ih ht

/-! ## Lazy matches -/

/-- Every match takes `k` characters. -/
def Steady (k : ℕ) (r : Pattern α) : Prop := ∀ s u, u ∈ r.ends s → s.length = u.length + k

theorem steady_lit [DecidableEq α] (l : List α) : (lit l).Steady l.length := by
  intro s u h
  rw [mem_ends_lit.mp h, List.length_append, Nat.add_comm]

theorem steady_ahead : (ahead a).Steady 0 := by
  intro s u h
  rw [ends] at h
  split_ifs at h
  · cases h
  · rw [List.mem_singleton.mp h, Nat.add_zero]

/-- **A lazy match ends no later than any other.** -/
theorem lazy_first {k : ℕ} (hstop : stop.Steady k) (hy : y <:+ v) (hz : z ∈ stop.ends y) :
    ∃ u, ((seq lazyAny stop).ends v).head? = some u ∧ z <:+ u := by
  induction v with
  | nil =>
    obtain rfl := List.suffix_nil.mp hy
    have hmem : z ∈ (seq lazyAny stop).ends [] := mem_ends_seq.mpr ⟨[], (List.mem_tails _ _).mpr List.suffix_rfl, hz⟩
    obtain rfl := List.suffix_nil.mp (suffix_of_mem hz)
    exact ⟨_, List.head?_eq_some_head (List.ne_nil_of_mem hmem), List.nil_suffix⟩
  | cons c cs ih =>
    rw [ends, ends, List.tails, List.flatMap_cons]
    cases hends : stop.ends (c :: cs) with
    | nil =>
      rcases List.suffix_cons_iff.mp hy with rfl | hy
      · rw [hends] at hz
        cases hz
      · exact ih hy
    | cons u us =>
      refine ⟨u, rfl, ?_⟩
      have hu : u ∈ stop.ends (c :: cs) := hends ▸ List.mem_cons_self
      have hlength := hstop _ _ hu
      have hlength' := hstop _ _ hz
      have hle := hy.length_le
      exact List.suffix_of_suffix_length_le ((suffix_of_mem hz).trans hy) (suffix_of_mem hu) (by omega)

/-- What starts with a letter that a text has only at its front starts with the text or behind it. -/
theorem suffix_of_fresh (hw : c ∉ w) (h : c :: t <:+ c :: (w ++ v)) : c :: t = c :: (w ++ v) ∨ c :: t <:+ v := by
  refine (List.suffix_cons_iff.mp h).imp_right fun h => ?_
  induction w with
  | nil => exact h
  | cons d w ih =>
    rcases List.suffix_cons_iff.mp h with heq | h
    · exact absurd List.mem_cons_self ((List.cons.inj heq).1 ▸ hw)
    · exact ih (List.not_mem_of_not_mem_cons hw) ((List.suffix_cons_iff.mpr (.inr h))) h

/-- **What is left by some match of a lazy pattern is left by the first one**, where the head of the pattern has
its first letter nowhere else. -/
theorem find_leaves {k : ℕ} (hhead : head.Single) (hstop : stop.Steady k)
    (hfresh : ∀ s v, v ∈ head.ends s → ∃ w, s = c :: (w ++ v) ∧ c ∉ w) (hv : v ∈ head.ends (c :: x)) (hy : y <:+ v)
    (hz : z ∈ stop.ends y) (hx : c :: x <:+ s) (h : (seq head (seq lazyAny stop)).find s = some (t, u)) :
    z <:+ u := by
  have hends : ∀ {s v}, v ∈ head.ends s →
      (seq head (seq lazyAny stop)).ends s = (seq lazyAny stop).ends v := fun {s v} hv => by
    rw [ends, hhead s v hv, List.flatMap_singleton]
  obtain ⟨-, hu⟩ := find_eq_some h
  have hmem : z ∈ (seq head (seq lazyAny stop)).ends (c :: x) := by
    rw [hends hv]
    exact mem_ends_seq.mpr ⟨y, (List.mem_tails _ _).mpr hy, hz⟩
  obtain ⟨t', u', hfind, ht⟩ := find_of_mem hmem hx
  rw [hfind] at h
  cases h
  obtain ⟨v', hv', -⟩ := mem_ends_seq.mp (List.mem_of_head? hu)
  obtain ⟨w, rfl, hw⟩ := hfresh t v' hv'
  have hy' : y <:+ v' := by
    rcases suffix_of_fresh hw ht with heq | hsuffix
    · rw [← heq, hhead _ _ hv] at hv'
      rw [List.mem_singleton.mp hv']
      exact hy
    · exact (hy.trans ((suffix_of_mem hv).trans hsuffix))
  obtain ⟨u', hu', hzu⟩ := lazy_first hstop hy' hz
  rw [hends hv', hu'] at hu
  cases hu
  exact hzu

/-! ## Captured texts -/

/-- `f` stands behind `x` for the first time. -/
def Before (f x : List α) : Prop := ∀ y, y <:+ x → y ≠ [] → ¬f <+: y ++ f

theorem exists_before {f : List α} (h : f <:+: s) : ∃ x post, s = x ++ (f ++ post) ∧ Before f x := by
  classical
  induction s with
  | nil =>
    obtain rfl := List.infix_nil.mp h
    exact ⟨[], [], rfl, fun y hy hne => absurd (List.suffix_nil.mp hy) hne⟩
  | cons c cs ih =>
    by_cases hprefix : f <+: c :: cs
    · obtain ⟨post, hpost⟩ := hprefix
      exact ⟨[], post, hpost.symm, fun y hy hne => absurd (List.suffix_nil.mp hy) hne⟩
    · obtain ⟨x, post, rfl, hx⟩ := ih ((List.infix_cons_iff.mp h).resolve_left hprefix)
      refine ⟨c :: x, post, rfl, fun y hy hne => ?_⟩
      rcases List.suffix_cons_iff.mp hy with rfl | hy
      · refine fun hf => hprefix (hf.trans ?_)
        rw [List.cons_append, ← List.append_assoc]
        exact List.cons_prefix_cons.mpr ⟨rfl, List.prefix_append _ _⟩
      · exact hx y hy hne

/-- A text behind which none of its characters occurs stands further to the left. -/
theorem infix_of_disjoint_right {f b : List α} (hne : f ≠ []) (hb : ∀ c ∈ f, c ∉ b) (h : f <:+: x ++ b) :
    f <:+: x := by
  obtain ⟨p, q, heq⟩ := h
  rcases List.append_eq_append_iff.mp heq with ⟨m, rfl, -⟩ | ⟨m, hm, rfl⟩
  · exact ⟨p, m, rfl⟩
  · obtain ⟨f', c, rfl⟩ := (List.eq_nil_or_concat' f).resolve_left hne
    cases m using List.reverseRecOn with
    | nil =>
      rw [List.append_nil] at hm
      exact ⟨p, [], by rw [List.append_nil, hm]⟩
    | append_singleton m d =>
      rw [← List.append_assoc, ← List.append_assoc] at hm
      obtain ⟨-, hd⟩ := List.append_inj' hm rfl
      have hmem : c ∈ f' ++ [c] := List.mem_append_right _ (List.mem_singleton_self c)
      refine absurd ?_ (hb c hmem)
      rw [(List.cons.inj hd).1]
      exact List.mem_append_left _ (List.mem_append_right _ (List.mem_singleton_self d))

/-- The same for characters before it. -/
theorem infix_of_disjoint_left {f b : List α} (hne : f ≠ []) (hb : ∀ c ∈ f, c ∉ b) (h : f <:+: b ++ x) :
    f <:+: x := by
  rw [← List.reverse_infix] at h ⊢
  rw [List.reverse_append] at h
  refine infix_of_disjoint_right (by simpa using hne) (fun c hc hmem => ?_) h
  exact hb c (List.mem_reverse.mp hc) (List.mem_reverse.mp hmem)

theorem Before.not_starts {f post : List α} (h : Before f x) (hy : y <:+ x) (hne : y ≠ []) :
    ¬f <+: y ++ (f ++ post) := by
  intro hf
  refine h y hy hne (List.prefix_of_prefix_length_le hf ?_ ?_)
  · rw [← List.append_assoc]
    exact List.prefix_append _ _
  · rw [List.length_append]
    omega

theorem findSome?_tails {β : Type} {g : List α → Option β} {b : β}
    (h : ∀ y, y <:+ x → y ≠ [] → g (y ++ w) = none) (hb : g w = some b) :
    (x ++ w).tails.findSome? g = some b := by
  induction x with
  | nil =>
    cases w <;> rw [List.nil_append, List.tails, List.findSome?_cons, hb]
  | cons c x ih =>
    rw [List.cons_append, List.tails, List.findSome?_cons, ← List.cons_append,
      h (c :: x) List.suffix_rfl (List.cons_ne_nil c x)]
    exact ih fun y hy hne => h y (hy.trans (List.suffix_cons c x)) hne

theorem ends_lit_isEmpty [DecidableEq α] {f : List α} : ((lit f).ends s).isEmpty = true ↔ ¬f <+: s := by
  rw [List.isEmpty_iff, List.eq_nil_iff_forall_not_mem]
  constructor
  · rintro h ⟨post, rfl⟩
    exact h post (mem_ends_lit.mpr rfl)
  · intro h u hu
    rw [mem_ends_lit.mp hu] at h
    exact h (List.prefix_append _ _)

/-- **What a lazy group captures**: the text up to the first `f` behind the first match of what is before. -/
theorem capture_lazy [DecidableEq α] {before : Pattern α} {f post : List α} {us : List (List α)}
    (hstart : ∀ y, y <:+ w → y ≠ [] → before.ends (y ++ s) = []) (hs : before.ends s = (x ++ (f ++ post)) :: us)
    (hx : Before f x) : capture before lazyAny (lit f) (w ++ s) = some x := by
  refine findSome?_tails (fun y hy hne => ?_) ?_
  · rw [captureAt, hstart y hy hne, List.findSome?_nil]
  · have hgroup : ((lazyAny : Pattern α).ends (x ++ (f ++ post))).findSome? (fun t =>
        if ((lit f).ends t).isEmpty then none
        else some ((x ++ (f ++ post)).take ((x ++ (f ++ post)).length - t.length))) = some x := by
      refine findSome?_tails (fun y hy hne => if_pos (ends_lit_isEmpty.mpr (hx.not_starts hy hne))) ?_
      rw [if_neg, List.length_append, Nat.add_sub_cancel, List.take_left]
      exact fun h => ends_lit_isEmpty.mp h (List.prefix_append _ _)
    rw [captureAt, hs, List.findSome?_cons, hgroup]

/-- Nothing is captured where no `f` stands behind what is before. -/
theorem capture_none [DecidableEq α] {before group : Pattern α} {f : List α}
    (h : ∀ t, t <:+ s → ∀ u ∈ before.ends t, ¬f <:+: u) : capture before group (lit f) s = none := by
  refine List.findSome?_eq_none_iff.mpr fun t ht => List.findSome?_eq_none_iff.mpr fun u hu =>
    List.findSome?_eq_none_iff.mpr fun x hx => if_pos (ends_lit_isEmpty.mpr fun hf => ?_)
  exact h t ((List.mem_tails _ _).mp ht) u hu (hf.isInfix.trans (suffix_of_mem hx).isInfix)

end Pattern

end Js
