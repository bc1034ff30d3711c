import Mathlib.Computability.Language
import Benchmarker.Js.Regex

/-!
# The language of an expression

The texts that an expression matches, for the expressions whose matches do not depend on what stands
around them. A text that no match may begin in, or end in, may be put before or after another text
without a new match.

* `Re.plain`, `Re.language`, **`mem_ends`**: what the matcher finds. `test_iff`.
* `mem_language_of_capture`: a captured text is a word. `Re.Within`, `mem_language_alts`,
  `mem_language_txt`: the words of an expression.
* `Re.rev`, `language_rev`: the expression read backwards.
* `Re.residues`, `Re.blocked`, **`not_comparable_of_blocked`**: a text that no match overlaps from its
  first character on.
* `Re.Shut`, `shut_of_eq_true`, `shut_append`, **`test_between`**: a text between two others.
-/

namespace Js.Re

open scoped Computability

/-! ## Languages -/

/-- The expression does not look at the characters around a match. -/
def plain : Re → Bool
  | chr _ | eps => true
  | seq a b | alt a b => a.plain && b.plain
  | star a | lazyStar a => a.plain
  | wordBoundary => false

def language : Re → Language Char
  | chr f => {w | ∃ c, f c = true ∧ w = [c]}
  | eps | wordBoundary => 1
  | seq a b => a.language * b.language
  | alt a b => a.language + b.language
  | star a | lazyStar a => a.language∗

/-- The place `q` is reached from `p` by reading `w`. -/
def Reads (p : Pos) (w : List Char) (q : Pos) : Prop :=
  p.rest = w ++ q.rest ∧ q.prev = w.getLast?.or p.prev

section Reads

variable {p q r : Pos} {v w : List Char}

theorem reads_nil : Reads p [] q ↔ q = p := by
  constructor
  · intro h
    cases p
    cases q
    exact (Pos.mk.injEq _ _ _ _).mpr ⟨h.2, h.1.symm⟩
  · rintro rfl
    exact ⟨rfl, rfl⟩

theorem Reads.append (h : Reads p v q) (h' : Reads q w r) : Reads p (v ++ w) r :=
  ⟨by rw [h.1, h'.1, List.append_assoc],
    by rw [h'.2, h.2, List.getLast?_append, Option.or_assoc]⟩

theorem Reads.split (h : Reads p (v ++ w) r) : ∃ q, Reads p v q ∧ Reads q w r := by
  refine ⟨⟨v.getLast?.or p.prev, w ++ r.rest⟩, ⟨?_, rfl⟩, ⟨rfl, ?_⟩⟩
  · rw [h.1, List.append_assoc]
  · rw [h.2, List.getLast?_append, Option.or_assoc]

theorem Reads.length (h : Reads p w q) : p.rest.length = w.length + q.rest.length := by
  rw [h.1, List.length_append]

theorem Reads.lt (h : Reads p w q) : q.rest.length < p.rest.length ↔ w ≠ [] := by
  rw [h.length, ← List.length_pos_iff]
  omega

end Reads

/-- A word of a repetition begins with a word of what is repeated, unless it is empty. -/
theorem mem_kstar_cons {l : Language Char} {w : List Char} :
    w ∈ l∗ ↔ w = [] ∨ ∃ u v, u ≠ [] ∧ w = u ++ v ∧ u ∈ l ∧ v ∈ l∗ := by
  rw [Language.mem_kstar_iff_exists_nonempty]
  constructor
  · rintro ⟨ws, rfl, hws⟩
    cases ws with
    | nil => exact .inl rfl
    | cons u ws =>
      obtain ⟨hu, hne⟩ := hws u List.mem_cons_self
      exact .inr ⟨u, ws.flatten, hne, rfl, hu,
        Language.join_mem_kstar fun v hv => (hws v (List.mem_cons_of_mem _ hv)).1⟩
  · rintro (rfl | ⟨u, v, hne, rfl, hu, hv⟩)
    · exact ⟨[], rfl, fun _ h => absurd h List.not_mem_nil⟩
    · obtain ⟨ws, rfl, hws⟩ := (Language.mem_kstar_iff_exists_nonempty).1 hv
      refine ⟨u :: ws, rfl, fun x hx => ?_⟩
      rcases List.mem_cons.1 hx with rfl | hx
      · exact ⟨hu, hne⟩
      · exact hws x hx

/-! ## The matcher -/

section Ends

variable {step : Pos → List Pos} {l : Language Char}

theorem mem_starEnds (hstep : ∀ p q, q ∈ step p ↔ ∃ w ∈ l, Reads p w q) (n : ℕ) (p q : Pos)
    (hn : p.rest.length ≤ n) : q ∈ starEnds step n p ↔ ∃ w ∈ l∗, Reads p w q := by
  induction n generalizing p with
  | zero =>
    rw [starEnds, List.mem_singleton, ← reads_nil]
    constructor
    · intro h
      exact ⟨[], Language.nil_mem_kstar l, h⟩
    · rintro ⟨w, -, h⟩
      have hw : w = [] := by
        have hlen := h.length
        exact List.length_eq_zero_iff.1 (by omega)
      rw [hw] at h
      exact h
  | succ n ih =>
    rw [starEnds, List.mem_append, List.mem_singleton, List.mem_flatMap]
    constructor
    · rintro (⟨p', hp', hq⟩ | rfl)
      · obtain ⟨hp', hlt⟩ := List.mem_filter.1 hp'
        have hlt := of_decide_eq_true hlt
        obtain ⟨u, hu, hread⟩ := (hstep p p').1 hp'
        obtain ⟨v, hv, hread'⟩ := (ih p' (by omega)).1 hq
        exact ⟨u ++ v, mem_kstar_cons.2 (.inr ⟨u, v, hread.lt.1 hlt, rfl, hu, hv⟩),
          hread.append hread'⟩
      · exact ⟨[], Language.nil_mem_kstar l, reads_nil.2 rfl⟩
    · rintro ⟨w, hw, hread⟩
      rcases mem_kstar_cons.1 hw with rfl | ⟨u, v, hne, rfl, hu, hv⟩
      · exact .inr (reads_nil.1 hread)
      · obtain ⟨p', hread, hread'⟩ := hread.split
        have hlt := hread.lt.2 hne
        refine .inl ⟨p', List.mem_filter.2 ⟨(hstep p p').2 ⟨u, hu, hread⟩, decide_eq_true hlt⟩, ?_⟩
        exact (ih p' (by omega)).2 ⟨v, hv, hread'⟩

/-- The order of the ends apart, a lazy repetition is a greedy one. -/
theorem mem_lazyEnds (n : ℕ) (p q : Pos) : q ∈ lazyEnds step n p ↔ q ∈ starEnds step n p := by
  induction n generalizing p with
  | zero => rfl
  | succ n ih =>
    rw [lazyEnds, starEnds, List.mem_cons, List.mem_append, List.mem_singleton, or_comm,
      List.mem_flatMap, List.mem_flatMap]
    simp only [ih]

end Ends

/-- **The matcher ends where a word of the language has been read.** -/
theorem mem_ends {r : Re} (hr : r.plain = true) (p q : Pos) :
    q ∈ r.ends p ↔ ∃ w ∈ r.language, Reads p w q := by
  induction r generalizing p q with
  | chr f =>
    unfold ends
    constructor
    · intro h
      split at h
      · exact absurd h List.not_mem_nil
      · rename_i c cs hrest
        split at h
        · rename_i hc
          rw [List.mem_singleton.1 h]
          exact ⟨[c], ⟨c, hc, rfl⟩, hrest, rfl⟩
        · exact absurd h List.not_mem_nil
    · rintro ⟨_, ⟨c, hc, rfl⟩, hrest, hprev⟩
      rw [hrest]
      show q ∈ if f c = true then [⟨some c, q.rest⟩] else []
      rw [if_pos hc, List.mem_singleton]
      cases q
      exact (Pos.mk.injEq _ _ _ _).mpr ⟨hprev, rfl⟩
  | eps =>
    rw [ends, List.mem_singleton, ← reads_nil]
    constructor
    · intro h
      exact ⟨[], Language.nil_mem_one, h⟩
    · rintro ⟨w, hw, h⟩
      rw [(Language.mem_one w).1 hw] at h
      exact h
  | seq a b iha ihb =>
    obtain ⟨ha, hb⟩ := Bool.and_eq_true_iff.1 hr
    rw [ends, List.mem_flatMap]
    constructor
    · rintro ⟨p', hp', hq⟩
      obtain ⟨v, hv, hread⟩ := (iha ha p p').1 hp'
      obtain ⟨w, hw, hread'⟩ := (ihb hb p' q).1 hq
      exact ⟨v ++ w, Language.append_mem_mul hv hw, hread.append hread'⟩
    · rintro ⟨_, hw, hread⟩
      obtain ⟨v, hv, w, hw', rfl⟩ := Language.mem_mul.1 hw
      obtain ⟨p', hread, hread'⟩ := hread.split
      exact ⟨p', (iha ha p p').2 ⟨v, hv, hread⟩, (ihb hb p' q).2 ⟨w, hw', hread'⟩⟩
  | alt a b iha ihb =>
    obtain ⟨ha, hb⟩ := Bool.and_eq_true_iff.1 hr
    rw [ends, List.mem_append, iha ha, ihb hb]
    constructor
    · rintro (⟨w, hw, h⟩ | ⟨w, hw, h⟩)
      · exact ⟨w, .inl hw, h⟩
      · exact ⟨w, .inr hw, h⟩
    · rintro ⟨w, hw | hw, h⟩
      · exact .inl ⟨w, hw, h⟩
      · exact .inr ⟨w, hw, h⟩
  | star a ih =>
    rw [ends, language]
    exact mem_starEnds (fun p q => ih hr p q) _ p q (le_refl _)
  | lazyStar a ih =>
    rw [ends, language, mem_lazyEnds]
    exact mem_starEnds (fun p q => ih hr p q) _ p q (le_refl _)
  | wordBoundary => exact absurd hr Bool.false_ne_true

theorem ends_isEmpty {r : Re} (hr : r.plain = true) (p : Pos) :
    (r.ends p).isEmpty = false ↔ ∃ w ∈ r.language, w <+: p.rest := by
  rw [Bool.eq_false_iff, ne_eq, List.isEmpty_iff, ← ne_eq, List.ne_nil_iff_exists_cons]
  constructor
  · rintro ⟨q, qs, hq⟩
    obtain ⟨w, hw, hread⟩ := (mem_ends hr p q).1 (hq ▸ List.mem_cons_self)
    exact ⟨w, hw, q.rest, hread.1.symm⟩
  · rintro ⟨w, hw, rest, hrest⟩
    have hq : (⟨w.getLast?.or p.prev, rest⟩ : Pos) ∈ r.ends p :=
      (mem_ends hr p _).2 ⟨w, hw, hrest.symm, rfl⟩
    exact List.exists_cons_of_ne_nil (List.ne_nil_of_mem hq)

theorem searchFrom_iff {r : Re} (hr : r.plain = true) (prev : Option Char) (cs : List Char) :
    r.searchFrom prev cs = true ↔ ∃ w ∈ r.language, w <:+: cs := by
  induction cs generalizing prev with
  | nil =>
    rw [searchFrom, Bool.not_eq_true', ends_isEmpty hr]
    simp only [List.prefix_nil, List.infix_nil]
  | cons c cs ih =>
    rw [searchFrom, Bool.or_eq_true, Bool.not_eq_true', ends_isEmpty hr, ih]
    simp only [List.infix_cons_iff]
    constructor
    · rintro (⟨w, hw, h⟩ | ⟨w, hw, h⟩)
      · exact ⟨w, hw, .inl h⟩
      · exact ⟨w, hw, .inr h⟩
    · rintro ⟨w, hw, h | h⟩
      · exact .inl ⟨w, hw, h⟩
      · exact .inr ⟨w, hw, h⟩

/-- **A test looks for a word of the language in the text.** -/
theorem test_iff {r : Re} (hr : r.plain = true) (text : String) :
    r.test text = true ↔ ∃ w ∈ r.language, w <:+: text.toList := searchFrom_iff hr none text.toList

/-! ## Captures -/

theorem mem_language_of_captureAt {before group after : Re} (hg : group.plain = true) {p : Pos}
    {cs : List Char} (h : captureAt before group after p = some cs) : cs ∈ group.language := by
  obtain ⟨q, -, hq⟩ := List.exists_of_findSome?_eq_some h
  obtain ⟨r, hmem, hr⟩ := List.exists_of_findSome?_eq_some hq
  obtain ⟨w, hw, hread⟩ := (mem_ends hg q r).mp hmem
  split at hr
  · cases hr
  · cases hr
    rw [hread.1, List.length_append, Nat.add_sub_cancel, List.take_left]
    exact hw

theorem mem_language_of_captureFrom {before group after : Re} (hg : group.plain = true)
    (prev : Option Char) {text cs : List Char} (h : captureFrom before group after prev text = some cs) :
    cs ∈ group.language := by
  induction text generalizing prev with
  | nil => exact mem_language_of_captureAt hg h
  | cons c text ih =>
    rcases Option.or_eq_some_iff.mp h with h | ⟨-, h⟩
    · exact mem_language_of_captureAt hg h
    · exact ih _ h

/-- **A captured text is a word of its group.** -/
theorem mem_language_of_capture {before group after : Re} (hg : group.plain = true)
    {text s : String} (h : capture before group after text = some s) : s.toList ∈ group.language := by
  obtain ⟨cs, hcs, rfl⟩ := Option.map_eq_some_iff.mp h
  rw [String.toList_ofList]
  exact mem_language_of_captureFrom hg none hcs

/-- Every character that the expression reads satisfies `P`. -/
def Within (P : Char → Prop) : Re → Prop
  | chr f => ∀ c, f c = true → P c
  | eps | wordBoundary => True
  | seq a b | alt a b => a.Within P ∧ b.Within P
  | star a | lazyStar a => a.Within P

theorem Within.of_mem {P : Char → Prop} {r : Re} (h : r.Within P) {w : List Char}
    (hw : w ∈ r.language) : ∀ c ∈ w, P c := by
  induction r generalizing w with
  | chr f =>
    obtain ⟨c, hc, rfl⟩ := hw
    exact List.forall_mem_singleton.mpr (h c hc)
  | eps | wordBoundary =>
    obtain rfl := Language.mem_one w |>.mp hw
    exact List.forall_mem_nil _
  | seq a b iha ihb =>
    obtain ⟨u, hu, v, hv, rfl⟩ := Language.mem_mul.mp hw
    exact List.forall_mem_append.mpr ⟨iha h.1 hu, ihb h.2 hv⟩
  | alt a b iha ihb =>
    rcases (Language.mem_add _ _ _).mp hw with hw | hw
    · exact iha h.1 hw
    · exact ihb h.2 hw
  | star a ih | lazyStar a ih =>
    obtain ⟨ws, rfl, hws⟩ := Language.mem_kstar.mp hw
    intro c hc
    obtain ⟨u, hu, hcu⟩ := List.mem_flatten.mp hc
    exact ih h (hws u hu) c hcu

theorem mem_language_alts {rs : List Re} {w : List Char} :
    w ∈ (alts rs).language ↔ ∃ r ∈ rs, w ∈ r.language := by
  induction rs using alts.induct with
  | case1 =>
    constructor
    · rintro ⟨c, hc, -⟩
      cases hc
    · rintro ⟨r, hr, -⟩
      cases hr
  | case2 r => simp [alts]
  | case3 r rs hne ih =>
    rw [alts, language, Language.mem_add, ih, List.exists_mem_cons_iff]
    exact hne

theorem mem_language_txt {s : String} {w : List Char} : w ∈ (txt s).language ↔ w = s.toList := by
  rw [txt]
  induction s.toList generalizing w with
  | nil => exact Language.mem_one w
  | cons c cs ih =>
    rw [List.foldr_cons, language, Language.mem_mul]
    constructor
    · rintro ⟨u, ⟨d, hd, rfl⟩, v, hv, rfl⟩
      rw [of_decide_eq_true hd, ih.mp hv]
      rfl
    · rintro rfl
      exact ⟨[c], ⟨c, decide_eq_true rfl, rfl⟩, cs, ih.mpr rfl, rfl⟩

/-! ## Backwards -/

/-- The expression that matches the same texts backwards. -/
def rev : Re → Re
  | chr f => chr f
  | eps => eps
  | seq a b => seq b.rev a.rev
  | alt a b => alt a.rev b.rev
  | star a => star a.rev
  | lazyStar a => lazyStar a.rev
  | wordBoundary => wordBoundary

theorem language_rev (r : Re) : r.rev.language = r.language.reverse := by
  induction r with
  | chr f =>
    ext w
    constructor
    · rintro ⟨c, hc, rfl⟩
      exact ⟨c, hc, rfl⟩
    · rintro ⟨c, hc, hw⟩
      exact ⟨c, hc, List.reverse_eq_iff.1 hw⟩
  | eps | wordBoundary => exact Language.reverse_one.symm
  | seq a b iha ihb => rw [rev, language, language, iha, ihb, Language.reverse_mul]
  | alt a b iha ihb => rw [rev, language, language, iha, ihb, Language.reverse_add]
  | star a ih | lazyStar a ih => rw [rev, language, language, ih, Language.reverse_kstar]

/-! ## Texts that no match overlaps -/

/-- The residues of repeated matches. -/
def starResidues (step : List Char → List (Option (List Char))) :
    ℕ → List Char → List (Option (List Char))
  | 0, s => [some s, none]
  | n + 1, s => some s :: (step s).flatMap fun
      | none => [none]
      | some t => if t.length < s.length then starResidues step n t else []

/-- What a match at the start of a text leaves of it; `none` when the match goes beyond its end. -/
def residues : Re → List Char → List (Option (List Char))
  | chr _, [] => [none]
  | chr f, c :: cs => if f c then [some cs] else []
  | eps, s | wordBoundary, s => [some s]
  | seq a b, s => (a.residues s).flatMap fun
      | none => [none]
      | some t => b.residues t
  | alt a b, s => a.residues s ++ b.residues s
  | star a, s | lazyStar a, s => starResidues a.residues s.length s

/-- The residue `o` of `s` is what `w` leaves of it. -/
def Leaves (w s : List Char) : Option (List Char) → Prop
  | some t => s = w ++ t
  | none => ∃ u, u ≠ [] ∧ w = s ++ u

/-- What two words in turn leave is what the second one leaves of what the first one does. -/
theorem leaves_append {v w s : List Char} {o : Option (List Char)} (h : Leaves (v ++ w) s o) :
    (o = none ∧ Leaves v s none) ∨ ∃ t, Leaves v s (some t) ∧ Leaves w t o := by
  cases o with
  | some t => exact .inr ⟨w ++ t, by rw [Leaves, h, List.append_assoc], rfl⟩
  | none =>
    obtain ⟨u, hu, heq⟩ := h
    rcases List.append_eq_append_iff.1 heq with ⟨s', hs, hw⟩ | ⟨u', hv, hu'⟩
    · exact .inr ⟨s', hs, u, hu, hw⟩
    · by_cases hne : u' = []
      · subst hne
        rw [List.append_nil] at hv
        rw [List.nil_append] at hu'
        exact .inr ⟨[], by rw [Leaves, List.append_nil, hv], w, hu' ▸ hu, rfl⟩
      · exact .inl ⟨rfl, u', hne, hv⟩

theorem mem_starResidues {step : List Char → List (Option (List Char))} {l : Language Char}
    (hstep : ∀ w ∈ l, ∀ s o, Leaves w s o → o ∈ step s) (n : ℕ) (s : List Char) (hn : s.length ≤ n)
    {w : List Char} (hw : w ∈ l∗) {o : Option (List Char)} (h : Leaves w s o) :
    o ∈ starResidues step n s := by
  induction n generalizing s w with
  | zero =>
    have hs : s = [] := List.length_eq_zero_iff.1 (Nat.le_zero.1 hn)
    cases o with
    | none => exact List.mem_cons_of_mem _ List.mem_cons_self
    | some t =>
      have ht : t = s := by
        subst hs
        exact (List.append_eq_nil_iff.1 h.symm).2
      rw [ht]
      exact List.mem_cons_self
  | succ n ih =>
    rcases mem_kstar_cons.1 hw with rfl | ⟨u, v, hne, rfl, hu, hv⟩
    · cases o with
      | none =>
        obtain ⟨u, hu, heq⟩ := h
        exact absurd (List.append_eq_nil_iff.1 heq.symm).2 hu
      | some t =>
        rw [show t = s from h.symm]
        exact List.mem_cons_self
    · refine List.mem_cons_of_mem _ (List.mem_flatMap.2 ?_)
      rcases leaves_append h with ⟨rfl, hnone⟩ | ⟨t, hsome, hrest⟩
      · exact ⟨none, hstep u hu s none hnone, List.mem_singleton_self none⟩
      · have hlt : t.length < s.length := by
          rw [hsome, List.length_append]
          exact Nat.lt_add_of_pos_left (List.length_pos_iff.2 hne)
        refine ⟨some t, hstep u hu s (some t) hsome, ?_⟩
        show o ∈ if t.length < s.length then starResidues step n t else []
        rw [if_pos hlt]
        exact ih t (by omega) hv hrest

/-- The residues of a text are among those that are computed. -/
theorem mem_residues {r : Re} {w : List Char} (hw : w ∈ r.language) {s : List Char}
    {o : Option (List Char)} (h : Leaves w s o) : o ∈ r.residues s := by
  induction r generalizing w s o with
  | chr f =>
    obtain ⟨c, hc, rfl⟩ := hw
    cases o with
    | some t =>
      rw [show s = c :: t from h]
      show some t ∈ if f c = true then [some t] else []
      rw [if_pos hc]
      exact List.mem_singleton_self _
    | none =>
      obtain ⟨u, hu, heq⟩ := h
      cases s with
      | nil => exact List.mem_singleton_self none
      | cons d s =>
        have hnil := (List.append_eq_nil_iff.1 (List.cons.inj heq).2.symm).2
        exact absurd hnil hu
  | eps | wordBoundary =>
    rw [show w = [] from hw] at h
    cases o with
    | some t =>
      rw [show s = t from h]
      exact List.mem_singleton_self _
    | none =>
      obtain ⟨u, hu, heq⟩ := h
      exact absurd (List.append_eq_nil_iff.1 heq.symm).2 hu
  | seq a b iha ihb =>
    obtain ⟨u, hu, v, hv, rfl⟩ := Language.mem_mul.1 hw
    refine List.mem_flatMap.2 ?_
    rcases leaves_append h with ⟨rfl, hnone⟩ | ⟨t, hsome, hrest⟩
    · exact ⟨none, iha hu hnone, List.mem_singleton_self none⟩
    · exact ⟨some t, iha hu hsome, ihb hv hrest⟩
  | alt a b iha ihb =>
    refine List.mem_append.2 ?_
    rcases hw with hw | hw
    · exact .inl (iha hw h)
    · exact .inr (ihb hw h)
  | star a ih | lazyStar a ih =>
    exact mem_starResidues (fun w hw s o h => ih hw h) _ s (le_refl _) hw h

/-- No match begins with the text, or lies at its start. -/
def blocked (r : Re) (s : List Char) : Bool := (r.residues s).isEmpty

theorem not_comparable_of_blocked {r : Re} {s w : List Char} (h : r.blocked s = true)
    (hw : w ∈ r.language) : ¬ w <+: s ∧ ¬ s <+: w := by
  have hnil : ∀ o, ¬ Leaves w s o := fun o ho =>
    List.not_mem_nil (List.isEmpty_iff.1 h ▸ mem_residues hw ho)
  refine ⟨?_, ?_⟩
  · rintro ⟨t, ht⟩
    exact hnil (some t) ht.symm
  · rintro ⟨u, hu⟩
    by_cases hne : u = []
    · exact hnil (some []) (by rw [Leaves, ← hu, hne, List.append_nil, List.append_nil])
    · exact hnil none ⟨u, hne, hu.symm⟩

/-- A longer text is blocked too. -/
theorem blocked_append {r : Re} {s : List Char} (t : List Char)
    (h : ∀ w ∈ r.language, ¬ w <+: s ∧ ¬ s <+: w) :
    ∀ w ∈ r.language, ¬ w <+: s ++ t ∧ ¬ s ++ t <+: w := by
  intro w hw
  refine ⟨fun hpre => ?_, fun hpre => (h w hw).2 ((List.prefix_append s t).trans hpre)⟩
  rcases List.prefix_or_prefix_of_prefix hpre (List.prefix_append s t) with h' | h'
  · exact (h w hw).1 h'
  · exact (h w hw).2 h'

/-! ## A text between two others -/

/-- No match begins in `s`, whatever follows it. -/
def Shut (r : Re) (s : List Char) : Prop :=
  ∀ t, t ≠ [] → t <:+ s → ∀ w ∈ r.language, ¬ w <+: t ∧ ¬ t <+: w

/-- `Shut`, from the residues of every end of `s`. -/
def shut (r : Re) (s : List Char) : Bool := s.tails.all fun t => t.isEmpty || r.blocked t

section Shut

variable {r : Re} {s t m w : List Char}

theorem shut_of_eq_true (h : r.shut s = true) : r.Shut s := by
  intro t hne ht w hw
  have hblocked := List.all_eq_true.1 h t ((List.mem_tails t s).2 ht)
  rw [Bool.or_eq_true, List.isEmpty_iff] at hblocked
  exact not_comparable_of_blocked (hblocked.resolve_left hne) hw

/-- Characters that no match begins with may be put before. -/
theorem shut_append (h : ∀ c ∈ s, r.blocked [c] = true) (ht : r.Shut t) : r.Shut (s ++ t) := by
  induction s with
  | nil => exact ht
  | cons c s ih =>
    have ih := ih fun d hd => h d (List.mem_cons_of_mem _ hd)
    intro u hne hu
    rcases List.suffix_cons_iff.1 hu with rfl | hu
    · exact blocked_append (s ++ t) fun w hw =>
        not_comparable_of_blocked (h c List.mem_cons_self) hw
    · exact ih u hne hu

/-- A match in a text that a shut one stands before lies behind it. -/
theorem infix_append_left (h : r.Shut s) (hw : w ∈ r.language) : w <:+: s ++ m ↔ w <:+: m := by
  refine ⟨?_, List.infix_append_of_infix_right⟩
  rintro ⟨u, v, huv⟩
  rw [List.append_assoc] at huv
  rcases List.append_eq_append_iff.1 huv with ⟨t, hs, hwv⟩ | ⟨t, hu, hm⟩
  · by_cases hne : t = []
    · rw [hne, List.nil_append] at hwv
      exact ⟨[], v, hwv⟩
    · have hno := h t hne ⟨u, hs.symm⟩ w hw
      rcases List.prefix_or_prefix_of_prefix ⟨v, hwv⟩ (List.prefix_append t m) with hpre | hpre
      · exact absurd hpre hno.1
      · exact absurd hpre hno.2
  · exact ⟨t, v, by rw [List.append_assoc, hm]⟩

theorem infix_append_right (h : r.rev.Shut s.reverse) (hw : w ∈ r.language) :
    w <:+: m ++ s ↔ w <:+: m := by
  have hrev : w.reverse ∈ r.rev.language := by
    rw [language_rev]
    exact Language.reverse_mem_reverse.2 hw
  rw [← List.reverse_infix, List.reverse_append, infix_append_left h hrev, List.reverse_infix]

/-- **A test of a text between two others that are shut is a test of the text.** -/
theorem test_between (hr : r.plain = true) {before text after : String}
    (hbefore : r.Shut before.toList) (hafter : r.rev.Shut after.toList.reverse) :
    r.test (before ++ text ++ after) = r.test text := by
  rw [Bool.eq_iff_iff, test_iff hr, test_iff hr]
  refine exists_congr fun w => and_congr_right fun hw => ?_
  rw [String.toList_append, String.toList_append, infix_append_right hafter hw,
    infix_append_left hbefore hw]

end Shut

end Js.Re
