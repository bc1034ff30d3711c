import Mathlib.Data.List.Induction
import Mathlib.Data.List.Infix

/-!
# Paths

`path.posix`: paths are normalized one segment after another, where `..` takes away the segment before it.

* `push`, `segmentsOf`: segments, with or without `..` in front. `normalize`, `join`, `resolve`.
* `Plain`: a segment that stays. **`pushAll_normalize`**: normalizing before resolving changes nothing.
* `resolve_resolve`; **`resolve_join`**: plain names that are joined to a directory are resolved inside it.
-/

namespace Posix.Path

abbrev Segment : Type := List Char

def dotdot : Segment := ['.', '.']

/-- The segments that stay where they are. -/
structure Plain (p : Segment) : Prop where
  ne_nil : p ≠ []
  ne_dot : p ≠ ['.']
  ne_dotdot : p ≠ dotdot
  noSlash : '/' ∉ p

/-- `..`, after the segments of a stack, the last one first. Only a relative path goes above where it starts. -/
def pop (above : Bool) : List Segment → List Segment
  | [] => if above then [dotdot] else []
  | top :: rest => if top ≠ dotdot then rest else if above then dotdot :: top :: rest else top :: rest

def push (above : Bool) (stack : List Segment) (p : Segment) : List Segment :=
  if p = [] ∨ p = ['.'] then stack else if p = dotdot then pop above stack else p :: stack

def pushAll (above : Bool) (stack : List Segment) (path : List Char) : List Segment :=
  (path.splitOn '/').foldl (push above) stack

/-- `normalizeString(path, allowAboveRoot)`, as segments. -/
def segmentsOf (above : Bool) (path : List Char) : List Segment := (pushAll above [] path).reverse

def slashed (segments : List Segment) : List Char := ['/'].intercalate segments

def isAbsolute (path : List Char) : Bool := path.head? = some '/'

def normalize (path : List Char) : List Char :=
  if path = [] then ['.']
  else
    let segments := segmentsOf (!isAbsolute path) path
    let trailing := path.getLast? = some '/'
    let body := slashed segments
    if isAbsolute path then if body = [] then ['/'] else if trailing then '/' :: body ++ ['/'] else '/' :: body
    else if body = [] then if trailing then ['.', '/'] else ['.']
    else if trailing then body ++ ['/'] else body

def join (paths : List (List Char)) : List Char :=
  let given := paths.filter (· ≠ [])
  if given = [] then ['.'] else normalize (slashed given)

/-- The path from the root, for an absolute working directory. -/
def absolute (cwd path : List Char) : List Char := if isAbsolute path then path else cwd ++ '/' :: path

def resolve (cwd path : List Char) : List Char := '/' :: slashed (segmentsOf false (absolute cwd path))

variable {above : Bool} {stack s : List Segment} {p : Segment} {path base cwd : List Char} {names : List Segment}

/-! ## Segments -/

theorem push_skip (h : p = [] ∨ p = ['.']) : push above stack p = stack := if_pos h

theorem push_dotdot : push above stack dotdot = pop above stack := rfl

theorem push_plain (h : Plain p) : push above stack p = p :: stack := by
  unfold push
  rw [if_neg (not_or.mpr ⟨h.ne_nil, h.ne_dot⟩), if_neg h.ne_dotdot]

theorem pop_plain (h : Plain p) : pop above (p :: stack) = stack := if_pos h.ne_dotdot

theorem segment_cases (h : '/' ∉ p) : (p = [] ∨ p = ['.']) ∨ p = dotdot ∨ Plain p := by
  by_cases hskip : p = [] ∨ p = ['.']
  · exact .inl hskip
  · by_cases hup : p = dotdot
    · exact .inr (.inl hup)
    · exact .inr (.inr ⟨(not_or.mp hskip).1, (not_or.mp hskip).2, hup, h⟩)

theorem foldl_push_plain (h : ∀ p ∈ names, Plain p) :
    names.foldl (push above) stack = names.reverse ++ stack := by
  induction names generalizing stack with
  | nil => rfl
  | cons p names ih =>
    obtain ⟨hp, hnames⟩ := List.forall_mem_cons.mp h
    rw [List.foldl_cons, push_plain hp, ih hnames, List.reverse_cons, List.append_assoc, List.singleton_append]

/-- What stands on a stack: plain segments, and `..` where it may. -/
def Settled (above : Bool) (stack : List Segment) : Prop := ∀ p ∈ stack, Plain p ∨ above = true ∧ p = dotdot

theorem settled_nil : Settled above [] := List.forall_mem_nil _

theorem settled_push (hs : Settled above stack) (hp : '/' ∉ p) : Settled above (push above stack p) := by
  rcases segment_cases hp with hskip | rfl | hplain
  · rw [push_skip hskip]
    exact hs
  · cases stack with
    | nil =>
      cases above
      · exact settled_nil
      · exact List.forall_mem_singleton.mpr (.inr ⟨rfl, rfl⟩)
    | cons top rest =>
      obtain ⟨htop, hrest⟩ := List.forall_mem_cons.mp hs
      rcases htop with hplain | ⟨rfl, rfl⟩
      · rw [push_dotdot, pop_plain hplain]
        exact hrest
      · exact List.forall_mem_cons.mpr ⟨.inr ⟨rfl, rfl⟩, hs⟩
  · rw [push_plain hplain]
    exact List.forall_mem_cons.mpr ⟨.inl hplain, hs⟩

theorem settled_foldl {segments : List Segment} (h : ∀ p ∈ segments, '/' ∉ p) :
    Settled above (segments.foldl (push above) []) := by
  induction segments using List.reverseRecOn with
  | nil => exact settled_nil
  | append_singleton segments p ih =>
    obtain ⟨hsegments, hp⟩ := List.forall_mem_append.mp h
    rw [List.foldl_append]
    exact settled_push (ih hsegments) (hp p List.mem_cons_self)

/-- A stack that is put on another one takes one more segment as the whole does, if it is relative or the other one is
empty. -/
theorem foldl_push_push (hs : Settled above s) (hp : '/' ∉ p) (hor : above = true ∨ stack = []) :
    (push above s p).reverse.foldl (push false) stack = push false (s.reverse.foldl (push false) stack) p := by
  have hsnoc : ∀ q, (q :: s).reverse.foldl (push false) stack = push false (s.reverse.foldl (push false) stack) q := by
    intro q
    rw [List.reverse_cons, List.foldl_append]
    rfl
  rcases segment_cases hp with hskip | rfl | hplain
  · rw [push_skip hskip, push_skip hskip]
  · cases s with
    | nil =>
      rcases hor with rfl | rfl
      · rfl
      · cases above <;> rfl
    | cons top rest =>
      rcases (List.forall_mem_cons.mp hs).1 with hplain | ⟨rfl, rfl⟩
      · rw [push_dotdot, pop_plain hplain, List.reverse_cons, List.foldl_append, List.foldl_cons, List.foldl_nil,
          push_plain hplain, push_dotdot, pop_plain hplain]
      · exact hsnoc dotdot
  · rw [push_plain hplain]
    exact hsnoc p

theorem foldl_segments {segments : List Segment} (h : ∀ p ∈ segments, '/' ∉ p) (hor : above = true ∨ stack = []) :
    (segments.foldl (push above) []).reverse.foldl (push false) stack = segments.foldl (push false) stack := by
  induction segments using List.reverseRecOn with
  | nil => rfl
  | append_singleton segments p ih =>
    obtain ⟨hsegments, hp⟩ := List.forall_mem_append.mp h
    rw [List.foldl_append, List.foldl_append, List.foldl_cons, List.foldl_nil, List.foldl_cons, List.foldl_nil,
      foldl_push_push (settled_foldl hsegments) (hp p List.mem_cons_self) hor, ih hsegments]

/-! ## Paths -/

theorem noSlash_of_mem_splitOn (path : List Char) : ∀ p ∈ path.splitOn '/', '/' ∉ p := by
  by_cases hslash : '/' ∈ path
  · obtain ⟨a, b, hpath, ha⟩ := List.eq_append_cons_of_mem hslash
    have hshorter : b.length < path.length := by
      rw [hpath, List.length_append, List.length_cons]
      omega
    rw [hpath, List.splitOn_append_cons_self_of_not_mem ha]
    exact List.forall_mem_cons.mpr ⟨ha, noSlash_of_mem_splitOn b⟩
  · rw [List.splitOn_eq_singleton hslash]
    exact List.forall_mem_singleton.mpr hslash
termination_by path.length

theorem pushAll_append (a b : List Char) : pushAll above stack (a ++ '/' :: b) = pushAll above (pushAll above stack a) b := by
  rw [pushAll, List.splitOn_append_cons_self, List.foldl_append]
  rfl

theorem pushAll_nil : pushAll above stack [] = stack := by
  rw [pushAll, List.splitOn_nil]
  rfl

theorem pushAll_slash (b : List Char) : pushAll above stack ('/' :: b) = pushAll above stack b := by
  rw [← List.nil_append ('/' :: b), pushAll_append, pushAll_nil]

theorem pushAll_slashed {segments : List Segment} (h : ∀ p ∈ segments, '/' ∉ p) :
    pushAll above stack (slashed segments) = segments.foldl (push above) stack := by
  by_cases hnil : segments = []
  · subst hnil
    exact pushAll_nil
  · rw [pushAll, slashed, List.splitOn_intercalate _ h hnil]

theorem noSlash_segmentsOf : ∀ p ∈ segmentsOf above path, '/' ∉ p := by
  intro p hp
  rcases settled_foldl (noSlash_of_mem_splitOn path) p (List.mem_reverse.mp hp) with hplain | ⟨-, rfl⟩
  · exact hplain.noSlash
  · decide

/-- The slashes and the dot that `normalize` puts around the segments do not matter. -/
theorem pushAll_normalize_slashed :
    pushAll false stack (normalize path) = pushAll false stack (slashed (segmentsOf (!isAbsolute path) path)) := by
  have hdot : pushAll false stack ['.'] = stack := rfl
  have hend : ∀ a, pushAll false stack (a ++ ['/']) = pushAll false stack a := fun a => by
    rw [pushAll_append, pushAll_nil]
  simp only [normalize]
  split_ifs with hpath habsolute hbody htrailing hbody htrailing htrailing
  · subst hpath
    rfl
  · rw [hbody, pushAll_slash]
  · rw [hend, pushAll_slash]
  · rw [pushAll_slash]
  · rw [hbody, pushAll_nil]
    exact hend ['.']
  · rw [hbody, pushAll_nil, hdot]
  · rw [hend]
  · rfl

/-- **Normalizing changes nothing** for what is resolved later. -/
theorem pushAll_normalize (hor : isAbsolute path = false ∨ stack = []) :
    pushAll false stack (normalize path) = pushAll false stack path := by
  rw [pushAll_normalize_slashed, pushAll_slashed noSlash_segmentsOf]
  exact foldl_segments (noSlash_of_mem_splitOn path) (hor.imp_left fun h => by rw [h]; rfl)

theorem isAbsolute_append (hne : base ≠ []) (rest : List Char) : isAbsolute (base ++ rest) = isAbsolute base := by
  rw [isAbsolute, isAbsolute, List.head?_append_of_ne_nil _ hne]

theorem slashed_singleton : slashed [p] = p := List.append_nil p

theorem slashed_cons (hnames : names ≠ []) : slashed (base :: names) = base ++ '/' :: slashed names := by
  obtain ⟨p, rest, rfl⟩ := List.exists_cons_of_ne_nil hnames
  rfl

theorem pushAll_slashed_cons (hnames : ∀ p ∈ names, Plain p) :
    pushAll above stack (slashed (base :: names)) = names.reverse ++ pushAll above stack base := by
  by_cases hnil : names = []
  · subst hnil
    rw [slashed_singleton]
    rfl
  · rw [slashed_cons hnil, pushAll_append, pushAll_slashed fun p hp => (hnames p hp).noSlash, foldl_push_plain hnames]

theorem slashed_append (hs : s ≠ []) (hnames : names ≠ []) : slashed (s ++ names) = slashed s ++ '/' :: slashed names := by
  induction s with
  | nil => exact absurd rfl hs
  | cons p rest ih =>
    by_cases hnil : rest = []
    · subst hnil
      rw [List.singleton_append, slashed_cons hnames, slashed_singleton]
    · rw [List.cons_append, slashed_cons (List.append_ne_nil_of_left_ne_nil hnil _), ih hnil, slashed_cons hnil,
        List.append_assoc, List.cons_append]

theorem head_slashed (h : Settled above names) : (slashed names).head? ≠ some '/' := by
  cases names with
  | nil => exact nofun
  | cons p rest =>
    have hp : p ≠ [] ∧ '/' ∉ p := by
      rcases (List.forall_mem_cons.mp h).1 with hplain | ⟨-, rfl⟩
      · exact ⟨hplain.ne_nil, hplain.noSlash⟩
      · exact ⟨nofun, by decide⟩
    have hhead : (slashed (p :: rest)).head? = p.head? := by
      cases rest with
      | nil => rw [slashed_singleton]
      | cons q rest => rw [slashed_cons (List.cons_ne_nil _ _), List.head?_append_of_ne_nil _ hp.1]
    rw [hhead]
    exact fun hslash => hp.2 (List.mem_of_head? hslash)

theorem normalize_ne_nil (path : List Char) : normalize path ≠ [] := by
  simp only [normalize]
  split_ifs with hpath habsolute hnil htrailing hnil htrailing htrailing
  all_goals first | exact List.cons_ne_nil _ _ | exact List.append_ne_nil_of_left_ne_nil hnil _ | exact hnil

theorem join_ne_nil (paths : List (List Char)) : join paths ≠ [] := by
  simp only [join]
  split_ifs
  · exact List.cons_ne_nil _ _
  · exact normalize_ne_nil _

theorem isAbsolute_normalize : isAbsolute (normalize path) = isAbsolute path := by
  have hsettled : Settled (!isAbsolute path) (segmentsOf (!isAbsolute path) path) := fun p hp =>
    settled_foldl (noSlash_of_mem_splitOn path) p (List.mem_reverse.mp hp)
  have hbody := head_slashed hsettled
  simp only [normalize]
  split_ifs with hpath habsolute hnil htrailing hnil htrailing htrailing
  · subst hpath
    rfl
  · exact habsolute.symm
  · exact habsolute.symm
  · exact habsolute.symm
  · exact (eq_false_of_ne_true habsolute).symm
  · exact (eq_false_of_ne_true habsolute).symm
  · rw [isAbsolute_append hnil]
    exact (decide_eq_false hbody).trans (eq_false_of_ne_true habsolute).symm
  · exact (decide_eq_false hbody).trans (eq_false_of_ne_true habsolute).symm

/-- What is resolved is resolved for good. -/
theorem resolve_resolve : resolve cwd (resolve cwd path) = resolve cwd path := by
  have hplain : ∀ p ∈ segmentsOf false (absolute cwd path), Plain p := by
    intro p hp
    rcases settled_foldl (noSlash_of_mem_splitOn _) p (List.mem_reverse.mp hp) with hplain | ⟨habove, -⟩
    · exact hplain
    · exact absurd habove Bool.false_ne_true
  have habsolute : absolute cwd (resolve cwd path) = resolve cwd path := if_pos rfl
  have hsegments : segmentsOf false (resolve cwd path) = segmentsOf false (absolute cwd path) := by
    rw [segmentsOf, resolve, pushAll_slash, pushAll_slashed fun p hp => (hplain p hp).noSlash, foldl_push_plain hplain,
      List.append_nil, List.reverse_reverse]
  rw [resolve, habsolute, hsegments, ← resolve]

/-- The segments of plain names that are joined to a directory. -/
theorem segmentsOf_join (hbase : base ≠ []) (hnames : ∀ p ∈ names, Plain p) :
    segmentsOf false (absolute cwd (join (base :: names))) = segmentsOf false (absolute cwd base) ++ names := by
  have hgiven : (base :: names).filter (· ≠ []) = base :: names :=
    List.filter_eq_self.mpr (List.forall_mem_cons.mpr ⟨by simpa using hbase, fun p hp => by simpa using (hnames p hp).ne_nil⟩)
  have hjoin : join (base :: names) = normalize (slashed (base :: names)) := by
    unfold join
    rw [hgiven]
    exact if_neg (List.cons_ne_nil _ _)
  have habsolute : isAbsolute (slashed (base :: names)) = isAbsolute base := by
    by_cases hnil : names = []
    · subst hnil
      rw [slashed_singleton]
    · rw [slashed_cons hnil, isAbsolute_append hbase]
  rw [hjoin, segmentsOf, segmentsOf, absolute, absolute, isAbsolute_normalize, habsolute]
  cases hroot : isAbsolute base with
  | true =>
    rw [if_pos rfl, if_pos rfl, pushAll_normalize (.inr rfl), pushAll_slashed_cons hnames, List.reverse_append,
      List.reverse_reverse]
  | false =>
    rw [if_neg Bool.false_ne_true, if_neg Bool.false_ne_true, pushAll_append, pushAll_append,
      pushAll_normalize (.inl (habsolute.trans hroot)), pushAll_slashed_cons hnames, List.reverse_append,
      List.reverse_reverse]

/-- **Plain names that are joined to a directory** are resolved inside it. -/
theorem resolve_join (hbase : base ≠ []) (hnames : ∀ p ∈ names, Plain p) :
    resolve cwd (join (base :: names)) = '/' :: slashed (segmentsOf false (absolute cwd base) ++ names) := by
  rw [resolve, segmentsOf_join hbase hnames]

end Posix.Path
