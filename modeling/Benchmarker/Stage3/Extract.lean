import Benchmarker.Js.JsonText

/-!
# The JSON of an answer

`extractJson` and `extractJsonContent`, which look for a Markdown fence without looking at strings.

* `extractFenced`, `Packaging`: the source, and the ways in which an answer may wrap a text.
* `extract_wrapped`: what is extracted from a wrapped text. `inside_before_fence`: a fence in a JSON text stands
  in a string.
* **`extract_keeps_iff`**: the JSON texts that both extractors keep.
-/

namespace Benchmarker.Stage3

open Js Js.Pattern

variable {N : Type}

/-- The opening fence of a JSON text, up to the text. -/
def fenceHead : Pattern UInt16 := seq (lit fence) (seq (opt (lit (units "json"))) (many isSpaceUnit))

/-- The text up to the next fence behind the first one, or else the whole content. -/
def extractFenced (content : Units) : Units :=
  let trimmed := trimUnits content
  match capture fenceHead lazyAny (lit fence) trimmed with
  | some group => trimUnits group
  | none => trimmed

/-- `Stage3WorkerImpl.extractJson` -/
def extractJson (content : Units) : Units := extractFenced content

/-- Of the EIS client. -/
def extractJsonContent (content : Units) : Units := extractFenced content

/-- A text in a fence, and prose around it. -/
def enclose (before tag gap text gap' after : Units) : Units :=
  before ++ (fence ++ (tag ++ (gap ++ (text ++ (gap' ++ (fence ++ after))))))

/-- What an answer has around a text: one opening and one closing fence, with or without the tag, and prose that has
no fence and does not make the opening one longer. -/
structure Packaging where
  before : Units
  json : Bool
  gap : Units
  gap' : Units
  after : Units
  before_noFence : ¬fence <:+: before
  before_last : ∀ c ∈ before.getLast?, c ≠ 0x60
  gap_space : ∀ c ∈ gap, isSpaceUnit c = true
  gap'_space : ∀ c ∈ gap', isSpaceUnit c = true
  after_noFence : ¬fence <:+: after

def Packaging.tag (p : Packaging) : Units := if p.json then units "json" else []

def Packaging.wrap (p : Packaging) (text : Units) : Units :=
  enclose p.before p.tag p.gap text p.gap' p.after

section Fences

variable {before tag gap text gap' after s t w w' x post r : Units} {c : UInt16}

theorem eq_of_mem_fence (h : c ∈ fence) : c = 0x60 := by
  have hfence : fence = List.replicate 3 0x60 := by decide
  rw [hfence] at h
  exact List.eq_of_mem_replicate h

theorem fence_ne_nil : fence ≠ [] := by decide

theorem space_ne_tick (h : isSpaceUnit c = true) : c ≠ 0x60 := by
  rintro rfl
  revert h
  decide

/-- No fence is in a text, and none starts at its end. -/
theorem before_of_noFence (h : ¬fence <:+: x) (hlast : ∀ c ∈ x.getLast?, c ≠ 0x60) : Before fence x := by
  rintro y hy hne ⟨rest, hrest⟩
  rcases List.append_eq_append_iff.mp hrest with ⟨m, rfl, -⟩ | ⟨m, hm, -⟩
  · exact h ((List.prefix_append _ _).isInfix.trans hy.isInfix)
  · obtain ⟨y', c, rfl⟩ := (List.eq_nil_or_concat' y).resolve_left hne
    obtain ⟨z, rfl⟩ := hy
    refine hlast c ?_ (eq_of_mem_fence ?_)
    · rw [← List.append_assoc, List.getLast?_concat]
      rfl
    · rw [hm]
      exact List.mem_append_left _ (List.mem_append_right _ (List.mem_singleton_self c))

theorem trim_enclose : trimUnits (enclose before tag gap text gap' after) =
    enclose (before.dropWhile isSpaceUnit) tag gap text gap' (after.rdropWhile isSpaceUnit) := by
  have htick : isSpaceUnit 0x60 = false := by decide
  have hfront : fence = 0x60 :: [0x60, 0x60] := by decide
  have hback : fence = [0x60, 0x60] ++ [0x60] := by decide
  have hopen : ∀ u : Units, (before ++ (fence ++ u)).dropWhile isSpaceUnit =
      before.dropWhile isSpaceUnit ++ (fence ++ u) := by
    intro u
    rw [hfront, List.cons_append, dropWhile_append_cons htick]
  have hclose : ∀ u : Units, (u ++ (fence ++ after)).rdropWhile isSpaceUnit =
      u ++ (fence ++ after.rdropWhile isSpaceUnit) := by
    intro u
    rw [hback, List.append_assoc, List.singleton_append, ← List.append_assoc, rdropWhile_append_cons htick,
      List.append_assoc, List.append_assoc, List.singleton_append]
  rw [trimUnits, enclose, hopen, enclose]
  have hgroup : ∀ b a : Units, b ++ (fence ++ (tag ++ (gap ++ (text ++ (gap' ++ (fence ++ a)))))) =
      (b ++ (fence ++ (tag ++ (gap ++ (text ++ gap'))))) ++ (fence ++ a) := by
    intro b a
    simp only [List.append_assoc]
  rw [hgroup, hclose, ← hgroup]

/-! ## The opening fence -/

theorem fenceHead_nil (h : ¬fence <+: s) : fenceHead.ends s = [] := by
  refine List.eq_nil_iff_forall_not_mem.mpr fun u hu => h ?_
  obtain ⟨v, hv, -⟩ := mem_ends_seq.mp hu
  rw [mem_ends_lit.mp hv]
  exact List.prefix_append _ _

/-- The tag is taken where it is there, and all of the white space. -/
theorem fenceHead_ends (hr : s = units "json" ++ r ∨ s = r ∧ ¬units "json" <+: r) :
    ∃ us, fenceHead.ends (fence ++ s) = r.dropWhile isSpaceUnit :: us := by
  obtain ⟨us, hus, -⟩ := manyEnds_eq isSpaceUnit r
  have hopen : fenceHead.ends (fence ++ s) = (seq (opt (lit (units "json"))) (many isSpaceUnit)).ends s := by
    rw [fenceHead, ends, single_lit fence (fence ++ s) s (mem_ends_lit.mpr rfl), List.flatMap_singleton]
  have hmany : (many isSpaceUnit).ends r = r.dropWhile isSpaceUnit :: us := hus
  rw [hopen, ends, opt, ends, List.flatMap_append]
  rcases hr with rfl | ⟨rfl, hno⟩
  · rw [single_lit _ _ r (mem_ends_lit.mpr rfl), List.flatMap_singleton, hmany]
    exact ⟨_, rfl⟩
  · have hnil : (lit (units "json")).ends s = [] := List.isEmpty_iff.mp (ends_lit_isEmpty.mpr hno)
    rw [hnil, List.flatMap_nil, List.nil_append, ends, List.flatMap_singleton, hmany]
    exact ⟨_, rfl⟩

/-! ## What is extracted -/

theorem blank_space (h : Js.Blank w) : ∀ c ∈ w, isSpaceUnit c = true := by
  intro c hc
  have hmem := h c hc
  simp only [List.mem_cons, List.not_mem_nil, or_false] at hmem
  rcases hmem with rfl | rfl | rfl | rfl <;> decide

/-- No tag is read out of white space and a value. -/
theorem json_not_prefix (hw : ∀ c ∈ w, isSpaceUnit c = true) (hc : Firm c) : ¬units "json" <+: w ++ c :: s := by
  have hjson : units "json" = 0x6a :: units "son" := by decide
  rw [hjson]
  cases w with
  | nil => exact fun h => hc.letter (List.cons_prefix_cons.mp h).1.symm
  | cons d w =>
    intro h
    have hspace := hw d List.mem_cons_self
    rw [← (List.cons_prefix_cons.mp h).1] at hspace
    revert hspace
    decide

/-- **What is extracted from a wrapped text**: the value and what follows it, up to the first fence. -/
theorem extract_wrapped (p : Packaging) (hw : Js.Blank w) (hsolid : Solid t) (hbefore : Before fence x)
    (hx : t ++ (w' ++ (p.gap' ++ (fence ++ p.after.rdropWhile isSpaceUnit))) = x ++ (fence ++ post)) :
    extractFenced (p.wrap (w ++ (t ++ w'))) = trimUnits x := by
  obtain ⟨c, cs, rfl, hc⟩ := hsolid.begins
  have hspaces : ∀ d ∈ p.gap ++ w, isSpaceUnit d = true :=
    List.forall_mem_append.mpr ⟨p.gap_space, blank_space hw⟩
  have hrest : p.gap ++ ((w ++ ((c :: cs) ++ w')) ++ (p.gap' ++ (fence ++ p.after.rdropWhile isSpaceUnit))) =
      (p.gap ++ w) ++ (x ++ (fence ++ post)) := by
    rw [← hx]
    simp only [List.append_assoc]
  have hdrop : ((p.gap ++ w) ++ (x ++ (fence ++ post))).dropWhile isSpaceUnit = x ++ (fence ++ post) := by
    rw [List.dropWhile_append_of_pos hspaces, ← hx, List.cons_append]
    exact List.dropWhile_cons_of_neg (by rw [hc.space]; exact Bool.false_ne_true)
  have hopen : ∃ us, fenceHead.ends (fence ++ (p.tag ++ ((p.gap ++ w) ++ (x ++ (fence ++ post))))) =
      (x ++ (fence ++ post)) :: us := by
    have htag : p.tag ++ ((p.gap ++ w) ++ (x ++ (fence ++ post))) =
          units "json" ++ ((p.gap ++ w) ++ (x ++ (fence ++ post))) ∨
        p.tag ++ ((p.gap ++ w) ++ (x ++ (fence ++ post))) = (p.gap ++ w) ++ (x ++ (fence ++ post)) ∧
          ¬units "json" <+: (p.gap ++ w) ++ (x ++ (fence ++ post)) := by
      rw [Packaging.tag]
      split_ifs
      · exact .inl rfl
      · refine .inr ⟨rfl, ?_⟩
        rw [← hx, List.cons_append]
        exact json_not_prefix hspaces hc
    have hends := fenceHead_ends htag
    rwa [hdrop] at hends
  obtain ⟨us, hus⟩ := hopen
  have hcapture := capture_lazy (w := p.before.dropWhile isSpaceUnit) (fun y hy hne => fenceHead_nil
    ((before_of_noFence p.before_noFence p.before_last).not_starts (hy.trans (List.dropWhile_suffix _)) hne))
    hus hbefore
  rw [extractFenced, Packaging.wrap, trim_enclose, enclose, hrest, hcapture]

/-- **A fence in a JSON text stands in a string.** -/
theorem inside_before_fence {number : Units → N} {item : JsonItem N} (h : Denotes number (x ++ (fence ++ post)) item) :
    scan .outside x = some .inside := by
  have hscan := scan_denotes h
  have hfence : fence = 0x60 :: [0x60, 0x60] := by decide
  rw [scan_append, hfence, List.cons_append] at hscan
  cases hx : scan .outside x with
  | none =>
    rw [hx] at hscan
    cases hscan
  | some q =>
    rw [hx, Option.bind_some, scan_cons] at hscan
    cases q with
    | inside => rfl
    | outside => cases hscan
    | behindBackslash => cases hscan

theorem space_plain (hw : ∀ c ∈ w, isSpaceUnit c = true) : ∀ c ∈ w, c ≠ 0x22 ∧ c ≠ 0x60 ∧ c ≠ 0x5c := by
  intro c hc
  have hspace := hw c hc
  refine ⟨?_, ?_, ?_⟩ <;> rintro rfl <;> revert hspace <;> decide

theorem scan_space (hw : ∀ c ∈ w, isSpaceUnit c = true) : scan .outside w = some .outside :=
  scan_plain nofun (space_plain hw)

/-- A text that ends in a string is no JSON, trimmed or not. -/
theorem not_denotes_trimmed {number : Units → N} {item : JsonItem N} (h : scan .outside x = some .inside) :
    ¬Denotes number (trimUnits x) item := by
  intro hdenotes
  obtain ⟨w, w', hx, hw, hw'⟩ := trimUnits_split x
  rw [hx, scan_append, scan_space hw, Option.bind_some, scan_append, scan_denotes hdenotes, Option.bind_some,
    scan_space hw'] at h
  cases h

/-- White space around a value is trimmed. -/
theorem trim_solid (hw : ∀ c ∈ w, isSpaceUnit c = true) (hw' : ∀ c ∈ w', isSpaceUnit c = true) (h : Solid t) :
    trimUnits (w ++ (t ++ w')) = t := by
  obtain ⟨c, cs, ht, hc⟩ := h.begins
  obtain ⟨cs', c', ht', hc'⟩ := h.ends
  exact trimUnits_between hw hw' ⟨c, cs, ht, hc.space⟩ ⟨cs', c', ht', hc'.space⟩

/-- A fence in a value with white space around it is in the value. -/
theorem fence_in_value (hw : ∀ c ∈ w, isSpaceUnit c = true) (hw' : ∀ c ∈ w', isSpaceUnit c = true)
    (h : fence <:+: w ++ (t ++ w')) : fence <:+: t := by
  have hspace : ∀ {u : Units}, (∀ c ∈ u, isSpaceUnit c = true) → ∀ c ∈ fence, c ∉ u := fun hu c hc hmem =>
    space_ne_tick (hu c hmem) (eq_of_mem_fence hc)
  exact infix_of_disjoint_right fence_ne_nil (hspace hw') (infix_of_disjoint_left fence_ne_nil (hspace hw) h)

end Fences

/-- What the extractor makes of a JSON text, alone and however it is wrapped, is a JSON text of the same value. -/
structure Keeps (number : Units → N) (extract : Units → Units) (j : Units) (v : JsonValue N) : Prop where
  alone : JsonText number (extract j) v
  wrapped : ∀ p : Packaging, JsonText number (extract (p.wrap j)) v

section Keeps

variable {number : Units → N} {j : Units} {v : JsonValue N}

theorem jsonText_of_value {t : Units} (h : Denotes number t (.value v)) : JsonText number t v := by
  have hplain := Denotes.element blank_nil h blank_nil
  rwa [List.nil_append, List.append_nil] at hplain

/-- A value without a fence is what is extracted. -/
theorem keeps_of_noFence (h : JsonText number j v) (hno : ¬fence <:+: j) : Keeps number extractFenced j v := by
  cases h with
  | @element w t w' v hw hvalue hw' =>
    have hsolid := solid_value hvalue
    have hnot : ¬fence <:+: t := fun hf => hno (hf.trans ⟨w, w', List.append_assoc _ _ _⟩)
    have htext : JsonText number t v := jsonText_of_value hvalue
    refine ⟨?_, fun p => ?_⟩
    · have hnone : capture fenceHead lazyAny (lit fence) t = none := by
        refine capture_none fun s hs u hu hf => hnot ?_
        exact hf.trans ((suffix_of_mem hu).trans hs).isInfix
      rw [extractFenced, trim_solid (blank_space hw) (blank_space hw') hsolid, hnone]
      exact htext
    · have hspaces : ∀ c ∈ w' ++ p.gap', isSpaceUnit c = true :=
        List.forall_mem_append.mpr ⟨blank_space hw', p.gap'_space⟩
      have hbefore : Before fence (t ++ (w' ++ p.gap')) := by
        refine before_of_noFence (fun hf => hnot ?_) fun c hc => ?_
        · exact fence_in_value (w := []) nofun hspaces hf
        · obtain ⟨cs, d, rfl, hd⟩ := hsolid.ends
          rw [Option.mem_def, List.getLast?_append, List.getLast?_concat] at hc
          rcases Option.or_eq_some_iff.mp hc with hc | ⟨-, hc⟩
          · exact space_ne_tick (hspaces c (List.mem_of_getLast? hc))
          · rw [← Option.some.inj hc]
            exact hd.tick
      rw [extract_wrapped p hw hsolid hbefore (by simp only [List.append_assoc]; rfl)]
      have htrim := trim_solid (w := []) nofun hspaces hsolid
      rw [List.nil_append] at htrim
      rw [htrim]
      exact htext

/-- A wrapped text with a fence is cut at the fence, in a string. -/
theorem not_wrapped_of_fence (h : JsonText number j v) (hfence : fence <:+: j) (p : Packaging) :
    ¬JsonText number (extractFenced (p.wrap j)) v := by
  cases h with
  | @element w t w' v hw hvalue hw' =>
    obtain ⟨x, post, rfl, hbefore⟩ := exists_before (fence_in_value (blank_space hw) (blank_space hw') hfence)
    rw [extract_wrapped p hw (solid_value hvalue) hbefore (by simp only [List.append_assoc]; rfl)]
    exact not_denotes_trimmed (inside_before_fence hvalue)

end Keeps

/-- One line in a tagged fence. -/
def fenced : Packaging where
  before := []
  json := true
  gap := units "\n"
  gap' := units "\n"
  after := []
  before_noFence := by decide
  before_last := nofun
  gap_space := List.all_eq_true.mp (by decide : (units "\n").all isSpaceUnit = true)
  gap'_space := List.all_eq_true.mp (by decide : (units "\n").all isSpaceUnit = true)
  after_noFence := by decide

/-- **The JSON texts that both extractors keep**, alone and wrapped: those without a fence. -/
theorem extract_keeps_iff (number : Units → N) (j : Units) (v : JsonValue N) (h : JsonText number j v) :
    (Keeps number extractJson j v ∧ Keeps number extractJsonContent j v) ↔ ¬fence <:+: j := by
  constructor
  · rintro ⟨hkeeps, -⟩ hfence
    exact not_wrapped_of_fence h hfence fenced (hkeeps.wrapped fenced)
  · exact fun hno => ⟨keeps_of_noFence h hno, keeps_of_noFence h hno⟩

/-- A string without escapes. -/
theorem spells_self {s : Units} (hs : s.all (fun c => 0x20 ≤ c.toNat ∧ c ≠ 0x22 ∧ c ≠ 0x5c) = true) : Spells s s := by
  induction s with
  | nil => exact .nil
  | cons c s ih =>
    obtain ⟨hc, htail⟩ := Bool.and_eq_true_iff.mp hs
    obtain ⟨hc, hquote, hback⟩ := of_decide_eq_true hc
    exact .plain hc hquote hback (ih htail)

/-- The text of an object whose only member is such a string. -/
def titled (s : Units) : Units := 0x7b :: 0x22 :: (units "title" ++ 0x22 :: 0x3a :: 0x22 :: (s ++ [0x22, 0x7d]))

theorem jsonText_titled {number : Units → N} {s : Units}
    (hs : s.all (fun c => 0x20 ≤ c.toNat ∧ c ≠ 0x22 ∧ c ≠ 0x5c) = true) :
    JsonText number (titled s) (.obj [(units "title", .str s)]) := by
  have htitle : Spells (units "title") (units "title") := spells_self (by decide)
  have hmember := Denotes.member blank_nil htitle blank_nil
    (@jsonText_of_value _ number _ _ (.str (spells_self hs)))
  have hobject := jsonText_of_value (.obj (.lastMember hmember))
  have htext : 0x7b :: ([] ++ 0x22 :: (units "title" ++ 0x22 :: ([] ++ 0x3a :: (0x22 :: (s ++ [0x22])))) ++ [0x7d]) =
      titled s := by
    rw [titled]
    simp
  rwa [htext] at hobject

/-- A title without a fence. -/
theorem plain_title_kept :
    Keeps (fun _ => 0) extractJson (titled (units "Raise it")) (.obj [(units "title", .str (units "Raise it"))]) ∧
      Keeps (fun _ => 0) extractJsonContent (titled (units "Raise it"))
        (.obj [(units "title", .str (units "Raise it"))]) :=
  (extract_keeps_iff (fun _ => 0) (titled (units "Raise it")) _ (jsonText_titled (by decide))).mpr (by decide)

/-- A title with one. -/
theorem fenced_title_cut : ¬ ∀ (j : Units) (v : JsonValue ℕ), JsonText (fun _ => 0) j v →
    Keeps (fun _ => 0) extractJson j v ∧ Keeps (fun _ => 0) extractJsonContent j v := by
  intro h
  have htext : JsonText (fun _ => 0) (titled fence) (.obj [(units "title", .str fence)]) := jsonText_titled (by decide)
  exact not_wrapped_of_fence htext (by decide) fenced ((h _ _ htext).1.wrapped fenced)

end Benchmarker.Stage3
