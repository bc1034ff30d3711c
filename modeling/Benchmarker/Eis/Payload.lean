import Benchmarker.Chunked.Splitter
import Benchmarker.Js.Json
import Benchmarker.Js.Regex

/-!
# The payload of an EIS stream

`parseEisSsePayload` of `eis-llm-client.ts` cuts a response text into events at its blank lines and
adds up what the first `data:` line of each says.

* `cutEvent`, `eventBoundary`: the split at `/\r?\n\r?\n/`;
* `splitLines`, `dataOf`: the `data:` line of an event;
* `applyChunk`, `readBlock`, `parseEisSsePayload`;
* `dataLines`, **`eventsOf_eq`**: the events are read off the lines, one for each paragraph;
  **`eventsOf_boundary`**: a boundary separates what stands before it from what follows.
-/

namespace Benchmarker

open Chunked Js

/-! ## Events -/

/-- `/^\r?\n/`, and what follows it. -/
def matchEnd : List Char → Option (List Char)
  | '\r' :: '\n' :: rest => some rest
  | '\n' :: rest => some rest
  | _ => none

/-- `/^\r?\n\r?\n/`, and what follows it. -/
def matchBoundary (text : List Char) : Option (List Char) := (matchEnd text).bind matchEnd

/-- `buffer.search(/\r?\n\r?\n/)`, with the text before the match and the text after it. -/
def cutEvent : List Char → Option (List Char × List Char)
  | [] => none
  | c :: cs => match matchBoundary (c :: cs) with
    | some rest => some ([], rest)
    | none => (cutEvent cs).map fun t => (c :: t.1, t.2)

/-- What `/\r?\n\r?\n/` matches. -/
def boundaries : List (List Char) :=
  [['\n', '\n'], ['\r', '\n', '\n'], ['\n', '\r', '\n'], ['\r', '\n', '\r', '\n']]

theorem matchEnd_append {t u : List Char} (h : matchEnd t = some u) (x : List Char) :
    matchEnd (t ++ x) = some (u ++ x) := by
  fun_cases matchEnd t with
  | case1 rest => cases h; rfl
  | case2 rest => cases h; rfl
  | case3 => simp_all [matchEnd]

theorem matchEnd_append_none {t : List Char} (h : matchEnd t = none) (hne : t ≠ [])
    (hcr : t ≠ ['\r']) (x : List Char) : matchEnd (t ++ x) = none := by
  cases t with
  | nil => exact absurd rfl hne
  | cons c t =>
    have hc : c ≠ '\n' := by
      rintro rfl
      cases h
    by_cases hr : c = '\r'
    · subst hr
      cases t with
      | nil => exact absurd rfl hcr
      | cons d t =>
        have hd : d ≠ '\n' := by
          rintro rfl
          cases h
        simp [matchEnd, hd]
    · simp [matchEnd, hc, hr]

theorem matchBoundary_append {t u : List Char} (h : matchBoundary t = some u) (x : List Char) :
    matchBoundary (t ++ x) = some (u ++ x) := by
  obtain ⟨v, hv, hu⟩ := Option.bind_eq_some_iff.mp h
  rw [matchBoundary, matchEnd_append hv x]
  exact matchEnd_append hu x

theorem matchEnd_some {t u : List Char} (h : matchEnd t = some u) :
    t = '\n' :: u ∨ t = '\r' :: '\n' :: u := by
  fun_cases matchEnd t with
  | case1 rest => cases h; exact .inr rfl
  | case2 rest => cases h; exact .inl rfl
  | case3 => simp_all [matchEnd]

theorem matchBoundary_some {t u : List Char} (h : matchBoundary t = some u) :
    ∃ m ∈ boundaries, t = m ++ u := by
  obtain ⟨v, hv, hu⟩ := Option.bind_eq_some_iff.mp h
  rcases matchEnd_some hv with rfl | rfl <;> rcases matchEnd_some hu with rfl | rfl
  · exact ⟨['\n', '\n'], by simp [boundaries], rfl⟩
  · exact ⟨['\n', '\r', '\n'], by simp [boundaries], rfl⟩
  · exact ⟨['\r', '\n', '\n'], by simp [boundaries], rfl⟩
  · exact ⟨['\r', '\n', '\r', '\n'], by simp [boundaries], rfl⟩

/-- A place where no boundary starts stays one when more arrives, if one starts later. -/
theorem matchBoundary_append_none {c : Char} {cs : List Char} {t : List Char × List Char}
    (h : matchBoundary (c :: cs) = none) (hcut : cutEvent cs = some t) (x : List Char) :
    matchBoundary (c :: cs ++ x) = none := by
  have hcs : ∀ u : List Char, cutEvent u = none → cs ≠ u := by
    rintro u hu rfl
    rw [hu] at hcut
    cases hcut
  have hne : c :: cs ≠ ['\r'] := fun he => hcs [] rfl (List.cons.inj he).2
  cases hend : matchEnd (c :: cs) with
  | none => rw [matchBoundary, matchEnd_append_none hend (List.cons_ne_nil c cs) hne x]; rfl
  | some u =>
    have hu : matchEnd u = none := by
      rw [matchBoundary, hend] at h
      exact h
    rw [matchBoundary, matchEnd_append hend x]
    refine matchEnd_append_none hu (fun he => ?_) (fun he => ?_) x
    · subst he
      rcases matchEnd_some hend with he | he
      · exact hcs [] rfl (List.cons.inj he).2
      · exact hcs ['\n'] rfl (List.cons.inj he).2
    · subst he
      rcases matchEnd_some hend with he | he
      · exact hcs ['\r'] rfl (List.cons.inj he).2
      · exact hcs ['\n', '\r'] rfl (List.cons.inj he).2

theorem cutEvent_append {b p r : List Char} (h : cutEvent b = some (p, r)) (x : List Char) :
    cutEvent (b ++ x) = some (p, r ++ x) := by
  induction b generalizing p with
  | nil => cases h
  | cons c cs ih =>
    rw [cutEvent] at h
    rw [List.cons_append, cutEvent]
    cases hm : matchBoundary (c :: cs) with
    | some rest =>
      rw [hm] at h
      cases h
      rw [← List.cons_append, matchBoundary_append hm x]
    | none =>
      rw [hm] at h
      obtain ⟨⟨p', r'⟩, hcut, he⟩ := Option.map_eq_some_iff.mp h
      cases he
      rw [← List.cons_append, matchBoundary_append_none hm hcut x]
      dsimp only
      rw [ih hcut]
      rfl

/-- **A cut is at the first boundary**: none is in the text before it. -/
theorem cutEvent_some {b p r : List Char} (h : cutEvent b = some (p, r)) :
    ∃ m ∈ boundaries, b = p ++ (m ++ r) ∧ cutEvent p = none := by
  induction b generalizing p with
  | nil => cases h
  | cons c cs ih =>
    rw [cutEvent] at h
    cases hm : matchBoundary (c :: cs) with
    | some rest =>
      rw [hm] at h
      cases h
      obtain ⟨m, hmem, heq⟩ := matchBoundary_some hm
      exact ⟨m, hmem, heq, rfl⟩
    | none =>
      rw [hm] at h
      obtain ⟨⟨p', r'⟩, hcut, he⟩ := Option.map_eq_some_iff.mp h
      cases he
      obtain ⟨m, hmem, rfl, hnone⟩ := ih hcut
      refine ⟨m, hmem, rfl, ?_⟩
      have hhead : matchBoundary (c :: p') = none := by
        cases hp : matchBoundary (c :: p') with
        | none => rfl
        | some u =>
          have happ := matchBoundary_append hp (m ++ r')
          rw [List.cons_append, hm] at happ
          cases happ
      rw [cutEvent, hhead]
      dsimp only
      rw [hnone]
      rfl

/-- **The events of a text**, cut at its boundaries. -/
def eventBoundary : Splitter Char where
  next := cutEvent
  shrinks h := by
    obtain ⟨m, hm, rfl, -⟩ := cutEvent_some h
    simp only [boundaries, List.mem_cons, List.not_mem_nil, or_false] at hm
    rcases hm with rfl | rfl | rfl | rfl <;>
      simp only [List.length_append, List.length_cons] <;> omega
  stable h x := cutEvent_append h x

/-- `text.split(/\r?\n\r?\n/)` -/
def splitEvents (text : List Char) : List (List Char) :=
  (eventBoundary.drain text).1 ++ [(eventBoundary.drain text).2]

/-- `block.split(/\r?\n/)` -/
def splitLines : List Char → List (List Char)
  | [] => [[]]
  | '\r' :: '\n' :: cs => [] :: splitLines cs
  | '\n' :: cs => [] :: splitLines cs
  | c :: cs => (splitLines cs).modifyHead (c :: ·)

def isData (line : List Char) : Bool := "data:".toList.isPrefixOf line

/-- `dataLine.slice('data:'.length).trim()` -/
def payloadOf (line : List Char) : List Char := trimChars (line.drop 5)

/-- The payload of an event: that of its first `data:` line. -/
def dataOf (block : List Char) : Option (List Char) :=
  ((splitLines block).find? isData).map payloadOf

/-! ## What an event adds -/

/-- What the parse throws: an error with the message of a chunk, or a `TypeError`. -/
inductive EisError
  | message (text : String)
  | typeError
  deriving DecidableEq

structure EisUsage where
  promptTokens : Json
  completionTokens : Json
  totalTokens : Json

structure ParsedEisStreamResult where
  content : String
  finishReason : Json
  model : Json
  usage : Option EisUsage

/-- `v ?? 0` -/
def orZero (v : Option Json) : Json := (Json.nullish v none).getD (.num 0 "0")

/-- A token count of `chunk.usage`. -/
def usageOf (u : Json) : EisUsage where
  promptTokens := orZero (u.field "prompt_tokens")
  completionTokens := orZero (u.field "completion_tokens")
  totalTokens := orZero (u.field "total_tokens")

/-- A text that is added or thrown: `String(v)`. -/
def textOrThrow (v : Json) : Except EisError String :=
  match v.toText with
  | some text => .ok text
  | none => .error .typeError

/-- `chunk.choices?.[0]` -/
def choiceOf (chunk : Json) : Option Json := (chunk.field "choices").bind Json.first

/-- The text that is added to the content. -/
def deltaText (chunk : Json) : Except EisError String :=
  match (((choiceOf chunk).bind (·.field "delta")).bind (·.field "content")).filter Json.truthy with
  | some content => textOrThrow content
  | none => .ok ""

/-- What a chunk without an error leaves, with the text that it adds. -/
def ParsedEisStreamResult.read (acc : ParsedEisStreamResult) (chunk : Json) (added : String) :
    ParsedEisStreamResult where
  content := acc.content ++ added
  finishReason :=
    (((choiceOf chunk).bind (·.field "finish_reason")).filter Json.truthy).getD acc.finishReason
  model := ((chunk.field "model").filter Json.truthy).getD acc.model
  usage := (((chunk.field "usage").filter Json.truthy).map usageOf).or acc.usage

/-- One parsed chunk. Reading a field of `null` is a `TypeError`. -/
def applyChunk (acc : ParsedEisStreamResult) (chunk : Json) : Except EisError ParsedEisStreamResult :=
  match chunk with
  | .null => .error .typeError
  | chunk =>
    match ((chunk.field "error").bind (·.field "message")).filter Json.truthy with
    | some message => do
      let text ← textOrThrow message
      throw (.message text)
    | none => do
      let added ← deltaText chunk
      return acc.read chunk added

/-- One event. A payload that `JSON.parse` refuses is left out. -/
def readPayload (parse : List Char → Option Json) (acc : ParsedEisStreamResult)
    (payload : List Char) : Except EisError ParsedEisStreamResult :=
  if payload = [] ∨ payload = "[DONE]".toList then .ok acc
  else match parse payload with
    | none => .ok acc
    | some chunk => applyChunk acc chunk

def readBlock (parse : List Char → Option Json) (acc : ParsedEisStreamResult) (block : List Char) :
    Except EisError ParsedEisStreamResult :=
  match dataOf block with
  | none => .ok acc
  | some payload => readPayload parse acc payload

def emptyResult : ParsedEisStreamResult := ⟨"", .str "unknown", .str "", none⟩

/-- `raw.replace(/\uFEFF/g, '')` -/
def normalized (raw : List Char) : List Char := raw.filter (· ≠ Char.ofNat 0xFEFF)

/-- `parseEisSsePayload` -/
def parseEisSsePayload (parse : List Char → Option Json) (raw : List Char) :
    Except EisError ParsedEisStreamResult :=
  (splitEvents (normalized raw)).foldlM (readBlock parse) emptyResult

/-! ## Events and paragraphs -/

/-- The induction over a text's lines. -/
@[elab_as_elim]
theorem line_induction {motive : List Char → Prop} (text : List Char)
    (last : ∀ l, '\n' ∉ l → motive l)
    (line : ∀ l cs, '\n' ∉ l → motive cs → motive (l ++ '\n' :: cs)) : motive text := by
  induction hn : text.length using Nat.strongRecOn generalizing text with
  | ind n ih =>
    by_cases hmem : '\n' ∈ text
    · obtain ⟨l, cs, rfl, hl⟩ := List.eq_append_cons_of_mem hmem
      refine line l cs hl (ih cs.length ?_ cs rfl)
      rw [← hn, List.length_append, List.length_cons]
      omega
    · exact last text hmem

/-- A line that ends a paragraph. -/
def Blank (line : List Char) : Prop := line = [] ∨ line = ['\r']

instance (line : List Char) : Decidable (Blank line) := by unfold Blank; infer_instance

/-- The payloads of the paragraphs: that of the first `data:` line of each, if none is taken yet. -/
def paragraphs (taken : Bool) : List (List Char) → List (List Char)
  | [] => []
  | l :: ls =>
    if Blank l then paragraphs false ls
    else if taken = false ∧ isData l = true then payloadOf l :: paragraphs true ls
    else paragraphs taken ls

theorem paragraphs_cons (taken : Bool) (l : List Char) (ls : List (List Char)) :
    paragraphs taken (l :: ls) = if Blank l then paragraphs false ls
      else if taken = false ∧ isData l = true then payloadOf l :: paragraphs true ls
      else paragraphs taken ls := rfl

theorem paragraphs_blank {b : List Char} (hb : Blank b) (taken : Bool) (ls ls' : List (List Char)) :
    paragraphs taken (ls ++ b :: ls') = paragraphs taken ls ++ paragraphs false ls' := by
  induction ls generalizing taken with
  | nil =>
    rw [List.nil_append, paragraphs_cons, if_pos hb]
    rfl
  | cons l ls ih =>
    rw [List.cons_append, paragraphs_cons, paragraphs_cons]
    split_ifs
    · exact ih false
    · rw [ih true, List.cons_append]
    · exact ih taken

theorem trimChars_concat_cr (l : List Char) : trimChars (l ++ ['\r']) = trimChars l := by
  have hcr : isSpace '\r' = true := by decide
  by_cases h : (l.dropWhile isSpace).isEmpty = true
  · have hl : l.dropWhile isSpace = [] := List.isEmpty_iff.mp h
    simp [trimChars, List.dropWhile_append, hl, hcr]
  · simp only [trimChars, List.dropWhile_append, h, if_false, Bool.false_eq_true]
    rw [List.reverse_append, List.reverse_singleton, List.singleton_append,
      List.dropWhile_cons_of_pos hcr]

theorem isData_concat_cr (l : List Char) : isData (l ++ ['\r']) = isData l := by
  have hlast : "data:".toList ≠ l ++ ['\r'] := by
    intro he
    have hmem : '\r' ∈ "data:".toList := by
      rw [he]
      exact List.mem_append_right l List.mem_cons_self
    revert hmem
    decide
  rw [isData, isData, Bool.eq_iff_iff, List.isPrefixOf_iff_prefix, List.isPrefixOf_iff_prefix,
    List.prefix_concat_iff]
  exact or_iff_right hlast

theorem payloadOf_concat_cr {l : List Char} (h : isData l = true) :
    payloadOf (l ++ ['\r']) = payloadOf l := by
  have hlen : 5 ≤ l.length := (List.isPrefixOf_iff_prefix.mp h).length_le
  rw [payloadOf, List.drop_append_of_le_length hlen, trimChars_concat_cr, payloadOf]

/-- A carriage return at the end of a text belongs to its last line, and says nothing. -/
theorem paragraphs_concat_cr (taken : Bool) (ls : List (List Char)) (l : List Char) :
    paragraphs taken (ls ++ [l ++ ['\r']]) = paragraphs taken (ls ++ [l]) := by
  induction ls generalizing taken with
  | cons k ls ih =>
    rw [List.cons_append, List.cons_append, paragraphs_cons, paragraphs_cons, ih, ih, ih]
  | nil =>
    rw [List.nil_append, List.nil_append]
    by_cases hdata : isData l = true
    · have hcr := (isData_concat_cr l).trans hdata
      have hfilled : ∀ k : List Char, isData k = true → ¬Blank k := by
        rintro k hk (rfl | rfl) <;> cases hk
      rw [paragraphs_cons, paragraphs_cons, if_neg (hfilled _ hcr), if_neg (hfilled _ hdata), hcr,
        hdata, payloadOf_concat_cr hdata]
    · have hnone : ∀ k : List Char, isData k ≠ true → paragraphs taken [k] = [] := by
        intro k hk
        rw [paragraphs_cons, if_neg fun h : taken = false ∧ _ => hk h.2]
        split_ifs <;> rfl
      rw [hnone l hdata, hnone _ (by rwa [isData_concat_cr])]

/-- The last line of a text, and what is added to it. -/
theorem exists_last_line (text : List Char) : ∃ ls l, ∀ x, '\n' ∉ x →
    (text ++ x).splitOn '\n' = ls ++ [l ++ x] := by
  induction text using line_induction with
  | last l hl =>
    refine ⟨[], l, fun x hx => ?_⟩
    rw [List.splitOn_eq_singleton fun hmem => (List.mem_append.mp hmem).elim hl hx]
    rfl
  | line l cs hl ih =>
    obtain ⟨ls, k, hk⟩ := ih
    refine ⟨l :: ls, k, fun x hx => ?_⟩
    rw [List.append_assoc, List.cons_append, List.splitOn_append_cons_self,
      List.splitOn_eq_singleton hl, hk x hx]
    rfl

theorem paragraphs_append_cr (taken : Bool) (text : List Char) :
    paragraphs taken ((text ++ ['\r']).splitOn '\n') = paragraphs taken (text.splitOn '\n') := by
  obtain ⟨ls, l, hl⟩ := exists_last_line text
  have hnil := hl [] List.not_mem_nil
  rw [List.append_nil, List.append_nil] at hnil
  rw [hl ['\r'] (by decide), hnil, paragraphs_concat_cr]

/-- **A boundary separates** the paragraphs before it from those that follow. -/
theorem paragraphs_boundary {m : List Char} (hm : m ∈ boundaries) (taken : Bool)
    (p r : List Char) : paragraphs taken ((p ++ (m ++ r)).splitOn '\n') =
      paragraphs taken (p.splitOn '\n') ++ paragraphs false (r.splitOn '\n') := by
  -- an empty line, or a carriage return alone, between two line ends
  have hblank : ∀ (q b : List Char), Blank b → '\n' ∉ b →
      paragraphs taken ((q ++ '\n' :: (b ++ '\n' :: r)).splitOn '\n') =
        paragraphs taken (q.splitOn '\n') ++ paragraphs false (r.splitOn '\n') := by
    intro q b hb hnl
    rw [List.splitOn_append_cons_self, List.splitOn_append_cons_self,
      List.splitOn_eq_singleton hnl, List.singleton_append]
    exact paragraphs_blank hb taken _ _
  simp only [boundaries, List.mem_cons, List.not_mem_nil, or_false] at hm
  rcases hm with rfl | rfl | rfl | rfl
  · exact hblank p [] (.inl rfl) List.not_mem_nil
  · have h := hblank (p ++ ['\r']) [] (.inl rfl) List.not_mem_nil
    rw [paragraphs_append_cr, List.append_assoc] at h
    exact h
  · exact hblank p ['\r'] (.inr rfl) (by decide)
  · have h := hblank (p ++ ['\r']) ['\r'] (.inr rfl) (by decide)
    rw [paragraphs_append_cr, List.append_assoc] at h
    exact h

/-- A line as the split at `/\r?\n/` gives it, and as the split at the line ends does. -/
def LineOf (l k : List Char) : Prop := k = l ∨ k = l ++ ['\r']

theorem LineOf.cons {ls ks : List (List Char)} (h : List.Forall₂ LineOf ls ks) (c : Char) :
    List.Forall₂ LineOf (ls.modifyHead (c :: ·)) (ks.modifyHead (c :: ·)) := by
  cases h with
  | nil => exact .nil
  | cons h hs =>
    refine .cons ?_ hs
    rcases h with rfl | rfl
    · exact .inl rfl
    · exact .inr rfl

theorem splitLines_splitOn (text : List Char) :
    List.Forall₂ LineOf (splitLines text) (text.splitOn '\n') := by
  fun_induction splitLines text with
  | case1 => exact .cons (.inl rfl) .nil
  | case2 cs ih =>
    rw [List.splitOn_cons_eq_if_modifyHead, List.splitOn_cons_eq_if_modifyHead]
    exact .cons (.inr rfl) ih
  | case3 cs ih =>
    rw [List.splitOn_cons_eq_if_modifyHead]
    exact .cons (.inl rfl) ih
  | case4 c cs _ hlf ih =>
    have hc : ¬(c == '\n') = true := fun h => hlf (beq_iff_eq.mp h)
    rw [List.splitOn_cons_eq_if_modifyHead, if_neg hc]
    exact LineOf.cons ih c

/-- Lines that differ in a carriage return at their ends carry the same payload. -/
theorem LineOf.find {ls ks : List (List Char)} (h : List.Forall₂ LineOf ls ks) :
    (ls.find? isData).map payloadOf = (ks.find? isData).map payloadOf := by
  induction h with
  | nil => rfl
  | @cons l k ls ks h _ ih =>
    have hdata : isData k = isData l := by
      rcases h with rfl | rfl
      · rfl
      · exact isData_concat_cr l
    rw [List.find?_cons, List.find?_cons, hdata]
    cases hl : isData l with
    | false => exact ih
    | true =>
      rcases h with rfl | rfl
      · rfl
      · exact congrArg some (payloadOf_concat_cr hl).symm

theorem dataOf_eq (text : List Char) :
    dataOf text = ((text.splitOn '\n').find? isData).map payloadOf :=
  LineOf.find (splitLines_splitOn text)

theorem cutEvent_tail {l cs : List Char} (h : cutEvent (l ++ cs) = none) : cutEvent cs = none := by
  induction l with
  | nil => exact h
  | cons c l ih =>
    rw [List.cons_append, cutEvent] at h
    split at h
    · cases h
    · exact ih (Option.map_eq_none_iff.mp h)

theorem matchEnd_of_cutEvent {cs : List Char} (h : cutEvent ('\n' :: cs) = none) :
    matchEnd cs = none := by
  rw [cutEvent] at h
  split at h
  · cases h
  · assumption

theorem isData_of_blank {l : List Char} (h : Blank l) : isData l = false := by
  rcases h with rfl | rfl <;> rfl

/-- **An event without a boundary is one paragraph**, if it does not start with a line end. -/
theorem paragraphs_event (taken : Bool) {text : List Char} (hcut : cutEvent text = none)
    (hend : matchEnd text = none) : paragraphs taken (text.splitOn '\n') =
      if taken = true then [] else (((text.splitOn '\n').find? isData).map payloadOf).toList := by
  induction text using line_induction generalizing taken with
  | last l hl =>
    rw [List.splitOn_eq_singleton hl, paragraphs_cons, List.find?_singleton]
    by_cases hb : Blank l
    · rw [if_pos hb, isData_of_blank hb]
      cases taken <;> rfl
    · rw [if_neg hb]
      cases taken <;> cases isData l <;> rfl
  | line l cs hl ih =>
    have hblank : ¬Blank l := by
      rintro (rfl | rfl) <;> cases hend
    have htail := cutEvent_tail hcut
    have hrest := fun taken => ih taken (cutEvent_tail (l := ['\n']) htail) (matchEnd_of_cutEvent htail)
    rw [List.splitOn_append_cons_self, List.splitOn_eq_singleton hl, List.singleton_append,
      paragraphs_cons, if_neg hblank, List.find?_cons, hrest true, hrest taken]
    cases taken <;> cases isData l <;> rfl

/-- A blank line in front of an event says nothing. -/
theorem eventsOf_whole {text : List Char} (hcut : cutEvent text = none) :
    paragraphs false (text.splitOn '\n') = (dataOf text).toList := by
  rw [dataOf_eq]
  have hlater : ∀ (l cs : List Char), Blank l → '\n' ∉ l → text = l ++ '\n' :: cs →
      paragraphs false (text.splitOn '\n') =
        (((text.splitOn '\n').find? isData).map payloadOf).toList := by
    rintro l cs hb hl rfl
    have htail := cutEvent_tail hcut
    rw [List.splitOn_append_cons_self, List.splitOn_eq_singleton hl, List.singleton_append,
      paragraphs_cons, if_pos hb, List.find?_cons_of_neg (by rw [isData_of_blank hb]; decide)]
    exact paragraphs_event false (cutEvent_tail (l := ['\n']) htail) (matchEnd_of_cutEvent htail)
  cases hend : matchEnd text with
  | none => exact paragraphs_event false hcut hend
  | some cs =>
    rcases matchEnd_some hend with he | he
    · exact hlater [] cs (.inl rfl) List.not_mem_nil he
    · exact hlater ['\r'] cs (.inr rfl) (by decide) he

/-- The payloads of a text's events. -/
def eventsOf (text : List Char) : List (List Char) := (splitEvents text).filterMap dataOf

/-- **The events are the paragraphs** of the text. -/
theorem eventsOf_eq (text : List Char) :
    eventsOf text = paragraphs false (text.splitOn '\n') := by
  induction text using eventBoundary.cut_induction with
  | whole b h =>
    rw [eventsOf, splitEvents, Splitter.drain_none h, eventsOf_whole h]
    cases hd : dataOf b <;> simp [hd]
  | cut b p r h ih =>
    obtain ⟨m, hm, rfl, hp⟩ := cutEvent_some h
    rw [paragraphs_boundary hm, eventsOf_whole hp, ← ih, eventsOf, eventsOf, splitEvents, splitEvents,
      Splitter.drain_some h]
    cases hd : dataOf p <;> simp [hd]

/-- **A boundary separates** the events before it from those that follow. -/
theorem eventsOf_boundary {m : List Char} (hm : m ∈ boundaries) (p r : List Char) :
    eventsOf (p ++ (m ++ r)) = eventsOf p ++ eventsOf r := by
  rw [eventsOf_eq, eventsOf_eq, eventsOf_eq]
  exact paragraphs_boundary hm false p r

end Benchmarker
