import Mathlib.Data.List.Chain
import Benchmarker.Chunked.Splitter
import Benchmarker.Chunked.Utf8
import Benchmarker.Js.Stringify

/-!
# The queue's event stream

`makeQueueEventHandler` of `queue-server.ts` writes a snapshot of the queue as a data frame, and
`createSseFrameParser` of `buzz-bridge.ts` cuts the frames out of the chunks it reads.

* `dataFrame`, `StreamItem`, `streamText`: what the server writes;
* `frameBoundary`, `frameData`, `feedFrames`, `framesOver`: how the bridge reads it;
* **`frames_of_stream`**: over every cut of the bytes, the bridge reads the payloads back.
-/

namespace Benchmarker

open Chunked Js

/-! ## The writer -/

/-- `data: ${JSON.stringify(payload)}\n\n` -/
def dataFrame (payload : Value) : List Char :=
  "data: ".toList ++ payload.stringify ++ ['\n', '\n']

/-- A line that carries no payload: a comment, or an `event` or `id` field. -/
inductive OtherLine
  | comment (text : {t : List Char // '\n' ∉ t})
  | event (name : {t : List Char // '\n' ∉ t})
  | id (value : {t : List Char // '\n' ∉ t})

def OtherLine.text : OtherLine → List Char
  | comment t => ':' :: t.1
  | event t => "event:".toList ++ t.1
  | id t => "id:".toList ++ t.1

/-- What stands in the stream: data frames, and between them other lines and blank ones. -/
inductive StreamItem
  | frame (payload : Value)
  | line (l : OtherLine)
  | blank

def StreamItem.text : StreamItem → List Char
  | frame payload => dataFrame payload
  | line l => l.text ++ ['\n']
  | blank => ['\n']

def streamText (items : List StreamItem) : List Char := items.flatMap StreamItem.text

/-- The payloads of the data frames, as they are written. -/
def payloadTexts (items : List StreamItem) : List (List Char) :=
  items.filterMap fun item => match item with
    | .frame payload => some payload.stringify
    | _ => none

/-! ## The reader -/

/-- `buffer.indexOf('\n\n')`, with the text before it and the text after it. -/
def cutFrame : List Char → Option (List Char × List Char)
  | '\n' :: '\n' :: rest => some ([], rest)
  | [] => none
  | c :: cs => (cutFrame cs).map fun t => (c :: t.1, t.2)

/-- The payload of a frame: its `data:` lines, each less one leading space. -/
def frameData (rawFrame : List Char) : List Char :=
  ['\n'].intercalate (((rawFrame.splitOn '\n').filter fun line =>
    "data:".toList.isPrefixOf line).map fun line =>
      match line.drop 5 with
      | ' ' :: rest => rest
      | rest => rest)

/-- Two neighbours that are not both line ends. -/
def Apart (a b : Char) : Prop := ¬(a = '\n' ∧ b = '\n')

theorem cutFrame_cons (c : Char) (cs : List Char) (h : ∀ d ∈ cs.head?, Apart c d) :
    cutFrame (c :: cs) = (cutFrame cs).map fun t => (c :: t.1, t.2) := by
  rw [cutFrame]
  rintro rest rfl rfl
  exact h '\n' rfl ⟨rfl, rfl⟩

theorem cutFrame_eq_none {b : List Char} (h : b.IsChain Apart) : cutFrame b = none := by
  induction b with
  | nil => rfl
  | cons c cs ih =>
    have hcons := List.isChain_cons.mp h
    rw [cutFrame_cons c cs hcons.1, ih hcons.2]
    rfl

/-- The first boundary of a text whose lines before it are not blank. -/
theorem cutFrame_eq {p : List Char} (h : (p ++ ['\n']).IsChain Apart) (r : List Char) :
    cutFrame (p ++ '\n' :: '\n' :: r) = some (p, r) := by
  induction p with
  | nil => rfl
  | cons c p ih =>
    have hcons := List.isChain_cons.mp h
    have hhead : ∀ d ∈ (p ++ '\n' :: '\n' :: r).head?, Apart c d := by
      intro d hd
      refine hcons.1 d ?_
      cases p with
      | nil => exact hd
      | cons e p => exact hd
    rw [List.cons_append, cutFrame_cons c _ hhead, ih hcons.2]
    rfl

theorem cutFrame_some {b p r : List Char} (h : cutFrame b = some (p, r)) :
    b = p ++ '\n' :: '\n' :: r ∧ (p ++ ['\n']).IsChain Apart := by
  fun_induction cutFrame b generalizing p with
  | case1 rest =>
    cases h
    exact ⟨rfl, List.isChain_singleton _⟩
  | case2 => cases h
  | case3 c cs hne ih =>
    obtain ⟨⟨p', r'⟩, hcut, he⟩ := Option.map_eq_some_iff.mp h
    cases he
    obtain ⟨rfl, hchain⟩ := ih hcut
    refine ⟨rfl, List.isChain_cons.mpr ⟨fun d hd hboth => ?_, hchain⟩⟩
    obtain ⟨rfl, rfl⟩ := hboth
    cases p' with
    | nil => exact hne _ rfl rfl
    | cons e p' =>
      obtain rfl : e = '\n' := Option.some.inj hd
      exact hne _ rfl rfl

/-- **The frames of a buffer**, cut at its blank lines. -/
def frameBoundary : Splitter Char where
  next := cutFrame
  shrinks h := by
    rw [(cutFrame_some h).1]
    simp only [List.length_append, List.length_cons]
    omega
  stable h c := by
    rw [(cutFrame_some h).1, List.append_assoc]
    exact cutFrame_eq (cutFrame_some h).2 _

/-- `createSseFrameParser`: one call, on the buffer that the calls before it left. -/
def feedFrames (buffer chunk : List Char) : List (List Char) × List Char :=
  ((((frameBoundary.drain (buffer ++ chunk)).1).map frameData).filter (· ≠ []),
    (frameBoundary.drain (buffer ++ chunk)).2)

/-- What the calls over the chunks return, one after the other. -/
def framesOver (buffer : List Char) : List (List Char) → List (List Char)
  | [] => []
  | chunk :: chunks =>
    (feedFrames buffer chunk).1 ++ framesOver (feedFrames buffer chunk).2 chunks

/-- `consumeStream`: the parser reads what the decoder makes of the chunks. -/
def consumeStream (chunks : List (List UInt8)) : List (List Char) :=
  framesOver [] (TextDecoder.fresh.decodeAll chunks)

/-! ## What is read back -/

/-- The calls return the payloads of the pieces that are cut over the chunks. -/
theorem framesOver_eq (buffer : List Char) (chunks : List (List Char)) : framesOver buffer chunks =
    ((frameBoundary.feed buffer chunks).1.map frameData).filter (· ≠ []) := by
  induction chunks generalizing buffer with
  | nil => rfl
  | cons c cs ih => rw [framesOver, ih, Splitter.feed, List.map_append, List.filter_append]; rfl

/-- The lines, each with its end. -/
def endedLines (ls : List (List Char)) : List Char := ls.flatMap (· ++ ['\n'])

theorem endedLines_concat (ls : List (List Char)) (l : List Char) :
    endedLines (ls ++ [l]) = endedLines ls ++ l ++ ['\n'] := by
  rw [endedLines, endedLines, List.flatMap_append, List.flatMap_singleton, List.append_assoc]

theorem splitOn_endedLines {ls : List (List Char)} (h : ∀ l ∈ ls, '\n' ∉ l) (x : List Char) :
    (endedLines ls ++ x).splitOn '\n' = ls ++ x.splitOn '\n' := by
  induction ls with
  | nil => rfl
  | cons l ls ih =>
    have hl : l.splitOn '\n' = [l] := List.splitOn_eq_singleton (h l List.mem_cons_self)
    have hls := ih fun l' hl' => h l' (List.mem_cons_of_mem _ hl')
    have heq : endedLines (l :: ls) ++ x = l ++ '\n' :: (endedLines ls ++ x) := by
      simp [endedLines]
    rw [heq, List.splitOn_append_cons_self, hl, hls, List.singleton_append, List.cons_append]

/-- Lines of which none is blank but perhaps the first: they hold no boundary. -/
structure OpenLines (ls : List (List Char)) : Prop where
  clean : ∀ l ∈ ls, '\n' ∉ l
  filled : ∀ l ∈ ls.tail, l ≠ []

theorem openLines_nil : OpenLines [] where
  clean _ h := by cases h
  filled _ h := by cases h

theorem OpenLines.concat {ls : List (List Char)} (h : OpenLines ls) {l : List Char}
    (hl : '\n' ∉ l) (hne : l ≠ [] ∨ ls = []) : OpenLines (ls ++ [l]) where
  clean k hk := by
    rcases List.mem_append.mp hk with hk | hk
    · exact h.clean k hk
    · rwa [List.mem_singleton.mp hk]
  filled k hk := by
    cases ls with
    | nil => cases hk
    | cons m ls =>
      rcases List.mem_append.mp hk with hk | hk
      · exact h.filled k hk
      · rw [List.mem_singleton.mp hk]
        exact hne.resolve_right (List.cons_ne_nil m ls)

theorem isChain_of_clean {l : List Char} (h : '\n' ∉ l) : (l ++ ['\n']).IsChain Apart := by
  induction l with
  | nil => exact List.isChain_singleton _
  | cons c l ih =>
    rw [List.cons_append]
    refine List.isChain_cons.mpr ⟨fun d _ hboth => ?_, ih fun hmem => h (List.mem_cons_of_mem c hmem)⟩
    exact h (by rw [← hboth.1]; exact List.mem_cons_self)

/-- **Open lines hold no boundary.** -/
theorem isChain_endedLines {ls : List (List Char)} (h : OpenLines ls) : (endedLines ls).IsChain Apart := by
  induction ls with
  | nil => exact List.isChain_nil
  | cons l ls ih =>
    have hls : OpenLines ls :=
      ⟨fun k hk => h.clean k (List.mem_cons_of_mem l hk), fun k hk => h.filled k (List.mem_of_mem_tail hk)⟩
    have heq : endedLines (l :: ls) = l ++ ['\n'] ++ endedLines ls := rfl
    rw [heq]
    refine List.isChain_append.mpr ⟨isChain_of_clean (h.clean l List.mem_cons_self), ih hls, ?_⟩
    rintro c - d hd ⟨-, rfl⟩
    cases ls with
    | nil => cases hd
    | cons k ls =>
      have hk : k ≠ [] := h.filled k List.mem_cons_self
      have hclean : '\n' ∉ k := h.clean k (List.mem_cons_of_mem l List.mem_cons_self)
      cases k with
      | nil => exact hk rfl
      | cons e k =>
        obtain rfl : e = '\n' := Option.some.inj hd
        exact hclean List.mem_cons_self

/-- No line carries a payload. -/
def Silent (ls : List (List Char)) : Prop := ∀ l ∈ ls, "data:".toList.isPrefixOf l = false

/-- The payload of a frame whose only `data:` line is its last. -/
theorem frameData_endedLines {ls : List (List Char)} (hclean : ∀ l ∈ ls, '\n' ∉ l) (h : Silent ls)
    {payload : List Char} (hp : '\n' ∉ payload) :
    frameData (endedLines ls ++ ("data: ".toList ++ payload)) = payload := by
  have hline : ("data: ".toList ++ payload).splitOn '\n' = ["data: ".toList ++ payload] := by
    refine List.splitOn_eq_singleton fun hmem => ?_
    rcases List.mem_append.mp hmem with hmem | hmem
    · revert hmem
      decide
    · exact hp hmem
  have hnone : ls.filter (fun line => "data:".toList.isPrefixOf line) = [] :=
    List.filter_eq_nil_iff.mpr fun l hl => by rw [h l hl]; exact Bool.false_ne_true
  rw [frameData, splitOn_endedLines hclean, hline, List.filter_append, hnone]
  simp [List.isPrefixOf, List.intercalate]

/-- A frame without a `data:` line has no payload. -/
theorem frameData_silent {p : List Char} (h : Silent (p.splitOn '\n')) : frameData p = [] := by
  have hnone : (p.splitOn '\n').filter (fun line => "data:".toList.isPrefixOf line) = [] :=
    List.filter_eq_nil_iff.mpr fun l hl => by rw [h l hl]; exact Bool.false_ne_true
  rw [frameData, hnone]
  rfl

theorem OtherLine.clean (l : OtherLine) : '\n' ∉ l.text := by
  cases l with
  | comment t =>
    have hcolon : '\n' ≠ ':' := by decide
    exact List.not_mem_cons_of_ne_of_not_mem hcolon t.2
  | event t =>
    have hname : '\n' ∉ "event:".toList := by decide
    show '\n' ∉ "event:".toList ++ t.1
    exact fun h => (List.mem_append.mp h).elim hname t.2
  | id t =>
    have hname : '\n' ∉ "id:".toList := by decide
    show '\n' ∉ "id:".toList ++ t.1
    exact fun h => (List.mem_append.mp h).elim hname t.2

theorem OtherLine.silent (l : OtherLine) : "data:".toList.isPrefixOf l.text = false := by
  cases l <;> rfl

theorem OtherLine.ne_nil (l : OtherLine) : l.text ≠ [] := by
  cases l <;> exact List.cons_ne_nil _ _

/-- The payloads of the frames that are cut from a buffer. -/
def payloadsOf (b : List Char) : List (List Char) :=
  ((frameBoundary.drain b).1.map frameData).filter (· ≠ [])

theorem payloadsOf_cut {b p r : List Char} (h : cutFrame b = some (p, r)) :
    payloadsOf b = (if frameData p = [] then [] else [frameData p]) ++ payloadsOf r := by
  have hnext : frameBoundary.next b = some (p, r) := h
  rw [payloadsOf, Splitter.drain_some hnext, List.map_cons, List.filter_cons, payloadsOf]
  by_cases hp : frameData p = []
  · rw [if_pos hp, if_neg (by simp [hp]), List.nil_append]
  · rw [if_neg hp, if_pos (by simp [hp]), List.singleton_append]

/-- **Reading the items**, behind lines that are open and carry no payload. -/
theorem payloadsOf_items {ls : List (List Char)} (hopen : OpenLines ls) (hsilent : Silent ls)
    (items : List StreamItem) :
    payloadsOf (endedLines ls ++ streamText items) = payloadTexts items := by
  induction items generalizing ls with
  | nil =>
    have hnone : frameBoundary.next (endedLines ls) = none := cutFrame_eq_none (isChain_endedLines hopen)
    rw [streamText, List.flatMap_nil, List.append_nil, payloadsOf, Splitter.drain_none hnone]
    rfl
  | cons item items ih =>
    have hfresh : payloadsOf (streamText items) = payloadTexts items :=
      ih openLines_nil fun l hl => by cases hl
    cases item with
    | frame payload =>
      have hclean : '\n' ∉ payload.stringify := payload.newline_not_mem_stringify
      have hline : '\n' ∉ "data: ".toList ++ payload.stringify := by
        simpa using hclean
      have hchain := isChain_endedLines (hopen.concat hline (.inl (List.cons_ne_nil _ _)))
      rw [endedLines_concat] at hchain
      have hframe : (StreamItem.frame payload).text = "data: ".toList ++ payload.stringify ++ ['\n', '\n'] := rfl
      have htext : endedLines ls ++ streamText (.frame payload :: items) =
          (endedLines ls ++ ("data: ".toList ++ payload.stringify)) ++ '\n' :: '\n' :: streamText items := by
        rw [streamText, List.flatMap_cons, hframe, streamText]
        simp only [List.append_assoc, List.cons_append, List.nil_append]
      rw [htext, payloadsOf_cut (cutFrame_eq hchain _), frameData_endedLines hopen.clean hsilent hclean,
        if_neg payload.stringify_ne_nil, hfresh]
      rfl
    | line l =>
      have htext : endedLines ls ++ streamText (.line l :: items) =
          endedLines (ls ++ [l.text]) ++ streamText items := by
        rw [endedLines_concat]
        simp [streamText, StreamItem.text]
      rw [htext, ih (hopen.concat l.clean (.inl l.ne_nil)) fun k hk => ?_]
      · rfl
      · rcases List.mem_append.mp hk with hk | hk
        · exact hsilent k hk
        · rw [List.mem_singleton.mp hk]
          exact l.silent
    | blank =>
      rcases List.eq_nil_or_concat ls with rfl | ⟨init, l, rfl⟩
      · -- a blank line in front of a frame belongs to it
        exact ih (openLines_nil.concat List.not_mem_nil (.inr rfl)) fun k hk => by
          rw [List.mem_singleton.mp hk]
          rfl
      · have hchain := isChain_endedLines hopen
        rw [List.concat_eq_append, endedLines_concat] at hchain
        have htext : endedLines (init.concat l) ++ streamText (.blank :: items) =
            (endedLines init ++ l) ++ '\n' :: '\n' :: streamText items := by
          rw [List.concat_eq_append, endedLines_concat]
          simp [streamText, StreamItem.text]
        have hl : '\n' ∉ l := hopen.clean l (by simp)
        have hrows : (endedLines init ++ l).splitOn '\n' = init ++ [l] := by
          rw [splitOn_endedLines fun k hk => hopen.clean k (by simp [hk]), List.splitOn_eq_singleton hl]
        have hnone : frameData (endedLines init ++ l) = [] := by
          refine frameData_silent fun k hk => hsilent k ?_
          rwa [hrows, ← List.concat_eq_append] at hk
        rw [htext, payloadsOf_cut (cutFrame_eq hchain _), hnone, if_pos rfl, hfresh]
        rfl

/-- No item starts with a byte order mark. -/
theorem dropBom_streamText (items : List StreamItem) :
    (TextDecoder.dropBom false (streamText items)).2 = streamText items := by
  cases items with
  | nil => rfl
  | cons item items =>
    match item with
    | .frame payload => rfl
    | .line (.comment t) => rfl
    | .line (.event t) => rfl
    | .line (.id t) => rfl
    | .blank => rfl

/-- **The bridge reads the payloads back**, each once and in order, whatever other lines stand
between the frames and however the bytes are cut into chunks. -/
theorem frames_of_stream (items : List StreamItem) (chunks : List (List UInt8))
    (h : chunks.flatten = Utf8State.encode (streamText items)) :
    consumeStream chunks = payloadTexts items := by
  have hempty : frameBoundary.next [] = none := rfl
  have htext : (TextDecoder.fresh.decodeAll chunks).flatten = streamText items := by
    rw [TextDecoder.decodeAll_flatten, h, TextDecoder.decode_encode, dropBom_streamText]
  rw [consumeStream, framesOver_eq, Splitter.feed_flatten hempty, htext]
  exact payloadsOf_items openLines_nil (fun l hl => by cases hl) items

/-- A comment and a snapshot, cut inside the frame's boundary. -/
def keptAlive : List StreamItem :=
  [.line (.comment ⟨" ping".toList, by decide⟩), .blank, .frame (.array [.null, .bool true])]

theorem keptAlive_read :
    consumeStream [(Utf8State.encode (streamText keptAlive)).take 26,
      (Utf8State.encode (streamText keptAlive)).drop 26] = ["[null,true]".toList] :=
  frames_of_stream keptAlive _ (by simp)

end Benchmarker
