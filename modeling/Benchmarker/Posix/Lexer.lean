import Mathlib.Data.List.Basic

/-!
# Token recognition of the POSIX shell

How a shell cuts its input into words and operators: quoting, expansions, comments, line
continuations and here-documents. A word keeps its characters after quote removal and, for each of
them, whether it was quoted.

* `Part`, `Word`, `Operator`, `Token`;
* `State`, `step`, `run`, `lex`: one character after another. `run_append`, `lex_append`;
* `literal`, `quote`, **`run_quote`**: a text between apostrophes is read back as one word.
* `segments`, `simpleCommands`: the commands between the control operators.
-/

namespace Posix

inductive Part where
  | char (c : Char) (quoted : Bool)
  /-- The start of a command substitution; its text follows as unquoted characters. -/
  | substitution
  deriving DecidableEq, Repr

abbrev Word := List Part

inductive Operator where
  | semi | dsemi | amp | andIf | pipe | orIf | lparen | rparen | newline
  | less | great | dless | dlessdash | dgreat | lessand | greatand | lessgreat | clobber
  deriving DecidableEq, Repr

inductive Token where
  | word (w : Word)
  /-- The digits before a redirection operator. -/
  | ioNumber (w : Word)
  | operator (o : Operator)
  deriving DecidableEq, Repr

namespace Operator

def start (c : Char) : Option Operator :=
  if c = ';' then some semi
  else if c = '&' then some amp
  else if c = '|' then some pipe
  else if c = '(' then some lparen
  else if c = ')' then some rparen
  else if c = '<' then some less
  else if c = '>' then some great
  else none

/-- The operator that `o` and a further character form. -/
def extend (o : Operator) (c : Char) : Option Operator :=
  match o with
  | semi => if c = ';' then some dsemi else none
  | amp => if c = '&' then some andIf else none
  | pipe => if c = '|' then some orIf else none
  | less =>
    if c = '<' then some dless else if c = '&' then some lessand
    else if c = '>' then some lessgreat else none
  | great =>
    if c = '>' then some dgreat else if c = '&' then some greatand
    else if c = '|' then some clobber else none
  | dless => if c = '-' then some dlessdash else none
  | _ => none

/-- A control operator ends a command; the others redirect. -/
def isControl : Operator → Bool
  | semi | dsemi | amp | andIf | pipe | orIf | lparen | rparen | newline => true
  | _ => false

end Operator

def apostrophe : Char := Char.ofNat 39
def quotationMark : Char := Char.ofNat 34
def backslash : Char := Char.ofNat 92
def backquote : Char := Char.ofNat 96
def leftBrace : Char := Char.ofNat 123
def rightBrace : Char := Char.ofNat 125
def linefeed : Char := Char.ofNat 10
def tab : Char := Char.ofNat 9

/-- What a character stands inside of: quotes or an expansion. -/
inductive Frame where
  | single | double | brace | paren | arith | tick
  deriving DecidableEq, Repr

namespace Frame

def isExpansion : Frame → Bool
  | single | double => false
  | _ => true

def closing : Frame → Char
  | single => apostrophe
  | double => quotationMark
  | brace => rightBrace
  | paren | arith => ')'
  | tick => backquote

end Frame

/-- What the characters before may still combine with. -/
inductive Mode where
  | plain
  | operator (o : Operator)
  | dollar
  | dollarParen
  | escape (before : Mode)
  | comment
  | document (line : List Char)
  deriving DecidableEq, Repr

/-- Whether the tabs before a line are stripped, and the line that ends the document. -/
structure HereDocument where
  strip : Bool
  delimiter : List Char
  deriving DecidableEq, Repr

structure State where
  frames : List Frame := []
  word : Option Word := none
  mode : Mode := .plain
  /-- The last token was `<<` or `<<-`. -/
  awaiting : Option Bool := none
  documents : List HereDocument := []
  deriving DecidableEq, Repr

def textOf (w : Word) : List Char :=
  w.filterMap fun
    | .char c _ => some c
    | .substitution => none

namespace State

variable (s : State)

def nested : Bool := s.frames.any Frame.isExpansion

def add (ps : Word) : State := { s with word := some (s.word.getD [] ++ ps) }

/-- Quoting characters are removed, except in the text of an expansion. -/
def mark (c : Char) : State := s.add (if s.nested then [.char c false] else [])

def push (c : Char) (quoted : Bool) : State := s.add [.char c (quoted && !s.nested)]

def enter (f : Frame) : State := { s with frames := f :: s.frames }

def leave : State := { s with frames := s.frames.tail }

/-- The word that has been read, if any. -/
def delimit (c : Char) : List Token × State :=
  match s.word with
  | none => ([], s)
  | some w =>
    if (c = '<' ∨ c = '>') ∧ w ≠ [] ∧ w.all fun p =>
        match p with
        | .char d quoted => !quoted && d.isDigit
        | .substitution => false
    then ([.ioNumber w], { s with word := none })
    else ([.word w], { s with
      word := none
      awaiting := none
      documents := s.documents ++ match s.awaiting with
        | some strip => [⟨strip, textOf w⟩]
        | none => [] })

def operator (o : Operator) : List Token × State :=
  ([.operator o], { s with
    mode := if o = .newline ∧ s.documents ≠ [] then .document [] else .plain
    awaiting := match o with
      | .dless => some false
      | .dlessdash => some true
      | _ => none })

/-- What stands before an escape, or before the end of the input, is complete. -/
def settle : Mode → List Token × State
  | .operator o => { s with mode := .plain }.operator o
  | .dollar => ([], { s with mode := .plain }.push '$' false)
  | .dollarParen => ([], ({ s with mode := .plain }.add
      [.substitution, .char '$' false, .char '(' false]).enter .paren)
  | .escape m => ((settle m).1, (settle m).2.push backslash true)
  | _ => ([], { s with mode := .plain })

/-- A character that nothing before it combines with. -/
def plainStep (c : Char) : List Token × State :=
  match s.frames with
  | .single :: _ =>
    ([], if c = apostrophe then (s.mark c).leave else s.push c true)
  | .double :: _ =>
    ([], if c = quotationMark then (s.mark c).leave
      else if c = backslash then { s with mode := .escape .plain }
      else if c = '$' then { s with mode := .dollar }
      else if c = backquote then (s.add [.substitution, .char c false]).enter .tick
      else s.push c true)
  | .tick :: _ =>
    ([], if c = backslash then { s with mode := .escape .plain }
      else if c = backquote then (s.push c false).leave
      else s.push c false)
  | f :: _ =>
    ([], if c = f.closing then (s.push c false).leave
      else if c = backslash then { s with mode := .escape .plain }
      else if c = '$' then { s with mode := .dollar }
      else if c = backquote then (s.add [.substitution, .char c false]).enter .tick
      else if c = quotationMark then (s.mark c).enter .double
      else if c = apostrophe ∧ f ≠ .arith then (s.mark c).enter .single
      else if c = '(' ∧ f ≠ .brace then (s.push c false).enter .paren
      else s.push c false)
  | [] =>
    if c = apostrophe then ([], (s.mark c).enter .single)
    else if c = quotationMark then ([], (s.mark c).enter .double)
    else if c = backslash then ([], { s with mode := .escape .plain })
    else if c = '$' then ([], { s with mode := .dollar })
    else if c = backquote then ([], (s.add [.substitution, .char c false]).enter .tick)
    else if c = ' ' ∨ c = tab then s.delimit c
    else if c = linefeed then
      let (ts, s) := s.delimit c
      let (us, s) := s.operator .newline
      (ts ++ us, s)
    else if c = '#' ∧ s.word = none then ([], { s with mode := .comment })
    else match Operator.start c with
      | some o =>
        let (ts, s) := s.delimit c
        (ts, { s with mode := .operator o })
      | none => ([], s.push c false)

/-- A character after a backslash. -/
def escaped (c : Char) : State :=
  match s.frames with
  | .double :: _ =>
    if c = '$' ∨ c = backquote ∨ c = quotationMark ∨ c = backslash then
      (s.mark backslash).push c true
    else (s.push backslash true).push c true
  | _ => (s.mark backslash).push c true

/-- A character of a here-document: its lines end with the delimiter. -/
def documentStep (line : List Char) (c : Char) : State :=
  match s.documents with
  | [] => { s with mode := .plain }
  | d :: ds =>
    if c = linefeed then
      if (if d.strip then line.dropWhile (· = tab) else line) = d.delimiter then
        { s with documents := ds, mode := if ds = [] then .plain else .document [] }
      else { s with mode := .document [] }
    else { s with mode := .document (line ++ [c]) }

end State

def step (s : State) (c : Char) : List Token × State :=
  match s.mode with
  | .plain => s.plainStep c
  | .operator o =>
    -- a line continuation may stand between the characters of an operator
    if c = backslash then ([], { s with mode := .escape (.operator o) })
    else match o.extend c with
      | some o' => ([], { s with mode := .operator o' })
      | none =>
        let (ts, s) := s.settle (.operator o)
        let (us, s) := s.plainStep c
        (ts ++ us, s)
  | .dollar =>
    let s := { s with mode := .plain }
    if c = backslash then ([], { s with mode := .escape .dollar })
    else if c = '(' then ([], { s with mode := .dollarParen })
    else if c = leftBrace then ([], (s.add [.char '$' false, .char c false]).enter .brace)
    else (s.push '$' false).plainStep c
  | .dollarParen =>
    if c = backslash then ([], { s with mode := .escape .dollarParen })
    else if c = '(' then
      ([], (({ s with mode := .plain }.add
        [.char '$' false, .char '(' false, .char '(' false]).enter .arith).enter .arith)
    else
      let (ts, s) := s.settle .dollarParen
      let (us, s) := s.plainStep c
      (ts ++ us, s)
  | .escape m =>
    if c = linefeed then ([], { s with mode := m })
    else
      let (ts, s) := s.settle m
      (ts, s.escaped c)
  | .comment =>
    if c = linefeed then { s with mode := .plain }.operator .newline else ([], s)
  | .document line => ([], s.documentStep line c)

def run (s : State) : List Char → List Token × State
  | [] => ([], s)
  | c :: cs =>
    let (ts, s) := step s c
    let (us, s) := run s cs
    (ts ++ us, s)

/-- The end of the input delimits the last token. -/
def finish (s : State) : List Token :=
  let (ts, s) := s.settle s.mode
  ts ++ (s.delimit ' ').1

def lexFrom (s : State) (cs : List Char) : List Token := (run s cs).1 ++ finish (run s cs).2

def lex (text : String) : List Token := lexFrom {} text.toList

theorem run_append (s : State) (a b : List Char) :
    run s (a ++ b) = ((run s a).1 ++ (run (run s a).2 b).1, (run (run s a).2 b).2) := by
  induction a generalizing s with
  | nil => rfl
  | cons c cs ih =>
    simp only [List.cons_append, run]
    rw [ih, List.append_assoc]

theorem lexFrom_append {s s' : State} {a : List Char} {ts : List Token} (h : run s a = (ts, s'))
    (b : List Char) : lexFrom s (a ++ b) = ts ++ lexFrom s' b := by
  unfold lexFrom
  rw [run_append, h, List.append_assoc]

/-! ## Quoting -/

/-- A word of quoted characters. -/
def literal (text : String) : Word := text.toList.map (.char · true)

/-- A word without quotes. -/
def bare (text : String) : Word := text.toList.map (.char · false)

/-- A text between apostrophes; an apostrophe of the text is escaped outside of them. -/
def quote (text : String) : List Char :=
  apostrophe :: text.toList.flatMap (fun c =>
    if c = apostrophe then [apostrophe, backslash, apostrophe, apostrophe] else [c]) ++ [apostrophe]

theorem textOf_literal (text : String) : String.ofList (textOf (literal text)) = text := by
  have h : ∀ cs : List Char, textOf (cs.map (.char · true)) = cs := by
    intro cs
    induction cs with
    | nil => rfl
    | cons c cs ih => exact congrArg (c :: ·) ih
  rw [literal, h, String.ofList_toList]

/-- Inside apostrophes, after the part `w` of a word. -/
private def inside (w : Word) : State := { frames := [.single], word := some w }

private theorem run_inside (cs : List Char) (w : Word) :
    run (inside w) (cs.flatMap fun c =>
      if c = apostrophe then [apostrophe, backslash, apostrophe, apostrophe] else [c]) =
        ([], inside (w ++ cs.map (.char · true))) := by
  induction cs generalizing w with
  | nil => simp [run]
  | cons c cs ih =>
    rw [List.flatMap_cons, run_append]
    by_cases h : c = apostrophe
    · -- the quotes are closed for the escaped apostrophe and opened again
      have hc : run (inside w) [apostrophe, backslash, apostrophe, apostrophe] =
          ([], inside (w ++ [.char apostrophe true])) := by
        have h : run (inside w) [apostrophe, backslash, apostrophe, apostrophe] =
            ([], inside (w ++ [] ++ [] ++ [.char apostrophe true] ++ [])) := rfl
        rw [h, List.append_nil, List.append_nil, List.append_nil]
      rw [if_pos h, hc]
      dsimp only
      rw [ih, h]
      simp
    · have hc : run (inside w) [c] = ([], inside (w ++ [.char c true])) := by
        simp [run, step, inside, State.plainStep, h, State.push, State.add, State.nested,
          Frame.isExpansion]
      rw [if_neg h, hc]
      dsimp only
      rw [ih]
      simp

theorem run_quote (text : String) :
    run {} (quote text) = ([], { word := some (literal text) }) := by
  have hopen : run {} [apostrophe] = ([], inside []) := rfl
  have hclose : run (inside (literal text)) [apostrophe] =
      ([], { word := some (literal text ++ []) }) := rfl
  rw [List.append_nil] at hclose
  have hquote : quote text = [apostrophe] ++ (text.toList.flatMap (fun c =>
    if c = apostrophe then [apostrophe, backslash, apostrophe, apostrophe] else [c]) ++
      [apostrophe]) := rfl
  rw [hquote, run_append, hopen]
  dsimp only
  rw [run_append, run_inside]
  exact congrArg (fun r : List Token × State => ([] ++ ([] ++ r.1), r.2)) hclose

/-! ## Commands -/

namespace Part

def isBare : Part → Bool
  | .char _ quoted => !quoted
  | .substitution => false

def isQuoted : Part → Bool
  | .char _ quoted => quoted
  | .substitution => false

end Part

namespace Token

def isSeparator : Token → Bool
  | .operator o => o.isControl
  | _ => false

/-- A word in which no command is substituted. -/
def isPlain : Token → Bool
  | .word w => w.all (· ≠ .substitution)
  | _ => false

def reserved : List (List Char) :=
  [['!'], [leftBrace], [rightBrace], "case".toList, "do".toList, "done".toList, "elif".toList,
    "else".toList, "esac".toList, "fi".toList, "for".toList, "if".toList, "in".toList,
    "then".toList, "until".toList, "while".toList]

theorem lawfulBEq_word : LawfulBEq (List Char) := inferInstance

attribute [local instance] lawfulBEq_word in
def isReserved : Token → Bool
  | .word w => w.all Part.isBare && textOf w ∈ reserved
  | _ => false

theorem not_isSeparator_of_isPlain {t : Token} (h : t.isPlain = true) : t.isSeparator = false := by
  cases t with
  | word w => rfl
  | ioNumber w => cases h
  | operator o => cases h

end Token

/-- What stands between the control operators. -/
def segments (ts : List Token) : List (List Token) :=
  (ts.splitOnP Token.isSeparator).filter (· ≠ [])

/-- The commands without the reserved words in front of them. -/
def simpleCommands (ts : List Token) : List (List Token) :=
  ((segments ts).map (List.dropWhile Token.isReserved)).filter (· ≠ [])

def firstSegment (ts : List Token) : List Token := ts.takeWhile (!·.isSeparator)

def afterFirst (ts : List Token) : List Token := ts.dropWhile (!·.isSeparator)

section Segments

variable {ts us : List Token} {t : Token}

theorem segments_append (ht : t.isSeparator = true) :
    segments (ts ++ t :: us) = segments ts ++ segments us := by
  unfold segments
  rw [List.splitOnP_append_cons ts us ht, List.filter_append]

theorem segments_cons (ht : t.isSeparator = true) : segments (t :: us) = segments us := by
  unfold segments
  rw [List.splitOnP_cons_eq_if_modifyHead, if_pos ht, List.filter_cons_of_neg (by simp)]

theorem segments_cons_ne_nil (ht : t.isSeparator = false) : segments (t :: us) ≠ [] := by
  unfold segments
  rw [List.splitOnP_cons_eq_if_modifyHead, if_neg (by rw [ht]; exact Bool.false_ne_true)]
  cases h : us.splitOnP Token.isSeparator with
  | nil => exact absurd h (List.splitOnP_ne_nil _ _)
  | cons v vs => rw [List.modifyHead_cons, List.filter_cons_of_pos (by simp)]; simp

theorem segments_single (h : ∀ t ∈ ts, t.isSeparator = false) (hne : ts ≠ []) :
    segments ts = [ts] := by
  unfold segments
  rw [List.splitOnP_eq_singleton h, List.filter_cons_of_pos (by simpa using hne), List.filter_nil]

theorem segments_eq_first :
    segments ts = segments (firstSegment ts) ++ segments (afterFirst ts) := by
  have hsplit : firstSegment ts ++ afterFirst ts = ts := List.takeWhile_append_dropWhile
  cases hrest : afterFirst ts with
  | nil =>
    rw [hrest, List.append_nil] at hsplit
    rw [hsplit]
    exact (List.append_nil _).symm
  | cons t us =>
    have ht : t.isSeparator = true := by
      have hhead := List.head?_dropWhile_not (fun t : Token => !t.isSeparator) ts
      rw [show ts.dropWhile (fun t => !t.isSeparator) = t :: us from hrest] at hhead
      simpa using hhead
    rw [hrest] at hsplit
    rw [segments_cons ht, ← segments_append ht, hsplit]

theorem segments_eq_nil : segments ts = [] ↔ ∀ t ∈ ts, t.isSeparator = true := by
  induction ts with
  | nil => exact iff_of_true rfl (List.forall_mem_nil _)
  | cons t us ih =>
    rw [List.forall_mem_cons]
    cases ht : t.isSeparator with
    | true => rw [segments_cons ht, ih]; exact (and_iff_right rfl).symm
    | false => exact iff_of_false (segments_cons_ne_nil ht) (fun h => Bool.false_ne_true h.1)

theorem not_isSeparator_of_mem_first {t : Token} (h : t ∈ firstSegment ts) :
    t.isSeparator = false := by
  have hall := List.all_eq_true.mp (List.all_takeWhile (p := fun t : Token => !t.isSeparator)) t h
  simpa using hall

/-- The only command, when nothing but control operators follows its segment. -/
theorem eq_of_mem_simpleCommands {c : List Token} (h : segments (afterFirst ts) = [])
    (hc : c ∈ simpleCommands ts) : c = (firstSegment ts).dropWhile Token.isReserved := by
  unfold simpleCommands at hc
  rw [segments_eq_first, h, List.append_nil] at hc
  by_cases hne : firstSegment ts = []
  · rw [hne] at hc
    cases hc
  · rw [segments_single (fun t ht => not_isSeparator_of_mem_first ht) hne] at hc
    exact List.mem_singleton.mp (List.mem_of_mem_filter hc)

end Segments

end Posix
