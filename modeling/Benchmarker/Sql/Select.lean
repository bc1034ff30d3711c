import Mathlib.Data.Set.Defs
import Benchmarker.Js.Tokens
import Benchmarker.Sql.Value

/-!
# Queries with placeholders

The part of SQLite's `SELECT` that has the form `SELECT * FROM t [WHERE c op ? [AND …]] [ORDER BY c [ASC|DESC]]
[LIMIT ? [OFFSET ?]]`: its tokens, its grammar and its answers. There is no `OFFSET` without a `LIMIT`. A row is
selected if every condition is true. Rows that `ORDER BY` does not tell apart stand in any order.

* `Token`, `lex`: texts without quotes and comments, in which blanks separate. **`lex_append_blank`**.
* `Select`, `parse`: the grammar. **`parseConds_tokens`**: what is read of conditions.
* `Table`, `all`: the answers to a query with its parameters, or why there is none.
-/

namespace Sql

open Js

/-! ## Tokens -/

inductive Token
  | word (w : String)
  | star
  | cmp (op : Cmp)
  | placeholder
  deriving DecidableEq

/-- Blanks, tabs, line ends. -/
def blank (c : Char) : Bool := c ∈ [' ', '\t', '\n', '\x0c', '\r']

def isIdChar (c : Char) : Bool := c.isAlphanum || c = '_'

/-- The word read so far. A number is no word. -/
def flush (w : List Char) : Option (List Token) :=
  if w = [] then some [] else if w.head?.any Char.isDigit then none else some [.word (String.ofList w)]

/-- The tokens of a text without blanks, behind what has been read of a word. -/
def lexWord (w : List Char) : List Char → Option (List Token)
  | [] => flush w
  | '>' :: '=' :: cs => next (.cmp .ge) (lexWord [] cs)
  | '<' :: '=' :: cs => next (.cmp .le) (lexWord [] cs)
  | '>' :: cs => next (.cmp .gt) (lexWord [] cs)
  | '<' :: cs => next (.cmp .lt) (lexWord [] cs)
  | '=' :: cs => next (.cmp .eq) (lexWord [] cs)
  | '*' :: cs => next .star (lexWord [] cs)
  | '?' :: cs => next .placeholder (lexWord [] cs)
  | c :: cs => if isIdChar c then lexWord (w ++ [c]) cs else none
where
  next (token : Token) (rest : Option (List Token)) : Option (List Token) :=
    (flush w).bind fun before => rest.map fun after => before ++ token :: after

def lexAll : List (List Char) → Option (List Token)
  | [] => some []
  | w :: ws => (lexWord [] w).bind fun ts => (lexAll ws).map (ts ++ ·)

/-- The tokens of a text. -/
def lex (s : List Char) : Option (List Token) := lexAll (tokensBy blank s)

section Lex

variable {s t : List Char} {ts us : List Token} {ws ws' : List (List Char)}

theorem lexAll_append : lexAll (ws ++ ws') = (lexAll ws).bind fun ts => (lexAll ws').map (ts ++ ·) := by
  induction ws with
  | nil => simp [lexAll]
  | cons w ws ih =>
    rw [List.cons_append, lexAll, lexAll, ih]
    cases lexWord [] w with
    | none => rfl
    | some ts =>
      cases lexAll ws with
      | none => rfl
      | some us => simp [List.append_assoc, Function.comp_def]

/-- **A blank ends a token.** -/
theorem lex_append_blank (hs : lex s = some ts) (ht : lex t = some us) : lex (s ++ ' ' :: t) = some (ts ++ us) := by
  have hblank : blank ' ' = true := by decide
  rw [lex] at hs ht
  rw [lex, tokensBy_append_cons hblank, lexAll_append, hs, ht]
  rfl

theorem tokensBy_dropWhile {p q : Char → Bool} (h : ∀ c ∈ s, q c = true → p c = true) :
    tokensBy p (s.dropWhile q) = tokensBy p s := by
  induction s with
  | nil => rfl
  | cons c s ih =>
    obtain ⟨hc, hs⟩ := List.forall_mem_cons.mp h
    rw [List.dropWhile_cons]
    split_ifs with hq
    · have hcons : tokensBy p (c :: s) = tokensBy p [] ++ tokensBy p s := tokensBy_append_cons (s := []) (hc hq)
      rw [ih hs, hcons]
      rfl
    · rfl

theorem tokensBy_rdropWhile {p q : Char → Bool} (h : ∀ c ∈ s, q c = true → p c = true) :
    tokensBy p (s.reverse.dropWhile q).reverse = tokensBy p s := by
  induction s using List.reverseRecOn with
  | nil => rfl
  | append_singleton s c ih =>
    have hc := h c (List.mem_append_right _ (List.mem_singleton_self c))
    have hs : ∀ d ∈ s, q d = true → p d = true := fun d hd => h d (List.mem_append_left _ hd)
    rw [List.reverse_append, List.reverse_singleton, List.singleton_append, List.dropWhile_cons]
    split_ifs with hq
    · have hconcat : tokensBy p (s ++ [c]) = tokensBy p s ++ tokensBy p [] := tokensBy_append_cons (hc hq)
      rw [ih hs, hconcat]
      exact (List.append_nil _).symm
    · rw [List.reverse_cons, List.reverse_reverse]

/-- Trimming cuts no token off, where what is trimmed is blank. -/
theorem lex_trimChars (h : ∀ c ∈ s, isSpace c = true → blank c = true) : lex (trimChars s) = lex s := by
  have hdrop : ∀ c ∈ s.dropWhile isSpace, isSpace c = true → blank c = true :=
    fun c hc => h c ((List.dropWhile_sublist _).subset hc)
  rw [lex, trimChars, tokensBy_rdropWhile hdrop, tokensBy_dropWhile h, lex]

end Lex

/-! ## Grammar -/

/-- `LIMIT` and `OFFSET`, each with a placeholder. -/
inductive Window
  | all | limit | limitOffset
  deriving DecidableEq

structure Select where
  table : String
  conds : List (String × Cmp)
  order : Option (String × Direction)
  window : Window
  deriving DecidableEq

/-- The word is the keyword, in any case. -/
def Token.isKeyword (k : String) : Token → Bool
  | word w => w.toList.map Char.toUpper = k.toList
  | _ => false

/-- The keywords of this grammar that cannot be names. -/
def reserved : List String := ["SELECT", "FROM", "WHERE", "AND", "ORDER", "LIMIT"]

def Token.name : Token → Option String
  | word w => if reserved.any fun k => (word w).isKeyword k then none else some w
  | _ => none

/-- `c op ? AND …` -/
def parseConds : List Token → Option (List (String × Cmp) × List Token)
  | [c, .cmp op, .placeholder] => c.name.map fun name => ([(name, op)], [])
  | c :: .cmp op :: .placeholder :: t :: rest => c.name.bind fun name =>
      if t.isKeyword "AND" then (parseConds rest).map fun x => ((name, op) :: x.1, x.2)
      else some ([(name, op)], t :: rest)
  | _ => none

def parseWhere : List Token → Option (List (String × Cmp) × List Token)
  | [] => some ([], [])
  | t :: rest => if t.isKeyword "WHERE" then parseConds rest else some ([], t :: rest)

/-- `ASC` is the default. -/
def parseDirection : List Token → Direction × List Token
  | [] => (.asc, [])
  | t :: rest => if t.isKeyword "ASC" then (.asc, rest) else if t.isKeyword "DESC" then (.desc, rest)
      else (.asc, t :: rest)

def parseOrder : List Token → Option (Option (String × Direction) × List Token)
  | o :: b :: c :: rest =>
      if o.isKeyword "ORDER" && b.isKeyword "BY" then
        c.name.map fun name => (some (name, (parseDirection rest).1), (parseDirection rest).2)
      else some (none, o :: b :: c :: rest)
  | ts => some (none, ts)

def parseWindow : List Token → Option Window
  | [] => some .all
  | [l, .placeholder] => if l.isKeyword "LIMIT" then some .limit else none
  | [l, .placeholder, o, .placeholder] => if l.isKeyword "LIMIT" && o.isKeyword "OFFSET" then some .limitOffset else none
  | _ => none

def parse : List Token → Option Select
  | s :: .star :: f :: t :: rest => do
      let table ← if s.isKeyword "SELECT" && f.isKeyword "FROM" then t.name else none
      let (conds, rest) ← parseWhere rest
      let (order, rest) ← parseOrder rest
      let window ← parseWindow rest
      return { table, conds, order, window }
  | _ => none

example : (lex "select * from runs where host = ? AND at>=? order by at LIMIT ? offset ?".toList).bind parse =
    some ⟨"runs", [("host", .eq), ("at", .ge)], some ("at", .asc), .limitOffset⟩ := by decide

example : (lex "SELECT * FROM runs ORDER BY at OFFSET ?".toList).bind parse = none := by decide

/-! ## Conditions -/

section Conds

variable {conds : List (String × Cmp)} {rest : List Token} {texts : List (List Char)}

def condTokens (c : String × Cmp) : List Token := [.word c.1, .cmp c.2, .placeholder]

/-- The tokens of conditions that are joined by `AND`. -/
def joined : List (String × Cmp) → List Token
  | [] => []
  | [c] => condTokens c
  | c :: d :: cs => condTokens c ++ .word "AND" :: joined (d :: cs)

/-- **Conditions are read as they were joined**, up to what is no `AND`. -/
theorem parseConds_joined (hne : conds ≠ []) (hnames : ∀ c ∈ conds, (Token.word c.1).name = some c.1)
    (hrest : ∀ t ∈ rest.head?, t.isKeyword "AND" = false) : parseConds (joined conds ++ rest) = some (conds, rest) := by
  induction conds with
  | nil => exact absurd rfl hne
  | cons c conds ih =>
    obtain ⟨hc, hconds⟩ := List.forall_mem_cons.mp hnames
    cases conds with
    | nil =>
      cases rest with
      | nil => simp [joined, condTokens, parseConds, hc]
      | cons t rest =>
        have ht := hrest t rfl
        simp [joined, condTokens, parseConds, hc, ht]
    | cons d conds =>
      have hand : (Token.word "AND").isKeyword "AND" = true := by decide
      have htail := ih (List.cons_ne_nil _ _) hconds
      simp [joined, condTokens, parseConds, hc, hand, htail]

/-- The text of conditions that are joined by ` AND `. -/
theorem lex_intercalate (h : List.Forall₂ (fun text c => lex text = some (condTokens c)) texts conds) :
    lex (" AND ".toList.intercalate texts) = some (joined conds) := by
  induction h with
  | nil => rfl
  | @cons text c texts conds htext h ih =>
    cases h with
    | nil => rwa [List.intercalate_singleton]
    | @cons text' d texts conds _ _ =>
      have hand : lex "AND".toList = some [.word "AND"] := by decide
      have hsplit : " AND ".toList.intercalate (text :: text' :: texts) =
          text ++ ' ' :: ("AND".toList ++ ' ' :: " AND ".toList.intercalate (text' :: texts)) := by
        rw [List.intercalate_cons_cons, List.append_assoc]
        rfl
      rw [hsplit]
      exact lex_append_blank htext (lex_append_blank hand ih)

end Conds

/-! ## Answers -/

structure Table (ρ : Type) where
  name : String
  columns : List (String × (ρ → Value))
  rows : List ρ

/-- Why a query has no answer. -/
inductive SqlError
  | syntaxError | noSuchTable | noSuchColumn | parameterCount | datatypeMismatch
  deriving DecidableEq

section Answers

variable {ρ : Type}

def Table.value (t : Table ρ) (column : String) (row : ρ) : Value :=
  ((t.columns.lookup column).map fun f => f row).getD .null

def Table.hasColumn (t : Table ρ) (column : String) : Bool := (t.columns.lookup column).isSome

def Window.placeholders : Window → ℕ
  | all => 0
  | limit => 1
  | limitOffset => 2

/-- A negative limit is none. -/
def takeLimit (n : ℤ) (l : List ρ) : List ρ := if n < 0 then l else l.take n.toNat

/-- What is kept of the rows in order: a limit and an offset have to be integers. -/
def Window.cut : Window → List Value → Option (List ρ → List ρ)
  | limit, [l] => l.asInt.map takeLimit
  | limitOffset, [l, o] => l.asInt.bind fun n => o.asInt.map fun k rows => takeLimit n (rows.drop k.toNat)
  | _, _ => some id

namespace Select

variable (sel : Select) (t : Table ρ) (params : List Value)

def placeholders : ℕ := sel.conds.length + sel.window.placeholders

def columns : List String := sel.conds.map (·.1) ++ (sel.order.map (·.1)).toList

/-- Every condition is true of the row; the parameters stand in the order of the placeholders. -/
def holds (row : ρ) : Bool := (sel.conds.zip params).all fun x => x.1.2.holds (t.value x.1.1 row) x.2

def InOrder (rows : List ρ) : Prop :=
  ∀ term ∈ sel.order, rows.Pairwise fun a b => term.2.ordered (t.value term.1 a) (t.value term.1 b) = true

end Select

/-- `db.prepare(sql).all(...params)`: the answers that the query may have. -/
def all (t : Table ρ) (sql : List Char) (params : List Value) : Except SqlError (Set (List ρ)) :=
  match (lex sql).bind parse with
  | none => .error .syntaxError
  | some sel =>
    if sel.table ≠ t.name then .error .noSuchTable
    else if sel.columns.all t.hasColumn = false then .error .noSuchColumn
    else if params.length ≠ sel.placeholders then .error .parameterCount
    else match sel.window.cut (params.drop sel.conds.length) with
      | none => .error .datatypeMismatch
      | some cut => .ok {out | ∃ rows, rows.Perm (t.rows.filter (sel.holds t params)) ∧ sel.InOrder t rows ∧
          out = cut rows}

/-- The answers to a query that fits the table and its parameters. -/
theorem all_eq {t : Table ρ} {sql : List Char} {sel : Select} {params : List Value}
    (hparse : (lex sql).bind parse = some sel) (htable : sel.table = t.name)
    (hcolumns : sel.columns.all t.hasColumn = true) (hparams : params.length = sel.placeholders) :
    all t sql params = match sel.window.cut (params.drop sel.conds.length) with
      | none => .error .datatypeMismatch
      | some cut => .ok {out | ∃ rows, rows.Perm (t.rows.filter (sel.holds t params)) ∧ sel.InOrder t rows ∧
          out = cut rows} := by
  simp [all, hparse, htable, hcolumns, hparams]

end Answers

end Sql
