import Mathlib.Data.List.Forall2
import Benchmarker.Sql.Select

/-!
# Queries from optional parts

The text of a query is put together from optional conditions, a limit and an offset, and its parameters beside it.

* `Filter`, `pushes`, `buildQuery`: the text and the parameters.
* `selectOf`: the query that is meant. **`parse_buildQuery`**: it is what is read, unless there is an offset without a
  limit.
* `Selected`: filtered, sorted and sliced. `Accepted`: the limits and offsets that are read.
* **`all_buildQuery_iff`**: when these are the answers.
-/

namespace Sql

open Js

/-- White space in the text separates tokens. -/
def spaced (text : List Char) : Bool := text.all fun c => !isSpace c || blank c

/-- The name of a table or of a column. -/
structure Name where
  text : String
  reads : lex text.toList = some [.word text]
  named : (Token.word text).name = some text
  spaced : spaced text.toList = true

/-- An optional condition: its text, what it reads as, and the value that it compares with. -/
structure Filter where
  text : List Char
  column : String
  op : Cmp
  value : Option Value
  reads : lex text = some (condTokens (column, op))
  named : (Token.word column).name = some column
  spaced : spaced text = true

/-- `if (value !== undefined) { conditions.push(text); params.push(value); }`, for each filter in turn. -/
def pushes (filters : List Filter) : List (List Char) × List Value :=
  filters.foldl (fun acc f => match f.value with
    | none => acc
    | some v => (acc.1 ++ [f.text], acc.2 ++ [v])) ([], [])

/-- `` `SELECT * FROM ${table} ${where} ${orderBy} ${limit} ${offset}`.trim() ``, and its parameters. -/
def buildQuery (table orderColumn : Name) (filters : List Filter) (direction : Direction) (limit offset : Option ℕ) :
    List Char × List Value :=
  let pushed := pushes filters
  let conditions := if pushed.1.length > 0 then "WHERE ".toList ++ " AND ".toList.intercalate pushed.1 else []
  let orderBy := "ORDER BY ".toList ++ orderColumn.text.toList ++ (if direction = .asc then " ASC" else " DESC").toList
  let limitText := if limit.isSome then "LIMIT ?".toList else []
  let offsetText := if offset.isSome then "OFFSET ?".toList else []
  (trimChars ("SELECT * FROM ".toList ++ table.text.toList ++ ' ' :: (conditions ++ ' ' :: (orderBy ++ ' ' ::
    (limitText ++ ' ' :: offsetText)))), pushed.2 ++ limit.toList.map Value.ofNat ++ offset.toList.map Value.ofNat)

section Pushes

variable {filters : List Filter} {ρ : Type}

/-- The conditions that are asked for. -/
def active (filters : List Filter) : List (Filter × Value) := filters.filterMap fun f => f.value.map fun v => (f, v)

theorem pushes_eq (filters : List Filter) :
    pushes filters = ((active filters).map fun x => x.1.text, (active filters).map (·.2)) := by
  induction filters using List.reverseRecOn with
  | nil => rfl
  | append_singleton filters f ih =>
    have happend : active (filters ++ [f]) = active filters ++ active [f] := List.filterMap_append
    rw [pushes, List.foldl_append, ← pushes, ih, happend, active]
    cases hv : f.value with
    | none => simp [active, hv]
    | some v => simp [active, hv]

end Pushes

/-! ## What is read -/

/-- The query that is meant. -/
def selectOf (table orderColumn : Name) (filters : List Filter) (direction : Direction) (window : Window) : Select where
  table := table.text
  conds := (active filters).map fun x => (x.1.column, x.1.op)
  order := some (orderColumn.text, direction)
  window := window

/-- The words of a limit and an offset. -/
def windowTokens (limit offset : Option ℕ) : List Token :=
  (if limit.isSome then [.word "LIMIT", .placeholder] else []) ++
    if offset.isSome then [.word "OFFSET", .placeholder] else []

def windowOf (limit offset : Option ℕ) : Window :=
  if limit.isSome then if offset.isSome then .limitOffset else .limit else .all

section Text

variable {table orderColumn : Name} {filters : List Filter} {direction : Direction} {limit offset : Option ℕ}

theorem lex_conditions : lex (if (pushes filters).1.length > 0 then
      "WHERE ".toList ++ " AND ".toList.intercalate (pushes filters).1 else []) =
    some (if active filters = [] then [] else
      .word "WHERE" :: joined ((active filters).map fun x => (x.1.column, x.1.op))) := by
  rw [pushes_eq]
  by_cases hnone : active filters = []
  · rw [hnone]
    rfl
  · have hwhere : lex "WHERE".toList = some [.word "WHERE"] := by decide
    have hconds : lex (" AND ".toList.intercalate ((active filters).map fun x => x.1.text)) =
        some (joined ((active filters).map fun x => (x.1.column, x.1.op))) := by
      refine lex_intercalate ?_
      rw [List.forall₂_map_left_iff, List.forall₂_map_right_iff]
      exact List.forall₂_same.mpr fun x _ => x.1.reads
    rw [if_pos (by simpa [List.length_pos_iff] using hnone), if_neg hnone]
    exact lex_append_blank hwhere hconds

theorem lex_window : lex ((if limit.isSome then "LIMIT ?".toList else []) ++ ' ' ::
    (if offset.isSome then "OFFSET ?".toList else [])) = some (windowTokens limit offset) := by
  have hlimit : lex (if limit.isSome then "LIMIT ?".toList else []) =
      some (if limit.isSome then [.word "LIMIT", .placeholder] else []) := by
    split_ifs <;> decide
  have hoffset : lex (if offset.isSome then "OFFSET ?".toList else []) =
      some (if offset.isSome then [.word "OFFSET", .placeholder] else []) := by
    split_ifs <;> decide
  exact lex_append_blank hlimit hoffset

def directionToken (direction : Direction) : Token := .word (if direction = .asc then "ASC" else "DESC")

theorem lex_order : lex ("ORDER BY ".toList ++ orderColumn.text.toList ++
    (if direction = .asc then " ASC" else " DESC").toList) =
      some [.word "ORDER", .word "BY", .word orderColumn.text, directionToken direction] := by
  have horder : lex "ORDER BY".toList = some [.word "ORDER", .word "BY"] := by decide
  have hdirection : lex (if direction = .asc then "ASC" else "DESC").toList = some [directionToken direction] := by
    cases direction <;> decide
  have hsplit : "ORDER BY ".toList ++ orderColumn.text.toList ++ (if direction = .asc then " ASC" else " DESC").toList =
      "ORDER BY".toList ++ ' ' :: (orderColumn.text.toList ++ ' ' :: (if direction = .asc then "ASC" else "DESC").toList) := by
    rw [List.append_assoc]
    cases direction <;> rfl
  rw [hsplit]
  exact lex_append_blank horder (lex_append_blank orderColumn.reads hdirection)

theorem spaced_append {s t : List Char} (hs : spaced s = true) (ht : spaced t = true) : spaced (s ++ t) = true := by
  rw [spaced, List.all_append, Bool.and_eq_true]
  exact ⟨hs, ht⟩

theorem spaced_blank {s t : List Char} (hs : spaced s = true) (ht : spaced t = true) : spaced (s ++ ' ' :: t) = true := by
  have hblank : spaced [' '] = true := by decide
  exact spaced_append hs (spaced_append hblank ht)

theorem spaced_intercalate {texts : List (List Char)} (h : ∀ text ∈ texts, spaced text = true) :
    spaced (" AND ".toList.intercalate texts) = true := by
  induction texts with
  | nil => rfl
  | cons text texts ih =>
    obtain ⟨htext, htexts⟩ := List.forall_mem_cons.mp h
    cases texts with
    | nil => rwa [List.intercalate_singleton]
    | cons text' texts =>
      have hand : spaced " AND ".toList = true := by decide
      rw [List.intercalate_cons_cons]
      exact spaced_append (spaced_append htext hand) (ih htexts)

/-- The tokens of the text. -/
theorem lex_buildQuery : lex (buildQuery table orderColumn filters direction limit offset).1 =
    some (.word "SELECT" :: .star :: .word "FROM" :: .word table.text ::
      ((if active filters = [] then [] else
        .word "WHERE" :: joined ((active filters).map fun x => (x.1.column, x.1.op))) ++
      ([.word "ORDER", .word "BY", .word orderColumn.text, directionToken direction] ++ windowTokens limit offset))) := by
  have hselect : lex "SELECT * FROM".toList = some [.word "SELECT", .star, .word "FROM"] := by decide
  have hsplit : "SELECT * FROM ".toList = "SELECT * FROM".toList ++ [' '] := by decide
  have htable : ∀ rest, "SELECT * FROM ".toList ++ table.text.toList ++ ' ' :: rest =
      "SELECT * FROM".toList ++ ' ' :: (table.text.toList ++ ' ' :: rest) := by
    intro rest
    rw [hsplit]
    simp only [List.append_assoc, List.cons_append, List.nil_append]
  have hspaced : spaced "SELECT * FROM ".toList = true := by decide
  have horder : spaced ("ORDER BY ".toList ++ orderColumn.text.toList ++
      (if direction = .asc then " ASC" else " DESC").toList) = true := by
    refine spaced_append (spaced_append (by decide) orderColumn.spaced) ?_
    cases direction <;> decide
  have hlimit : spaced (if limit.isSome then "LIMIT ?".toList else []) = true := by split_ifs <;> decide
  have hoffset : spaced (if offset.isSome then "OFFSET ?".toList else []) = true := by split_ifs <;> decide
  have hconditions : spaced (if (pushes filters).1.length > 0 then
      "WHERE ".toList ++ " AND ".toList.intercalate (pushes filters).1 else []) = true := by
    split_ifs
    · refine spaced_append (by decide) (spaced_intercalate fun text htext => ?_)
      rw [pushes_eq] at htext
      obtain ⟨x, -, rfl⟩ := List.mem_map.mp htext
      exact x.1.spaced
    · rfl
  have hall := spaced_blank (spaced_append hspaced table.spaced) (spaced_blank hconditions
    (spaced_blank horder (spaced_blank hlimit hoffset)))
  rw [buildQuery, lex_trimChars]
  · exact (congrArg lex (htable _)).trans (lex_append_blank hselect (lex_append_blank table.reads
      (lex_append_blank lex_conditions (lex_append_blank lex_order lex_window))))
  · intro c hc hspace
    have hc' := List.all_eq_true.mp hall c hc
    rwa [hspace, Bool.not_true, Bool.false_or] at hc'

/-- What the words at the end are read as: there is no offset without a limit. -/
theorem parseWindow_tokens : parseWindow (windowTokens limit offset) =
    if offset.isSome → limit.isSome then some (windowOf limit offset) else none := by
  have hlimit : (Token.word "LIMIT").isKeyword "LIMIT" = true := by decide
  have hoffset : (Token.word "OFFSET").isKeyword "OFFSET" = true ∧ (Token.word "OFFSET").isKeyword "LIMIT" = false := by
    decide
  cases limit with
  | none =>
    cases offset with
    | none => simp [windowTokens, windowOf, parseWindow]
    | some k => simp [windowTokens, parseWindow, hoffset]
  | some n =>
    cases offset with
    | none => simp [windowTokens, windowOf, parseWindow, hlimit]
    | some k => simp [windowTokens, windowOf, parseWindow, hlimit, hoffset]

theorem parseOrder_tokens {rest : List Token} :
    parseOrder ([.word "ORDER", .word "BY", .word orderColumn.text, directionToken direction] ++ rest) =
      some (some (orderColumn.text, direction), rest) := by
  have horder : ((Token.word "ORDER").isKeyword "ORDER" && (Token.word "BY").isKeyword "BY") = true := by decide
  have hdirection : parseDirection (directionToken direction :: rest) = (direction, rest) := by
    have hdesc : (directionToken .desc).isKeyword "ASC" = false ∧ (directionToken .desc).isKeyword "DESC" = true := by
      decide
    have hasc : (directionToken .asc).isKeyword "ASC" = true := by decide
    cases direction with
    | asc => simp [parseDirection, hasc]
    | desc => simp [parseDirection, hdesc]
  simp [parseOrder, horder, hdirection, orderColumn.named]

theorem parseWhere_tokens {rest : List Token} : parseWhere ((if active filters = [] then [] else
      .word "WHERE" :: joined ((active filters).map fun x => (x.1.column, x.1.op))) ++ .word "ORDER" :: rest) =
    some ((active filters).map fun x => (x.1.column, x.1.op), .word "ORDER" :: rest) := by
  have hwhere : (Token.word "WHERE").isKeyword "WHERE" = true := by decide
  have horder : (Token.word "ORDER").isKeyword "WHERE" = false ∧ (Token.word "ORDER").isKeyword "AND" = false := by
    decide
  by_cases hnone : active filters = []
  · simp [hnone, parseWhere, horder]
  · rw [if_neg hnone, List.cons_append, parseWhere, if_pos hwhere]
    refine parseConds_joined (by simpa using hnone) (fun c hc => ?_) fun t ht => ?_
    · obtain ⟨x, -, rfl⟩ := List.mem_map.mp hc
      exact x.1.named
    · rw [← Option.some.inj ht]
      exact horder.2

/-- **The text is read as the query that is meant**, unless it has an offset and no limit. -/
theorem parse_buildQuery : (lex (buildQuery table orderColumn filters direction limit offset).1).bind parse =
    if offset.isSome → limit.isSome then
      some (selectOf table orderColumn filters direction (windowOf limit offset)) else none := by
  have hselect : ((Token.word "SELECT").isKeyword "SELECT" && (Token.word "FROM").isKeyword "FROM") = true := by decide
  rw [lex_buildQuery, Option.bind_some, parse, if_pos hselect, table.named]
  simp only [Option.bind_eq_bind, Option.bind_some]
  rw [List.cons_append, parseWhere_tokens]
  simp only [Option.bind_some]
  rw [← List.cons_append, parseOrder_tokens, Option.bind_some, parseWindow_tokens]
  split_ifs <;> rfl

end Text

/-! ## Filtered, sorted and sliced -/

section Selected

variable {ρ : Type}

/-- The first `offset` rows dropped, and at most `limit` rows kept. -/
def kept (limit offset : Option ℕ) (rows : List ρ) : List ρ :=
  match limit with
  | none => rows.drop (offset.getD 0)
  | some n => (rows.drop (offset.getD 0)).take n

/-- The rows that satisfy `p`, in the order `before` up to ties, sliced. -/
def Selected (rows : List ρ) (p : ρ → Bool) (before : ρ → ρ → Prop) (limit offset : Option ℕ) (out : List ρ) : Prop :=
  ∃ sorted, sorted.Perm (rows.filter p) ∧ sorted.Pairwise before ∧ out = kept limit offset sorted

/-- The limit and the offset are read: there is no offset without a limit, and both fit into 64 bits. -/
structure Accepted (limit offset : Option ℕ) : Prop where
  limited : offset.isSome = true → limit.isSome = true
  limit_lt : ∀ n ∈ limit, n < 2 ^ 63
  offset_lt : ∀ k ∈ offset, k < 2 ^ 63

/-- Every condition that is asked for is true of the row. -/
def satisfies (t : Table ρ) (filters : List Filter) (row : ρ) : Bool :=
  (active filters).all fun x => x.1.op.holds (t.value x.1.column row) x.2

theorem satisfies_nil (t : Table ρ) (row : ρ) : satisfies t [] row = true := rfl

theorem satisfies_cons (t : Table ρ) (f : Filter) (filters : List Filter) (row : ρ) : satisfies t (f :: filters) row =
    ((f.value.all fun v => f.op.holds (t.value f.column row) v) && satisfies t filters row) := by
  rw [satisfies, active]
  cases hv : f.value with
  | none =>
    rw [List.filterMap_cons_none (by rw [hv, Option.map_none])]
    exact (Bool.true_and _).symm
  | some v =>
    rw [List.filterMap_cons_some (by rw [hv, Option.map_some])]
    rfl

end Selected

section Answers

variable {ρ : Type} {t : Table ρ} {table orderColumn : Name} {filters : List Filter} {direction : Direction}
  {limit offset : Option ℕ}

/-- The limit and the offset as they are bound. -/
def windowParams (limit offset : Option ℕ) : List Value := limit.toList.map Value.ofNat ++ offset.toList.map Value.ofNat

theorem takeLimit_natCast (n : ℕ) (rows : List ρ) : takeLimit (n : ℤ) rows = rows.take n := by
  rw [takeLimit, if_neg (by omega), Int.toNat_natCast]

/-- What is cut, if the limit and the offset are read. -/
theorem cut_windowParams (h : Accepted limit offset) :
    (windowOf limit offset).cut (windowParams limit offset) = some (kept limit offset (ρ := ρ)) := by
  cases limit with
  | none =>
    cases offset with
    | none => rfl
    | some k => cases h.limited rfl
  | some n =>
    have hn := Value.asInt_ofNat n
    rw [if_pos (h.limit_lt n rfl)] at hn
    cases offset with
    | none =>
      simp only [windowOf, windowParams, Option.isSome_some, Option.isSome_none, Option.toList_some, Option.toList_none,
        List.map_cons, List.map_nil, List.append_nil, if_true, Bool.false_eq_true, if_false, Window.cut, hn, Option.map_some]
      exact congrArg some (funext fun rows => takeLimit_natCast n rows)
    | some k =>
      have hk := Value.asInt_ofNat k
      rw [if_pos (h.offset_lt k rfl)] at hk
      simp only [windowOf, windowParams, Option.isSome_some, Option.toList_some, List.map_cons, List.map_nil,
        List.cons_append, List.nil_append, if_true, Window.cut, hn, hk, Option.bind_some, Option.map_some]
      exact congrArg some (funext fun rows => takeLimit_natCast n _)

theorem cut_windowParams_none (hlimited : offset.isSome = true → limit.isSome = true) (h : ¬Accepted limit offset) :
    (windowOf limit offset).cut (windowParams limit offset) = (none : Option (List ρ → List ρ)) := by
  cases limit with
  | none =>
    cases offset with
    | none => exact absurd ⟨hlimited, nofun, nofun⟩ h
    | some k => cases hlimited rfl
  | some n =>
    have hn := Value.asInt_ofNat n
    cases offset with
    | none =>
      have hover : ¬n < 2 ^ 63 := fun hlt => h ⟨hlimited, fun m hm => Option.some.inj hm ▸ hlt, nofun⟩
      rw [if_neg hover] at hn
      simp [windowOf, windowParams, Window.cut, hn]
    | some k =>
      have hk := Value.asInt_ofNat k
      by_cases hlt : n < 2 ^ 63
      · have hover : ¬k < 2 ^ 63 := fun hlt' =>
          h ⟨hlimited, fun m hm => Option.some.inj hm ▸ hlt, fun m hm => Option.some.inj hm ▸ hlt'⟩
        rw [if_neg hover] at hk
        simp [windowOf, windowParams, Window.cut, hk]
      · rw [if_neg hlt] at hn
        simp [windowOf, windowParams, Window.cut, hn]

theorem params_buildQuery : (buildQuery table orderColumn filters direction limit offset).2 =
    (active filters).map (·.2) ++ windowParams limit offset := by
  show (pushes filters).2 ++ limit.toList.map Value.ofNat ++ offset.toList.map Value.ofNat = _
  rw [pushes_eq, windowParams, List.append_assoc]

theorem placeholders_selectOf (hlimited : offset.isSome = true → limit.isSome = true) :
    ((active filters).map (·.2) ++ windowParams limit offset).length =
      (selectOf table orderColumn filters direction (windowOf limit offset)).placeholders := by
  have hwindow : (windowParams limit offset).length = (windowOf limit offset).placeholders := by
    cases limit with
    | none =>
      cases offset with
      | none => rfl
      | some k => cases hlimited rfl
    | some n => cases offset <;> rfl
  rw [List.length_append, List.length_map, hwindow, Select.placeholders, selectOf, List.length_map]

/-- The parameters stand beside their conditions. -/
theorem holds_selectOf {window : Window} {rest : List Value} :
    (selectOf table orderColumn filters direction window).holds t ((active filters).map (·.2) ++ rest) =
      satisfies t filters := by
  funext row
  have hzip : ∀ l : List (Filter × Value), (l.map fun x => (x.1.column, x.1.op)).zip (l.map (·.2) ++ rest) =
      l.map fun x => ((x.1.column, x.1.op), x.2) := by
    intro l
    induction l with
    | nil => rfl
    | cons x l ih => rw [List.map_cons, List.map_cons, List.cons_append, List.zip_cons_cons, ih, List.map_cons]
  rw [Select.holds, satisfies]
  show (((active filters).map fun x => (x.1.column, x.1.op)).zip _).all _ = _
  rw [hzip, List.all_map]
  rfl

variable (hcolumns : ∀ f ∈ filters, t.hasColumn f.column = true) (horder : t.hasColumn orderColumn.text = true)

include hcolumns horder

theorem columns_selectOf {window : Window} :
    (selectOf table orderColumn filters direction window).columns.all t.hasColumn = true := by
  rw [List.all_eq_true]
  intro c hc
  rcases List.mem_append.mp hc with hc | hc
  · rw [selectOf, List.map_map] at hc
    obtain ⟨x, hx, rfl⟩ := List.mem_map.mp hc
    obtain ⟨f, hf, hx⟩ := List.mem_filterMap.mp hx
    obtain ⟨v, -, rfl⟩ := Option.map_eq_some_iff.mp hx
    exact hcolumns f hf
  · have hc' : c = orderColumn.text := by simpa [selectOf] using hc
    rwa [hc']

variable (hname : table.text = t.name)

include hname

/-- The answers, before it is known how they are cut. -/
theorem all_buildQuery_cut (hlimited : offset.isSome = true → limit.isSome = true) :
    all t (buildQuery table orderColumn filters direction limit offset).1
        (buildQuery table orderColumn filters direction limit offset).2 =
      match (windowOf limit offset).cut (windowParams limit offset) with
      | none => .error .datatypeMismatch
      | some cut => .ok {out | ∃ rows, rows.Perm (t.rows.filter (satisfies t filters)) ∧ rows.Pairwise (fun a b =>
          direction.ordered (t.value orderColumn.text a) (t.value orderColumn.text b) = true) ∧ out = cut rows} := by
  have hparse := @parse_buildQuery table orderColumn filters direction limit offset
  rw [if_pos hlimited] at hparse
  have hconds : ((active filters).map (·.2)).length =
      (selectOf table orderColumn filters direction (windowOf limit offset)).conds.length := by
    rw [selectOf, List.length_map, List.length_map]
  have hparams := @placeholders_selectOf table orderColumn filters direction limit offset hlimited
  have hwindow : (selectOf table orderColumn filters direction (windowOf limit offset)).window = windowOf limit offset := rfl
  rw [params_buildQuery, all_eq hparse hname (columns_selectOf hcolumns horder) hparams, List.drop_left' hconds,
    holds_selectOf, hwindow]
  cases (windowOf limit offset).cut (windowParams limit offset) with
  | none => rfl
  | some cut => simp only [Select.InOrder, selectOf, Option.mem_def, Option.some.injEq, forall_eq']

/-- **The answers**: filtered, sorted and sliced. -/
theorem all_buildQuery (h : Accepted limit offset) :
    all t (buildQuery table orderColumn filters direction limit offset).1
        (buildQuery table orderColumn filters direction limit offset).2 =
      .ok {out | Selected t.rows (satisfies t filters) (fun a b =>
        direction.ordered (t.value orderColumn.text a) (t.value orderColumn.text b) = true) limit offset out} := by
  rw [all_buildQuery_cut hcolumns horder hname h.limited, cut_windowParams h]
  rfl

/-- Else there is no answer. -/
theorem all_buildQuery_error (h : ¬Accepted limit offset) :
    ∃ e, all t (buildQuery table orderColumn filters direction limit offset).1
      (buildQuery table orderColumn filters direction limit offset).2 = .error e := by
  by_cases hlimited : offset.isSome = true → limit.isSome = true
  · refine ⟨.datatypeMismatch, ?_⟩
    rw [all_buildQuery_cut hcolumns horder hname hlimited, cut_windowParams_none hlimited h]
  · refine ⟨.syntaxError, ?_⟩
    rw [all, parse_buildQuery, if_neg hlimited]

/-- **The answers are exact** if and only if the limit and the offset are read. -/
theorem all_buildQuery_iff : all t (buildQuery table orderColumn filters direction limit offset).1
    (buildQuery table orderColumn filters direction limit offset).2 =
      .ok {out | Selected t.rows (satisfies t filters) (fun a b =>
        direction.ordered (t.value orderColumn.text a) (t.value orderColumn.text b) = true) limit offset out} ↔
    Accepted limit offset := by
  refine ⟨fun hall => ?_, all_buildQuery hcolumns horder hname⟩
  by_contra h
  obtain ⟨e, he⟩ := all_buildQuery_error hcolumns horder hname h
  cases he.symm.trans hall

end Answers

end Sql
