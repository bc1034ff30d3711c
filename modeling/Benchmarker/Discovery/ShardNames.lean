import Benchmarker.Discovery.Shards
import Benchmarker.Js.Captures
import Benchmarker.Js.Decimal

/-!
# Shard names

The expressions of `parseShard` with their order of backtracking, and its numbers with their rounding.

* `numberedRe`, `bareRe`, `ordinalRe`, `parseShard`: the source.
* `Numbered`, `Ordinal`: a name that ends in numbers. `spelled_numbered`, `spelled_ordinal`: what the groups are.
* **`parseShard_eq`**: the first match is the only one up to zeros in front of a number.
* **`parseShard_shardFile`**: the name of a shard parses back.
-/

namespace Benchmarker.Discovery.Names

open Js

/-! ## The expressions -/

/-- `.` -/
def anyChar (c : Char) : Bool := !isLineTerminator c

/-- A text in lower case, under the flag `i`. -/
def caseless (text : String) : Piece Char := .text (text.toList.map fun c d => d.toLower = c)

/-- `0*` -/
def zeros : Piece Char := .many (· = '0')

/-- `/^(.+?)-0*(\d+)-of-0*(\d+)\.safetensors$/i` -/
def numberedRe : List (Bool × Piece Char) :=
  [(true, .lazyPlus anyChar), (false, caseless "-"), (false, zeros), (true, .plus Char.isDigit),
    (false, caseless "-of-"), (false, zeros), (true, .plus Char.isDigit), (false, caseless ".safetensors")]

/-- `/^(.+?)\.safetensors$/i` -/
def bareRe : List (Bool × Piece Char) := [(true, .lazyPlus anyChar), (false, caseless ".safetensors")]

/-- `/^(.+?)[-_.]0*(\d+)$/` -/
def ordinalRe : List (Bool × Piece Char) :=
  [(true, .lazyPlus anyChar), (false, .text [fun c => c ∈ ['-', '_', '.']]), (false, zeros),
    (true, .plus Char.isDigit)]

/-- What `parseShard` returns; its numbers are doubles. -/
structure ShardName where
  family : String
  index : Option (WithTop ℚ)
  total : Option (WithTop ℚ)

/-- `Number.parseInt(digits, 10)` -/
def parseInt (digits : List Char) : WithTop ℚ := roundDouble (digitsValue digits)

/-- `parseShard`. A group that has matched is not empty, so that it is truthy. -/
def parseShard (path : String) : ShardName :=
  let base := baseName path
  match captures numberedRe base with
  | some [family, index, total] => ⟨String.ofList family, some (parseInt index), some (parseInt total)⟩
  | _ =>
    let stem := match captures bareRe base with
      | some [stem] => stem
      | _ => base
    match captures ordinalRe stem with
    | some [family, index] => ⟨String.ofList family, some (parseInt index), none⟩
    | _ => ⟨String.ofList stem, none, none⟩

/-- The shard with its numbers rounded. -/
def rounded (shard : ParsedShard) : ShardName :=
  ⟨shard.family, shard.index.map fun n : ℕ => roundDouble n, shard.total.map fun n : ℕ => roundDouble n⟩

/-! ## Cutting from behind -/

section Cut

variable {s t z d front : List Char} {text : String} {c : Char}

theorem spells_caseless : (caseless text).Spells t ↔ t.map Char.toLower = text.toList := by
  show List.Forall₂ _ (text.toList.map _) t ↔ _
  generalize text.toList = l
  induction l generalizing t with
  | nil => simp
  | cons c l ih =>
    rw [List.map_cons, List.forall₂_cons_left_iff]
    constructor
    · rintro ⟨d, t, hd, ht, rfl⟩
      rw [List.map_cons, ih.mp ht, of_decide_eq_true hd]
    · intro h
      cases t with
      | nil => cases h
      | cons d t =>
        obtain ⟨hd, ht⟩ := List.cons.inj h
        exact ⟨d, t, decide_eq_true hd, ih.mpr ht, rfl⟩

theorem stripSuffix_append (h : t.map Char.toLower = text.toList) : stripSuffix text (s ++ t) = some s := by
  have hlength : t.length = text.length := by rw [← String.length_toList, ← h, List.length_map]
  have hn : (s ++ t).length - text.length = s.length := by
    rw [List.length_append, hlength, Nat.add_sub_cancel]
  rw [stripSuffix, hn, List.drop_left, List.take_left]
  exact if_pos h

theorem eq_append_of_stripSuffix (h : stripSuffix text s = some front) :
    ∃ t, s = front ++ t ∧ t.map Char.toLower = text.toList := by
  unfold stripSuffix at h
  dsimp only at h
  split_ifs at h with hdrop
  rw [← Option.some.inj h]
  exact ⟨_, (List.take_append_drop _ _).symm, hdrop⟩

/-- The last character of a text is no digit. -/
def StopsDigits (s : List Char) : Prop := ∀ c ∈ s.getLast?, c.isDigit = false

theorem rdropWhile_of_stops (h : StopsDigits s) : s.rdropWhile Char.isDigit = s := by
  rw [List.rdropWhile_eq_self_iff]
  intro hne
  rw [h _ (List.getLast?_eq_some_getLast hne)]
  exact Bool.false_ne_true

theorem splitNumber_append (hs : StopsDigits s) (hd : ∀ c ∈ d, c.isDigit = true) : splitNumber (s ++ d) = (s, d) := by
  have hdrop : (s ++ d).rdropWhile Char.isDigit = s := by
    rw [List.rdropWhile, List.reverse_append, List.dropWhile_append_of_pos (by simpa using hd),
      ← List.rdropWhile, rdropWhile_of_stops hs]
  have hall := List.rdropWhile_append_rtakeWhile (p := Char.isDigit) (l := s ++ d)
  rw [hdrop] at hall
  rw [splitNumber, hdrop, List.append_cancel_left hall]

theorem splitNumber_spec (s : List Char) : s = (splitNumber s).1 ++ (splitNumber s).2 ∧
    StopsDigits (splitNumber s).1 ∧ ∀ c ∈ (splitNumber s).2, c.isDigit = true := by
  refine ⟨List.rdropWhile_append_rtakeWhile.symm, fun c hc => ?_, fun c hc => List.mem_rtakeWhile_imp hc⟩
  have hne : s.rdropWhile Char.isDigit ≠ [] := by
    rintro hnil
    rw [splitNumber, hnil] at hc
    cases hc
  rw [splitNumber, List.getLast?_eq_some_getLast hne] at hc
  rw [← Option.some.inj hc]
  exact Bool.eq_false_iff.mpr (List.rdropWhile_last_not Char.isDigit s hne)

theorem toLower_of_isDigit (h : c.isDigit = true) : c.toLower = c := by
  unfold Char.toLower
  rw [Char.isDigit, Bool.and_eq_true, decide_eq_true_eq, decide_eq_true_eq] at h
  split_ifs with hupper
  · have hle : (65 : UInt32) ≤ 57 := UInt32.le_trans hupper.1 h.2
    exact absurd hle (by decide)
  · rfl

/-- A dash is no digit, whatever its case. -/
theorem stops_append_dash (h : t.map Char.toLower = s ++ ['-']) : StopsDigits (front ++ t) := by
  intro c hc
  obtain ⟨t', d, rfl⟩ := (List.eq_nil_or_concat' t).resolve_left (by rintro rfl; simp at h)
  rw [← List.append_assoc, List.getLast?_concat] at hc
  obtain rfl := Option.some.inj hc
  rw [List.map_append, List.map_singleton] at h
  have hdash : d.toLower = '-' := by simpa using (List.append_inj' h rfl).2
  by_contra hdigit
  rw [Bool.not_eq_false] at hdigit
  rw [toLower_of_isDigit hdigit] at hdash
  rw [hdash] at hdigit
  revert hdigit
  decide

theorem digitsValue_zeros (hz : ∀ c ∈ z, c = '0') : digitsValue (z ++ d) = digitsValue d := by
  induction z with
  | nil => rfl
  | cons c z ih =>
    obtain ⟨rfl, hz'⟩ := List.forall_mem_cons.mp hz
    exact ih hz'

theorem isDigit_of_zeros (hz : zeros.Spells z) (hd : ∀ c ∈ d, c.isDigit = true) : ∀ c ∈ z ++ d, c.isDigit = true := by
  intro c hc
  rcases List.mem_append.mp hc with hc | hc
  · rw [of_decide_eq_true (hz c hc)]
    rfl
  · exact hd c hc

theorem isFamily_iff : isFamily s = true ↔ (Piece.lazyPlus anyChar).Spells s := by
  rw [isFamily, Bool.and_eq_true, decide_eq_true_eq, List.all_eq_true]
  rfl

end Cut

/-! ## What is matched -/

section Match

variable {base stem family index total : List Char} {gs : List (List Char)} {path : String}

/-- **The groups of a numbered name**: the family, and digits with the values of the numbers. -/
theorem spelled_numbered (h : Spelled numberedRe base gs) : ∃ family index total, gs = [family, index, total] ∧
    numbered base = some ⟨String.ofList family, some (digitsValue index), some (digitsValue total)⟩ := by
  unfold numberedRe at h
  cases h with | group hfamily h =>
  cases h with | skip hdash h =>
  cases h with | skip hz h =>
  cases h with | group hindex h =>
  cases h with | skip hof h =>
  cases h with | skip hz' h =>
  cases h with | group htotal h =>
  cases h with | skip hext h =>
  cases h with | nil =>
  rename_i family dash z index of z' total ext
  refine ⟨family, index, total, rfl, ?_⟩
  rw [spells_caseless] at hdash hof hext
  have hbase : family ++ (dash ++ (z ++ (index ++ (of ++ (z' ++ (total ++ (ext ++ []))))))) =
      (((family ++ dash) ++ (z ++ index)) ++ of ++ (z' ++ total)) ++ ext := by
    simp only [List.append_assoc, List.append_nil]
  have hstops : StopsDigits (((family ++ dash) ++ (z ++ index)) ++ of) := stops_append_dash (s := "-of".toList) hof
  have hstops' : StopsDigits (family ++ dash) := stops_append_dash (s := []) hdash
  have hne : z' ++ total ≠ [] := fun hnil => htotal.1 (List.append_eq_nil_iff.mp hnil).2
  have hne' : z ++ index ≠ [] := fun hnil => hindex.1 (List.append_eq_nil_iff.mp hnil).2
  simp only [hbase, numbered, stripSuffix_append hext, stripSuffix_append hof, stripSuffix_append hdash,
    splitNumber_append hstops (isDigit_of_zeros hz' htotal.2), splitNumber_append hstops' (isDigit_of_zeros hz hindex.2),
    Option.bind_eq_bind, Option.bind_some]
  rw [if_pos ⟨hne, hne', isFamily_iff.mpr hfamily⟩, digitsValue_zeros fun c hc => of_decide_eq_true (hz c hc),
    digitsValue_zeros fun c hc => of_decide_eq_true (hz' c hc)]

/-- A name that is numbered is matched. -/
theorem spelled_of_numbered {shard : ParsedShard} (h : numbered base = some shard) : ∃ gs, Spelled numberedRe base gs := by
  rw [numbered] at h
  obtain ⟨front, hstrip, h₁⟩ := Option.bind_eq_some_iff.mp h
  obtain ⟨ext, hbase, hext⟩ := eq_append_of_stripSuffix hstrip
  obtain ⟨heq, -, hdigits⟩ := splitNumber_spec front
  obtain ⟨front', hstrip', h₂⟩ := Option.bind_eq_some_iff.mp h₁
  obtain ⟨of, hfront, hof⟩ := eq_append_of_stripSuffix hstrip'
  obtain ⟨heq', -, hdigits'⟩ := splitNumber_spec front'
  obtain ⟨family, hstrip'', h₃⟩ := Option.bind_eq_some_iff.mp h₂
  obtain ⟨dash, hfront', hdash⟩ := eq_append_of_stripSuffix hstrip''
  split_ifs at h₃ with hall
  obtain ⟨htotal, hindex, hfamily⟩ := hall
  have hnil : zeros.Spells [] := nofun
  have hspellsIndex : (Piece.plus Char.isDigit).Spells (splitNumber front').2 := ⟨hindex, hdigits'⟩
  have hspellsTotal : (Piece.plus Char.isDigit).Spells (splitNumber front).2 := ⟨htotal, hdigits⟩
  have hspelled := Spelled.group (isFamily_iff.mp hfamily) <| .skip (spells_caseless.mpr hdash) <| .skip hnil <|
    .group hspellsIndex <| .skip (spells_caseless.mpr hof) <| .skip hnil <| .group hspellsTotal <|
    .skip (spells_caseless.mpr hext) .nil
  have hcut : front = (front' ++ of) ++ (splitNumber front).2 := heq.trans (congrArg (· ++ _) hfront)
  have hcut' : front' = (family ++ dash) ++ (splitNumber front').2 := heq'.trans (congrArg (· ++ _) hfront')
  have hname : family ++ (dash ++ ([] ++ ((splitNumber front').2 ++ (of ++ ([] ++ ((splitNumber front).2 ++
      (ext ++ []))))))) = base := by
    generalize (splitNumber front).2 = total at hcut ⊢
    generalize (splitNumber front').2 = index at hcut' ⊢
    rw [hbase, hcut, hcut']
    simp only [List.append_assoc, List.append_nil, List.nil_append]
  exact ⟨_, hname ▸ hspelled⟩

/-- The group of a bare name. -/
theorem spelled_bare (h : Spelled bareRe base gs) :
    ∃ stem, gs = [stem] ∧ (stripSuffix ".safetensors" base).filter (fun stem => isFamily stem) = some stem := by
  unfold bareRe at h
  cases h with | group hstem h =>
  cases h with | skip hext h =>
  cases h with | nil =>
  rename_i stem ext
  refine ⟨stem, rfl, ?_⟩
  rw [List.append_nil, stripSuffix_append (spells_caseless.mp hext)]
  exact Option.filter_eq_some_iff.mpr ⟨rfl, isFamily_iff.mpr hstem⟩

theorem spelled_of_bare (h : (stripSuffix ".safetensors" base).filter (fun stem => isFamily stem) = some stem) :
    Spelled bareRe base [stem] := by
  obtain ⟨hstrip, hstem⟩ := Option.filter_eq_some_iff.mp h
  obtain ⟨ext, rfl, hext⟩ := eq_append_of_stripSuffix hstrip
  have hspelled := Spelled.group (isFamily_iff.mp hstem) <| .skip (spells_caseless.mpr hext) .nil
  rwa [List.append_nil] at hspelled

/-- **The groups of a name with an ordinal.** -/
theorem spelled_ordinal (h : Spelled ordinalRe stem gs) : ∃ family index, gs = [family, index] ∧
    ordinal stem = some ⟨String.ofList family, some (digitsValue index), none⟩ := by
  unfold ordinalRe at h
  cases h with | group hfamily h =>
  cases h with | skip hsep h =>
  cases h with | skip hz h =>
  cases h with | group hindex h =>
  cases h with | nil =>
  rename_i family sep z index
  refine ⟨family, index, rfl, ?_⟩
  obtain ⟨c, t, hc, ht, rfl⟩ := List.forall₂_cons_left_iff.mp hsep
  obtain rfl := List.forall₂_nil_left_iff.mp ht
  have hc' : c ∈ ['-', '_', '.'] := of_decide_eq_true hc
  have hstops : StopsDigits (family ++ [c]) := by
    intro d hd
    rw [List.getLast?_concat] at hd
    obtain rfl := Option.some.inj hd
    simp only [List.mem_cons, List.not_mem_nil, or_false] at hc'
    rcases hc' with rfl | rfl | rfl <;> decide
  have hstem : family ++ ([c] ++ (z ++ (index ++ []))) = (family ++ [c]) ++ (z ++ index) := by
    simp only [List.append_assoc, List.append_nil]
  have hne : z ++ index ≠ [] := fun hnil => hindex.1 (List.append_eq_nil_iff.mp hnil).2
  rw [hstem, ordinal, splitNumber_append hstops (isDigit_of_zeros hz hindex.2)]
  dsimp only
  rw [List.getLast?_concat, List.dropLast_concat,
    if_pos ⟨hne, decide_eq_true hc', isFamily_iff.mpr hfamily⟩,
    digitsValue_zeros fun c hc => of_decide_eq_true (hz c hc)]

theorem spelled_of_ordinal {shard : ParsedShard} (h : ordinal stem = some shard) : ∃ gs, Spelled ordinalRe stem gs := by
  obtain ⟨heq, -, hdigits⟩ := splitNumber_spec stem
  rw [ordinal] at h
  split at h
  rename_i front index hsplit
  rw [hsplit] at heq hdigits
  split_ifs at h with hall
  obtain ⟨hindex, hsep, hfamily⟩ := hall
  obtain ⟨family, c, rfl⟩ := (List.eq_nil_or_concat' front).resolve_left (by rintro rfl; cases hsep)
  rw [List.getLast?_concat] at hsep
  rw [List.dropLast_concat] at hfamily
  have hnil : zeros.Spells [] := nofun
  have hspellsSep : (Piece.text [fun c => c ∈ ['-', '_', '.']]).Spells [c] := .cons hsep .nil
  have hspellsIndex : (Piece.plus Char.isDigit).Spells index := ⟨hindex, hdigits⟩
  have hspelled := Spelled.group (isFamily_iff.mp hfamily) <| .skip hspellsSep <| .skip hnil <| .group hspellsIndex .nil
  have hname : family ++ ([c] ++ ([] ++ (index ++ []))) = stem := by
    rw [heq]
    simp only [List.append_assoc, List.append_nil, List.nil_append]
  exact ⟨_, hname ▸ hspelled⟩

/-! ## One match -/

theorem bareStem_eq : (match captures bareRe base with | some [stem] => stem | _ => base) = bareStem base := by
  rw [bareStem]
  cases hbare : (stripSuffix ".safetensors" base).filter fun stem => isFamily stem with
  | some stem =>
    obtain ⟨gs, hgs, hspelled⟩ := exists_captures (spelled_of_bare hbare)
    obtain ⟨stem', rfl, hstem'⟩ := spelled_bare hspelled
    rw [hbare] at hstem'
    rw [hgs, Option.some.inj hstem']
    rfl
  | none =>
    have hnone : captures bareRe base = none := captures_eq_none fun gs h => by
      obtain ⟨stem, -, hstem⟩ := spelled_bare h
      rw [hbare] at hstem
      cases hstem
    rw [hnone]
    rfl

/-- The last two attempts. -/
theorem ordinal_eq : (match captures ordinalRe stem with
    | some [family, index] => (⟨String.ofList family, some (parseInt index), none⟩ : ShardName)
    | _ => ⟨String.ofList stem, none, none⟩) =
      rounded ((ordinal stem).getD ⟨String.ofList stem, none, none⟩) := by
  cases hordinal : ordinal stem with
  | some shard =>
    obtain ⟨gs, hspelled⟩ := spelled_of_ordinal hordinal
    obtain ⟨gs', hgs', hspelled'⟩ := exists_captures hspelled
    obtain ⟨family, index, rfl, hshard⟩ := spelled_ordinal hspelled'
    rw [hordinal] at hshard
    rw [hgs', Option.some.inj hshard]
    rfl
  | none =>
    have hnone : captures ordinalRe stem = none := captures_eq_none fun gs h => by
      obtain ⟨family, index, -, hshard⟩ := spelled_ordinal h
      rw [hordinal] at hshard
      cases hshard
    rw [hnone]
    rfl

/-- **The first match is as good as any**: `parseShard` is the shard that is read from behind, with its numbers
rounded. -/
theorem parseShard_eq (path : String) : parseShard path = rounded (Discovery.parseShard path) := by
  rw [Discovery.parseShard, parseShard]
  dsimp only
  cases hnumbered : numbered (baseName path) with
  | some shard =>
    obtain ⟨gs, hspelled⟩ := spelled_of_numbered hnumbered
    obtain ⟨gs', hgs', hspelled'⟩ := exists_captures hspelled
    obtain ⟨family, index, total, rfl, hshard⟩ := spelled_numbered hspelled'
    rw [hnumbered] at hshard
    rw [hgs', Option.some.inj hshard]
    rfl
  | none =>
    have hnone : captures numberedRe (baseName path) = none := captures_eq_none fun gs h => by
      obtain ⟨family, index, total, -, hshard⟩ := spelled_numbered h
      rw [hnumbered] at hshard
      cases hshard
    rw [hnone, Option.getD_none, ← bareStem_eq]
    exact ordinal_eq

end Match

/-! ## Shard files -/

/-- What stands before the name of a file in its path. -/
def Directory (dir : String) : Prop := dir = "" ∨ ∃ parent, dir = parent ++ "/"

/-- `<family>-<index>-of-<total>.safetensors`, with as many zeros in front of the numbers. -/
def shardFile (family : String) (pad index pad' total : ℕ) : String :=
  family ++ "-" ++ String.ofList (List.replicate pad '0') ++ toString index ++ "-of-" ++
    String.ofList (List.replicate pad' '0') ++ toString total ++ ".safetensors"

section File

variable {dir family : String} {pad index pad' total n : ℕ}

/-- The digits of a number, with zeros in front. -/
def padded (pad n : ℕ) : List Char := List.replicate pad '0' ++ Nat.toDigits 10 n

theorem isDigit_of_mem_padded {c : Char} (h : c ∈ padded pad n) : c.isDigit = true := by
  rcases List.mem_append.mp h with h | h
  · rw [List.eq_of_mem_replicate h]
    rfl
  · exact Nat.isDigit_of_mem_toDigits (by decide) (by decide) h

theorem padded_ne_nil : padded pad n ≠ [] := fun h => Nat.toDigits_ne_nil (List.append_eq_nil_iff.mp h).2

theorem digitsValue_padded : digitsValue (padded pad n) = n := by
  rw [padded, digitsValue_zeros fun c hc => List.eq_of_mem_replicate hc]
  exact Nat.ofDigitChars_ten_toDigits

theorem shardFile_toList : (shardFile family pad index pad' total).toList =
    family.toList ++ ("-".toList ++ ([] ++ (padded pad index ++ ("-of-".toList ++ ([] ++ (padded pad' total ++
      (".safetensors".toList ++ []))))))) := by
  simp only [shardFile, String.toList_append, String.toList_ofList, Nat.toString_eq_ofList_toDigits, padded,
    List.append_assoc, List.nil_append, List.append_nil]

theorem slash_not_mem_shardFile (hslash : '/' ∉ family.toList) :
    '/' ∉ (shardFile family pad index pad' total).toList := by
  have hpadded : ∀ pad n, '/' ∉ padded pad n := fun pad n h => absurd (isDigit_of_mem_padded h) (by decide)
  have hdash : '/' ∉ "-".toList := by decide
  have hof : '/' ∉ "-of-".toList := by decide
  have hext : '/' ∉ ".safetensors".toList := by decide
  rw [shardFile_toList]
  simp only [List.mem_append, List.not_mem_nil, or_false, false_or, not_or]
  exact ⟨hslash, hdash, hpadded _ _, hof, hpadded _ _, hext⟩

theorem baseName_append {file : String} (hdir : Directory dir) (hslash : '/' ∉ file.toList) :
    baseName (dir ++ file) = file.toList := by
  have hall : ∀ c ∈ file.toList.reverse, (decide (c ≠ '/')) = true := by
    intro c hc
    refine decide_eq_true ?_
    rintro rfl
    exact hslash (List.mem_reverse.mp hc)
  rw [baseName, List.rtakeWhile, String.toList_append, List.reverse_append, List.takeWhile_append_of_pos hall]
  rcases hdir with rfl | ⟨parent, rfl⟩
  · rw [String.toList_empty, List.reverse_nil, List.takeWhile_nil, List.append_nil, List.reverse_reverse]
  · have hlast : (parent ++ "/").toList.reverse = '/' :: parent.toList.reverse := by
      rw [String.toList_append, List.reverse_append]
      rfl
    rw [hlast, List.takeWhile_cons_of_neg (by decide), List.append_nil, List.reverse_reverse]

/-- The name is cut where it was put together. -/
theorem spelled_shardFile (hne : family ≠ "") (hline : ∀ c ∈ family.toList, isLineTerminator c = false) :
    Spelled numberedRe (shardFile family pad index pad' total).toList
      [family.toList, padded pad index, padded pad' total] := by
  have hfamily : (Piece.lazyPlus anyChar).Spells family.toList := by
    refine ⟨fun h => hne (String.toList_eq_nil_iff.mp h), fun c hc => ?_⟩
    rw [anyChar, hline c hc]
    rfl
  have hnil : zeros.Spells [] := nofun
  have hdash : (caseless "-").Spells "-".toList := spells_caseless.mpr (by decide)
  have hof : (caseless "-of-").Spells "-of-".toList := spells_caseless.mpr (by decide)
  have hext : (caseless ".safetensors").Spells ".safetensors".toList := spells_caseless.mpr (by decide)
  have hnumber : ∀ pad n, (Piece.plus Char.isDigit).Spells (padded pad n) :=
    fun pad n => ⟨padded_ne_nil, fun c hc => isDigit_of_mem_padded hc⟩
  rw [shardFile_toList]
  exact .group hfamily <| .skip hdash <| .skip hnil <| .group (hnumber _ _) <| .skip hof <| .skip hnil <|
    .group (hnumber _ _) <| .skip hext .nil

end File

/-- **The name of a shard parses back** to its family, index and total, in any directory. -/
theorem parseShard_shardFile (dir family : String) (pad index pad' total : ℕ) (hdir : Directory dir)
    (hne : family ≠ "") (hslash : '/' ∉ family.toList) (hline : ∀ c ∈ family.toList, isLineTerminator c = false)
    (hindex : index < 2 ^ 53) (htotal : total < 2 ^ 53) :
    parseShard (dir ++ shardFile family pad index pad' total) =
      ⟨family, some (index : ℚ), some (total : ℚ)⟩ := by
  have hname : numbered (baseName (dir ++ shardFile family pad index pad' total)) =
      some ⟨family, some index, some total⟩ := by
    rw [baseName_append hdir (slash_not_mem_shardFile hslash)]
    obtain ⟨family', index', total', hgroups, hnumbered⟩ := spelled_numbered
      (@spelled_shardFile family pad index pad' total hne hline)
    simp only [List.cons.injEq, and_true] at hgroups
    obtain ⟨rfl, rfl, rfl⟩ := hgroups
    rw [hnumbered, digitsValue_padded, digitsValue_padded, String.ofList_toList]
  rw [parseShard_eq, Discovery.parseShard, hname, Option.getD_some, rounded, Option.map_some, Option.map_some,
    roundDouble_natCast hindex, roundDouble_natCast htotal]

/-- A family with dashes, digits and a segment that looks like numbers. -/
def innerFamily : String := "llama-3-8b-00001-of-00002.v1"

theorem innerFamily_parses_back : parseShard ("weights/" ++ shardFile innerFamily 4 7 3 12) =
    ⟨innerFamily, some (7 : ℕ), some (12 : ℕ)⟩ := by
  have hline : innerFamily.toList.all (fun c => !isLineTerminator c) = true := by decide
  refine parseShard_shardFile "weights/" innerFamily 4 7 3 12 (.inr ⟨"weights", rfl⟩) (by decide) (by decide) ?_
    (by decide) (by decide)
  exact fun c hc => Bool.not_eq_true' _ ▸ List.all_eq_true.mp hline c hc

end Benchmarker.Discovery.Names
