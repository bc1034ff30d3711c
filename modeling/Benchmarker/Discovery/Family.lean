import Mathlib.Data.List.DropRight
import Benchmarker.Js.Decimal
import Benchmarker.Js.Tokens

/-!
# Model families

The family key that `deriveModelFamily` reads off a model id. Texts are lists of characters inside.

* `isSizeToken`, `isVersionToken`, `familyVariantTokens`, `deriveModelFamily`: the source.
* `Sized`, `Versioned`: the tokens of the three patterns, by their parts.
* `derive_derive`, **`family_stable`**: deriving twice, and the appended tokens that leave the family.
-/

namespace Benchmarker.Discovery

open Js

def isSeparator (c : Char) : Bool := c ∈ ['-', '_', '.']

def familyVariantTokens : List (List Char) :=
  ["instruct", "chat", "it", "base", "preview", "thinking", "reasoner", "reasoning", "fp8", "fp16", "bf16",
    "awq", "gptq", "gguf", "mlx", "int3", "int4", "int8"].map String.toList

/-! ## Patterns of tokens -/

/-- `/^\d+(\.\d+)?b$/` -/
def isDense (token : List Char) : Bool := token.getLast? = some 'b' && isDecimal token.dropLast

/-- `/^a\d+(\.\d+)?b$/` -/
def isActive : List Char → Bool
  | 'a' :: size => isDense size
  | _ => false

/-- `/^\d+x\d+(\.\d+)?b$/` -/
def isMixture (token : List Char) : Bool :=
  match token.splitOn 'x' with
  | [experts, size] => isDigits experts && isDense size
  | _ => false

def isSizeToken (token : List Char) : Bool := isDense token || isActive token || isMixture token

def dropV : List Char → List Char
  | 'v' :: rest => rest
  | token => token

/-- `/^v?\d+(\.\d+)*$/` -/
def isVersionToken (token : List Char) : Bool := ((dropV token).splitOn '.').all isDigits

/-! ## Families -/

/-- The parts of an id before and after its first slash. -/
def splitModelId (modelId : List Char) : List Char × List Char :=
  if '/' ∈ modelId then (modelId.takeWhile (· ≠ '/'), (modelId.dropWhile (· ≠ '/')).tail) else ([], modelId)

/-- `tok.replace(/\d+$/, '') || tok` -/
def stripSeries (token : List Char) : List Char :=
  if token.rdropWhile Char.isDigit = [] then token else token.rdropWhile Char.isDigit

/-- The tokens after the first one that stay. -/
def isKept (token : List Char) : Bool :=
  !isSizeToken token && token ∉ familyVariantTokens && !isVersionToken token

def keptTokens : List (List Char) → List (List Char)
  | [] => []
  | first :: rest => stripSeries first :: rest.filter isKept

def deriveModelFamily (modelId : String) : String :=
  let org := lowerChars (splitModelId modelId.toList).1
  let name := lowerChars (splitModelId modelId.toList).2
  let joined := ['-'].intercalate (keptTokens (tokensBy isSeparator name))
  let familyName := if joined = [] then name else joined
  String.ofList (if org = [] then familyName else org ++ '/' :: familyName)

example : deriveModelFamily "Qwen/Qwen3-Coder-30B-A3B-Instruct" = "qwen/qwen-coder" := by decide

/-! ## The tokens by their parts -/

section Patterns

variable {c sep : Char} {s t token whole fraction : List Char}

/-- A head, a size and the unit: `head` is empty, the mark of an active size, or a number of experts. -/
inductive Sized (start : List Char) : List Char → Prop
  | whole {digits : List Char} (h : Digits digits) : Sized start (start ++ digits ++ ['b'])
  | fraction {digits decimals : List Char} (h : Digits digits) (h' : Digits decimals) :
      Sized start (start ++ digits ++ '.' :: (decimals ++ ['b']))

theorem isDense_iff : isDense token = true ↔ Sized [] token := by
  rw [isDense, Bool.and_eq_true, decide_eq_true_eq, isDecimal_iff]
  constructor
  · rintro ⟨hlast, h | ⟨whole, fraction, heq, h, h'⟩⟩
    · rw [← List.dropLast_append_getLast? 'b' hlast]
      exact .whole h
    · rw [← List.dropLast_append_getLast? 'b' hlast, heq, List.append_assoc]
      exact .fraction h h'
  · rintro (h | ⟨h, h'⟩)
    · rw [List.nil_append, List.getLast?_concat, List.dropLast_concat]
      exact ⟨rfl, .inl h⟩
    · rw [List.nil_append, ← List.cons_append, ← List.append_assoc, List.getLast?_concat, List.dropLast_concat]
      exact ⟨rfl, .inr ⟨_, _, rfl, h, h'⟩⟩

theorem Sized.append (h : Sized [] token) : Sized s (s ++ token) := by
  cases h with
  | whole h =>
    rw [List.nil_append, ← List.append_assoc]
    exact .whole h
  | fraction h h' =>
    rw [List.nil_append, ← List.append_assoc]
    exact .fraction h h'

theorem Sized.split (h : Sized s token) : ∃ size, token = s ++ size ∧ Sized [] size := by
  cases h with
  | whole h => exact ⟨_, List.append_assoc _ _ _, .whole h⟩
  | fraction h h' => exact ⟨_, List.append_assoc _ _ _, .fraction h h'⟩

theorem isActive_iff : isActive token = true ↔ Sized ['a'] token := by
  constructor
  · intro h
    unfold isActive at h
    split at h
    · exact (isDense_iff.mp h).append
    · cases h
  · intro h
    obtain ⟨size, rfl, hsize⟩ := h.split
    exact isDense_iff.mpr hsize

/-- The characters of a size, besides its head. -/
theorem Sized.mem (h : Sized [] token) (hc : c ∈ token) : c.isDigit = true ∨ c = '.' ∨ c = 'b' := by
  cases h with
  | whole h =>
    rcases List.mem_append.mp hc with hc | hc
    · exact .inl (h.all c hc)
    · exact .inr (.inr (List.mem_singleton.mp hc))
  | fraction h h' =>
    rw [List.nil_append, List.mem_append, List.mem_cons, List.mem_append, List.mem_singleton] at hc
    rcases hc with hc | rfl | hc | rfl
    · exact .inl (h.all c hc)
    · exact .inr (.inl rfl)
    · exact .inl (h'.all c hc)
    · exact .inr (.inr rfl)

theorem isMixture_iff : isMixture token = true ↔ ∃ experts, Digits experts ∧ Sized (experts ++ ['x']) token := by
  constructor
  · intro h
    unfold isMixture at h
    split at h
    · next experts size hsplit =>
      rw [Bool.and_eq_true, isDigits_iff, isDense_iff] at h
      refine ⟨experts, h.1, ?_⟩
      rw [eq_of_splitOn_pair hsplit, List.append_cons experts 'x' size]
      exact h.2.append
    · cases h
  · rintro ⟨experts, hexperts, h⟩
    obtain ⟨size, rfl, hsize⟩ := h.split
    have hno : 'x' ∉ size := by
      intro hx
      rcases hsize.mem hx with h | h | h
      · exact absurd h (by decide)
      · exact absurd h (by decide)
      · exact absurd h (by decide)
    rw [isMixture, ← List.append_cons, splitOn_pair (hexperts.not_mem (by decide)) hno]
    dsimp only
    rw [isDigits_iff.mpr hexperts, isDense_iff.mpr hsize]
    rfl

theorem isVersionToken_iff : isVersionToken token = true ↔
    ∃ numbers : List (List Char), numbers ≠ [] ∧ (∀ number ∈ numbers, Digits number) ∧
      dropV token = ['.'].intercalate numbers := by
  rw [isVersionToken, List.all_eq_true]
  constructor
  · intro h
    exact ⟨_, List.splitOn_ne_nil _ _, fun number hnumber => isDigits_iff.mp (h number hnumber),
      (List.intercalate_splitOn '.').symm⟩
  · rintro ⟨numbers, hne, hnumbers, heq⟩ number hnumber
    rw [heq, List.splitOn_intercalate '.' (fun number hnumber => (hnumbers number hnumber).not_mem (by decide))
      hne] at hnumber
    exact isDigits_iff.mpr (hnumbers number hnumber)

theorem dropV_cases (token : List Char) : token = dropV token ∨ token = 'v' :: dropV token := by
  unfold dropV
  split
  · exact .inr rfl
  · exact .inl rfl

theorem version_of_digits (h : Digits s) : isVersionToken s = true := by
  have hdrop : dropV s = s := by
    unfold dropV
    split
    · exact absurd List.mem_cons_self (h.not_mem (c := 'v') (by decide))
    · rfl
  refine isVersionToken_iff.mpr ⟨[s], List.cons_ne_nil _ _, ?_, ?_⟩
  · exact fun number hnumber => List.mem_singleton.mp hnumber ▸ h
  · rw [hdrop, List.intercalate_singleton]

theorem version_of_v (h : Digits s) : isVersionToken ('v' :: s) = true := by
  refine isVersionToken_iff.mpr ⟨[s], List.cons_ne_nil _ _, ?_, ?_⟩
  · exact fun number hnumber => List.mem_singleton.mp hnumber ▸ h
  · rw [List.intercalate_singleton]
    rfl

/-- The characters of a version. -/
theorem mem_version (h : isVersionToken token = true) (hc : c ∈ token) :
    c.isDigit = true ∨ c = '.' ∨ c = 'v' := by
  obtain ⟨numbers, -, hnumbers, heq⟩ := isVersionToken_iff.mp h
  have hmem : c = 'v' ∨ c ∈ dropV token := by
    rcases dropV_cases token with hsame | hsame
    · exact .inr (hsame ▸ hc)
    · rw [hsame] at hc
      exact List.mem_cons.mp hc
  rcases hmem with rfl | hmem
  · exact .inr (.inr rfl)
  · rw [heq] at hmem
    rcases mem_intercalate hmem with rfl | ⟨number, hnumber, hdigit⟩
    · exact .inr (.inl rfl)
    · exact .inl ((hnumbers number hnumber).all c hdigit)

end Patterns

/-! ## The pieces of an accepted token -/

/-- The tokens that do not distinguish a family. -/
def Accepted (token : List Char) : Prop :=
  isSizeToken token = true ∨ token ∈ familyVariantTokens ∨ isVersionToken token = true

/-- A decimal number in an active or a mixture size. -/
def DecimalMoE (token : List Char) : Prop := '.' ∈ token ∧ ('a' ∈ token ∨ 'x' ∈ token)

section Pieces

variable {c : Char} {s start token digits decimals : List Char}

theorem isKept_eq_false : isKept token = false ↔ Accepted token := by
  rw [isKept, Accepted]
  cases isSizeToken token <;> cases isVersionToken token <;> simp

theorem not_separator (h : c.isDigit = true) : isSeparator c = false := by
  refine Bool.eq_false_iff.mpr fun hsep => ?_
  have hcases : c = '-' ∨ c = '_' ∨ c = '.' := by simpa [isSeparator] using hsep
  rcases hcases with rfl | rfl | rfl
  · exact absurd h (by decide)
  · exact absurd h (by decide)
  · exact absurd h (by decide)

theorem Sized.getLast (h : Sized start token) : token.getLast? = some 'b' := by
  cases h with
  | whole h => exact List.getLast?_concat
  | fraction h h' => rw [← List.cons_append, ← List.append_assoc, List.getLast?_concat]

theorem sized_of_isSizeToken (h : isSizeToken token = true) :
    Sized [] token ∨ Sized ['a'] token ∨ ∃ experts, Digits experts ∧ Sized (experts ++ ['x']) token := by
  rwa [isSizeToken, Bool.or_eq_true, Bool.or_eq_true, isDense_iff, isActive_iff, isMixture_iff, or_assoc] at h

theorem getLast_of_isSizeToken (h : isSizeToken token = true) : token.getLast? = some 'b' := by
  rcases sized_of_isSizeToken h with h | h | ⟨experts, -, h⟩
  · exact h.getLast
  · exact h.getLast
  · exact h.getLast

/-- **What is left of a decimal size after the split is kept.** -/
theorem not_accepted (h : Digits digits) (hmark : 'a' ∈ start ∨ 'x' ∈ start) : ¬Accepted (start ++ digits) := by
  obtain ⟨last, hlast⟩ : ∃ last, digits.getLast? = some last :=
    ⟨_, List.getLast?_eq_some_getLast h.ne⟩
  have hdigit : last.isDigit = true := h.all last (List.mem_of_getLast? hlast)
  have hend : (start ++ digits).getLast? = some last := by rw [List.getLast?_append, hlast]; rfl
  have hmark' : 'a' ∈ start ++ digits ∨ 'x' ∈ start ++ digits :=
    hmark.imp (List.mem_append_left _) (List.mem_append_left _)
  rintro (hsize | hvariant | hversion)
  · rw [getLast_of_isSizeToken hsize] at hend
    cases hend
    exact absurd hdigit (by decide)
  · have hnone : ∀ variant ∈ familyVariantTokens, 'a' ∈ variant ∨ 'x' ∈ variant →
        variant.getLast?.any Char.isDigit = false := by decide
    have hany := hnone _ hvariant hmark'
    rw [hend, Option.any_some, hdigit] at hany
    cases hany
  · rcases hmark' with hmem | hmem
    · rcases mem_version hversion hmem with h | h | h
      · exact absurd h (by decide)
      · exact absurd h (by decide)
      · exact absurd h (by decide)
    · rcases mem_version hversion hmem with h | h | h
      · exact absurd h (by decide)
      · exact absurd h (by decide)
      · exact absurd h (by decide)

/-- A size is one piece, or two where it has a decimal point. -/
theorem tokens_sized (hstart : ∀ c ∈ start, isSeparator c = false) (h : Sized start token) :
    (tokensBy isSeparator token = [token] ∧ '.' ∉ token) ∨
      ∃ digits decimals, tokensBy isSeparator token = [start ++ digits, decimals ++ ['b']] ∧ '.' ∈ token ∧
        Digits digits ∧ Digits decimals := by
  cases h with
  | @whole digits h =>
    have hno : ∀ c ∈ start ++ digits ++ ['b'], isSeparator c = false := by
      intro c hc
      rw [List.mem_append, List.mem_append, List.mem_singleton] at hc
      rcases hc with (hc | hc) | rfl
      · exact hstart c hc
      · exact not_separator (h.all c hc)
      · decide
    refine .inl ⟨tokensBy_plain (List.append_ne_nil_of_right_ne_nil _ (List.cons_ne_nil _ _)) hno, fun hdot => ?_⟩
    exact absurd (hno '.' hdot) (by decide)
  | @fraction digits decimals h h' =>
    refine .inr ⟨digits, decimals, ?_, List.mem_append_right _ List.mem_cons_self, h, h'⟩
    rw [tokensBy_append_cons (by decide), tokensBy_plain, tokensBy_plain]
    · rfl
    · exact List.append_ne_nil_of_right_ne_nil _ (List.cons_ne_nil _ _)
    · intro c hc
      rcases List.mem_append.mp hc with hc | hc
      · exact not_separator (h'.all c hc)
      · rw [List.mem_singleton.mp hc]
        decide
    · exact List.append_ne_nil_of_right_ne_nil _ h.ne
    · intro c hc
      rcases List.mem_append.mp hc with hc | hc
      · exact hstart c hc
      · exact not_separator (h.all c hc)

theorem tokens_version (h : isVersionToken token = true) :
    ∀ piece ∈ tokensBy isSeparator token, Accepted piece := by
  obtain ⟨numbers, hne, hnumbers, heq⟩ := isVersionToken_iff.mp h
  have hplain : ∀ number ∈ numbers, number ≠ [] ∧ ∀ c ∈ number, isSeparator c = false :=
    fun number hnumber => ⟨(hnumbers number hnumber).ne, fun c hc => not_separator ((hnumbers number hnumber).all c hc)⟩
  have hversion : ∀ number ∈ numbers, Accepted number :=
    fun number hnumber => .inr (.inr (version_of_digits (hnumbers number hnumber)))
  rcases dropV_cases token with hsame | hsame
  · rw [hsame, heq, tokensBy_intercalate (by decide) hplain]
    exact hversion
  · -- the mark is a part of the first number
    obtain ⟨first, rest, rfl⟩ := List.exists_cons_of_ne_nil hne
    have hfirst : Digits first := hnumbers first List.mem_cons_self
    have htoken : token = ['.'].intercalate (('v' :: first) :: rest) := by
      rw [hsame, heq]
      cases rest with
      | nil => rw [List.intercalate_singleton, List.intercalate_singleton]
      | cons second rest => rw [List.intercalate_cons_cons, List.intercalate_cons_cons]; rfl
    rw [htoken, tokensBy_intercalate (by decide)]
    · refine List.forall_mem_cons.mpr ⟨.inr (.inr (version_of_v hfirst)), ?_⟩
      exact fun number hnumber => hversion number (List.mem_cons_of_mem _ hnumber)
    · refine List.forall_mem_cons.mpr ⟨⟨List.cons_ne_nil _ _, ?_⟩, (List.forall_mem_cons.mp hplain).2⟩
      refine List.forall_mem_cons.mpr ⟨by decide, ?_⟩
      exact fun c hc => not_separator (hfirst.all c hc)

theorem dense_of_digits (h : Digits digits) : Accepted (digits ++ ['b']) := by
  have hsize : isDense (digits ++ ['b']) = true := isDense_iff.mpr (.whole h)
  left
  rw [isSizeToken, hsize, Bool.true_or, Bool.true_or]

/-- A dense size is dropped, with or without a decimal point. -/
theorem tokens_dense (h : Sized [] token) :
    (∀ piece ∈ tokensBy isSeparator token, Accepted piece) ∧ ¬DecimalMoE token := by
  have hnil : ∀ c ∈ ([] : List Char), isSeparator c = false := nofun
  constructor
  · rcases tokens_sized hnil h with ⟨htokens, -⟩ | ⟨digits, decimals, htokens, -, h', h''⟩
    · rw [htokens]
      refine List.forall_mem_singleton.mpr (.inl ?_)
      rw [isSizeToken, isDense_iff.mpr h, Bool.true_or, Bool.true_or]
    · rw [htokens]
      refine List.forall_mem_cons.mpr ⟨.inr (.inr (version_of_digits h')), ?_⟩
      exact List.forall_mem_singleton.mpr (dense_of_digits h'')
  · rintro ⟨-, hmem | hmem⟩
    · rcases h.mem hmem with h | h | h <;> exact absurd h (by decide)
    · rcases h.mem hmem with h | h | h <;> exact absurd h (by decide)

/-- An active or a mixture size is dropped unless it has a decimal point. -/
theorem tokens_marked (hstart : ∀ c ∈ start, isSeparator c = false) (hmark : 'a' ∈ start ∨ 'x' ∈ start)
    (hsize : isSizeToken token = true) (h : Sized start token) :
    (∀ piece ∈ tokensBy isSeparator token, Accepted piece) ↔ ¬DecimalMoE token := by
  rcases tokens_sized hstart h with ⟨htokens, hdot⟩ | ⟨digits, decimals, htokens, hdot, h', -⟩
  · rw [htokens]
    exact iff_of_true (List.forall_mem_singleton.mpr (.inl hsize)) fun hdecimal => hdot hdecimal.1
  · rw [htokens]
    refine iff_of_false (fun hall => ?_) (not_not.mpr ⟨hdot, ?_⟩)
    · exact not_accepted h' hmark (hall _ List.mem_cons_self)
    · obtain ⟨size, rfl, -⟩ := h.split
      exact hmark.imp (List.mem_append_left _) (List.mem_append_left _)

/-- **The accepted tokens whose pieces are all dropped.** -/
theorem pieces_accepted_iff (h : Accepted token) :
    (∀ piece ∈ tokensBy isSeparator token, Accepted piece) ↔ ¬DecimalMoE token := by
  rcases h with hsize | hvariant | hversion
  · rcases sized_of_isSizeToken hsize with h | h | ⟨experts, hexperts, h⟩
    · exact iff_of_true (tokens_dense h).1 (tokens_dense h).2
    · exact tokens_marked (List.forall_mem_singleton.mpr (by decide)) (.inl List.mem_cons_self) hsize h
    · refine tokens_marked ?_ (.inr (List.mem_append_right _ List.mem_cons_self)) hsize h
      intro c hc
      rcases List.mem_append.mp hc with hc | hc
      · exact not_separator (hexperts.all c hc)
      · rw [List.mem_singleton.mp hc]
        decide
  · have hone : ∀ variant ∈ familyVariantTokens, tokensBy isSeparator variant = [variant] ∧ '.' ∉ variant := by
      decide
    obtain ⟨htokens, hdot⟩ := hone token hvariant
    rw [htokens]
    exact iff_of_true (List.forall_mem_singleton.mpr (.inr (.inl hvariant))) fun hdecimal => hdot hdecimal.1
  · refine iff_of_true (tokens_version hversion) ?_
    rintro ⟨-, hmem | hmem⟩
    · rcases mem_version hversion hmem with h | h | h <;> exact absurd h (by decide)
    · rcases mem_version hversion hmem with h | h | h <;> exact absurd h (by decide)

theorem plain_of_digit (h : c.isDigit = true) : Plain c := by
  have hlt : c.toNat < 128 := by
    rw [Char.isDigit, Bool.and_eq_true, decide_eq_true_eq, decide_eq_true_eq] at h
    have hle : c.toNat ≤ 57 := h.2
    omega
  refine forall_ascii (P := fun c => c.isDigit = true → Plain c) ?_ hlt h
  decide

/-- Accepted tokens are in lower case. -/
theorem plain_of_accepted (h : Accepted token) : ∀ c ∈ token, Plain c := by
  have hsized : ∀ start : List Char, (∀ c ∈ start, Plain c) → Sized start token → ∀ c ∈ token, Plain c := by
    intro start hstart h c hc
    obtain ⟨size, rfl, hsize⟩ := h.split
    rcases List.mem_append.mp hc with hc | hc
    · exact hstart c hc
    · rcases hsize.mem hc with h | rfl | rfl
      · exact plain_of_digit h
      · decide
      · decide
  rcases h with hsize | hvariant | hversion
  · rcases sized_of_isSizeToken hsize with h | h | ⟨experts, hexperts, h⟩
    · exact hsized [] (fun c hc => nomatch hc) h
    · exact hsized ['a'] (List.forall_mem_singleton.mpr (by decide)) h
    · refine hsized _ ?_ h
      intro c hc
      rcases List.mem_append.mp hc with hc | hc
      · exact plain_of_digit (hexperts.all c hc)
      · rw [List.mem_singleton.mp hc]
        decide
  · have hall : ∀ variant ∈ familyVariantTokens, variant.all (fun c => decide (Plain c)) = true := by decide
    exact fun c hc => of_decide_eq_true (List.all_eq_true.mp (hall token hvariant) c hc)
  · intro c hc
    rcases mem_version hversion hc with h | rfl | rfl
    · exact plain_of_digit h
    · decide
    · decide

end Pieces

/-! ## The family of an id -/

/-- The text of a family. -/
def familyText (org : List Char) (kept : List (List Char)) : List Char :=
  if org = [] then ['-'].intercalate kept else org ++ '/' :: ['-'].intercalate kept

/-- The tokens of a name in lower case. -/
def nameTokens (name : List Char) : List (List Char) := tokensBy isSeparator (lowerChars name)

section Derived

variable {id : String} {org name token : List Char} {tokens tokens' : List (List Char)} {c : Char}

theorem stripSeries_ne_nil (h : token ≠ []) : stripSeries token ≠ [] := by
  unfold stripSeries
  split_ifs with hnil
  · exact h
  · exact hnil

theorem stripSeries_stripSeries : stripSeries (stripSeries token) = stripSeries token := by
  unfold stripSeries
  split_ifs with hnil hagain
  · rfl
  · rfl
  · exact List.rdropWhile_idempotent _ _

theorem mem_of_stripSeries (h : c ∈ stripSeries token) : c ∈ token := by
  unfold stripSeries at h
  split_ifs at h
  · exact h
  · exact (List.rdropWhile_prefix _ _).subset h

theorem keptTokens_keptTokens : keptTokens (keptTokens tokens) = keptTokens tokens := by
  cases tokens with
  | nil => rfl
  | cons first rest =>
    rw [keptTokens, keptTokens, stripSeries_stripSeries, List.filter_filter]
    simp only [Bool.and_self]

theorem keptTokens_append (hne : tokens ≠ []) :
    keptTokens (tokens ++ tokens') = keptTokens tokens ++ tokens'.filter isKept := by
  obtain ⟨first, rest, rfl⟩ := List.exists_cons_of_ne_nil hne
  rw [List.cons_append, keptTokens, keptTokens, List.filter_append, List.cons_append]

theorem keptTokens_ne_nil (hne : tokens ≠ []) : keptTokens tokens ≠ [] := by
  obtain ⟨first, rest, rfl⟩ := List.exists_cons_of_ne_nil hne
  exact List.cons_ne_nil _ _

/-- What is kept of tokens is nonempty, and its characters are theirs. -/
theorem mem_keptTokens (h : ∀ token ∈ tokens, token ≠ []) (htoken : token ∈ keptTokens tokens) :
    token ≠ [] ∧ ∀ c ∈ token, ∃ token' ∈ tokens, c ∈ token' := by
  cases tokens with
  | nil => cases htoken
  | cons first rest =>
    rcases List.mem_cons.mp htoken with rfl | hrest
    · refine ⟨stripSeries_ne_nil (h first List.mem_cons_self), fun c hc => ?_⟩
      exact ⟨first, List.mem_cons_self, mem_of_stripSeries hc⟩
    · have hmem : token ∈ first :: rest := List.mem_cons_of_mem _ (List.mem_filter.mp hrest).1
      exact ⟨h token hmem, fun c hc => ⟨token, hmem, hc⟩⟩

theorem intercalate_ne_nil {sep : Char} (hne : tokens ≠ []) (h : ∀ token ∈ tokens, token ≠ []) :
    [sep].intercalate tokens ≠ [] := by
  obtain ⟨first, rest, rfl⟩ := List.exists_cons_of_ne_nil hne
  have hfirst := h first List.mem_cons_self
  cases rest with
  | nil => rwa [List.intercalate_singleton]
  | cons second rest =>
    rw [List.intercalate_cons_cons, List.append_assoc]
    exact List.append_ne_nil_of_left_ne_nil hfirst _

/-- **The family of an id**, by its parts. -/
theorem derive_eq (hsplit : splitModelId id.toList = (org, name)) (hne : nameTokens name ≠ []) :
    deriveModelFamily id = String.ofList (familyText (lowerChars org) (keptTokens (nameTokens name))) := by
  have hjoined : ['-'].intercalate (keptTokens (tokensBy isSeparator (lowerChars name))) ≠ [] := by
    refine intercalate_ne_nil (keptTokens_ne_nil hne) fun token htoken => ?_
    exact (mem_keptTokens (fun token htoken => ne_nil_of_tokensBy htoken) htoken).1
  rw [deriveModelFamily, hsplit]
  dsimp only
  rw [if_neg hjoined]
  rfl

theorem splitModelId_append (h : '/' ∉ org) : splitModelId (org ++ '/' :: name) = (org, name) := by
  have hall : ∀ c ∈ org, decide (c ≠ '/') = true := fun c hc => decide_eq_true fun heq => h (heq ▸ hc)
  rw [splitModelId, if_pos (List.mem_append_right _ List.mem_cons_self),
    List.takeWhile_append_of_pos hall, List.takeWhile_cons_of_neg (by simp), List.append_nil,
    List.dropWhile_append_of_pos hall, List.dropWhile_cons_of_neg (by simp), List.tail_cons]

theorem splitModelId_of_not_mem (h : '/' ∉ name) : splitModelId name = ([], name) := if_neg h

theorem splitModelId_familyText (horg : '/' ∉ org) (hname : '/' ∉ ['-'].intercalate tokens) :
    splitModelId (familyText org tokens) = (org, ['-'].intercalate tokens) := by
  unfold familyText
  split_ifs with hnil
  · rw [hnil, splitModelId_of_not_mem hname]
  · exact splitModelId_append horg

/-- The parts of an id with one slash. -/
theorem parts_of_count {s : List Char} (h : s.count '/' = 1) :
    ∃ org name, s = org ++ '/' :: name ∧ '/' ∉ org ∧ '/' ∉ name := by
  obtain ⟨org, name, rfl⟩ := List.append_of_mem (List.count_pos_iff.mp (h ▸ Nat.one_pos))
  rw [List.count_append, List.count_cons_self] at h
  exact ⟨org, name, rfl, List.count_eq_zero.mp (by omega), List.count_eq_zero.mp (by omega)⟩

theorem lowerChars_append {s : List Char} (hs : ∀ c ∈ s, c.toNat < 128) (htoken : ∀ c ∈ token, Plain c) :
    lowerChars (s ++ '-' :: token) = lowerChars s ++ '-' :: token := by
  have hdash : ∀ c ∈ '-' :: token, Plain c := List.forall_mem_cons.mpr ⟨by decide, htoken⟩
  have hall : ∀ c ∈ s ++ '-' :: token, c.toNat < 128 := by
    intro c hc
    rcases List.mem_append.mp hc with hc | hc
    · exact hs c hc
    · exact (hdash c hc).1
  rw [lowerChars_eq hall, List.map_append, ← lowerChars_eq hs, ← lowerChars_eq fun c hc => (hdash c hc).1,
    lowerChars_plain hdash]

/-- The characters of an ASCII text in lower case. -/
theorem mem_lowerChars {s : List Char} (hs : ∀ c ∈ s, c.toNat < 128) (hslash : '/' ∉ s) (hc : c ∈ lowerChars s) :
    Plain c ∧ c ≠ '/' := by
  rw [lowerChars_eq hs] at hc
  obtain ⟨d, hd, rfl⟩ := List.mem_map.mp hc
  refine ⟨plain_toLower (hs d hd), ?_⟩
  refine forall_ascii (P := fun c => c ≠ '/' → c.toLower ≠ '/') (by decide) (hs d hd) ?_
  exact fun heq => hslash (heq ▸ hd)

theorem nameTokens_ne_nil (hname : ∀ c ∈ name, c.toNat < 128) (hc : c ∈ name) (hsep : isSeparator c = false) :
    nameTokens name ≠ [] := by
  have hlower : c.toLower ∈ lowerChars name := by
    rw [lowerChars_eq hname]
    exact List.mem_map_of_mem hc
  refine tokensBy_ne_nil hlower ?_
  exact forall_ascii (P := fun c => isSeparator c = false → isSeparator c.toLower = false) (by decide)
    (hname c hc) hsep

/-- The kept tokens of an ASCII name. -/
theorem mem_kept (hname : ∀ c ∈ name, c.toNat < 128) (hslash : '/' ∉ name)
    (htoken : token ∈ keptTokens (nameTokens name)) :
    token ≠ [] ∧ ∀ c ∈ token, isSeparator c = false ∧ Plain c ∧ c ≠ '/' := by
  obtain ⟨hne, hmem⟩ := mem_keptTokens (fun token htoken => ne_nil_of_tokensBy htoken) htoken
  refine ⟨hne, fun c hc => ?_⟩
  obtain ⟨token', htoken', hc'⟩ := hmem c hc
  obtain ⟨hlower, hsep⟩ := mem_of_tokensBy htoken' hc'
  exact ⟨hsep, mem_lowerChars hname hslash hlower⟩

theorem mem_join (hname : ∀ c ∈ name, c.toNat < 128) (hslash : '/' ∉ name)
    (hc : c ∈ ['-'].intercalate (keptTokens (nameTokens name))) : Plain c ∧ c ≠ '/' := by
  rcases mem_intercalate hc with rfl | ⟨token, htoken, hc⟩
  · decide
  · exact ((mem_kept hname hslash htoken).2 c hc).2

/-- **Deriving the family of a family.** -/
theorem derive_derive (hsplit : splitModelId id.toList = (org, name)) (hne : nameTokens name ≠ [])
    (horg : ∀ c ∈ org, c.toNat < 128) (hname : ∀ c ∈ name, c.toNat < 128) (hslash : '/' ∉ org)
    (hslash' : '/' ∉ name) :
    deriveModelFamily (deriveModelFamily id) = deriveModelFamily id := by
  let kept := keptTokens (nameTokens name)
  have hjoin : '/' ∉ ['-'].intercalate kept := fun hmem => (mem_join hname hslash' hmem).2 rfl
  have hlower : '/' ∉ lowerChars org := fun hmem => (mem_lowerChars horg hslash hmem).2 rfl
  have hagain : nameTokens (['-'].intercalate kept) = kept := by
    rw [nameTokens, lowerChars_plain fun c hc => (mem_join hname hslash' hc).1]
    refine tokensBy_intercalate (by decide) fun token htoken => ?_
    obtain ⟨hne, hmem⟩ := mem_kept hname hslash' htoken
    exact ⟨hne, fun c hc => (hmem c hc).1⟩
  have hfamily : splitModelId (String.ofList (familyText (lowerChars org) kept)).toList =
      (lowerChars org, ['-'].intercalate kept) := by
    rw [String.toList_ofList]
    exact splitModelId_familyText hlower hjoin
  have hne' : nameTokens (['-'].intercalate kept) ≠ [] := by
    rw [hagain]
    exact keptTokens_ne_nil hne
  rw [derive_eq hsplit hne, derive_eq hfamily hne', hagain, keptTokens_keptTokens,
    lowerChars_plain fun c hc => (mem_lowerChars horg hslash hc).1]

/-- What a token appended to an id adds to the family. -/
theorem derive_append (hsplit : splitModelId id.toList = (org, name)) (hid : id.toList = org ++ '/' :: name)
    (hne : nameTokens name ≠ []) (hname : ∀ c ∈ name, c.toNat < 128) (hslash : '/' ∉ org) {t : String}
    (ht : ∀ c ∈ t.toList, Plain c) : deriveModelFamily (id ++ "-" ++ t) = deriveModelFamily id ↔
      (tokensBy isSeparator t.toList).filter isKept = [] := by
  have htext : (id ++ "-" ++ t).toList = org ++ '/' :: (name ++ '-' :: t.toList) := by
    rw [String.toList_append, String.toList_append, hid]
    simp
  have hsplit' : splitModelId (id ++ "-" ++ t).toList = (org, name ++ '-' :: t.toList) := by
    rw [htext, splitModelId_append hslash]
  have htokens : nameTokens (name ++ '-' :: t.toList) = nameTokens name ++ tokensBy isSeparator t.toList := by
    rw [nameTokens, lowerChars_append hname ht, tokensBy_append_cons (by decide)]
    rfl
  have hne' : nameTokens (name ++ '-' :: t.toList) ≠ [] := by
    rw [htokens]
    exact List.append_ne_nil_of_left_ne_nil hne _
  rw [derive_eq hsplit hne, derive_eq hsplit' hne', htokens, keptTokens_append hne]
  constructor
  · intro h
    by_contra hextra
    have hlength := congrArg (fun text : String => text.toList.length) h
    have hlt := length_intercalate_append '-' (keptTokens_ne_nil hne) hextra
    simp only [String.toList_ofList, familyText] at hlength
    split_ifs at hlength
    · omega
    · rw [List.length_append, List.length_append, List.length_cons, List.length_cons] at hlength
      omega
  · intro h
    rw [h, List.append_nil]

end Derived

/-- **The family of an id is stable** under deriving it again, and under an appended token of the three
patterns exactly when the token is no active or mixture size with a decimal point. -/
theorem family_stable (id : String) (hascii : ∀ c ∈ id.toList, c.toNat < 128) (hslash : id.toList.count '/' = 1)
    (hname : ∃ c ∈ (splitModelId id.toList).2, isSeparator c = false) :
    deriveModelFamily (deriveModelFamily id) = deriveModelFamily id ∧
      ∀ t : String, Accepted t.toList →
        (deriveModelFamily (id ++ "-" ++ t) = deriveModelFamily id ↔ ¬DecimalMoE t.toList) := by
  obtain ⟨org, name, hid, hslash, hslash'⟩ := parts_of_count hslash
  have hsplit : splitModelId id.toList = (org, name) := by rw [hid, splitModelId_append hslash]
  obtain ⟨c, hc, hsep⟩ := hname
  rw [hsplit] at hc
  have horg : ∀ c ∈ org, c.toNat < 128 := fun c hc => hascii c (hid ▸ List.mem_append_left _ hc)
  have hascii' : ∀ c ∈ name, c.toNat < 128 :=
    fun c hc => hascii c (hid ▸ List.mem_append_right _ (List.mem_cons_of_mem _ hc))
  have hne := nameTokens_ne_nil hascii' hc hsep
  refine ⟨derive_derive hsplit hne horg hascii' hslash hslash', fun t ht => ?_⟩
  rw [derive_append hsplit hid hne hascii' hslash (plain_of_accepted ht), List.filter_eq_nil_iff,
    ← pieces_accepted_iff ht]
  refine forall₂_congr fun piece _ => ?_
  rw [Bool.not_eq_true, isKept_eq_false]

theorem ascii_of_all {text : String} (h : (text.toList.all fun c => c.toNat < 128) = true) :
    ∀ c ∈ text.toList, c.toNat < 128 := fun c hc => of_decide_eq_true (List.all_eq_true.mp h c hc)

/-- The active size of `Qwen3-30B-A3B` leaves its family. -/
theorem family_of_active : deriveModelFamily ("Qwen/Qwen3-30B" ++ "-" ++ "a3b") = deriveModelFamily "Qwen/Qwen3-30B" := by
  have h := family_stable "Qwen/Qwen3-30B" (ascii_of_all (by decide)) (by decide) ⟨'Q', by decide, by decide⟩
  exact (h.2 "a3b" (.inl (by decide))).mpr fun hdecimal => absurd hdecimal.1 (by decide)

/-- An active size with a decimal point leaves a token of its own. -/
theorem family_of_decimal_active : ¬ ∀ id : String, (∀ c ∈ id.toList, c.toNat < 128) → id.toList.count '/' = 1 →
    (∃ c ∈ (splitModelId id.toList).2, isSeparator c = false) → ∀ t : String, Accepted t.toList →
      deriveModelFamily (id ++ "-" ++ t) = deriveModelFamily id := by
  intro h
  have heq := h "Qwen/Qwen3-30B" (ascii_of_all (by decide)) (by decide) ⟨'Q', by decide, by decide⟩ "a3.5b"
    (.inl (by decide))
  revert heq
  decide

end Benchmarker.Discovery
