import Benchmarker.Js.Map
import Benchmarker.Js.Units

/-!
# JSON texts

The texts of a JSON value, as the grammar of JSON has them: `JsonText number t v` is what `JSON.parse(t)` returns.
What number a token stands for is a parameter.

* `JsonValue`, `Spells`, `Denotes`, `JsonText`: values, the inside of a string, the grammar.
* `Quote`, `scan`: a scanner that knows no more than where strings begin and end.
* **`scan_denotes`**: it ends outside of every string, and meets backticks only inside. **`firm_value`**: where a
  value begins and ends.
-/

namespace Js

open Pattern

inductive JsonValue (N : Type)
  | null
  | bool (b : Bool)
  | num (n : N)
  | str (s : Units)
  | arr (items : List (JsonValue N))
  /-- A later member of the same name stands in the place of an earlier one. -/
  | obj (members : List (Units × JsonValue N))

/-! ## Grammar -/

/-- White space of JSON: space, tab, line feed, carriage return. -/
def Blank (w : Units) : Prop := ∀ c ∈ w, c ∈ [0x20, 0x09, 0x0a, 0x0d]

theorem blank_nil : Blank [] := nofun

/-- The code unit that a letter behind a backslash stands for. -/
def escaped (e : UInt16) : Option UInt16 :=
  JsMap.get [(0x22, 0x22), (0x5c, 0x5c), (0x2f, 0x2f), (0x62, 0x08), (0x66, 0x0c), (0x6e, 0x0a), (0x72, 0x0d),
    (0x74, 0x09)] e

def isHexDigit (c : UInt16) : Bool :=
  isDigitUnit c || (0x41 ≤ c.toNat && c.toNat ≤ 0x46) || (0x61 ≤ c.toNat && c.toNat ≤ 0x66)

def hexValue (c : UInt16) : ℕ :=
  if isDigitUnit c then c.toNat - 0x30 else if c.toNat ≤ 0x46 then c.toNat - 0x37 else c.toNat - 0x57

/-- The inside of a string, and the string. -/
inductive Spells : Units → Units → Prop
  | nil : Spells [] []
  | plain {c : UInt16} {raw s : Units} (hc : 0x20 ≤ c.toNat) (hquote : c ≠ 0x22) (hback : c ≠ 0x5c)
      (h : Spells raw s) : Spells (c :: raw) (c :: s)
  | escape {e c : UInt16} {raw s : Units} (he : escaped e = some c) (h : Spells raw s) :
      Spells (0x5c :: e :: raw) (c :: s)
  | unicode {digits raw s : Units} (hlength : digits.length = 4) (hdigits : ∀ d ∈ digits, isHexDigit d = true)
      (h : Spells raw s) : Spells (0x5c :: 0x75 :: (digits ++ raw))
        (UInt16.ofNat (digits.foldl (fun n d => 16 * n + hexValue d) 0) :: s)

/-- `-?(0|[1-9]\d*)(\.\d+)?([eE][+-]?\d+)?` -/
def jsonNumber : Pattern UInt16 :=
  seq (opt (lit [0x2d])) <|
    seq (alt (lit [0x30]) (seq (chr fun c => isDigitUnit c && c ≠ 0x30) (many isDigitUnit))) <|
      seq (opt (seq (lit [0x2e]) (plus isDigitUnit))) <|
        opt (seq (chr fun c => c = 0x65 || c = 0x45)
          (seq (opt (chr fun c => c = 0x2b || c = 0x2d)) (plus isDigitUnit)))

/-- What a text is read as. -/
inductive JsonItem (N : Type)
  | value (v : JsonValue N)
  /-- A value with white space around it. -/
  | element (v : JsonValue N)
  | elements (vs : List (JsonValue N))
  | member (key : Units) (v : JsonValue N)
  | members (ms : JsMap Units (JsonValue N))

variable {N : Type}

inductive Denotes (number : Units → N) : Units → JsonItem N → Prop
  | null : Denotes number (units "null") (.value .null)
  | true : Denotes number (units "true") (.value (.bool true))
  | false : Denotes number (units "false") (.value (.bool false))
  | num {t : Units} (h : [] ∈ jsonNumber.ends t) : Denotes number t (.value (.num (number t)))
  | str {raw s : Units} (h : Spells raw s) : Denotes number (0x22 :: (raw ++ [0x22])) (.value (.str s))
  | emptyArr {w : Units} (h : Blank w) : Denotes number (0x5b :: (w ++ [0x5d])) (.value (.arr []))
  | arr {t : Units} {vs : List (JsonValue N)} (h : Denotes number t (.elements vs)) :
      Denotes number (0x5b :: (t ++ [0x5d])) (.value (.arr vs))
  | emptyObj {w : Units} (h : Blank w) : Denotes number (0x7b :: (w ++ [0x7d])) (.value (.obj []))
  | obj {t : Units} {ms : JsMap Units (JsonValue N)} (h : Denotes number t (.members ms)) :
      Denotes number (0x7b :: (t ++ [0x7d])) (.value (.obj (JsMap.assign [] ms)))
  | element {w t w' : Units} {v : JsonValue N} (hw : Blank w) (h : Denotes number t (.value v)) (hw' : Blank w') :
      Denotes number (w ++ (t ++ w')) (.element v)
  | lastElement {t : Units} {v : JsonValue N} (h : Denotes number t (.element v)) :
      Denotes number t (.elements [v])
  | elements {t t' : Units} {v : JsonValue N} {vs : List (JsonValue N)} (h : Denotes number t (.element v))
      (h' : Denotes number t' (.elements vs)) : Denotes number (t ++ 0x2c :: t') (.elements (v :: vs))
  | member {w raw key w' t : Units} {v : JsonValue N} (hw : Blank w) (hkey : Spells raw key) (hw' : Blank w')
      (h : Denotes number t (.element v)) :
      Denotes number (w ++ 0x22 :: (raw ++ 0x22 :: (w' ++ 0x3a :: t))) (.member key v)
  | lastMember {t key : Units} {v : JsonValue N} (h : Denotes number t (.member key v)) :
      Denotes number t (.members [(key, v)])
  | members {t t' key : Units} {v : JsonValue N} {ms : JsMap Units (JsonValue N)}
      (h : Denotes number t (.member key v)) (h' : Denotes number t' (.members ms)) :
      Denotes number (t ++ 0x2c :: t') (.members ((key, v) :: ms))

/-- `JSON.parse(t)` returns `v`. -/
def JsonText (number : Units → N) (t : Units) (v : JsonValue N) : Prop := Denotes number t (.element v)

/-! ## Quotes -/

/-- Where a scanner is. -/
inductive Quote
  | outside | inside | behindBackslash
  deriving DecidableEq

/-- No backtick is passed outside of a string or behind a backslash. -/
def Quote.step : Quote → UInt16 → Option Quote
  | outside, c => if c = 0x22 then some inside else if c = 0x60 then none else some outside
  | inside, c => if c = 0x22 then some outside else if c = 0x5c then some behindBackslash else some inside
  | behindBackslash, c => if c = 0x60 then none else some inside

def scan (q : Quote) (t : Units) : Option Quote := t.foldlM Quote.step q

section Scan

variable {number : Units → N} {t t' raw s w : Units} {q q' : Quote} {c : UInt16} {item : JsonItem N}
  {v : JsonValue N}

theorem scan_cons : scan q (c :: t) = (q.step c).bind fun q' => scan q' t := rfl

theorem scan_append : scan q (t ++ t') = (scan q t).bind fun q' => scan q' t' := List.foldlM_append

/-- A text without quotes, backticks and backslashes changes nothing. -/
theorem scan_plain (hq : q ≠ .behindBackslash) (h : ∀ c ∈ t, c ≠ 0x22 ∧ c ≠ 0x60 ∧ c ≠ 0x5c) :
    scan q t = some q := by
  induction t with
  | nil => rfl
  | cons c t ih =>
    obtain ⟨hquote, htick, hback⟩ := h c List.mem_cons_self
    have hstep : q.step c = some q := by
      cases q with
      | outside => rw [Quote.step, if_neg hquote, if_neg htick]
      | inside => rw [Quote.step, if_neg hquote, if_neg hback]
      | behindBackslash => exact absurd rfl hq
    rw [scan_cons, hstep]
    exact ih fun d hd => h d (List.mem_cons_of_mem c hd)

theorem blank_plain (h : Blank w) : ∀ c ∈ w, c ≠ 0x22 ∧ c ≠ 0x60 ∧ c ≠ 0x5c := by
  intro c hc
  have hmem := h c hc
  revert hmem
  simp only [List.mem_cons, List.not_mem_nil, or_false]
  rintro (rfl | rfl | rfl | rfl) <;> decide

theorem isHexDigit_plain (h : isHexDigit c = true) : c ≠ 0x22 ∧ c ≠ 0x60 ∧ c ≠ 0x5c := by
  refine ⟨?_, ?_, ?_⟩ <;> rintro rfl <;> revert h <;> decide

theorem scan_backslash (hc : c ≠ 0x60) : scan .inside (0x5c :: c :: t) = scan .inside t := by
  have hstep : Quote.step .behindBackslash c = some .inside := by rw [Quote.step, if_neg hc]
  rw [scan_cons]
  show (Quote.step .behindBackslash c).bind (fun q => scan q t) = _
  rw [hstep]
  rfl

/-- The inside of a string stays inside. -/
theorem scan_spells (h : Spells raw s) : scan .inside raw = some .inside := by
  induction h with
  | nil => rfl
  | plain hc hquote hback h ih => rw [scan_cons, Quote.step, if_neg hquote, if_neg hback, Option.bind_some, ih]
  | @escape e c raw s he h ih =>
    have htick : e ≠ 0x60 := by
      have hnone : escaped 0x60 = none := by decide
      rintro rfl
      rw [hnone] at he
      cases he
    rw [scan_backslash htick, ih]
  | @unicode digits raw s hlength hdigits h ih =>
    have hscan : scan .inside digits = some .inside :=
      scan_plain nofun fun d hd => isHexDigit_plain (hdigits d hd)
    rw [scan_backslash (by decide), scan_append, hscan, Option.bind_some, ih]

/-- A string, between its quotes. -/
theorem scan_quoted (h : Spells raw s) : scan .outside (0x22 :: (raw ++ 0x22 :: t)) = scan .outside t := by
  rw [scan_cons]
  show scan .inside (raw ++ 0x22 :: t) = _
  rw [scan_append, scan_spells h]
  rfl

/-- The characters of a number. -/
theorem number_chars (h : [] ∈ jsonNumber.ends t) :
    ∀ c ∈ t, isDigitUnit c = true ∨ c ∈ [0x2b, 0x2d, 0x2e, 0x45, 0x65] := by
  have hwithin : jsonNumber.Within fun c => isDigitUnit c = true ∨ c ∈ [0x2b, 0x2d, 0x2e, 0x45, 0x65] := by
    simp only [jsonNumber, Within, opt, plus, lit, List.foldr, Bool.and_eq_true, Bool.or_eq_true, decide_eq_true_eq]
    have hzero : isDigitUnit 0x30 = true := by decide
    simp +contextual [or_comm, hzero]
  obtain ⟨w, hw, hall⟩ := hwithin.of_mem h
  rw [hw, List.append_nil]
  exact hall

/-- A character that a value may begin or end with. -/
structure Firm (c : UInt16) : Prop where
  space : isSpaceUnit c = false
  letter : c ≠ 0x6a
  tick : c ≠ 0x60

theorem firm_number (h : isDigitUnit c = true ∨ c ∈ [0x2b, 0x2d, 0x2e, 0x45, 0x65]) :
    Firm c ∧ c ≠ 0x22 ∧ c ≠ 0x60 ∧ c ≠ 0x5c := by
  rcases h with h | h
  · have hspace : isSpaceUnit c = false := by
      simp only [isDigitUnit, Bool.and_eq_true, decide_eq_true_eq] at h
      simp only [isSpaceUnit, Bool.or_eq_false_iff, Bool.and_eq_false_iff, decide_eq_false_iff_not]
      omega
    refine ⟨⟨hspace, ?_, ?_⟩, ?_, ?_, ?_⟩ <;> rintro rfl <;> revert h <;> decide
  · simp only [List.mem_cons, List.not_mem_nil, or_false] at h
    rcases h with rfl | rfl | rfl | rfl | rfl <;> exact ⟨⟨by decide, by decide, by decide⟩, by decide⟩

/-- **A text of JSON is scanned from outside to outside**: every backtick stands in a string. -/
theorem scan_denotes (h : Denotes number t item) : scan .outside t = some .outside := by
  have hblank : ∀ {w : Units}, Blank w → scan .outside w = some .outside := fun hw =>
    scan_plain nofun (blank_plain hw)
  induction h with
  | null => decide
  | true => decide
  | false => decide
  | num h => exact scan_plain nofun fun c hc => (firm_number (number_chars h c hc)).2
  | str h => exact scan_quoted h
  | emptyArr h =>
    rw [scan_cons]
    show scan .outside _ = _
    rw [scan_append, hblank h]
    rfl
  | emptyObj h =>
    rw [scan_cons]
    show scan .outside _ = _
    rw [scan_append, hblank h]
    rfl
  | arr h ih =>
    rw [scan_cons]
    show scan .outside _ = _
    rw [scan_append, ih]
    rfl
  | obj h ih =>
    rw [scan_cons]
    show scan .outside _ = _
    rw [scan_append, ih]
    rfl
  | element hw h hw' ih => rw [scan_append, hblank hw, Option.bind_some, scan_append, ih, Option.bind_some, hblank hw']
  | lastElement h ih => exact ih
  | elements h h' ih ih' =>
    rw [scan_append, ih, Option.bind_some, scan_cons]
    exact ih'
  | member hw hkey hw' h ih =>
    rw [scan_append, hblank hw, Option.bind_some, scan_quoted hkey, scan_append, hblank hw', Option.bind_some,
      scan_cons]
    exact ih
  | lastMember h ih => exact ih
  | members h h' ih ih' =>
    rw [scan_append, ih, Option.bind_some, scan_cons]
    exact ih'

end Scan

/-! ## Where a value begins and ends -/

structure Solid (t : Units) : Prop where
  begins : ∃ c cs, t = c :: cs ∧ Firm c
  ends : ∃ cs c, t = cs ++ [c] ∧ Firm c

section Solid

variable {number : Units → N} {t : Units} {v : JsonValue N} {c c' : UInt16}

theorem solid_between {cs : Units} (h : Firm c) (h' : Firm c') : Solid (c :: (cs ++ [c'])) where
  begins := ⟨c, _, rfl, h⟩
  ends := ⟨c :: cs, c', rfl, h'⟩

theorem solid_of_forall (hne : t ≠ []) (h : ∀ c ∈ t, Firm c) : Solid t where
  begins := by
    obtain ⟨c, cs, rfl⟩ := List.exists_cons_of_ne_nil hne
    exact ⟨c, cs, rfl, h c List.mem_cons_self⟩
  ends := by
    obtain ⟨cs, c, rfl⟩ := List.eq_nil_or_concat'  t |>.resolve_left hne
    exact ⟨cs, c, rfl, h c (List.mem_append_right _ (List.mem_singleton_self c))⟩

/-- **A value begins and ends with a firm character.** -/
theorem solid_value (h : Denotes number t (.value v)) : Solid t := by
  have hbracket : ∀ c ∈ ([0x22, 0x5b, 0x5d, 0x7b, 0x7d] : Units), Firm c := by
    simp only [List.mem_cons, List.not_mem_nil, or_false]
    rintro c (rfl | rfl | rfl | rfl | rfl) <;> exact ⟨by decide, by decide, by decide⟩
  have hletter : ∀ c ∈ ([0x6e, 0x75, 0x6c, 0x74, 0x72, 0x65, 0x66, 0x61, 0x73] : Units), Firm c := by
    simp only [List.mem_cons, List.not_mem_nil, or_false]
    rintro c (rfl | rfl | rfl | rfl | rfl | rfl | rfl | rfl | rfl) <;> exact ⟨by decide, by decide, by decide⟩
  have hword : ∀ t : Units, t.all (· ∈ ([0x6e, 0x75, 0x6c, 0x74, 0x72, 0x65, 0x66, 0x61, 0x73] : Units)) = true →
      ∀ c ∈ t, Firm c := fun t ht c hc => hletter c (of_decide_eq_true (List.all_eq_true.mp ht c hc))
  cases h with
  | null => exact solid_of_forall (by decide) (hword _ (by decide))
  | true => exact solid_of_forall (by decide) (hword _ (by decide))
  | false => exact solid_of_forall (by decide) (hword _ (by decide))
  | num h =>
    refine solid_of_forall ?_ fun c hc => (firm_number (number_chars h c hc)).1
    rintro rfl
    revert h
    decide
  | str h => exact solid_between (hbracket _ (by decide)) (hbracket _ (by decide))
  | emptyArr h => exact solid_between (hbracket _ (by decide)) (hbracket _ (by decide))
  | arr h => exact solid_between (hbracket _ (by decide)) (hbracket _ (by decide))
  | emptyObj h => exact solid_between (hbracket _ (by decide)) (hbracket _ (by decide))
  | obj h => exact solid_between (hbracket _ (by decide)) (hbracket _ (by decide))

end Solid

end Js
