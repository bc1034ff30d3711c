import Mathlib.Data.List.Basic

/-!
# Decoding UTF-8 as it arrives

The UTF-8 decoder of the Encoding Standard, a machine that reads one byte at a time, and the
`TextDecoder` that keeps it between two chunks and drops a leading byte order mark.

* `Utf8State`, `step`, `run`: the machine; `run_append`;
* `run_encode`: it reads back the encoding of every text;
* `TextDecoder`, `decode`, `decodeAll`; **`decodeAll_flatten`**: the texts of the chunks are the
  text of the whole.
-/

namespace Chunked

/-- The state between two bytes: the bits read of the current character, the bytes it still owes,
and the range of the next one. -/
structure Utf8State where
  codePoint : ℕ
  owed : ℕ
  lower : ℕ
  upper : ℕ
  deriving DecidableEq

namespace Utf8State

def start : Utf8State := ⟨0, 0, 0x80, 0xBF⟩

/-- U+FFFD, which stands for what is not UTF-8. -/
def replacement : Char := Char.ofNat 0xFFFD

/-- The first byte of a character. -/
def first (b : ℕ) : Utf8State × List Char :=
  if b ≤ 0x7F then (start, [Char.ofNat b])
  else if 0xC2 ≤ b ∧ b ≤ 0xDF then (⟨b % 0x20, 1, 0x80, 0xBF⟩, [])
  else if 0xE0 ≤ b ∧ b ≤ 0xEF then
    (⟨b % 0x10, 2, if b = 0xE0 then 0xA0 else 0x80, if b = 0xED then 0x9F else 0xBF⟩, [])
  else if 0xF0 ≤ b ∧ b ≤ 0xF4 then
    (⟨b % 0x08, 3, if b = 0xF0 then 0x90 else 0x80, if b = 0xF4 then 0x8F else 0xBF⟩, [])
  else (start, [replacement])

/-- One byte: a byte out of range ends the character and is read again as a first byte. -/
def step (d : Utf8State) (b : UInt8) : Utf8State × List Char :=
  if d.owed = 0 then first b.toNat
  else if b.toNat < d.lower ∨ d.upper < b.toNat then
    ((first b.toNat).1, replacement :: (first b.toNat).2)
  else if d.owed = 1 then (start, [Char.ofNat (d.codePoint * 64 + b.toNat % 64)])
  else (⟨d.codePoint * 64 + b.toNat % 64, d.owed - 1, 0x80, 0xBF⟩, [])

def run (d : Utf8State) : List UInt8 → Utf8State × List Char
  | [] => (d, [])
  | b :: bs => ((run (d.step b).1 bs).1, (d.step b).2 ++ (run (d.step b).1 bs).2)

theorem run_append (d : Utf8State) (bs cs : List UInt8) :
    d.run (bs ++ cs) = (((d.run bs).1.run cs).1, (d.run bs).2 ++ ((d.run bs).1.run cs).2) := by
  induction bs generalizing d with
  | nil => rfl
  | cons b bs ih => simp only [List.cons_append, run, ih, List.append_assoc]

/-! ## What is encoded is read back -/

/-- The bytes of a text. -/
def encode (text : List Char) : List UInt8 := text.flatMap String.utf8EncodeChar

theorem toNat_ofNat {n : ℕ} (h : n < 256) : (UInt8.ofNat n).toNat = n :=
  UInt8.toNat_ofNat_of_lt' h

/-- A byte that a character owes. -/
theorem step_owed {d : Utf8State} {n : ℕ} (howed : 1 < d.owed) (hn : n < 64)
    (hlow : d.lower ≤ n + 0x80) (hup : n + 0x80 ≤ d.upper) :
    d.step (UInt8.ofNat (n + 0x80)) = (⟨d.codePoint * 64 + n, d.owed - 1, 0x80, 0xBF⟩, []) := by
  have hb : (UInt8.ofNat (n + 0x80)).toNat = n + 0x80 := toNat_ofNat (by omega)
  have hmod : (n + 0x80) % 64 = n := by omega
  rw [step, hb, hmod, if_neg (by omega), if_neg (by omega), if_neg (by omega)]

/-- The last byte of a character. -/
theorem step_last {d : Utf8State} {n : ℕ} (howed : d.owed = 1) (hn : n < 64)
    (hlow : d.lower ≤ n + 0x80) (hup : n + 0x80 ≤ d.upper) :
    d.step (UInt8.ofNat (n + 0x80)) = (start, [Char.ofNat (d.codePoint * 64 + n)]) := by
  have hb : (UInt8.ofNat (n + 0x80)).toNat = n + 0x80 := toNat_ofNat (by omega)
  have hmod : (n + 0x80) % 64 = n := by omega
  rw [step, hb, hmod, if_neg (by omega), if_neg (by omega), if_pos howed]

theorem step_start {n : ℕ} (hn : n < 256) : start.step (UInt8.ofNat n) = first n := by
  rw [step, if_pos (show start.owed = 0 from rfl), toNat_ofNat hn]

/-- **A character is read back**, its bytes one after the other. -/
theorem run_char (c : Char) : start.run (String.utf8EncodeChar c) = (start, [c]) := by
  have hc : Char.ofNat c.val.toNat = c := Char.ofNat_toNat c
  have hvalid : c.val.toNat < 0xD800 ∨ 0xDFFF < c.val.toNat ∧ c.val.toNat < 0x110000 := c.valid
  generalize hv : c.val.toNat = v at hc hvalid
  unfold String.utf8EncodeChar
  rw [hv]
  dsimp only
  split_ifs with h₁ h₂ h₃
  · rw [run, step_start (by omega), first, if_pos h₁, run, hc]
    rfl
  · have hlead : first (v / 64 % 0x20 + 0xC0) = (⟨v / 64, 1, 0x80, 0xBF⟩, []) := by
      rw [first, if_neg (by omega), if_pos (by omega)]
      congr 2
      omega
    rw [run, step_start (by omega), hlead, run, step_last rfl (by omega) (by simp) (by simp; omega),
      run, Nat.div_add_mod', hc]
    rfl
  · have hlead : first (v / 4096 % 0x10 + 0xE0) = (⟨v / 4096, 2, if v / 4096 = 0 then 0xA0 else 0x80,
        if v / 4096 = 13 then 0x9F else 0xBF⟩, []) := by
      have hmod : (v / 4096 % 0x10 + 0xE0) % 0x10 = v / 4096 := by omega
      have hlow : v / 4096 % 0x10 + 0xE0 = 0xE0 ↔ v / 4096 = 0 := by omega
      have hup : v / 4096 % 0x10 + 0xE0 = 0xED ↔ v / 4096 = 13 := by omega
      rw [first, if_neg (by omega), if_neg (by omega), if_pos (by omega), hmod]
      simp only [hlow, hup]
    have hvalue : (v / 4096 * 64 + v / 64 % 64) * 64 + v % 64 = v := by omega
    rw [run, step_start (by omega), hlead, run,
      step_owed (by decide : 1 < 2) (by omega) (by dsimp only; split_ifs <;> omega)
        (by dsimp only; split_ifs <;> omega), run,
      step_last rfl (by omega) (by simp) (by simp; omega), run, hvalue, hc]
    rfl
  · have hlead : first (v / 262144 % 0x08 + 0xF0) = (⟨v / 262144, 3,
        if v / 262144 = 0 then 0x90 else 0x80, if v / 262144 = 4 then 0x8F else 0xBF⟩, []) := by
      have hmod : (v / 262144 % 0x08 + 0xF0) % 0x08 = v / 262144 := by omega
      have hlow : v / 262144 % 0x08 + 0xF0 = 0xF0 ↔ v / 262144 = 0 := by omega
      have hup : v / 262144 % 0x08 + 0xF0 = 0xF4 ↔ v / 262144 = 4 := by omega
      rw [first, if_neg (by omega), if_neg (by omega), if_neg (by omega), if_pos (by omega), hmod]
      simp only [hlow, hup]
    have hvalue : ((v / 262144 * 64 + v / 4096 % 64) * 64 + v / 64 % 64) * 64 + v % 64 = v := by
      omega
    rw [run, step_start (by omega), hlead, run,
      step_owed (by decide : 1 < 3) (by omega) (by dsimp only; split_ifs <;> omega)
        (by dsimp only; split_ifs <;> omega), run,
      step_owed (by decide : 1 < 2) (by omega) (by simp) (by simp; omega), run,
      step_last rfl (by omega) (by simp) (by simp; omega), run, hvalue, hc]
    rfl

/-- **A text is read back**, and no character is left unfinished. -/
theorem run_encode (text : List Char) : start.run (encode text) = (start, text) := by
  induction text with
  | nil => rfl
  | cons c text ih =>
    have hrest : start.run (text.flatMap String.utf8EncodeChar) = (start, text) := ih
    rw [encode, List.flatMap_cons, run_append, run_char, hrest, List.singleton_append]

end Utf8State

/-- A `TextDecoder` with its defaults: malformed bytes are replaced, and a byte order mark at the
start of the stream is dropped. -/
structure TextDecoder where
  utf8 : Utf8State
  bomSeen : Bool

namespace TextDecoder

def fresh : TextDecoder := ⟨.start, false⟩

/-- U+FEFF. -/
def bom : Char := Char.ofNat 0xFEFF

/-- What is left of the text when a byte order mark at the start of the stream is dropped. -/
def dropBom (bomSeen : Bool) : List Char → Bool × List Char
  | [] => (bomSeen, [])
  | c :: cs => (true, if bomSeen = false ∧ c = bom then cs else c :: cs)

/-- `decoder.decode(chunk, { stream: true })` -/
def decode (d : TextDecoder) (chunk : List UInt8) : TextDecoder × List Char :=
  (⟨(d.utf8.run chunk).1, (dropBom d.bomSeen (d.utf8.run chunk).2).1⟩,
    (dropBom d.bomSeen (d.utf8.run chunk).2).2)

/-- The texts of the chunks, as one decoder returns them. -/
def decodeAll (d : TextDecoder) : List (List UInt8) → List (List Char)
  | [] => []
  | c :: cs => (d.decode c).2 :: decodeAll (d.decode c).1 cs

/-- `new TextDecoder().decode(body)`: a character that is cut off at the end is replaced. -/
def decodeWhole (body : List UInt8) : List Char :=
  (dropBom false ((Utf8State.start.run body).2 ++
    if (Utf8State.start.run body).1.owed = 0 then [] else [Utf8State.replacement])).2

theorem dropBom_append (seen : Bool) (xs ys : List Char) : dropBom seen (xs ++ ys) =
    ((dropBom (dropBom seen xs).1 ys).1,
      (dropBom seen xs).2 ++ (dropBom (dropBom seen xs).1 ys).2) := by
  cases xs with
  | nil => rfl
  | cons x xs =>
    cases ys with
    | nil => simp [dropBom]
    | cons y ys =>
      simp only [List.cons_append, dropBom, Bool.true_eq_false, false_and, if_false]
      split_ifs <;> rfl

/-- **Decoding chunk by chunk**: the texts of the chunks are the text of the whole. -/
theorem decodeAll_flatten (d : TextDecoder) (chunks : List (List UInt8)) :
    (d.decodeAll chunks).flatten = (d.decode chunks.flatten).2 := by
  induction chunks generalizing d with
  | nil => rfl
  | cons c cs ih =>
    rw [decodeAll, List.flatten_cons, ih, List.flatten_cons]
    simp only [decode, Utf8State.run_append, dropBom_append]

/-- What a decoder makes of a text's bytes: the text, less a byte order mark at its start. -/
theorem decode_encode (text : List Char) :
    (fresh.decode (Utf8State.encode text)).2 = (dropBom false text).2 := by
  simp only [decode, fresh, Utf8State.run_encode]

theorem decodeWhole_encode (text : List Char) :
    decodeWhole (Utf8State.encode text) = (dropBom false text).2 := by
  rw [decodeWhole, Utf8State.run_encode, if_pos (show Utf8State.start.owed = 0 from rfl),
    List.append_nil]

end TextDecoder

end Chunked
