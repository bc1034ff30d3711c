import Mathlib.Data.List.Infix

/-!
# Texts and regular expressions

The string tests of the source, and a backtracking matcher for the regular expressions of the source: `ends` lists the positions at
which a match from a given position may end, the greedy ones first. Matching ignores ASCII case,
as the `i` flag does for ASCII patterns.

* `includes`, `includes_trans`, `endsWith`, `toLowerCase`, `trimChars`, `trimChars_of_ends`, `trim`, `trimmedLines`.
* `Re`, `Re.ends`, `Re.test`: expressions, their matches, and `RegExp.prototype.test`.
* `Re.capture`: the text of a capture group. `lit`, `txt`, `seqs`, `alts`, `opt`, `plus`, `space`, `dot`: the notation that the patterns are written
  with.
-/

namespace Js

/-- The characters of `\s`. -/
def isSpace (c : Char) : Bool :=
  let n := c.toNat
  (9 ≤ n && n ≤ 13) || n = 32 || n = 0xa0 || n = 0x1680 || (0x2000 ≤ n && n ≤ 0x200a) ||
  n = 0x2028 || n = 0x2029 || n = 0x202f || n = 0x205f || n = 0x3000 || n = 0xfeff

/-- The characters that `.` does not match. -/
def isLineTerminator (c : Char) : Bool :=
  c = '\n' || c = '\r' || c.toNat = 0x2028 || c.toNat = 0x2029

/-- The characters between which `\b` sees no boundary. -/
def isWordChar (c : Char) : Bool := c.isAlphanum || c = '_'

/-- `String.prototype.trim`, on the characters. -/
def trimChars (s : List Char) : List Char :=
  ((s.dropWhile isSpace).reverse.dropWhile isSpace).reverse

def trim (s : String) : String := String.ofList (trimChars s.toList)

/-- A text that neither begins nor ends in a space, before a line break. -/
theorem trimChars_of_ends {s : List Char} (hhead : ∃ x ∈ s.head?, isSpace x = false)
    (hlast : ∃ x ∈ s.getLast?, isSpace x = false) : trimChars (s ++ ['\n']) = s := by
  obtain ⟨x, hx, hxs⟩ := hhead
  obtain ⟨y, hy, hys⟩ := hlast
  have hstart : (s ++ ['\n']).dropWhile isSpace = s ++ ['\n'] := by
    cases s with
    | nil => cases hx
    | cons z s =>
      cases hx
      rw [List.cons_append, List.dropWhile_cons_of_neg (by simp [hxs])]
  have hend : s.reverse.dropWhile isSpace = s.reverse := by
    rw [← List.head?_reverse] at hy
    cases hs : s.reverse with
    | nil => rfl
    | cons z t =>
      rw [hs] at hy
      cases hy
      rw [List.dropWhile_cons_of_neg (by simp [hys])]
  rw [trimChars, hstart, List.reverse_append, List.reverse_singleton, List.singleton_append,
    List.dropWhile_cons_of_pos (by decide), hend, List.reverse_reverse]

/-- `text.split('\n').map((l) => l.trim()).filter(Boolean)`. -/
def trimmedLines (text : String) : List String :=
  (((text.toList.splitOn '\n').map trimChars).filter (· ≠ [])).map String.ofList

def includes (s t : String) : Bool := s.toList.tails.any fun u => t.toList.isPrefixOf u

theorem includes_iff {s t : String} : includes s t = true ↔ t.toList <:+: s.toList := by
  simp only [includes, List.any_eq_true, List.mem_tails, List.isPrefixOf_iff_prefix]
  constructor
  · rintro ⟨u, hsuffix, hstart⟩
    exact hstart.isInfix.trans hsuffix.isInfix
  · rintro ⟨before, after, h⟩
    refine ⟨t.toList ++ after, ⟨before, ?_⟩, List.prefix_append _ _⟩
    rw [← h, List.append_assoc]

theorem includes_trans {s t u : String} (h : includes s t = true) (h' : includes t u = true) :
    includes s u = true :=
  includes_iff.mpr ((includes_iff.mp h').trans (includes_iff.mp h))

def endsWith (s t : String) : Bool := t.toList.isSuffixOf s.toList

/-- `String.prototype.toLowerCase`, as far as the ASCII letters of the result go: besides the
ASCII capitals the Kelvin sign and the dotted capital I give one. -/
def toLowerCase (s : String) : String :=
  String.ofList (s.toList.flatMap fun c =>
    if c.toNat = 0x212a then ['k'] else if c.toNat = 0x130 then ['i', Char.ofNat 0x307]
    else [c.toLower])

/-- A regular expression. -/
inductive Re
  | chr (p : Char → Bool)
  | eps
  | seq (a b : Re)
  | alt (a b : Re)
  | star (a : Re)
  | lazyStar (a : Re)
  | wordBoundary

/-- A place in a text: the character before it and the characters after it. -/
structure Pos where
  prev : Option Char
  rest : List Char
  deriving DecidableEq

namespace Re

/-- The ends of repeated matches, longest first. An empty repetition is not taken. -/
def starEnds (step : Pos → List Pos) : ℕ → Pos → List Pos
  | 0, p => [p]
  | n + 1, p =>
    ((step p).filter fun q => q.rest.length < p.rest.length).flatMap (starEnds step n) ++ [p]

/-- The ends of repeated matches, shortest first. -/
def lazyEnds (step : Pos → List Pos) : ℕ → Pos → List Pos
  | 0, p => [p]
  | n + 1, p =>
    p :: ((step p).filter fun q => q.rest.length < p.rest.length).flatMap (lazyEnds step n)

/-- The places at which a match that starts at `p` may end, in the order of backtracking. -/
def ends : Re → Pos → List Pos
  | chr f, p =>
    match p.rest with
    | [] => []
    | c :: cs => if f c then [⟨some c, cs⟩] else []
  | eps, p => [p]
  | seq a b, p => (a.ends p).flatMap b.ends
  | alt a b, p => a.ends p ++ b.ends p
  | star a, p => starEnds a.ends p.rest.length p
  | lazyStar a, p => lazyEnds a.ends p.rest.length p
  | wordBoundary, p => if p.prev.any isWordChar = p.rest.head?.any isWordChar then [] else [p]

/-- Some match starts at `p` or later. -/
def searchFrom (r : Re) : Option Char → List Char → Bool
  | prev, [] => !(r.ends ⟨prev, []⟩).isEmpty
  | prev, c :: cs => !(r.ends ⟨prev, c :: cs⟩).isEmpty || searchFrom r (some c) cs

def test (r : Re) (text : String) : Bool := searchFrom r none text.toList

/-- The text that the group captures in the first match of `before group after` at `p`. -/
def captureAt (before group after : Re) (p : Pos) : Option (List Char) :=
  (before.ends p).findSome? fun q => (group.ends q).findSome? fun r =>
    if (after.ends r).isEmpty then none else some (q.rest.take (q.rest.length - r.rest.length))

def captureFrom (before group after : Re) : Option Char → List Char → Option (List Char)
  | prev, [] => captureAt before group after ⟨prev, []⟩
  | prev, c :: cs => (captureAt before group after ⟨prev, c :: cs⟩).or
      (captureFrom before group after (some c) cs)

/-- `text.match(/before(group)after/)[1]`. -/
def capture (before group after : Re) (text : String) : Option String :=
  (captureFrom before group after none text.toList).map String.ofList

/-! ## Notation -/

/-- One character, up to ASCII case. -/
def char (c : Char) : Re := chr fun d => d.toLower = c.toLower

/-- A literal text, up to ASCII case. -/
def lit (s : String) : Re := s.toList.foldr (fun c r => seq (char c) r) eps

/-- A literal text, with its case. -/
def txt (s : String) : Re := s.toList.foldr (fun c r => seq (chr fun d => d = c) r) eps

def seqs (rs : List Re) : Re := rs.foldr seq eps

/-- The alternatives of a nonempty list, the first one preferred. -/
def alts : List Re → Re
  | [] => chr fun _ => false
  | [r] => r
  | r :: rs => alt r (alts rs)

/-- `r?`. -/
def opt (r : Re) : Re := alt r eps

/-- `r+`. -/
def plus (r : Re) : Re := seq r (star r)

/-- `\s`. -/
def space : Re := chr isSpace

/-- `\d`. -/
def digit : Re := chr Char.isDigit

/-- `.`. -/
def dot : Re := chr fun c => !isLineTerminator c

/-- `\s+`. -/
def spaces : Re := plus space

/-- `.*`. -/
def gap : Re := star dot

/-- `.*?`. -/
def lazyGap : Re := lazyStar dot

/-- A character class, `[…]`. -/
def oneOf (cs : List Char) : Re := chr fun c => c ∈ cs

end Re

end Js
