import Mathlib.Data.List.Infix
import Mathlib.Data.List.Nodup
import Mathlib.Data.Nat.Notation

/-!
# Running processes

What `pgrep -f` finds among the processes of a host, whom `kill` reaches, and how a command line is read.

* `Process`, `Host`: the running processes, no two of which have one pid. `Host.pgrep`, `Host.kill`, **`mem_kill`**.
* `Atom`, `Spells`, `Searches`: expressions of ordinary characters, `.` and `.*`. `found_ordinary`.
* `words`, `program`: the words of a command line, and the program that the first one names.
* `Calls`, `Opens`, **`calls_iff_opens`**: the first words, and how the text opens.
* `Closes`, **`words_iff_closes`**: the last words, and how the text closes.
-/

namespace Posix

/-! ## Hosts -/

/-- A pid, as it is printed. -/
def decimal (n : ℕ) : List Char := Nat.toDigits 10 n

theorem decimal_injective {m n : ℕ} (h : decimal m = decimal n) : m = n := by
  calc
    m = Nat.ofDigitChars 10 (decimal m) 0 := Nat.ofDigitChars_ten_toDigits.symm
    _ = Nat.ofDigitChars 10 (decimal n) 0 := by rw [h]
    _ = n := Nat.ofDigitChars_ten_toDigits

theorem isDigit_of_mem_decimal {n : ℕ} {c : Char} (h : c ∈ decimal n) : c.isDigit = true :=
  Nat.isDigit_of_mem_toDigits (by decide) (by decide) h

theorem decimal_ne_nil (n : ℕ) : decimal n ≠ [] := Nat.toDigits_ne_nil

structure Process where
  pid : ℕ
  /-- Tells the process from those that have its pid before or after it. -/
  born : ℕ
  commandLine : List Char
  /-- Whether its owner permits signals. -/
  permits : Bool
  deriving DecidableEq

/-- The running processes. -/
structure Host where
  procs : List Process
  nodup : (procs.map Process.pid).Nodup

/-- What `pgrep -f` prints, a pid a line. It fails where nothing is found. -/
def Host.pgrep (host : Host) (found : List Char → Bool) : Option (List Char) :=
  match host.procs.filter fun p => found p.commandLine with
  | [] => none
  | p :: ps => some (['\n'].intercalate ((p :: ps).map fun p => decimal p.pid) ++ ['\n'])

/-- The processes that a signal to the printed pid reaches. -/
def Host.kill (host : Host) (pid : List Char) : List Process :=
  host.procs.filter fun p => p.permits && decimal p.pid = pid

section Hosts

variable {host : Host} {p q : Process}

theorem Host.eq_of_pid (hp : p ∈ host.procs) (hq : q ∈ host.procs) (h : p.pid = q.pid) : p = q :=
  List.inj_on_of_nodup_map host.nodup hp hq h

/-- **A signal reaches the process with the pid, if it is permitted.** -/
theorem mem_kill {n : ℕ} : p ∈ host.kill (decimal n) ↔ p ∈ host.procs ∧ p.permits = true ∧ p.pid = n := by
  rw [Host.kill, List.mem_filter, Bool.and_eq_true, decide_eq_true_eq]
  exact and_congr_right fun _ => and_congr_right fun _ => ⟨decimal_injective, congrArg decimal⟩

end Hosts

/-! ## Expressions -/

/-- A part of an extended regular expression. -/
inductive Atom
  | char (c : Char)
  | any
  | anyRun
  deriving DecidableEq

def Atom.text : Atom → List Char
  | .char c => [c]
  | .any => ['.']
  | .anyRun => ['.', '*']

/-- The characters that stand for themselves wherever they are written. -/
def isOrdinary (c : Char) : Bool :=
  c ∉ ['.', '[', ']', '\\', '(', ')', '*', '+', '?', '\x7b', '\x7d', '|', '^', '$']

/-- The texts that match. -/
inductive Spells : List Atom → List Char → Prop
  | nil : Spells [] []
  | char (c : Char) {as : List Atom} {w : List Char} : Spells as w → Spells (.char c :: as) (c :: w)
  | any (c : Char) {as : List Atom} {w : List Char} : Spells as w → Spells (.any :: as) (c :: w)
  | anyRun (v : List Char) {as : List Atom} {w : List Char} : Spells as w → Spells (.anyRun :: as) (v ++ w)

/-- A search for expressions. -/
structure Searches (found : List Char → List Char → Bool) : Prop where
  found_iff : ∀ as : List Atom, (∀ c, .char c ∈ as → isOrdinary c = true) → ∀ line : List Char,
    found (as.flatMap Atom.text) line = true ↔ ∃ w, w <:+: line ∧ Spells as w

theorem spells_chars {s w : List Char} : Spells (s.map .char) w ↔ w = s := by
  induction s generalizing w with
  | nil => exact ⟨fun h => by cases h; rfl, by rintro rfl; exact .nil⟩
  | cons c s ih =>
    constructor
    · intro h
      cases h with
      | char c h => rw [ih.mp h]
    · rintro rfl
      exact .char c (ih.mpr rfl)

theorem isOrdinary_of_isDigit {c : Char} (h : c.isDigit = true) : isOrdinary c = true := by
  refine decide_eq_true fun hmem => ?_
  have hnone : ['.', '[', ']', '\\', '(', ')', '*', '+', '?', '\x7b', '\x7d', '|', '^', '$'].all
      (!·.isDigit) = true := by decide
  have hnot := List.all_eq_true.mp hnone c hmem
  rw [h] at hnot
  cases hnot

/-- **A pattern of ordinary characters is found where it occurs.** -/
theorem found_ordinary {found : List Char → List Char → Bool} (hfound : Searches found) {s line : List Char}
    (hs : ∀ c ∈ s, isOrdinary c = true) : found s line = true ↔ s <:+: line := by
  have htext : (s.map Atom.char).flatMap Atom.text = s := by
    rw [List.flatMap_map]
    exact List.flatMap_singleton' s
  have hall : ∀ c, Atom.char c ∈ s.map Atom.char → isOrdinary c = true := by
    intro c hc
    obtain ⟨d, hd, hdc⟩ := List.mem_map.mp hc
    obtain rfl := Atom.char.inj hdc
    exact hs d hd
  have hiff := hfound.found_iff (s.map .char) hall line
  rw [htext] at hiff
  simp only [spells_chars, exists_eq_right] at hiff
  exact hiff

/-! ## Words -/

def words (line : List Char) : List (List Char) := line.splitOn ' '

/-- The words, each with the blank before it. -/
def spaced (ws : List (List Char)) : List Char := ws.flatMap (' ' :: ·)

/-- The name of the program that is called so. -/
def program (word : List Char) : List Char := (word.reverse.takeWhile (· ≠ '/')).reverse

/-- A path to a program: nothing, or a word that ends in a slash. -/
def Directory (dir : List Char) : Prop := ' ' ∉ dir ∧ (dir = [] ∨ ∃ d, dir = d ++ ['/'])

/-- The text is empty or begins with one of the characters. -/
def Stops (stops rest : List Char) : Prop := ∀ c ∈ rest.head?, c ∈ stops

section Words

variable {line u v name dir : List Char} {ws vs : List (List Char)}

theorem spaced_append : spaced (ws ++ vs) = spaced ws ++ spaced vs := List.flatMap_append

theorem stops_spaced {stops : List Char} : Stops (' ' :: stops) (spaced ws) := by
  intro c hc
  cases ws with
  | nil => cases hc
  | cons w ws =>
    obtain rfl := Option.some.inj hc
    exact List.mem_cons_self

theorem words_spaced (hu : ' ' ∉ u) (hws : ∀ w ∈ ws, ' ' ∉ w) : words (u ++ spaced ws) = u :: ws := by
  induction ws generalizing u with
  | nil => rw [spaced, List.flatMap_nil, List.append_nil, words, List.splitOn_eq_singleton hu]
  | cons w ws ih =>
    have heq : u ++ spaced (w :: ws) = u ++ ' ' :: (w ++ spaced ws) := rfl
    rw [heq, words, List.splitOn_append_cons_self_of_not_mem hu]
    exact congrArg (u :: ·) (ih (hws w List.mem_cons_self) fun w' hw' => hws w' (List.mem_cons_of_mem _ hw'))

theorem exists_words (line : List Char) :
    ∃ u ws, line = u ++ spaced ws ∧ ' ' ∉ u ∧ ∀ w ∈ ws, ' ' ∉ w := by
  induction line with
  | nil => exact ⟨[], [], rfl, List.not_mem_nil, fun _ h => by cases h⟩
  | cons c line ih =>
    obtain ⟨u, ws, rfl, hu, hws⟩ := ih
    by_cases hc : c = ' '
    · subst hc
      exact ⟨[], u :: ws, rfl, List.not_mem_nil, List.forall_mem_cons.mpr ⟨hu, hws⟩⟩
    · refine ⟨c :: u, ws, rfl, fun hmem => ?_, hws⟩
      rcases List.mem_cons.mp hmem with h | h
      · exact hc h.symm
      · exact hu h

/-- **The words of a text are the texts without blanks that it is spaced from.** -/
theorem words_eq_cons : words line = u :: ws ↔ line = u ++ spaced ws ∧ ' ' ∉ u ∧ ∀ w ∈ ws, ' ' ∉ w := by
  constructor
  · intro h
    obtain ⟨u', ws', rfl, hu, hws⟩ := exists_words line
    rw [words_spaced hu hws] at h
    obtain ⟨rfl, rfl⟩ := List.cons.inj h
    exact ⟨rfl, hu, hws⟩
  · rintro ⟨rfl, hu, hws⟩
    exact words_spaced hu hws

theorem spaced_words (line : List Char) : spaced (words line) = ' ' :: line := by
  obtain ⟨u, ws, rfl, hu, hws⟩ := exists_words line
  rw [words_spaced hu hws]
  rfl

theorem not_mem_of_mem_words {w : List Char} (h : w ∈ words line) : ' ' ∉ w := by
  obtain ⟨u, ws, rfl, hu, hws⟩ := exists_words line
  rw [words_spaced hu hws] at h
  rcases List.mem_cons.mp h with rfl | h
  · exact hu
  · exact hws w h

/-- A program is called by its name behind a directory. -/
theorem program_eq (hname : '/' ∉ name) :
    program u = name ↔ ∃ dir, u = dir ++ name ∧ (dir = [] ∨ ∃ d, dir = d ++ ['/']) := by
  constructor
  · rintro rfl
    refine ⟨(u.reverse.dropWhile (· ≠ '/')).reverse, ?_, ?_⟩
    · rw [program, ← List.reverse_append, List.takeWhile_append_dropWhile, List.reverse_reverse]
    · cases hdrop : u.reverse.dropWhile (· ≠ '/') with
      | nil => exact .inl rfl
      | cons c rest =>
        have hc := List.head?_dropWhile_not (fun x : Char => x ≠ '/') u.reverse
        rw [hdrop] at hc
        have hslash : c = '/' := by simpa using hc
        rw [hslash, List.reverse_cons]
        exact .inr ⟨_, rfl⟩
  · rintro ⟨dir, rfl, hdir⟩
    have hclean : ∀ c ∈ name.reverse, decide (c ≠ '/') = true := by
      intro c hc
      refine decide_eq_true ?_
      rintro rfl
      exact hname (List.mem_reverse.mp hc)
    rw [program, List.reverse_append, List.takeWhile_append_of_pos hclean]
    rcases hdir with rfl | ⟨d, rfl⟩
    · simp
    · simp

end Words

/-! ## Command lines -/

/-- The program is called with the arguments first; behind the last of them a stop may follow. -/
def Calls (name : List Char) (args : List (List Char)) (last stops line : List Char) : Prop :=
  ∃ exe tail rest, words line = exe :: (args ++ (last ++ tail) :: rest) ∧ program exe = name ∧ Stops stops tail

/-- The text is the stem behind a directory, and ends there or goes on with a blank or a stop. -/
def Opens (stem stops line : List Char) : Prop :=
  ∃ dir rest, line = dir ++ stem ++ rest ∧ Directory dir ∧ Stops (' ' :: stops) rest

/-- The text is the stem behind a directory, whole words, and the last text. -/
def Closes (stem last line : List Char) : Prop :=
  ∃ dir mid, line = dir ++ stem ++ mid ++ last ∧ Directory dir ∧ Stops [' '] mid

section Lines

variable {line name last stops : List Char} {args : List (List Char)}

/-- **What the first words of a command line are, its text opens with.** -/
theorem calls_iff_opens (hblank : ' ' ∉ name) (hslash : '/' ∉ name) (hargs : ∀ w ∈ args, ' ' ∉ w)
    (hlast : ' ' ∉ last) :
    Calls name args last stops line ↔ Opens (name ++ spaced args ++ ' ' :: last) stops line := by
  constructor
  · rintro ⟨exe, tail, rest, hwords, hexe, htail⟩
    obtain ⟨rfl, hclean, -⟩ := words_eq_cons.mp hwords
    obtain ⟨dir, rfl, hdir⟩ := (program_eq hslash).mp hexe
    refine ⟨dir, tail ++ spaced rest, ?_, ⟨fun h => hclean (List.mem_append_left _ h), hdir⟩, ?_⟩
    · rw [spaced_append]
      simp [spaced]
    · cases tail with
      | nil => exact stops_spaced
      | cons c tail => exact fun d hd => List.mem_cons_of_mem _ (htail d hd)
  · rintro ⟨dir, rest, rfl, ⟨hdirBlank, hdir⟩, hrest⟩
    obtain ⟨tail, ws, rfl, htail, hws⟩ := exists_words rest
    refine ⟨dir ++ name, tail, ws, words_eq_cons.mpr ⟨?_, ?_, ?_⟩, (program_eq hslash).mpr ⟨dir, rfl, hdir⟩, ?_⟩
    · rw [spaced_append]
      simp [spaced]
    · exact fun h => (List.mem_append.mp h).elim hdirBlank hblank
    · intro w hw
      rcases List.mem_append.mp hw with hw | hw
      · exact hargs w hw
      · rcases List.mem_cons.mp hw with rfl | hw
        · exact fun h => (List.mem_append.mp h).elim hlast htail
        · exact hws w hw
    · intro c hc
      cases tail with
      | nil => cases hc
      | cons d tail =>
        obtain rfl := Option.some.inj hc
        refine (List.mem_cons.mp (hrest d rfl)).resolve_left ?_
        rintro rfl
        exact htail List.mem_cons_self

/-- A word that is followed by the words of a text. -/
theorem spaced_cons_words (w tail : List Char) : spaced (w :: words tail) = ' ' :: w ++ ' ' :: tail := by
  rw [← spaced_words tail]
  rfl

/-- **What the last words of a command line are, its text closes with.** -/
theorem words_iff_closes {w tail : List Char} (hblank : ' ' ∉ name) (hslash : '/' ∉ name)
    (hargs : ∀ w ∈ args, ' ' ∉ w) (hw : ' ' ∉ w) :
    (∃ exe opts, words line = exe :: (args ++ opts ++ w :: words tail) ∧ program exe = name) ↔
      Closes (name ++ spaced args) (' ' :: w ++ ' ' :: tail) line := by
  constructor
  · rintro ⟨exe, opts, hwords, hexe⟩
    obtain ⟨rfl, hclean, -⟩ := words_eq_cons.mp hwords
    obtain ⟨dir, rfl, hdir⟩ := (program_eq hslash).mp hexe
    refine ⟨dir, spaced opts, ?_, ⟨fun h => hclean (List.mem_append_left _ h), hdir⟩, stops_spaced⟩
    rw [spaced_append, spaced_append, spaced_cons_words]
    simp only [List.append_assoc]
  · rintro ⟨dir, mid, rfl, ⟨hdirBlank, hdir⟩, hmid⟩
    have hopts : ∃ opts, mid = spaced opts ∧ ∀ w ∈ opts, ' ' ∉ w := by
      cases mid with
      | nil => exact ⟨[], rfl, fun _ h => by cases h⟩
      | cons c mid =>
        obtain rfl := List.mem_singleton.mp (hmid c rfl)
        exact ⟨words mid, (spaced_words mid).symm, fun _ h => not_mem_of_mem_words h⟩
    obtain ⟨opts, rfl, hclean⟩ := hopts
    refine ⟨dir ++ name, opts, words_eq_cons.mpr ⟨?_, ?_, ?_⟩, (program_eq hslash).mpr ⟨dir, rfl, hdir⟩⟩
    · rw [spaced_append, spaced_append, spaced_cons_words]
      simp only [List.append_assoc]
    · exact fun h => (List.mem_append.mp h).elim hdirBlank hblank
    · intro v hv
      rcases List.mem_append.mp hv with hv | hv
      · exact (List.mem_append.mp hv).elim (hargs v) (hclean v)
      · rcases List.mem_cons.mp hv with rfl | hv
        · exact hw
        · exact not_mem_of_mem_words hv

end Lines

end Posix
