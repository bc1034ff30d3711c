import Benchmarker.Posix.Lexer

/-!
# Remote commands

A command that is sent over SSH is wrapped with the working directory and with `sudo`. A shell is put
between `sudo` and the command when the command contains one of the characters `;`, `&`, `|`.

* `shellEscape`, `buildCommand`: the code. `shellEscape_toList`.
* `withCwdTokens`, `wrappedTokens`: what a shell should read.
* `lex_buildCommand`, `lex_actualCommand`: every wrapped text is one word.
* `Confined`, `Plain`, **`confined_iff`**: the commands that `sudo` runs, without a shell between.
-/

namespace Benchmarker

open Posix

structure SshConfig where
  password : Option String := none
  deriving DecidableEq

structure ExecOptions where
  /-- The option `sudo`, under the name that its callers give it. -/
  useSudo : Bool := false
  sudoPassword : Option String := none
  cwd : Option String := none
  deriving DecidableEq

/-! ## The code -/

def shellEscape (str : String) : String :=
  String.ofList ([apostrophe] ++ str.toList.flatMap (fun c =>
    if c = apostrophe then [apostrophe, backslash, apostrophe, apostrophe] else [c]) ++ [apostrophe])

namespace ExecOptions

variable (options : ExecOptions) (config : SshConfig)

/-- The empty string is falsy. -/
def directory : Option String := options.cwd.filter (· ≠ "")

def password : Option String := (options.sudoPassword.or config.password).filter (· ≠ "")

end ExecOptions

/-- The command after the working directory has been put in front. -/
def actualCommand (command : String) (options : ExecOptions) : String :=
  match options.directory with
  | some cwd => "cd " ++ shellEscape cwd ++ " && " ++ command
  | none => command

def hasShellOps (actualCommand : String) : Bool :=
  actualCommand.toList.any fun c => c = ';' ∨ c = '&' ∨ c = '|'

def buildCommand (command : String) (config : SshConfig) (options : ExecOptions) : String :=
  let actualCommand := actualCommand command options
  if options.useSudo then
    let wrappedCmd :=
      if hasShellOps actualCommand then "sh -c " ++ shellEscape actualCommand else actualCommand
    match options.password config with
    | some sudoPassword =>
      "echo " ++ shellEscape sudoPassword ++ " | sudo -S -p '' " ++ wrappedCmd
    | none => "sudo -n " ++ wrappedCmd
  else actualCommand

/-! ## What a shell reads -/

/-- The unquoted words of a text. -/
def words (text : List String) : List Token := text.map fun w => .word (bare w)

/-- The change of the directory, before the tokens of the command. -/
def withCwdTokens (options : ExecOptions) (ts : List Token) : List Token :=
  match options.directory with
  | some cwd => words ["cd"] ++ [.word (literal cwd), .operator .andIf] ++ ts
  | none => ts

/-- The command that feeds `sudo` its password. -/
def echoTokens : Option String → List Token
  | some password => words ["echo"] ++ [.word (literal password), .operator .pipe]
  | none => []

def sudoFlags : Option String → List Token
  | some _ => words ["sudo", "-S", "-p"] ++ [.word (literal "")]
  | none => words ["sudo", "-n"]

def wrappedTokens (command : String) (config : SshConfig) (options : ExecOptions) : List Token :=
  let inner := actualCommand command options
  if options.useSudo then
    echoTokens (options.password config) ++ sudoFlags (options.password config) ++
      if hasShellOps inner then words ["sh", "-c"] ++ [.word (literal inner)] else lex inner
  else lex inner

theorem shellEscape_toList (str : String) : (shellEscape str).toList = quote str := by
  rw [shellEscape, String.toList_ofList]
  rfl

/-- An escaped text after words, before a blank, is one more word. -/
theorem lex_shellEscape {front : List Char} {ts : List Token} (h : run {} front = (ts, {}))
    (str : String) (rest : List Char) :
    lexFrom {} (front ++ (shellEscape str).toList ++ ' ' :: rest) =
      ts ++ .word (literal str) :: lexFrom {} rest := by
  rw [shellEscape_toList, List.append_assoc, lexFrom_append h, lexFrom_append (run_quote str)]
  have hblank : run { word := some (literal str) } [' '] = ([.word (literal str)], {}) := rfl
  rw [show ' ' :: rest = [' '] ++ rest from rfl, lexFrom_append hblank]
  rfl

theorem lex_actualCommand (command : String) (options : ExecOptions) :
    lex (actualCommand command options) = withCwdTokens options (lex command) := by
  unfold actualCommand withCwdTokens
  cases options.directory with
  | none => rfl
  | some cwd =>
    dsimp only
    have hfront : run {} "cd ".toList = (words ["cd"], {}) := by decide
    have hand : run {} "&& ".toList = ([.operator .andIf], {}) := by decide
    have htext : ("cd " ++ shellEscape cwd ++ " && " ++ command).toList =
        "cd ".toList ++ (shellEscape cwd).toList ++ ' ' :: ("&& ".toList ++ command.toList) := by
      rw [String.toList_append, String.toList_append, String.toList_append, List.append_assoc]
      rfl
    rw [lex, htext, lex_shellEscape hfront, lexFrom_append hand, List.append_assoc]
    rfl

theorem lex_wrappedCmd (inner : String) {front : List Char} {ts : List Token}
    (h : run {} front = (ts, {})) :
    lexFrom {} (front ++ (if hasShellOps inner then "sh -c " ++ shellEscape inner else inner).toList) =
      ts ++ if hasShellOps inner then words ["sh", "-c"] ++ [.word (literal inner)]
        else lex inner := by
  rw [lexFrom_append h]
  congr 1
  by_cases hops : hasShellOps inner = true
  · have hsh : run {} "sh -c ".toList = (words ["sh", "-c"], {}) := by decide
    have hfinish : lexFrom {} (quote inner) = [.word (literal inner)] := by
      rw [lexFrom, run_quote]
      rfl
    rw [if_pos hops, if_pos hops, String.toList_append, shellEscape_toList, lexFrom_append hsh,
      hfinish]
  · rw [if_neg hops, if_neg hops]
    rfl

/-- The directory, the password and the command of the shell are read back as one word each. -/
theorem lex_buildCommand (command : String) (config : SshConfig) (options : ExecOptions) :
    lex (buildCommand command config options) = wrappedTokens command config options := by
  unfold buildCommand wrappedTokens
  dsimp only
  by_cases hsudo : options.useSudo = true
  · rw [if_pos hsudo, if_pos hsudo]
    cases options.password config with
    | none =>
      have hfront : run {} "sudo -n ".toList = (sudoFlags none, {}) := by decide
      dsimp only
      rw [lex, String.toList_append, lex_wrappedCmd _ hfront]
      rfl
    | some password =>
      have hecho : run {} "echo ".toList = (words ["echo"], {}) := by decide
      have hfront : run {} "| sudo -S -p '' ".toList =
          (.operator .pipe :: sudoFlags (some ""), {}) := by decide
      generalize hwrapped : (if hasShellOps _ then _ else _ : String) = wrapped
      have htext : ("echo " ++ shellEscape password ++ " | sudo -S -p '' " ++ wrapped).toList =
          "echo ".toList ++ (shellEscape password).toList ++
            ' ' :: ("| sudo -S -p '' ".toList ++ wrapped.toList) := by
        rw [String.toList_append, String.toList_append, String.toList_append, List.append_assoc]
        rfl
      dsimp only
      rw [lex, htext, lex_shellEscape hecho, ← hwrapped, lex_wrappedCmd _ hfront]
      simp [echoTokens, sudoFlags]
  · rw [if_neg hsudo, if_neg hsudo]

/-! ## The commands that `sudo` runs -/

/-- An argument that `sudo` takes for an option of its own. -/
def isOption : List Token → Bool
  | .word (.char c _ :: _) :: _ => c = '-'
  | _ => false

/-- The commands of a shell that is called with `-c` and a quoted text. -/
def shellCommands : List Token → List (List Token)
  | [.word shell, .word flag, .word text] =>
    if shell = bare "sh" ∧ flag = bare "-c" ∧ text.all Part.isQuoted then
      simpleCommands (lex (String.ofList (textOf text)))
    else []
  | _ => []

theorem of_mem_shellCommands {c args : List Token} (h : c ∈ shellCommands args) :
    ∃ text, args = words ["sh", "-c"] ++ [.word text] := by
  unfold shellCommands at h
  split at h
  · split_ifs at h with hwords
    · obtain ⟨rfl, rfl, _⟩ := hwords
      exact ⟨_, rfl⟩
    · cases h
  · cases h

/-- The commands that the call of `sudo` with these flags runs. -/
def sudoExecutes (flags call : List Token) : List (List Token) :=
  let args := call.drop flags.length
  if call.take flags.length = flags ∧ isOption args = false then args :: shellCommands args else []

/-- A single call is made, nothing is redirected or substituted outside of `sudo`, and it runs all
commands of `inner`. -/
def Confined (flags outer inner : List Token) : Prop :=
  ∃ call, segments outer = [call] ∧ (∀ t ∈ call, t.isPlain = true) ∧
    ∀ c ∈ simpleCommands inner, c ∈ sudoExecutes flags call

/-- One command of words, up to control operators at its end. -/
def Plain (ts : List Token) : Prop :=
  (∀ t ∈ afterFirst ts, t.isSeparator = true) ∧ (∀ t ∈ firstSegment ts, t.isPlain = true) ∧
    ∀ c ∈ simpleCommands ts, c = firstSegment ts ∧ isOption c = false

instance : DecidablePred Plain := fun _ => by unfold Plain; infer_instance

example : Plain (lex "docker ps -a\n") := by decide

section Confined

variable {flags ts : List Token} (hflags : ∀ t ∈ flags, t.isPlain = true) (hne : flags ≠ [])
include hflags hne

theorem segments_flags :
    segments (flags ++ ts) = (flags ++ firstSegment ts) :: segments (afterFirst ts) := by
  have hwords : ∀ t ∈ flags, (!t.isSeparator) = true := by
    intro t ht
    rw [Token.not_isSeparator_of_isPlain (hflags t ht)]
    rfl
  rw [segments_eq_first]
  have hfirst : firstSegment (flags ++ ts) = flags ++ firstSegment ts :=
    List.takeWhile_append_of_pos hwords
  have hafter : afterFirst (flags ++ ts) = afterFirst ts := List.dropWhile_append_of_pos hwords
  have hsingle : segments (flags ++ firstSegment ts) = [flags ++ firstSegment ts] := by
    rw [← hfirst]
    exact segments_single (fun t ht => not_isSeparator_of_mem_first ht) (by rw [hfirst]; simp [hne])
  rw [hfirst, hafter, hsingle]
  rfl

omit hflags hne in
theorem sudoExecutes_flags (args : List Token) :
    sudoExecutes flags (flags ++ args) =
      if isOption args = false then args :: shellCommands args else [] := by
  unfold sudoExecutes
  simp

/-- Without a shell in between. -/
theorem confined_iff : Confined flags (flags ++ ts) ts ↔ Plain ts := by
  unfold Confined Plain
  rw [segments_flags hflags hne]
  constructor
  · rintro ⟨call, hcall, hplain, hruns⟩
    obtain ⟨rfl, hafter⟩ := List.cons.inj hcall
    have hsep := segments_eq_nil.mp hafter
    have hfirst : ∀ t ∈ firstSegment ts, t.isPlain = true := fun t ht =>
      hplain t (List.mem_append_right _ ht)
    refine ⟨hsep, hfirst, fun c hc => ?_⟩
    have hmem := hruns c hc
    rw [sudoExecutes_flags] at hmem
    split_ifs at hmem with hopt
    · have heq : c = firstSegment ts := by
        rcases List.mem_cons.mp hmem with h | h
        · exact h
        · -- the command is a shell, which no reserved word stands before
          obtain ⟨text, htext⟩ := of_mem_shellCommands h
          have hdrop := eq_of_mem_simpleCommands hafter hc
          have hsh : (Token.word (bare "sh")).isReserved = false := by decide
          rw [htext] at hdrop ⊢
          rw [hdrop]
          exact List.dropWhile_cons_of_neg (by rw [hsh]; exact Bool.false_ne_true)
      rw [heq]
      exact ⟨rfl, hopt⟩
    · cases hmem
  · rintro ⟨hsep, hplain, hruns⟩
    refine ⟨flags ++ firstSegment ts, by rw [segments_eq_nil.mpr hsep], ?_, fun c hc => ?_⟩
    · intro t ht
      exact (List.mem_append.mp ht).elim (hflags t) (hplain t)
    · obtain ⟨rfl, hopt⟩ := hruns c hc
      rw [sudoExecutes_flags, if_pos hopt]
      exact List.mem_cons_self

/-- With a shell in between: the commands of its text. -/
theorem confined_shell {text : String} {inner : List Token}
    (h : ∀ c ∈ simpleCommands inner, c ∈ simpleCommands (lex text)) :
    Confined flags (flags ++ (words ["sh", "-c"] ++ [.word (literal text)])) inner := by
  have hfirst : firstSegment (words ["sh", "-c"] ++ [.word (literal text)]) =
      words ["sh", "-c"] ++ [.word (literal text)] := rfl
  have hafter : afterFirst (words ["sh", "-c"] ++ [.word (literal text)]) = [] := rfl
  have hliteral : (Token.word (literal text)).isPlain = true := by
    simp [Token.isPlain, literal]
  have hquoted : (literal text).all Part.isQuoted = true := by
    simp [literal, Part.isQuoted]
  refine ⟨_, by rw [segments_flags hflags hne, hafter]; rfl, ?_, fun c hc => ?_⟩
  · rw [hfirst]
    intro t ht
    rcases List.mem_append.mp ht with h | h
    · exact hflags t h
    · simp only [words, List.map_cons, List.map_nil, List.mem_append, List.mem_cons,
        List.not_mem_nil, or_false] at h
      rcases h with (rfl | rfl) | rfl
      · decide
      · decide
      · exact hliteral
  · have hopt : isOption (words ["sh", "-c"] ++ [.word (literal text)]) = false := rfl
    rw [hfirst, sudoExecutes_flags, if_pos hopt]
    refine List.mem_cons_of_mem _ ?_
    change c ∈ if _ then _ else _
    rw [if_pos ⟨rfl, rfl, hquoted⟩, textOf_literal]
    exact h c hc

end Confined

theorem sudoFlags_isPlain (password : Option String) :
    ∀ t ∈ sudoFlags password, t.isPlain = true := by
  cases password with
  | none => decide
  | some password => exact show ∀ t ∈ sudoFlags (some ""), t.isPlain = true by decide

theorem sudoFlags_ne_nil (password : Option String) : sudoFlags password ≠ [] := by
  cases password with
  | none => exact List.cons_ne_nil _ _
  | some password => exact List.cons_ne_nil _ _

/-! ## The wrapping -/

section Wrapping

variable (command : String) (config : SshConfig) (options : ExecOptions)

/-- Every wrapped text is read back as one word, and `sudo` runs all commands that it is asked
for. -/
def WrappedExactly : Prop :=
  lex (buildCommand command config options) = wrappedTokens command config options ∧
  lex (actualCommand command options) = withCwdTokens options (lex command) ∧
  (options.useSudo = true → ∃ outer,
    lex (buildCommand command config options) = echoTokens (options.password config) ++ outer ∧
    Confined (sudoFlags (options.password config)) outer (lex command))

theorem hasShellOps_actualCommand : hasShellOps (actualCommand command options) = true ↔
    options.directory.isSome = true ∨ hasShellOps command = true := by
  unfold actualCommand
  cases options.directory with
  | none =>
    show hasShellOps command = true ↔ _
    simp
  | some cwd =>
    refine iff_of_true ?_ (Or.inl rfl)
    have hand : '&' ∈ ("cd " ++ shellEscape cwd ++ " && " ++ command).toList := by
      rw [String.toList_append, String.toList_append]
      exact List.mem_append_left _ (List.mem_append_right _ (by decide))
    exact List.any_eq_true.mpr ⟨'&', hand, by decide⟩

theorem mem_simpleCommands_withCwdTokens {ts c : List Token} (h : c ∈ simpleCommands ts) :
    c ∈ simpleCommands (withCwdTokens options ts) := by
  unfold withCwdTokens
  cases options.directory with
  | none => exact h
  | some cwd =>
    show c ∈ simpleCommands ((words ["cd"] ++ [.word (literal cwd)]) ++ .operator .andIf :: ts)
    unfold simpleCommands at h ⊢
    rw [segments_append rfl, List.map_append, List.filter_append]
    exact List.mem_append_right _ h

theorem wrappedExactly_iff :
    WrappedExactly command config options ↔ (options.useSudo = true →
      options.directory.isSome = true ∨ hasShellOps command = true ∨ Plain (lex command)) := by
  unfold WrappedExactly
  rw [and_iff_right (lex_buildCommand command config options),
    and_iff_right (lex_actualCommand command options), lex_buildCommand]
  refine imp_congr_right fun hsudo => ?_
  have hflags := sudoFlags_isPlain (options.password config)
  have hne := sudoFlags_ne_nil (options.password config)
  unfold wrappedTokens
  dsimp only
  rw [if_pos hsudo, List.append_assoc, ← or_assoc, ← hasShellOps_actualCommand command options]
  by_cases hops : hasShellOps (actualCommand command options) = true
  · rw [if_pos hops]
    refine iff_of_true ⟨_, rfl, confined_shell hflags hne fun c hc => ?_⟩ (Or.inl hops)
    rw [lex_actualCommand]
    exact mem_simpleCommands_withCwdTokens options hc
  · have hdir : options.directory = none := by
      have h := mt (hasShellOps_actualCommand command options).mpr hops
      cases hdir : options.directory with
      | none => rfl
      | some cwd => exact absurd (Or.inl (by rw [hdir]; rfl)) h
    have hactual : actualCommand command options = command := by
      unfold actualCommand
      rw [hdir]
    rw [if_neg hops, or_iff_right hops, hactual, ← confined_iff hflags hne]
    constructor
    · rintro ⟨outer, houter, h⟩
      rwa [← List.append_cancel_left houter] at h
    · intro h
      exact ⟨_, rfl, h⟩

end Wrapping

/-- The second line of the command runs outside of `sudo`. -/
theorem secondLine_outside : ¬ WrappedExactly "ls\nid" {} { useSudo := true } := by
  rintro ⟨_, _, h⟩
  obtain ⟨outer, houter, call, hcall, _⟩ := h rfl
  have hsegments : segments (lex (buildCommand "ls\nid" {} { useSudo := true })) =
      [words ["sudo", "-n", "ls"], words ["id"]] := by decide
  rw [houter] at hsegments
  rw [show echoTokens _ ++ outer = outer from rfl, hcall] at hsegments
  cases hsegments

end Benchmarker
