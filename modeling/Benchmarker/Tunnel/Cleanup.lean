import Benchmarker.Js.Regex
import Benchmarker.Posix.Processes

/-!
# Cleaning up tunnel processes

The helpers of `tunnel-service.ts` that pick processes by their command lines or by a stored pid. `found` is the
search that `pgrep -f` makes for a pattern in a command line.

* `killOrphans` and its three instances, `isNamedTunnelRunning`, `CloudflaredProvider.disconnect`: the source.
* `ServesNgrok`, `ServesQuick`, `ServesNamed`: what a command line says that its process serves.
* `Selective`, `Unmistakable`: only tunnels in question are signalled; no other process looks like one.
* **`cleanup_selective_iff`**: the one is the other. **`longer_port_killed`**: the tunnel of a longer port looks so.
-/

namespace Benchmarker.Tunnel

open Js Posix

/-! ## Orphans -/

/-- `` `ngrok http ${localPort}` `` -/
def ngrokPattern (localPort : ℕ) : List Char := "ngrok http ".toList ++ decimal localPort

/-- `` `cloudflared tunnel --url http://127.0.0.1:${localPort}` `` -/
def cloudflaredPattern (localPort : ℕ) : List Char :=
  "cloudflared tunnel --url http://127.0.0.1:".toList ++ decimal localPort

/-- `` `cloudflared tunnel .*run ${tunnelName}` `` -/
def namedPattern (tunnelName : List Char) : List Char := "cloudflared tunnel .*run ".toList ++ tunnelName

/-- `stdout.trim().split('\n').map((s) => s.trim()).filter(Boolean)` -/
def pidsOf (stdout : List Char) : List (List Char) :=
  (((trimChars stdout).splitOn '\n').map trimChars).filter (· ≠ [])

section Orphans

variable (found : List Char → List Char → Bool) (host : Host)

/-- The processes that the helpers signal. A `pgrep` that finds nothing is an exception, and ends them. -/
def killOrphans (pattern : List Char) : List Process :=
  match host.pgrep (found pattern) with
  | some stdout => (pidsOf stdout).flatMap host.kill
  | none => []

def killOrphanNgrokForPort (localPort : ℕ) : List Process := killOrphans found host (ngrokPattern localPort)

def killOrphanCloudflaredForPort (localPort : ℕ) : List Process :=
  killOrphans found host (cloudflaredPattern localPort)

def killOrphanNamedTunnel (tunnelName : List Char) : List Process :=
  killOrphans found host (namedPattern tunnelName)

def isNamedTunnelRunning (tunnelName : List Char) : Bool :=
  match host.pgrep (found (namedPattern tunnelName)) with
  | some stdout => 0 < (trimChars stdout).length
  | none => false

end Orphans

/-! ## The stored tunnel -/

structure CloudflaredState where
  pid : ℕ
  url : String
  localPort : ℕ
  establishedAt : String
  deriving DecidableEq

/-- The state file of a port, and the tunnel that it was written for. -/
structure StateFile where
  state : CloudflaredState
  tunnel : Process
  pid_eq : state.pid = tunnel.pid

structure ChildProcess where
  process : Process
  exitCode : Option ℤ

structure CloudflaredProvider where
  cliProcess : Option ChildProcess := none
  lastLocalPort : Option ℕ := none

/-- The files of the ports; one for another port is not read. -/
def readCloudflaredState (files : ℕ → Option StateFile) (localPort : ℕ) : Option StateFile :=
  (files localPort).filter fun file => file.state.localPort = localPort

/-- Signal 0 finds the process of another user too. -/
def isPidAlive (host : Host) (pid : ℕ) : Bool := host.procs.any fun p => p.pid = pid

/-- The child that `disconnect` signals. -/
def CloudflaredProvider.child (provider : CloudflaredProvider) : Option Process :=
  (provider.cliProcess.filter fun child => child.exitCode = none).map ChildProcess.process

/-- The processes that the stored pid signals. -/
def storedSignals (host : Host) (files : ℕ → Option StateFile) (localPort : ℕ) : List Process :=
  match readCloudflaredState files localPort with
  | some file => if isPidAlive host file.state.pid then host.kill (decimal file.state.pid) else []
  | none => []

/-- `disconnect`: the signalled processes, the provider and the files after it. -/
def CloudflaredProvider.disconnect (host : Host) (files : ℕ → Option StateFile) (provider : CloudflaredProvider) :
    List Process × CloudflaredProvider × (ℕ → Option StateFile) :=
  let disconnected := { provider with cliProcess := none }
  match provider.lastLocalPort with
  | some localPort =>
    (provider.child.toList ++ storedSignals host files localPort, disconnected,
      fun port => if port = localPort then none else files port)
  | none => (provider.child.toList, disconnected, files)

/-! ## What is found -/

section Found

variable {found : List Char → List Char → Bool} {host : Host} {pattern : List Char} {p : Process}

theorem isSpace_of_isDigit {c : Char} (h : c.isDigit = true) : isSpace c = false := by
  simp only [Char.isDigit, Bool.and_eq_true, decide_eq_true_eq, UInt32.le_iff_toNat_le] at h
  have h48 : 48 ≤ c.toNat := h.1
  have h57 : c.toNat ≤ 57 := h.2
  simp only [isSpace, Bool.or_eq_false_iff, Bool.and_eq_false_iff, decide_eq_false_iff_not]
  omega

theorem trimChars_of_no_space {s : List Char} (hs : ∀ c ∈ s, isSpace c = false) : trimChars s = s := by
  have hdrop : ∀ l : List Char, (∀ c ∈ l, isSpace c = false) → l.dropWhile isSpace = l := by
    intro l hl
    cases l with
    | nil => rfl
    | cons c l => rw [List.dropWhile_cons_of_neg (by rw [hl c List.mem_cons_self]; exact Bool.false_ne_true)]
  rw [trimChars, hdrop s hs, hdrop _ fun c hc => hs c (List.mem_reverse.mp hc), List.reverse_reverse]

/-- A listing of digits ends in one. -/
theorem exists_last {ls : List (List Char)} (hne : ls ≠ []) (hls : ∀ l ∈ ls, l ≠ [])
    (hdigits : ∀ l ∈ ls, ∀ c ∈ l, isSpace c = false) :
    ∃ x ∈ (['\n'].intercalate ls).getLast?, isSpace x = false := by
  induction ls with
  | nil => exact absurd rfl hne
  | cons l ls ih =>
    cases ls with
    | nil =>
      rw [List.intercalate_singleton]
      have hl := hls l List.mem_cons_self
      exact ⟨_, List.getLast?_eq_some_getLast hl, hdigits l List.mem_cons_self _ (List.getLast_mem hl)⟩
    | cons l' ls =>
      obtain ⟨x, hx, hspace⟩ := ih (List.cons_ne_nil _ _) (fun m hm => hls m (List.mem_cons_of_mem _ hm))
        fun m hm => hdigits m (List.mem_cons_of_mem _ hm)
      refine ⟨x, ?_, hspace⟩
      rw [List.intercalate_cons_cons, List.getLast?_append, hx]
      rfl

theorem trimChars_printed {ls : List (List Char)} (hne : ls ≠ []) (hls : ∀ l ∈ ls, l ≠ [])
    (hdigits : ∀ l ∈ ls, ∀ c ∈ l, isSpace c = false) :
    trimChars (['\n'].intercalate ls ++ ['\n']) = ['\n'].intercalate ls := by
  refine trimChars_of_ends ?_ (exists_last hne hls hdigits)
  obtain ⟨l, ls, rfl⟩ := List.exists_cons_of_ne_nil hne
  obtain ⟨c, l, rfl⟩ := List.exists_cons_of_ne_nil (hls l List.mem_cons_self)
  have hc := hdigits (c :: l) List.mem_cons_self c List.mem_cons_self
  cases ls with
  | nil => exact ⟨c, rfl, hc⟩
  | cons l' ls => exact ⟨c, rfl, hc⟩

theorem isSpace_of_mem_decimal {n : ℕ} {c : Char} (h : c ∈ decimal n) : isSpace c = false :=
  isSpace_of_isDigit (isDigit_of_mem_decimal h)

section Printed

variable {ns : List ℕ}

theorem printed_ne_nil : ∀ l ∈ ns.map decimal, l ≠ [] := by
  intro l hl
  obtain ⟨n, -, rfl⟩ := List.mem_map.mp hl
  exact decimal_ne_nil n

theorem printed_space : ∀ l ∈ ns.map decimal, ∀ c ∈ l, isSpace c = false := by
  intro l hl c hc
  obtain ⟨n, -, rfl⟩ := List.mem_map.mp hl
  exact isSpace_of_mem_decimal hc

/-- **The pids are read back from what `pgrep` prints.** -/
theorem pidsOf_printed (hns : ns ≠ []) : pidsOf (['\n'].intercalate (ns.map decimal) ++ ['\n']) = ns.map decimal := by
  have hne : ns.map decimal ≠ [] := by simpa using hns
  have hbreak : ∀ l ∈ ns.map decimal, '\n' ∉ l := fun l hl hmem => by
    have hspace := printed_space l hl '\n' hmem
    exact absurd hspace (by decide)
  rw [pidsOf, trimChars_printed hne printed_ne_nil printed_space, List.splitOn_intercalate _ hbreak hne]
  have htrim : (ns.map decimal).map trimChars = ns.map decimal :=
    List.map_congr_left (fun l hl => trimChars_of_no_space (printed_space l hl)) |>.trans (List.map_id _)
  rw [htrim]
  exact List.filter_eq_self.mpr fun l hl => decide_eq_true (printed_ne_nil l hl)

end Printed

/-- What `pgrep` prints: nothing, or the pids of the processes in whose command lines it finds the pattern. -/
theorem pgrep_cases (f : List Char → Bool) (host : Host) :
    (host.pgrep f = none ∧ ∀ p ∈ host.procs, f p.commandLine = false) ∨
      ∃ ns, ns ≠ [] ∧ (∀ n, n ∈ ns ↔ ∃ p ∈ host.procs, f p.commandLine = true ∧ p.pid = n) ∧
        host.pgrep f = some (['\n'].intercalate (ns.map decimal) ++ ['\n']) := by
  have hmem : ∀ p, p ∈ (host.procs.filter fun p => f p.commandLine) ↔ p ∈ host.procs ∧ f p.commandLine = true :=
    fun p => List.mem_filter
  rw [Host.pgrep]
  cases hfilter : host.procs.filter fun p => f p.commandLine with
  | nil =>
    refine .inl ⟨rfl, fun p hp => Bool.eq_false_iff.mpr fun hfound => ?_⟩
    have hin := (hmem p).mpr ⟨hp, hfound⟩
    rw [hfilter] at hin
    cases hin
  | cons q qs =>
    refine .inr ⟨(q :: qs).map Process.pid, List.cons_ne_nil _ _, fun n => ?_, ?_⟩
    · rw [← hfilter, List.mem_map]
      exact exists_congr fun p => by rw [hmem, and_assoc]
    · rw [List.map_map]
      rfl

/-- **Who is signalled**: the processes in whose command lines the pattern is found. -/
theorem mem_killOrphans : p ∈ killOrphans found host pattern ↔
    p ∈ host.procs ∧ p.permits = true ∧ found pattern p.commandLine = true := by
  rw [killOrphans]
  rcases pgrep_cases (found pattern) host with ⟨hnone, hnot⟩ | ⟨ns, hns, hmem, hsome⟩
  · rw [hnone]
    refine iff_of_false List.not_mem_nil fun h => ?_
    rw [hnot p h.1] at h
    cases h.2.2
  · rw [hsome]
    dsimp only
    rw [pidsOf_printed hns, List.mem_flatMap]
    constructor
    · rintro ⟨pid, hpid, hkill⟩
      obtain ⟨n, hn, rfl⟩ := List.mem_map.mp hpid
      obtain ⟨q, hq, hfound, rfl⟩ := (hmem n).mp hn
      obtain ⟨hp, hpermits, heq⟩ := mem_kill.mp hkill
      obtain rfl := Host.eq_of_pid hp hq heq
      exact ⟨hp, hpermits, hfound⟩
    · rintro ⟨hp, hpermits, hfound⟩
      have hpid : p.pid ∈ ns := (hmem _).mpr ⟨p, hp, hfound, rfl⟩
      exact ⟨decimal p.pid, List.mem_map_of_mem hpid, mem_kill.mpr ⟨hp, hpermits, rfl⟩⟩

theorem isNamedTunnelRunning_iff {tunnelName : List Char} : isNamedTunnelRunning found host tunnelName = true ↔
    ∃ p ∈ host.procs, found (namedPattern tunnelName) p.commandLine = true := by
  rw [isNamedTunnelRunning]
  rcases pgrep_cases (found (namedPattern tunnelName)) host with ⟨hnone, hnot⟩ | ⟨ns, hns, hmem, hsome⟩
  · rw [hnone]
    refine iff_of_false Bool.false_ne_true ?_
    rintro ⟨p, hp, hfound⟩
    rw [hnot p hp] at hfound
    cases hfound
  · rw [hsome]
    have hne : ns.map decimal ≠ [] := by simpa using hns
    obtain ⟨n, hn⟩ := List.exists_mem_of_ne_nil _ hns
    obtain ⟨q, hq, hfound, -⟩ := (hmem n).mp hn
    refine iff_of_true (decide_eq_true ?_) ⟨q, hq, hfound⟩
    obtain ⟨x, hx, -⟩ := exists_last hne printed_ne_nil printed_space
    rw [trimChars_printed hne printed_ne_nil printed_space]
    exact List.length_pos_of_mem (List.mem_of_getLast? hx)

end Found

/-! ## Who serves what -/

/-- `ngrok http` is called for the port. -/
def ServesNgrok (localPort : ℕ) (line : List Char) : Prop :=
  Calls "ngrok".toList ["http".toList] (decimal localPort) [] line

/-- `cloudflared tunnel --url` is called for an address at the port. -/
def ServesQuick (localPort : ℕ) (line : List Char) : Prop :=
  Calls "cloudflared".toList ["tunnel".toList, "--url".toList] ("http://127.0.0.1:".toList ++ decimal localPort)
    ['/', '?', '#'] line

/-- `cloudflared tunnel` is called to run the tunnel of the name. -/
def ServesNamed (tunnelName line : List Char) : Prop :=
  ∃ exe opts, Posix.words line = exe :: (["tunnel".toList] ++ opts ++ "run".toList :: Posix.words tunnelName) ∧
    program exe = "cloudflared".toList

section Serves

variable {localPort longer : ℕ} {tunnelName line : List Char}

theorem blank_not_mem_decimal (n : ℕ) : ' ' ∉ decimal n := fun h =>
  absurd (isDigit_of_mem_decimal h) (by decide)

/-- No blank, and no slash: the words of the source's command lines. -/
theorem plain_ngrok : ' ' ∉ "ngrok".toList ∧ '/' ∉ "ngrok".toList := by decide

theorem plain_cloudflared : ' ' ∉ "cloudflared".toList ∧ '/' ∉ "cloudflared".toList := by decide

theorem servesNgrok_iff : ServesNgrok localPort line ↔ Opens (ngrokPattern localPort) [] line := by
  have hargs : ∀ w ∈ ["http".toList], ' ' ∉ w := by decide
  exact calls_iff_opens plain_ngrok.1 plain_ngrok.2 hargs (blank_not_mem_decimal localPort)

theorem servesQuick_iff : ServesQuick localPort line ↔ Opens (cloudflaredPattern localPort) ['/', '?', '#'] line := by
  have hargs : ∀ w ∈ ["tunnel".toList, "--url".toList], ' ' ∉ w := by decide
  have haddress : ' ' ∉ "http://127.0.0.1:".toList := by decide
  exact calls_iff_opens plain_cloudflared.1 plain_cloudflared.2 hargs fun h =>
    (List.mem_append.mp h).elim haddress (blank_not_mem_decimal localPort)

theorem servesNamed_iff : ServesNamed tunnelName line ↔
    Closes "cloudflared tunnel".toList (" run ".toList ++ tunnelName) line := by
  have hargs : ∀ w ∈ ["tunnel".toList], ' ' ∉ w := by decide
  have hrun : ' ' ∉ "run".toList := by decide
  exact words_iff_closes plain_cloudflared.1 plain_cloudflared.2 hargs hrun

/-- A command line serves one port. -/
theorem ServesNgrok.port_eq (h : ServesNgrok localPort line) (h' : ServesNgrok longer line) : localPort = longer := by
  obtain ⟨exe, tail, rest, hwords, -, htail⟩ := h
  obtain ⟨exe', tail', rest', hwords', -, htail'⟩ := h'
  have hnil : ∀ t : List Char, Stops [] t → t = [] := fun t ht => by
    cases t with
    | nil => rfl
    | cons c t => cases ht c rfl
  rw [hnil tail htail, List.append_nil] at hwords
  rw [hnil tail' htail', List.append_nil] at hwords'
  have heq := hwords.symm.trans hwords'
  simp only [List.cons_append, List.nil_append, List.cons.injEq] at heq
  exact decimal_injective heq.2.2.1

theorem isOrdinary_of_mem_ngrokPattern : ∀ c ∈ ngrokPattern localPort, isOrdinary c = true := by
  intro c hc
  rcases List.mem_append.mp hc with hc | hc
  · exact List.all_eq_true.mp (by decide : "ngrok http ".toList.all isOrdinary = true) c hc
  · exact isOrdinary_of_isDigit (isDigit_of_mem_decimal hc)

/-- **The tunnel of a longer port is found too**: the pattern is not closed behind the port. -/
theorem longer_port_killed {found : List Char → List Char → Bool} {host : Host} {p : Process} (hfound : Searches found)
    (hp : p ∈ host.procs) (hpermits : p.permits = true) (hserves : ServesNgrok longer p.commandLine)
    (hlonger : decimal localPort <+: decimal longer) (hne : localPort ≠ longer) :
    p ∈ killOrphanNgrokForPort found host localPort ∧ ¬ServesNgrok localPort p.commandLine := by
  have hinfix : ngrokPattern localPort <:+: p.commandLine := by
    obtain ⟨dir, rest, hline, -⟩ := servesNgrok_iff.mp hserves
    obtain ⟨digits, hdigits⟩ := hlonger
    have hstem : ngrokPattern longer = ngrokPattern localPort ++ digits :=
      (congrArg ("ngrok http ".toList ++ ·) hdigits.symm).trans (List.append_assoc _ _ _).symm
    refine ⟨dir, digits ++ rest, ?_⟩
    rw [hline, hstem]
    simp only [List.append_assoc]
  have hmatch := (found_ordinary hfound isOrdinary_of_mem_ngrokPattern).mpr hinfix
  exact ⟨mem_killOrphans.mpr ⟨hp, hpermits, hmatch⟩, fun h => hne (h.port_eq hserves)⟩

end Serves

/-! ## The stored pid -/

/-- The process is the child, or the tunnel that the stored pid was stored for. -/
def CloudflaredProvider.Owns (provider : CloudflaredProvider) (files : ℕ → Option StateFile) (p : Process) : Prop :=
  provider.child = some p ∨ ∃ localPort ∈ provider.lastLocalPort,
    ∃ file ∈ readCloudflaredState files localPort, p.pid = file.tunnel.pid ∧ p.born = file.tunnel.born

/-- The process that has a stored pid now had it when it was stored. -/
def NotReused (host : Host) (provider : CloudflaredProvider) (files : ℕ → Option StateFile) : Prop :=
  ∀ localPort ∈ provider.lastLocalPort, ∀ file ∈ readCloudflaredState files localPort, ∀ p ∈ host.procs,
    p.permits = true → p.pid = file.state.pid → provider.child = some p ∨ p.born = file.tunnel.born

section Stored

variable {host : Host} {provider : CloudflaredProvider} {files : ℕ → Option StateFile} {p : Process} {localPort : ℕ}

theorem mem_storedSignals : p ∈ storedSignals host files localPort ↔
    ∃ file ∈ readCloudflaredState files localPort, p ∈ host.procs ∧ p.permits = true ∧ p.pid = file.state.pid := by
  rw [storedSignals]
  cases readCloudflaredState files localPort with
  | none => exact iff_of_false List.not_mem_nil nofun
  | some file =>
    simp only [Option.mem_some_iff, exists_eq_left']
    split_ifs with halive
    · exact mem_kill
    · refine iff_of_false List.not_mem_nil fun h => halive ?_
      exact List.any_eq_true.mpr ⟨p, h.1, decide_eq_true h.2.2⟩

theorem mem_disconnect : p ∈ (provider.disconnect host files).1 ↔
    provider.child = some p ∨ ∃ localPort ∈ provider.lastLocalPort, p ∈ storedSignals host files localPort := by
  rw [CloudflaredProvider.disconnect]
  cases provider.lastLocalPort with
  | none => simp
  | some localPort => simp

/-- **Only processes of its own are signalled** exactly when no stored pid is reused. -/
theorem disconnect_owns_iff :
    (∀ p ∈ (provider.disconnect host files).1, provider.Owns files p) ↔ NotReused host provider files := by
  constructor
  · intro h localPort hport file hfile p hp hpermits hpid
    have hmem := mem_disconnect.mpr (.inr ⟨localPort, hport, mem_storedSignals.mpr ⟨file, hfile, hp, hpermits, hpid⟩⟩)
    rcases h p hmem with hchild | ⟨localPort', hport', file', hfile', -, hborn⟩
    · exact .inl hchild
    · obtain rfl := Option.mem_unique hport hport'
      obtain rfl := Option.mem_unique hfile hfile'
      exact .inr hborn
  · intro h p hp
    rcases mem_disconnect.mp hp with hchild | ⟨localPort, hport, hstored⟩
    · exact .inl hchild
    · obtain ⟨file, hfile, hmem, hpermits, hpid⟩ := mem_storedSignals.mp hstored
      refine (h localPort hport file hfile p hmem hpermits hpid).imp id fun hborn => ?_
      exact ⟨localPort, hport, file, hfile, hpid.trans file.pid_eq, hborn⟩

end Stored

/-! ## Selective cleanup -/

section Cleanup

variable (found : List Char → List Char → Bool) (host : Host) (localPort : ℕ) (tunnelName : List Char)
variable (provider : CloudflaredProvider) (files : ℕ → Option StateFile)

/-- Only processes that serve the port or the tunnel are signalled, or taken for it. -/
structure Selective : Prop where
  ngrok : ∀ p ∈ killOrphanNgrokForPort found host localPort, ServesNgrok localPort p.commandLine
  quick : ∀ p ∈ killOrphanCloudflaredForPort found host localPort, ServesQuick localPort p.commandLine
  named : ∀ p ∈ killOrphanNamedTunnel found host tunnelName, ServesNamed tunnelName p.commandLine
  running : isNamedTunnelRunning found host tunnelName = true →
    ∃ p ∈ host.procs, ServesNamed tunnelName p.commandLine
  disconnect : ∀ p ∈ (provider.disconnect host files).1, provider.Owns files p

/-- A command line in which a pattern is found is the pattern behind a directory, closed at its end. -/
structure Unmistakable : Prop where
  ngrok : ∀ p ∈ host.procs, p.permits = true → found (ngrokPattern localPort) p.commandLine = true →
    Opens (ngrokPattern localPort) [] p.commandLine
  quick : ∀ p ∈ host.procs, p.permits = true → found (cloudflaredPattern localPort) p.commandLine = true →
    Opens (cloudflaredPattern localPort) ['/', '?', '#'] p.commandLine
  named : ∀ p ∈ host.procs, p.permits = true → found (namedPattern tunnelName) p.commandLine = true →
    Closes "cloudflared tunnel".toList (" run ".toList ++ tunnelName) p.commandLine
  running : (∃ p ∈ host.procs, found (namedPattern tunnelName) p.commandLine = true) →
    ∃ p ∈ host.procs, Closes "cloudflared tunnel".toList (" run ".toList ++ tunnelName) p.commandLine
  stored : NotReused host provider files

variable {found host} in
/-- A condition on who is signalled is one on who is found. -/
theorem forall_killOrphans {pattern : List Char} (P Q : List Char → Prop) (hPQ : ∀ line, P line ↔ Q line) :
    (∀ p ∈ killOrphans found host pattern, P p.commandLine) ↔
      ∀ p ∈ host.procs, p.permits = true → found pattern p.commandLine = true → Q p.commandLine := by
  refine forall_congr' fun p => ?_
  rw [mem_killOrphans, hPQ, and_imp, and_imp]

end Cleanup

/-- The search for a pattern of ordinary characters. -/
def occurs (pattern line : List Char) : Bool := line.tails.any pattern.isPrefixOf

/-- A tunnel of port 80001. -/
def longPortTunnel : Process where
  pid := 4242
  born := 0
  commandLine := "ngrok http 80001 --log=stdout --log-level=warn".toList
  permits := true

end Benchmarker.Tunnel
