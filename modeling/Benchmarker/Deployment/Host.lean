import Benchmarker.Async.Leads
import Benchmarker.Deployment.Launch
import Benchmarker.Failure.Tagging

/-!
# The Docker host

The host that the deployment service works on. It holds containers with distinct names, prints them for
`docker ps`, and may change or lose them at any time.

* `Container`, `Host`: a container has the columns of a listing, and the model that it was launched for.
* `psText`, **`parseContainers_psText`**: the service reads back what a listing prints.
* `HostCall`, `HostChoice`, `serveHost`, `hostSystem`: the calls of the service, served by the host.
-/

namespace Benchmarker.Deployment

open Async Async.Prog Js

/-! ## Containers -/

inductive ContainerState
  | created | running | paused | restarting | removing | exited | dead
  deriving DecidableEq, Repr

def ContainerState.text : ContainerState → String
  | .created => "created"
  | .running => "running"
  | .paused => "paused"
  | .restarting => "restarting"
  | .removing => "removing"
  | .exited => "exited"
  | .dead => "dead"

/-- A text that fits in a column of a listing. -/
def isColumn (text : String) : Bool := text.toList.all fun c => c ≠ '|' && c ≠ '\n'

/-- A text with a character at its end that is no space. -/
def endsPlain (text : String) : Bool := text.toList.getLast?.any fun c => !isSpace c

/-- The names that Docker accepts. -/
def isDockerName (name : String) : Bool :=
  name.toList.head?.any Char.isAlphanum && 1 < name.toList.length &&
    name.toList.all fun c => c.isAlphanum || c = '_' || c = '.' || c = '-'

structure Container where
  id : String
  name : String
  state : ContainerState
  image : String
  status : String
  /-- The model that it serves, `--model` of its launch. -/
  modelId : String
  id_ok : id.toList ≠ [] ∧ ∀ c ∈ id.toList, c.isAlphanum = true
  name_ok : isDockerName name = true
  image_ok : isColumn image = true
  status_ok : isColumn status = true ∧ endsPlain status = true
  deriving DecidableEq

structure Host where
  containers : List Container
  names_nodup : (containers.map (·.name)).Nodup
  deriving DecidableEq

namespace Host

def empty : Host := ⟨[], List.nodup_nil⟩

/-- The host without the container of that name. -/
def remove (host : Host) (name : String) : Host where
  containers := host.containers.filter fun c => c.name ≠ name
  names_nodup := host.names_nodup.sublist (List.filter_sublist.map _)

/-- The host with one container more; its name must be free. -/
def add (host : Host) (c : Container) : Option Host :=
  if h : c.name ∈ host.containers.map (·.name) then none
  else some ⟨c :: host.containers, List.nodup_cons.mpr ⟨h, host.names_nodup⟩⟩

/-- The host with another state of the container of that name. -/
def setState (host : Host) (name : String) (state : ContainerState) : Host where
  containers := host.containers.map fun c => if c.name = name then { c with state } else c
  names_nodup := by
    rw [List.map_map]
    have hname : ((·.name) ∘ fun c : Container => if c.name = name then { c with state } else c) =
        (·.name) := by
      funext c
      dsimp only [Function.comp]
      split_ifs <;> rfl
    rw [hname]
    exact host.names_nodup

end Host

/-! ## Listings -/

/-- The line of a container in a listing. -/
def psLine (c : Container) : List Char :=
  ['|'].intercalate [c.id.toList, c.name.toList, c.state.text.toList, c.image.toList, c.status.toList]

/-- What `docker ps` prints for the containers. -/
def psText (shown : List Container) : String := String.ofList (shown.flatMap fun c => psLine c ++ ['\n'])

/-- The columns of a container. -/
def Container.columns (c : Container) : ContainerStatus := ⟨c.id, c.name, c.state.text, c.image, c.status⟩

section Listings

variable {c : Container} {x : Char} {s : List Char}

theorem isSpace_of_isAlphanum (h : x.isAlphanum = true) : isSpace x = false := by
  have hranges : (decide (x.val ≥ 'A'.val ∧ x.val ≤ 'Z'.val) || (x.val ≥ 'a'.val && x.val ≤ 'z'.val) ||
      (x.val ≥ '0'.val && x.val ≤ '9'.val)) = true := h
  simp only [Bool.or_eq_true, Bool.and_eq_true, decide_eq_true_eq, ge_iff_le, UInt32.le_iff_toNat_le] at hranges
  change ((65 ≤ x.toNat ∧ x.toNat ≤ 90) ∨ 97 ≤ x.toNat ∧ x.toNat ≤ 122) ∨
    48 ≤ x.toNat ∧ x.toNat ≤ 57 at hranges
  rw [Bool.eq_false_iff, isSpace]
  simp only [ne_eq, Bool.or_eq_true, Bool.and_eq_true, decide_eq_true_eq]
  omega

theorem isColumn_iff {text : String} : isColumn text = true ↔ '|' ∉ text.toList ∧ '\n' ∉ text.toList := by
  simp only [isColumn, List.all_eq_true, Bool.and_eq_true, decide_eq_true_eq]
  constructor
  · intro h
    exact ⟨fun hbar => (h _ hbar).1 rfl, fun hline => (h _ hline).2 rfl⟩
  · rintro ⟨hbar, hline⟩ x hx
    exact ⟨fun heq => hbar (heq ▸ hx), fun heq => hline (heq ▸ hx)⟩

theorem isColumn_id (c : Container) : isColumn c.id = true := by
  refine isColumn_iff.mpr ⟨fun h => ?_, fun h => ?_⟩
  · exact absurd (c.id_ok.2 _ h) (by decide)
  · exact absurd (c.id_ok.2 _ h) (by decide)

theorem isColumn_name (c : Container) : isColumn c.name = true := by
  have hname := c.name_ok
  rw [isDockerName, Bool.and_eq_true, List.all_eq_true] at hname
  refine isColumn_iff.mpr ⟨fun h => ?_, fun h => ?_⟩
  · exact absurd (hname.2 _ h) (by decide)
  · exact absurd (hname.2 _ h) (by decide)

theorem isColumn_state (c : Container) : isColumn c.state.text = true := by
  cases c.state <;> decide

/-- The columns of a line. -/
def psColumns (c : Container) : List (List Char) :=
  [c.id.toList, c.name.toList, c.state.text.toList, c.image.toList, c.status.toList]

theorem plain_psColumns (c : Container) : ∀ column ∈ psColumns c, '|' ∉ column ∧ '\n' ∉ column := by
  simp only [psColumns, List.forall_mem_cons]
  exact ⟨isColumn_iff.mp (isColumn_id c), isColumn_iff.mp (isColumn_name c),
    isColumn_iff.mp (isColumn_state c), isColumn_iff.mp c.image_ok, isColumn_iff.mp c.status_ok.1,
    List.forall_mem_nil _⟩

theorem parseContainerLine_psLine (c : Container) : parseContainerLine (psLine c) = c.columns := by
  have hsplit : (psLine c).splitOn '|' = psColumns c :=
    List.splitOn_intercalate '|' (fun column h => (plain_psColumns c column h).1) (List.cons_ne_nil _ _)
  simp [parseContainerLine, hsplit, psColumns, Container.columns, String.ofList_toList]

theorem mem_intercalate {sep : List Char} {ls : List (List Char)} (h : x ∈ sep.intercalate ls) :
    x ∈ sep ∨ ∃ l ∈ ls, x ∈ l := by
  induction ls with
  | nil => cases h
  | cons l ls ih =>
    cases ls with
    | nil => exact .inr ⟨l, List.mem_cons_self, by simpa using h⟩
    | cons l' ls =>
      rw [List.intercalate_cons_cons, List.mem_append, List.mem_append] at h
      rcases h with (hl | hsep) | hrest
      · exact .inr ⟨l, List.mem_cons_self, hl⟩
      · exact .inl hsep
      · exact (ih hrest).imp_right fun ⟨l'', hl'', hx⟩ => ⟨l'', List.mem_cons_of_mem _ hl'', hx⟩

theorem newline_not_mem_psLine (c : Container) : '\n' ∉ psLine c := by
  intro h
  rcases mem_intercalate h with h | ⟨column, hcolumn, h⟩
  · exact absurd h (by decide)
  · exact (plain_psColumns c column hcolumn).2 h

/-- A line starts with a character of the id and ends with one of the status. -/
theorem psLine_ends (c : Container) :
    (∃ x ∈ (psLine c).head?, isSpace x = false) ∧ ∃ x ∈ (psLine c).getLast?, isSpace x = false := by
  constructor
  · obtain ⟨x, rest, hid⟩ := List.exists_cons_of_ne_nil c.id_ok.1
    refine ⟨x, ?_, isSpace_of_isAlphanum (c.id_ok.2 x (by simp [hid]))⟩
    rw [psLine, hid, List.intercalate_cons_cons_left]
    rfl
  · have hstatus := c.status_ok.2
    rw [endsPlain, Option.any_eq_true] at hstatus
    obtain ⟨x, hx, hspace⟩ := hstatus
    refine ⟨x, ?_, by simpa using hspace⟩
    simp [psLine, List.getLast?_append, List.getLast?_cons, hx]

/-- The lines of a listing, with line breaks between them. -/
theorem flatMap_psLine (shown : List Container) (h : shown ≠ []) :
    (shown.flatMap fun c => psLine c ++ ['\n']) = ['\n'].intercalate (shown.map psLine) ++ ['\n'] := by
  induction shown with
  | nil => exact absurd rfl h
  | cons c shown ih =>
    cases shown with
    | nil => simp
    | cons d shown =>
      rw [List.flatMap_cons, ih (List.cons_ne_nil _ _), List.map_cons, List.map_cons, List.map_cons,
        List.intercalate_cons_cons]
      simp

theorem ends_intercalate (shown : List Container) (h : shown ≠ []) :
    (∃ x ∈ (['\n'].intercalate (shown.map psLine)).head?, isSpace x = false) ∧
      ∃ x ∈ (['\n'].intercalate (shown.map psLine)).getLast?, isSpace x = false := by
  induction shown with
  | nil => exact absurd rfl h
  | cons c shown ih =>
    obtain ⟨⟨x, hx, hxs⟩, hlast⟩ := psLine_ends c
    cases shown with
    | nil => simpa using psLine_ends c
    | cons d shown =>
      obtain ⟨-, ⟨y, hy, hys⟩⟩ := ih (List.cons_ne_nil _ _)
      rw [List.map_cons] at hy
      rw [Option.mem_def] at hx hy
      refine ⟨⟨x, ?_, hxs⟩, y, ?_, hys⟩
      · simp [List.intercalate_cons_cons, List.head?_append, hx]
      · rw [List.map_cons, List.map_cons, List.intercalate_cons_cons]
        simp only [List.getLast?_append, hy]
        rfl

/-- **The service reads back what a listing prints.** -/
theorem parseContainers_psText (shown : List Container) :
    parseContainers (psText shown) = shown.map Container.columns := by
  by_cases h : shown = []
  · subst h
    rfl
  obtain ⟨hhead, hlast⟩ := ends_intercalate shown h
  have htrim : trimChars (psText shown).toList = ['\n'].intercalate (shown.map psLine) := by
    rw [psText, String.toList_ofList, flatMap_psLine shown h, trimChars_of_ends hhead hlast]
  have hblank : trim (psText shown) ≠ "" := by
    rw [trim, htrim]
    intro heq
    have hnil : ['\n'].intercalate (shown.map psLine) = [] := by
      have := congrArg String.toList heq
      rwa [String.toList_ofList] at this
    obtain ⟨x, hx, -⟩ := hhead
    rw [hnil] at hx
    cases hx
  have hsplit : (['\n'].intercalate (shown.map psLine)).splitOn '\n' = shown.map psLine := by
    refine List.splitOn_intercalate '\n' (fun line hline => ?_) (by simpa using h)
    obtain ⟨c, -, rfl⟩ := List.mem_map.mp hline
    exact newline_not_mem_psLine c
  have hfilter : ∀ line ∈ shown.map psLine, decide (trimChars line ≠ []) = true := by
    intro line hline
    obtain ⟨c, -, rfl⟩ := List.mem_map.mp hline
    refine decide_eq_true fun hnil => ?_
    obtain ⟨⟨x, hx, hxs⟩, -⟩ := psLine_ends c
    have hspace := trimChars_eq_nil.mp hnil x (List.mem_of_head? hx)
    rw [hxs] at hspace
    cases hspace
  rw [parseContainers, if_neg hblank, htrim, hsplit, List.filter_eq_self.mpr hfilter, List.map_map]
  exact List.map_congr_left fun c _ => parseContainerLine_psLine c

end Listings

/-! ## The system -/

/-- The calls of the deployment service and of the engine. -/
inductive HostCall
  | deploy (model : ModelInfo) (hardwareProfile : VMHardwareProfile) (overrides : VllmDeploymentOptions)
  | stop (deploymentName : String)
  | findRunningDeployment (modelId : String)

@[reducible] def HostRet : HostCall → Type
  | .deploy _ _ _ => Except DeployError (Option DeploymentResult)
  | .stop _ => Except DeployError Bool
  | .findRunningDeployment _ => Except DeployError (Option RunningDeployment)

/-- How a request is answered. `command` leaves the containers as they are; the next three belong to a
command that lists, removes or runs one. -/
inductive HostChoice
  | weight (answer : Except String (Option ℚ))
  | command (answer : Except String CommandResult)
  | listed (shown : List Container) (durationMs : ℚ)
  | removed (answer : Except String CommandResult)
  | created (c : Container) (answer : Except String CommandResult)
  | clock (now : ℤ)
  | woken
  | gpu (answer : Option Results.GpuUtilization)
  | time (now : Time)

/-- What happens to the containers by itself, also by a `docker system prune` or at the hands of others. -/
inductive HostTick
  | lose (name : String)
  | change (name : String) (state : ContainerState)

/-- The command has something to do with the containers. -/
def HostCommand.touches : HostCommand → Bool
  | .ps | .remove _ | .stopRemove _ | .run _ => true
  | _ => false

def succeeded : Except String CommandResult → Bool
  | .ok result => result.success
  | .error _ => false

/-- A listing shows some of the containers: the filter by image misses those whose image has moved on. A
command that touches the containers does not succeed without its effect, and may fail with it. -/
def serveHost : (o : HostOp) → HostChoice → Host → Option (HostAns o × Host)
  | .servedWeight _, .weight answer, host => some (answer, host)
  | .disk _, .command answer, host => some (answer, host)
  | .exec .ps _ _, .listed shown durationMs, host =>
    if shown.Sublist host.containers then some (.ok ⟨psText shown, "", some 0, true, durationMs⟩, host)
    else none
  | .exec (.remove name) _ _, .removed answer, host => some (answer, host.remove name)
  | .exec (.stopRemove name) _ _, .removed answer, host => some (answer, host.remove name)
  | .exec (.run command) _ _, .created c answer, host =>
    if c.name = command.containerName ∧ c.modelId = command.modelId then
      (host.add c).map fun host' => (answer, host')
    else none
  | .exec command _ _, .command answer, host =>
    if command.touches && succeeded answer then none else some (answer, host)
  | .health .now, .clock now, host => some (now, host)
  | .health (.sleep _), .woken, host => some ((), host)
  | .health (.exec _ _ _), .command answer, host => some (answer, host)
  | .gpuUtilization, .gpu answer, host => some (answer, host)
  | .now, .time now, host => some (now, host)
  | _, _, _ => none

def passHost : HostTick → Host → Host
  | .lose name, host => host.remove name
  | .change name state, host => host.setState name state

/-- The service at work. -/
def hostSystem (service : ServiceOptions) (print : ℚ → String) (jsonParse : String → Option Json)
    (sshHost : String) (rounds : ℕ) : System HostAns HostRet Host HostChoice HostTick where
  start
    | .deploy model hardwareProfile overrides =>
      (deploy service print jsonParse sshHost rounds model hardwareProfile overrides).run
    | .stop deploymentName => (stop service deploymentName).run
    | .findRunningDeployment modelId => (findRunningDeployment service sshHost modelId).run
  client _ := true
  forks _ _ := []
  serve _ := serveHost
  pass := passHost

end Benchmarker.Deployment
