import Benchmarker.Deployment.Host

/-!
# Adopting a running deployment

A resumed entry skips its deployment when `findRunningDeployment` finds its container running. The
container is known by its name only.

* `launchOf`, `uses_deploy`: a deployment runs one container, for its model and under the model's name.
* `LaunchedIn`, **`Reach.launchedIn`**: every container of the host was launched for a deployed model.
* `runs_findRunningDeployment`: what is found stands in a listing.
* **`adoptsOwn_iff`**: only the own container is adopted exactly when no other deployed model has the name.
  `adopted_from_meta`: a container that was launched for another model.
-/

namespace Benchmarker.Deployment

open Async Async.Prog Async.System Js

/-! ## What a deployment runs -/

/-- The container that a request runs. -/
def launchOf : HostOp → Option RunCommand
  | .exec (.run command) _ _ => some command
  | _ => none

/-- The request runs no container. -/
def Still (o : HostOp) : Prop := launchOf o = none

/-- What the request runs serves the model and has its name. -/
def RunsFor (namePrefix modelId : String) (o : HostOp) : Prop :=
  ∀ command ∈ launchOf o, command.modelId = modelId ∧
    command.containerName = modelIdToContainerName modelId namePrefix

theorem RunsFor.of_still {namePrefix modelId : String} {o : HostOp} (h : Still o) :
    RunsFor namePrefix modelId o := by
  intro command hcommand
  rw [h] at hcommand
  cases hcommand

section Uses

variable {service : ServiceOptions} {print : ℚ → String} {jsonParse : String → Option Json}
  {sshHost : String} {rounds : ℕ} {q : HostOp → Prop}

theorem uses_execHost {command : HostCommand} {timeout : ℕ}
    (h : q (.exec command timeout service.useSudo)) : (execHost service command timeout).run.Uses q := by
  refine uses_throws_bind (uses_lift (uses_request.mpr h)) fun answer => ?_
  cases answer with
  | ok result => exact uses_throws_pure _
  | error message => exact uses_throw _

theorem still_estimateModelDiskGb (model : ModelInfo) : (estimateModelDiskGb service model).Uses Still := by
  refine uses_bind (uses_request.mpr rfl) fun answer => ?_
  rcases answer with _ | _ | _ <;> exact uses_ret _

theorem still_ensureDiskSpace (keepModelId : Option String) (requiredModelGb : Option ℚ) :
    ((ensureDiskSpace service.toDiskOptions keepModelId requiredModelGb).expand
      (fun o => request (HostOp.disk o)) : Prog HostAns Unit).Uses Still := by
  have hdisk : ∀ o, (request (HostOp.disk o) : Prog HostAns _).Uses Still := fun _ => uses_request.mpr rfl
  exact uses_expand hdisk _

theorem still_listContainers : (listContainers service).run.Uses Still :=
  uses_throws_bind (uses_execHost rfl) fun _ => uses_throws_pure _

theorem still_removeContainers (containers : List ContainerStatus) :
    (removeContainers service containers).run.Uses Still := by
  induction containers with
  | nil => exact uses_throws_pure _
  | cons container containers ih =>
    exact uses_throws_bind (uses_attempt (uses_execHost rfl)) fun _ => ih

theorem still_stopExistingContainers : (stopExistingContainers service).run.Uses Still :=
  uses_throws_bind still_listContainers still_removeContainers

theorem still_imageUpToDate : (imageUpToDate service).run.Uses Still :=
  uses_throws_bind (uses_execHost rfl) fun _ => uses_throws_bind (uses_execHost rfl) fun _ =>
    uses_throws_pure _

theorem still_pullImage (modelId : String) : (pullImage service modelId).run.Uses Still := by
  have hpull : (execHost service (.pull service.dockerImage) service.pullTimeoutMs >>= fun result =>
      if result.success then pure () else throw (.container ⟨modelId, .pull, service.dockerImage,
        "docker pull failed: " ++ outputOf result⟩) : DeployProg Unit).run.Uses Still :=
    uses_throws_bind (uses_execHost rfl) fun _ => uses_ite (uses_throws_pure _) (uses_throw _)
  refine uses_throws_bind (uses_attempt still_imageUpToDate) fun answer => ?_
  rcases answer with _ | _ | _
  · exact hpull
  · exact hpull
  · exact uses_throws_pure _

theorem still_describe (model : ModelInfo) (command : RunCommand) (tensorParallelSize : ℕ)
    (runResult : CommandResult) (healthCheckResult : Health.HealthCheckResult) :
    (describe service print jsonParse sshHost model command tensorParallelSize runResult
      healthCheckResult).run.Uses Still := by
  have hlength : (resolveMaxModelLen service print jsonParse healthCheckResult).run.Uses Still := by
    rw [resolveMaxModelLen, detectMaxModelLen]
    split
    · exact uses_throws_pure _
    · split
      · exact uses_throws_pure _
      · refine uses_throws_bind (uses_attempt (uses_execHost rfl)) fun answer => ?_
        cases answer <;> exact uses_throws_pure _
  have hversion : (resolveVllmVersion service command.containerName).run.Uses Still := by
    refine uses_throws_bind (uses_attempt (uses_execHost rfl)) fun answer => ?_
    cases answer <;> exact uses_throws_pure _
  have hgpu : (ExceptT.lift (request HostOp.gpuUtilization) : DeployProg _).run.Uses Still :=
    uses_lift (uses_request.mpr rfl)
  have hnow : (ExceptT.lift (request HostOp.now) : DeployProg _).run.Uses Still :=
    uses_lift (uses_request.mpr rfl)
  exact uses_throws_bind hlength fun _ => uses_throws_bind hgpu fun _ => uses_throws_bind hversion
    fun _ => uses_throws_bind hnow fun _ => uses_throws_pure _

theorem still_waitForContainer (model : ModelInfo) (containerName : String) :
    (waitForContainer service jsonParse rounds model containerName).run.Uses Still := by
  have hhealth : ∀ o, (request (HostOp.health o) : Prog HostAns _).Uses Still :=
    fun _ => uses_request.mpr rfl
  refine uses_throws_bind (uses_lift (uses_expand hhealth _)) fun answer => ?_
  cases answer with
  | ok result => exact uses_throws_pure _
  | error error => exact uses_throw _

theorem still_settle (model : ModelInfo) (command : RunCommand) (tensorParallelSize : ℕ)
    (runResult : CommandResult) : (settle service print jsonParse sshHost rounds model command
      tensorParallelSize runResult).run.Uses Still := by
  refine uses_throws_bind (uses_attempt (still_waitForContainer model command.containerName))
    fun answer => ?_
  rcases answer with error | _ | healthCheckResult
  · exact uses_throws_bind (uses_attempt (uses_execHost rfl)) fun _ => uses_throw _
  · exact uses_throws_pure _
  · exact uses_throws_bind (still_describe _ _ _ _ _) fun _ => uses_throws_pure _

theorem uses_launch {command : RunCommand} (hstill : ∀ o, Still o → q o)
    (hrun : q (.exec (.run command) service.runTimeoutMs service.useSudo)) :
    (launch service command).run.Uses q :=
  uses_throws_bind (uses_execHost hrun) fun _ =>
    uses_ite (uses_throws_bind (uses_execHost (hstill _ rfl)) fun _ => uses_execHost hrun)
      (uses_throws_pure _)

/-- **A deployment runs one container, for its model and under the name of the model.** -/
theorem uses_deploy (model : ModelInfo) (hardwareProfile : VMHardwareProfile)
    (overrides : VllmDeploymentOptions) : (deploy service print jsonParse sshHost rounds model
      hardwareProfile overrides).run.Uses (RunsFor service.containerNamePrefix model.id) := by
  have hstill : ∀ o, Still o → RunsFor service.containerNamePrefix model.id o := fun _ h => .of_still h
  refine uses_throws_bind (uses_lift ((still_estimateModelDiskGb model).mono hstill)) fun _ => ?_
  refine uses_throws_bind (uses_lift ((still_ensureDiskSpace _ _).mono hstill)) fun _ => ?_
  refine uses_throws_bind (still_stopExistingContainers.mono hstill) fun _ => ?_
  refine uses_throws_bind ((still_pullImage model.id).mono hstill) fun _ => ?_
  refine uses_throws_bind (uses_execHost (hstill _ rfl)) fun _ => ?_
  refine uses_throws_bind (uses_launch hstill fun command hcommand => ?_) fun runResult => ?_
  · cases hcommand
    exact ⟨rfl, rfl⟩
  · exact uses_ite ((still_settle _ _ _ _).mono hstill) (uses_throw _)

theorem still_stop (containerName : String) : (stop service containerName).run.Uses Still :=
  uses_throws_bind (uses_execHost rfl) fun _ =>
    uses_ite (uses_throws_bind (uses_execHost rfl) fun _ => uses_throws_pure _) (uses_throws_pure _)

theorem still_findRunningDeployment (modelId : String) :
    (findRunningDeployment service sshHost modelId).run.Uses Still :=
  uses_throws_bind still_listContainers fun _ => uses_throws_pure _

end Uses

/-! ## The containers of the host -/

variable (service : ServiceOptions) (print : ℚ → String) (jsonParse : String → Option Json)
  (sshHost : String) (rounds : ℕ) (S : Set String)

/-- Every container serves a deployed model and has its name. -/
def LaunchedIn (host : Host) : Prop :=
  ∀ c ∈ host.containers, c.modelId ∈ S ∧
    c.name = modelIdToContainerName c.modelId service.containerNamePrefix

/-- Only models of the set are deployed. -/
def Deploys (_ : Cfg HostAns HostRet Host) (move : Move HostCall HostChoice HostTick) : Prop :=
  ∀ model hardwareProfile overrides, move = .invoke (.deploy model hardwareProfile overrides) →
    model.id ∈ S

/-- The runs in which only models of the set are deployed, from a host without containers. -/
abbrev Deployed : Cfg HostAns HostRet Host → Prop :=
  (hostSystem service print jsonParse sshHost rounds).Reach (Deploys S) Host.empty

section Invariant

variable {service print jsonParse sshHost rounds S} {host host' : Host}

theorem mem_remove {c : Container} {name : String} (h : c ∈ (host.remove name).containers) :
    c ∈ host.containers := List.mem_of_mem_filter h

theorem containers_add {c : Container} (h : host.add c = some host') :
    host'.containers = c :: host.containers := by
  unfold Host.add at h
  split at h
  · cases h
  · cases h
    rfl

/-- What a served request makes of the containers. -/
theorem serveHost_containers {o : HostOp} {choice : HostChoice} {answer : HostAns o}
    (h : serveHost o choice host = some (answer, host')) :
    (∀ c ∈ host'.containers, c ∈ host.containers) ∨
      ∃ command c, launchOf o = some command ∧ c.name = command.containerName ∧
        c.modelId = command.modelId ∧ host'.containers = c :: host.containers := by
  unfold serveHost at h
  split at h
  case h_3 =>
    obtain ⟨-, heq⟩ := Option.ite_none_right_eq_some.mp h
    cases heq
    exact .inl fun c hc => hc
  case h_4 | h_5 =>
    cases h
    exact .inl fun c hc => mem_remove hc
  case h_6 =>
    obtain ⟨⟨hname, hmodel⟩, heq⟩ := Option.ite_none_right_eq_some.mp h
    obtain ⟨_, hadd, heq⟩ := Option.map_eq_some_iff.mp heq
    cases heq
    exact .inr ⟨_, _, rfl, hname, hmodel, containers_add hadd⟩
  case h_7 =>
    obtain ⟨-, heq⟩ := Option.ite_none_left_eq_some.mp h
    cases heq
    exact .inl fun c hc => hc
  all_goals
    cases h
    try exact .inl fun c hc => hc

theorem launchedIn_pass (tick : HostTick) (h : LaunchedIn service S host) :
    LaunchedIn service S (passHost tick host) := by
  cases tick with
  | lose name => exact fun c hc => h c (mem_remove hc)
  | change name state =>
    intro c hc
    obtain ⟨d, hd, rfl⟩ := List.mem_map.mp hc
    have hd := h d hd
    split_ifs
    · exact hd
    · exact hd

/-- What a call runs. -/
def LaunchesFor (service : ServiceOptions) : HostCall → HostOp → Prop
  | .deploy model _ _ => RunsFor service.containerNamePrefix model.id
  | _ => Still

theorem uses_start (call : HostCall) :
    ((hostSystem service print jsonParse sshHost rounds).start call).Uses (LaunchesFor service call) := by
  cases call with
  | deploy model hardwareProfile overrides => exact uses_deploy model hardwareProfile overrides
  | stop deploymentName => exact still_stop deploymentName
  | findRunningDeployment modelId => exact still_findRunningDeployment modelId

/-- **Every container of the host was launched for a deployed model.** -/
theorem launchedIn_of_deployed {cfg : Cfg HostAns HostRet Host}
    (h : Deployed service print jsonParse sshHost rounds S cfg) : LaunchedIn service S cfg.world := by
  refine Reach.world_inv (fun c hc => absurd hc List.not_mem_nil) ?_ (fun _ _ => launchedIn_pass _) h
  intro cfg i call past o k choice answer host' hreach hok hi hserve hinv
  rcases serveHost_containers hserve with hkeep | ⟨command, c, hlaunch, hname, hmodel, hadd⟩
  · exact fun c hc => hinv c (hkeep c hc)
  have hmem := List.mem_of_getElem? hi
  have hissue := hreach.issues (P := fun call _ o => LaunchesFor service call o)
    (fun call => (uses_start call).issues []) hmem
  have hcall := hreach.calls (q := fun call => ∀ model hardwareProfile overrides,
    call = .deploy model hardwareProfile overrides → model.id ∈ S)
    (fun hok model hardwareProfile overrides hcall => hok model hardwareProfile overrides (by rw [hcall]))
    (fun _ _ _ h => absurd h List.not_mem_nil) _ hmem
  cases call with
  | deploy model hardwareProfile overrides =>
    obtain ⟨hid, hnamed⟩ := hissue command hlaunch
    rw [LaunchedIn, hadd]
    refine List.forall_mem_cons.mpr ⟨⟨?_, ?_⟩, hinv⟩
    · rw [hmodel, hid]
      exact hcall model hardwareProfile overrides rfl
    · rw [hname, hnamed, hmodel, hid]
  | stop _ | findRunningDeployment _ =>
    have hnone : launchOf o = none := hissue
    rw [hlaunch] at hnone
    cases hnone

end Invariant

/-! ## What is adopted -/

/-- The host has the container running, and it was launched for the model. -/
def LaunchedFor (modelId deploymentName : String) (host : Host) : Prop :=
  ∃ c ∈ host.containers, c.name = deploymentName ∧ c.state = .running ∧ c.modelId = modelId

/-- A container that is found for a model was launched for it. -/
def AdoptsOwn (modelId : String) : Prop :=
  ∀ cfg, Deployed service print jsonParse sshHost rounds S cfg → ∀ past deployment,
    (⟨.findRunningDeployment modelId, past, .ret (.ok (some deployment))⟩ :
      Thread HostAns HostRet Host) ∈ cfg.threads →
    ∃ e ∈ past, LaunchedFor modelId deployment.deploymentName e.pre

section Found

variable {service print jsonParse sshHost rounds S} {modelId : String} {host : Host}
  {past : List (Event HostAns Host)} {deployment : RunningDeployment}

theorem text_eq_running {state : ContainerState} (h : toLowerCase state.text = "running") :
    state = .running := by
  cases state with
  | running => rfl
  | _ => exact absurd h (by decide +kernel)

theorem runs_execHost {command : HostCommand} {timeout : ℕ} {result : CommandResult}
    (h : (execHost service command timeout).run.Runs past (.ok result)) :
    ∃ pre post, past = [⟨.exec command timeout service.useSudo, .ok result, pre, post⟩] := by
  obtain ⟨es, fs, answer, rfl, hrequest, hrest⟩ := runs_ok_bind.mp h
  obtain ⟨_, hrequest, heq⟩ := runs_lift.mp hrequest
  cases heq
  obtain ⟨pre, post, rfl⟩ := runs_request.mp hrequest
  cases answer with
  | ok result' =>
    obtain ⟨rfl, heq⟩ := runs_throws_pure.mp hrest
    cases heq
    exact ⟨pre, post, rfl⟩
  | error message =>
    obtain ⟨-, heq⟩ := runs_throw.mp hrest
    cases heq

/-- **What is found stands in a listing**, under the name of the model and as running. -/
theorem runs_findRunningDeployment
    (h : (findRunningDeployment service sshHost modelId).run.Runs past (.ok (some deployment))) :
    ∃ result pre post,
      past = [⟨.exec .ps service.stopTimeoutMs service.useSudo, .ok result, pre, post⟩] ∧
      result.success = true ∧ ∃ status ∈ parseContainers result.stdout,
        status.containerName = deployment.deploymentName ∧
        deployment.deploymentName = modelIdToContainerName modelId defaultContainerNamePrefix ∧
        toLowerCase status.state = "running" := by
  obtain ⟨es, fs, containers, rfl, hlist, hfind⟩ := runs_ok_bind.mp h
  obtain ⟨es, gs, result, rfl, hexec, hparse⟩ := runs_ok_bind.mp hlist
  obtain ⟨pre, post, rfl⟩ := runs_execHost hexec
  obtain ⟨rfl, heq⟩ := runs_throws_pure.mp hparse
  obtain ⟨rfl, hsome⟩ := runs_throws_pure.mp hfind
  obtain ⟨status, hstatus, rfl⟩ := Option.map_eq_some_iff.mp (Except.ok.inj hsome)
  have hmem := List.mem_of_find?_eq_some hstatus
  have hname := List.find?_some hstatus
  rw [Bool.and_eq_true, decide_eq_true_eq, decide_eq_true_eq] at hname
  rw [← Except.ok.inj heq] at hmem
  by_cases hsuccess : result.success = true
  · rw [if_pos hsuccess] at hmem
    exact ⟨result, pre, post, rfl, hsuccess, status, hmem, rfl, hname.1, hname.2⟩
  · rw [if_neg hsuccess] at hmem
    exact absurd hmem List.not_mem_nil

/-- What a listing shows, the host has. -/
theorem listed_of_serves {result : CommandResult} {timeout : ℕ} {asRoot : Bool} {choice : HostChoice}
    {host' : Host} {status : ContainerStatus} (hsuccess : result.success = true)
    (h : serveHost (.exec .ps timeout asRoot) choice host = some (.ok result, host'))
    (hstatus : status ∈ parseContainers result.stdout) : ∃ c ∈ host.containers, c.columns = status := by
  cases choice with
  | listed shown durationMs =>
    obtain ⟨hsub, heq⟩ := Option.ite_none_right_eq_some.mp h
    cases heq
    rw [parseContainers_psText] at hstatus
    obtain ⟨c, hc, rfl⟩ := List.mem_map.mp hstatus
    exact ⟨c, hsub.mem hc, rfl⟩
  | command answer =>
    obtain ⟨hno, heq⟩ := Option.ite_none_left_eq_some.mp h
    cases heq
    exact absurd (by simp [HostCommand.touches, succeeded, hsuccess]) hno
  | _ => cases h

/-- A container that is found has the name of a deployed model, for which it was launched. -/
theorem found_of_deployed {cfg : Cfg HostAns HostRet Host}
    (h : Deployed service print jsonParse sshHost rounds S cfg)
    (hth : (⟨.findRunningDeployment modelId, past, .ret (.ok (some deployment))⟩ :
      Thread HostAns HostRet Host) ∈ cfg.threads) : ∃ e ∈ past, ∃ m' ∈ S,
        LaunchedFor m' deployment.deploymentName e.pre ∧
        modelIdToContainerName m' service.containerNamePrefix =
          modelIdToContainerName modelId defaultContainerNamePrefix := by
  obtain ⟨result, pre, post, rfl, hsuccess, status, hstatus, hname, hfound, hrunning⟩ :=
    runs_findRunningDeployment (h.after _ hth)
  obtain ⟨choice, hserve⟩ := h.served _ hth _ List.mem_cons_self
  obtain ⟨cfg₀, hreach, hworld⟩ := h.visited _ hth _ List.mem_cons_self
  obtain ⟨c, hc, rfl⟩ := listed_of_serves hsuccess hserve hstatus
  have hinv := launchedIn_of_deployed hreach
  rw [hworld] at hinv
  obtain ⟨hid, hnamed⟩ := hinv c hc
  refine ⟨_, List.mem_cons_self, c.modelId, hid, ⟨c, hc, hname, text_eq_running hrunning, rfl⟩, ?_⟩
  rw [← hnamed, ← hfound]
  exact hname

end Found

/-! ## A deployment that leaves a container -/

theorem isDockerName_default (modelId : String) :
    isDockerName (modelIdToContainerName modelId defaultContainerNamePrefix) = true := by
  have hfront : ((defaultContainerNamePrefix ++ "-").toList.all fun x =>
      x.isAlphanum || x = '_' || x = '.' || x = '-') = true := by decide
  have hdashed : ∀ x ∈ (dashed modelId).toList,
      (x.isAlphanum || x = '_' || x = '.' || x = '-') = true := by
    intro x hx
    rw [dashed, String.toList_ofList] at hx
    rcases mem_intercalate hx with hx | ⟨w, hw, hx⟩
    · rw [List.mem_singleton.mp hx]
      decide
    · have hchar := (mem_wordsOf hw).2 x hx
      simp only [isNameChar, Bool.or_eq_true, Bool.and_eq_true, decide_eq_true_eq] at hchar
      rcases hchar with ((⟨ha, hz⟩ | hdigit) | rfl) | rfl
      · have hlower : x.isLower = true := Bool.and_eq_true_iff.mpr ⟨decide_eq_true ha, decide_eq_true hz⟩
        have halpha : x.isAlpha = true := Bool.or_eq_true_iff.mpr (.inr hlower)
        simp [Char.isAlphanum, halpha]
      · simp [Char.isAlphanum, hdigit]
      · decide
      · decide
  have hstart : (defaultContainerNamePrefix ++ "-").toList = 'v' :: 'l' :: "lm-model-".toList := by decide
  rw [containerName_eq, isDockerName, String.toList_append]
  simp only [List.all_append, Bool.and_eq_true, List.all_eq_true]
  refine ⟨⟨?_, ?_⟩, List.all_eq_true.mp hfront, hdashed⟩
  · rw [hstart]
    rfl
  · simp [hstart]

section Leaves

variable {service : ServiceOptions} {print : ℚ → String} {jsonParse : String → Option Json}
  {sshHost : String} {rounds : ℕ} {call : HostCall} {host host' : Host}

/-- What the system makes of a request of a call. -/
abbrev HostServes (o : HostOp) (host : Host) (answer : HostAns o) (host' : Host) : Prop :=
  ∃ choice, serveHost o choice host = some (answer, host')

/-- A request that runs no container can be served in place. -/
theorem serves_still (o : HostOp) (host : Host) (h : Still o) : ∃ answer, HostServes o host answer host := by
  cases o with
  | servedWeight modelId => exact ⟨.ok none, .weight (.ok none), rfl⟩
  | disk o => exact ⟨.error "", .command (.error ""), rfl⟩
  | exec command timeout asRoot =>
    cases command with
    | run command => cases h
    | _ => exact ⟨.error "", .command (.error ""), rfl⟩
  | health o =>
    cases o with
    | now => exact ⟨0, .clock 0, rfl⟩
    | sleep ms => exact ⟨(), .woken, rfl⟩
    | exec command timeout asRoot => exact ⟨.error "", .command (.error ""), rfl⟩
  | gpuUtilization => exact ⟨none, .gpu none, rfl⟩
  | now => exact ⟨0, .time 0, rfl⟩

theorem leads_execHost {command : HostCommand} {timeout : ℕ} {result : CommandResult}
    (h : HostServes (.exec command timeout service.useSudo) host (.ok result) host') :
    (execHost service command timeout).run.Leads HostServes host (.ok result) host' :=
  (leads_lift (leads_request h)).throws_bind leads_ret

/-- A command that fails, without effect. -/
def failedResult : CommandResult := ⟨"", "", some 1, false, 0⟩

def succeededResult (stdout : String) : CommandResult := ⟨stdout, "", some 0, true, 0⟩

theorem serves_failed {command : HostCommand} {timeout : ℕ} {asRoot : Bool}
    (h : ∀ c, command ≠ .run c) :
    HostServes (.exec command timeout asRoot) host (.ok failedResult) host := by
  cases command with
  | run c => exact absurd rfl (h c)
  | _ => exact ⟨.command (.ok failedResult), rfl⟩

theorem leads_stopExistingContainers :
    (stopExistingContainers service).run.Leads HostServes host (.ok ()) host := by
  have hlist : (listContainers service).run.Leads HostServes host (.ok []) host :=
    (leads_execHost (serves_failed (by intro _ h; cases h))).throws_bind leads_ret
  exact hlist.throws_bind leads_ret

theorem leads_pullImage (modelId : String) :
    (pullImage service modelId).run.Leads HostServes host (.ok ()) host := by
  have hstill : (imageUpToDate service).run.Uses Still := still_imageUpToDate
  obtain ⟨upToDate, hcheck⟩ := exists_leads serves_still hstill host
  have hserve : HostServes (.exec (.pull service.dockerImage) service.pullTimeoutMs service.useSudo) host
      (.ok (succeededResult "")) host := ⟨.command (.ok (succeededResult "")), rfl⟩
  have hpull := (leads_execHost hserve).throws_bind (r := .ok ()) (g := fun result =>
    if result.success then pure () else throw (.container ⟨modelId, .pull, service.dockerImage,
      "docker pull failed: " ++ outputOf result⟩)) leads_ret
  refine (leads_attempt hcheck).throws_bind ?_
  rcases upToDate with _ | _ | _
  · exact hpull
  · exact hpull
  · exact leads_ret

/-- A host on which the name is free runs a container. -/
theorem leads_launch {command : RunCommand} {c : Container} (hname : c.name = command.containerName)
    (hmodel : c.modelId = command.modelId) (hadd : host.add c = some host') :
    (launch service command).run.Leads HostServes host (.ok (succeededResult c.id)) host' := by
  have hserve : HostServes (.exec (.run command) service.runTimeoutMs service.useSudo) host
      (.ok (succeededResult c.id)) host' := by
    refine ⟨.created c (.ok (succeededResult c.id)), ?_⟩
    rw [serveHost, if_pos ⟨hname, hmodel⟩, hadd]
    rfl
  exact (leads_execHost hserve).throws_bind leads_ret

/-- **A deployment may leave its container running**, on a host where the name is free. -/
theorem leads_deploy {model : ModelInfo} {c : Container} (hardwareProfile : VMHardwareProfile)
    (overrides : VllmDeploymentOptions)
    (hname : c.name = modelIdToContainerName model.id service.containerNamePrefix)
    (hmodel : c.modelId = model.id) (hadd : host.add c = some host') :
    ∃ answer, (deploy service print jsonParse sshHost rounds model hardwareProfile overrides).run.Leads
      HostServes host answer host' := by
  have hestimate : (estimateModelDiskGb service model).Uses Still := still_estimateModelDiskGb model
  obtain ⟨gb, hgb⟩ := exists_leads serves_still hestimate host
  have hspace : ((ensureDiskSpace service.toDiskOptions (some model.id) gb).expand
      (fun o => request (HostOp.disk o)) : Prog HostAns Unit).Uses Still := still_ensureDiskSpace _ _
  obtain ⟨⟨⟩, hdisk⟩ := exists_leads serves_still hspace host
  let containerName := modelIdToContainerName model.id service.containerNamePrefix
  let command := buildDockerRunCommand service print model containerName hardwareProfile.gpuCount overrides
  have hremove : (execHost service (.remove containerName) service.stopTimeoutMs).run.Leads HostServes host
      (.ok failedResult) host := leads_execHost (serves_failed (by intro _ h; cases h))
  have hlaunch : (launch service command).run.Leads HostServes host (.ok (succeededResult c.id)) host' :=
    leads_launch hname hmodel hadd
  have hstill : (settle service print jsonParse sshHost rounds model command hardwareProfile.gpuCount
      (succeededResult c.id)).run.Uses Still := still_settle _ _ _ _
  obtain ⟨answer, hsettle⟩ := exists_leads serves_still hstill host'
  exact ⟨answer, (leads_lift hgb).throws_bind ((leads_lift hdisk).throws_bind
    (leads_stopExistingContainers.throws_bind ((leads_pullImage model.id).throws_bind
      (hremove.throws_bind (hlaunch.throws_bind hsettle)))))⟩

theorem leads_listContainers {result : CommandResult} {containers : List ContainerStatus}
    (hsuccess : result.success = true) (hparse : parseContainers result.stdout = containers)
    (h : HostServes (.exec .ps service.stopTimeoutMs service.useSudo) host (.ok result) host) :
    (listContainers service).run.Leads HostServes host (.ok containers) host := by
  refine (leads_execHost h).throws_bind ?_
  rw [if_pos hsuccess, hparse]
  exact leads_ret

/-- A container that runs under the name of a model is found for it. -/
theorem leads_findRunningDeployment {modelId : String} {c : Container} (hc : host.containers = [c])
    (hname : c.name = modelIdToContainerName modelId defaultContainerNamePrefix)
    (hstate : c.state = .running) : (findRunningDeployment service sshHost modelId).run.Leads HostServes
      host (.ok (some ⟨c.name, "http://" ++ sshHost ++ ":" ++ toString service.apiPort⟩)) host := by
  have hserve : HostServes (.exec .ps service.stopTimeoutMs service.useSudo) host
      (.ok (succeededResult (psText [c]))) host := by
    refine ⟨.listed [c] 0, ?_⟩
    have hsub : [c].Sublist host.containers := by rw [hc]
    exact if_pos hsub
  have hlist : (listContainers service).run.Leads HostServes host (.ok [c.columns]) host := by
    refine leads_listContainers ?_ ?_ hserve
    · rw [succeededResult]
    · rw [succeededResult, parseContainers_psText, List.map_singleton]
  have hrunning : toLowerCase c.columns.state = "running" := by
    rw [Container.columns, hstate]
    exact (by decide +kernel : toLowerCase ContainerState.running.text = "running")
  have hfind : ([c.columns].find? fun status =>
      status.containerName = modelIdToContainerName modelId defaultContainerNamePrefix &&
        toLowerCase status.state = "running") = some c.columns := by
    refine List.find?_cons_of_pos ?_
    rw [Bool.and_eq_true, decide_eq_true_eq, decide_eq_true_eq]
    exact ⟨hname, hrunning⟩
  refine hlist.throws_bind ?_
  rw [hfind]
  exact leads_ret

end Leaves

/-! ## Whose container is adopted -/

section Claim

variable {service : ServiceOptions} {print : ℚ → String} {jsonParse : String → Option Json}
  {sshHost : String} {rounds : ℕ} {S : Set String} {modelId other : String}

/-- Where only own containers are adopted, a deployed model with the name of another is that other. -/
theorem eq_of_adoptsOwn (hother : other ∈ S)
    (hname : modelIdToContainerName other service.containerNamePrefix =
      modelIdToContainerName modelId defaultContainerNamePrefix)
    (h : AdoptsOwn service print jsonParse sshHost rounds S modelId) : other = modelId := by
  let c : Container := {
    id := "c0ffee"
    name := modelIdToContainerName modelId defaultContainerNamePrefix
    state := .running
    image := "vllm/vllm-openai:latest"
    status := "Up 2 minutes"
    modelId := other
    id_ok := ⟨by decide, List.all_eq_true.mp (by decide)⟩
    name_ok := isDockerName_default modelId
    image_ok := by decide
    status_ok := by decide }
  let model : ModelInfo := {
    id := other
    name := other
    architecture := ""
    contextWindow := 0
    license := ""
    parameterCount := none
    quantizations := []
    supportsToolCalling := true }
  have hadd : Host.empty.add c = some ⟨[c], List.nodup_singleton _⟩ := rfl
  have hserve : ∀ cfg i choice, Deploys S cfg (.serve i choice) := fun _ _ _ _ _ _ h => nomatch h
  have hdeploy : ∃ answer, (deploy service print jsonParse sshHost rounds model {} {}).run.Leads
      HostServes Host.empty answer ⟨[c], List.nodup_singleton _⟩ :=
    leads_deploy {} {} hname.symm rfl rfl
  obtain ⟨answer, hdeploy⟩ := hdeploy
  have hinvoke : ∀ cfg, Deploys S cfg (.invoke (.deploy model {} {})) := by
    intro _ _ _ _ heq
    cases heq
    exact hother
  -- the container is left by a deployment, and then looked for
  have hdeployed : ∃ cfg es, Deployed service print jsonParse sshHost rounds S cfg ∧
      cfg.world = ⟨[c], List.nodup_singleton _⟩ ∧ _ ∧ _ :=
    Reach.leads hserve (fun _ => rfl) .init rfl (hinvoke _) hdeploy
  obtain ⟨cfg, -, hreach, hworld, -⟩ := hdeployed
  have hfind : (findRunningDeployment service sshHost modelId).run.Leads HostServes cfg.world
      (.ok (some ⟨c.name, "http://" ++ sshHost ++ ":" ++ toString service.apiPort⟩)) cfg.world :=
    leads_findRunningDeployment (by rw [hworld]) rfl rfl
  have hcalls : Deploys S cfg (.invoke (.findRunningDeployment modelId)) := fun _ _ _ h => nomatch h
  obtain ⟨cfg', es, hreach', -, hthreads, hchain⟩ :=
    Reach.leads hserve (fun _ => rfl) hreach rfl hcalls hfind
  have hth := hthreads ▸ List.mem_append_right cfg.threads (List.mem_singleton_self _)
  obtain ⟨e, he, hown⟩ := h _ hreach' _ _ hth
  obtain ⟨result, pre, post, rfl, -⟩ := runs_findRunningDeployment (hreach'.after _ hth)
  obtain rfl := List.mem_singleton.mp he
  obtain ⟨d, hd, -, -, hmodel⟩ := hown
  have hpre : pre = ⟨[c], List.nodup_singleton _⟩ := hchain.1.trans hworld
  rw [hpre, List.mem_singleton] at hd
  rw [← hmodel, hd]

end Claim

variable (service : ServiceOptions) (print : ℚ → String) (jsonParse : String → Option Json)
  (sshHost : String) (rounds : ℕ) (S : Set String) (modelId : String)

/-- **Only the own container is adopted exactly when no other deployed model has the name**, that is the
prefix and the words of the id with dashes between. -/
theorem adoptsOwn_iff : AdoptsOwn service print jsonParse sshHost rounds S modelId ↔
    ∀ m' ∈ S, service.containerNamePrefix ++ "-" ++ dashed m' =
      defaultContainerNamePrefix ++ "-" ++ dashed modelId → m' = modelId := by
  constructor
  · intro h m' hm' hname
    rw [← containerName_eq, ← containerName_eq] at hname
    exact eq_of_adoptsOwn hm' hname h
  · intro h cfg hcfg past deployment hth
    obtain ⟨e, he, m', hm', hlaunched, hname⟩ := found_of_deployed hcfg hth
    rw [containerName_eq, containerName_eq] at hname
    obtain rfl := h m' hm' hname
    exact ⟨e, he, hlaunched⟩

/-- The container of one model is adopted for another whose id has its words. -/
theorem adopted_from_meta :
    ¬ AdoptsOwn {} (fun _ => "") (fun _ => none) "vm" 1 {"meta/llama-guard"} "meta-llama/guard" := by
  intro h
  have hname : modelIdToContainerName "meta/llama-guard" defaultContainerNamePrefix =
      modelIdToContainerName "meta-llama/guard" defaultContainerNamePrefix := by decide +kernel
  have heq : "meta/llama-guard" = "meta-llama/guard" :=
    eq_of_adoptsOwn (Set.mem_singleton _) hname h
  exact absurd heq (by decide)

end Benchmarker.Deployment
