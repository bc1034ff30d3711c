import Mathlib.Algebra.Order.Ring.Unbundled.Rat
import Benchmarker.Async.Each
import Benchmarker.Benchmark.Runner
import Benchmarker.Js.Number

/-!
# Disk space before a deployment

`VllmDeploymentService.ensureDiskSpace` as a program over the commands that it runs over SSH. A command
may throw. The log lines are left out.

* `DiskCommand`, `DiskOp`, `DiskProg`, `DiskOptions`: the commands, the requests and the options.
* `modelDir`, `baseName`, `keepDirOf`: the directory of a cached model.
* `readFreeDiskGb`, `evictLoop`, `evictOldestCachedModels`, `ensureDiskSpace`.
-/

namespace Benchmarker.Deployment

open Async Async.Prog Js

/-- The commands that are run on the host. -/
inductive DiskCommand
  | freeDisk
  | systemPrune
  | clearHostCache (hubPath : String)
  | inspectVolume (volume : String)
  | listModels (hubDir : String)
  | remove (dir : String)
  deriving DecidableEq, Repr

def DiskCommand.text : DiskCommand → String
  | .freeDisk => "df -PBG \"$(docker info --format '\x7b\x7b.DockerRootDir\x7d\x7d' 2>/dev/null || " ++
    "echo /)\" | awk 'NR==2 \x7bgsub(/[^0-9]/,\"\",$4); print $4\x7d'"
  | .systemPrune => "docker system prune -f"
  | .clearHostCache hubPath => "rm -rf " ++ hubPath
  | .inspectVolume volume => "docker volume inspect -f '\x7b\x7b.Mountpoint\x7d\x7d' " ++ volume
  | .listModels hubDir => "ls -1d -tr --time=atime " ++ hubDir ++ "/models--* 2>/dev/null || true"
  | .remove dir => "rm -rf " ++ dir

structure DiskOp where
  command : DiskCommand
  timeout : ℕ
  asRoot : Bool
  deriving DecidableEq

/-- The answers; a command that throws gives the message of its error. -/
@[reducible] def DiskAns (_ : DiskOp) : Type := Except String CommandResult

abbrev DiskProg (α : Type) : Type := Prog DiskAns α

/-- The options that disk hygiene reads. -/
structure DiskOptions where
  useSudo : Bool := false
  hfCacheVolume : String := "vllm-hf-cache"
  minFreeDiskGb : ℚ := 80
  deriving DecidableEq

variable (options : DiskOptions)

def execSSH (command : DiskCommand) (timeout : ℕ) : DiskProg (Except String CommandResult) :=
  request ⟨command, timeout, options.useSudo⟩

/-- What `readFreeDiskGb` makes of an answer. -/
def freeGb : Except String CommandResult → Option ℤ
  | .ok result => finiteInt (trim result.stdout)
  | .error _ => none

def readFreeDiskGb : DiskProg (Option ℤ) := do
  let answer ← execSSH options .freeDisk 20000
  return freeGb answer

/-- `free !== null && free < minFreeGb` -/
def low (minFreeGb : ℚ) (free : Option ℤ) : Bool := free.any fun gb => ((gb : ℤ) : ℚ) < minFreeGb

/-! ## Directories -/

/-- The directory of a model in the cache: `models--` and the id with `--` for every slash. -/
def modelDir (modelId : String) : String :=
  "models--" ++ String.ofList (modelId.toList.flatMap fun c => if c = '/' then ['-', '-'] else [c])

/-- `dir.split('/').pop()`: what follows the last slash. -/
def baseName (dir : String) : String :=
  String.ofList (dir.toList.reverse.takeWhile (· ≠ '/')).reverse

/-- The directory that is kept; an empty id names no model. -/
def keepDirOf (keepModelId : Option String) : Option String :=
  (keepModelId.filter (· ≠ "")).map modelDir

/-! ## Eviction -/

/-- The loop of `evictOldestCachedModels`, over the directories that are left. -/
def evictLoop (minFreeGb : ℚ) (keepDir : Option String) : List String → Option ℤ → DiskProg (Option ℤ)
  | [], free => return free
  | dir :: dirs, free => do
    if free.any fun gb => minFreeGb ≤ ((gb : ℤ) : ℚ) then return free
    else if keepDir = some (baseName dir) then evictLoop minFreeGb keepDir dirs free
    else
      match ← execSSH options (.remove dir) 180000 with
      | .ok _ =>
        let freed ← readFreeDiskGb options
        evictLoop minFreeGb keepDir dirs freed
      | .error _ => evictLoop minFreeGb keepDir dirs free

def evictOldestCachedModels (minFreeGb : ℚ) (currentFreeGb : Option ℤ) (keepModelId : Option String) :
    DiskProg (Option ℤ) := do
  if options.hfCacheVolume = "" then return currentFreeGb
  else
    match ← execSSH options (.inspectVolume options.hfCacheVolume) 20000 with
    | .error _ => return currentFreeGb
    | .ok mp =>
      let mountpoint := trim mp.stdout
      if mountpoint = "" then return currentFreeGb
      else
        match ← execSSH options (.listModels (mountpoint ++ "/hub")) 30000 with
        | .error _ => return currentFreeGb
        | .ok listing =>
          evictLoop options minFreeGb (keepDirOf keepModelId) (trimmedLines listing.stdout) currentFreeGb

/-! ## The escalation -/

/-- The free space that is asked for. -/
def minFreeGbFor (requiredModelGb : Option ℚ) : ℚ :=
  max options.minFreeDiskGb ((requiredModelGb.filter (0 < ·)).getD 0)

/-- The download cache of the host. -/
def hubPath : String :=
  if options.useSudo then "/root/.cache/huggingface/hub" else "\"$HOME\"/.cache/huggingface/hub"

/-- The second step: clear the download cache of the host, while space is low. -/
def clearIfLow (minFreeGb : ℚ) (after : Option ℤ) : DiskProg (Option ℤ) := do
  if low minFreeGb after then
    let _ ← execSSH options (.clearHostCache (hubPath options)) 120000
    readFreeDiskGb options
  else return after

/-- The last step. -/
def evictIfLow (minFreeGb : ℚ) (keepModelId : Option String) (after : Option ℤ) : DiskProg Unit := do
  if low minFreeGb after then
    let _ ← evictOldestCachedModels options minFreeGb after keepModelId
    return ()
  else return ()

def ensureDiskSpace (keepModelId : Option String) (requiredModelGb : Option ℚ) : DiskProg Unit := do
  if options.minFreeDiskGb ≤ 0 then return ()
  else
    let minFreeGb := minFreeGbFor options requiredModelGb
    let before ← readFreeDiskGb options
    if low minFreeGb before then
      let _ ← execSSH options .systemPrune 120000
      let pruned ← readFreeDiskGb options
      let after ← clearIfLow options minFreeGb pruned
      evictIfLow options minFreeGb keepModelId after
    else return ()

end Benchmarker.Deployment
