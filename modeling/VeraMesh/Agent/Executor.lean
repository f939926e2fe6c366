import VeraMesh.Agent.Work
import VeraMesh.Lib.Except

/-!
# The local executor

The operations of `LocalExecutor` (`executor.py`) and of `WorkBridgeLocalBackend`
(`workbridge_local.py`) up to their calls of `authorize`: the checks of their arguments, the paths
they resolve, and the `Plan` they arrive at.

* `Plan.Sound`: a plan asks for what its work needs, and keeps to the allowed roots and to the
  processes of the presented lane.
-/

namespace VeraMesh

open Python Except

/-- The file system as an operation finds it. -/
structure FileSystem where
  /-- `Path(value).expanduser().resolve()`. -/
  resolve : String → Except PyError Path
  /-- `Path(source).expanduser().is_symlink()`. -/
  sourceIsSymlink : String → Except PyError Bool
  /-- The absolute path that `_stat_sync` makes of its argument. -/
  absolute : String → Except PyError Path
  /-- `raw.is_symlink()` for an absolute path. -/
  isSymlink : Path → Except PyError Bool

/-- `LocalExecutor`. -/
structure LocalExecutor where
  allowedRoots : List Path
  maxReadChunkBytes : ℤ
  allowProcessExec : Bool

namespace LocalExecutor

variable (rt : Runtime) (x : LocalExecutor) (fs : FileSystem)

/-- The path lies inside an allowed root. -/
def InRoots (path : Path) : Prop := ∃ root ∈ x.allowedRoots, path.isRelativeTo rt root = true

/-- `_resolve_allowed`. -/
def resolveAllowed (value : String) : Except PyError Path := do
  let path ← fs.resolve value
  require (x.allowedRoots.any (path.isRelativeTo rt ·) = true) ⟨.pathOutsideRoots, path.str rt⟩
  return path

/-- Resolve a path, then go on to the calls of `authorize`. -/
def planOn (value : String) (plan : Path → Plan) : Except PyError Plan := do
  let resolved ← x.resolveAllowed rt fs value
  return plan resolved

/-- `read_text`. -/
def readText (path encoding : String) : Except PyError Plan :=
  x.planOn rt fs path fun resolved =>
    ⟨[⟨"fs.read", fsResource resolved, .read⟩], .readText resolved encoding⟩

/-- The check of `expected_file_version`. -/
def requireFileVersion : PyValue → Except PyError (Option String)
  | .none => .ok none
  | .str version =>
    if version = "" then
      .error ⟨.valueError, "expected_file_version must be a non-empty string"⟩
    else .ok (some version)
  | _ => .error ⟨.valueError, "expected_file_version must be a non-empty string"⟩

/-- `read_bytes_range`. -/
def readBytesRange (path : String) (offset maxBytes expectedFileVersion : PyValue) :
    Except PyError Plan := do
  let offset ← requireInt offset (0 ≤ ·) ⟨.valueError, "offset must be a non-negative integer"⟩
  let limit := match maxBytes with | .none => .int x.maxReadChunkBytes | v => v
  let limit ← requireInt limit (fun n => 1 ≤ n ∧ n ≤ x.maxReadChunkBytes)
    ⟨.valueError, "max_bytes exceeds workstation chunk-read policy"⟩
  let expected ← requireFileVersion expectedFileVersion
  x.planOn rt fs path fun resolved =>
    ⟨[⟨"fs.read", fsResource resolved, .read⟩], .readBytesRange resolved offset limit expected⟩

/-- `write_text`. -/
def writeText (path content encoding : String) : Except PyError Plan :=
  x.planOn rt fs path fun resolved =>
    ⟨[⟨"fs.write", fsResource resolved, .write⟩], .writeText resolved content encoding⟩

/-- `append_text`. -/
def appendText (path content encoding : String) : Except PyError Plan :=
  x.planOn rt fs path fun resolved =>
    ⟨[⟨"fs.write", fsResource resolved, .write⟩], .appendText resolved content encoding⟩

/-- `make_directory`. -/
def makeDirectory (path : String) (parents : PyValue) : Except PyError Plan := do
  let parents ← requireBool parents ⟨.valueError, "parents must be bool"⟩
  x.planOn rt fs path fun resolved =>
    ⟨[⟨"fs.write", fsResource resolved, .write⟩], .makeDirectory resolved parents⟩

/-- `move_path`. -/
def movePath (source destination : String) : Except PyError Plan := do
  let isSymlink ← fs.sourceIsSymlink source
  require (isSymlink = false) ⟨.valueError, "moving symlinks is not supported"⟩
  let resolvedSource ← x.resolveAllowed rt fs source
  x.planOn rt fs destination fun resolvedDestination =>
    ⟨[⟨"fs.write", fsResource resolvedSource, .write⟩,
      ⟨"fs.write", fsResource resolvedDestination, .write⟩],
      .movePath resolvedSource resolvedDestination⟩

/-- `replace_text`. -/
def replaceText (path oldString newString : String) (expectedCount : PyValue)
    (encoding : String) : Except PyError Plan := do
  require (oldString ≠ "") ⟨.valueError, "old_string must be non-empty"⟩
  let expectedCount ← requireInt expectedCount (fun n => 1 ≤ n ∧ n ≤ 1000)
    ⟨.valueError, "expected_count must be in 1..1000"⟩
  x.planOn rt fs path fun resolved =>
    ⟨[⟨"fs.read", fsResource resolved, .read⟩, ⟨"fs.write", fsResource resolved, .write⟩],
      .replaceText resolved oldString newString expectedCount encoding⟩

/-- The check of a command that is not empty. -/
def requireArgv (argv : List String) : Except PyError Unit :=
  require (argv ≠ [] ∧ ∀ item ∈ argv, item ≠ "")
    ⟨.valueError, "argv must be a non-empty list of non-empty strings"⟩

/-- `run_process`. -/
def runProcess (argv : List String) (cwd : String) (timeoutS : PyFloat) :
    Except PyError Plan := do
  require (x.allowProcessExec = true)
    ⟨.processExecutionDisabled, "process.exec is disabled by local workstation policy"⟩
  requireArgv argv
  require (timeoutS.le 0 = false) ⟨.valueError, "timeout_s must be positive"⟩
  x.planOn rt fs cwd fun resolvedCwd =>
    ⟨[⟨"process.exec", cwdResource resolvedCwd, .write⟩], .runProcess argv resolvedCwd timeoutS⟩

end LocalExecutor

/-- `WorkBridgeLocalBackend`. -/
structure WorkBridgeLocalBackend where
  /-- The canonical Windows path of a path inside the read roots, and the refusal of others. -/
  candidate : String → Except PyError String

namespace WorkBridgeLocalBackend

variable (rt : Runtime) (w : WorkBridgeLocalBackend)

/-- `can_handle`. -/
def canHandle (path : String) : Bool := (w.candidate path).isOk

/-- `_authorize`, and the call of a WorkBridge tool. -/
def planOn (tool path : String) : Except PyError Plan := do
  let candidate ← w.candidate path
  let key := "fs:" ++ String.ofList (candidate.toList.map fun c => if c = '\\' then '/' else c)
  return ⟨[⟨"fs.read", key, .read⟩], .workBridge tool candidate⟩

/-- `read_text`. -/
def readText (path encoding : String) : Except PyError Plan := do
  require ((rt.casefold encoding).toList.filter (· ≠ '-') = "utf8".toList)
    ⟨.workBridgeLocalError, "WorkBridge delegated text reads support UTF-8 only"⟩
  w.planOn "workspace_read_text" path

/-- `stat`. -/
def stat (path : String) : Except PyError Plan := w.planOn "workspace_stat" path

/-- `list_dir`. -/
def listDir (path : String) (offset maxEntries : PyValue) : Except PyError Plan := do
  let _ ← requireInt offset (0 ≤ ·) ⟨.valueError, "offset must be a non-negative integer"⟩
  let _ ← requireInt maxEntries (fun n => 1 ≤ n ∧ n ≤ 1000)
    ⟨.valueError, "max_entries must be in 1..1000"⟩
  w.planOn "workspace_list" path

end WorkBridgeLocalBackend

/-! ## Sound plans -/

/-- Every process of the table was started inside the allowed roots. -/
def ProcessTable.InRoots (rt : Runtime) (x : LocalExecutor) (t : ProcessTable) : Prop :=
  ∀ handle p, t.get? handle = some p → x.InRoots rt p.cwd

/-- The plan asks for what its work needs, and its work keeps to the allowed roots and to the
processes of the lane. -/
structure Plan.Sound (rt : Runtime) (x : LocalExecutor) (t : ProcessTable) (laneId : String)
    (fencingToken : ℤ) (plan : Plan) : Prop where
  checks_eq : plan.checks = plan.work.needs
  inRoots : ∀ path ∈ plan.work.targets, x.InRoots rt path
  owned : plan.work.OwnedBy t laneId fencingToken

namespace LocalExecutor

variable {rt : Runtime} {x : LocalExecutor} {fs : FileSystem} {t : ProcessTable}
  {laneId : String} {fencingToken : ℤ} {path : String} {plan : Plan}

theorem inRoots_of_resolveAllowed {value : String} {resolved : Path}
    (h : x.resolveAllowed rt fs value = .ok resolved) : x.InRoots rt resolved := by
  simp only [resolveAllowed, bind_eq_ok, pure_eq_ok, require_eq_ok] at h
  obtain ⟨_, -, -, hany, rfl⟩ := h
  exact List.any_eq_true.mp hany

theorem planOn_eq_ok {value : String} {f : Path → Plan}
    (h : x.planOn rt fs value f = .ok plan) :
    ∃ resolved, x.InRoots rt resolved ∧ plan = f resolved := by
  simp only [planOn, bind_eq_ok, pure_eq_ok] at h
  obtain ⟨resolved, hresolved, rfl⟩ := h
  exact ⟨resolved, inRoots_of_resolveAllowed hresolved, rfl⟩

/-- A plan on one path is sound if it asks for what it needs. -/
theorem sound_of_planOn {value : String} {f : Path → Plan}
    (h : x.planOn rt fs value f = .ok plan)
    (hf : ∀ resolved, (f resolved).checks = (f resolved).work.needs ∧
      (f resolved).work.targets = [resolved] ∧ (f resolved).work.processes = []) :
    plan.Sound rt x t laneId fencingToken := by
  obtain ⟨resolved, hin, rfl⟩ := planOn_eq_ok h
  obtain ⟨hchecks, htargets, hprocesses⟩ := hf resolved
  refine ⟨hchecks, fun p hp => ?_, fun e he => ?_⟩
  · rw [htargets, List.mem_singleton] at hp
    exact hp ▸ hin
  · rw [hprocesses] at he
    cases he

theorem sound_readText {encoding : String} (h : x.readText rt fs path encoding = .ok plan) :
    plan.Sound rt x t laneId fencingToken :=
  sound_of_planOn h fun _ => ⟨rfl, rfl, rfl⟩

theorem sound_readBytesRange {offset maxBytes expectedFileVersion : PyValue}
    (h : x.readBytesRange rt fs path offset maxBytes expectedFileVersion = .ok plan) :
    plan.Sound rt x t laneId fencingToken := by
  simp only [readBytesRange, bind_eq_ok] at h
  obtain ⟨_, -, _, -, _, -, h⟩ := h
  exact sound_of_planOn h fun _ => ⟨rfl, rfl, rfl⟩

theorem sound_writeText {content encoding : String}
    (h : x.writeText rt fs path content encoding = .ok plan) :
    plan.Sound rt x t laneId fencingToken :=
  sound_of_planOn h fun _ => ⟨rfl, rfl, rfl⟩

theorem sound_appendText {content encoding : String}
    (h : x.appendText rt fs path content encoding = .ok plan) :
    plan.Sound rt x t laneId fencingToken :=
  sound_of_planOn h fun _ => ⟨rfl, rfl, rfl⟩

theorem sound_makeDirectory {parents : PyValue}
    (h : x.makeDirectory rt fs path parents = .ok plan) :
    plan.Sound rt x t laneId fencingToken := by
  simp only [makeDirectory, bind_eq_ok] at h
  obtain ⟨_, -, h⟩ := h
  exact sound_of_planOn h fun _ => ⟨rfl, rfl, rfl⟩

theorem sound_movePath {source destination : String}
    (h : x.movePath rt fs source destination = .ok plan) :
    plan.Sound rt x t laneId fencingToken := by
  simp only [movePath, bind_eq_ok] at h
  obtain ⟨_, -, _, -, resolvedSource, hsource, h⟩ := h
  obtain ⟨resolvedDestination, hdestination, rfl⟩ := planOn_eq_ok h
  refine ⟨rfl, fun p hp => ?_, by simp [Work.OwnedBy, Work.processes]⟩
  simp only [Work.targets, List.mem_cons, List.not_mem_nil, or_false] at hp
  rcases hp with rfl | rfl
  · exact inRoots_of_resolveAllowed hsource
  · exact hdestination

theorem sound_replaceText {oldString newString encoding : String} {expectedCount : PyValue}
    (h : x.replaceText rt fs path oldString newString expectedCount encoding = .ok plan) :
    plan.Sound rt x t laneId fencingToken := by
  simp only [replaceText, bind_eq_ok] at h
  obtain ⟨_, -, _, -, h⟩ := h
  exact sound_of_planOn h fun _ => ⟨rfl, rfl, rfl⟩

theorem sound_runProcess {argv : List String} {cwd : String} {timeoutS : PyFloat}
    (h : x.runProcess rt fs argv cwd timeoutS = .ok plan) :
    plan.Sound rt x t laneId fencingToken := by
  simp only [runProcess, bind_eq_ok] at h
  obtain ⟨_, -, _, -, _, -, h⟩ := h
  exact sound_of_planOn h fun _ => ⟨rfl, rfl, rfl⟩

end LocalExecutor

namespace WorkBridgeLocalBackend

variable {rt : Runtime} {x : LocalExecutor} {w : WorkBridgeLocalBackend} {t : ProcessTable}
  {laneId : String} {fencingToken : ℤ} {path : String} {plan : Plan}

/-- A WorkBridge plan is on no path of the executor. -/
theorem sound_planOn {tool : String} (h : w.planOn tool path = .ok plan) :
    plan.Sound rt x t laneId fencingToken := by
  simp only [planOn, bind_eq_ok, pure_eq_ok] at h
  obtain ⟨_, -, rfl⟩ := h
  exact ⟨rfl, by simp [Work.targets], by simp [Work.OwnedBy, Work.processes]⟩

theorem sound_readText {encoding : String} (h : w.readText rt path encoding = .ok plan) :
    plan.Sound rt x t laneId fencingToken := by
  simp only [readText, bind_eq_ok] at h
  obtain ⟨_, -, h⟩ := h
  exact sound_planOn h

theorem sound_listDir {offset maxEntries : PyValue}
    (h : w.listDir path offset maxEntries = .ok plan) :
    plan.Sound rt x t laneId fencingToken := by
  simp only [listDir, bind_eq_ok] at h
  obtain ⟨_, -, _, -, h⟩ := h
  exact sound_planOn h

end WorkBridgeLocalBackend

end VeraMesh
