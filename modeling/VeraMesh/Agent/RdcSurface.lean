import VeraMesh.Agent.Executor

/-!
# Searches and managed processes

The operations of `RdcSurface` (`rdc_surface.py`) up to their calls of `authorize`. An operation on
a managed process first looks for the process under the presented lane and fence.
-/

namespace VeraMesh

open Python Except

namespace RdcSurface

variable (rt : Runtime) (x : LocalExecutor) (fs : FileSystem) (t : ProcessTable)

/-- `_stat_sync` up to `os.lstat`. -/
def stat (value : String) : Except PyError Plan := do
  let raw ← fs.absolute value
  let isSymlink ← fs.isSymlink raw
  if isSymlink then
    x.planOn rt fs (raw.parent.str rt) fun parent =>
      ⟨[⟨"fs.read", fsResource parent, .read⟩], .statSymlink parent raw.name⟩
  else
    x.planOn rt fs (raw.str rt) fun resolved =>
      ⟨[⟨"fs.read", fsResource resolved, .read⟩], .stat resolved⟩

/-- `list_dir`. -/
def listDir (path : String) (offset maxEntries : PyValue) : Except PyError Plan := do
  let offset ← requireInt offset (0 ≤ ·) ⟨.valueError, "offset must be a non-negative integer"⟩
  let maxEntries ← requireInt maxEntries (fun n => 1 ≤ n ∧ n ≤ 1000)
    ⟨.valueError, "max_entries must be in 1..1000"⟩
  x.planOn rt fs path fun directory =>
    ⟨[⟨"fs.read", fsResource directory, .read⟩], .listDir directory offset maxEntries⟩

/-- `search`. -/
def search (root query : String) (offset maxResults maxEntries maxDepth caseSensitive : PyValue) :
    Except PyError Plan := do
  require (query ≠ "") ⟨.valueError, "query must be a non-empty string"⟩
  let offset ← requireInt offset (0 ≤ ·) ⟨.valueError, "offset must be a non-negative integer"⟩
  let maxResults ← requireInt maxResults (fun n => 1 ≤ n ∧ n ≤ 500)
    ⟨.valueError, "max_results must be in 1..500"⟩
  let maxEntries ← requireInt maxEntries (fun n => 1 ≤ n ∧ n ≤ 50000)
    ⟨.valueError, "max_entries must be in 1..50000"⟩
  let maxDepth ← requireInt maxDepth (fun n => 0 ≤ n ∧ n ≤ 32)
    ⟨.valueError, "max_depth must be in 0..32"⟩
  let caseSensitive ← requireBool caseSensitive ⟨.valueError, "case_sensitive must be bool"⟩
  x.planOn rt fs root fun root =>
    ⟨[⟨"fs.read", fsResource root, .read⟩],
      .search root query offset maxResults maxEntries maxDepth caseSensitive⟩

/-- `search_content`. -/
def searchContent (root query filePattern : String)
    (offset maxResults maxEntries maxDepth maxTotalBytes caseSensitive : PyValue) :
    Except PyError Plan := do
  require (query ≠ "") ⟨.valueError, "query must be a non-empty string"⟩
  require (filePattern ≠ "") ⟨.valueError, "file_pattern must be a non-empty string"⟩
  let offset ← requireInt offset (0 ≤ ·) ⟨.valueError, "offset must be a non-negative integer"⟩
  let maxResults ← requireInt maxResults (fun n => 1 ≤ n ∧ n ≤ 500)
    ⟨.valueError, "max_results must be in 1..500"⟩
  let maxEntries ← requireInt maxEntries (fun n => 1 ≤ n ∧ n ≤ 50000)
    ⟨.valueError, "max_entries must be in 1..50000"⟩
  let maxDepth ← requireInt maxDepth (fun n => 0 ≤ n ∧ n ≤ 32)
    ⟨.valueError, "max_depth must be in 0..32"⟩
  let maxTotalBytes ← requireInt maxTotalBytes (fun n => 1 ≤ n ∧ n ≤ 16777216)
    ⟨.valueError, "max_total_bytes must be in 1..16777216"⟩
  let caseSensitive ← requireBool caseSensitive ⟨.valueError, "case_sensitive must be bool"⟩
  x.planOn rt fs root fun root =>
    ⟨[⟨"fs.read", fsResource root, .read⟩],
      .searchContent root query filePattern offset maxResults maxEntries maxDepth maxTotalBytes
        caseSensitive⟩

/-- `_require_process_policy`. -/
def requireProcessPolicy : Except PyError Unit :=
  require (x.allowProcessExec = true)
    ⟨.processExecutionDisabled, "process operations are disabled by local workstation policy"⟩

/-- `process_start`. -/
def processStart (argv : List String) (cwd : String) (maxRuntimeS : PyValue) :
    Except PyError Plan := do
  requireProcessPolicy x
  LocalExecutor.requireArgv argv
  let maxRuntimeS ← rt.float maxRuntimeS
  require ((PyFloat.ofRat (1 / 10)).le maxRuntimeS = true ∧ maxRuntimeS.le 3600 = true)
    ⟨.valueError, "max_runtime_s must be in 0.1..3600.0"⟩
  x.planOn rt fs cwd fun resolvedCwd =>
    ⟨[⟨"process.exec", cwdResource resolvedCwd, .write⟩],
      .startProcess argv resolvedCwd maxRuntimeS⟩

/-- `process_list`. -/
def processList (laneId : String) (fencingToken : ℤ) : Except PyError Plan := do
  requireProcessPolicy x
  let visible := (t.filter fun _ p => p.ownedBy laneId fencingToken).entries.map fun e =>
    (e.1, e.2.cwd)
  return ⟨visible.map fun e => ⟨"process.inspect", cwdResource e.2, .read⟩, .processList visible⟩

/-- `_owned_process`. -/
def ownedProcess (laneId : String) (fencingToken : ℤ) (processHandle : String) :
    Except PyError ManagedProcess :=
  match t.get? processHandle with
  | none => .error ⟨.processHandleNotFound, processHandle⟩
  | some item =>
    if item.ownedBy laneId fencingToken then .ok item
    else .error ⟨.processHandleOwnerMismatch, processHandle⟩

/-- Find the process, then go on to the call of `authorize`. -/
def planOn (laneId : String) (fencingToken : ℤ) (processHandle : String) (plan : Path → Plan) :
    Except PyError Plan := do
  let item ← ownedProcess t laneId fencingToken processHandle
  return plan item.cwd

/-- `process_status`. -/
def processStatus (laneId : String) (fencingToken : ℤ) (processHandle : String) :
    Except PyError Plan := do
  requireProcessPolicy x
  planOn t laneId fencingToken processHandle fun cwd =>
    ⟨[⟨"process.inspect", cwdResource cwd, .read⟩], .processStatus processHandle cwd⟩

/-- `process_output`. -/
def processOutput (laneId : String) (fencingToken : ℤ) (processHandle : String)
    (stdoutOffset stderrOffset maxBytes : PyValue) : Except PyError Plan := do
  requireProcessPolicy x
  let stdoutOffset ← requireInt stdoutOffset (0 ≤ ·)
    ⟨.valueError, "stdout_offset must be a non-negative integer"⟩
  let stderrOffset ← requireInt stderrOffset (0 ≤ ·)
    ⟨.valueError, "stderr_offset must be a non-negative integer"⟩
  let maxBytes ← requireInt maxBytes (fun n => 1 ≤ n ∧ n ≤ 65536)
    ⟨.valueError, "max_bytes must be in 1..65536"⟩
  planOn t laneId fencingToken processHandle fun cwd =>
    ⟨[⟨"process.inspect", cwdResource cwd, .read⟩],
      .processOutput processHandle cwd stdoutOffset stderrOffset maxBytes⟩

/-- `process_input`. -/
def processInput (laneId : String) (fencingToken : ℤ) (processHandle inputText : String)
    (appendNewline : PyValue) : Except PyError Plan := do
  requireProcessPolicy x
  let appendNewline ← requireBool appendNewline ⟨.valueError, "append_newline must be bool"⟩
  let payload := inputText ++ if appendNewline then "\n" else ""
  require (payload.utf8ByteSize ≤ 65536)
    ⟨.valueError, "process input exceeds 65536-byte limit"⟩
  planOn t laneId fencingToken processHandle fun cwd =>
    ⟨[⟨"process.interact", cwdResource cwd, .write⟩],
      .writeProcessInput processHandle cwd payload⟩

/-- `process_terminate`. -/
def processTerminate (laneId : String) (fencingToken : ℤ) (processHandle : String)
    (graceS : PyValue) : Except PyError Plan := do
  requireProcessPolicy x
  let graceS ← rt.float graceS
  require (PyFloat.le 0 graceS = true ∧ graceS.le 30 = true)
    ⟨.valueError, "grace_s must be in 0..30"⟩
  planOn t laneId fencingToken processHandle fun cwd =>
    ⟨[⟨"process.control", cwdResource cwd, .write⟩],
      .terminateProcess processHandle cwd graceS⟩

/-! ## Sound plans -/

variable {rt : Runtime} {x : LocalExecutor} {fs : FileSystem} {t : ProcessTable}
  {laneId : String} {fencingToken : ℤ} {handle : String} {plan : Plan}

theorem sound_stat {value : String} (h : stat rt x fs value = .ok plan) :
    plan.Sound rt x t laneId fencingToken := by
  simp only [stat, bind_eq_ok] at h
  obtain ⟨raw, -, isSymlink, -, h⟩ := h
  cases isSymlink with
  | true => exact LocalExecutor.sound_of_planOn h fun _ => ⟨rfl, rfl, rfl⟩
  | false => exact LocalExecutor.sound_of_planOn h fun _ => ⟨rfl, rfl, rfl⟩

theorem sound_listDir {path : String} {offset maxEntries : PyValue}
    (h : listDir rt x fs path offset maxEntries = .ok plan) :
    plan.Sound rt x t laneId fencingToken := by
  simp only [listDir, bind_eq_ok] at h
  obtain ⟨_, -, _, -, h⟩ := h
  exact LocalExecutor.sound_of_planOn h fun _ => ⟨rfl, rfl, rfl⟩

theorem sound_search {root query : String}
    {offset maxResults maxEntries maxDepth caseSensitive : PyValue}
    (h : search rt x fs root query offset maxResults maxEntries maxDepth caseSensitive =
      .ok plan) : plan.Sound rt x t laneId fencingToken := by
  simp only [search, bind_eq_ok] at h
  obtain ⟨_, -, _, -, _, -, _, -, _, -, _, -, h⟩ := h
  exact LocalExecutor.sound_of_planOn h fun _ => ⟨rfl, rfl, rfl⟩

theorem sound_searchContent {root query filePattern : String}
    {offset maxResults maxEntries maxDepth maxTotalBytes caseSensitive : PyValue}
    (h : searchContent rt x fs root query filePattern offset maxResults maxEntries maxDepth
      maxTotalBytes caseSensitive = .ok plan) : plan.Sound rt x t laneId fencingToken := by
  simp only [searchContent, bind_eq_ok] at h
  obtain ⟨_, -, _, -, _, -, _, -, _, -, _, -, _, -, _, -, h⟩ := h
  exact LocalExecutor.sound_of_planOn h fun _ => ⟨rfl, rfl, rfl⟩

theorem sound_processStart {argv : List String} {cwd : String} {maxRuntimeS : PyValue}
    (h : processStart rt x fs argv cwd maxRuntimeS = .ok plan) :
    plan.Sound rt x t laneId fencingToken := by
  simp only [processStart, bind_eq_ok] at h
  obtain ⟨_, -, _, -, _, -, _, -, h⟩ := h
  exact LocalExecutor.sound_of_planOn h fun _ => ⟨rfl, rfl, rfl⟩

/-- Whatever the table holds was started inside the allowed roots. -/
theorem sound_processList (ht : t.InRoots rt x)
    (h : processList x t laneId fencingToken = .ok plan) :
    plan.Sound rt x t laneId fencingToken := by
  simp only [processList, bind_eq_ok, pure_eq_ok] at h
  obtain ⟨_, -, rfl⟩ := h
  have howned : Work.OwnedBy t laneId fencingToken (.processList
      ((t.filter fun _ p => p.ownedBy laneId fencingToken).entries.map fun e =>
        (e.1, e.2.cwd))) := by
    intro e he
    obtain ⟨⟨handle, p⟩, hmem, rfl⟩ := List.mem_map.mp he
    obtain ⟨hget, hown⟩ := Dict.get?_filter.mp (Dict.get?_eq_some_iff.mpr hmem)
    exact ⟨p, hget, hown, rfl⟩
  refine ⟨rfl, fun path hpath => ?_, howned⟩
  obtain ⟨e, he, rfl⟩ := List.mem_map.mp hpath
  obtain ⟨p, hget, -, hcwd⟩ := howned e he
  exact hcwd ▸ ht _ _ hget

/-- A plan on one process is sound if it asks for what it needs. -/
theorem sound_of_planOn (ht : t.InRoots rt x) {f : Path → Plan}
    (h : planOn t laneId fencingToken handle f = .ok plan)
    (hf : ∀ cwd, (f cwd).checks = (f cwd).work.needs ∧ (f cwd).work.targets = [cwd] ∧
      (f cwd).work.processes = [(handle, cwd)]) : plan.Sound rt x t laneId fencingToken := by
  simp only [planOn, bind_eq_ok, pure_eq_ok] at h
  obtain ⟨item, hitem, rfl⟩ := h
  unfold ownedProcess at hitem
  cases hget : t.get? handle with
  | none => simp [hget] at hitem
  | some p =>
    simp only [hget] at hitem
    split_ifs at hitem with hown
    have hp : p = item := Except.ok.inj hitem
    subst hp
    obtain ⟨hchecks, htargets, hprocesses⟩ := hf p.cwd
    refine ⟨hchecks, fun path hpath => ?_, fun e he => ?_⟩
    · rw [htargets, List.mem_singleton] at hpath
      exact hpath ▸ ht _ _ hget
    · rw [hprocesses, List.mem_singleton] at he
      exact he ▸ ⟨p, hget, hown, rfl⟩

theorem sound_processStatus (ht : t.InRoots rt x)
    (h : processStatus x t laneId fencingToken handle = .ok plan) :
    plan.Sound rt x t laneId fencingToken := by
  simp only [processStatus, bind_eq_ok] at h
  obtain ⟨_, -, h⟩ := h
  exact sound_of_planOn ht h fun _ => ⟨rfl, rfl, rfl⟩

theorem sound_processOutput (ht : t.InRoots rt x) {stdoutOffset stderrOffset maxBytes : PyValue}
    (h : processOutput x t laneId fencingToken handle stdoutOffset stderrOffset maxBytes =
      .ok plan) : plan.Sound rt x t laneId fencingToken := by
  simp only [processOutput, bind_eq_ok] at h
  obtain ⟨_, -, _, -, _, -, _, -, h⟩ := h
  exact sound_of_planOn ht h fun _ => ⟨rfl, rfl, rfl⟩

theorem sound_processInput (ht : t.InRoots rt x) {inputText : String} {appendNewline : PyValue}
    (h : processInput x t laneId fencingToken handle inputText appendNewline = .ok plan) :
    plan.Sound rt x t laneId fencingToken := by
  simp only [processInput, bind_eq_ok] at h
  obtain ⟨_, -, _, -, _, -, h⟩ := h
  exact sound_of_planOn ht h fun _ => ⟨rfl, rfl, rfl⟩

theorem sound_processTerminate (ht : t.InRoots rt x) {graceS : PyValue}
    (h : processTerminate rt x t laneId fencingToken handle graceS = .ok plan) :
    plan.Sound rt x t laneId fencingToken := by
  simp only [processTerminate, bind_eq_ok] at h
  obtain ⟨_, -, _, -, _, -, h⟩ := h
  exact sound_of_planOn ht h fun _ => ⟨rfl, rfl, rfl⟩

end RdcSurface

end VeraMesh
