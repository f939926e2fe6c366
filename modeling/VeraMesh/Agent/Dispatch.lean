import VeraMesh.Agent.RdcSurface
import VeraMesh.Session.Messages

/-!
# Dispatch

`VeraPortAgent._dispatch` of `protocol.py`, cut at the lane lock. `dispatchStart` reads what is read
of a request before the lock is waited for, `dispatchBody` what is read once it is held, up to the
first call of the registry.

* `dispatchStart_onLane`: the lock is that of the lane the request names.
* `sound_of_dispatchBody`: an operation on the workstation presents the fence of the request, and
  comes with a sound plan.
-/

namespace VeraMesh

open Python Except

/-- What does not change while an agent runs. -/
structure Workstation where
  rt : Runtime
  /-- SHA-256 of canonical JSON texts. -/
  digest : PyValue → String
  executor : LocalExecutor
  workbridge : Option WorkBridgeLocalBackend

/-- `_dispatch` up to its first wait. -/
inductive DispatchStart where
  | listLanes
  | onLane (laneId : String)

/-- `_dispatch` inside of the lane operation, up to the first call of the registry. -/
inductive DispatchBody where
  | openLane (taskId : String) (capabilities : List String) (claims : List ResourceClaim)
      (ttlS : PyFloat)
  | renewLane (fencingToken : ℤ) (ttlS : PyFloat)
  | closeLane (fencingToken : ℤ)
  | perform (fencingToken : ℤ) (plan : Plan)

namespace Workstation

variable (w : Workstation) (request : Request)

/-- `str(request[key])`. -/
def text (key : String) : Except PyError String := do
  let v ← w.rt.getItem request key
  return w.rt.str v

/-- `int(request["fencing_token"])`. -/
def fencingToken : Except PyError ℤ := do
  let v ← w.rt.getItem request "fencing_token"
  w.rt.int v

/-- `str(request.get("encoding", "utf-8"))`. -/
def encoding : String := w.rt.str (getD request "encoding" (.str "utf-8"))

/-- The `argv` of a request. -/
def argv : Except PyError (List String) :=
  match getD request "argv" .none with
  | .list items => .ok (items.map w.rt.str)
  | _ => .error ⟨.valueError, "argv must be a list"⟩

/-- The lane that an operation names, with the fence it presents. -/
def fencedLane : Except PyError (String × ℤ) := do
  let laneId ← w.text request "lane_id"
  let fence ← w.fencingToken request
  return (laneId, fence)

/-- `_dispatch` up to the lane lock. -/
def dispatchStart (operation : String) : Except PyError DispatchStart :=
  if operation = "lane.list" then .ok .listLanes
  else if operation ∈ ["lane.open", "lane.renew", "fs.read_bytes", "fs.write_text"] then do
    let laneId ← w.text request "lane_id"
    return .onLane laneId
  else if operation = "fs.read_text" then do
    let laneId ← w.text request "lane_id"
    let _ ← w.text request "path"
    return .onLane laneId
  else if operation = "process.exec" then do
    let _ ← w.argv request
    let laneId ← w.text request "lane_id"
    return .onLane laneId
  else if operation ∈ ["lane.close", "fs.stat", "fs.list_dir", "fs.search", "fs.search_content",
      "fs.append_text", "fs.mkdir", "fs.move", "fs.replace_text", "process.start", "process.list",
      "process.status", "process.output", "process.input", "process.terminate"] then do
    let lane ← w.fencedLane request
    return .onLane lane.1
  else .error ⟨.valueError, "unknown operation: " ++ operation⟩

/-- One claim of a `lane.open` request. -/
def claim (item : PyValue) : Except PyError ResourceClaim := do
  let key ← w.rt.subscript item "key"
  let mode ← w.rt.subscript item "mode"
  let mode ← ClaimMode.ofString w.rt (w.rt.str mode)
  ResourceClaim.create (w.rt.str key) mode

/-- `float(request.get("ttl_s", 300.0))`. -/
def ttlS : Except PyError PyFloat := w.rt.float (getD request "ttl_s" (.float 300))

/-- The arguments of `open_lane`. -/
def openLaneBody : Except PyError DispatchBody := do
  let items ← (getD request "claims" (.list [])).iterate
  let claims ← items.mapM w.claim
  let taskId ← w.text request "task_id"
  let capabilities ← (getD request "capabilities" (.list [])).iterate
  let ttlS ← w.ttlS request
  return .openLane taskId (capabilities.map w.rt.str) claims ttlS

/-- The arguments of `renew`. -/
def renewLaneBody : Except PyError DispatchBody := do
  let fence ← w.fencingToken request
  let ttlS ← w.ttlS request
  return .renewLane fence ttlS

/-- The arguments of `close`. -/
def closeLaneBody : Except PyError DispatchBody := do
  let fence ← w.fencingToken request
  return .closeLane fence

/-- The WorkBridge backend, if it can handle the path. -/
def backend (path : String) : Option WorkBridgeLocalBackend :=
  w.workbridge.filter fun b => b.canHandle path

section Plans

variable (fs : FileSystem) (t : ProcessTable)

/-- `fs.read_text`. -/
def readTextPlan : Except PyError Plan := do
  let path ← w.text request "path"
  match w.backend path with
  | some b => b.readText w.rt path (w.encoding request)
  | none => w.executor.readText w.rt fs path (w.encoding request)

/-- `fs.read_bytes`. -/
def readBytesPlan : Except PyError Plan := do
  let path ← w.text request "path"
  w.executor.readBytesRange w.rt fs path (getD request "offset" (.int 0))
    (getD request "max_bytes" .none) (getD request "expected_file_version" .none)

/-- `fs.stat`. -/
def statPlan : Except PyError Plan := do
  let path ← w.text request "path"
  match w.backend path with
  | some b => b.stat path
  | none => RdcSurface.stat w.rt w.executor fs path

/-- `fs.list_dir`. -/
def listDirPlan : Except PyError Plan := do
  let path ← w.text request "path"
  let offset := getD request "offset" (.int 0)
  let maxEntries := getD request "max_entries" (.int 200)
  match w.backend path with
  | some b => b.listDir path offset maxEntries
  | none => RdcSurface.listDir w.rt w.executor fs path offset maxEntries

/-- `fs.search`. -/
def searchPlan : Except PyError Plan := do
  let root ← w.text request "root"
  let query ← w.text request "query"
  RdcSurface.search w.rt w.executor fs root query (getD request "offset" (.int 0))
    (getD request "max_results" (.int 100)) (getD request "max_entries" (.int 10000))
    (getD request "max_depth" (.int 12)) (getD request "case_sensitive" (.bool false))

/-- `fs.search_content`. -/
def searchContentPlan : Except PyError Plan := do
  let root ← w.text request "root"
  let query ← w.text request "query"
  let filePattern := w.rt.str (getD request "file_pattern" (.str "*"))
  RdcSurface.searchContent w.rt w.executor fs root query filePattern
    (getD request "offset" (.int 0)) (getD request "max_results" (.int 100))
    (getD request "max_entries" (.int 10000)) (getD request "max_depth" (.int 12))
    (getD request "max_total_bytes" (.int 8388608)) (getD request "case_sensitive" (.bool false))

/-- `fs.write_text`. -/
def writeTextPlan : Except PyError Plan := do
  let path ← w.text request "path"
  let content ← w.text request "content"
  w.executor.writeText w.rt fs path content (w.encoding request)

/-- `fs.append_text`. -/
def appendTextPlan : Except PyError Plan := do
  let path ← w.text request "path"
  let content ← w.text request "content"
  w.executor.appendText w.rt fs path content (w.encoding request)

/-- `fs.mkdir`. -/
def makeDirectoryPlan : Except PyError Plan := do
  let path ← w.text request "path"
  w.executor.makeDirectory w.rt fs path (getD request "parents" (.bool true))

/-- `fs.move`. -/
def movePathPlan : Except PyError Plan := do
  let source ← w.text request "source"
  let destination ← w.text request "destination"
  w.executor.movePath w.rt fs source destination

/-- `fs.replace_text`. -/
def replaceTextPlan : Except PyError Plan := do
  let path ← w.text request "path"
  let oldString ← w.text request "old_string"
  let newString ← w.text request "new_string"
  w.executor.replaceText w.rt fs path oldString newString
    (getD request "expected_count" (.int 1)) (w.encoding request)

/-- `process.exec`. -/
def runProcessPlan : Except PyError Plan := do
  let argv ← w.argv request
  let cwd ← w.text request "cwd"
  let timeoutS ← w.rt.float (getD request "timeout_s" (.float 60))
  w.executor.runProcess w.rt fs argv cwd timeoutS

/-- `process.start`. -/
def processStartPlan : Except PyError Plan := do
  let argv ← w.argv request
  let cwd ← w.text request "cwd"
  RdcSurface.processStart w.rt w.executor fs argv cwd
    (getD request "max_runtime_s" (.float 900))

variable (laneId : String) (fence : ℤ)

/-- `process.status`. -/
def processStatusPlan : Except PyError Plan := do
  let handle ← w.text request "process_handle"
  RdcSurface.processStatus w.executor t laneId fence handle

/-- `process.output`. -/
def processOutputPlan : Except PyError Plan := do
  let handle ← w.text request "process_handle"
  RdcSurface.processOutput w.executor t laneId fence handle
    (getD request "stdout_offset" (.int 0)) (getD request "stderr_offset" (.int 0))
    (getD request "max_bytes" (.int 16384))

/-- `process.input`. -/
def processInputPlan : Except PyError Plan := do
  let handle ← w.text request "process_handle"
  let inputText ← w.text request "input_text"
  RdcSurface.processInput w.executor t laneId fence handle inputText
    (getD request "append_newline" (.bool true))

/-- `process.terminate`. -/
def processTerminatePlan : Except PyError Plan := do
  let handle ← w.text request "process_handle"
  RdcSurface.processTerminate w.rt w.executor t laneId fence handle
    (getD request "grace_s" (.float 2))

/-- The branches of `_dispatch` that work on the workstation. -/
def operationPlan (operation : String) : Except PyError Plan :=
  match operation with
  | "fs.read_text" => w.readTextPlan request fs
  | "fs.read_bytes" => w.readBytesPlan request fs
  | "fs.stat" => w.statPlan request fs
  | "fs.list_dir" => w.listDirPlan request fs
  | "fs.search" => w.searchPlan request fs
  | "fs.search_content" => w.searchContentPlan request fs
  | "fs.write_text" => w.writeTextPlan request fs
  | "fs.append_text" => w.appendTextPlan request fs
  | "fs.mkdir" => w.makeDirectoryPlan request fs
  | "fs.move" => w.movePathPlan request fs
  | "fs.replace_text" => w.replaceTextPlan request fs
  | "process.exec" => w.runProcessPlan request fs
  | "process.start" => w.processStartPlan request fs
  | "process.list" => RdcSurface.processList w.executor t laneId fence
  | "process.status" => w.processStatusPlan request t laneId fence
  | "process.output" => w.processOutputPlan request t laneId fence
  | "process.input" => w.processInputPlan request t laneId fence
  | "process.terminate" => w.processTerminatePlan request t laneId fence
  | _ => .error ⟨.valueError, "unknown operation: " ++ operation⟩

/-- `_dispatch` inside of the lane operation. -/
def dispatchBody (operation : String) : Except PyError DispatchBody :=
  if operation = "lane.open" then w.openLaneBody request
  else if operation = "lane.renew" then w.renewLaneBody request
  else if operation = "lane.close" then w.closeLaneBody request
  else do
    let fence ← w.fencingToken request
    let plan ← w.operationPlan request fs t laneId fence operation
    return .perform fence plan

end Plans

variable {w request}

theorem text_eq_ok {key s : String} (h : w.text request key = .ok s) :
    ∃ v, request.get? key = some v ∧ s = w.rt.str v := by
  simp only [text, bind_eq_ok, pure_eq_ok, Runtime.getItem] at h
  obtain ⟨v, hv, rfl⟩ := h
  cases hget : request.get? key with
  | none => simp [hget] at hv
  | some v' =>
    simp only [hget, Except.ok.injEq] at hv
    exact ⟨v, congrArg some hv, rfl⟩

/-- The lock that an operation waits for is that of the lane its request names. -/
theorem dispatchStart_onLane {operation laneId : String}
    (h : w.dispatchStart request operation = .ok (.onLane laneId)) :
    ∃ v, request.get? "lane_id" = some v ∧ laneId = w.rt.str v := by
  unfold dispatchStart at h
  split_ifs at h
  · simp at h
  · simp only [bind_eq_ok, pure_eq_ok] at h
    obtain ⟨_, htext, heq⟩ := h
    cases heq
    exact text_eq_ok htext
  · simp only [bind_eq_ok, pure_eq_ok] at h
    obtain ⟨_, htext, _, -, heq⟩ := h
    cases heq
    exact text_eq_ok htext
  · simp only [bind_eq_ok, pure_eq_ok] at h
    obtain ⟨_, -, _, htext, heq⟩ := h
    cases heq
    exact text_eq_ok htext
  · simp only [fencedLane, bind_eq_ok, pure_eq_ok] at h
    obtain ⟨_, ⟨_, htext, _, -, rfl⟩, heq⟩ := h
    cases heq
    exact text_eq_ok htext

theorem dispatchStart_listLanes {operation : String}
    (h : w.dispatchStart request operation = .ok .listLanes) : operation = "lane.list" := by
  unfold dispatchStart at h
  split_ifs at h with hlist
  · exact hlist
  · simp only [bind_eq_ok, pure_eq_ok, reduceCtorEq, and_false, exists_false] at h
  · simp only [bind_eq_ok, pure_eq_ok, reduceCtorEq, and_false, exists_false] at h
  · simp only [bind_eq_ok, pure_eq_ok, reduceCtorEq, and_false, exists_false] at h
  · simp only [bind_eq_ok, pure_eq_ok, reduceCtorEq, and_false, exists_false] at h

section Sound

variable {fs : FileSystem} {t : ProcessTable} {laneId operation : String} {fence fence' : ℤ}
  {plan : Plan}

theorem sound_of_backend {path : String} {remote : WorkBridgeLocalBackend → Except PyError Plan}
    {here : Except PyError Plan}
    (h : (match w.backend path with | some b => remote b | none => here) = .ok plan)
    (hremote : ∀ b, remote b = .ok plan → plan.Sound w.rt w.executor t laneId fence)
    (hhere : here = .ok plan → plan.Sound w.rt w.executor t laneId fence) :
    plan.Sound w.rt w.executor t laneId fence := by
  cases hb : w.backend path with
  | none => exact hhere (by simpa only [hb] using h)
  | some b => exact hremote b (by simpa only [hb] using h)

/-- Every branch that works on the workstation comes to a sound plan. -/
theorem sound_of_operationPlan (ht : t.InRoots w.rt w.executor)
    (h : w.operationPlan request fs t laneId fence operation = .ok plan) :
    plan.Sound w.rt w.executor t laneId fence := by
  unfold operationPlan at h
  split at h
  · simp only [readTextPlan, bind_eq_ok] at h
    obtain ⟨path, -, h⟩ := h
    exact sound_of_backend h (fun _ => WorkBridgeLocalBackend.sound_readText)
      LocalExecutor.sound_readText
  · simp only [readBytesPlan, bind_eq_ok] at h
    obtain ⟨_, -, h⟩ := h
    exact LocalExecutor.sound_readBytesRange h
  · simp only [statPlan, bind_eq_ok] at h
    obtain ⟨path, -, h⟩ := h
    exact sound_of_backend h (fun _ => WorkBridgeLocalBackend.sound_planOn) RdcSurface.sound_stat
  · simp only [listDirPlan, bind_eq_ok] at h
    obtain ⟨path, -, h⟩ := h
    exact sound_of_backend h (fun _ => WorkBridgeLocalBackend.sound_listDir)
      RdcSurface.sound_listDir
  · simp only [searchPlan, bind_eq_ok] at h
    obtain ⟨_, -, _, -, h⟩ := h
    exact RdcSurface.sound_search h
  · simp only [searchContentPlan, bind_eq_ok] at h
    obtain ⟨_, -, _, -, h⟩ := h
    exact RdcSurface.sound_searchContent h
  · simp only [writeTextPlan, bind_eq_ok] at h
    obtain ⟨_, -, _, -, h⟩ := h
    exact LocalExecutor.sound_writeText h
  · simp only [appendTextPlan, bind_eq_ok] at h
    obtain ⟨_, -, _, -, h⟩ := h
    exact LocalExecutor.sound_appendText h
  · simp only [makeDirectoryPlan, bind_eq_ok] at h
    obtain ⟨_, -, h⟩ := h
    exact LocalExecutor.sound_makeDirectory h
  · simp only [movePathPlan, bind_eq_ok] at h
    obtain ⟨_, -, _, -, h⟩ := h
    exact LocalExecutor.sound_movePath h
  · simp only [replaceTextPlan, bind_eq_ok] at h
    obtain ⟨_, -, _, -, _, -, h⟩ := h
    exact LocalExecutor.sound_replaceText h
  · simp only [runProcessPlan, bind_eq_ok] at h
    obtain ⟨_, -, _, -, _, -, h⟩ := h
    exact LocalExecutor.sound_runProcess h
  · simp only [processStartPlan, bind_eq_ok] at h
    obtain ⟨_, -, _, -, h⟩ := h
    exact RdcSurface.sound_processStart h
  · exact RdcSurface.sound_processList ht h
  · simp only [processStatusPlan, bind_eq_ok] at h
    obtain ⟨_, -, h⟩ := h
    exact RdcSurface.sound_processStatus ht h
  · simp only [processOutputPlan, bind_eq_ok] at h
    obtain ⟨_, -, h⟩ := h
    exact RdcSurface.sound_processOutput ht h
  · simp only [processInputPlan, bind_eq_ok] at h
    obtain ⟨_, -, _, -, h⟩ := h
    exact RdcSurface.sound_processInput ht h
  · simp only [processTerminatePlan, bind_eq_ok] at h
    obtain ⟨_, -, h⟩ := h
    exact RdcSurface.sound_processTerminate ht h
  · simp at h

theorem openLaneBody_of_dispatchBody {taskId : String} {capabilities : List String}
    {claims : List ResourceClaim} {ttlS : PyFloat}
    (h : w.dispatchBody request fs t laneId operation =
      .ok (.openLane taskId capabilities claims ttlS)) :
    operation = "lane.open" ∧
      w.openLaneBody request = .ok (.openLane taskId capabilities claims ttlS) := by
  unfold dispatchBody at h
  split_ifs at h with hop
  · exact ⟨hop, h⟩
  · simp only [renewLaneBody, bind_eq_ok, pure_eq_ok] at h
    obtain ⟨_, -, _, -, heq⟩ := h
    cases heq
  · simp only [closeLaneBody, bind_eq_ok, pure_eq_ok] at h
    obtain ⟨_, -, heq⟩ := h
    cases heq
  · simp only [bind_eq_ok, pure_eq_ok] at h
    obtain ⟨_, -, _, -, heq⟩ := h
    cases heq

theorem operation_of_renewLane {ttlS : PyFloat}
    (h : w.dispatchBody request fs t laneId operation = .ok (.renewLane fence ttlS)) :
    operation = "lane.renew" ∧ w.fencingToken request = .ok fence := by
  unfold dispatchBody at h
  split_ifs at h with hopen hrenew
  · simp only [openLaneBody, bind_eq_ok, pure_eq_ok, reduceCtorEq, and_false, exists_false] at h
  · simp only [renewLaneBody, bind_eq_ok, pure_eq_ok] at h
    obtain ⟨_, hfence, _, -, heq⟩ := h
    cases heq
    exact ⟨hrenew, hfence⟩
  · simp only [closeLaneBody, bind_eq_ok, pure_eq_ok, reduceCtorEq, and_false, exists_false] at h
  · simp only [bind_eq_ok, pure_eq_ok, reduceCtorEq, and_false, exists_false] at h

theorem operation_of_closeLane
    (h : w.dispatchBody request fs t laneId operation = .ok (.closeLane fence)) :
    operation = "lane.close" ∧ w.fencingToken request = .ok fence := by
  unfold dispatchBody at h
  split_ifs at h with hopen hrenew hclose
  · simp only [openLaneBody, bind_eq_ok, pure_eq_ok, reduceCtorEq, and_false,
      exists_false] at h
  · simp only [renewLaneBody, bind_eq_ok, pure_eq_ok, reduceCtorEq, and_false,
      exists_false] at h
  · simp only [closeLaneBody, bind_eq_ok, pure_eq_ok] at h
    obtain ⟨_, hfence, heq⟩ := h
    cases heq
    exact ⟨hclose, hfence⟩
  · simp only [bind_eq_ok, pure_eq_ok, reduceCtorEq, and_false, exists_false] at h

/-- What is performed is no operation on a lane. -/
theorem operation_of_perform
    (h : w.dispatchBody request fs t laneId operation = .ok (.perform fence plan)) :
    operation ∉ ["lane.list", "lane.open", "lane.renew", "lane.close"] := by
  unfold dispatchBody at h
  split_ifs at h with hopen hrenew hclose
  · simp only [openLaneBody, bind_eq_ok, pure_eq_ok, reduceCtorEq, and_false, exists_false] at h
  · simp only [renewLaneBody, bind_eq_ok, pure_eq_ok, reduceCtorEq, and_false, exists_false] at h
  · simp only [closeLaneBody, bind_eq_ok, pure_eq_ok, reduceCtorEq, and_false, exists_false] at h
  · simp only [bind_eq_ok, pure_eq_ok] at h
    obtain ⟨_, -, plan', hplan, -⟩ := h
    intro hmem
    simp only [List.mem_cons, List.not_mem_nil, or_false] at hmem
    rcases hmem with rfl | hop | hop | hop
    · simp [operationPlan] at hplan
    · exact hopen hop
    · exact hrenew hop
    · exact hclose hop

theorem capabilities_of_openLaneBody {taskId : String} {capabilities : List String}
    {claims : List ResourceClaim} {ttlS : PyFloat}
    (h : w.openLaneBody request = .ok (.openLane taskId capabilities claims ttlS)) :
    ∃ items, (getD request "capabilities" (.list [])).iterate = .ok items ∧
      capabilities = items.map w.rt.str := by
  simp only [openLaneBody, bind_eq_ok, pure_eq_ok] at h
  obtain ⟨_, -, _, -, _, -, items, hitems, _, -, heq⟩ := h
  cases heq
  exact ⟨items, hitems, rfl⟩

/-- What an operation on the workstation presents, and that its plan is sound. -/
theorem sound_of_dispatchBody (ht : t.InRoots w.rt w.executor)
    (h : w.dispatchBody request fs t laneId operation = .ok (.perform fence plan)) :
    w.fencingToken request = .ok fence ∧ plan.Sound w.rt w.executor t laneId fence := by
  unfold dispatchBody at h
  split_ifs at h
  · simp only [openLaneBody, bind_eq_ok, pure_eq_ok] at h
    obtain ⟨_, -, _, -, _, -, _, -, _, -, heq⟩ := h
    cases heq
  · simp only [renewLaneBody, bind_eq_ok, pure_eq_ok] at h
    obtain ⟨_, -, _, -, heq⟩ := h
    cases heq
  · simp only [closeLaneBody, bind_eq_ok, pure_eq_ok] at h
    obtain ⟨_, -, heq⟩ := h
    cases heq
  · simp only [bind_eq_ok, pure_eq_ok] at h
    obtain ⟨fence', hfence, plan', hplan, heq⟩ := h
    cases heq
    exact ⟨hfence, sound_of_operationPlan ht hplan⟩

end Sound

end Workstation

end VeraMesh
