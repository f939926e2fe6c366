import VeraMesh.Lib.Attempt
import VeraMesh.PublicGateway.ProcessLease
import VeraMesh.PublicGateway.RemotePath

/-!
# The public facade

`PublicWorkstationFacade` of `public_gateway.py`: every public tool runs its operation under a lane
that the facade opens for it, and a started process keeps its lane until it is released.

The runtime is what it answers to the facade's requests, one after the other (`Outcomes`), and the
id factory is what it returns. No task is cancelled.
-/

namespace VeraMesh.PublicGateway

open Python Gateway

/-! ## Exceptions -/

/-- An exception that is no cancellation: its class, its `code` if it has one, and its text. -/
structure Raised where
  className : String
  code : Option String
  message : String
  deriving DecidableEq

namespace Raised

def valueError (message : String) : Raised := ⟨"ValueError", none, message⟩

/-- `PublicGatewayError`. -/
def publicGatewayError (message : String) : Raised :=
  ⟨"PublicGatewayError", some "PUBLIC_GATEWAY_ERROR", message⟩

/-- `PublicGatewayRemoteError`. -/
def publicGatewayRemoteError (remoteCode message : String) : Raised :=
  ⟨"PublicGatewayRemoteError", some "PUBLIC_GATEWAY_REMOTE_ERROR", remoteCode ++ ": " ++ message⟩

/-- `PublicProcessNotFound`. -/
def publicProcessNotFound (handle : String) : Raised :=
  ⟨"PublicProcessNotFound", some "PUBLIC_PROCESS_NOT_FOUND", handle⟩

/-- `response.get` of a response that is no `dict`. -/
def noAttributeGet (response : PyValue) : Raised :=
  ⟨"AttributeError", none, "'" ++ response.typeName ++ "' object has no attribute 'get'"⟩

/-- `getattr(exc, "code", exc.__class__.__name__)`. -/
def reportedCode (exc : Raised) : String := exc.code.getD exc.className

end Raised

/-- What `canonical_remote_path` and its callers raise. -/
def checked {α : Type} (r : Except PyError α) : Except Raised α :=
  r.mapError fun exc => .valueError exc.message

/-! ## State -/

structure ProcessLease where
  publicHandle : String
  internalHandle : String
  laneId : String
  fencingToken : ℤ
  cwd : String
  deriving DecidableEq

/-- What the facade calls of the runtime; `callOperation` is that of `runtime.gateway`. -/
inductive RuntimeMethod where
  | ensureStarted
  | openLane
  | closeLane
  | readText
  | readBytes
  | readOperation (operation : String)
  | writeText
  | callOperation (operation : String)
  deriving DecidableEq

/-- A call of the runtime, and what it returned or raised. -/
structure RuntimeCall where
  method : RuntimeMethod
  kwargs : Dict String PyValue
  answer : Except Raised PyValue

/-- How the calls of the runtime end. -/
structure Outcomes where
  /-- The calls of `close_lane`, one after the other. -/
  close : ℕ → Except Raised PyValue
  /-- All others. -/
  answer : ℕ → Except Raised PyValue
  /-- `machine_info`. -/
  info : ℕ → Except Raised (Dict String PyValue)

structure PublicWorkstationFacade where
  actorTag : String
  /-- What `_id_factory` returns or raises, call by call. -/
  idFactory : ℕ → Except Raised PyValue
  processes : Dict String ProcessLease
  /-- The ids asked for so far. -/
  ids : ℕ
  /-- The calls of `close_lane`, of other methods and of `machine_info` so far. -/
  closed : ℕ
  asked : ℕ
  informed : ℕ
  calls : List RuntimeCall

/-- Work of the facade. -/
abbrev FacadeTask := Attempt Raised PublicWorkstationFacade

namespace PublicWorkstationFacade

open Attempt

variable (rt : Runtime) (outcomes : Outcomes)

/-- A call of the runtime is over. -/
def record (method : RuntimeMethod) (kwargs : List (String × PyValue))
    (answer : Except Raised PyValue) (f : PublicWorkstationFacade) : PublicWorkstationFacade :=
  let calls := f.calls ++ [⟨method, .ofList kwargs, answer⟩]
  if method = .closeLane then { f with closed := f.closed + 1, calls }
  else { f with asked := f.asked + 1, calls }

/-- Call a method of the runtime. -/
def call (method : RuntimeMethod) (kwargs : List (String × PyValue)) : FacadeTask PyValue := do
  let f ← get
  let answer :=
    if method = .closeLane then outcomes.close f.closed else outcomes.answer f.asked
  modify (record method kwargs answer)
  ofResult answer

/-- What `_new_id` takes from the factory. -/
def factoryId (value : Except Raised PyValue) : Except Raised String :=
  match value with
  | .error exc => .error exc
  | .ok (.str value) =>
    if value = "" then .error (.valueError "id_factory must return a non-empty string")
    else .ok value
  | .ok _ => .error (.valueError "id_factory must return a non-empty string")

/-- `_new_id`. -/
def newId (label : String) : FacadeTask String := do
  let f ← get
  modify fun f => { f with ids := f.ids + 1 }
  let value ← ofResult (factoryId (f.idFactory f.ids))
  return label ++ ":" ++ f.actorTag ++ ":" ++ value

/-- `_unwrap`. -/
def unwrap (response : PyValue) : Except Raised (Dict String PyValue) :=
  match response with
  | .dict members =>
    let response : Dict String PyValue := .ofList members
    match response.get? "ok" with
    | some (.bool true) =>
      match response.get? "result" with
      | some (.dict result) => .ok (.ofList result)
      | _ => .error (.publicGatewayError "remote result must be an object")
    | _ =>
      match response.get? "error" with
      | some (.dict error) =>
        let error : Dict String PyValue := .ofList error
        .error (.publicGatewayRemoteError
          (rt.str ((error.get? "code").getD (.str "REMOTE_ERROR")))
          (rt.str ((error.get? "message").getD (.str "remote operation failed"))))
      | _ => .error (.publicGatewayRemoteError "REMOTE_ERROR" "remote operation failed")
  | v => .error (.noAttributeGet v)

/-- The fence that `_open_lane` takes from a response. -/
def openedFence (response : PyValue) : Except Raised ℤ := do
  let result ← unwrap rt response
  match result.get? "fencing_token" with
  | some (.int fence) =>
    if fence < 1 then throw (.publicGatewayError "lane.open returned no fencing token")
    return fence
  | _ => throw (.publicGatewayError "lane.open returned no fencing token")

/-- A claim as it stands in a request. -/
def claimObject (claim : List (String × String)) : PyValue :=
  .dict (claim.map fun (name, text) => (name, .str text))

/-- `_open_lane`. -/
def openLane (capabilities : List String) (claims : List (List (String × String)))
    (ttlS : PyFloat) (task : String) : FacadeTask (String × ℤ) := do
  let laneId ← newId "public-lane"
  let taskId ← newId task
  let response ← call outcomes .openLane [("lane_id", .str laneId), ("task_id", .str taskId),
    ("capabilities", .list (capabilities.map .str)), ("claims", .list (claims.map claimObject)),
    ("ttl_s", .float ttlS)]
  let fence ← ofResult (openedFence rt response)
  return (laneId, fence)

/-- The evidence that a lane was closed, or of the failure to close it. -/
def closeEvidence : Except Raised PyValue → Dict String PyValue
  | .ok (.dict members) =>
    let response : Dict String PyValue := .ofList members
    match response.get? "ok" with
    | some (.bool true) => .ofList [("closed", .bool true)]
    | _ => .ofList [("closed", .bool false), ("error", (response.get? "error").getD .none)]
  | .ok v => failed (.noAttributeGet v)
  | .error exc => failed exc
where
  failed (exc : Raised) : Dict String PyValue :=
    .ofList [("closed", .bool false),
      ("error", .dict [("code", .str exc.reportedCode), ("message", .str exc.message)])]

/-- `_close_lane_evidence`. -/
def closeLaneEvidence (laneId : String) (fencingToken : ℤ) : FacadeTask (Dict String PyValue) := do
  let response ← (call outcomes .closeLane
    [("lane_id", .str laneId), ("fencing_token", .int fencingToken)]).settle
  return closeEvidence response

/-- `cleanup.get("closed") is True`. -/
def isClosed (cleanup : Dict String PyValue) : Bool :=
  match cleanup.get? "closed" with
  | some (.bool closed) => closed
  | _ => false

/-- The operation of `_ephemeral`. -/
def runOperation (operation : String) (laneId : String) (fence : ℤ)
    (body : List (String × PyValue)) : FacadeTask PyValue := do
  let kwargs := [("lane_id", .str laneId), ("fencing_token", .int fence)] ++ body
  if operation = "fs.read_text" then call outcomes .readText kwargs
  else if operation = "fs.read_bytes" then call outcomes .readBytes kwargs
  else if operation ∈ ["fs.stat", "fs.list_dir", "fs.search", "fs.search_content"] then
    call outcomes (.readOperation operation) kwargs
  else if operation = "fs.write_text" then call outcomes .writeText kwargs
  else
    let _ ← call outcomes .ensureStarted []
    call outcomes (.callOperation operation) kwargs

/-- `_ephemeral`. The `finally` block closes the lane, and adds its evidence to the result that is
about to be returned. -/
def ephemeral (operation : String) (capabilities : List String)
    (claims : List (List (String × String))) (body : List (String × PyValue)) (task : String) :
    FacadeTask (Dict String PyValue) := do
  let (laneId, fence) ← openLane rt outcomes capabilities claims 300 task
  let outcome ← settle do
    let response ← runOperation outcomes operation laneId fence body
    ofResult (unwrap rt response)
  let cleanup ← closeLaneEvidence outcomes laneId fence
  match outcome with
  | .error exc => throw exc
  | .ok result =>
    if isClosed cleanup then return result
    else return result.set "_veramesh_cleanup" (.dict cleanup.entries)

/-! ## Tools -/

/-- An ephemeral operation under claims that may be refused. -/
def claimed (operation : String) (capabilities : List String)
    (claims : Except PyError (List (List (String × String)))) (body : List (String × PyValue))
    (task : String) : FacadeTask (Dict String PyValue) := do
  let claims ← ofResult (checked claims)
  ephemeral rt outcomes operation capabilities claims body task

/-- A tool that claims one path of the file system. -/
def onPath (operation : String) (capabilities : List String) (path mode : String)
    (body : List (String × PyValue)) (task : String) : FacadeTask (Dict String PyValue) :=
  claimed rt outcomes operation capabilities ((fsClaim path mode).map fun claim => [claim]) body
    task

/-- `computer_info`. -/
def computerInfo : FacadeTask (Dict String PyValue) := do
  let f ← get
  modify fun f => { f with informed := f.informed + 1 }
  ofResult (outcomes.info f.informed)

/-- `read_file`. -/
def readFile (path encoding : String) : FacadeTask (Dict String PyValue) :=
  onPath rt outcomes "fs.read_text" ["fs.read"] path "read"
    [("path", .str path), ("encoding", .str encoding)] "read-file"

/-- `read_bytes`. -/
def readBytes (path : String) (offset : ℤ) (maxBytes : Option ℤ)
    (expectedFileVersion : Option String) : FacadeTask (Dict String PyValue) :=
  onPath rt outcomes "fs.read_bytes" ["fs.read"] path "read"
    [("path", .str path), ("offset", .int offset), ("max_bytes", maxBytes.elim .none .int),
      ("expected_file_version", expectedFileVersion.elim .none .str)] "read-bytes"

/-- `stat_path`. -/
def statPath (path : String) : FacadeTask (Dict String PyValue) :=
  onPath rt outcomes "fs.stat" ["fs.read"] path "read" [("path", .str path)] "stat"

/-- `list_directory`. -/
def listDirectory (path : String) (offset maxEntries : ℤ) : FacadeTask (Dict String PyValue) :=
  onPath rt outcomes "fs.list_dir" ["fs.read"] path "read"
    [("path", .str path), ("offset", .int offset), ("max_entries", .int maxEntries)]
    "list-directory"

/-- `search_files`. -/
def searchFiles (root query : String) (offset maxResults maxEntries maxDepth : ℤ)
    (caseSensitive : Bool) : FacadeTask (Dict String PyValue) :=
  onPath rt outcomes "fs.search" ["fs.read"] root "read"
    [("root", .str root), ("query", .str query), ("offset", .int offset),
      ("max_results", .int maxResults), ("max_entries", .int maxEntries),
      ("max_depth", .int maxDepth), ("case_sensitive", .bool caseSensitive)] "search-files"

/-- `search_content`. -/
def searchContent (root query filePattern : String)
    (offset maxResults maxEntries maxDepth maxTotalBytes : ℤ) (caseSensitive : Bool) :
    FacadeTask (Dict String PyValue) :=
  onPath rt outcomes "fs.search_content" ["fs.read"] root "read"
    [("root", .str root), ("query", .str query), ("file_pattern", .str filePattern),
      ("offset", .int offset), ("max_results", .int maxResults), ("max_entries", .int maxEntries),
      ("max_depth", .int maxDepth), ("max_total_bytes", .int maxTotalBytes),
      ("case_sensitive", .bool caseSensitive)] "search-content"

/-- `write_file`. -/
def writeFile (path content encoding : String) : FacadeTask (Dict String PyValue) :=
  onPath rt outcomes "fs.write_text" ["fs.write"] path "write"
    [("path", .str path), ("content", .str content), ("encoding", .str encoding)] "write-file"

/-- `append_file`. -/
def appendFile (path content encoding : String) : FacadeTask (Dict String PyValue) :=
  onPath rt outcomes "fs.append_text" ["fs.write"] path "write"
    [("path", .str path), ("content", .str content), ("encoding", .str encoding)] "append-file"

/-- `make_directory`. -/
def makeDirectory (path : String) (parents : Bool) : FacadeTask (Dict String PyValue) :=
  onPath rt outcomes "fs.mkdir" ["fs.write"] path "write"
    [("path", .str path), ("parents", .bool parents)] "mkdir"

/-- `move_path`. -/
def movePath (source destination : String) : FacadeTask (Dict String PyValue) :=
  let claims : Except PyError (List (List (String × String))) := do
    let first ← fsClaim source "write"
    let second ← fsClaim destination "write"
    return [first, second]
  claimed rt outcomes "fs.move" ["fs.write"] claims
    [("source", .str source), ("destination", .str destination)] "move"

/-- `replace_text`. -/
def replaceText (path oldString newString : String) (expectedCount : ℤ) (encoding : String) :
    FacadeTask (Dict String PyValue) :=
  onPath rt outcomes "fs.replace_text" ["fs.read", "fs.write"] path "write"
    [("path", .str path), ("old_string", .str oldString), ("new_string", .str newString),
      ("expected_count", .int expectedCount), ("encoding", .str encoding)] "replace-text"

/-- `run_process`. -/
def runProcess (argv : List String) (cwd : String) (timeoutS : PyFloat) :
    FacadeTask (Dict String PyValue) :=
  claimed rt outcomes "process.exec" ["process.exec"]
    ((cwdClaim cwd "write").map fun claim => [claim])
    [("argv", .list (argv.map .str)), ("cwd", .str cwd), ("timeout_s", .float timeoutS)]
    "run-process"

/-- The handle that `start_process` takes from a result. -/
def startedHandle (result : Dict String PyValue) : Option String :=
  match result.get? "process_handle" with
  | some (.str handle) => if handle = "" then none else some handle
  | _ => none

/-- The part of `start_process` that calls the runtime to start the process. -/
def callStart (argv : List String) (cwd : String) (maxRuntimeS : PyFloat) (laneId : String)
    (fence : ℤ) : FacadeTask (Dict String PyValue) := do
  let _ ← call outcomes .ensureStarted []
  let response ← call outcomes (.callOperation "process.start")
    [("lane_id", .str laneId), ("fencing_token", .int fence), ("argv", .list (argv.map .str)),
      ("cwd", .str cwd), ("max_runtime_s", .float maxRuntimeS)]
  ofResult (unwrap rt response)

/-- `start_process`. -/
def startProcess (argv : List String) (cwd : String) (maxRuntimeS : PyFloat) :
    FacadeTask (Dict String PyValue) := do
  let claim ← ofResult (checked (cwdClaim cwd "write"))
  let (laneId, fence) ← openLane rt outcomes PublicFacade.processCapabilities [claim]
    (PublicFacade.python.processTtl maxRuntimeS) "start-process"
  match ← (callStart rt outcomes argv cwd maxRuntimeS laneId fence).settle with
  | .error exc =>
    let _ ← closeLaneEvidence outcomes laneId fence
    throw exc
  | .ok result =>
    match startedHandle result with
    | none =>
      let _ ← closeLaneEvidence outcomes laneId fence
      throw (.publicGatewayError "process.start returned no process handle")
    | some internal =>
      let publicHandle ← newId "job"
      let cwd ← ofResult (checked (canonicalRemotePath cwd))
      modify fun f => { f with
        processes := f.processes.set publicHandle ⟨publicHandle, internal, laneId, fence, cwd⟩ }
      return result.set "process_handle" (.str publicHandle)

/-- `_lease`. -/
def lease (processHandle : String) : FacadeTask ProcessLease := do
  match (← get).processes.get? processHandle with
  | none => throw (.publicProcessNotFound processHandle)
  | some lease => return lease

/-- `_process_operation`. -/
def processOperation (operation processHandle : String) (body : List (String × PyValue)) :
    FacadeTask (Dict String PyValue) := do
  let lease ← lease processHandle
  let _ ← call outcomes .ensureStarted []
  let response ← call outcomes (.callOperation operation) ([("lane_id", .str lease.laneId),
    ("fencing_token", .int lease.fencingToken), ("process_handle", .str lease.internalHandle)] ++
      body)
  let result ← ofResult (unwrap rt response)
  return result.set "process_handle" (.str lease.publicHandle)

/-- `process_status`. -/
def processStatus (processHandle : String) : FacadeTask (Dict String PyValue) :=
  processOperation rt outcomes "process.status" processHandle []

/-- `process_output`. -/
def processOutput (processHandle : String) (stdoutOffset stderrOffset maxBytes : ℤ) :
    FacadeTask (Dict String PyValue) :=
  processOperation rt outcomes "process.output" processHandle
    [("stdout_offset", .int stdoutOffset), ("stderr_offset", .int stderrOffset),
      ("max_bytes", .int maxBytes)]

/-- `process_input`. -/
def processInput (processHandle inputText : String) (appendNewline : Bool) :
    FacadeTask (Dict String PyValue) :=
  processOperation rt outcomes "process.input" processHandle
    [("input_text", .str inputText), ("append_newline", .bool appendNewline)]

/-- `terminate_process`. -/
def terminateProcess (processHandle : String) (graceS : PyFloat) :
    FacadeTask (Dict String PyValue) :=
  processOperation rt outcomes "process.terminate" processHandle [("grace_s", .float graceS)]

/-- `release_process`. -/
def releaseProcess (processHandle : String) : FacadeTask (Dict String PyValue) := do
  let lease ← lease processHandle
  let cleanup ← closeLaneEvidence outcomes lease.laneId lease.fencingToken
  if isClosed cleanup then
    modify fun f => { f with processes := f.processes.erase processHandle }
  return .ofList [("process_handle", .str processHandle), ("released", .bool (isClosed cleanup)),
    ("cleanup", .dict cleanup.entries)]

/-- `sorted(self._processes)`. -/
def sortedHandles (f : PublicWorkstationFacade) : List String :=
  f.processes.keys.insertionSort (· ≤ ·)

/-- The loop of `list_processes`. -/
def statusOf : List String → FacadeTask (List PyValue)
  | [] => return []
  | handle :: handles => do
    let status ← (processStatus rt outcomes handle).settle
    let rest ← statusOf handles
    let item : PyValue := match status with
      | .ok status => .dict status.entries
      | .error exc => .dict [("process_handle", .str handle), ("status_error",
          .dict [("code", .str exc.reportedCode), ("message", .str exc.message)])]
    return item :: rest

/-- `list_processes`. -/
def listProcesses : FacadeTask (Dict String PyValue) := do
  let results ← statusOf rt outcomes (← get).sortedHandles
  return .ofList [("processes", .list results)]

/-- The loop of `close`. -/
def releaseAll : List String → FacadeTask (List (Dict String PyValue))
  | [] => return []
  | handle :: handles => do
    let released ← releaseProcess outcomes handle
    let rest ← releaseAll handles
    return released :: rest

/-- `close`. -/
def close : FacadeTask (Dict String PyValue) := do
  let results ← releaseAll outcomes (← get).sortedHandles
  let drained := results.all fun item => (item.get? "released").any fun
    | .bool released => released
    | _ => false
  return .ofList [("released_processes", .list (results.map fun item => .dict item.entries)),
    ("drained", .bool drained)]

end PublicWorkstationFacade

end VeraMesh.PublicGateway
