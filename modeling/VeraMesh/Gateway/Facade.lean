import Mathlib.Data.List.Sort
import VeraMesh.Gateway.LogicalLane
import VeraMesh.Gateway.RemotePath

/-!
# The facade of the public tools

`Facade` of `facade.go`: every public tool runs its operation under a lane that the facade opens for
it, and a started process keeps its lane until it is released. `Facade.calls` records what the
facade hands to `Controller.Call`, with the answers.
-/

namespace VeraMesh.Gateway

/-- `ControllerAPI`, over the states `σ` of the controller. -/
structure ControllerAPI (σ : Type) where
  call : σ → String → GoMap → Except GoError GoMap × σ
  machineInfo : σ → GoMap × σ

/-- The controller of `controller.go` as a `ControllerAPI`. -/
def Controller.api (w : World) : ControllerAPI Controller := ⟨Controller.call w, machineInfo w⟩

structure ProcessLease where
  publicHandle : String
  internalHandle : String
  laneID : String
  fencingToken : ℤ
  cwd : String
  deriving DecidableEq

/-- A call of `Controller.Call` and its answer. -/
structure OperationCall where
  operation : String
  body : GoMap
  answer : Except GoError GoMap

structure Facade (σ : Type) where
  controller : σ
  actorTag : String
  processes : Dict String ProcessLease
  /-- The number of ids made so far. -/
  counter : ℕ
  calls : List OperationCall

/-- `unwrap`. -/
def unwrap (response : GoMap) : Except GoError GoMap :=
  if !(response.index "ok").isTrue then
    let field (name default : String) : String :=
      let text := ((response.index "error").asMap.index name).asString
      if text = "" then default else text
    let code := field "code" "REMOTE_ERROR"
    .error ⟨code ++ ": " ++ field "message" "remote operation failed", some code⟩
  else
    match (response.index "result").asMap? with
    | none => .error ⟨"remote result must be an object", none⟩
    | some result => .ok result

/-- `fsClaim` and `cwdClaim`, by the scheme of the key. -/
def pathClaim (scheme path mode : String) : Except GoError GoValue := do
  let canon ← canonicalRemotePath path
  return .map [("key", .str (scheme ++ canon)), ("mode", .str mode)]

/-- `fsClaim`. -/
def fsClaim (path mode : String) : Except GoError GoValue := pathClaim "fs:" path mode

/-- `cwdClaim`. -/
def cwdClaim (path mode : String) : Except GoError GoValue := pathClaim "cwd:" path mode

namespace Facade

variable {σ : Type} (api : ControllerAPI σ) (random : ℕ → String)

/-- `NewFacade`. -/
def create (controller : σ) (actorTag : String) : Facade σ := ⟨controller, actorTag, .empty, 0, []⟩

/-- `newID`. -/
def newID (f : Facade σ) (label : String) : String × Facade σ :=
  (label ++ ":" ++ f.actorTag ++ ":" ++ random f.counter, { f with counter := f.counter + 1 })

/-- `f.controller.Call(ctx, operation, body)`. -/
def call (f : Facade σ) (operation : String) (body : GoMap) : Except GoError GoMap × Facade σ :=
  let (answer, controller) := api.call f.controller operation body
  (answer, { f with controller, calls := f.calls ++ [⟨operation, body, answer⟩] })

/-- The fence that `openLane` takes from an answer. -/
def openedFence (answer : Except GoError GoMap) : Except GoError ℤ := do
  let result ← unwrap (← answer)
  match (exactInt64 (result.index "fencing_token")).filter (1 ≤ ·) with
  | none => throw ⟨"lane.open returned no fencing token", none⟩
  | some fence => return fence

/-- The request body of `openLane`. -/
def openBody (laneID taskID : String) (capabilities : List String) (claims : List GoValue)
    (ttlS : Float64) : GoMap :=
  .ofList [("lane_id", .str laneID), ("task_id", .str taskID),
    ("capabilities", .list (capabilities.map .str)), ("claims", .list claims),
    ("ttl_s", .float ttlS)]

/-- The lane and the fence as members of a request body. -/
def laneBody (laneID : String) (fence : ℤ) : GoMap :=
  .ofList [("lane_id", .str laneID), ("fencing_token", .int fence)]

/-- `openLane`. -/
def openLane (f : Facade σ) (capabilities : List String) (claims : List GoValue) (ttlS : Float64)
    (task : String) : Except GoError (String × ℤ) × Facade σ :=
  let (laneID, f) := f.newID random "public-lane"
  let (taskID, f) := f.newID random task
  let (answer, f) := f.call api "lane.open" (openBody laneID taskID capabilities claims ttlS)
  ((openedFence answer).map fun fence => (laneID, fence), f)

/-- What `closeLane` makes of the answer. -/
def closeReport : Except GoError GoMap → GoMap
  | .error err => .ofList [("closed", .bool false),
      ("error", .map [("code", .str "TRANSPORT_ERROR"), ("message", .str err.message)])]
  | .ok response =>
    if (response.index "ok").isTrue then .ofList [("closed", .bool true)]
    else .ofList [("closed", .bool false), ("error", response.index "error")]

/-- `closeLane`. -/
def closeLane (f : Facade σ) (laneID : String) (fence : ℤ) : GoMap × Facade σ :=
  let (answer, f) := f.call api "lane.close" (laneBody laneID fence)
  (closeReport answer, f)

/-- `ephemeral`: the caller's body is merged over the lane and the fence. -/
def ephemeral (f : Facade σ) (operation : String) (capabilities : List String)
    (claims : List GoValue) (body : GoMap) (task : String) : Except GoError GoMap × Facade σ :=
  match f.openLane api random capabilities claims 300 task with
  | (.error err, f) => (.error err, f)
  | (.ok (laneID, fence), f) =>
    let (answer, f) := f.call api operation ((laneBody laneID fence).update body)
    let (cleanup, f) := f.closeLane api laneID fence
    match answer.bind unwrap with
    | .error err => (.error err, f)
    | .ok result =>
      if (cleanup.index "closed").isTrue then (.ok result, f)
      else (.ok (result.set "_veramesh_cleanup" (.map cleanup.entries)), f)

/-- An ephemeral operation under claims that may be refused. -/
def claimed (operation : String) (capabilities : List String)
    (claims : Except GoError (List GoValue)) (body : GoMap) (task : String) (f : Facade σ) :
    Except GoError GoMap × Facade σ :=
  match claims with
  | .error err => (.error err, f)
  | .ok claims => f.ephemeral api random operation capabilities claims body task

/-- A tool that claims one path of the file system. -/
def onPath (operation : String) (capabilities : List String) (path mode : String) (body : GoMap)
    (task : String) : Facade σ → Except GoError GoMap × Facade σ :=
  claimed api random operation capabilities ((fsClaim path mode).map fun claim => [claim]) body task

/-- `ComputerInfo`. -/
def computerInfo (f : Facade σ) : Except GoError GoMap × Facade σ :=
  let (info, controller) := api.machineInfo f.controller
  (.ok info, { f with controller })

/-- The encoding of a file tool. -/
def encodingOr (encoding : String) : String := if encoding = "" then "utf-8" else encoding

/-- `ReadFile`. -/
def readFile (p encoding : String) : Facade σ → Except GoError GoMap × Facade σ :=
  onPath api random "fs.read_text" ["fs.read"] p "read"
    (.ofList [("path", .str p), ("encoding", .str (encodingOr encoding))]) "read-file"

/-- `ReadBytes`. -/
def readBytes (p : String) (offset : ℤ) (maxBytes : Option ℤ) (expectedVersion : Option String) :
    Facade σ → Except GoError GoMap × Facade σ :=
  onPath api random "fs.read_bytes" ["fs.read"] p "read"
    (.ofList ([("path", .str p), ("offset", .int offset)] ++
      (maxBytes.map fun n => ("max_bytes", .int n)).toList ++
      (expectedVersion.map fun v => ("expected_file_version", .str v)).toList)) "read-bytes"

/-- `StatPath`. -/
def statPath (p : String) : Facade σ → Except GoError GoMap × Facade σ :=
  onPath api random "fs.stat" ["fs.read"] p "read" (.ofList [("path", .str p)]) "stat"

/-- `ListDirectory`. -/
def listDirectory (p : String) (offset maxEntries : ℤ) :
    Facade σ → Except GoError GoMap × Facade σ :=
  onPath api random "fs.list_dir" ["fs.read"] p "read"
    (.ofList [("path", .str p), ("offset", .int offset), ("max_entries", .int maxEntries)])
    "list-directory"

/-- `SearchFiles`. -/
def searchFiles (body : GoMap) : Facade σ → Except GoError GoMap × Facade σ :=
  onPath api random "fs.search" ["fs.read"] (body.index "root").asString "read" body "search-files"

/-- `SearchContent`. -/
def searchContent (body : GoMap) : Facade σ → Except GoError GoMap × Facade σ :=
  onPath api random "fs.search_content" ["fs.read"] (body.index "root").asString "read" body
    "search-content"

/-- `WriteFile`. -/
def writeFile (p content encoding : String) : Facade σ → Except GoError GoMap × Facade σ :=
  onPath api random "fs.write_text" ["fs.write"] p "write"
    (.ofList [("path", .str p), ("content", .str content),
      ("encoding", .str (encodingOr encoding))]) "write-file"

/-- `AppendFile`. -/
def appendFile (p content encoding : String) : Facade σ → Except GoError GoMap × Facade σ :=
  onPath api random "fs.append_text" ["fs.write"] p "write"
    (.ofList [("path", .str p), ("content", .str content),
      ("encoding", .str (encodingOr encoding))]) "append-file"

/-- `MakeDirectory`. -/
def makeDirectory (p : String) (parents : Bool) : Facade σ → Except GoError GoMap × Facade σ :=
  onPath api random "fs.mkdir" ["fs.write"] p "write"
    (.ofList [("path", .str p), ("parents", .bool parents)]) "mkdir"

/-- `MovePath`. -/
def movePath (source destination : String) : Facade σ → Except GoError GoMap × Facade σ :=
  let claims : Except GoError (List GoValue) := do
    let a ← fsClaim source "write"
    let b ← fsClaim destination "write"
    return [a, b]
  claimed api random "fs.move" ["fs.write"] claims
    (.ofList [("source", .str source), ("destination", .str destination)]) "move"

/-- `ReplaceText`. -/
def replaceText (body : GoMap) : Facade σ → Except GoError GoMap × Facade σ :=
  onPath api random "fs.replace_text" ["fs.read", "fs.write"] (body.index "path").asString "write"
    body "replace-text"

/-- `RunProcess`. -/
def runProcess (argv : List String) (cwd : String) (timeoutS : Float64) :
    Facade σ → Except GoError GoMap × Facade σ :=
  claimed api random "process.exec" ["process.exec"]
    ((cwdClaim cwd "write").map fun claim => [claim])
    (.ofList [("argv", .list (argv.map .str)), ("cwd", .str cwd), ("timeout_s", .float timeoutS)])
    "run-process"

/-- The handle that `StartProcess` takes from an answer. -/
def startedHandle (answer : Except GoError GoMap) : Except GoError (GoMap × String) := do
  let result ← unwrap (← answer)
  let internal := (result.index "process_handle").asString
  if internal = "" then throw ⟨"process.start returned no process handle", none⟩
  return (result, internal)

/-- The lifetime of the lane of a started process. -/
def processTTL (maxRuntimeS : Float64) : Float64 :=
  let ttl := maxRuntimeS + 300
  if (3600 : Float64).lt ttl then 3600 else ttl

/-- `StartProcess`. -/
def startProcess (argv : List String) (cwd : String) (maxRuntimeS : Float64) (f : Facade σ) :
    Except GoError GoMap × Facade σ :=
  match cwdClaim cwd "write" with
  | .error err => (.error err, f)
  | .ok claim =>
    match f.openLane api random
        ["process.exec", "process.inspect", "process.interact", "process.control"] [claim]
        (processTTL maxRuntimeS) "start-process" with
    | (.error err, f) => (.error err, f)
    | (.ok (laneID, fence), f) =>
      let (answer, f) := f.call api "process.start" ((laneBody laneID fence).update
        (.ofList [("argv", .list (argv.map .str)), ("cwd", .str cwd),
          ("max_runtime_s", .float maxRuntimeS)]))
      match startedHandle answer with
      | .error err =>
        let (_, f) := f.closeLane api laneID fence
        (.error err, f)
      | .ok (result, internal) =>
        let canon := ((canonicalRemotePath cwd).toOption).getD ""
        let (handle, f) := f.newID random "job"
        let lease : ProcessLease := ⟨handle, internal, laneID, fence, canon⟩
        (.ok (result.set "process_handle" (.str handle)),
          { f with processes := f.processes.set handle lease })

/-- `lease`. -/
def lease (f : Facade σ) (handle : String) : Except GoError ProcessLease :=
  match f.processes.get? handle with
  | none => .error ⟨"public process not found: " ++ handle, none⟩
  | some lease => .ok lease

/-- `processOperation`. -/
def processOperation (operation handle : String) (body : GoMap) (f : Facade σ) :
    Except GoError GoMap × Facade σ :=
  match f.lease handle with
  | .error err => (.error err, f)
  | .ok lease =>
    let request := ((laneBody lease.laneID lease.fencingToken).set "process_handle"
      (.str lease.internalHandle)).update body
    let (answer, f) := f.call api operation request
    ((answer.bind unwrap).map fun result =>
      result.set "process_handle" (.str lease.publicHandle), f)

/-- `ProcessStatus`. -/
def processStatus (handle : String) : Facade σ → Except GoError GoMap × Facade σ :=
  processOperation api "process.status" handle .empty

/-- `ProcessOutput`. -/
def processOutput (handle : String) (stdoutOffset stderrOffset maxBytes : ℤ) :
    Facade σ → Except GoError GoMap × Facade σ :=
  processOperation api "process.output" handle (.ofList [("stdout_offset", .int stdoutOffset),
    ("stderr_offset", .int stderrOffset), ("max_bytes", .int maxBytes)])

/-- `ProcessInput`. -/
def processInput (handle input : String) (appendNewline : Bool) :
    Facade σ → Except GoError GoMap × Facade σ :=
  processOperation api "process.input" handle
    (.ofList [("input_text", .str input), ("append_newline", .bool appendNewline)])

/-- `TerminateProcess`. -/
def terminateProcess (handle : String) (graceS : Float64) :
    Facade σ → Except GoError GoMap × Facade σ :=
  processOperation api "process.terminate" handle (.ofList [("grace_s", .float graceS)])

/-- `ReleaseProcess`. -/
def releaseProcess (handle : String) (f : Facade σ) : Except GoError GoMap × Facade σ :=
  match f.lease handle with
  | .error err => (.error err, f)
  | .ok lease =>
    let (cleanup, f) := f.closeLane api lease.laneID lease.fencingToken
    let closed := (cleanup.index "closed").isTrue
    (.ok (.ofList [("process_handle", .str handle), ("released", .bool closed),
        ("cleanup", .map cleanup.entries)]),
      if closed then { f with processes := f.processes.erase handle } else f)

/-- The public handles in order. -/
def sortedHandles (f : Facade σ) : List String := f.processes.keys.insertionSort (· ≤ ·)

/-- The loop of `ListProcesses`. -/
def statusOf : List String → Facade σ → List GoValue × Facade σ
  | [], f => ([], f)
  | handle :: handles, f =>
    let (status, f) := f.processStatus api handle
    let (rest, f) := statusOf handles f
    let entry : GoValue :=
      match status with
      | .ok status => .map status.entries
      | .error err => .map [("process_handle", .str handle), ("status_error",
          .map [("code", .str "PROCESS_STATUS_ERROR"), ("message", .str err.message)])]
    (entry :: rest, f)

/-- `ListProcesses`. -/
def listProcesses (f : Facade σ) : Except GoError GoMap × Facade σ :=
  let (results, f) := statusOf api f.sortedHandles f
  (.ok (.ofList [("processes", .list results)]), f)

/-- The loop of `Close`. -/
def releaseAll : List String → Facade σ → List GoValue × Bool × Facade σ
  | [], f => ([], true, f)
  | handle :: handles, f =>
    let (released, f) := f.releaseProcess api handle
    let (rest, drained, f) := releaseAll handles f
    match released with
    | .ok result => (.map result.entries :: rest, drained && (result.index "released").isTrue, f)
    | .error err => (.map [("process_handle", .str handle), ("released", .bool false),
        ("error", .str err.message)] :: rest, false, f)

/-- `Close`. -/
def close (f : Facade σ) : GoMap × Facade σ :=
  let (results, drained, f) := releaseAll api f.sortedHandles f
  (.ofList [("released_processes", .list results), ("drained", .bool drained)], f)

end Facade

end VeraMesh.Gateway
