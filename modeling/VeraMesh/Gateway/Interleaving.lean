import VeraMesh.Gateway.MCPServer
import VeraMesh.Lib.Coroutine

/-!
# Interleaved tool calls

`MCPGateway` and its facades with many tool calls at a time, as `mcp_server.go` and `facade.go` run
them: every tool call is a goroutine, and others can run before each locked section and while it
waits for the controller. What the controller answers is left open.

* `ToolCall`: what `dispatchTool` calls on the facade.
* `MCPGateway.callTool`, `MCPGateway.closeAll`: the goroutines of the gateway.
* `gatewayDriver`: the runs of any number of goroutines.
-/

namespace VeraMesh.Gateway

open Coroutine

/-! ## The shared state -/

/-- What happened at the gateway, with the number of the goroutine and the actor of the facade. -/
inductive GatewayEvent where
  /-- `Controller.Call` is called. -/
  | sent (t : ℕ) (actor operation : String) (body : GoMap)
  /-- `Controller.Call` returns. -/
  | answered (t : ℕ) (actor operation : String) (body : GoMap) (answer : Except GoError GoMap)
  /-- `StartProcess` stores a lease. -/
  | started (t : ℕ) (actor : String) (lease : ProcessLease)
  /-- `ReleaseProcess` returns its report. -/
  | reported (t : ℕ) (actor handle : String) (closed : Bool)

/-- The state that the goroutines share. -/
structure SharedGateway where
  /-- `facades`, by their actors. -/
  facades : Dict String (Facade Unit) := .empty
  /-- The goroutines that drew random ids, in order. -/
  drawn : List ℕ := []
  history : List GatewayEvent := []

/-- What a goroutine waits for. -/
inductive GatewayWait where
  /-- Its turn to lock a mutex or to draw an id. -/
  | turn
  /-- `Controller.Call`. -/
  | call (operation : String) (body : GoMap)
  /-- `Controller.MachineInfo`. -/
  | machineInfo
  /-- `WorkBridgeClient.CallPublic`. -/
  | callPublic (name : String) (args : GoMap)

/-- What a wait ends with. -/
abbrev GatewayWait.Answer : GatewayWait → Type
  | turn => Unit
  | call _ _ => Except GoError GoMap
  | machineInfo => GoMap
  | callPublic _ _ => Except GoError GoMap

/-- A part of a goroutine. -/
abbrev Goroutine (α : Type) := Coroutine SharedGateway GatewayWait GatewayWait.Answer GoError α

namespace SharedGateway

/-- The state with one event more. -/
def record (s : SharedGateway) (event : GatewayEvent) : SharedGateway :=
  { s with history := s.history ++ [event] }

/-- The processes of the facade of an actor. -/
def processes (s : SharedGateway) (actor : String) : Dict String ProcessLease :=
  ((s.facades.get? actor).map (·.processes)).getD .empty

/-- The facade of an actor with other processes. -/
def setProcesses (s : SharedGateway) (actor : String) (processes : Dict String ProcessLease) :
    SharedGateway :=
  match s.facades.get? actor with
  | none => s
  | some f => { s with facades := s.facades.set actor { f with processes } }

/-- `facade`: the facade of the actor, which is made where it is missing. -/
def facade (surroundings : Surroundings) (actor : String) (s : SharedGateway) :
    Except GoError (Facade Unit) × SharedGateway :=
  match s.facades.get? actor with
  | some existing => (.ok existing, s)
  | none =>
    match newFacade surroundings actor with
    | .error err => (.error err, s)
    | .ok f => (.ok f, { s with facades := s.facades.set actor f })

end SharedGateway

/-- A section under a mutex, or any other part that comes at once. -/
def locked {α : Type} (f : SharedGateway → Except GoError α × SharedGateway) : Goroutine α := do
  answer GatewayWait.turn
  sync f

/-! ## The facade -/

/-- A `*Facade` in the hands of a goroutine. -/
structure FacadeRef where
  task : ℕ
  actor : String
  actorTag : String

namespace FacadeRef

variable (ids : RandomIDs) (f : FacadeRef)

/-- `newID`. -/
def newID (label : String) : Goroutine String :=
  locked fun s => (.ok (label ++ ":" ++ f.actorTag ++ ":" ++ ids.text s.drawn.length),
    { s with drawn := s.drawn ++ [f.task] })

/-- `f.controller.Call(ctx, operation, body)`. -/
def call (operation : String) (body : GoMap) : Goroutine (Except GoError GoMap) := do
  update fun s => s.record (.sent f.task f.actor operation body)
  let response ← answer (.call operation body)
  update fun s => s.record (.answered f.task f.actor operation body response)
  return response

/-- `openLane`. -/
def openLane (capabilities : List String) (claims : List GoValue) (ttlS : Float64)
    (task : String) : Goroutine (String × ℤ) := do
  let laneID ← f.newID ids "public-lane"
  let taskID ← f.newID ids task
  let response ← f.call "lane.open" (Facade.openBody laneID taskID capabilities claims ttlS)
  let fence ← ofResult (Facade.openedFence response)
  return (laneID, fence)

/-- `closeLane`. -/
def closeLane (laneID : String) (fence : ℤ) : Goroutine GoMap := do
  let response ← f.call "lane.close" (Facade.laneBody laneID fence)
  return Facade.closeReport response

/-- `ephemeral`. -/
def ephemeral (operation : String) (capabilities : List String) (claims : List GoValue)
    (body : GoMap) (task : String) : Goroutine GoMap := do
  let (laneID, fence) ← f.openLane ids capabilities claims 300 task
  let response ← f.call operation ((Facade.laneBody laneID fence).update body)
  let cleanup ← f.closeLane laneID fence
  let result ← ofResult (response.bind unwrap)
  if (cleanup.index "closed").isTrue then return result
  else return result.set "_veramesh_cleanup" (.map cleanup.entries)

/-- An ephemeral operation under claims that may be refused. -/
def claimed (operation : String) (capabilities : List String)
    (claims : Except GoError (List GoValue)) (body : GoMap) (task : String) : Goroutine GoMap := do
  f.ephemeral ids operation capabilities (← ofResult claims) body task

/-- `RunProcess`. -/
def runProcess (argv : List String) (cwd : String) (timeoutS : Float64) : Goroutine GoMap :=
  f.claimed ids "process.exec" ["process.exec"] ((cwdClaim cwd "write").map fun claim => [claim])
    (.ofList [("argv", .list (argv.map .str)), ("cwd", .str cwd), ("timeout_s", .float timeoutS)])
    "run-process"

/-- The end of `StartProcess`, where the process has started. -/
def storeLease (cwd laneID : String) (fence : ℤ) (result : GoMap) (internal : String) :
    Goroutine GoMap := do
  let canon := ((canonicalRemotePath cwd).toOption).getD ""
  let handle ← f.newID ids "job"
  let lease : ProcessLease := ⟨handle, internal, laneID, fence, canon⟩
  locked fun s => (.ok (), (s.setProcesses f.actor ((s.processes f.actor).set handle lease)).record
    (.started f.task f.actor lease))
  return result.set "process_handle" (.str handle)

/-- `StartProcess`. -/
def startProcess (argv : List String) (cwd : String) (maxRuntimeS : Float64) :
    Goroutine GoMap := do
  let claim ← ofResult (cwdClaim cwd "write")
  let (laneID, fence) ← f.openLane ids
    ["process.exec", "process.inspect", "process.interact", "process.control"] [claim]
    (Facade.processTTL maxRuntimeS) "start-process"
  let response ← f.call "process.start" ((Facade.laneBody laneID fence).update
    (.ofList [("argv", .list (argv.map .str)), ("cwd", .str cwd),
      ("max_runtime_s", .float maxRuntimeS)]))
  match Facade.startedHandle response with
  | .error err => do
    let _ ← f.closeLane laneID fence
    throw err
  | .ok (result, internal) => f.storeLease ids cwd laneID fence result internal

/-- `lease`. -/
def lease (handle : String) : Goroutine ProcessLease :=
  locked fun s =>
    match (s.processes f.actor).get? handle with
    | none => (.error ⟨"public process not found: " ++ handle, none⟩, s)
    | some lease => (.ok lease, s)

/-- `processOperation`. -/
def processOperation (operation handle : String) (body : GoMap) : Goroutine GoMap := do
  let lease ← f.lease handle
  let request := ((Facade.laneBody lease.laneID lease.fencingToken).set "process_handle"
    (.str lease.internalHandle)).update body
  let response ← f.call operation request
  let result ← ofResult (response.bind unwrap)
  return result.set "process_handle" (.str lease.publicHandle)

/-- `ProcessStatus`. -/
def processStatus (handle : String) : Goroutine GoMap :=
  f.processOperation "process.status" handle .empty

/-- `ProcessOutput`. -/
def processOutput (handle : String) (stdoutOffset stderrOffset maxBytes : ℤ) : Goroutine GoMap :=
  f.processOperation "process.output" handle (.ofList [("stdout_offset", .int stdoutOffset),
    ("stderr_offset", .int stderrOffset), ("max_bytes", .int maxBytes)])

/-- `ProcessInput`. -/
def processInput (handle input : String) (appendNewline : Bool) : Goroutine GoMap :=
  f.processOperation "process.input" handle
    (.ofList [("input_text", .str input), ("append_newline", .bool appendNewline)])

/-- `TerminateProcess`. -/
def terminateProcess (handle : String) (graceS : Float64) : Goroutine GoMap :=
  f.processOperation "process.terminate" handle (.ofList [("grace_s", .float graceS)])

/-- `ReleaseProcess`. -/
def releaseProcess (handle : String) : Goroutine GoMap := do
  let lease ← f.lease handle
  let cleanup ← f.closeLane lease.laneID lease.fencingToken
  let closed := (cleanup.index "closed").isTrue
  if closed then
    locked fun s => (.ok (), s.setProcesses f.actor ((s.processes f.actor).erase handle))
  update fun s => s.record (.reported f.task f.actor handle closed)
  return .ofList [("process_handle", .str handle), ("released", .bool closed),
    ("cleanup", .map cleanup.entries)]

/-- The handles of the facade, in order. -/
def sortedHandles : Goroutine (List String) :=
  locked fun s => (.ok ((s.processes f.actor).keys.insertionSort (· ≤ ·)), s)

/-- A result as a value, and the entry for an error. -/
def entryOr (entry : GoError → GoValue) (x : Goroutine GoMap) : Goroutine GoValue :=
  tryCatch (do return .map (← x).entries) fun err => return entry err

/-- The loop of `ListProcesses`. -/
def statusOf : List String → Goroutine (List GoValue)
  | [] => return []
  | handle :: handles => do
    let status ← entryOr (fun err => .map [("process_handle", .str handle), ("status_error",
      .map [("code", .str "PROCESS_STATUS_ERROR"), ("message", .str err.message)])])
      (f.processStatus handle)
    return status :: (← statusOf handles)

/-- `ListProcesses`. -/
def listProcesses : Goroutine GoMap := do
  let handles ← f.sortedHandles
  let results ← f.statusOf handles
  return .ofList [("processes", .list results)]

/-- The loop of `Close`. -/
def releaseAll : List String → Goroutine (List GoValue)
  | [] => return []
  | handle :: handles => do
    let result ← entryOr (fun err => .map [("process_handle", .str handle),
      ("released", .bool false), ("error", .str err.message)]) (f.releaseProcess handle)
    return result :: (← releaseAll handles)

/-- `Close`. It has drained the facade when every process is released. -/
def close : Goroutine GoMap := do
  let handles ← f.sortedHandles
  let results ← f.releaseAll handles
  return .ofList [("released_processes", .list results),
    ("drained", .bool (results.all fun result => (result.asMap.index "released").isTrue))]

/-- `ComputerInfo`. -/
def computerInfo : Goroutine GoMap := answer GatewayWait.machineInfo

end FacadeRef

/-! ## Tool calls -/

/-- The operations of the file tools. -/
inductive FileOperation where
  | readText | readBytes | stat | listDir | search | searchContent
  | writeText | appendText | mkdir | move | replaceText

/-- The name of an operation. -/
def FileOperation.text : FileOperation → String
  | readText => "fs.read_text"
  | readBytes => "fs.read_bytes"
  | stat => "fs.stat"
  | listDir => "fs.list_dir"
  | search => "fs.search"
  | searchContent => "fs.search_content"
  | writeText => "fs.write_text"
  | appendText => "fs.append_text"
  | mkdir => "fs.mkdir"
  | move => "fs.move"
  | replaceText => "fs.replace_text"

/-- What `dispatchTool` calls on the facade. -/
inductive ToolCall where
  | computerInfo
  /-- A file tool. -/
  | file (operation : FileOperation) (capabilities : List String)
    (claims : Except GoError (List GoValue)) (body : GoMap) (task : String)
  | runProcess (argv : List String) (cwd : String) (timeoutS : Float64)
  | startProcess (argv : List String) (cwd : String) (maxRuntimeS : Float64)
  | listProcesses
  | processStatus (handle : String)
  | processOutput (handle : String) (stdoutOffset stderrOffset maxBytes : ℤ)
  | processInput (handle input : String) (appendNewline : Bool)
  | terminateProcess (handle : String) (graceS : Float64)
  | releaseProcess (handle : String)

namespace ToolCall

/-- A tool that claims one path of the file system. -/
def onPath (operation : FileOperation) (capabilities : List String) (path mode : String)
    (body : GoMap) (task : String) : ToolCall :=
  .file operation capabilities ((fsClaim path mode).map fun claim => [claim]) body task

/-- `dispatchTool`, up to the call on the facade. -/
def ofArguments (name : String) (a : GoMap) : Except GoError ToolCall :=
  match name with
  | "computer_info" => return .computerInfo
  | "read_file" => do
    let p ← reqString a "path"
    return onPath .readText ["fs.read"] p "read" (.ofList [("path", .str p),
      ("encoding", .str (Facade.encodingOr (optString a "encoding" "utf-8")))]) "read-file"
  | "read_bytes" => do
    let p ← reqString a "path"
    let offset ← optInt64 a "offset" 0
    let maxBytes ← optional a "max_bytes" exactJSONInt64
    let expected ← optional a "expected_file_version" stringValue
    return onPath .readBytes ["fs.read"] p "read"
      (.ofList ([("path", .str p), ("offset", .int offset)] ++
        (maxBytes.map fun n => ("max_bytes", .int n)).toList ++
        (expected.map fun v => ("expected_file_version", .str v)).toList)) "read-bytes"
  | "stat_path" => do
    let p ← reqString a "path"
    return onPath .stat ["fs.read"] p "read" (.ofList [("path", .str p)]) "stat"
  | "list_directory" => do
    let p ← reqString a "path"
    let offset ← optInt64 a "offset" 0
    let maxEntries ← optInt64 a "max_entries" 200
    return onPath .listDir ["fs.read"] p "read"
      (.ofList [("path", .str p), ("offset", .int offset), ("max_entries", .int maxEntries)])
      "list-directory"
  | "search_files" => do
    let _ ← reqString a "root"
    let _ ← reqString a "query"
    let body := applyDefaults a searchFilesDefaults
    return onPath .search ["fs.read"] (body.index "root").asString "read" body "search-files"
  | "search_content" => do
    let _ ← reqString a "root"
    let _ ← reqString a "query"
    let body := applyDefaults a searchContentDefaults
    return onPath .searchContent ["fs.read"] (body.index "root").asString "read" body
      "search-content"
  | "write_file" => do
    let p ← reqString a "path"
    let content ← reqStringAllowEmpty a "content"
    return onPath .writeText ["fs.write"] p "write"
      (.ofList [("path", .str p), ("content", .str content),
        ("encoding", .str (Facade.encodingOr (optString a "encoding" "utf-8")))]) "write-file"
  | "append_file" => do
    let p ← reqString a "path"
    let content ← reqStringAllowEmpty a "content"
    return onPath .appendText ["fs.write"] p "write"
      (.ofList [("path", .str p), ("content", .str content),
        ("encoding", .str (Facade.encodingOr (optString a "encoding" "utf-8")))]) "append-file"
  | "make_directory" => do
    let p ← reqString a "path"
    let parents ← optBool a "parents" true
    return onPath .mkdir ["fs.write"] p "write"
      (.ofList [("path", .str p), ("parents", .bool parents)]) "mkdir"
  | "move_path" => do
    let source ← reqString a "source"
    let destination ← reqString a "destination"
    let claims : Except GoError (List GoValue) := do
      let a ← fsClaim source "write"
      let b ← fsClaim destination "write"
      return [a, b]
    return .file .move ["fs.write"] claims
      (.ofList [("source", .str source), ("destination", .str destination)]) "move"
  | "replace_text" => do
    let _ ← reqString a "path"
    let _ ← reqStringAllowEmpty a "old_string"
    let _ ← reqStringAllowEmpty a "new_string"
    let body := applyDefaults a replaceTextDefaults
    return onPath .replaceText ["fs.read", "fs.write"] (body.index "path").asString "write" body
      "replace-text"
  | "run_process" => do
    let argv ← reqStringSlice a "argv"
    let cwd ← reqString a "cwd"
    let timeout ← optFloat a "timeout_s" 60
    return .runProcess argv cwd timeout
  | "start_process" => do
    let argv ← reqStringSlice a "argv"
    let cwd ← reqString a "cwd"
    let maxRuntime ← optFloat a "max_runtime_s" 900
    return .startProcess argv cwd maxRuntime
  | "list_processes" => return .listProcesses
  | "process_status" => do
    let handle ← reqString a "process_handle"
    return .processStatus handle
  | "process_output" => do
    let handle ← reqString a "process_handle"
    let stdoutOffset ← optInt64 a "stdout_offset" 0
    let stderrOffset ← optInt64 a "stderr_offset" 0
    let maxBytes ← optInt64 a "max_bytes" 16384
    return .processOutput handle stdoutOffset stderrOffset maxBytes
  | "process_input" => do
    let handle ← reqString a "process_handle"
    let input ← reqStringAllowEmpty a "input_text"
    let newline ← optBool a "append_newline" true
    return .processInput handle input newline
  | "terminate_process" => do
    let handle ← reqString a "process_handle"
    let grace ← optFloat a "grace_s" 2
    return .terminateProcess handle grace
  | "release_process" => do
    let handle ← reqString a "process_handle"
    return .releaseProcess handle
  | name => throw ⟨"unknown public tool: " ++ name, none⟩

/-- The call as a function of a facade that works alone. -/
def action {σ : Type} (api : ControllerAPI σ) (random : ℕ → String) :
    ToolCall → Facade σ → Except GoError GoMap × Facade σ
  | .computerInfo => Facade.computerInfo api
  | .file operation capabilities claims body task =>
    Facade.claimed api random operation.text capabilities claims body task
  | .runProcess argv cwd timeoutS => Facade.runProcess api random argv cwd timeoutS
  | .startProcess argv cwd maxRuntimeS => Facade.startProcess api random argv cwd maxRuntimeS
  | .listProcesses => Facade.listProcesses api
  | .processStatus handle => Facade.processStatus api handle
  | .processOutput handle stdoutOffset stderrOffset maxBytes =>
    Facade.processOutput api handle stdoutOffset stderrOffset maxBytes
  | .processInput handle input appendNewline =>
    Facade.processInput api handle input appendNewline
  | .terminateProcess handle graceS => Facade.terminateProcess api handle graceS
  | .releaseProcess handle => Facade.releaseProcess api handle

/-- The call as a part of a goroutine. -/
def program (ids : RandomIDs) (f : FacadeRef) : ToolCall → Goroutine GoMap
  | .computerInfo => FacadeRef.computerInfo
  | .file operation capabilities claims body task =>
    f.claimed ids operation.text capabilities claims body task
  | .runProcess argv cwd timeoutS => f.runProcess ids argv cwd timeoutS
  | .startProcess argv cwd maxRuntimeS => f.startProcess ids argv cwd maxRuntimeS
  | .listProcesses => f.listProcesses
  | .processStatus handle => f.processStatus handle
  | .processOutput handle stdoutOffset stderrOffset maxBytes =>
    f.processOutput handle stdoutOffset stderrOffset maxBytes
  | .processInput handle input appendNewline => f.processInput handle input appendNewline
  | .terminateProcess handle graceS => f.terminateProcess handle graceS
  | .releaseProcess handle => f.releaseProcess handle

end ToolCall

/-- The same calls as those of a facade that works alone. -/
theorem toolAction_eq_map_ofArguments {σ : Type} (api : ControllerAPI σ) (random : ℕ → String)
    (name : String) (a : GoMap) :
    Facade.toolAction api random name a =
      (ToolCall.ofArguments name a).map (ToolCall.action api random) := by
  unfold Facade.toolAction ToolCall.ofArguments
  split
  -- a tool without arguments has no bind
  all_goals try simp only [Except.map_bind]
  all_goals rfl

/-! ## The gateway -/

/-- What stays the same of an `MCPGateway`. -/
structure GatewaySetup (u : Unicode) where
  surroundings : Surroundings
  /-- `controller.Config()`. -/
  cfg : Config
  issuer : String
  workbridge : Option (WorkBridgeClient u)

namespace MCPGateway

variable {u : Unicode} (g : GatewaySetup u)

/-- `facade`. -/
def facadeOf (t : ℕ) (actor : String) : Goroutine FacadeRef := do
  let f ← locked (SharedGateway.facade g.surroundings actor)
  return ⟨t, actor, f.actorTag⟩

/-- The part of `callTool` that tries WorkBridge. -/
def tryWorkBridge (policy : ToolPolicy) (args : GoMap) : Goroutine (Option ToolResult) :=
  match g.workbridge with
  | none => return none
  | some w => do
    if !w.canHandlePublic policy.name args then return none
    match ← answer (GatewayWait.callPublic policy.name args) with
    | .ok result => return some (successToolResult g.surroundings result)
    | .error err =>
      if !policy.readOnly || !toolSupported g.cfg policy then
        return some (.error "WORKBRIDGE_UPSTREAM_ERROR" err.message)
      return none

/-- The part of `callTool` that uses VeraPort. -/
def useVeraPort (t : ℕ) (policy : ToolPolicy) (userID : String) (args : GoMap) :
    Goroutine ToolResult := do
  if !toolSupported g.cfg policy then
    return .error "BACKEND_UNAVAILABLE" "no backend can preserve this tool's semantics"
  let failed (err : GoError) : Goroutine ToolResult :=
    return .error (err.remoteCode.getD "PUBLIC_GATEWAY_ERROR") err.message
  tryCatch (do
    let facade ← facadeOf g t (g.issuer ++ "|" ++ userID)
    let call ← ofResult (ToolCall.ofArguments policy.name args)
    let result ← call.program g.surroundings.ids facade
    return successToolResult g.surroundings result) failed

/-- `callTool`, as goroutine `t`. -/
def callToolAs (t : ℕ) (policy : ToolPolicy) (req : CallToolRequest) : Goroutine ToolResult :=
  match req.token with
  | none => return .authError "invalid_token" "VeraMesh OAuth token is required" policy.scopes
  | some token => do
    if trimSpace token.userID.toList = [] then
      return .authError "invalid_token" "OAuth resource-owner subject is required" policy.scopes
    let missing := missingScopes token.scopes policy.scopes
    if missing ≠ [] then
      return .authError "insufficient_scope"
        ("Additional VeraMesh permission required: " ++ ", ".intercalate missing) policy.scopes
    match req.arguments with
    | .error err => return .error "INVALID_ARGUMENTS" err.message
    | .ok args =>
      match ← tryWorkBridge g policy args with
      | some result => return result
      | none => useVeraPort g t policy token.userID args

/-- The loop of `Close`, over the actors and the tags of their facades. -/
def closeEach (t : ℕ) : List (String × String) → Goroutine Unit
  | [] => return ()
  | (actor, actorTag) :: actors => do
    let _ ← FacadeRef.close ⟨t, actor, actorTag⟩
    closeEach t actors

/-- `Close`, as goroutine `t` and without its report. -/
def closeAs (t : ℕ) : Goroutine Unit := do
  let actors ← locked fun s =>
    (.ok ((s.facades.keys.insertionSort (· ≤ ·)).filterMap fun actor =>
      (s.facades.get? actor).map fun f => (actor, f.actorTag)), s)
  closeEach t actors

/-- What can be started as goroutine `t`. -/
inductive Started (t : ℕ) : Goroutine Unit → Prop
  | call (policy : ToolPolicy) (registered : policy ∈ PublicTools) (req : CallToolRequest) :
      Started t (do let _ ← callToolAs g t policy req)
  | close : Started t (closeAs t)

end MCPGateway

/-- Any number of tool calls and calls of `Close`, with any answers. -/
def gatewayDriver {u : Unicode} (g : GatewaySetup u) :
    Driver SharedGateway GatewayWait GatewayWait.Answer GoError Unit where
  calls _ t c := MCPGateway.Started g t c
  answers _ _ _ := True
  environment _ _ := False

end VeraMesh.Gateway
