import VeraMesh.Controller.Runtime

/-!
# The operations of the controller runtime

The entry points of `ControllerRuntime` with what they go through: `HotSessionPool.request` over the
channels of the pool, `VeraPortGateway._call` with its ceiling on the operations, and the read-lane
router.
-/

namespace VeraMesh

open Python Coroutine HotSessionPool

/-- Keyword arguments beside `operation`. -/
abbrev Kwargs : Type := { kwargs : Request // kwargs.get? "operation" = none }

namespace ControllerRuntime

variable (runtime : ControllerRuntime)

/-! ## The pool -/

/-- Pooled endpoints without their channels. -/
def sessions (candidates : List PooledEndpoint) : List SessionEndpoint :=
  candidates.map (·.toSessionEndpoint)

/-- The retry loop of `HotSessionPool.request`. -/
def requestLoop (call : Call) (requestId operation : String) (candidates : List PooledEndpoint)
    (state : RetryState) : RuntimeTask Response :=
  match selectEndpoint call (state.remaining (sessions candidates)) with
  | .error err => throw err
  | .ok none => throw (state.lastError.getD ⟨.noCurrentPath, call.workstationPrincipal⟩)
  | .ok (some endpoint) =>
    match candidates.find? fun item => decide (item.toSessionEndpoint = endpoint) with
    | none => throw ⟨.runtimeError, "coroutine raised StopIteration"⟩
    | some item =>
      .await (.pooled item.channel call.request) fun answer =>
        -- every endpoint loses its transport at most once, so the loop ends
        match _h : turn call requestId operation (sessions candidates) (fun _ => answer) state with
        | .done delivery => ofResult delivery.result
        | .again state' => requestLoop call requestId operation candidates state'
termination_by (state.untried (sessions candidates)).length
decreasing_by exact turn_again_untried_lt _h

/-- `HotSessionPool.request`. -/
def poolRequest (call : Call) : RuntimeTask Response := do
  let (requestId, operation) ← ofResult call.validate
  let s ← read
  requestLoop call requestId operation (s.connections.pool.currentEndpoints
    call.workstationPrincipal call.controllerPrincipal call.nowMs) .init

/-! ## The gateway -/

/-- The request of `VeraPortGateway._call`. -/
def gatewayRequest (requestId operation : String) (body : Request) : Request :=
  (Dict.ofList [("protocol_version", .str "veraport-v1"), ("request_id", .str requestId),
    ("operation", .str operation)]).update body

/-- `self.request_id_factory()`. -/
def drawRequestId (s : RuntimeState) : Except PyError String × RuntimeState :=
  let (requestId, reads) := runtime.router.drawRequestId s.reads
  (.ok requestId, { s with reads })

/-- `self.gateway`, with its principals. -/
def gateway (s : RuntimeState) : Except PyError (String × String) :=
  match s.started, s.principals with
  | true, some principals => .ok principals
  | _, _ => .error ⟨.controllerBootstrapError, "controller runtime is not started"⟩

/-- `VeraPortGateway._call`. -/
def gatewayCall (operation : String) (body : Request) : RuntimeTask Response := do
  let s ← read
  let (controllerPrincipal, workstationPrincipal) ← ofResult (gateway s)
  if operation ∉ runtime.config.gatewayOperations then
    throw ⟨.gatewayOperationDenied, operation⟩
  let requestId ← sync runtime.drawRequestId
  if requestId = "" then
    throw ⟨.valueError, "request_id_factory must return a non-empty string"⟩
  let nowMs ← sync fun s => (.ok (runtime.now s).1, (runtime.now s).2)
  poolRequest
    { workstationPrincipal, controllerPrincipal, request := gatewayRequest requestId operation body,
      nowMs, maxPathAgeMs := runtime.config.maxPathAgeMs,
      requestTimeoutS := runtime.config.requestTimeoutS }

/-! ## The read-lane router -/

/-- A coroutine of `_read_router`. -/
def routed {α : Type} (c : ReadLaneTask α) : RuntimeTask α :=
  c.zoom (fun s : RuntimeState => { s.reads with live := s.liveEndpoints })
    (fun reads s => { s with reads }) RuntimeAwait.router fun _ answer => answer

/-- `isinstance(lane_id, str) and type(fencing_token) is int` and `self._read_router.owns(...)`. -/
def owns (laneId fencingToken : PyValue) (s : RuntimeState) : Option (String × ℤ) :=
  match laneId, fencingToken with
  | .str laneId, .int fencingToken =>
    match s.reads.lanes.get? laneId with
    | some ref =>
      if (s.reads.heap ref).fencingToken = fencingToken then some (laneId, fencingToken) else none
    | none => none
  | _, _ => none

/-- The lane of a call goes to the router when the router has it, and to the gateway otherwise. -/
def byOwner (laneId fencingToken : PyValue) (mirrored : String → ℤ → ReadLaneTask Response)
    (otherwise : RuntimeTask Response) : RuntimeTask Response := do
  let s ← read
  match owns laneId fencingToken s with
  | some (laneId, fencingToken) => routed (mirrored laneId fencingToken)
  | none => otherwise

/-! ## The entry points -/

/-- `list_lanes`. -/
def listLanes (task : ℕ) : RuntimeTask Response := do
  runtime.ensureStarted task
  runtime.gatewayCall "lane.list" .empty

/-- `open_lane`. -/
def openLane (task : ℕ) (args : OpenLane) : RuntimeTask Response := do
  runtime.ensureStarted task
  if supportsOpen args.capabilities args.claims then routed (runtime.router.openLane task args)
  else
    runtime.gatewayCall "lane.open" (.ofList [("lane_id", .str args.laneId),
      ("task_id", .str args.taskId), ("capabilities", .list (args.capabilities.map .str)),
      ("claims", .list args.claims), ("ttl_s", .float args.ttlS)])

/-- `renew_lane`. -/
def renewLane (task : ℕ) (laneId fencingToken : PyValue) (ttlS : PyFloat) :
    RuntimeTask Response := do
  runtime.ensureStarted task
  byOwner laneId fencingToken
    (fun laneId fencingToken => runtime.router.renew task laneId fencingToken ttlS)
    (runtime.gatewayCall "lane.renew" (.ofList [("lane_id", laneId),
      ("fencing_token", fencingToken), ("ttl_s", .float ttlS)]))

/-- `close_lane`. -/
def closeLane (task : ℕ) (laneId fencingToken : PyValue) : RuntimeTask Response := do
  runtime.ensureStarted task
  byOwner laneId fencingToken
    (fun laneId fencingToken => runtime.router.close task laneId fencingToken)
    (runtime.gatewayCall "lane.close" (.ofList [("lane_id", laneId),
      ("fencing_token", fencingToken)]))

/-- `read_text`. -/
def readText (task : ℕ) (laneId fencingToken : PyValue) (path encoding : String) :
    RuntimeTask Response := do
  runtime.ensureStarted task
  byOwner laneId fencingToken
    (fun laneId fencingToken => runtime.router.readText task laneId fencingToken path encoding)
    (runtime.gatewayCall "fs.read_text" (.ofList [("lane_id", laneId),
      ("fencing_token", fencingToken), ("path", .str path), ("encoding", .str encoding)]))

/-- `read_bytes`. -/
def readBytes (task : ℕ) (laneId fencingToken : PyValue) (path : String) (offset : ℤ)
    (maxBytes : Option ℤ) (expectedFileVersion : Option String) : RuntimeTask Response := do
  runtime.ensureStarted task
  if "fs.read_bytes" ∉ runtime.config.gatewayOperations then
    throw ⟨.gatewayOperationDenied, "fs.read_bytes"⟩
  byOwner laneId fencingToken
    (fun laneId fencingToken =>
      runtime.router.readBytes task laneId fencingToken path offset maxBytes expectedFileVersion)
    (runtime.gatewayCall "fs.read_bytes" (.ofList [("lane_id", laneId),
      ("fencing_token", fencingToken), ("path", .str path), ("offset", .int offset),
      ("max_bytes", maxBytes.elim .none .int),
      ("expected_file_version", expectedFileVersion.elim .none .str)]))

/-- `read_operation`. -/
def readOperation (task : ℕ) (operation : String) (kwargs : Kwargs) : RuntimeTask Response := do
  runtime.ensureStarted task
  if operation ∉ ["fs.stat", "fs.list_dir", "fs.search", "fs.search_content"] then
    throw ⟨.gatewayOperationDenied, operation⟩
  if operation ∉ runtime.config.gatewayOperations then
    throw ⟨.gatewayOperationDenied, operation⟩
  byOwner ((kwargs.1.get? "lane_id").getD .none) ((kwargs.1.get? "fencing_token").getD .none)
    (fun laneId fencingToken =>
      runtime.router.callReadOperation task operation laneId fencingToken
        ((kwargs.1.erase "lane_id").erase "fencing_token"))
    (runtime.gatewayCall operation kwargs.1)

/-- `write_text`. -/
def writeText (task : ℕ) (laneId fencingToken : PyValue) (path content encoding : String) :
    RuntimeTask Response := do
  runtime.ensureStarted task
  runtime.gatewayCall "fs.write_text" (.ofList [("lane_id", laneId),
    ("fencing_token", fencingToken), ("path", .str path), ("content", .str content),
    ("encoding", .str encoding)])

end ControllerRuntime

/-- A call of a method of the runtime, or of `call_operation` of its gateway. -/
inductive RuntimeCall where
  | ensureStarted
  | refreshPaths
  | close
  | listLanes
  | openLane (args : OpenLane)
  | renewLane (laneId fencingToken : PyValue) (ttlS : PyFloat)
  | closeLane (laneId fencingToken : PyValue)
  | readText (laneId fencingToken : PyValue) (path encoding : String)
  | readBytes (laneId fencingToken : PyValue) (path : String) (offset : ℤ) (maxBytes : Option ℤ)
      (expectedFileVersion : Option String)
  | readOperation (operation : String) (kwargs : Kwargs)
  | writeText (laneId fencingToken : PyValue) (path content encoding : String)
  | callOperation (operation : String) (body : Kwargs)

/-- The coroutine of a call that is made as task number `task`. -/
def RuntimeCall.run (runtime : ControllerRuntime) (task : ℕ) :
    RuntimeCall → RuntimeTask (Option Response)
  | ensureStarted => do
    runtime.ensureStarted task
    return none
  | refreshPaths => do
    runtime.refreshPaths task
    return none
  | close => do
    ControllerRuntime.close task
    return none
  | listLanes => some <$> runtime.listLanes task
  | openLane args => some <$> runtime.openLane task args
  | renewLane laneId fencingToken ttlS => some <$> runtime.renewLane task laneId fencingToken ttlS
  | closeLane laneId fencingToken => some <$> runtime.closeLane task laneId fencingToken
  | readText laneId fencingToken path encoding =>
    some <$> runtime.readText task laneId fencingToken path encoding
  | readBytes laneId fencingToken path offset maxBytes expectedFileVersion =>
    some <$> runtime.readBytes task laneId fencingToken path offset maxBytes expectedFileVersion
  | readOperation operation kwargs => some <$> runtime.readOperation task operation kwargs
  | writeText laneId fencingToken path content encoding =>
    some <$> runtime.writeText task laneId fencingToken path content encoding
  | callOperation operation body => some <$> runtime.gatewayCall operation body.1

namespace ControllerRuntime

/-- The answers a wait can end with: the locks when they are free, and anything otherwise. -/
def answers (s : RuntimeState) : (i : RuntimeAwait) → i.Answer → Prop
  | .lock _, .ok () => s.connections.lockedBy = none
  | .lock _, .error exc => exc.cls = .cancelledError
  | .router i, answer => ReadLaneRouter.answers s.reads i answer
  | .openSession _, _ => True
  | .probe _ _ _, _ => True
  | .closeChannel _, _ => True
  | .pooled _ _, _ => True

/-- What drives a runtime: calls at any time. -/
def driver (runtime : ControllerRuntime) :
    Coroutine.Driver RuntimeState RuntimeAwait RuntimeAwait.Answer PyError (Option Response) where
  calls _ task c := ∃ call : RuntimeCall, c = call.run runtime task
  answers := answers
  environment _ _ := False

end ControllerRuntime

/-- The state of a new runtime. -/
def RuntimeState.init : RuntimeState where
  connections := ⟨.empty, ⟨.empty⟩, none, 0, ∅⟩
  principals := none
  loads := 0
  started := false
  reads := .init []

/-- A runtime with one endpoint, whose clock stands at 1000. -/
def exampleRuntime (operations : List String) (hne : operations ≠ [] := by decide)
    (hknown : ∀ operation ∈ operations, operation ∈ allOperations := by decide) :
    ControllerRuntime where
  config := ⟨operations, [(directEndpoint "").config], 5000, 5, hne, hknown, by decide, by decide,
    by decide, by decide⟩
  router := exampleRouter
  router_maxPathAgeMs := rfl
  identities _ := .ok ("controller:c", "workstation:w")
  rttMs _ := 2

/-- Sessions are opened, probes succeed, and endpoints grant every request. -/
def exampleRuntimeReply (s : RuntimeState) : (i : RuntimeAwait) → i.Answer
  | .lock _ =>
    if s.connections.lockedBy = none then .ok () else .error ⟨.cancelledError, ""⟩
  | .openSession _ => .ok (directEndpoint "s").binding
  | .probe _ _ requestId => .ok (.ofList [("request_id", .str requestId), ("ok", .bool true)])
  | .closeChannel _ => .ok ()
  | .pooled _ _ => .ok (.ofList [("ok", .bool true)])
  | .router i => exampleReply s.reads i

theorem answers_exampleRuntimeReply (s : RuntimeState) (i : RuntimeAwait) :
    ControllerRuntime.answers s i (exampleRuntimeReply s i) := by
  cases i with
  | lock closing =>
    unfold exampleRuntimeReply
    dsimp only
    split
    · next hfree => exact hfree
    · rfl
  | openSession spec => trivial
  | probe spec channel requestId => trivial
  | closeChannel channel => trivial
  | pooled channel request => trivial
  | router i => exact answers_exampleReply s.reads i

end VeraMesh
