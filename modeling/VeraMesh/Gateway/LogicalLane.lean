import Mathlib.Data.String.Basic
import VeraMesh.Gateway.Controller

/-!
# Logical read lanes and `Controller.Call`

A lane that is opened for reading only is not tied to one session: the controller keeps it in
`Controller.readLanes` under a fence of its own and mirrors it on whatever path a read takes. Every
other operation is passed through on the best current path.
-/

namespace VeraMesh.Gateway

/-- `stringSlice`. -/
def stringSlice : GoValue → Option (List String)
  | .list items => items.mapM GoValue.asString?
  | _ => none

/-- `claimList`. -/
def claimList : GoValue → Option (List GoMap)
  | .list items => items.mapM GoValue.asMap?
  | _ => none

/-- `isReadOnlyLaneOpen`. -/
def isReadOnlyLaneOpen (body : GoMap) : Bool :=
  match stringSlice (body.index "capabilities"), claimList (body.index "claims") with
  | some caps, some claims =>
    caps == ["fs.read"] && !claims.isEmpty && claims.all fun claim =>
      (claim.index "mode").asString == "read" &&
        "fs:".toList.isPrefixOf (claim.index "key").asString.toList
  | _, _ => false

/-- `logicalLaneRef`. -/
def logicalLaneRef (body : GoMap) : Option (String × ℤ) :=
  match (body.index "lane_id").asString? with
  | none => none
  | some laneID =>
    if laneID = "" then none
    else (exactInt64 (body.index "fencing_token")).map fun fence => (laneID, fence)

/-- `ttlSeconds`. A JSON number that was decoded as `json.Number` is not among its cases. -/
def ttlSeconds (body : GoMap) (fallback : Float64) : Option Float64 :=
  let positive (x : Float64) : Option Float64 := if (0 : Float64).lt x then some x else none
  match body.index "ttl_s" with
  | .nil => some fallback
  | .float x => positive x
  | .int n => positive (.ofRat n)
  | _ => none

/-- The fencing token of a granted `lane.open`. -/
def grantedFence (response : GoMap) : Option ℤ :=
  (exactInt64 ((response.index "result").asMap.index "fencing_token")).filter (1 ≤ ·)

namespace Controller

variable (w : World)

/-- `allocateFenceLocked`. -/
def allocateFence (c : Controller) : Except GoError ℤ × Controller :=
  let drawn : Except GoError Unit × Controller :=
    if c.fenceEpoch ≠ 0 then (.ok (), c)
    else match w.epoch c.counter with
      | .error err => (.error err, c.tick)
      | .ok raw => (.ok (), { c.tick with fenceEpoch := maskEpoch raw })
  match drawn with
  | (.error err, c) => (.error err, c)
  | (.ok _, c) =>
    if 2 ^ 21 - 1 ≤ c.nextFence then
      (.error ⟨"logical read fence space exhausted for gateway incarnation", none⟩, c)
    else
      (.ok ((c.fenceEpoch <<< 21 ||| (c.nextFence + 1) : ℕ) : ℤ),
        { c with nextFence := c.nextFence + 1 })

/-- Record the lane under its id. -/
def setLane (c : Controller) (lane : LogicalReadLane) : Controller :=
  { c with readLanes := c.readLanes.set lane.laneID lane }

/-- The answer of an open or a renewal of a logical lane. -/
def logicalLaneResult (laneID : String) (fence : ℤ) : GoMap :=
  .ofList [("ok", .bool true), ("result", .map [("lane_id", .str laneID),
    ("fencing_token", .int fence), ("logical_read_lane", .bool true)])]

/-- The loop of `openLogicalReadLane`. -/
def openOnPaths (body : GoMap) (lane : LogicalReadLane) :
    List LivePath → List GoError → Controller → Except GoError GoMap × Controller
  | [], transportErrs, c => (.error (joinErrors transportErrs), c)
  | path :: paths, transportErrs, c =>
    match c.sendFor w path.client "lane.open" body "logical-open" with
    | (.error err, c) =>
      openOnPaths body lane paths (transportErrs ++ [err.wrap path.endpoint.endpointID])
        (c.invalidate path.client)
    | (.ok response, c) =>
      if !(response.index "ok").isTrue then (.ok response, c)
      else match grantedFence response with
        | none =>
          (.error ⟨path.endpoint.endpointID ++ " lane.open returned invalid fencing token", none⟩, c)
        | some remoteFence =>
          let mirror : RemoteMirror := ⟨path.client.binding.sessionId, remoteFence⟩
          (.ok (logicalLaneResult lane.laneID lane.fence),
            c.setLane { lane with mirrors := lane.mirrors.set path.endpoint.endpointID mirror })

/-- Whether `openLogicalReadLane` finds an active lane under the id. -/
def laneActive (c : Controller) (laneID : String) : Bool × Controller :=
  match c.readLanes.get? laneID with
  | none => (false, c)
  | some lane =>
    let (now, c) := c.readClock w
    (decide (now < lane.expiresAtMS), c)

/-- `openLogicalReadLane`. -/
def openLogicalReadLane (c : Controller) (body : GoMap) : Except GoError GoMap × Controller :=
  match c.ensurePaths w with
  | (.error err, c) => (.error err, c)
  | (.ok paths, c) =>
    let laneID := (body.index "lane_id").asString
    let taskID := (body.index "task_id").asString
    if laneID = "" ∨ taskID = "" then (.error ⟨"lane_id and task_id are required", none⟩, c)
    else match ttlSeconds body 300, claimList (body.index "claims") with
      | none, _ => (.error ⟨"ttl_s must be positive", none⟩, c)
      | _, none => (.error ⟨"read lane claims are invalid", none⟩, c)
      | some ttl, some _ =>
        match c.laneActive w laneID with
        | (true, c) => (.error ⟨"logical read lane already active: " ++ laneID, none⟩, c)
        | (false, c) =>
          match c.allocateFence w with
          | (.error err, c) => (.error err, c)
          | (.ok fence, c) =>
            let (now, c) := c.readClock w
            let lane : LogicalReadLane := ⟨laneID, taskID, body.index "claims", fence,
              wrapInt64 (now + toInt64 (ttl.scale 1000)), .empty⟩
            openOnPaths w body lane paths [] c

/-- `requireLogicalReadLaneLocked`. -/
def requireLogicalReadLane (c : Controller) (laneID : String) (fence : ℤ) :
    Except GoError LogicalReadLane × Controller :=
  match c.readLanes.get? laneID with
  | none => (.error ⟨"logical read lane not found: " ++ laneID, none⟩, c)
  | some lane =>
    if lane.fence ≠ fence then
      (.error ⟨s!"stale logical read fence: expected {lane.fence} got {fence}", none⟩, c)
    else
      let (now, c) := c.readClock w
      if lane.expiresAtMS ≤ now then
        (.error ⟨"logical read lane expired: " ++ laneID, none⟩,
          { c with readLanes := c.readLanes.erase laneID })
      else (.ok lane, c)

/-- `hasLogicalReadLane`. -/
def hasLogicalReadLane (c : Controller) (laneID : String) (fence : ℤ) : Bool × Controller :=
  match c.requireLogicalReadLane w laneID fence with
  | (.ok _, c) => (true, c)
  | (.error _, c) => (false, c)

/-- The request body with which `ensureMirror` opens a mirror. -/
def mirrorBody (lane : LogicalReadLane) (remaining : ℤ) : GoMap :=
  .ofList [("lane_id", .str lane.laneID), ("task_id", .str lane.taskID),
    ("capabilities", .list [.str "fs.read"]), ("claims", lane.claims),
    ("ttl_s", .float ((Python.PyFloat.ofRat remaining).scale (1 / 1000)))]

/-- `ensureMirror`: the fence of the lane's mirror on the path. -/
def ensureMirror (c : Controller) (lane : LogicalReadLane) (path : LivePath) :
    Except GoError ℤ × LogicalReadLane × Controller :=
  let endpointID := path.endpoint.endpointID
  let sessionID := path.client.binding.sessionId
  match (lane.mirrors.get? endpointID).filter (·.sessionID == sessionID) with
  | some mirror => (.ok mirror.fence, lane, c)
  | none =>
    let (now, c) := c.readClock w
    let remaining := wrapInt64 (lane.expiresAtMS - now)
    if remaining ≤ 0 then
      (.error ⟨"logical read lane expired: " ++ lane.laneID, none⟩, lane, c)
    else
      match c.sendFor w path.client "lane.open" (mirrorBody lane remaining) "logical-mirror" with
      | (.error err, c) => (.error err, lane, c.invalidate path.client)
      | (.ok response, c) =>
        if !(response.index "ok").isTrue then
          (.error ⟨endpointID ++ " mirror lane.open rejected: " ++
            w.goSyntax (response.index "error"), none⟩, lane, c)
        else match grantedFence response with
          | none =>
            (.error ⟨endpointID ++ " mirror lane.open returned invalid fencing token", none⟩, lane, c)
          | some fence =>
            (.ok fence, { lane with mirrors := lane.mirrors.set endpointID ⟨sessionID, fence⟩ }, c)

/-- The loop of `callLogicalRead`. -/
def readOnPaths (operation : String) (body : GoMap) :
    List LivePath → List GoError → LogicalReadLane → Controller → Except GoError GoMap × Controller
  | [], transportErrs, lane, c => (.error (joinErrors transportErrs), c.setLane lane)
  | path :: paths, transportErrs, lane, c =>
    match c.ensureMirror w lane path with
    | (.error err, lane, c) =>
      readOnPaths operation body paths (transportErrs ++ [err.wrap path.endpoint.endpointID]) lane c
    | (.ok remoteFence, lane, c) =>
      let remoteBody := body.set "fencing_token" (.int remoteFence)
      match c.sendFor w path.client operation remoteBody "logical-read" with
      | (.error err, c) =>
        readOnPaths operation body paths (transportErrs ++ [err.wrap path.endpoint.endpointID]) lane
          (c.invalidate path.client)
      | (.ok response, c) => (.ok response, c.setLane lane)

/-- `callLogicalRead`. -/
def callLogicalRead (c : Controller) (operation laneID : String) (fence : ℤ) (body : GoMap) :
    Except GoError GoMap × Controller :=
  match c.ensurePaths w with
  | (.error err, c) => (.error err, c)
  | (.ok paths, c) =>
    match c.requireLogicalReadLane w laneID fence with
    | (.error err, c) => (.error err, c)
    | (.ok lane, c) => readOnPaths w operation body paths [] lane c

/-- The path, if it still runs over the session of the mirror. -/
def mirrorPath (paths : List LivePath) (endpointID : String) (mirror : RemoteMirror) :
    Option LivePath :=
  let byID : Dict String LivePath := .ofList (paths.map fun path => (path.endpoint.endpointID, path))
  (byID.get? endpointID).filter (·.client.binding.sessionId == mirror.sessionID)

/-- The loop of `renewLogicalReadLane`. -/
def renewMirrors (paths : List LivePath) (ttl : Float64) :
    List String → LogicalReadLane → Controller → LogicalReadLane × Controller
  | [], lane, c => (lane, c)
  | endpointID :: ids, lane, c =>
    let dropped : LogicalReadLane := { lane with mirrors := lane.mirrors.erase endpointID }
    match lane.mirrors.get? endpointID with
    | none => renewMirrors paths ttl ids lane c
    | some mirror =>
      match mirrorPath paths endpointID mirror with
      | none => renewMirrors paths ttl ids dropped c
      | some path =>
        let body : GoMap := .ofList [("lane_id", .str lane.laneID),
          ("fencing_token", .int mirror.fence), ("ttl_s", .float ttl)]
        match c.sendFor w path.client "lane.renew" body "logical-renew" with
        | (.error _, c) => renewMirrors paths ttl ids dropped (c.invalidate path.client)
        | (.ok response, c) =>
          renewMirrors paths ttl ids (if (response.index "ok").isTrue then lane else dropped) c

/-- `renewLogicalReadLane`. -/
def renewLogicalReadLane (c : Controller) (laneID : String) (fence : ℤ) (body : GoMap) :
    Except GoError GoMap × Controller :=
  match c.ensurePaths w with
  | (.error err, c) => (.error err, c)
  | (.ok paths, c) =>
    match ttlSeconds body 300 with
    | none => (.error ⟨"ttl_s must be positive", none⟩, c)
    | some ttl =>
      match c.requireLogicalReadLane w laneID fence with
      | (.error err, c) => (.error err, c)
      | (.ok lane, c) =>
        let (now, c) := c.readClock w
        let renewed := { lane with expiresAtMS := wrapInt64 (now + toInt64 (ttl.scale 1000)) }
        let ids := w.mapOrder c.counter lane.mirrors.keys
        let (lane, c) := renewMirrors w paths ttl ids renewed c.tick
        (.ok (logicalLaneResult laneID fence), c.setLane lane)

/-- The loop of `closeLogicalReadLane`. -/
def closeMirrors (paths : List LivePath) :
    List String → List GoError → LogicalReadLane → Controller →
      List GoError × LogicalReadLane × Controller
  | [], unresolved, lane, c => (unresolved, lane, c)
  | endpointID :: ids, unresolved, lane, c =>
    match lane.mirrors.get? endpointID with
    | none => closeMirrors paths ids unresolved lane c
    | some mirror =>
      match mirrorPath paths endpointID mirror with
      | none =>
        let err : GoError := ⟨endpointID ++ " mirror session unavailable", none⟩
        closeMirrors paths ids (unresolved ++ [err]) lane c
      | some path =>
        let body : GoMap :=
          .ofList [("lane_id", .str lane.laneID), ("fencing_token", .int mirror.fence)]
        match c.sendFor w path.client "lane.close" body "logical-close" with
        | (.error err, c) =>
          closeMirrors paths ids (unresolved ++ [err.wrap endpointID]) lane
            (c.invalidate path.client)
        | (.ok response, c) =>
          if !(response.index "ok").isTrue then
            let err : GoError :=
              ⟨endpointID ++ " close rejected: " ++ w.goSyntax (response.index "error"), none⟩
            closeMirrors paths ids (unresolved ++ [err]) lane c
          else
            closeMirrors paths ids unresolved
              { lane with mirrors := lane.mirrors.erase endpointID } c

/-- `closeLogicalReadLane`. -/
def closeLogicalReadLane (c : Controller) (laneID : String) (fence : ℤ) :
    Except GoError GoMap × Controller :=
  let (ensured, c) := c.ensurePaths w
  match c.requireLogicalReadLane w laneID fence with
  | (.error err, c) => (.error err, c)
  | (.ok lane, c) =>
    let (paths, ensureErr) : List LivePath × List GoError :=
      match ensured with
      | .ok paths => (paths, [])
      | .error err => ([], [err])
    let ids := w.mapOrder c.counter lane.mirrors.keys
    let (unresolved, lane, c) := closeMirrors w paths ids [] lane c.tick
    match unresolved ++ ensureErr with
    | [] =>
      (.ok (.ofList [("ok", .bool true), ("result", .map [("lane_id", .str laneID),
        ("closed", .bool true), ("logical_read_lane", .bool true)])]),
        { c with readLanes := c.readLanes.erase laneID })
    | errs => (.error (joinErrors errs), c.setLane lane)

/-! ## `Call` -/

/-- The operations that `Call` takes to a logical lane if there is one. -/
def logicalReadOperations : List String :=
  ["fs.read_text", "fs.read_bytes", "fs.stat", "fs.list_dir", "fs.search", "fs.search_content"]

/-- The rest of `Call`: the request goes to the workstation as it is. -/
def passThrough (c : Controller) (operation : String) (body : GoMap) :
    Except GoError GoMap × Controller :=
  match c.ensurePaths w with
  | (.error err, c) => (.error err, c)
  | (.ok paths, c) =>
    match paths.head? with
    | none => (.error ⟨"", none⟩, c)
    | some path =>
      match c.sendFor w path.client operation body "go" with
      | (.error err, c) => (.error err, c.invalidate path.client)
      | (.ok response, c) => (.ok response, c)

/-- `Call` after its checks. -/
def route (c : Controller) (operation : String) (body : GoMap) :
    Except GoError GoMap × Controller :=
  if operation = "lane.open" ∧ isReadOnlyLaneOpen body then c.openLogicalReadLane w body
  else match logicalLaneRef body with
    | none => c.passThrough w operation body
    | some (laneID, fence) =>
      if operation = "lane.renew" then c.renewLogicalReadLane w laneID fence body
      else if operation = "lane.close" then c.closeLogicalReadLane w laneID fence
      else if operation ∈ logicalReadOperations then
        match c.hasLogicalReadLane w laneID fence with
        | (true, c) => c.callLogicalRead w operation laneID fence body
        | (false, c) => c.passThrough w operation body
      else c.passThrough w operation body

/-- The fields of a request that the body of a call may not set. -/
def reservedFields : List String := ["protocol_version", "request_id", "operation"]

/-- `Call`. -/
def call (c : Controller) (operation : String) (body : GoMap) :
    Except GoError GoMap × Controller :=
  if operation ∉ c.cfg.gatewayOperations then
    (.error ⟨"operation not enabled by controller config: " ++ operation, none⟩, c)
  else match reservedFields.find? body.contains with
    | some reserved => (.error ⟨"body attempts to override reserved field: " ++ reserved, none⟩, c)
    | none => c.route w operation body

/-- `MachineInfo`. -/
def machineInfo (c : Controller) : GoMap × Controller :=
  let strings (l : List String) : GoValue := .list (l.map .str)
  let info : GoMap := .ofList [("schema", .str "VERAMESH_GO_MACHINE_INFO_V1"),
    ("requested_capabilities", strings c.cfg.requestedCapabilities),
    ("gateway_operations", strings c.cfg.gatewayOperations), ("connected", .bool false)]
  match c.ensurePaths w with
  | (.error err, c) => (info.set "path_error" (.str err.message), c)
  | (.ok [], c) => (info, c)
  | (.ok (selected :: rest), c) =>
    let (now, c) := c.readClock w
    let binding := selected.client.binding
    let pathInfo (item : LivePath) : GoValue :=
      let b := item.client.binding
      .map [("path_id", .str item.endpoint.endpointID),
        ("endpoint_id", .str item.endpoint.endpointID), ("mode", .str item.endpoint.mode),
        ("session_id", .str b.sessionId), ("expires_at_ms", .int b.expiresAtMs),
        ("observed_at_ms", .int item.observedAtMS), ("rtt_ms", .float item.rttMS),
        ("authenticated", .bool true), ("data_plane_verified", .bool true),
        ("durable_idempotency", .bool item.endpoint.durableIdempotency),
        ("granted_capabilities", strings (sortedNames b.grantedCapabilities))]
    (info.update (.ofList [("connected", .bool true),
      ("endpoint_id", .str selected.endpoint.endpointID),
      ("selected_path_id", .str selected.endpoint.endpointID),
      ("path_mode", .str selected.endpoint.mode),
      ("workstation_principal", .str binding.workstationPrincipal),
      ("controller_principal", .str binding.controllerPrincipal),
      ("session_expires_at_ms", .int binding.expiresAtMs), ("observed_at_ms", .int now),
      ("paths", .list ((selected :: rest).map pathInfo))]), c)

end Controller

end VeraMesh.Gateway
