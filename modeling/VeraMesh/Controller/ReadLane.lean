import Mathlib.Logic.Function.Basic
import VeraMesh.Controller.Synchrony
import VeraMesh.Lib.Coroutine
import VeraMesh.Session.Messages

/-!
# Mirrored read lanes

`MirroredReadLaneRouter` of `read_lane.py`. A logical read lane is materialized on an endpoint by a
`lane.open` on the endpoint's session: the lane's mirror there. Reads go to the best current
endpoint, through its mirror, and to the next one when the transport is lost.

The `async` methods are coroutines over the state of the router. The methods without a wait are
functions of the state. Of the outside the model leaves open: what `live_endpoints()` returns,
which the environment sets between steps, the readings of the clock, and what requests come to.

`asyncio.Lock.acquire` is a wait that ends when the lock is free, in any order of the waiting tasks,
or by cancellation. The lock of CPython is granted in order of arrival, and at once when it is free
and nobody waits for it: that is one of the runs of the model.

The log of the state records what happened, for the statements about runs. Nothing reads it.
-/

namespace VeraMesh

open Python

/-- `EndpointConfig`. -/
structure EndpointConfig where
  endpointId : String
  mode : PathMode
  host : String
  port : ℕ
  serverHostname : String
  durableIdempotency : Bool
  deriving DecidableEq

/-- `LiveEndpoint`. Its channel is that of the session of `binding`. -/
structure LiveEndpoint where
  config : EndpointConfig
  binding : SessionBinding
  path : PathObservation
  deriving DecidableEq

/-- `LogicalReadLane`. -/
structure LogicalReadLane where
  laneId : String
  taskId : String
  claims : List PyValue
  fencingToken : ℤ
  expiresAtMs : ℤ
  /-- Session id and fence of the mirror, by endpoint id. -/
  mirrors : Dict String (String × ℤ)
  /-- The task that has the lock. -/
  lockedBy : Option ℕ

instance : Inhabited LogicalReadLane := ⟨⟨"", "", [], 0, 0, .empty, none⟩⟩

/-- The methods that begin with `_require`. -/
inductive LaneCall where
  | renew
  | close
  | read
  deriving DecidableEq

/-- What happened. Lanes are given by the numbers of their objects. -/
inductive ReadLaneEvent where
  /-- `open` has put a new lane into the table. -/
  | created (task ref : ℕ) (lane : LogicalReadLane)
  /-- `open` returns. -/
  | opened (ref : ℕ)
  /-- A call has passed `_require` under the lock, which read the clock as `now`. -/
  | admitted (call : LaneCall) (laneId : String) (fencingToken now : ℤ) (ref : ℕ)
  /-- `renew` has set the time of expiry. -/
  | renewed (ref : ℕ) (expiresAtMs : ℤ)
  /-- A request is sent on the channel of an endpoint, on behalf of a lane. -/
  | sent (ref : ℕ) (endpoint : LiveEndpoint) (request : Request)
  | answered (ref : ℕ) (endpoint : LiveEndpoint) (request : Request)
      (result : Except PyError Response)
  /-- `close` reports the lane as closed, while the endpoints of `live` are live. -/
  | closed (ref : ℕ) (live : List LiveEndpoint)

/-- The state of the router. -/
structure ReadLaneState where
  /-- The lane objects by number. Those from `allocated` on are not made yet. -/
  heap : ℕ → LogicalReadLane
  allocated : ℕ
  /-- `_lanes`. -/
  lanes : Dict String ℕ
  /-- `_last_fence`. -/
  lastFence : ℕ
  /-- What `live_endpoints()` returns. -/
  live : List LiveEndpoint
  /-- How often the clock was read. -/
  readings : ℕ
  /-- How many request ids were drawn. -/
  drawn : ℕ
  log : List ReadLaneEvent

/-- What a router is made with, and what it reads of the outside. -/
structure ReadLaneRouter where
  rt : Runtime
  /-- The readings of `now_ms`, in order. -/
  nowMs : ℕ → ℤ
  /-- The results of `request_id_factory`, in order. -/
  requestId : ℕ → String
  maxPathAgeMs : ℤ
  fenceEpoch : ℕ
  fenceEpoch_pos : 0 < fenceEpoch

/-- What the coroutines wait for. -/
inductive Await where
  /-- The answer to a request on the channel of an endpoint. -/
  | request (endpoint : LiveEndpoint) (request : Request)
  /-- The lock of a lane. -/
  | lock (ref : ℕ)

/-- What ends a wait. Each can end by cancellation. -/
abbrev Await.Answer : Await → Type
  | request _ _ => Except PyError Response
  | lock _ => Except PyError Unit

/-- The coroutines of the router. -/
abbrev ReadLaneTask (α : Type) : Type := Coroutine ReadLaneState Await Await.Answer PyError α

namespace LogicalReadLane

/-- The fence of the mirror on the session of an endpoint. -/
def mirrorFence (lane : LogicalReadLane) (endpoint : LiveEndpoint) : Option ℤ :=
  (lane.mirrors.get? endpoint.config.endpointId).bind fun mirror =>
    if mirror.1 = endpoint.binding.sessionId then some mirror.2 else none

/-- `lane.mirrors[endpoint_id] = (session_id, fence)`. -/
def setMirror (endpoint : LiveEndpoint) (fence : ℤ) (lane : LogicalReadLane) : LogicalReadLane :=
  { lane with
    mirrors := lane.mirrors.set endpoint.config.endpointId (endpoint.binding.sessionId, fence) }

/-- `lane.mirrors.pop(endpoint_id, None)`. -/
def popMirror (endpointId : String) (lane : LogicalReadLane) : LogicalReadLane :=
  { lane with mirrors := lane.mirrors.erase endpointId }

end LogicalReadLane

namespace ReadLaneState

/-- Add to the log. -/
def note (s : ReadLaneState) (event : ReadLaneEvent) : ReadLaneState :=
  { s with log := s.log ++ [event] }

/-- Change a lane object. -/
def modifyLane (s : ReadLaneState) (ref : ℕ) (f : LogicalReadLane → LogicalReadLane) :
    ReadLaneState :=
  { s with heap := Function.update s.heap ref (f (s.heap ref)) }

/-- `if self._lanes.get(lane_id) is lane: self._lanes.pop(lane_id, None)`. -/
def popLane (s : ReadLaneState) (laneId : String) (ref : ℕ) : ReadLaneState :=
  if s.lanes.get? laneId = some ref then { s with lanes := s.lanes.erase laneId } else s

end ReadLaneState

/-- One claim of a read lane. -/
def isReadClaim : PyValue → Bool
  | .dict members =>
    let item := Dict.ofList members
    (match item.get? "mode" with
      | some (.str mode) => mode == "read"
      | _ => false) &&
    match item.get? "key" with
      | some (.str key) => startsWith key "fs:"
      | _ => false
  | _ => false

/-- `supports_open`. -/
def supportsOpen (capabilities : List String) (claims : List PyValue) : Bool :=
  decide (capabilities.toFinset = {"fs.read"}) && !claims.isEmpty && claims.all isReadClaim

/-- The loop of `_ordered_current_endpoints`. Every turn takes one endpoint away, so `fuel` turns
are enough for `fuel` endpoints. -/
def orderCurrent (now maxPathAgeMs : ℤ) :
    ℕ → List LiveEndpoint → Except PyError (List LiveEndpoint)
  | 0, _ => .ok []
  | _ + 1, [] => .ok []
  | fuel + 1, remaining => do
    let decision ← selectPath (remaining.map (·.path)) now maxPathAgeMs
    match decision.selected.bind fun selected =>
        remaining.find? fun item => item.path.pathId == selected.pathId with
    | none => return []
    | some endpoint =>
      let rest ← orderCurrent now maxPathAgeMs fuel
        (remaining.eraseP fun item => item.path.pathId == endpoint.path.pathId)
      return if now < endpoint.binding.expiresAtMs then endpoint :: rest else rest

/-- `response.get("ok") is True`. -/
def isOk (response : Response) : Bool :=
  match response.get? "ok" with
  | some (.bool ok) => ok
  | _ => false

/-- `result["fencing_token"]` where `result` is a dictionary and the token is an `int`. -/
def responseFence (response : Response) : Option ℤ :=
  match response.get? "result" with
  | some (.dict members) =>
    match (Dict.ofList members).get? "fencing_token" with
    | some (.int fence) => some fence
    | _ => none
  | _ => none

/-- The arguments of `open`. -/
structure OpenLane where
  laneId : String
  taskId : String
  capabilities : List String
  claims : List PyValue
  ttlS : PyFloat := 300

/-- What the three reading methods do not have in common. -/
structure ReadOperation where
  operation : String
  /-- The request id starts with it. -/
  requestPrefix : String
  /-- The other members of the request. They override the ones before. -/
  body : Request
  /-- The message when no endpoint is current. -/
  noEndpoint : String

/-- What `read_text` does. -/
def ReadOperation.text (path encoding : String) : ReadOperation where
  operation := "fs.read_text"
  requestPrefix := "logical-read-"
  body := .ofList [("path", .str path), ("encoding", .str encoding)]
  noEndpoint := "no current endpoint for read"

/-- What `read_bytes` does. -/
def ReadOperation.bytes (path : String) (offset : ℤ) (maxBytes : Option ℤ)
    (expectedFileVersion : Option String) : ReadOperation where
  operation := "fs.read_bytes"
  requestPrefix := "logical-read-bytes-"
  body := .ofList [("path", .str path), ("offset", .int offset),
    ("max_bytes", maxBytes.elim .none .int),
    ("expected_file_version", expectedFileVersion.elim .none .str)]
  noEndpoint := "no current endpoint for ranged read"

/-- What `call_read_operation` does. -/
def ReadOperation.other (operation : String) (body : Request) : ReadOperation where
  operation
  requestPrefix := "logical-read-op-"
  body
  noEndpoint := "no current endpoint for " ++ operation

namespace ReadLaneRouter

variable (router : ReadLaneRouter)

/-! ## Methods without a wait -/

/-- `self.now_ms()`. -/
def now (s : ReadLaneState) : ℤ × ReadLaneState :=
  (router.nowMs s.readings, { s with readings := s.readings + 1 })

/-- `self.request_id_factory()`. -/
def drawRequestId (s : ReadLaneState) : String × ReadLaneState :=
  (router.requestId s.drawn, { s with drawn := s.drawn + 1 })

/-- `_next_fence`. -/
def nextFence (s : ReadLaneState) : ℤ × ReadLaneState :=
  (((router.fenceEpoch <<< 32 ||| (s.lastFence + 1) : ℕ) : ℤ),
    { s with lastFence := s.lastFence + 1 })

/-- `_require`. -/
def require (laneId : String) (fencingToken : ℤ) (s : ReadLaneState) :
    Except PyError ℕ × ReadLaneState :=
  match s.lanes.get? laneId with
  | none => (.error ⟨.logicalReadLaneNotFound, laneId⟩, s)
  | some ref =>
    let lane := s.heap ref
    if lane.fencingToken ≠ fencingToken then
      (.error ⟨.logicalReadLaneStaleFence, "expected logical fence " ++
        toString lane.fencingToken ++ ", got " ++ toString fencingToken⟩, s)
    else
      let (now, s) := router.now s
      if now ≥ lane.expiresAtMs then
        (.error ⟨.logicalReadLaneExpired, laneId⟩, { s with lanes := s.lanes.erase laneId })
      else (.ok ref, s)

/-- `_require` under the lock. The log gets the clock reading that `_require` has used. -/
def admitCall (call : LaneCall) (laneId : String) (fencingToken : ℤ) (s : ReadLaneState) :
    Except PyError ℕ × ReadLaneState :=
  let found := router.require laneId fencingToken s
  match found.1 with
  | .error err => (.error err, found.2)
  | .ok ref =>
    (.ok ref, found.2.note (.admitted call laneId fencingToken (router.nowMs s.readings) ref))

/-- `_ordered_current_endpoints`. -/
def orderedCurrentEndpoints (s : ReadLaneState) :
    Except PyError (List LiveEndpoint) × ReadLaneState :=
  let (now, s') := router.now s
  (orderCurrent now router.maxPathAgeMs s.live.length s.live, s')

/-- `int(ttl_s * 1000)`. -/
def ttlMs (ttlS : PyFloat) : Except PyError ℤ := router.rt.int (.float (ttlS.scale 1000))

/-- The first part of `open`: the checks, and the new lane in the table. -/
def create (task : ℕ) (args : OpenLane) (s : ReadLaneState) : Except PyError ℕ × ReadLaneState :=
  if !supportsOpen args.capabilities args.claims then
    (.error ⟨.logicalReadLaneError, "logical mirroring is read-only"⟩, s)
  else if args.laneId = "" ∨ args.taskId = "" then
    (.error ⟨.valueError, "lane_id and task_id are required"⟩, s)
  else if args.ttlS.le 0 then (.error ⟨.valueError, "ttl_s must be positive"⟩, s)
  else
    let (now, s) := router.now s
    let active :=
      match s.lanes.get? args.laneId with
      | none => false
      | some current => decide (now < (s.heap current).expiresAtMs)
    if active then
      (.error ⟨.logicalReadLaneError, "logical lane already active: " ++ args.laneId⟩, s)
    else
      let (fence, s) := router.nextFence s
      match router.ttlMs args.ttlS with
      | .error err => (.error err, s)
      | .ok ttlMs =>
        let lane : LogicalReadLane :=
          ⟨args.laneId, args.taskId, args.claims, fence, now + ttlMs, .empty, none⟩
        let ref := s.allocated
        (.ok ref,
          { s with
            heap := Function.update s.heap ref lane
            allocated := ref + 1
            lanes := s.lanes.set args.laneId ref }.note (.created task ref lane))

/-- `lane.expires_at_ms - self.now_ms()`, if it is positive. -/
def remainingMs (ref : ℕ) (s : ReadLaneState) : Except PyError ℤ × ReadLaneState :=
  let lane := s.heap ref
  let (now, s) := router.now s
  if lane.expiresAtMs - now ≤ 0 then (.error ⟨.logicalReadLaneExpired, lane.laneId⟩, s)
  else (.ok (lane.expiresAtMs - now), s)

/-- The request that opens a mirror. -/
def openRequest (lane : LogicalReadLane) (remainingMs : ℤ) (s : ReadLaneState) :
    Except PyError Request × ReadLaneState :=
  let (requestId, s) := router.drawRequestId s
  match router.rt.float (.int remainingMs) with
  | .error err => (.error err, s)
  | .ok ttl =>
    (.ok (.ofList [("protocol_version", .str "veraport-v1"),
      ("request_id", .str ("logical-open-" ++ requestId)), ("operation", .str "lane.open"),
      ("lane_id", .str lane.laneId), ("task_id", .str lane.taskId),
      ("capabilities", .list [.str "fs.read"]), ("claims", .list lane.claims),
      ("ttl_s", .float (ttl.scale (1 / 1000)))]), s)

/-- The request that renews a mirror. -/
def renewRequest (lane : LogicalReadLane) (mirrorFence : ℤ) (ttlS : PyFloat) (s : ReadLaneState) :
    Except PyError Request × ReadLaneState :=
  let (requestId, s) := router.drawRequestId s
  (.ok (.ofList [("protocol_version", .str "veraport-v1"),
    ("request_id", .str ("logical-renew-" ++ requestId)), ("operation", .str "lane.renew"),
    ("lane_id", .str lane.laneId), ("fencing_token", .int mirrorFence), ("ttl_s", .float ttlS)]), s)

/-- The request that closes a mirror. -/
def closeRequest (lane : LogicalReadLane) (mirrorFence : ℤ) (s : ReadLaneState) :
    Except PyError Request × ReadLaneState :=
  let (requestId, s) := router.drawRequestId s
  (.ok (.ofList [("protocol_version", .str "veraport-v1"),
    ("request_id", .str ("logical-close-" ++ requestId)), ("operation", .str "lane.close"),
    ("lane_id", .str lane.laneId), ("fencing_token", .int mirrorFence)]), s)

/-- The request that reads through a mirror. -/
def readRequest (op : ReadOperation) (lane : LogicalReadLane) (mirrorFence : ℤ)
    (s : ReadLaneState) : Except PyError Request × ReadLaneState :=
  let (requestId, s) := router.drawRequestId s
  (.ok ((Dict.ofList [("protocol_version", .str "veraport-v1"),
    ("request_id", .str (op.requestPrefix ++ requestId)), ("operation", .str op.operation),
    ("lane_id", .str lane.laneId), ("fencing_token", .int mirrorFence)]).update op.body), s)

/-- The result of `open`, `renew` and `close`. -/
def laneResponse (result : List (String × PyValue)) : Response :=
  .ofList [("protocol_version", .str "veraport-v1"), ("request_id", .none), ("ok", .bool true),
    ("result", .dict (result ++ [("logical_read_lane", .bool true)]))]

/-! ## Coroutines -/

open Coroutine

/-- The object of a lane as it is now. -/
def lane (ref : ℕ) : ReadLaneTask LogicalReadLane := do
  let s ← read
  return s.heap ref

/-- `_request`, on behalf of a lane. -/
def request (ref : ℕ) (endpoint : LiveEndpoint) (request : Request) : ReadLaneTask Response := do
  update (·.note (.sent ref endpoint request))
  let result : Except PyError Response ← answer (Await.request endpoint request)
  update (·.note (.answered ref endpoint request result))
  match result with
  | .ok response => return response
  | .error exc =>
    if exc.cls = .timeoutError then
      throw ⟨.streamClosed, endpoint.config.endpointId ++ ": request timed out"⟩
    else throw exc

/-- What `_ensure_mirror` makes of the answer to its `lane.open`. -/
def openedFence (endpoint : LiveEndpoint) (response : Response) : Except PyError ℤ :=
  let endpointId := endpoint.config.endpointId
  if !isOk response then
    .error ⟨.logicalReadLaneError, endpointId ++ ": mirror lane.open failed: " ++
      router.rt.repr (getD response "error" .none)⟩
  else
    match responseFence response with
    | none => .error ⟨.logicalReadLaneError, endpointId ++ ": missing mirror fencing token"⟩
    | some fence => .ok fence

/-- `_ensure_mirror`. -/
def ensureMirror (ref : ℕ) (endpoint : LiveEndpoint) : ReadLaneTask ℤ := do
  let current ← lane ref
  match current.mirrorFence endpoint with
  | some fence => return fence
  | none =>
    let remaining ← sync (router.remainingMs ref)
    let openRequest ← sync (router.openRequest current remaining)
    let response ← request ref endpoint openRequest
    let fence ← ofResult (router.openedFence endpoint response)
    update (·.modifyLane ref (·.setMirror endpoint fence))
    return fence

/-- The loop of `open` over the current endpoints. -/
def openFirst (ref : ℕ) : List LiveEndpoint → Option PyError → ReadLaneTask Response
  | [], lastError =>
    throw (lastError.getD ⟨.logicalReadLaneError, "no endpoint could materialize read lane"⟩)
  | endpoint :: rest, _ =>
    tryCatch
      (do
        let _ ← router.ensureMirror ref endpoint
        update (·.note (.opened ref))
        let opened ← lane ref
        return laneResponse [("lane_id", .str opened.laneId),
          ("fencing_token", .int opened.fencingToken)])
      fun exc => if exc.cls = .streamClosed then openFirst ref rest (some exc) else throw exc

/-- `open`. -/
def openLane (task : ℕ) (args : OpenLane) : ReadLaneTask Response := do
  let ref ← sync (router.create task args)
  tryCatch
    (do
      let endpoints ← sync router.orderedCurrentEndpoints
      router.openFirst ref endpoints none)
    fun exc => do
      if exc.isException then update (·.popLane args.laneId ref)
      throw exc

/-- `async with lane.lock`. -/
def withLock {α : Type} (task ref : ℕ) (body : ReadLaneTask α) : ReadLaneTask α := do
  let granted : Except PyError Unit ← answer (Await.lock ref)
  ofResult granted
  update (·.modifyLane ref ({ · with lockedBy := some task }))
  let result ← tryCatch body fun exc => do
    update (·.modifyLane ref ({ · with lockedBy := none }))
    throw exc
  update (·.modifyLane ref ({ · with lockedBy := none }))
  return result

/-- The current endpoints by id. -/
def byEndpointId (endpoints : List LiveEndpoint) : Dict String LiveEndpoint :=
  .ofList (endpoints.map fun item => (item.config.endpointId, item))

/-- The endpoint of a mirror, if it is current and of the mirror's session. -/
def mirrorEndpoint (endpoints : Dict String LiveEndpoint) (endpointId sessionId : String) :
    Option LiveEndpoint :=
  (endpoints.get? endpointId).filter fun endpoint => endpoint.binding.sessionId == sessionId

/-- One turn of the loop of `renew`. -/
def renewMirror (ref : ℕ) (ttlS : PyFloat) (endpoints : Dict String LiveEndpoint)
    (endpointId sessionId : String) (mirrorFence : ℤ) : ReadLaneTask Unit :=
  match mirrorEndpoint endpoints endpointId sessionId with
  | none => update (·.modifyLane ref (·.popMirror endpointId))
  | some endpoint =>
    tryCatch
      (do
        let current ← lane ref
        let renewRequest ← sync (router.renewRequest current mirrorFence ttlS)
        let response ← request ref endpoint renewRequest
        if !isOk response then update (·.modifyLane ref (·.popMirror endpointId)))
      fun exc =>
        if exc.cls = .streamClosed then update (·.modifyLane ref (·.popMirror endpointId))
        else throw exc

/-- The loop of `renew`. -/
def renewMirrors (ref : ℕ) (ttlS : PyFloat) (endpoints : Dict String LiveEndpoint) :
    List (String × String × ℤ) → ReadLaneTask Unit
  | [] => return ()
  | (endpointId, sessionId, mirrorFence) :: rest => do
    router.renewMirror ref ttlS endpoints endpointId sessionId mirrorFence
    renewMirrors ref ttlS endpoints rest

/-- The new time of expiry in `renew`. -/
def extend (ref : ℕ) (ttlS : PyFloat) (s : ReadLaneState) : Except PyError Unit × ReadLaneState :=
  if ttlS.le 0 then (.error ⟨.valueError, "ttl_s must be positive"⟩, s)
  else
    let (now, s) := router.now s
    match router.ttlMs ttlS with
    | .error err => (.error err, s)
    | .ok ttlMs =>
      (.ok (), (s.modifyLane ref ({ · with expiresAtMs := now + ttlMs })).note
        (.renewed ref (now + ttlMs)))

/-- `renew`. -/
def renew (task : ℕ) (laneId : String) (fencingToken : ℤ) (ttlS : PyFloat) :
    ReadLaneTask Response := do
  let ref ← sync (router.require laneId fencingToken)
  withLock task ref do
    let ref ← sync (router.admitCall .renew laneId fencingToken)
    sync (router.extend ref ttlS)
    let endpoints ← sync router.orderedCurrentEndpoints
    let current ← lane ref
    router.renewMirrors ref ttlS (byEndpointId endpoints) current.mirrors.entries
    return laneResponse [("lane_id", .str laneId), ("fencing_token", .int fencingToken)]

/-- One turn of the loop of `close`. It returns why the mirror is left, if it is. -/
def closeMirror (ref : ℕ) (endpoints : Dict String LiveEndpoint)
    (endpointId sessionId : String) (mirrorFence : ℤ) : ReadLaneTask (Option String) :=
  match mirrorEndpoint endpoints endpointId sessionId with
  | none => return some (endpointId ++ ": mirror session unavailable")
  | some endpoint =>
    tryCatch
      (do
        let current ← lane ref
        let closeRequest ← sync (router.closeRequest current mirrorFence)
        let response ← request ref endpoint closeRequest
        if !isOk response then
          return some (endpointId ++ ": close rejected " ++
            router.rt.repr (getD response "error" .none))
        else
          update (·.modifyLane ref (·.popMirror endpointId))
          return none)
      fun exc =>
        if exc.cls = .streamClosed then return some (endpointId ++ ": " ++ exc.message)
        else throw exc

/-- The loop of `close`. It returns `unresolved`. -/
def closeMirrors (ref : ℕ) (endpoints : Dict String LiveEndpoint) :
    List (String × String × ℤ) → ReadLaneTask (List String)
  | [] => return []
  | (endpointId, sessionId, mirrorFence) :: rest => do
    let left ← router.closeMirror ref endpoints endpointId sessionId mirrorFence
    let unresolved ← closeMirrors ref endpoints rest
    return left.toList ++ unresolved

/-- `close`. -/
def close (task : ℕ) (laneId : String) (fencingToken : ℤ) : ReadLaneTask Response := do
  let ref ← sync (router.require laneId fencingToken)
  withLock task ref do
    let ref ← sync (router.admitCall .close laneId fencingToken)
    let endpoints ← sync router.orderedCurrentEndpoints
    let current ← lane ref
    let unresolved ← router.closeMirrors ref (byEndpointId endpoints) current.mirrors.entries
    if unresolved ≠ [] then
      throw ⟨.logicalReadLaneCloseIncomplete, "; ".intercalate unresolved⟩
    update (·.popLane laneId ref)
    update fun s => s.note (.closed ref s.live)
    return laneResponse [("lane_id", .str laneId), ("closed", .bool true)]

/-- The loop of the reading methods over the current endpoints. -/
def readFirst (ref : ℕ) (op : ReadOperation) :
    List LiveEndpoint → Option PyError → ReadLaneTask Response
  | [], lastError => throw (lastError.getD ⟨.logicalReadLaneError, op.noEndpoint⟩)
  | endpoint :: rest, _ =>
    tryCatch
      (do
        let mirrorFence ← router.ensureMirror ref endpoint
        let current ← lane ref
        let readRequest ← sync (router.readRequest op current mirrorFence)
        request ref endpoint readRequest)
      fun exc => if exc.cls = .streamClosed then readFirst ref op rest (some exc) else throw exc

/-- What the reading methods have in common. -/
def mirroredRead (task : ℕ) (laneId : String) (fencingToken : ℤ) (op : ReadOperation) :
    ReadLaneTask Response := do
  let ref ← sync (router.require laneId fencingToken)
  withLock task ref do
    let ref ← sync (router.admitCall .read laneId fencingToken)
    let endpoints ← sync router.orderedCurrentEndpoints
    router.readFirst ref op endpoints none

/-- `read_text`. -/
def readText (task : ℕ) (laneId : String) (fencingToken : ℤ) (path encoding : String) :
    ReadLaneTask Response :=
  router.mirroredRead task laneId fencingToken (.text path encoding)

/-- `read_bytes`. -/
def readBytes (task : ℕ) (laneId : String) (fencingToken : ℤ) (path : String) (offset : ℤ)
    (maxBytes : Option ℤ) (expectedFileVersion : Option String) : ReadLaneTask Response :=
  router.mirroredRead task laneId fencingToken (.bytes path offset maxBytes expectedFileVersion)

/-- `call_read_operation`. -/
def callReadOperation (task : ℕ) (operation laneId : String) (fencingToken : ℤ) (body : Request) :
    ReadLaneTask Response :=
  if operation ∉ ["fs.stat", "fs.list_dir", "fs.search", "fs.search_content"] then
    throw ⟨.valueError, "unsupported mirrored read operation: " ++ operation⟩
  else router.mirroredRead task laneId fencingToken (.other operation body)

end ReadLaneRouter

/-! ## Runs -/

/-- A call of a method. -/
inductive ReadLaneCall where
  | openLane (args : OpenLane)
  | renew (laneId : String) (fencingToken : ℤ) (ttlS : PyFloat)
  | close (laneId : String) (fencingToken : ℤ)
  | readText (laneId : String) (fencingToken : ℤ) (path encoding : String)
  | readBytes (laneId : String) (fencingToken : ℤ) (path : String) (offset : ℤ)
      (maxBytes : Option ℤ) (expectedFileVersion : Option String)
  | readOperation (operation laneId : String) (fencingToken : ℤ) (body : Request)

/-- The coroutine of a call that is made as task number `task`. -/
def ReadLaneCall.run (router : ReadLaneRouter) (task : ℕ) : ReadLaneCall → ReadLaneTask Response
  | openLane args => router.openLane task args
  | renew laneId fencingToken ttlS => router.renew task laneId fencingToken ttlS
  | close laneId fencingToken => router.close task laneId fencingToken
  | readText laneId fencingToken path encoding =>
    router.readText task laneId fencingToken path encoding
  | readBytes laneId fencingToken path offset maxBytes expectedFileVersion =>
    router.readBytes task laneId fencingToken path offset maxBytes expectedFileVersion
  | readOperation operation laneId fencingToken body =>
    router.callReadOperation task operation laneId fencingToken body

/-- The body of a read operation has none of the members that address the lane, as
`ControllerRuntime.read_operation` passes it. -/
def ReadLaneCall.PlainBody : ReadLaneCall → Prop
  | readOperation _ _ _ body =>
    body.get? "lane_id" = none ∧ body.get? "fencing_token" = none ∧ body.get? "operation" = none
  | _ => True

namespace ReadLaneRouter

/-- The answers a wait can end with: any to a request, and the lock when it is free. -/
def answers (s : ReadLaneState) : (i : Await) → i.Answer → Prop
  | .request _ _, _ => True
  | .lock ref, .ok () => (s.heap ref).lockedBy = none
  | .lock _, .error exc => exc.cls = .cancelledError

/-- What drives the router: calls at any time, and an environment that connects and disconnects
endpoints. -/
def driver (router : ReadLaneRouter) :
    Coroutine.Driver ReadLaneState Await Await.Answer PyError Response where
  calls _ task c := ∃ call : ReadLaneCall, call.PlainBody ∧ c = call.run router task
  answers := answers
  environment s s' := ∃ live, s' = { s with live }

end ReadLaneRouter

/-- The state of a new router. -/
def ReadLaneState.init (live : List LiveEndpoint) : ReadLaneState where
  heap _ := default
  allocated := 0
  lanes := .empty
  lastFence := 0
  live
  readings := 0
  drawn := 0
  log := []

/-- A router whose clock stands at 1000. -/
def exampleRouter : ReadLaneRouter where
  rt := .ascii false
  nowMs _ := 1000
  requestId n := toString n
  maxPathAgeMs := 5000
  fenceEpoch := 1
  fenceEpoch_pos := by decide

theorem directPathId_ne : "direct" ≠ "" := by decide

theorem edgePathId_ne : "edge" ≠ "" := by decide

theorem exampleObservedAtMs_nonneg : (0 : ℤ) ≤ 1000 := by decide

/-- An endpoint with a direct stream, on a session that lasts until 9000. -/
def directEndpoint (sessionId : String) : LiveEndpoint where
  config := ⟨"direct", .directStream, "direct.example", 17444, "workstation", true⟩
  binding := ⟨sessionId, "controller:c", "workstation:w", {"fs.read"}, 9000⟩
  path := ⟨"direct", .directStream, true, true, 1000, some 2, directPathId_ne,
    exampleObservedAtMs_nonneg, by decide⟩

/-- An endpoint with an edge stream, on a session that lasts until 9000. -/
def edgeEndpoint (sessionId : String) : LiveEndpoint where
  config := ⟨"edge", .edgeStream, "edge.example", 17445, "workstation", true⟩
  binding := ⟨sessionId, "controller:c", "workstation:w", {"fs.read"}, 9000⟩
  path := ⟨"edge", .edgeStream, true, true, 1000, some 8, edgePathId_ne,
    exampleObservedAtMs_nonneg, by decide⟩

/-- Endpoints grant every request with fence 7, and a free lock goes to whoever waits for it. -/
def exampleReply (s : ReadLaneState) : (i : Await) → i.Answer
  | .request _ _ =>
    .ok (.ofList [("ok", .bool true), ("result", .dict [("fencing_token", .int 7)])])
  | .lock ref => if (s.heap ref).lockedBy = none then .ok () else .error ⟨.cancelledError, ""⟩

theorem answers_exampleReply (s : ReadLaneState) (i : Await) :
    ReadLaneRouter.answers s i (exampleReply s i) := by
  cases i with
  | request endpoint request => trivial
  | lock ref =>
    unfold exampleReply
    dsimp only
    split
    · next hfree => exact hfree
    · rfl

/-- A lane for reading `/srv`. -/
def exampleOpenLaneArgs : OpenLane :=
  ⟨"lane", "task", ["fs.read"], [.dict [("key", .str "fs:/srv"), ("mode", .str "read")]], 60⟩

/-- The call that opens it. -/
def exampleOpenLane : ReadLaneCall := .openLane exampleOpenLaneArgs

/-- The call that reads through the lane of `exampleOpenLane`. -/
def exampleReadText : ReadLaneCall := .readText "lane" (2 ^ 32 + 1) "/srv/a" "utf-8"

/-- The state after `calls`, made one after the other. -/
def exampleRun (reply : ReadLaneState → (i : Await) → i.Answer) (task : ℕ) (s : ReadLaneState) :
    List ReadLaneCall → ReadLaneState
  | [] => s
  | call :: calls =>
    exampleRun reply (task + 1) ((call.run exampleRouter task).eval reply s).2 calls

end VeraMesh
