import VeraMesh.Gateway.Value
import VeraMesh.Session.Messages

/-!
# The gateway's controller

`Controller` of `controller.go`: the live paths to the workstation, the logical read lanes the
controller keeps on top of them, and `Controller.Call`, which decides for every operation whether it
goes to a logical lane or is passed through.

Whatever the controller reads from outside comes from a `World`: the clock, the outcome of a dial,
the answer to a request, random bytes, the order in which a map is traversed. Each reading takes the
next number of the controller's counter, so a `World` fixes one course of events and the worlds
together give them all. `Controller.trace` records the requests sent.
-/

namespace VeraMesh.Gateway

/-- A configured way to the workstation. -/
structure Endpoint where
  endpointID : String
  mode : String
  durableIdempotency : Bool
  deriving DecidableEq

/-- The part of the configuration the controller reads. -/
structure Config where
  requestedCapabilities : List String
  gatewayOperations : List String
  endpoints : List Endpoint
  maxPathAgeMS : ℤ
  deriving DecidableEq

/-- An authenticated session, told apart from others by a number. -/
structure Client where
  serial : ℕ
  binding : SessionBinding
  deriving DecidableEq

structure LivePath where
  client : Client
  endpoint : Endpoint
  observedAtMS : ℤ
  rttMS : Float64
  deriving DecidableEq

structure RemoteMirror where
  sessionID : String
  fence : ℤ
  deriving DecidableEq

structure LogicalReadLane where
  laneID : String
  taskID : String
  claims : GoValue
  fence : ℤ
  expiresAtMS : ℤ
  mirrors : Dict String RemoteMirror

/-- A request as it was sent, with its answer. -/
structure Sent where
  client : Client
  request : GoMap
  answer : Except GoError GoMap

structure Controller where
  cfg : Config
  paths : Dict String LivePath
  readLanes : Dict String LogicalReadLane
  fenceEpoch : ℕ
  nextFence : ℕ
  /-- The number of readings made from the world. -/
  counter : ℕ
  trace : List Sent

/-- One course of events outside the controller. -/
structure World where
  /-- `c.now().UnixMilli()`. -/
  now : ℕ → ℤ
  /-- The session that a dial brings about. -/
  dial : ℕ → Endpoint → Except GoError SessionBinding
  /-- What `client.Request` returns. -/
  answer : ℕ → Client → GoMap → Except GoError GoMap
  /-- The measured round-trip time. -/
  rtt : ℕ → Float64
  /-- The hexadecimal text of the random bytes of `newID`. -/
  random : ℕ → String
  /-- The four random bytes that `newFenceEpoch` draws. -/
  epoch : ℕ → Except GoError (Fin (2 ^ 32))
  /-- The order in which a map is traversed. -/
  mapOrder : ℕ → List String → List String
  mapOrder_perm : ∀ n keys, (mapOrder n keys).Perm keys
  /-- `fmt.Sprintf("%#v", v)`. -/
  goSyntax : GoValue → String

namespace Controller

/-- What `newFenceEpoch` makes of its four random bytes. -/
def maskEpoch (raw : Fin (2 ^ 32)) : ℕ :=
  let epoch := raw.val &&& (2 ^ 31 - 1)
  if epoch = 0 then 1 else epoch

/-- `NewController`, with the bytes its epoch was drawn from. -/
def create (cfg : Config) (raw : Fin (2 ^ 32)) : Controller :=
  ⟨cfg, .empty, .empty, maskEpoch raw, 0, 0, []⟩

variable (w : World)

/-- The next reading. -/
def tick (c : Controller) : Controller := { c with counter := c.counter + 1 }

/-- `c.now().UnixMilli()`. -/
def readClock (c : Controller) : ℤ × Controller := (w.now c.counter, c.tick)

/-- `newID(label)`. -/
def newID (c : Controller) (label : String) : String × Controller :=
  (label ++ ":" ++ w.random c.counter, c.tick)

/-- `client.Request(ctx, request)`. -/
def send (c : Controller) (client : Client) (request : GoMap) : Except GoError GoMap × Controller :=
  let answer := w.answer c.counter client request
  (answer, { c.tick with trace := c.trace ++ [⟨client, request, answer⟩] })

/-- `requestFor` with a fresh request id. -/
def requestFor (c : Controller) (operation : String) (body : GoMap) (label : String) :
    GoMap × Controller :=
  let (requestID, c) := c.newID w label
  let head : GoMap := .ofList [("protocol_version", .str "veraport-v1"),
    ("request_id", .str requestID), ("operation", .str operation)]
  (head.update (body.filter fun key _ =>
    key != "protocol_version" && key != "request_id" && key != "operation"), c)

/-- `client.Request(ctx, requestFor(operation, body, label))`. -/
def sendFor (c : Controller) (client : Client) (operation : String) (body : GoMap)
    (label : String) : Except GoError GoMap × Controller :=
  let (request, c) := c.requestFor w operation body label
  c.send w client request

/-! ## Paths -/

/-- `maxPathAgeMS`. -/
def maxPathAge (c : Controller) : ℤ := if c.cfg.maxPathAgeMS ≤ 0 then 5000 else c.cfg.maxPathAgeMS

/-- `pathModePriority`. -/
def pathModePriority (mode : String) : ℕ :=
  if mode = "DIRECT_STREAM" then 0 else if mode = "EDGE_STREAM" then 1 else 2

/-- The order of `orderedCurrentPathsLocked`. -/
def pathLess (a b : LivePath) : Bool :=
  let pa := pathModePriority a.endpoint.mode
  let pb := pathModePriority b.endpoint.mode
  if pa ≠ pb then decide (pa < pb)
  else if !a.rttMS.eq b.rttMS then a.rttMS.lt b.rttMS
  else decide (a.endpoint.endpointID < b.endpoint.endpointID)

/-- `orderedCurrentPathsLocked`. -/
def orderedCurrentPaths (c : Controller) (nowMS : ℤ) : List LivePath :=
  (c.paths.values.filter fun item =>
    decide (nowMS < item.client.binding.expiresAtMs) &&
      decide (item.observedAtMS ≤ nowMS ∧ nowMS - item.observedAtMS ≤ c.maxPathAge)).insertionSort
    fun a b => ¬pathLess b a

/-- What `qualifyDataPlane` makes of the answer to its probe. -/
def probeOutcome (answer : Except GoError GoMap) (rtt : Float64) : Except GoError Float64 :=
  match answer with
  | .error err => .error err
  | .ok response =>
    if !(response.index "ok").isTrue then
      match (response.index "error").asMap? with
      | some remote => .error ⟨"lane.list rejected: " ++ (remote.index "code").asString ++ ": " ++
          (remote.index "message").asString, none⟩
      | none => .error ⟨"lane.list rejected", none⟩
    else if (response.index "result").asMap?.isNone then
      .error ⟨"lane.list returned no result object", none⟩
    else .ok rtt

/-- `qualifyDataPlane`. -/
def qualifyDataPlane (c : Controller) (client : Client) : Except GoError Float64 × Controller :=
  let (answer, c) := c.sendFor w client "lane.list" .empty "probe"
  (probeOutcome answer (w.rtt c.counter), c.tick)

/-- The second half of the loop of `ensurePaths`: dial an endpoint and qualify the new session. -/
def connect (c : Controller) (nowMS : ℤ) (ep : Endpoint) : List GoError × Controller :=
  match w.dial c.counter ep with
  | .error err => ([err.wrap ep.endpointID], c.tick)
  | .ok binding =>
    let client : Client := ⟨c.counter, binding⟩
    match c.tick.qualifyDataPlane w client with
    | (.error err, c) => ([err.wrap (ep.endpointID ++ " data-plane qualification")], c)
    | (.ok rtt, c) => ([], { c with paths := c.paths.set ep.endpointID ⟨client, ep, nowMS, rtt⟩ })

/-- One turn of the loop of `ensurePaths`. -/
def refreshPath (c : Controller) (nowMS : ℤ) (ep : Endpoint) : List GoError × Controller :=
  match c.paths.get? ep.endpointID with
  | none => c.connect w nowMS ep
  | some current =>
    if current.client.binding.expiresAtMs ≤ nowMS then
      { c with paths := c.paths.erase ep.endpointID }.connect w nowMS ep
    else if current.observedAtMS ≤ nowMS ∧ nowMS - current.observedAtMS ≤ c.maxPathAge then ([], c)
    else
      match c.qualifyDataPlane w current.client with
      | (.ok rtt, c) =>
        ([], { c with
          paths := c.paths.set ep.endpointID { current with observedAtMS := nowMS, rttMS := rtt } })
      | (.error err, c) =>
        let (errs, c) := { c with paths := c.paths.erase ep.endpointID }.connect w nowMS ep
        (err.wrap (ep.endpointID ++ " stale-path qualification") :: errs, c)

/-- The loop of `ensurePaths`. -/
def refreshPaths (nowMS : ℤ) : List Endpoint → Controller → List GoError × Controller
  | [], c => ([], c)
  | ep :: eps, c =>
    let (errs, c) := c.refreshPath w nowMS ep
    let (rest, c) := refreshPaths nowMS eps c
    (errs ++ rest, c)

/-- `ensurePaths`. -/
def ensurePaths (c : Controller) : Except GoError (List LivePath) × Controller :=
  let (nowMS, c) := c.readClock w
  let (failures, c) := refreshPaths w nowMS c.cfg.endpoints c
  match c.orderedCurrentPaths nowMS with
  | [] =>
    (.error (if failures = [] then
        ⟨"no current authenticated data-plane-verified VeraPort path", none⟩
      else joinErrors failures), c)
  | path :: paths => (.ok (path :: paths), c)

/-- `invalidate`. -/
def invalidate (c : Controller) (client : Client) : Controller :=
  { c with paths := c.paths.filter fun _ item => item.client.serial != client.serial }

end Controller

end VeraMesh.Gateway
