import VeraMesh.Controller.Pool
import VeraMesh.Controller.ReadLane

/-!
# The controller runtime

`ControllerRuntime` of `controller_runtime.py`: it connects the configured endpoints, keeps the live
ones in `_live` and in the pool, and sends requests through the gateway and the read-lane router.

The `async` methods are coroutines over the state of the runtime. Of the outside the model leaves
open: what `open_session` and the channels come to, the key files, the clock and the round-trip
times. `make_client_context` and `open_session` are one wait, since `_connect` treats their failures
alike.
-/

namespace VeraMesh

open Python Coroutine

/-- `READ_OPERATIONS`. -/
def readOperations : List String :=
  ["lane.list", "fs.read_text", "fs.read_bytes", "fs.stat", "fs.list_dir", "fs.search",
    "fs.search_content", "process.list", "process.status", "process.output"]

/-- `ALL_OPERATIONS`. -/
def allOperations : List String := readOperations ++ mutatingOperations

/-- What the runtime uses of `ControllerConfig`, with the checks of `from_dict`. -/
structure ControllerConfig where
  gatewayOperations : List String
  endpoints : List EndpointConfig
  maxPathAgeMs : ℤ
  requestTimeoutS : PyFloat
  gatewayOperations_ne : gatewayOperations ≠ []
  gatewayOperations_known : ∀ operation ∈ gatewayOperations, operation ∈ allOperations
  endpoints_ne : endpoints ≠ []
  endpointIds_ne : ∀ spec ∈ endpoints, spec.endpointId ≠ ""
  endpointIds_nodup : (endpoints.map (·.endpointId)).Nodup
  maxPathAgeMs_range : 100 ≤ maxPathAgeMs ∧ maxPathAgeMs ≤ 300000

/-- A connection, by the number of the `open_session` call that returned it. -/
abbrev Channel := ℕ

/-- `LiveEndpoint` with its channel. -/
structure ConnectedEndpoint extends LiveEndpoint where
  channel : Channel
  deriving DecidableEq

/-- `SessionEndpoint` with its channel. -/
structure PooledEndpoint extends SessionEndpoint where
  channel : Channel
  deriving DecidableEq

/-- `HotSessionPool` with the channels of its endpoints. -/
structure ChannelPool where
  byRoute : Dict (String × String) (Dict String PooledEndpoint)

namespace ChannelPool

/-- `register`. -/
def register (pool : ChannelPool) (endpoint : PooledEndpoint) : ChannelPool :=
  let route := HotSessionPool.routeKey endpoint.binding
  let group := (pool.byRoute.get? route).getD .empty
  ⟨pool.byRoute.set route (group.set endpoint.endpointId endpoint)⟩

/-- `remove`. -/
def remove (pool : ChannelPool) (workstationPrincipal controllerPrincipal endpointId : String) :
    ChannelPool :=
  let route := (workstationPrincipal, controllerPrincipal)
  match pool.byRoute.get? route with
  | none => pool
  | some group =>
    let group := group.erase endpointId
    if group.size = 0 then ⟨pool.byRoute.erase route⟩ else ⟨pool.byRoute.set route group⟩

/-- The endpoint that is registered under an id of a route. -/
def registered (pool : ChannelPool) (route : String × String) (endpointId : String) :
    Option PooledEndpoint :=
  (pool.byRoute.get? route).bind (·.get? endpointId)

/-- `_current_endpoints`. -/
def currentEndpoints (pool : ChannelPool) (workstationPrincipal controllerPrincipal : String)
    (nowMs : ℤ) : List PooledEndpoint :=
  ((pool.byRoute.get? (workstationPrincipal, controllerPrincipal)).getD .empty).values.filter
    fun endpoint =>
      decide (nowMs < endpoint.binding.expiresAtMs) &&
        (endpoint.binding.workstationPrincipal == workstationPrincipal &&
          endpoint.binding.controllerPrincipal == controllerPrincipal)

end ChannelPool

/-- The connections of a runtime. -/
structure Connections where
  /-- `_live`. -/
  live : Dict String ConnectedEndpoint
  pool : ChannelPool
  /-- The task that has `_lock`. -/
  lockedBy : Option ℕ
  /-- How many channels `open_session` has returned. -/
  opened : ℕ
  /-- The channels whose `close` was called. -/
  closed : Finset Channel

/-- The state of a runtime. -/
structure RuntimeState where
  connections : Connections
  /-- The controller's and the workstation's principal, once the keys are loaded. -/
  principals : Option (String × String)
  /-- How often loading the keys was tried. -/
  loads : ℕ
  /-- `_gateway is not None`. -/
  started : Bool
  /-- `_read_router`, with the clock and the request ids that the runtime shares with it. What it
  has as `live` is not used. -/
  reads : ReadLaneState

/-- What a runtime is made with, and what it reads of the outside. -/
structure ControllerRuntime where
  config : ControllerConfig
  router : ReadLaneRouter
  router_maxPathAgeMs : router.maxPathAgeMs = config.maxPathAgeMs
  /-- What the key files say at each attempt to load them. -/
  identities : ℕ → Except PyError (String × String)
  /-- The round-trip time that is measured for a probe, by the number of its request id. -/
  rttMs : ℕ → PyFloat

/-- What the coroutines wait for. -/
inductive RuntimeAwait where
  /-- `_lock`, for `close` or for a refresh. -/
  | lock (closing : Bool)
  | openSession (spec : EndpointConfig)
  /-- The answer to the request of a probe. -/
  | probe (spec : EndpointConfig) (channel : Channel) (requestId : String)
  | closeChannel (channel : Channel)
  /-- The answer to a request that the pool hands to a channel. -/
  | pooled (channel : Channel) (request : Request)
  /-- What the read-lane router waits for. -/
  | router (i : Await)

/-- What ends a wait. -/
abbrev RuntimeAwait.Answer : RuntimeAwait → Type
  | lock _ => Except PyError Unit
  | openSession _ => Except PyError SessionBinding
  | probe _ _ _ => Except PyError Response
  | closeChannel _ => Except PyError Unit
  | pooled _ _ => Except PyError Response
  | router i => i.Answer

/-- The coroutines of the runtime. -/
abbrev RuntimeTask (α : Type) : Type :=
  Coroutine RuntimeState RuntimeAwait RuntimeAwait.Answer PyError α

namespace RuntimeState

/-- Change the connections. -/
def modify (s : RuntimeState) (f : Connections → Connections) : RuntimeState :=
  { s with connections := f s.connections }

/-- The live endpoints, for the read-lane router. -/
def liveEndpoints (s : RuntimeState) : List LiveEndpoint :=
  s.connections.live.values.map (·.toLiveEndpoint)

end RuntimeState

namespace Connections

/-- The lock is taken by, or free. -/
def setLock (c : Connections) (holder : Option ℕ) : Connections := { c with lockedBy := holder }

/-- A new channel. -/
def addChannel (c : Connections) : Connections := { c with opened := c.opened + 1 }

/-- `channel.close()` is called. -/
def markClosed (c : Connections) (channel : Channel) : Connections :=
  { c with closed := insert channel c.closed }

/-- `_live[endpoint_id] = endpoint`. -/
def setLive (c : Connections) (endpoint : ConnectedEndpoint) : Connections :=
  { c with live := c.live.set endpoint.config.endpointId endpoint }

/-- `_live.pop(endpoint_id, None)`. -/
def popLive (c : Connections) (endpointId : String) : Connections :=
  { c with live := c.live.erase endpointId }

/-- `pool.register(endpoint)`. -/
def register (c : Connections) (endpoint : PooledEndpoint) : Connections :=
  { c with pool := c.pool.register endpoint }

/-- `pool.remove(...)` with the principals of a binding. -/
def unregister (c : Connections) (binding : SessionBinding) (endpointId : String) : Connections :=
  { c with
    pool := c.pool.remove binding.workstationPrincipal binding.controllerPrincipal endpointId }

end Connections

/-- `SessionEndpoint(...)` with its checks. -/
def sessionEndpoint (spec : EndpointConfig) (binding : SessionBinding) (path : PathObservation)
    (channel : Channel) : Except PyError PooledEndpoint :=
  if hid : spec.endpointId = "" then .error ⟨.valueError, "endpoint_id is required"⟩
  else if hpath : path.authenticated = true then
    .ok ⟨⟨spec.endpointId, binding, path, spec.durableIdempotency, hid, hpath⟩, channel⟩
  else .error ⟨.valueError, "session endpoint path must already be authenticated"⟩

namespace ControllerRuntime

variable (runtime : ControllerRuntime)

/-! ## Methods without a wait -/

/-- `self.now_ms()`. -/
def now (s : RuntimeState) : ℤ × RuntimeState :=
  let (now, reads) := runtime.router.now s.reads
  (now, { s with reads })

/-- `_load_identities_once`. -/
def loadIdentities (s : RuntimeState) : Except PyError Unit × RuntimeState :=
  match s.principals with
  | some _ => (.ok (), s)
  | none =>
    match runtime.identities s.loads with
    | .error err => (.error err, { s with loads := s.loads + 1 })
    | .ok principals => (.ok (), { s with principals := some principals, loads := s.loads + 1 })

/-- `"probe-" + self.request_id_factory()`. -/
def probeId (s : RuntimeState) : Except PyError String × RuntimeState :=
  let (requestId, reads) := runtime.router.drawRequestId s.reads
  (.ok ("probe-" ++ requestId), { s with reads })

/-- The request of a probe. -/
def probeRequest (requestId : String) : Request :=
  .ofList [("protocol_version", .str "veraport-v1"), ("request_id", .str requestId),
    ("operation", .str "lane.list")]

/-- The response to a probe is the awaited one, and `ok`. -/
def probeAccepted (requestId : String) (response : Response) : Bool :=
  match response.get? "request_id" with
  | some (.str requestId') => requestId' == requestId && isOk response
  | _ => false

/-- `PathObservation(...)` with its checks. -/
def pathObservation (spec : EndpointConfig) (observedAtMs : ℤ) (rttMs : PyFloat) :
    Except PyError PathObservation :=
  if hid : spec.endpointId = "" then .error ⟨.valueError, "path_id is required"⟩
  else if hobserved : observedAtMs < 0 then
    .error ⟨.valueError, "observed_at_ms must be non-negative"⟩
  else if hrtt : rttMs.lt 0 = true then .error ⟨.valueError, "rtt_ms must be non-negative"⟩
  else
    .ok ⟨spec.endpointId, spec.mode, true, true, observedAtMs, some rttMs, hid, not_lt.mp hobserved,
      by simpa using hrtt⟩

/-- What `_probe` makes of the response. -/
def observe (spec : EndpointConfig) (requestId : String) (response : Response)
    (s : RuntimeState) : Except PyError PathObservation × RuntimeState :=
  if !probeAccepted requestId response then
    (.error ⟨.controllerBootstrapError, spec.endpointId ++
      ": lane.list data-plane probe failed"⟩, s)
  else
    let (now, s) := runtime.now s
    (pathObservation spec now (runtime.rttMs s.reads.drawn), s)

/-! ## Coroutines -/

/-- `_close_channel`. -/
def closeChannel (channel : Channel) : RuntimeTask Unit := do
  update (·.modify (·.markClosed channel))
  let result : Except PyError Unit ← answer (RuntimeAwait.closeChannel channel)
  ofResult result

/-- `_probe`. -/
def probe (spec : EndpointConfig) (channel : Channel) : RuntimeTask PathObservation := do
  let requestId ← sync runtime.probeId
  let result : Except PyError Response ← answer (RuntimeAwait.probe spec channel requestId)
  let response ← ofResult result
  sync (runtime.observe spec requestId response)

/-- `pool.register(SessionEndpoint(...))`. -/
def register (spec : EndpointConfig) (binding : SessionBinding) (path : PathObservation)
    (channel : Channel) : RuntimeTask Unit := do
  let endpoint ← ofResult (sessionEndpoint spec binding path channel)
  update (·.modify (·.register endpoint))

/-- The channel that `open_session` has returned. -/
def newChannel (s : RuntimeState) : Except PyError Channel × RuntimeState :=
  (.ok s.connections.opened, s.modify (·.addChannel))

/-- `_connect`. -/
def connect (spec : EndpointConfig) : RuntimeTask Unit := do
  let s ← read
  match s.principals with
  | none => throw ⟨.assertionError, ""⟩
  | some (controllerPrincipal, workstationPrincipal) =>
    let result : Except PyError SessionBinding ← answer (RuntimeAwait.openSession spec)
    let binding ← ofResult result
    let channel ← sync newChannel
    if binding.controllerPrincipal ≠ controllerPrincipal then
      closeChannel channel
      throw ⟨.controllerIdentityMismatch, binding.controllerPrincipal⟩
    else if binding.workstationPrincipal ≠ workstationPrincipal then
      closeChannel channel
      throw ⟨.workstationIdentityMismatch, binding.workstationPrincipal⟩
    else
      let path ← runtime.probe spec channel
      update (·.modify (·.setLive ⟨⟨spec, binding, path⟩, channel⟩))
      register spec binding path channel

/-- Take a live endpoint away. -/
def discard (spec : EndpointConfig) (current : ConnectedEndpoint) : RuntimeTask Unit := do
  update (·.modify (·.unregister current.binding spec.endpointId))
  closeChannel current.channel
  update (·.modify (·.popLive spec.endpointId))

/-- The probe of a live endpoint. -/
def reprobe (spec : EndpointConfig) (current : ConnectedEndpoint) : RuntimeTask Unit := do
  let path ← runtime.probe spec current.channel
  update (·.modify (·.setLive { current with path }))
  register spec current.binding path current.channel

/-- `except Exception: continue` around `_connect`. -/
def tryConnect (spec : EndpointConfig) : RuntimeTask Unit :=
  tryCatch (runtime.connect spec) fun exc => if exc.isException then return () else throw exc

/-- One turn of the loop of `_refresh_locked`. -/
def refreshEndpoint (now : ℤ) (spec : EndpointConfig) : RuntimeTask Unit := do
  let s ← read
  match s.connections.live.get? spec.endpointId with
  | none => runtime.tryConnect spec
  | some current =>
    if now < current.binding.expiresAtMs then
      let lost ← tryCatch
        (do
          runtime.reprobe spec current
          return false)
        fun exc => do
          if exc.isException then
            discard spec current
            return true
          else throw exc
      if lost then runtime.tryConnect spec
    else
      discard spec current
      runtime.tryConnect spec

/-- The loop of `_refresh_locked`. -/
def refreshEndpoints (now : ℤ) : List EndpointConfig → RuntimeTask Unit
  | [] => return ()
  | spec :: rest => do
    runtime.refreshEndpoint now spec
    refreshEndpoints now rest

/-- `_refresh_locked`. -/
def refreshLocked : RuntimeTask Unit := do
  let now ← sync fun s => (.ok (runtime.now s).1, (runtime.now s).2)
  runtime.refreshEndpoints now runtime.config.endpoints

/-- `async with self._lock`. -/
def withLock {α : Type} (closing : Bool) (task : ℕ) (body : RuntimeTask α) : RuntimeTask α := do
  let granted : Except PyError Unit ← answer (RuntimeAwait.lock closing)
  ofResult granted
  update (·.modify (·.setLock (some task)))
  let result ← tryCatch body fun exc => do
    update (·.modify (·.setLock none))
    throw exc
  update (·.modify (·.setLock none))
  return result

/-- What `ensure_started` and `refresh_paths` have in common. -/
def refreshed : RuntimeTask Unit := do
  sync runtime.loadIdentities
  runtime.refreshLocked
  let s ← read
  if s.connections.live.size = 0 then
    throw ⟨.controllerBootstrapError, "no authenticated data-plane-verified endpoint"⟩

/-- `ensure_started`. -/
def ensureStarted (task : ℕ) : RuntimeTask Unit :=
  withLock false task do
    runtime.refreshed
    update ({ · with started := true })

/-- `refresh_paths`. -/
def refreshPaths (task : ℕ) : RuntimeTask Unit := withLock false task runtime.refreshed

/-- The loop of `close`. -/
def closeChannels : List ConnectedEndpoint → RuntimeTask Unit
  | [] => return ()
  | endpoint :: rest => do
    closeChannel endpoint.channel
    closeChannels rest

/-- `close`. -/
def close (task : ℕ) : RuntimeTask Unit :=
  withLock true task do
    let s ← read
    closeChannels s.connections.live.values
    update (·.modify ({ · with live := .empty }))

end ControllerRuntime

end VeraMesh
