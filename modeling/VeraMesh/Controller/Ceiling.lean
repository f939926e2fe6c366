import VeraMesh.Controller.Operations

/-!
# The operation ceiling

`gateway_operations` of the configuration is the ceiling on what the runtime may send. The gateway
holds every request against it, and so do `read_bytes` and `read_operation`. The other requests of
the read-lane router are sent without a look at it: `lane.open`, `lane.renew`, `lane.close` and
`fs.read_text`.

* `awaits_run`: what each call can send.
* `requests_permitted`: every run keeps below a ceiling that has these four.
-/

namespace VeraMesh

open Python Coroutine

/-- The request that is sent when a task begins to wait, except that of a probe. -/
def RuntimeAwait.sent : RuntimeAwait → Option Request
  | pooled _ request => some request
  | router (.request _ request) => some request
  | _ => none

/-- A request with one of the operations. -/
def Asks (operations : List String) (request : Request) : Prop :=
  ∃ operation ∈ operations, request.get? "operation" = some (.str operation)

/-- The wait sends nothing but requests with one of the operations. -/
def RuntimeAwait.Within (operations : List String) (i : RuntimeAwait) : Prop :=
  ∀ request, i.sent = some request → Asks operations request

/-- What the router sends on its own account. -/
def unguardedOperations : List String := ["lane.open", "lane.renew", "lane.close", "fs.read_text"]

/-! ## The read-lane router -/

/-- A wait of the router for a lock, or for the answer to a request with one of the operations. -/
def Await.Within (operations : List String) : Await → Prop
  | .request _ sent => Asks operations sent
  | .lock _ => True

section Router

variable {operations : List String} {router : ReadLaneRouter} {s : ReadLaneState}
  {lane : LogicalReadLane} {ref task : ℕ} {endpoint : LiveEndpoint}

theorem asks_openRequest (hopen : "lane.open" ∈ operations) {remainingMs : ℤ} {request : Request}
    (h : (router.openRequest lane remainingMs s).1 = .ok request) : Asks operations request := by
  unfold ReadLaneRouter.openRequest at h
  dsimp only at h
  split at h
  · cases h
  · rw [Except.ok.injEq] at h
    refine ⟨_, hopen, ?_⟩
    rw [← h]
    simp [Dict.ofList, Dict.get?_set]

theorem asks_renewRequest (hrenew : "lane.renew" ∈ operations) {mirrorFence : ℤ}
    {ttlS : PyFloat} {request : Request}
    (h : (router.renewRequest lane mirrorFence ttlS s).1 = .ok request) :
    Asks operations request := by
  rw [ReadLaneRouter.renewRequest, Except.ok.injEq] at h
  refine ⟨_, hrenew, ?_⟩
  rw [← h]
  simp [Dict.ofList, Dict.get?_set]

theorem asks_closeRequest (hclose : "lane.close" ∈ operations) {mirrorFence : ℤ}
    {request : Request} (h : (router.closeRequest lane mirrorFence s).1 = .ok request) :
    Asks operations request := by
  rw [ReadLaneRouter.closeRequest, Except.ok.injEq] at h
  refine ⟨_, hclose, ?_⟩
  rw [← h]
  simp [Dict.ofList, Dict.get?_set]

theorem asks_readRequest {op : ReadOperation} (hop : op.operation ∈ operations)
    (hbody : op.body.get? "operation" = none) {mirrorFence : ℤ} {request : Request}
    (h : (router.readRequest op lane mirrorFence s).1 = .ok request) :
    Asks operations request := by
  rw [ReadLaneRouter.readRequest, Except.ok.injEq] at h
  refine ⟨_, hop, ?_⟩
  rw [← h, Dict.get?_update, hbody]
  simp [Dict.ofList, Dict.get?_set]

theorem awaits_lane : Awaits (Await.Within operations) (ReadLaneRouter.lane ref) :=
  .bind .read fun _ => .pure _

theorem awaits_request {request : Request} (h : Asks operations request) :
    Awaits (Await.Within operations) (ReadLaneRouter.request ref endpoint request) := by
  refine .bind (.update _) fun _ => .bind (.answer h) fun result => .bind (.update _) fun _ => ?_
  cases result with
  | ok response => exact .pure response
  | error exc =>
    dsimp only
    split_ifs <;> exact .throw _

theorem awaits_ensureMirror (hopen : "lane.open" ∈ operations) :
    Awaits (Await.Within operations) (router.ensureMirror ref endpoint) := by
  refine .bind awaits_lane fun current => ?_
  split
  · exact .pure _
  · refine .bind (.sync _) fun remaining => Awaits.sync_bind fun s request hrequest => ?_
    refine .bind (awaits_request (asks_openRequest hopen hrequest)) fun response => ?_
    exact .bind (.ofResult _) fun fence => .bind (.update _) fun _ => .pure fence

theorem awaits_withLock {α : Type} {body : ReadLaneTask α}
    (h : Awaits (Await.Within operations) body) :
    Awaits (Await.Within operations) (ReadLaneRouter.withLock task ref body) := by
  refine .bind (.answer trivial) fun granted => .bind (.ofResult _) fun _ =>
    .bind (.update _) fun _ => .bind (.tryCatch h fun err => ?_) fun result => ?_
  · exact .bind (.update _) fun _ => .throw err
  · exact .bind (.update _) fun _ => .pure result

theorem awaits_openFirst (hopen : "lane.open" ∈ operations) (endpoints : List LiveEndpoint)
    (lastError : Option PyError) :
    Awaits (Await.Within operations) (router.openFirst ref endpoints lastError) := by
  induction endpoints generalizing lastError with
  | nil => exact .throw _
  | cons endpoint rest ih =>
    refine .tryCatch (.bind (awaits_ensureMirror hopen) fun _ => .bind (.update _) fun _ =>
      .bind awaits_lane fun opened => .pure _) fun exc => ?_
    split_ifs
    · exact ih (some exc)
    · exact .throw exc

theorem awaits_openLane (hopen : "lane.open" ∈ operations) (args : OpenLane) :
    Awaits (Await.Within operations) (router.openLane task args) := by
  refine .bind (.sync _) fun ref => .tryCatch (.bind (.sync _) fun endpoints => ?_) fun exc => ?_
  · exact awaits_openFirst hopen endpoints none
  · dsimp only
    split_ifs
    · exact .bind (.update _) fun _ => .throw exc
    · exact .throw exc

theorem awaits_renewMirrors (hrenew : "lane.renew" ∈ operations) (ttlS : PyFloat)
    (endpoints : Dict String LiveEndpoint) (mirrors : List (String × String × ℤ)) :
    Awaits (Await.Within operations) (router.renewMirrors ref ttlS endpoints mirrors) := by
  induction mirrors with
  | nil => exact .pure ()
  | cons mirror rest ih =>
    refine .bind ?_ fun _ => ih
    unfold ReadLaneRouter.renewMirror
    split
    · exact .update _
    · refine .tryCatch (.bind awaits_lane fun current => Awaits.sync_bind fun s request hrequest =>
        .bind (awaits_request (asks_renewRequest hrenew hrequest)) fun response => ?_) fun exc => ?_
      · split_ifs
        · exact .update _
        · exact .pure ()
      · split_ifs
        · exact .update _
        · exact .throw exc

theorem awaits_renew (hrenew : "lane.renew" ∈ operations) (laneId : String) (fencingToken : ℤ)
    (ttlS : PyFloat) :
    Awaits (Await.Within operations) (router.renew task laneId fencingToken ttlS) := by
  refine .bind (.sync _) fun ref => awaits_withLock ?_
  refine .bind (.sync _) fun ref => .bind (.sync _) fun _ => .bind (.sync _) fun endpoints => ?_
  refine .bind awaits_lane fun current => ?_
  exact .bind (awaits_renewMirrors hrenew ttlS _ _) fun _ => .pure _

theorem awaits_closeMirrors (hclose : "lane.close" ∈ operations)
    (endpoints : Dict String LiveEndpoint) (mirrors : List (String × String × ℤ)) :
    Awaits (Await.Within operations) (router.closeMirrors ref endpoints mirrors) := by
  induction mirrors with
  | nil => exact .pure []
  | cons mirror rest ih =>
    refine .bind ?_ fun left => .bind ih fun unresolved => .pure _
    unfold ReadLaneRouter.closeMirror
    split
    · exact .pure _
    · refine .tryCatch (.bind awaits_lane fun current => Awaits.sync_bind fun s request hrequest =>
        .bind (awaits_request (asks_closeRequest hclose hrequest)) fun response => ?_) fun exc => ?_
      · split_ifs
        · exact .pure _
        · exact .bind (.update _) fun _ => .pure none
      · split_ifs
        · exact .pure _
        · exact .throw exc

theorem awaits_close (hclose : "lane.close" ∈ operations) (laneId : String) (fencingToken : ℤ) :
    Awaits (Await.Within operations) (router.close task laneId fencingToken) := by
  refine .bind (.sync _) fun ref => awaits_withLock ?_
  refine .bind (.sync _) fun ref => .bind (.sync _) fun endpoints => ?_
  refine .bind awaits_lane fun current => .bind (awaits_closeMirrors hclose _ _) fun unresolved => ?_
  dsimp only
  split_ifs
  · exact .throw_bind
  · exact .bind (.update _) fun _ => .bind (.update _) fun _ => .pure _

theorem awaits_readFirst {op : ReadOperation} (hopen : "lane.open" ∈ operations)
    (hop : op.operation ∈ operations) (hbody : op.body.get? "operation" = none)
    (endpoints : List LiveEndpoint) (lastError : Option PyError) :
    Awaits (Await.Within operations) (router.readFirst ref op endpoints lastError) := by
  induction endpoints generalizing lastError with
  | nil => exact .throw _
  | cons endpoint rest ih =>
    refine .tryCatch (.bind (awaits_ensureMirror hopen) fun mirrorFence => .bind awaits_lane
      fun current => Awaits.sync_bind fun s request hrequest =>
        awaits_request (asks_readRequest hop hbody hrequest)) fun exc => ?_
    split_ifs
    · exact ih (some exc)
    · exact .throw exc

theorem awaits_mirroredRead {op : ReadOperation} (hopen : "lane.open" ∈ operations)
    (hop : op.operation ∈ operations) (hbody : op.body.get? "operation" = none)
    (laneId : String) (fencingToken : ℤ) :
    Awaits (Await.Within operations) (router.mirroredRead task laneId fencingToken op) := by
  refine .bind (.sync _) fun ref => awaits_withLock ?_
  exact .bind (.sync _) fun ref => .bind (.sync _) fun endpoints =>
    awaits_readFirst hopen hop hbody endpoints none

end Router

/-! ## The runtime -/

section Runtime

variable {runtime : ControllerRuntime} {operations : List String} {task : ℕ}

theorem within_of_sent_eq_none {i : RuntimeAwait} (h : i.sent = none) : i.Within operations := by
  intro request hsent
  rw [h] at hsent
  cases hsent

theorem awaits_closeChannel (channel : Channel) :
    Awaits (RuntimeAwait.Within operations) (ControllerRuntime.closeChannel channel) :=
  .bind (.update _) fun _ =>
    .bind (.answer (within_of_sent_eq_none rfl)) fun _ => .ofResult _

theorem awaits_probe (spec : EndpointConfig) (channel : Channel) :
    Awaits (RuntimeAwait.Within operations) (runtime.probe spec channel) :=
  .bind (.sync _) fun _ => .bind (.answer (within_of_sent_eq_none rfl)) fun _ =>
    .bind (.ofResult _) fun _ => .sync _

theorem awaits_register (spec : EndpointConfig) (binding : SessionBinding)
    (path : PathObservation) (channel : Channel) :
    Awaits (RuntimeAwait.Within operations)
      (ControllerRuntime.register spec binding path channel) :=
  .bind (.ofResult _) fun _ => .update _

theorem awaits_connect (spec : EndpointConfig) :
    Awaits (RuntimeAwait.Within operations) (runtime.connect spec) := by
  refine .bind .read fun s => ?_
  split
  · exact .throw _
  · refine .bind (.answer (within_of_sent_eq_none rfl)) fun result => .bind (.ofResult _)
      fun binding => .bind (.sync _) fun channel => ?_
    split_ifs
    · exact .bind (awaits_closeChannel channel) fun _ => .throw _
    · exact .bind (awaits_closeChannel channel) fun _ => .throw _
    · exact .bind (awaits_probe spec channel) fun path => .bind (.update _) fun _ =>
        awaits_register spec binding path channel

theorem awaits_discard (spec : EndpointConfig) (current : ConnectedEndpoint) :
    Awaits (RuntimeAwait.Within operations) (ControllerRuntime.discard spec current) :=
  .bind (.update _) fun _ => .bind (awaits_closeChannel _) fun _ => .update _

theorem awaits_reprobe (spec : EndpointConfig) (current : ConnectedEndpoint) :
    Awaits (RuntimeAwait.Within operations) (runtime.reprobe spec current) :=
  .bind (awaits_probe spec _) fun _ => .bind (.update _) fun _ => awaits_register spec _ _ _

theorem awaits_tryConnect (spec : EndpointConfig) :
    Awaits (RuntimeAwait.Within operations) (runtime.tryConnect spec) := by
  refine .tryCatch (awaits_connect spec) fun exc => ?_
  split_ifs
  · exact .pure ()
  · exact .throw exc

theorem awaits_refreshEndpoint (now : ℤ) (spec : EndpointConfig) :
    Awaits (RuntimeAwait.Within operations) (runtime.refreshEndpoint now spec) := by
  refine .bind .read fun s => ?_
  split
  · exact awaits_tryConnect spec
  · next current _ =>
    split_ifs
    · refine .bind (.tryCatch (.bind (awaits_reprobe spec current) fun _ => .pure false)
        fun exc => ?_) fun lost => ?_
      · split_ifs
        · exact .bind (awaits_discard spec current) fun _ => .pure true
        · exact .throw exc
      · split_ifs
        · exact awaits_tryConnect spec
        · exact .pure ()
    · exact .bind (awaits_discard spec current) fun _ => awaits_tryConnect spec

theorem awaits_refreshEndpoints (now : ℤ) (specs : List EndpointConfig) :
    Awaits (RuntimeAwait.Within operations) (runtime.refreshEndpoints now specs) := by
  induction specs with
  | nil => exact .pure ()
  | cons spec rest ih => exact .bind (awaits_refreshEndpoint now spec) fun _ => ih

theorem awaits_runtimeLock {α : Type} {closing : Bool} {body : RuntimeTask α}
    (h : Awaits (RuntimeAwait.Within operations) body) :
    Awaits (RuntimeAwait.Within operations) (ControllerRuntime.withLock closing task body) := by
  refine .bind (.answer (within_of_sent_eq_none rfl)) fun granted => .bind (.ofResult _) fun _ =>
    .bind (.update _) fun _ => .bind (.tryCatch h fun err => ?_) fun result => ?_
  · exact .bind (.update _) fun _ => .throw err
  · exact .bind (.update _) fun _ => .pure result

theorem awaits_refreshed : Awaits (RuntimeAwait.Within operations) runtime.refreshed := by
  refine .bind (.sync _) fun _ => .bind (.bind (.sync _) fun now =>
    awaits_refreshEndpoints now _) fun _ => .bind .read fun s => ?_
  split_ifs
  · exact .throw _
  · exact .pure ()

theorem awaits_ensureStarted :
    Awaits (RuntimeAwait.Within operations) (runtime.ensureStarted task) :=
  awaits_runtimeLock (.bind awaits_refreshed fun _ => .update _)

theorem awaits_closeChannels (endpoints : List ConnectedEndpoint) :
    Awaits (RuntimeAwait.Within operations) (ControllerRuntime.closeChannels endpoints) := by
  induction endpoints with
  | nil => exact .pure ()
  | cons endpoint rest ih => exact .bind (awaits_closeChannel _) fun _ => ih

/-- The pool hands on the request it is given. -/
theorem awaits_requestLoop {call : HotSessionPool.Call} (h : Asks operations call.request)
    (requestId operation : String) (candidates : List PooledEndpoint)
    (state : HotSessionPool.RetryState) :
    Awaits (RuntimeAwait.Within operations)
      (ControllerRuntime.requestLoop call requestId operation candidates state) := by
  induction hleft : (state.untried (ControllerRuntime.sessions candidates)).length using
    Nat.strong_induction_on generalizing state with
  | _ left ih =>
    rw [ControllerRuntime.requestLoop]
    split
    · exact .throw _
    · exact .throw _
    · split
      · exact .throw _
      · next item _ =>
        refine ⟨fun request hsent => ?_, fun answer => ?_⟩
        · obtain rfl : call.request = request := Option.some.inj hsent
          exact h
        · beta_reduce
          split
          · exact .ofResult _
          · next state' hagain =>
            -- a turn that goes on has used up an endpoint
            exact ih _ (hleft ▸ HotSessionPool.turn_again_untried_lt hagain) state' rfl

theorem awaits_poolRequest {call : HotSessionPool.Call} (h : Asks operations call.request) :
    Awaits (RuntimeAwait.Within operations) (ControllerRuntime.poolRequest call) :=
  .bind (.ofResult _) fun _ => .bind .read fun _ => awaits_requestLoop h _ _ _ _

/-- The gateway sends nothing beyond its ceiling. -/
theorem awaits_gatewayCall {operation : String} {body : Request}
    (hbody : body.get? "operation" = none) :
    Awaits (RuntimeAwait.Within runtime.config.gatewayOperations)
      (runtime.gatewayCall operation body) := by
  refine .bind .read fun s => .bind (.ofResult _) fun principals => ?_
  dsimp only
  split_ifs with hallowed
  · refine .bind (.sync _) fun requestId => ?_
    split_ifs
    · exact .throw_bind
    · refine .bind (.sync _) fun nowMs => awaits_poolRequest ⟨operation, hallowed, ?_⟩
      dsimp only
      rw [ControllerRuntime.gatewayRequest, Dict.get?_update, hbody]
      simp [Dict.ofList]
  · exact .throw_bind

theorem awaits_routed {α : Type} {c : ReadLaneTask α} (h : Awaits (Await.Within operations) c) :
    Awaits (RuntimeAwait.Within operations) (ControllerRuntime.routed c) := by
  refine Awaits.zoom _ _ _ _ (h.imp ?_)
  intro i hi request hsent
  cases i with
  | request endpoint request' =>
    obtain rfl : request' = request := Option.some.inj hsent
    exact hi
  | lock ref => cases hsent

theorem awaits_byOwner (laneId fencingToken : PyValue)
    {mirrored : String → ℤ → ReadLaneTask Response} {otherwise : RuntimeTask Response}
    (hmirrored : ∀ laneId fencingToken,
      Awaits (Await.Within operations) (mirrored laneId fencingToken))
    (hotherwise : Awaits (RuntimeAwait.Within operations) otherwise) :
    Awaits (RuntimeAwait.Within operations)
      (ControllerRuntime.byOwner laneId fencingToken mirrored otherwise) := by
  refine .bind .read fun s => ?_
  split
  · exact awaits_routed (hmirrored _ _)
  · exact hotherwise

/-- What a call can send, if the ceiling has what the router sends on its own account. -/
theorem awaits_run (hceiling : unguardedOperations ⊆ runtime.config.gatewayOperations)
    (call : RuntimeCall) :
    Awaits (RuntimeAwait.Within runtime.config.gatewayOperations) (call.run runtime task) := by
  have hopen := hceiling (show "lane.open" ∈ unguardedOperations by simp [unguardedOperations])
  have hrenew := hceiling (show "lane.renew" ∈ unguardedOperations by simp [unguardedOperations])
  have hclose := hceiling (show "lane.close" ∈ unguardedOperations by simp [unguardedOperations])
  have hread := hceiling (show "fs.read_text" ∈ unguardedOperations by simp [unguardedOperations])
  cases call with
  | ensureStarted => exact .bind awaits_ensureStarted fun _ => .pure none
  | refreshPaths => exact .bind (awaits_runtimeLock awaits_refreshed) fun _ => .pure none
  | close =>
    refine .bind (awaits_runtimeLock (.bind .read fun s => ?_)) fun _ => .pure none
    exact .bind (awaits_closeChannels _) fun _ => .update _
  | listLanes => exact .map (.bind awaits_ensureStarted fun _ => awaits_gatewayCall rfl)
  | openLane args =>
    refine .map (.bind awaits_ensureStarted fun _ => ?_)
    split_ifs
    · exact awaits_routed (awaits_openLane hopen args)
    · exact awaits_gatewayCall (by simp [Dict.ofList, Dict.get?_set])
  | renewLane laneId fencingToken ttlS =>
    refine .map (.bind awaits_ensureStarted fun _ => awaits_byOwner _ _ (fun _ _ => ?_) ?_)
    · exact awaits_renew hrenew _ _ _
    · exact awaits_gatewayCall (by simp [Dict.ofList, Dict.get?_set])
  | closeLane laneId fencingToken =>
    refine .map (.bind awaits_ensureStarted fun _ => awaits_byOwner _ _ (fun _ _ => ?_) ?_)
    · exact awaits_close hclose _ _
    · exact awaits_gatewayCall (by simp [Dict.ofList, Dict.get?_set])
  | readText laneId fencingToken path encoding =>
    refine .map (.bind awaits_ensureStarted fun _ => awaits_byOwner _ _ (fun _ _ => ?_) ?_)
    · exact awaits_mirroredRead hopen hread
        (by simp [ReadOperation.text, Dict.ofList, Dict.get?_set]) _ _
    · exact awaits_gatewayCall (by simp [Dict.ofList, Dict.get?_set])
  | readBytes laneId fencingToken path offset maxBytes expectedFileVersion =>
    refine .map (.bind awaits_ensureStarted fun _ => ?_)
    split_ifs with hallowed
    · refine awaits_byOwner _ _ (fun _ _ => ?_) ?_
      · exact awaits_mirroredRead hopen hallowed
          (by simp [ReadOperation.bytes, Dict.ofList, Dict.get?_set]) _ _
      · exact awaits_gatewayCall (by simp [Dict.ofList, Dict.get?_set])
    · exact .throw_bind
  | readOperation operation kwargs =>
    refine .map (.bind awaits_ensureStarted fun _ => ?_)
    split_ifs with hallowed hread'
    · refine awaits_byOwner _ _ (fun _ _ => ?_) (awaits_gatewayCall kwargs.2)
      rw [ReadLaneRouter.callReadOperation, if_neg (not_not.mpr hread')]
      refine awaits_mirroredRead hopen hallowed ?_ _ _
      rw [ReadOperation.other, Dict.get?_erase_ne _ (by simp), Dict.get?_erase_ne _ (by simp)]
      exact kwargs.2
    · exact .throw_bind
    · exact .throw_bind
    · exact .throw_bind
  | writeText laneId fencingToken path content encoding =>
    exact .map (.bind awaits_ensureStarted fun _ =>
      awaits_gatewayCall (by simp [Dict.ofList, Dict.get?_set]))
  | callOperation operation body => exact .map (awaits_gatewayCall body.2)

end Runtime

/-- If the ceiling has `lane.open`, `lane.renew`, `lane.close` and `fs.read_text`, then in every run
every request that is sent, except by a probe, has an operation of the ceiling. -/
theorem requests_within_ceiling (runtime : ControllerRuntime)
    (hceiling : unguardedOperations ⊆ runtime.config.gatewayOperations)
    {sys : System RuntimeState RuntimeAwait RuntimeAwait.Answer PyError (Option Response)}
    (h : Reachable runtime.driver .init sys) {c : RuntimeTask (Option Response)}
    (hc : c ∈ sys.tasks) {i : RuntimeAwait} (hi : c.waiting = some i) {request : Request}
    (hsent : i.sent = some request) :
    ∃ operation ∈ runtime.config.gatewayOperations,
      request.get? "operation" = some (.str operation) := by
  have hawaits : ∀ c ∈ sys.tasks,
      Awaits (RuntimeAwait.Within runtime.config.gatewayOperations) c := by
    refine Reachable.awaits (fun s t c hcall => ?_) h
    obtain ⟨call, rfl⟩ := hcall
    exact awaits_run hceiling call
  exact (hawaits c hc).of_waiting hi request hsent

/-- The operation of the request that a task waits for. -/
def sentOperation (c : RuntimeTask (Option Response)) : Option String :=
  match (c.waiting.bind RuntimeAwait.sent).bind (·.get? "operation") with
  | some (.str operation) => some operation
  | _ => none

theorem of_sentOperation {c : RuntimeTask (Option Response)} {operation : String}
    (h : sentOperation c = some operation) :
    ∃ i request, c.waiting = some i ∧ i.sent = some request ∧
      request.get? "operation" = some (.str operation) := by
  unfold sentOperation at h
  split at h
  · next operation' hoperation =>
    obtain rfl : operation' = operation := Option.some.inj h
    obtain ⟨request, hrequest, hoperation⟩ := Option.bind_eq_some_iff.mp hoperation
    obtain ⟨i, hi, hsent⟩ := Option.bind_eq_some_iff.mp hrequest
    exact ⟨i, request, hi, hsent, hoperation⟩
  · cases h

/-- The call of `exampleOpenLane`, up to its first request. -/
def exampleSend (operations : List String) (hne : operations ≠ [] := by decide)
    (hknown : ∀ operation ∈ operations, operation ∈ allOperations := by decide) :
    RuntimeTask (Option Response) × RuntimeState :=
  evalUntil (fun i => i.sent.isSome) exampleRuntimeReply
    ((RuntimeCall.openLane exampleOpenLaneArgs).run (exampleRuntime operations hne hknown) 0) .init

theorem reachable_exampleSend {operations : List String} (hne : operations ≠ [])
    (hknown : ∀ operation ∈ operations, operation ∈ allOperations) :
    Reachable (exampleRuntime operations hne hknown).driver .init
      ⟨(exampleSend operations hne hknown).2, [(exampleSend operations hne hknown).1]⟩ := by
  have hinit : Reachable (exampleRuntime operations hne hknown).driver .init ⟨.init, []⟩ := .refl
  have hcall : (exampleRuntime operations hne hknown).driver.calls .init 0
      ((RuntimeCall.openLane exampleOpenLaneArgs).run (exampleRuntime operations hne hknown) 0) :=
    ⟨.openLane exampleOpenLaneArgs, rfl⟩
  exact hinit.evalUntil hcall answers_exampleRuntimeReply fun i => i.sent.isSome

/-- A request that is within the ceiling. -/
theorem requests_within_ceiling_exampleRuntime :
    ∃ request : Request, ∃ operation ∈ unguardedOperations,
      request.get? "operation" = some (.str operation) := by
  obtain ⟨i, request, hi, hsent, -⟩ := of_sentOperation
    (show sentOperation (exampleSend unguardedOperations).1 = some "lane.open" by decide +kernel)
  exact ⟨request, requests_within_ceiling (exampleRuntime unguardedOperations)
    (fun _ h => h) (reachable_exampleSend (by decide) (by decide)) (List.mem_singleton_self _) hi
    hsent⟩

/-- The ceiling is `fs.read_bytes`, and `lane.open` is sent. -/
theorem not_requests_within_ceiling :
    ∃ sys, Reachable (exampleRuntime ["fs.read_bytes"]).driver .init sys ∧
      ∃ c ∈ sys.tasks, ∃ i request, c.waiting = some i ∧ i.sent = some request ∧
        ∀ operation ∈ (exampleRuntime ["fs.read_bytes"]).config.gatewayOperations,
          request.get? "operation" ≠ some (.str operation) := by
  obtain ⟨i, request, hi, hsent, hoperation⟩ := of_sentOperation
    (show sentOperation (exampleSend ["fs.read_bytes"]).1 = some "lane.open" by decide +kernel)
  refine ⟨_, reachable_exampleSend (by decide) (by decide), _, List.mem_singleton_self _, i,
    request, hi, hsent, fun operation hmem heq => ?_⟩
  obtain rfl : operation = "fs.read_bytes" := List.mem_singleton.mp hmem
  rw [hoperation] at heq
  simp at heq

end VeraMesh
