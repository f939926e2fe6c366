import VeraMesh.Controller.EndpointOrder
import VeraMesh.Controller.Mirrors

/-!
# Failover of mirrored reads

A read goes along the current endpoints in order. `StreamClosed` sends it on to the next one. Any
other exception ends it, and `_ensure_mirror` raises another one when the endpoint rejects the
mirror's `lane.open`. So an endpoint that rejects hides those behind it, where `callLogicalRead` of
the Go controller goes on.

* `eval_readFirst`: what the loop over the endpoints comes to.
* `mirroredRead_available_iff`: when a read is served although some current endpoint can serve it.
-/

namespace VeraMesh

open Python Coroutine

/-- How an endpoint takes part in a read: what its channel does with the mirror's `lane.open`, and
what with the read. -/
structure ReadService where
  opens : Except PyError Response
  reads : Except PyError Response

/-- A failure in transport that `_request` raises as `StreamClosed`. -/
def LostInTransport (exc : PyError) : Prop := exc.cls = .streamClosed ∨ exc.cls = .timeoutError

/-- The request is the `lane.open` of a mirror. -/
def isOpen (request : Request) : Bool :=
  match request.get? "operation" with
  | some (.str operation) => operation == "lane.open"
  | _ => false

/-- Every endpoint answers as its service says, and the lock is free. -/
def answerBy (service : LiveEndpoint → ReadService) (_ : ReadLaneState) : (i : Await) → i.Answer
  | .request endpoint request =>
    if isOpen request then (service endpoint).opens else (service endpoint).reads
  | .lock _ => .ok ()

section Outcomes

variable (lane : LogicalReadLane) (service : LiveEndpoint → ReadService) (endpoint : LiveEndpoint)

/-- The endpoint has a mirror of the lane on its session, or accepts the `lane.open` for one. -/
def Mirrors : Prop :=
  (lane.mirrorFence endpoint).isSome = true ∨
    ∃ response fence, (service endpoint).opens = .ok response ∧ isOk response = true ∧
      responseFence response = some fence

/-- The endpoint accepts the mirror's `lane.open`, where it is sent one, and answers the read. -/
def Accepts (response : Response) : Prop :=
  Mirrors lane service endpoint ∧ (service endpoint).reads = .ok response

/-- The endpoint loses the mirror's `lane.open`, or the read, in transport. -/
def Loses : Prop :=
  lane.mirrorFence endpoint = none ∧
      (∃ exc, (service endpoint).opens = .error exc ∧ LostInTransport exc) ∨
    Mirrors lane service endpoint ∧
      ∃ exc, (service endpoint).reads = .error exc ∧ LostInTransport exc

end Outcomes

/-- What `_request` makes of what the channel does. -/
def transported (endpoint : LiveEndpoint) : Except PyError Response → Except PyError Response
  | .ok response => .ok response
  | .error exc =>
    if exc.cls = .timeoutError then
      .error ⟨.streamClosed, endpoint.config.endpointId ++ ": request timed out"⟩
    else .error exc

theorem transported_streamClosed {endpoint : LiveEndpoint} {exc : PyError}
    (hlost : LostInTransport exc) :
    ∃ err, transported endpoint (.error exc) = .error err ∧ err.cls = .streamClosed := by
  unfold transported
  dsimp only
  split_ifs with htimeout
  · exact ⟨_, rfl, rfl⟩
  · exact ⟨exc, rfl, hlost.resolve_right htimeout⟩

theorem lostInTransport_of_transported {endpoint : LiveEndpoint} {exc err : PyError}
    (h : transported endpoint (.error exc) = .error err) (hcls : err.cls = .streamClosed) :
    LostInTransport exc := by
  unfold transported at h
  dsimp only at h
  split_ifs at h with htimeout
  · exact Or.inr htimeout
  · cases h
    exact Or.inl hcls

/-- What `_ensure_mirror` comes to. -/
def mirror (router : ReadLaneRouter) (lane : LogicalReadLane)
    (service : LiveEndpoint → ReadService) (endpoint : LiveEndpoint) : Except PyError ℤ :=
  match lane.mirrorFence endpoint with
  | some fence => .ok fence
  | none =>
    match transported endpoint (service endpoint).opens with
    | .error err => .error err
    | .ok response => router.openedFence endpoint response

/-- What a turn of the loop over the endpoints comes to. -/
def turn (router : ReadLaneRouter) (lane : LogicalReadLane) (service : LiveEndpoint → ReadService)
    (endpoint : LiveEndpoint) : Except PyError Response :=
  match mirror router lane service endpoint with
  | .error err => .error err
  | .ok _ => transported endpoint (service endpoint).reads

/-- What the loop comes to. -/
def firstServed (router : ReadLaneRouter) (lane : LogicalReadLane)
    (service : LiveEndpoint → ReadService) (noEndpoint : String) :
    List LiveEndpoint → Option PyError → Except PyError Response
  | [], lastError => .error (lastError.getD ⟨.logicalReadLaneError, noEndpoint⟩)
  | endpoint :: rest, _ =>
    match turn router lane service endpoint with
    | .ok response => .ok response
    | .error exc =>
      if exc.cls = .streamClosed then firstServed router lane service noEndpoint rest (some exc)
      else .error exc

section Turns

variable {router : ReadLaneRouter} {lane : LogicalReadLane}
  {service : LiveEndpoint → ReadService} {endpoint : LiveEndpoint}

theorem openedFence_eq_ok_iff {response : Response} {fence : ℤ} :
    router.openedFence endpoint response = .ok fence ↔
      isOk response = true ∧ responseFence response = some fence := by
  unfold ReadLaneRouter.openedFence
  cases isOk response <;> cases responseFence response <;> simp

theorem not_streamClosed_openedFence {response : Response} {err : PyError}
    (h : router.openedFence endpoint response = .error err) : err.cls ≠ .streamClosed := by
  unfold ReadLaneRouter.openedFence at h
  dsimp only at h
  split at h
  · cases h
    simp
  · split at h
    · cases h
      simp
    · cases h

theorem transported_eq_ok_iff {result : Except PyError Response} {response : Response} :
    transported endpoint result = .ok response ↔ result = .ok response := by
  cases result with
  | ok response' => rfl
  | error exc =>
    unfold transported
    dsimp only
    split_ifs <;> simp

theorem transported_streamClosed_iff (endpoint : LiveEndpoint)
    {result : Except PyError Response} :
    (∃ err, transported endpoint result = .error err ∧ err.cls = .streamClosed) ↔
      ∃ exc, result = .error exc ∧ LostInTransport exc := by
  constructor
  · rintro ⟨err, herr, hcls⟩
    cases result with
    | ok response => cases herr
    | error exc => exact ⟨exc, rfl, lostInTransport_of_transported herr hcls⟩
  · rintro ⟨exc, rfl, hlost⟩
    exact transported_streamClosed hlost

theorem mirror_isOk_iff (router : ReadLaneRouter) :
    (∃ fence, mirror router lane service endpoint = .ok fence) ↔
      Mirrors lane service endpoint := by
  unfold mirror Mirrors
  cases hmirror : lane.mirrorFence endpoint with
  | some fence => simp
  | none =>
    cases hopens : transported endpoint (service endpoint).opens with
    | error err =>
      have hnot : ∀ response, (service endpoint).opens ≠ .ok response := by
        intro response hok
        rw [transported_eq_ok_iff.mpr hok] at hopens
        cases hopens
      simp [hnot]
    | ok response =>
      rw [transported_eq_ok_iff] at hopens
      simp [hopens, openedFence_eq_ok_iff]

theorem mirror_streamClosed_iff (router : ReadLaneRouter) :
    (∃ err, mirror router lane service endpoint = .error err ∧ err.cls = .streamClosed) ↔
      lane.mirrorFence endpoint = none ∧
        ∃ exc, (service endpoint).opens = .error exc ∧ LostInTransport exc := by
  rw [← transported_streamClosed_iff endpoint]
  unfold mirror
  cases hmirror : lane.mirrorFence endpoint with
  | some fence => simp
  | none =>
    cases hopens : transported endpoint (service endpoint).opens with
    | error err => simp
    | ok response =>
      have hnot : ∀ err, router.openedFence endpoint response = .error err →
          err.cls ≠ .streamClosed := fun err => not_streamClosed_openedFence
      simpa using hnot

/-- A turn returns the response of an endpoint that accepts. -/
theorem turn_eq_ok_iff {response : Response} :
    turn router lane service endpoint = .ok response ↔
      Accepts lane service endpoint response := by
  unfold turn Accepts
  rw [← mirror_isOk_iff router]
  cases mirror router lane service endpoint with
  | error err => simp
  | ok fence => simp [transported_eq_ok_iff]

/-- A turn ends with `StreamClosed` at an endpoint that loses a request. -/
theorem turn_streamClosed_iff :
    (∃ err, turn router lane service endpoint = .error err ∧ err.cls = .streamClosed) ↔
      Loses lane service endpoint := by
  unfold turn Loses
  rw [← mirror_streamClosed_iff router, ← mirror_isOk_iff router,
    ← transported_streamClosed_iff endpoint]
  cases mirror router lane service endpoint with
  | error err => simp
  | ok fence => simp

end Turns

/-! ## The loop -/

/-- The lane lasts through `count` readings of the clock, and each time what is left of it is a
float. -/
def Lasts (router : ReadLaneRouter) (lane : LogicalReadLane) (first count : ℕ) : Prop :=
  ∀ n, first ≤ n → n < first + count → 0 < lane.expiresAtMs - router.nowMs n ∧
    ∃ ttl, router.rt.float (.int (lane.expiresAtMs - router.nowMs n)) = .ok ttl

/-- What a turn at `endpoint` leaves alone. -/
structure TurnFrame (ref : ℕ) (endpoint : LiveEndpoint) (s s' : ReadLaneState) : Prop where
  expiresAtMs : (s'.heap ref).expiresAtMs = (s.heap ref).expiresAtMs
  mirrorFence : ∀ other : LiveEndpoint,
    other.config.endpointId ≠ endpoint.config.endpointId →
    (s'.heap ref).mirrorFence other = (s.heap ref).mirrorFence other
  readings : s.readings ≤ s'.readings ∧ s'.readings ≤ s.readings + 1

section Loop

variable {router : ReadLaneRouter} {lane : LogicalReadLane}
  {service : LiveEndpoint → ReadService} {endpoint : LiveEndpoint} {ref : ℕ} {s : ReadLaneState}

theorem eval_request (service : LiveEndpoint → ReadService) (ref : ℕ) (endpoint : LiveEndpoint)
    (s : ReadLaneState) (request : Request) :
    ∃ s', eval (answerBy service) (ReadLaneRouter.request ref endpoint request) s =
        (transported endpoint
          (if isOpen request then (service endpoint).opens else (service endpoint).reads), s') ∧
      s'.heap = s.heap ∧ s'.readings = s.readings := by
  generalize hresult : (if isOpen request then (service endpoint).opens
    else (service endpoint).reads) = result
  have hanswer : ∀ s, answerBy service s (.request endpoint request) = result := fun _ => hresult
  refine ⟨(s.note (.sent ref endpoint request)).note (.answered ref endpoint request result), ?_,
    rfl, rfl⟩
  rw [ReadLaneRouter.request, eval_bind, eval_update]
  dsimp only
  rw [eval_bind, eval_answer]
  dsimp only
  rw [hanswer, eval_bind, eval_update]
  cases result with
  | ok response => rfl
  | error exc =>
    dsimp only [transported]
    split_ifs <;> rfl

@[simp]
theorem eval_lane : eval (answerBy service) (ReadLaneRouter.lane ref) s = (.ok (s.heap ref), s) :=
  rfl

theorem openRequest_isOpen (lane : LogicalReadLane) (s : ReadLaneState) {remainingMs : ℤ}
    {ttl : PyFloat}
    (httl : router.rt.float (.int remainingMs) = .ok ttl) :
    ∃ request, router.openRequest lane remainingMs s =
      (.ok request, { s with drawn := s.drawn + 1 }) ∧ isOpen request = true := by
  refine ⟨_, by simp only [ReadLaneRouter.openRequest, httl]; rfl, ?_⟩
  simp [isOpen, Dict.ofList, Dict.get?_set]

/-- What `_ensure_mirror` comes to while the lane lasts. -/
theorem eval_ensureMirror (service : LiveEndpoint → ReadService)
    (hexpires : (s.heap ref).expiresAtMs = lane.expiresAtMs)
    (hmirror : (s.heap ref).mirrorFence endpoint = lane.mirrorFence endpoint)
    (hlasts : Lasts router lane s.readings 1) :
    ∃ s', eval (answerBy service) (router.ensureMirror ref endpoint) s =
        (mirror router lane service endpoint, s') ∧ TurnFrame ref endpoint s s' := by
  rw [ReadLaneRouter.ensureMirror, eval_bind, eval_lane]
  dsimp only
  unfold mirror
  rw [hmirror]
  cases hfence : lane.mirrorFence endpoint with
  | some fence => exact ⟨s, rfl, rfl, fun _ _ => rfl, le_refl _, Nat.le_succ _⟩
  | none =>
    obtain ⟨hleft, ttl, httl⟩ := hlasts s.readings (le_refl _) (by omega)
    have hremaining : router.remainingMs ref s =
        (.ok (lane.expiresAtMs - router.nowMs s.readings),
          { s with readings := s.readings + 1 }) := by
      simp only [ReadLaneRouter.remainingMs, ReadLaneRouter.now, hexpires]
      rw [if_neg (by omega)]
    obtain ⟨request, hrequest, hopen⟩ :=
      openRequest_isOpen (s.heap ref) { s with readings := s.readings + 1 } httl
    obtain ⟨s', hsent, hheap, hreadings⟩ := eval_request service ref endpoint
      { s with readings := s.readings + 1, drawn := s.drawn + 1 } request
    dsimp only
    rw [eval_bind, eval_sync, hremaining]
    dsimp only
    rw [eval_bind, eval_sync, hrequest]
    dsimp only
    rw [eval_bind, hsent, if_pos hopen]
    cases htransported : transported endpoint (service endpoint).opens with
    | error err =>
      exact ⟨s', rfl, by rw [hheap], fun _ _ => by rw [hheap], by rw [hreadings]; simp⟩
    | ok response =>
      dsimp only
      rw [eval_bind, eval_ofResult]
      cases hopened : router.openedFence endpoint response with
      | error err =>
        exact ⟨s', rfl, by rw [hheap], fun _ _ => by rw [hheap], by rw [hreadings]; simp⟩
      | ok fence =>
        refine ⟨s'.modifyLane ref (·.setMirror endpoint fence), rfl, ?_, fun other hother => ?_, ?_⟩
        · rw [heap_modifyLane, if_pos rfl, hheap]
          rfl
        · rw [heap_modifyLane, if_pos rfl, hheap, LogicalReadLane.mirrorFence,
            LogicalReadLane.setMirror, Dict.get?_set, if_neg hother]
          rfl
        · change s.readings ≤ s'.readings ∧ s'.readings ≤ s.readings + 1
          rw [hreadings]
          simp

theorem readRequest_isOpen (router : ReadLaneRouter) (lane : LogicalReadLane) (s : ReadLaneState)
    {op : ReadOperation} (hop : op.operation ≠ "lane.open")
    (hbody : op.body.get? "operation" = none) (mirrorFence : ℤ) :
    ∃ request, router.readRequest op lane mirrorFence s =
      (.ok request, { s with drawn := s.drawn + 1 }) ∧ isOpen request = false := by
  refine ⟨_, rfl, ?_⟩
  simp [isOpen, Dict.get?_update, hbody, Dict.ofList, Dict.get?_set, hop]

/-- What a turn comes to while the lane lasts. -/
theorem eval_turn (service : LiveEndpoint → ReadService) {op : ReadOperation} (hop : op.operation ≠ "lane.open")
    (hbody : op.body.get? "operation" = none)
    (hexpires : (s.heap ref).expiresAtMs = lane.expiresAtMs)
    (hmirror : (s.heap ref).mirrorFence endpoint = lane.mirrorFence endpoint)
    (hlasts : Lasts router lane s.readings 1) :
    ∃ s', eval (answerBy service)
        (do
          let mirrorFence ← router.ensureMirror ref endpoint
          let current ← ReadLaneRouter.lane ref
          let readRequest ← sync (router.readRequest op current mirrorFence)
          ReadLaneRouter.request ref endpoint readRequest) s =
        (turn router lane service endpoint, s') ∧ TurnFrame ref endpoint s s' := by
  obtain ⟨s₁, hmirrored, hframe⟩ := eval_ensureMirror service hexpires hmirror hlasts
  rw [eval_bind, hmirrored]
  unfold turn
  cases mirror router lane service endpoint with
  | error err => exact ⟨s₁, rfl, hframe⟩
  | ok fence =>
    obtain ⟨request, hrequest, hread⟩ :=
      readRequest_isOpen router (s₁.heap ref) s₁ hop hbody fence
    obtain ⟨s₂, hsent, hheap, hreadings⟩ := eval_request service ref endpoint
      { s₁ with drawn := s₁.drawn + 1 } request
    dsimp only
    rw [eval_bind, eval_lane]
    dsimp only
    rw [eval_bind, eval_sync, hrequest]
    dsimp only
    rw [hsent, hread]
    refine ⟨s₂, rfl, ?_, fun other hother => ?_, ?_⟩
    · rw [hheap]
      exact hframe.expiresAtMs
    · rw [hheap]
      exact hframe.mirrorFence other hother
    · rw [hreadings]
      exact hframe.readings

/-- What the loop comes to while the lane lasts. -/
theorem eval_readFirst {op : ReadOperation} (hop : op.operation ≠ "lane.open")
    (hbody : op.body.get? "operation" = none) {endpoints : List LiveEndpoint}
    (hunique : (endpoints.map (·.config.endpointId)).Nodup)
    (hexpires : (s.heap ref).expiresAtMs = lane.expiresAtMs)
    (hmirrors : ∀ endpoint ∈ endpoints,
      (s.heap ref).mirrorFence endpoint = lane.mirrorFence endpoint)
    (hlasts : Lasts router lane s.readings endpoints.length) (lastError : Option PyError) :
    (eval (answerBy service) (router.readFirst ref op endpoints lastError) s).1 =
      firstServed router lane service op.noEndpoint endpoints lastError := by
  induction endpoints generalizing s lastError with
  | nil => rfl
  | cons endpoint rest ih =>
    rw [List.map_cons, List.nodup_cons] at hunique
    rw [List.length_cons] at hlasts
    obtain ⟨s', hturn, hframe⟩ := eval_turn service hop hbody hexpires
      (hmirrors endpoint List.mem_cons_self) fun n hn hlt => hlasts n hn (by omega)
    rw [ReadLaneRouter.readFirst, eval_tryCatch, hturn, firstServed]
    cases turn router lane service endpoint with
    | ok response => rfl
    | error exc =>
      dsimp only
      by_cases hclosed : exc.cls = .streamClosed
      · rw [if_pos hclosed, if_pos hclosed]
        -- the mirrors of the endpoints that are left are as they were
        refine ih hunique.2 (hframe.expiresAtMs.trans hexpires) (fun other hother => ?_) ?_ _
        · have hne : other.config.endpointId ≠ endpoint.config.endpointId := by
            intro heq
            exact hunique.1 (heq ▸ List.mem_map_of_mem hother)
          rw [hframe.mirrorFence other hne]
          exact hmirrors other (List.mem_cons_of_mem _ hother)
        · intro n hn hlt
          obtain ⟨hlow, hhigh⟩ := hframe.readings
          exact hlasts n (by omega) (by omega)
      · rw [if_neg hclosed, if_neg hclosed]
        rfl

/-- The response of the loop is that of the first endpoint that does not lose a request. -/
theorem firstServed_eq_ok_iff {noEndpoint : String} {endpoints : List LiveEndpoint}
    {lastError : Option PyError} {response : Response} :
    firstServed router lane service noEndpoint endpoints lastError = .ok response ↔
      ∃ before endpoint after, endpoints = before ++ endpoint :: after ∧
        (∀ other ∈ before, Loses lane service other) ∧
        Accepts lane service endpoint response := by
  induction endpoints generalizing lastError with
  | nil => simp [firstServed]
  | cons first rest ih =>
    rw [firstServed]
    constructor
    · intro h
      cases hturn : turn router lane service first with
      | ok response' =>
        rw [hturn] at h
        obtain rfl : response' = response := Except.ok.inj h
        exact ⟨[], first, rest, rfl, by simp, turn_eq_ok_iff.mp hturn⟩
      | error exc =>
        rw [hturn] at h
        dsimp only at h
        split_ifs at h with hclosed
        obtain ⟨before, endpoint, after, rfl, hloses, haccepts⟩ := ih.mp h
        have hfirst : Loses lane service first := turn_streamClosed_iff.mp ⟨exc, hturn, hclosed⟩
        exact ⟨first :: before, endpoint, after, rfl,
          List.forall_mem_cons.mpr ⟨hfirst, hloses⟩, haccepts⟩
    · rintro ⟨before, endpoint, after, hsplit, hloses, haccepts⟩
      cases before with
      | nil =>
        obtain ⟨rfl, rfl⟩ := List.cons_eq_cons.mp hsplit
        rw [turn_eq_ok_iff.mpr haccepts]
      | cons head before =>
        obtain ⟨rfl, rfl⟩ := List.cons_eq_cons.mp hsplit
        obtain ⟨hfirst, hrest⟩ := List.forall_mem_cons.mp hloses
        obtain ⟨exc, hturn, hclosed⟩ := turn_streamClosed_iff.mpr hfirst
        rw [hturn]
        dsimp only
        rw [if_pos hclosed]
        exact ih.mpr ⟨before, endpoint, after, rfl, hrest, haccepts⟩

end Loop

/-! ## Calls -/

/-- The lane and the operation of a call that reads. -/
def ReadLaneCall.readOf : ReadLaneCall → Option (String × ℤ × ReadOperation)
  | readText laneId fencingToken path encoding =>
    some (laneId, fencingToken, .text path encoding)
  | readBytes laneId fencingToken path offset maxBytes expectedFileVersion =>
    some (laneId, fencingToken, .bytes path offset maxBytes expectedFileVersion)
  | readOperation operation laneId fencingToken body =>
    if operation ∈ ["fs.stat", "fs.list_dir", "fs.search", "fs.search_content"] then
      some (laneId, fencingToken, .other operation body)
    else none
  | _ => none

/-- A read sends its operation, and no `lane.open`. -/
theorem ReadLaneCall.run_eq_mirroredRead {call : ReadLaneCall} (hplain : call.PlainBody)
    {laneId : String} {fencingToken : ℤ} {op : ReadOperation}
    (hcall : call.readOf = some (laneId, fencingToken, op)) (router : ReadLaneRouter) (task : ℕ) :
    call.run router task = router.mirroredRead task laneId fencingToken op ∧
      op.operation ≠ "lane.open" ∧ op.body.get? "operation" = none := by
  cases call with
  | openLane args => cases hcall
  | renew laneId' fencingToken' ttlS => cases hcall
  | close laneId' fencingToken' => cases hcall
  | readText laneId' fencingToken' path encoding =>
    cases hcall
    exact ⟨rfl, by simp [ReadOperation.text], by simp [ReadOperation.text, Dict.ofList,
      Dict.get?_set]⟩
  | readBytes laneId' fencingToken' path offset maxBytes expectedFileVersion =>
    cases hcall
    exact ⟨rfl, by simp [ReadOperation.bytes], by simp [ReadOperation.bytes, Dict.ofList,
      Dict.get?_set]⟩
  | readOperation operation laneId' fencingToken' body =>
    rw [readOf] at hcall
    split_ifs at hcall with hsupported
    cases hcall
    refine ⟨?_, ?_, hplain.2.2⟩
    · rw [run, ReadLaneRouter.callReadOperation, if_neg (not_not.mpr hsupported)]
    · rintro rfl
      simp at hsupported

/-- The endpoints that a read goes along when it is called in `s`. The clock has been read twice
before, by `_require`. -/
def ReadLaneRouter.startingEndpoints (router : ReadLaneRouter) (s : ReadLaneState) :
    Except PyError (List LiveEndpoint) :=
  orderCurrent (router.nowMs (s.readings + 2)) router.maxPathAgeMs s.live.length s.live

section Read

variable {router : ReadLaneRouter} {service : LiveEndpoint → ReadService} {s : ReadLaneState}
  {laneId : String} {ref : ℕ}

theorem require_open (hlane : s.lanes.get? laneId = some ref)
    (hlasts : router.nowMs s.readings < (s.heap ref).expiresAtMs) :
    router.require laneId (s.heap ref).fencingToken s =
      (.ok ref, { s with readings := s.readings + 1 }) := by
  unfold ReadLaneRouter.require
  simp only [hlane, ne_eq, not_true_eq_false, if_false]
  exact if_neg (not_le.mpr hlasts)

theorem admitCall_open (router : ReadLaneRouter) (call : LaneCall) (hlane : s.lanes.get? laneId = some ref)
    (hlasts : router.nowMs s.readings < (s.heap ref).expiresAtMs) :
    ∃ s', router.admitCall call laneId (s.heap ref).fencingToken s = (.ok ref, s') ∧
      s'.heap = s.heap ∧ s'.live = s.live ∧ s'.readings = s.readings + 1 := by
  refine ⟨{ s with readings := s.readings + 1 }.note
    (.admitted call laneId (s.heap ref).fencingToken (router.nowMs s.readings) ref), ?_, rfl, rfl,
    rfl⟩
  rw [ReadLaneRouter.admitCall, require_open hlane hlasts]

/-- `async with lane.lock` where the lock is free. -/
theorem eval_withLock_fst {α : Type} (task : ℕ) (body : ReadLaneTask α) :
    (eval (answerBy service) (ReadLaneRouter.withLock task ref body) s).1 =
      (eval (answerBy service) body
        (s.modifyLane ref ({ · with lockedBy := some task }))).1 := by
  rw [ReadLaneRouter.withLock, eval_bind, eval_answer]
  dsimp only [answerBy]
  rw [eval_bind, eval_ofResult]
  dsimp only
  rw [eval_bind, eval_update]
  dsimp only
  rw [eval_bind, eval_tryCatch]
  cases eval (answerBy service) body (s.modifyLane ref ({ · with lockedBy := some task })) with
  | mk result s' => cases result <;> rfl

/-- What a read of a lane comes to that is open and lasts. -/
theorem eval_mirroredRead (hlane : s.lanes.get? laneId = some ref)
    (hlasts : Lasts router (s.heap ref) s.readings (s.live.length + 3))
    (hunique : (s.live.map (·.config.endpointId)).Nodup) {current : List LiveEndpoint}
    (hcurrent : router.startingEndpoints s = .ok current) {op : ReadOperation}
    (hop : op.operation ≠ "lane.open") (hbody : op.body.get? "operation" = none) (task : ℕ) :
    (eval (answerBy service)
        (router.mirroredRead task laneId (s.heap ref).fencingToken op) s).1 =
      firstServed router (s.heap ref) service op.noEndpoint current none := by
  have hclock : ∀ n, s.readings ≤ n → n < s.readings + (s.live.length + 3) →
      router.nowMs n < (s.heap ref).expiresAtMs := fun n hn hlt => by
    have hleft := (hlasts n hn hlt).1
    omega
  -- the lane as it is under the lock
  generalize hlocked : ({ s with readings := s.readings + 1 } : ReadLaneState).modifyLane ref
    ({ · with lockedBy := some task }) = locked
  have hheap : locked.heap ref = { s.heap ref with lockedBy := some task } := by
    rw [← hlocked, heap_modifyLane, if_pos rfl]
  have hlane' : locked.lanes.get? laneId = some ref := hlocked ▸ hlane
  have hlive : locked.live = s.live := hlocked ▸ rfl
  have hreadings : locked.readings = s.readings + 1 := hlocked ▸ rfl
  obtain ⟨s', hadmitted, hheap', hlive', hreadings'⟩ := admitCall_open router .read hlane'
    (by rw [hheap, hreadings]; exact hclock _ (by omega) (by omega))
  have hordered : router.orderedCurrentEndpoints s' =
      (.ok current, { s' with readings := s'.readings + 1 }) := by
    have hcurrent' : orderCurrent (router.nowMs s'.readings) router.maxPathAgeMs s'.live.length
        s'.live = .ok current := by
      rw [hlive', hlive, hreadings', hreadings]
      exact hcurrent
    rw [← hcurrent']
    rfl
  have hsub := subperm_of_orderCurrent hcurrent
  rw [ReadLaneRouter.mirroredRead, eval_bind, eval_sync,
    require_open hlane (hclock _ (by omega) (by omega))]
  dsimp only
  rw [eval_withLock_fst, hlocked, eval_bind, eval_sync]
  rw [hheap] at hadmitted
  rw [hadmitted]
  dsimp only
  rw [eval_bind, eval_sync, hordered]
  dsimp only
  refine eval_readFirst hop hbody ?_ ?_ ?_ ?_ none
  · obtain ⟨sub, hperm, hsublist⟩ := hsub
    exact (hperm.map (·.config.endpointId)).nodup_iff.mp ((hsublist.map _).nodup hunique)
  · change (s'.heap ref).expiresAtMs = _
    rw [hheap', hheap]
  · intro endpoint _
    change (s'.heap ref).mirrorFence endpoint = _
    rw [hheap', hheap]
    rfl
  · intro n hn hlt
    have hlength := hsub.length_le
    dsimp only at hn hlt
    exact hlasts n (by omega) (by omega)

end Read

/-- The first element of a list with a property. -/
private theorem exists_first {α : Type} {p : α → Prop} {l : List α} (h : ∃ a ∈ l, p a) :
    ∃ before a after, l = before ++ a :: after ∧ p a ∧ ∀ b ∈ before, ¬p b := by
  classical
  obtain ⟨a, ha⟩ := Option.isSome_iff_exists.mp
    (List.find?_isSome.mpr (by simpa using h) : (l.find? fun a => decide (p a)).isSome)
  obtain ⟨hp, before, after, hsplit, hbefore⟩ := List.find?_eq_some_iff_append.mp ha
  exact ⟨before, a, after, hsplit, of_decide_eq_true hp, fun b hb => by simpa using hbefore b hb⟩

/-- A read of an open lane is served whenever some endpoint that is current when it starts can serve
it, if and only if every endpoint before the first that can loses a request in transport: there must
be none that rejects the mirror's `lane.open`, or fails in another way. -/
theorem mirroredRead_available_iff (router : ReadLaneRouter)
    (service : LiveEndpoint → ReadService) {s : ReadLaneState} {task : ℕ} {call : ReadLaneCall}
    {laneId : String} {fencingToken : ℤ} {op : ReadOperation}
    (hcall : call.readOf = some (laneId, fencingToken, op)) (hplain : call.PlainBody)
    {ref : ℕ} (hlane : s.lanes.get? laneId = some ref)
    (hfence : (s.heap ref).fencingToken = fencingToken)
    (hlasts : Lasts router (s.heap ref) s.readings (s.live.length + 3))
    (hunique : (s.live.map (·.config.endpointId)).Nodup) {current : List LiveEndpoint}
    (hcurrent : router.startingEndpoints s = .ok current) :
    ((∃ endpoint ∈ current, ∃ response, Accepts (s.heap ref) service endpoint response) →
      ∃ endpoint ∈ current, ∃ response, Accepts (s.heap ref) service endpoint response ∧
        (eval (answerBy service) (call.run router task) s).1 = .ok response) ↔
    ∀ before endpoint after, current = before ++ endpoint :: after →
      (∃ response, Accepts (s.heap ref) service endpoint response) →
      (∀ other ∈ before, ∀ response, ¬Accepts (s.heap ref) service other response) →
      ∀ other ∈ before, Loses (s.heap ref) service other := by
  subst hfence
  obtain ⟨hrun, hop, hbody⟩ := call.run_eq_mirroredRead hplain hcall router task
  rw [hrun, eval_mirroredRead hlane hlasts hunique hcurrent hop hbody]
  constructor
  · rintro havailable before endpoint after hsplit haccepts hbefore
    obtain ⟨-, -, response, -, hserved⟩ :=
      havailable ⟨endpoint, hsplit ▸ List.mem_append_right _ List.mem_cons_self, haccepts⟩
    obtain ⟨before', endpoint', after', hsplit', hloses, haccepts'⟩ :=
      firstServed_eq_ok_iff.mp hserved
    rcases List.append_eq_append_iff.mp (hsplit.symm.trans hsplit') with
      ⟨more, rfl, -⟩ | ⟨more, rfl, hmore⟩
    · exact fun other hother => hloses other (List.mem_append_left _ hother)
    · -- the endpoint that serves the read does not come before the first that accepts
      cases more with
      | nil => simpa using hloses
      | cons head more =>
        obtain ⟨rfl, -⟩ := List.cons_eq_cons.mp hmore
        exact absurd haccepts' (hbefore endpoint' (by simp) response)
  · rintro hcondition ⟨endpoint, hmem, haccepts⟩
    obtain ⟨before, first, after, hsplit, ⟨response, hfirst⟩, hbefore⟩ := exists_first
      (p := fun item => ∃ response, Accepts (s.heap ref) service item response)
      ⟨endpoint, hmem, haccepts⟩
    have hloses := hcondition before first after hsplit ⟨response, hfirst⟩
      fun other hother response' h => hbefore other hother ⟨response', h⟩
    exact ⟨first, hsplit ▸ List.mem_append_right _ List.mem_cons_self, response, hfirst,
      firstServed_eq_ok_iff.mpr ⟨before, first, after, hsplit, hloses, hfirst⟩⟩

/-- The lane of `exampleOpenLane` was opened at the edge, and the direct endpoint came after. -/
def exampleFailover : ReadLaneState :=
  { exampleRun exampleReply 0 (.init [edgeEndpoint "e"]) [exampleOpenLane] with
    live := [directEndpoint "d", edgeEndpoint "e"] }

/-- The edge serves everything. The direct endpoint does `opens` with a `lane.open`. -/
def exampleService (opens : Except PyError Response) (endpoint : LiveEndpoint) : ReadService :=
  if endpoint.config.endpointId = "direct" then ⟨opens, .error ⟨.streamClosed, ""⟩⟩
  else ⟨.ok (.ofList [("ok", .bool true)]), .ok (.ofList [("ok", .bool true)])⟩

/-- An endpoint that serves the read comes after one that is lost. -/
theorem mirroredRead_available_iff_exampleFailover :
    ∃ endpoint ∈ [directEndpoint "d", edgeEndpoint "e"], ∃ response,
      Accepts (exampleFailover.heap 0) (exampleService (.error ⟨.streamClosed, ""⟩)) endpoint
          response ∧
        (eval (answerBy (exampleService (.error ⟨.streamClosed, ""⟩)))
          (exampleReadText.run exampleRouter 1) exampleFailover).1 = .ok response := by
  have hlasts : Lasts exampleRouter (exampleFailover.heap 0) exampleFailover.readings
      (exampleFailover.live.length + 3) := by
    intro n _ _
    change 0 < (exampleFailover.heap 0).expiresAtMs - 1000 ∧ ∃ ttl,
      exampleRouter.rt.float (.int ((exampleFailover.heap 0).expiresAtMs - 1000)) = .ok ttl
    exact ⟨by decide +kernel, 60000, by decide +kernel⟩
  have hedge : Accepts (exampleFailover.heap 0) (exampleService (.error ⟨.streamClosed, ""⟩))
      (edgeEndpoint "e") (.ofList [("ok", .bool true)]) :=
    ⟨Or.inl (by decide +kernel), rfl⟩
  have hcurrent : exampleRouter.startingEndpoints exampleFailover =
      .ok [directEndpoint "d", edgeEndpoint "e"] := by decide +kernel
  have hlane : exampleFailover.lanes.get? "lane" = some 0 := by decide +kernel
  have hread : exampleReadText.readOf = some ("lane", 2 ^ 32 + 1, .text "/srv/a" "utf-8") := rfl
  refine (mirroredRead_available_iff exampleRouter _ hread trivial hlane (by decide +kernel) hlasts
    (by decide +kernel) hcurrent).mpr (fun before endpoint after hsplit _ hbefore other hother => ?_)
    ⟨edgeEndpoint "e", by simp, _, hedge⟩
  have hmem : other ∈ [directEndpoint "d", edgeEndpoint "e"] :=
    hsplit ▸ List.mem_append_left _ hother
  rcases List.mem_pair.mp hmem with rfl | rfl
  · exact Or.inl ⟨by decide +kernel, _, rfl, Or.inl rfl⟩
  · exact absurd hedge (hbefore _ hother _)

/-- The direct endpoint rejects the mirror's `lane.open`, and the read fails, although the edge
would serve it. -/
theorem mirroredRead_unavailable :
    exampleRouter.startingEndpoints exampleFailover =
        .ok [directEndpoint "d", edgeEndpoint "e"] ∧
      Accepts (exampleFailover.heap 0) (exampleService (.ok (.ofList [("ok", .bool false)])))
        (edgeEndpoint "e") (.ofList [("ok", .bool true)]) ∧
      ∀ response, (eval (answerBy (exampleService (.ok (.ofList [("ok", .bool false)]))))
        (exampleReadText.run exampleRouter 1) exampleFailover).1 ≠ .ok response := by
  refine ⟨by decide +kernel, ⟨Or.inl (by decide +kernel), rfl⟩, fun response h => ?_⟩
  have hfails : ((eval (answerBy (exampleService (.ok (.ofList [("ok", .bool false)]))))
      (exampleReadText.run exampleRouter 1) exampleFailover).1).isOk = false := by decide +kernel
  rw [h] at hfails
  cases hfails

end VeraMesh
