import VeraMesh.Controller.Pool

/-!
# Ambiguous deliveries

When `HotSessionPool.request` reports a mutation that some channel was handed, and that brought no
response, as `AmbiguousDelivery`.

`mutationOrder` is the order in which the endpoints are tried as long as each loses its transport.
It depends on the pool and the clock alone. The first endpoint in it that keeps its transport
decides the outcome. `AmbiguityProtected` says that this endpoint answers or, if there is none, that
every durable sibling of the first endpoint has been tried. `ambiguityReported_iff` is the result:
a lost mutation is reported as ambiguous exactly under this condition.
-/

namespace VeraMesh

open Python

namespace HotSessionPool

variable {call : Call} {requestId operation : String} {candidates remaining : List SessionEndpoint}
  {channel : SessionEndpoint → Except PyError Response} {s s' : RetryState}

/-- If the answer is an exception, it is `AmbiguousDelivery`. -/
def OnlyAmbiguous : Except PyError Response → Prop
  | .ok _ => True
  | .error e => e.cls = .ambiguousDelivery

instance : DecidablePred OnlyAmbiguous
  | .ok _ => inferInstanceAs (Decidable True)
  | .error e => inferInstanceAs (Decidable (e.cls = .ambiguousDelivery))

@[simp]
theorem onlyAmbiguous_error {e : PyError} :
    OnlyAmbiguous (.error e) ↔ e.cls = .ambiguousDelivery := Iff.rfl

/-- If some channel was handed the request and there is no response, the error is
`AmbiguousDelivery`. -/
def AmbiguityReported (delivery : Delivery) : Prop :=
  delivery.attempted ≠ [] → OnlyAmbiguous delivery.result

instance : DecidablePred AmbiguityReported := fun delivery =>
  inferInstanceAs (Decidable (delivery.attempted ≠ [] → OnlyAmbiguous delivery.result))

/-- The channel's answer is a loss of transport: `StreamClosed` or a timeout. -/
def losesTransport (answer : Except PyError Response) : Bool :=
  match answer with
  | .ok _ => false
  | .error exc => exc.cls == .streamClosed || exc.cls == .timeoutError

/-- The endpoint that is chosen from `remaining`, if any. -/
def nextEndpoint (call : Call) (remaining : List SessionEndpoint) : Option SessionEndpoint :=
  match selectEndpoint call remaining with
  | .ok endpoint => endpoint
  | .error _ => none

theorem mem_of_nextEndpoint {endpoint : SessionEndpoint}
    (h : nextEndpoint call remaining = some endpoint) : endpoint ∈ remaining := by
  unfold nextEndpoint at h
  split at h
  next hsel => exact mem_of_selectEndpoint (h ▸ hsel)
  next => cases h

/-- The other endpoints, by id. -/
def without (remaining : List SessionEndpoint) (endpoint : SessionEndpoint) :
    List SessionEndpoint :=
  remaining.filter fun item => !(endpoint.endpointId == item.endpointId)

theorem length_without_lt {endpoint : SessionEndpoint} (h : endpoint ∈ remaining) :
    (without remaining endpoint).length < remaining.length :=
  List.length_filter_lt_length_iff_exists.mpr ⟨endpoint, h, by simp⟩

/-- The endpoints in the order in which they are chosen from `remaining`, each dropped before the
next choice. -/
def failoverOrder (call : Call) (remaining : List SessionEndpoint) : List SessionEndpoint :=
  match _h : nextEndpoint call remaining with
  | none => []
  | some endpoint => endpoint :: failoverOrder call (without remaining endpoint)
termination_by remaining.length
decreasing_by exact length_without_lt (mem_of_nextEndpoint _h)

/-- The other durable endpoints of an endpoint's session. -/
def siblings (candidates : List SessionEndpoint) (endpoint : SessionEndpoint) :
    List SessionEndpoint :=
  (without candidates endpoint).filter fun item =>
    item.binding.sessionId == endpoint.binding.sessionId && item.durableIdempotency

/-- The endpoints that a mutation is handed to if each of them loses its transport. -/
def mutationOrder (call : Call) (candidates : List SessionEndpoint) : List SessionEndpoint :=
  match nextEndpoint call candidates with
  | none => []
  | some first =>
    first :: if first.durableIdempotency then failoverOrder call (siblings candidates first) else []

/-- The first endpoint of `order` that keeps its transport answers. If there is none, every
endpoint of `targets` has been tried. -/
def DecidedBy (channel : SessionEndpoint → Except PyError Response)
    (order targets : List SessionEndpoint) : Prop :=
  match order.find? fun endpoint => !losesTransport (channel endpoint) with
  | some endpoint => OnlyAmbiguous (channel endpoint)
  | none => ∀ item ∈ targets, ∃ tried ∈ order, tried.endpointId = item.endpointId

instance (order targets : List SessionEndpoint) : Decidable (DecidedBy channel order targets) :=
  match h : order.find? fun endpoint => !losesTransport (channel endpoint) with
  | some endpoint => decidable_of_iff (OnlyAmbiguous (channel endpoint)) (by simp [DecidedBy, h])
  | none =>
    decidable_of_iff (∀ item ∈ targets, ∃ tried ∈ order, tried.endpointId = item.endpointId)
      (by simp [DecidedBy, h])

/-- The mutation's outcome is decided by an endpoint that answers, or all endpoints tried lost
their transport and no durable sibling of the first is left untried. -/
def AmbiguityProtected (call : Call) (channel : SessionEndpoint → Except PyError Response)
    (candidates : List SessionEndpoint) : Prop :=
  DecidedBy channel (mutationOrder call candidates)
    (match nextEndpoint call candidates with
      | some first => if first.durableIdempotency then siblings candidates first else []
      | none => [])

instance : Decidable (AmbiguityProtected call channel candidates) :=
  inferInstanceAs (Decidable (DecidedBy ..))

/-! ## The loop follows the order -/

theorem transportError_eq_none_iff {endpoint : SessionEndpoint} {exc : PyError} :
    transportError requestId endpoint exc = none ↔
      losesTransport (.error exc : Except PyError Response) = false := by
  obtain ⟨cls, message⟩ := exc
  cases cls <;> simp [transportError, losesTransport]

theorem cls_of_transportError {endpoint : SessionEndpoint} {exc lost : PyError}
    (h : transportError requestId endpoint exc = some lost) : lost.cls = .streamClosed := by
  unfold transportError at h
  split at h
  next hcls => exact Option.some.inj h ▸ hcls
  next => exact Option.some.inj h ▸ rfl
  next => cases h

theorem cls_of_selectEndpoint {e : PyError} (h : selectEndpoint call remaining = .error e) :
    e.cls = .valueError := by
  unfold selectEndpoint at h
  split at h
  next e' hselect =>
    unfold selectPath at hselect
    split_ifs at hselect
    cases h
    cases hselect
    rfl
  next => cases h

/-- An endpoint that keeps its transport ends the loop with its answer. -/
theorem turn_of_kept {endpoint : SessionEndpoint}
    (hsel : selectEndpoint call (s.remaining candidates) = .ok (some endpoint))
    (hkept : losesTransport (channel endpoint) = false) :
    turn call requestId operation candidates channel s =
      .done ⟨s.attempted ++ [endpoint], channel endpoint⟩ := by
  unfold turn
  simp only [hsel]
  cases hchannel : channel endpoint with
  | ok response => rfl
  | error exc =>
    rw [hchannel] at hkept
    simp only [transportError_eq_none_iff.mpr hkept]

/-- The state after `endpoint` has lost its transport, seen from what it leaves to retry on. -/
def RetryState.lose (s : RetryState) (endpoint : SessionEndpoint) (lost : PyError) : RetryState :=
  ⟨s.attempted ++ [endpoint], some lost, some endpoint.binding.sessionId⟩

/-- A mutation whose endpoint loses its transport is ambiguous or is retried on the endpoints of
the session that are left. -/
theorem turn_of_lost (requestId : String) (hmut : operation ∈ mutatingOperations) {endpoint : SessionEndpoint}
    (hsel : selectEndpoint call (s.remaining candidates) = .ok (some endpoint))
    (hlost : losesTransport (channel endpoint) = true) :
    ∃ lost, lost.cls = .streamClosed ∧ turn call requestId operation candidates channel s =
      if endpoint.durableIdempotency = false then
        .done ⟨s.attempted ++ [endpoint], .error (ambiguousWithoutLedger requestId)⟩
      else if (s.lose endpoint lost).remaining candidates = [] then
        .done ⟨s.attempted ++ [endpoint], .error (ambiguousWithoutPath requestId)⟩
      else .again (s.lose endpoint lost) := by
  unfold turn
  simp only [hsel]
  cases hchannel : channel endpoint with
  | ok response => simp [hchannel, losesTransport] at hlost
  | error exc =>
    rw [hchannel] at hlost
    cases htransport : transportError requestId endpoint exc with
    | none =>
      rw [transportError_eq_none_iff, hlost] at htransport
      cases htransport
    | some lost =>
      refine ⟨lost, cls_of_transportError htransport, ?_⟩
      simp only [hmut, if_true, Bool.not_eq_true', List.isEmpty_iff, htransport]
      rfl

/-- The loop only adds to the endpoints tried. -/
theorem attempted_requestLoop (s : RetryState) :
    s.attempted <+: (requestLoop call requestId operation candidates channel s).attempted := by
  induction s using requestLoop.induct call requestId operation candidates channel with
  | case1 s delivery hturn =>
    rw [requestLoop_of_done hturn]
    rcases turn_done hturn with heq | ⟨endpoint, -, heq⟩
    · rw [heq]
    · exact heq ▸ List.prefix_append s.attempted [endpoint]
  | case2 s s' hturn ih =>
    obtain ⟨endpoint, -, -, -, -, -, hattempted, -⟩ := turn_again hturn
    rw [requestLoop_of_again hturn]
    exact (hattempted ▸ List.prefix_append s.attempted [endpoint]).trans ih

/-! ## The condition -/

@[simp]
theorem decidedBy_nil {targets : List SessionEndpoint} :
    DecidedBy channel [] targets ↔ targets = [] := by
  simp [DecidedBy, List.eq_nil_iff_forall_not_mem]

theorem decidedBy_cons_of_kept {endpoint : SessionEndpoint} {order targets : List SessionEndpoint}
    (hkept : losesTransport (channel endpoint) = false) :
    DecidedBy channel (endpoint :: order) targets ↔ OnlyAmbiguous (channel endpoint) := by
  simp [DecidedBy, hkept]

theorem decidedBy_cons_of_lost {endpoint : SessionEndpoint} {order targets : List SessionEndpoint}
    (hlost : losesTransport (channel endpoint) = true) :
    DecidedBy channel (endpoint :: order) targets ↔
      DecidedBy channel order (without targets endpoint) := by
  unfold DecidedBy
  rw [List.find?_cons_of_neg (by simp [hlost])]
  split
  · rfl
  · simp only [without, List.mem_filter, List.exists_mem_cons_iff, Bool.not_eq_true',
      beq_eq_false_iff_ne, ne_eq, and_imp]
    exact forall₂_congr fun item _ => by tauto

/-! ## The loop follows the order -/

/-- The retry is bound to one session, with endpoints left and a lost transport on record. -/
structure Retrying (candidates : List SessionEndpoint) (s : RetryState) : Prop where
  session : ∃ sessionId, s.mutationRetrySessionId = some sessionId
  left : s.remaining candidates ≠ []
  lost : ∃ e, s.lastError = some e ∧ e.cls = .streamClosed

theorem tried_lose {endpoint item : SessionEndpoint} {lost : PyError} :
    (s.lose endpoint lost).tried item =
      (s.tried item || endpoint.endpointId == item.endpointId) := by
  simp [RetryState.tried, RetryState.lose]

/-- In a retry the endpoints left are those left before but the one just tried. -/
theorem remaining_lose_of_retrying {endpoint : SessionEndpoint} (lost : PyError)
    (hs : Retrying candidates s) (hmem : endpoint ∈ s.remaining candidates) :
    endpoint.durableIdempotency = true ∧
      (s.lose endpoint lost).remaining candidates = without (s.remaining candidates) endpoint := by
  obtain ⟨sessionId, hsession⟩ := hs.session
  have hkeep : ∀ item, item ∈ s.remaining candidates ↔ item ∈ candidates ∧ s.tried item = false ∧
      item.binding.sessionId = sessionId ∧ item.durableIdempotency = true := by
    intro item
    simp [RetryState.remaining, hsession]
  obtain ⟨-, -, hid, hdurable⟩ := (hkeep endpoint).mp hmem
  refine ⟨hdurable, ?_⟩
  rw [without, RetryState.remaining, RetryState.remaining, List.filter_filter]
  refine List.filter_congr fun item _ => ?_
  rw [tried_lose, hsession]
  simp only [RetryState.lose, hid]
  cases s.tried item <;> cases endpoint.endpointId == item.endpointId <;> simp

/-- After the first endpoint of a mutation has lost its transport, its siblings are left. -/
theorem remaining_lose_first {endpoint : SessionEndpoint} {lost : PyError} :
    (RetryState.init.lose endpoint lost).remaining candidates =
      siblings candidates endpoint := by
  rw [siblings, without, RetryState.remaining, List.filter_filter]
  refine List.filter_congr fun item _ => ?_
  rw [tried_lose]
  simp only [RetryState.lose, RetryState.tried, RetryState.attempted_init, List.any_nil,
    Bool.false_or]
  rw [Bool.and_comm]

theorem failoverOrder_of_none (h : nextEndpoint call remaining = none) :
    failoverOrder call remaining = [] := by
  rw [failoverOrder]
  split
  · rfl
  next hsome => cases hsome.symm.trans h

@[simp]
theorem failoverOrder_nil : failoverOrder call [] = [] :=
  failoverOrder_of_none (Option.eq_none_iff_forall_ne_some.mpr fun _ h =>
    List.not_mem_nil (mem_of_nextEndpoint h))

theorem failoverOrder_of_some {endpoint : SessionEndpoint}
    (h : nextEndpoint call remaining = some endpoint) :
    failoverOrder call remaining =
      endpoint :: failoverOrder call (without remaining endpoint) := by
  rw [failoverOrder]
  split
  next hnone => cases hnone.symm.trans h
  next e he => rw [Option.some.inj (he.symm.trans h)]

/-- A retried mutation goes through the endpoints left in failover order. -/
theorem requestLoop_of_retrying (hmut : operation ∈ mutatingOperations)
    (hs : Retrying candidates s) :
    OnlyAmbiguous (requestLoop call requestId operation candidates channel s).result ↔
      DecidedBy channel (failoverOrder call (s.remaining candidates)) (s.remaining candidates) := by
  -- induction on the number of endpoints left
  induction hn : (s.remaining candidates).length using Nat.strong_induction_on generalizing s with
  | _ n ih =>
    cases hsel : selectEndpoint call (s.remaining candidates) with
    | error e =>
      have hturn : turn call requestId operation candidates channel s =
          .done ⟨s.attempted, .error e⟩ := by simp [turn, hsel]
      have hnext : nextEndpoint call (s.remaining candidates) = none := by
        simp [nextEndpoint, hsel]
      rw [requestLoop_of_done hturn, failoverOrder_of_none hnext, decidedBy_nil]
      simp [cls_of_selectEndpoint hsel, hs.left]
    | ok chosen =>
      cases chosen with
      | none =>
        obtain ⟨e, hlast, hcls⟩ := hs.lost
        have hturn : turn call requestId operation candidates channel s =
            .done ⟨s.attempted, .error e⟩ := by simp [turn, hsel, hlast]
        have hnext : nextEndpoint call (s.remaining candidates) = none := by
          simp [nextEndpoint, hsel]
        rw [requestLoop_of_done hturn, failoverOrder_of_none hnext, decidedBy_nil]
        simp [hcls, hs.left]
      | some endpoint =>
        have hmem := mem_of_selectEndpoint hsel
        have hnext : nextEndpoint call (s.remaining candidates) = some endpoint := by
          simp [nextEndpoint, hsel]
        rw [failoverOrder_of_some hnext]
        cases hkept : losesTransport (channel endpoint) with
        | false =>
          rw [requestLoop_of_done (turn_of_kept hsel hkept), decidedBy_cons_of_kept hkept]
        | true =>
          obtain ⟨lost, hlost, hturn⟩ := turn_of_lost requestId hmut hsel hkept
          obtain ⟨hdurable, hleft⟩ := remaining_lose_of_retrying lost hs hmem
          rw [if_neg (by simp [hdurable]), hleft] at hturn
          rw [decidedBy_cons_of_lost hkept]
          split_ifs at hturn with hempty
          · rw [requestLoop_of_done hturn, hempty, failoverOrder_nil, decidedBy_nil]
            exact iff_of_true rfl rfl
          · rw [requestLoop_of_again hturn, ← hleft]
            refine ih _ ?_ ⟨⟨_, rfl⟩, hleft ▸ hempty, lost, rfl, hlost⟩ rfl
            rw [hleft, ← hn]
            exact length_without_lt hmem

/-- A mutation that passed its checks is reported as ambiguous under the condition. -/
theorem ambiguityReported_requestLoop_iff (hmut : operation ∈ mutatingOperations) :
    AmbiguityReported
        (requestLoop call requestId operation candidates channel .init) ↔
      AmbiguityProtected call channel candidates := by
  have hall := RetryState.remaining_init candidates
  unfold AmbiguityProtected mutationOrder
  cases hsel : selectEndpoint call candidates with
  | error e =>
    have hturn : turn call requestId operation candidates channel .init =
        .done ⟨[], .error e⟩ := by simp [turn, hall, hsel]
    have hnext : nextEndpoint call candidates = none := by simp [nextEndpoint, hsel]
    simp [requestLoop_of_done hturn, hnext, AmbiguityReported]
  | ok chosen =>
    cases chosen with
    | none =>
      have hturn : turn call requestId operation candidates channel .init =
          .done ⟨[], .error ⟨.noCurrentPath, call.workstationPrincipal⟩⟩ := by
        simp [turn, hall, hsel]
      have hnext : nextEndpoint call candidates = none := by simp [nextEndpoint, hsel]
      simp [requestLoop_of_done hturn, hnext, AmbiguityReported]
    | some endpoint =>
      have hnext : nextEndpoint call candidates = some endpoint := by simp [nextEndpoint, hsel]
      rw [← hall] at hsel
      simp only [hnext]
      cases hkept : losesTransport (channel endpoint) with
      | false =>
        rw [requestLoop_of_done (turn_of_kept hsel hkept), decidedBy_cons_of_kept hkept]
        simp [AmbiguityReported]
      | true =>
        obtain ⟨lost, hlost, hturn⟩ := turn_of_lost requestId hmut hsel hkept
        rw [decidedBy_cons_of_lost hkept]
        rw [remaining_lose_first] at hturn
        split_ifs at hturn with hdurable hempty
        · rw [requestLoop_of_done hturn, hdurable]
          simp [AmbiguityReported, ambiguousWithoutLedger, without]
        · rw [requestLoop_of_done hturn, hempty]
          simp [AmbiguityReported, ambiguousWithoutPath, without]
        · have hretry : Retrying candidates (RetryState.init.lose endpoint lost) :=
            ⟨⟨_, rfl⟩, by rwa [remaining_lose_first], lost, rfl, hlost⟩
          have hloop : OnlyAmbiguous (requestLoop call requestId operation candidates channel
              (RetryState.init.lose endpoint lost)).result ↔ _ :=
            requestLoop_of_retrying hmut hretry
          have htried : (requestLoop call requestId operation candidates channel
              (RetryState.init.lose endpoint lost)).attempted ≠ [] :=
            (attempted_requestLoop _).ne_nil (List.cons_ne_nil endpoint [])
          have hsame : without (siblings candidates endpoint) endpoint =
              siblings candidates endpoint := by
            simp only [without, siblings, List.filter_filter]
            exact List.filter_congr fun item _ => by grind
          rw [requestLoop_of_again hturn, if_pos (by simpa using hdurable),
            if_pos (by simpa using hdurable), hsame]
          rw [remaining_lose_first] at hloop
          rw [← hloop, AmbiguityReported]
          exact ⟨fun h => h htried, fun h _ => h⟩

/-- **Ambiguous deliveries.** A mutation that some channel was handed without a response coming
back is reported as `AmbiguousDelivery` if and only if the checks of `request` refuse it, or the
endpoint that decides does not raise anything but a loss of transport, and where all endpoints lost
it, no durable sibling of the first is left that cannot be selected. -/
theorem ambiguityReported_iff (pool : HotSessionPool) (call : Call)
    (channel : SessionEndpoint → Except PyError Response)
    (hop : call.request.get? "operation" = some (.str operation))
    (hmut : operation ∈ mutatingOperations) :
    AmbiguityReported (pool.request call channel) ↔
      (∃ e, call.validate = .error e) ∨
        AmbiguityProtected call channel
          (pool.currentEndpoints call.workstationPrincipal call.controllerPrincipal call.nowMs) := by
  unfold request
  cases hvalid : call.validate with
  | error e => simp [AmbiguityReported]
  | ok names =>
    obtain ⟨requestId, operation'⟩ := names
    obtain rfl := validate_operation hvalid hop
    simpa using ambiguityReported_requestLoop_iff hmut

/-- A session of one controller with one workstation. -/
def exampleBinding : SessionBinding := ⟨"s", "controller:c", "workstation:w", {"fs.write"}, 9000⟩

/-- A direct path to the session and an edge path that was last observed at time `observedAtMs`,
both with a durable ledger behind them. -/
def examplePool (observedAtMs : ℕ) : HotSessionPool :=
  let direct : PathObservation := ⟨"p", .directStream, true, true, 5000, none, by decide,
    by decide, by simp⟩
  let edge : PathObservation := ⟨"q", .edgeStream, true, true, observedAtMs, none, by decide,
    by omega, by simp⟩
  ((HotSessionPool.mk .empty).register ⟨"direct", exampleBinding, direct, true, by decide,
    rfl⟩).register ⟨"edge", exampleBinding, edge, true, by decide, rfl⟩

/-- A write at time 5500, when paths last observed before 500 are stale. -/
def exampleCall : Call where
  workstationPrincipal := "workstation:w"
  controllerPrincipal := "controller:c"
  request := .ofList [("request_id", .str "r"), ("operation", .str "fs.write_text")]
  nowMs := 5500

/-- The direct path closes while its durable sibling is stale, or a malformed frame arrives on it:
the caller sees the `StreamClosed` or the `StreamProtocolError`. -/
theorem not_ambiguityReported_examplePool :
    ¬AmbiguityReported ((examplePool 100).request exampleCall fun _ =>
        .error ⟨.streamClosed, "stream closed"⟩) ∧
      ¬AmbiguityReported ((examplePool 5000).request exampleCall fun _ =>
        .error ⟨.streamProtocolError, "frame is not strict UTF-8 JSON"⟩) :=
  ⟨by decide +kernel, by decide +kernel⟩

theorem ambiguityReported_examplePool :
    AmbiguityReported ((examplePool 5000).request exampleCall fun _ =>
      .error ⟨.streamClosed, "stream closed"⟩) :=
  (@ambiguityReported_iff "fs.write_text" (examplePool 5000) exampleCall _ rfl (by decide)).mpr
    (Or.inr (by decide +kernel))

end HotSessionPool

end VeraMesh
