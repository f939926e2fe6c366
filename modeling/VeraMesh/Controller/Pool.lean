import VeraMesh.Controller.Synchrony
import VeraMesh.Session.Messages

/-!
# The hot-session pool

`HotSessionPool` of `controller.py`. `HotSessionPool.request` hands one request to the channel of
the selected endpoint and, when that channel loses its transport, to another endpoint. For a
mutating operation only an endpoint of the same session is tried, and only if both have a durable
idempotency ledger behind them.

One turn of the retry loop is `turn`. What the channels answer is the environment's choice: an
endpoint is given the request at most once, so it is a function of the endpoint.

* `turn_again_untried_lt`: every turn that goes on has used up an endpoint.
* `request_oneSession`: the channels that are handed a mutation all belong to one session.
-/

namespace VeraMesh

open Python

/-- `_MUTATING_OPERATIONS`. -/
def mutatingOperations : List String :=
  ["lane.open", "lane.renew", "lane.close", "fs.write_text", "fs.append_text", "fs.mkdir",
    "fs.move", "fs.replace_text", "process.exec", "process.start", "process.input",
    "process.terminate"]

/-- A current session as the controller sees it, with the checks of `__post_init__`. -/
structure SessionEndpoint where
  endpointId : String
  binding : SessionBinding
  path : PathObservation
  durableIdempotency : Bool
  endpointId_ne : endpointId ≠ "" := by decide
  path_authenticated : path.authenticated = true := by decide

instance : DecidableEq SessionEndpoint := fun a b =>
  decidable_of_iff (a.endpointId = b.endpointId ∧ a.binding = b.binding ∧ a.path = b.path ∧
    a.durableIdempotency = b.durableIdempotency) (by cases a; cases b; simp)

/-- The endpoints by route (workstation principal, controller principal) and endpoint id. -/
structure HotSessionPool where
  byRoute : Dict (String × String) (Dict String SessionEndpoint)

namespace HotSessionPool

/-- `_route_key`. -/
def routeKey (binding : SessionBinding) : String × String :=
  (binding.workstationPrincipal, binding.controllerPrincipal)

/-- `register`. -/
def register (pool : HotSessionPool) (endpoint : SessionEndpoint) : HotSessionPool :=
  let route := routeKey endpoint.binding
  let group := (pool.byRoute.get? route).getD .empty
  ⟨pool.byRoute.set route (group.set endpoint.endpointId endpoint)⟩

/-- `remove`. -/
def remove (pool : HotSessionPool) (workstationPrincipal controllerPrincipal endpointId : String) :
    HotSessionPool :=
  let route := (workstationPrincipal, controllerPrincipal)
  match pool.byRoute.get? route with
  | none => pool
  | some group =>
    let group := group.erase endpointId
    if group.size = 0 then ⟨pool.byRoute.erase route⟩ else ⟨pool.byRoute.set route group⟩

/-- `_current_endpoints`. -/
def currentEndpoints (pool : HotSessionPool) (workstationPrincipal controllerPrincipal : String)
    (nowMs : ℤ) : List SessionEndpoint :=
  ((pool.byRoute.get? (workstationPrincipal, controllerPrincipal)).getD .empty).values.filter
    fun endpoint =>
      decide (nowMs < endpoint.binding.expiresAtMs) &&
        (endpoint.binding.workstationPrincipal == workstationPrincipal &&
          endpoint.binding.controllerPrincipal == controllerPrincipal)

/-- The arguments of `request`. -/
structure Call where
  workstationPrincipal : String
  controllerPrincipal : String
  request : Request
  nowMs : ℤ
  maxPathAgeMs : ℤ := 5000
  requestTimeoutS : PyFloat := 5

/-- The checks `request` makes first. They yield the request id and the operation. -/
def Call.validate (call : Call) : Except PyError (String × String) :=
  match call.request.get? "request_id" with
  | some (.str requestId) =>
    if requestId = "" then .error ⟨.valueError, "request_id is required"⟩
    else
      match call.request.get? "operation" with
      | some (.str operation) =>
        if operation = "" then .error ⟨.valueError, "operation is required"⟩
        else if call.requestTimeoutS.le 0 then
          .error ⟨.valueError, "request_timeout_s must be positive"⟩
        else .ok (requestId, operation)
      | _ => .error ⟨.valueError, "operation is required"⟩
  | _ => .error ⟨.valueError, "request_id is required"⟩

theorem validate_operation {call : Call} {requestId operation operation' : String}
    (h : call.validate = .ok (requestId, operation'))
    (hop : call.request.get? "operation" = some (.str operation)) : operation' = operation := by
  unfold Call.validate at h
  simp only [hop] at h
  split at h
  · split_ifs at h
    cases h
    rfl
  · cases h

/-- The endpoint of the path that `select_path` picks among those of `remaining`: the first with
the path id that was selected. -/
def selectEndpoint (call : Call) (remaining : List SessionEndpoint) :
    Except PyError (Option SessionEndpoint) :=
  match selectPath (remaining.map (·.path)) call.nowMs call.maxPathAgeMs with
  | .error e => .error e
  | .ok decision => .ok (decision.selected.bind fun selected =>
      remaining.find? fun item => item.path.pathId == selected.pathId)

/-- What a channel's answer comes to when it is a loss of transport: the `StreamClosed` that the
`except` clause makes of it. -/
def transportError (requestId : String) (endpoint : SessionEndpoint) (exc : PyError) :
    Option PyError :=
  match exc.cls with
  | .streamClosed => some exc
  | .timeoutError => some ⟨.streamClosed, requestId ++ " timed out on " ++ endpoint.endpointId⟩
  | _ => none

/-- The variables of the retry loop. -/
structure RetryState where
  /-- The endpoints whose channel was handed the request, in order. -/
  attempted : List SessionEndpoint
  lastError : Option PyError
  mutationRetrySessionId : Option String

/-- The variables before the first turn. -/
def RetryState.init : RetryState := ⟨[], none, none⟩

@[simp]
theorem RetryState.attempted_init : init.attempted = [] := rfl

@[simp]
theorem RetryState.lastError_init : init.lastError = none := rfl

/-- `item.endpoint_id in attempted`. -/
def RetryState.tried (s : RetryState) (item : SessionEndpoint) : Bool :=
  s.attempted.any (·.endpointId == item.endpointId)

/-- The endpoints a turn chooses from. -/
def RetryState.remaining (s : RetryState) (candidates : List SessionEndpoint) :
    List SessionEndpoint :=
  candidates.filter fun item =>
    !s.tried item &&
      match s.mutationRetrySessionId with
      | none => true
      | some sessionId => item.binding.sessionId == sessionId && item.durableIdempotency

@[simp]
theorem RetryState.remaining_init (candidates : List SessionEndpoint) :
    init.remaining candidates = candidates := by
  simp [remaining, tried, init]

/-- What a call to `request` comes to. -/
structure Delivery where
  /-- The endpoints whose channel was handed the request, in order. -/
  attempted : List SessionEndpoint
  result : Except PyError Response

/-- What one turn of the loop comes to. -/
inductive Turn where
  | done (delivery : Delivery)
  | again (state : RetryState)

/-- `AmbiguousDelivery` when the endpoint that lost its transport has no durable ledger. -/
def ambiguousWithoutLedger (requestId : String) : PyError :=
  ⟨.ambiguousDelivery, requestId ++
    " lost transport after possible mutation; retry blocked without durable idempotency"⟩

/-- `AmbiguousDelivery` when no endpoint is left to retry on. -/
def ambiguousWithoutPath (requestId : String) : PyError :=
  ⟨.ambiguousDelivery, requestId ++
    " lost transport after possible mutation; no same-session durable failover path"⟩

/-- One turn of the loop: choose an endpoint, hand its channel the request, and decide. -/
def turn (call : Call) (requestId operation : String) (candidates : List SessionEndpoint)
    (channel : SessionEndpoint → Except PyError Response) (s : RetryState) : Turn :=
  match selectEndpoint call (s.remaining candidates) with
  | .error e => .done ⟨s.attempted, .error e⟩
  | .ok none =>
    .done ⟨s.attempted, .error (s.lastError.getD ⟨.noCurrentPath, call.workstationPrincipal⟩)⟩
  | .ok (some endpoint) =>
    let attempted := s.attempted ++ [endpoint]
    match channel endpoint with
    | .ok response => .done ⟨attempted, .ok response⟩
    | .error exc =>
      match transportError requestId endpoint exc with
      | none => .done ⟨attempted, .error exc⟩
      | some lost =>
        if operation ∈ mutatingOperations then
          if !endpoint.durableIdempotency then
            .done ⟨attempted, .error (ambiguousWithoutLedger requestId)⟩
          else
            let s' : RetryState := ⟨attempted, some lost, some endpoint.binding.sessionId⟩
            if (s'.remaining candidates).isEmpty then
              .done ⟨attempted, .error (ambiguousWithoutPath requestId)⟩
            else .again s'
        else .again ⟨attempted, some lost, s.mutationRetrySessionId⟩

variable {call : Call} {requestId operation : String} {candidates remaining : List SessionEndpoint}
  {channel : SessionEndpoint → Except PyError Response} {s s' : RetryState}

/-- The chosen endpoint is one of those offered. -/
theorem mem_of_selectEndpoint {endpoint : SessionEndpoint}
    (h : selectEndpoint call remaining = .ok (some endpoint)) : endpoint ∈ remaining := by
  unfold selectEndpoint at h
  split at h
  · cases h
  · rw [Except.ok.injEq, Option.bind_eq_some_iff] at h
    obtain ⟨selected, -, hfind⟩ := h
    exact List.mem_of_find?_eq_some hfind

/-- `next(...)` finds an endpoint whenever a path was selected: none is chosen only if every path
was passed over. -/
theorem selectEndpoint_eq_none (h : selectEndpoint call remaining = .ok none) :
    ∀ item ∈ remaining, item.path.rejection call.nowMs call.maxPathAgeMs ≠ none := by
  unfold selectEndpoint at h
  split at h
  · cases h
  next decision hdecision =>
    rw [Except.ok.injEq, Option.bind_eq_none_iff] at h
    have hnone : decision.selected = none := by
      rw [Option.eq_none_iff_forall_ne_some]
      intro selected hsel
      obtain ⟨item, hitem, hpath⟩ := List.mem_map.mp (selectPath_ok hdecision hsel).1
      have hmiss := List.find?_eq_none.mp (h selected hsel) item hitem
      simp [hpath] at hmiss
    unfold selectPath at hdecision
    split_ifs at hdecision
    cases hdecision
    intro item hitem hok
    have hempty := List.filter_eq_nil_iff.mp (minByKey_eq_none_iff.mp hnone) item.path
      (List.mem_map_of_mem hitem)
    simp [hok] at hempty

theorem mem_remaining {item : SessionEndpoint} (h : item ∈ s.remaining candidates) :
    item ∈ candidates ∧ s.tried item = false := by
  simp only [RetryState.remaining, List.mem_filter, Bool.and_eq_true, Bool.not_eq_true'] at h
  exact ⟨h.1, h.2.1⟩

/-- What a turn that goes on has done: one more endpoint has lost its transport, and for a mutation
the retry is bound to the endpoint's session, where another durable endpoint is left. -/
theorem turn_again (h : turn call requestId operation candidates channel s = .again s') :
    ∃ endpoint exc lost, selectEndpoint call (s.remaining candidates) = .ok (some endpoint) ∧
      channel endpoint = .error exc ∧ transportError requestId endpoint exc = some lost ∧
      s'.attempted = s.attempted ++ [endpoint] ∧ s'.lastError = some lost ∧
      if operation ∈ mutatingOperations then
        endpoint.durableIdempotency = true ∧
          s'.mutationRetrySessionId = some endpoint.binding.sessionId ∧
          s'.remaining candidates ≠ []
      else s'.mutationRetrySessionId = s.mutationRetrySessionId := by
  unfold turn at h
  split at h
  · cases h
  · cases h
  next endpoint hsel =>
    split at h
    · cases h
    next exc hchannel =>
      split at h
      · cases h
      next lost hlost =>
        refine ⟨endpoint, exc, lost, hsel, hchannel, hlost, ?_⟩
        by_cases hmut : operation ∈ mutatingOperations
        · rw [if_pos hmut] at h ⊢
          dsimp only at h
          split_ifs at h with hdurable hleft
          obtain rfl := Turn.again.inj h
          exact ⟨rfl, rfl, by simpa using hdurable, rfl, by simpa using hleft⟩
        · rw [if_neg hmut] at h ⊢
          obtain rfl := Turn.again.inj h
          exact ⟨rfl, rfl, rfl⟩

/-- The turn that ends the loop tries one more endpoint or none. -/
theorem turn_done {delivery : Delivery}
    (h : turn call requestId operation candidates channel s = .done delivery) :
    delivery.attempted = s.attempted ∨
      ∃ endpoint, selectEndpoint call (s.remaining candidates) = .ok (some endpoint) ∧
        delivery.attempted = s.attempted ++ [endpoint] := by
  unfold turn at h
  split at h
  · exact Or.inl (Turn.done.inj h ▸ rfl)
  · exact Or.inl (Turn.done.inj h ▸ rfl)
  next endpoint hsel =>
    refine Or.inr ⟨endpoint, hsel, ?_⟩
    split at h
    · exact Turn.done.inj h ▸ rfl
    next exc hchannel =>
      split at h
      · exact Turn.done.inj h ▸ rfl
      next lost hlost =>
        by_cases hmut : operation ∈ mutatingOperations
        · rw [if_pos hmut] at h
          dsimp only at h
          split_ifs at h with hdurable hleft
          · exact Turn.done.inj h ▸ rfl
          · exact Turn.done.inj h ▸ rfl
        · rw [if_neg hmut] at h
          cases h

/-- The endpoints not tried yet. -/
def RetryState.untried (s : RetryState) (candidates : List SessionEndpoint) :
    List SessionEndpoint :=
  candidates.filter fun item => !s.tried item

/-- Every turn that goes on has used up an endpoint. -/
theorem turn_again_untried_lt
    (h : turn call requestId operation candidates channel s = .again s') :
    (s'.untried candidates).length < (s.untried candidates).length := by
  obtain ⟨endpoint, -, -, hsel, -, -, hattempted, -⟩ := turn_again h
  obtain ⟨hmem, huntried⟩ := mem_remaining (mem_of_selectEndpoint hsel)
  have htried : ∀ item, s'.tried item = (s.tried item || endpoint.endpointId == item.endpointId) := by
    intro item
    simp [RetryState.tried, hattempted]
  have hsub : (s'.untried candidates).Sublist (s.untried candidates) := by
    refine List.monotone_filter_right candidates fun item hitem => ?_
    rw [htried] at hitem
    simp only [Bool.not_or, Bool.and_eq_true] at hitem
    exact hitem.1
  refine lt_of_le_of_ne hsub.length_le fun heq => ?_
  have hend : endpoint ∈ s'.untried candidates := by
    rw [hsub.eq_of_length heq]
    exact List.mem_filter.mpr ⟨hmem, by simp [huntried]⟩
  have hmiss := (List.mem_filter.mp hend).2
  simp [htried] at hmiss

/-- The loop of `request`. -/
def requestLoop (call : Call) (requestId operation : String) (candidates : List SessionEndpoint)
    (channel : SessionEndpoint → Except PyError Response) (s : RetryState) : Delivery :=
  match _h : turn call requestId operation candidates channel s with
  | .done delivery => delivery
  | .again s' => requestLoop call requestId operation candidates channel s'
termination_by (s.untried candidates).length
decreasing_by exact turn_again_untried_lt _h

/-- `request`. -/
def request (pool : HotSessionPool) (call : Call)
    (channel : SessionEndpoint → Except PyError Response) : Delivery :=
  match call.validate with
  | .error e => ⟨[], .error e⟩
  | .ok (requestId, operation) =>
    requestLoop call requestId operation
      (pool.currentEndpoints call.workstationPrincipal call.controllerPrincipal call.nowMs) channel
      .init

theorem requestLoop_of_done {delivery : Delivery}
    (h : turn call requestId operation candidates channel s = .done delivery) :
    requestLoop call requestId operation candidates channel s = delivery := by
  rw [requestLoop]
  split
  next d hd => exact Turn.done.inj (hd.symm.trans h)
  next s' hs' => cases hs'.symm.trans h

theorem requestLoop_of_again
    (h : turn call requestId operation candidates channel s = .again s') :
    requestLoop call requestId operation candidates channel s =
      requestLoop call requestId operation candidates channel s' := by
  rw [requestLoop]
  split
  next d hd => cases hd.symm.trans h
  next s'' hs'' => rw [Turn.again.inj (hs''.symm.trans h)]

theorem mem_currentEndpoints {pool : HotSessionPool} {workstation controller : String} {nowMs : ℤ}
    {endpoint : SessionEndpoint}
    (h : endpoint ∈ pool.currentEndpoints workstation controller nowMs) :
    nowMs < endpoint.binding.expiresAtMs ∧ endpoint.binding.workstationPrincipal = workstation ∧
      endpoint.binding.controllerPrincipal = controller := by
  simpa [currentEndpoints] using (List.mem_filter.mp h).2

/-- The endpoints tried are candidates, all of the session a retry is bound to. -/
def RetryState.OneSession (s : RetryState) (candidates : List SessionEndpoint) : Prop :=
  ∀ item ∈ s.attempted,
    item ∈ candidates ∧ s.mutationRetrySessionId = some item.binding.sessionId

/-- The endpoint chosen next belongs to the session of those already tried. -/
theorem sessionId_eq_of_selectEndpoint (hs : s.OneSession candidates)
    {endpoint item : SessionEndpoint}
    (hsel : selectEndpoint call (s.remaining candidates) = .ok (some endpoint))
    (hitem : item ∈ s.attempted) : endpoint.binding.sessionId = item.binding.sessionId := by
  obtain ⟨-, hsession⟩ := hs item hitem
  have hkeep := (List.mem_filter.mp (mem_of_selectEndpoint hsel)).2
  simp only [hsession, Bool.and_eq_true, beq_iff_eq] at hkeep
  exact hkeep.2.1

/-- A mutation is handed to endpoints of one session only. -/
theorem requestLoop_oneSession (hmut : operation ∈ mutatingOperations)
    (hs : s.OneSession candidates) :
    ∀ e₁ ∈ (requestLoop call requestId operation candidates channel s).attempted,
      e₁ ∈ candidates ∧
        ∀ e₂ ∈ (requestLoop call requestId operation candidates channel s).attempted,
          e₁.binding.sessionId = e₂.binding.sessionId := by
  induction s using requestLoop.induct call requestId operation candidates channel with
  | case1 s delivery hturn =>
    rw [requestLoop_of_done hturn]
    -- what was tried before is of one session, and so is the endpoint of this turn
    have hold : ∀ e₁ ∈ s.attempted, ∀ e₂ ∈ s.attempted,
        e₁.binding.sessionId = e₂.binding.sessionId := by
      intro e₁ h₁ e₂ h₂
      exact Option.some.inj ((hs e₁ h₁).2.symm.trans (hs e₂ h₂).2)
    rcases turn_done hturn with heq | ⟨endpoint, hsel, heq⟩
    · rw [heq]
      exact fun e₁ h₁ => ⟨(hs e₁ h₁).1, hold e₁ h₁⟩
    · have hnew : ∀ e ∈ s.attempted, endpoint.binding.sessionId = e.binding.sessionId :=
        fun e he => sessionId_eq_of_selectEndpoint hs hsel he
      have hmem := (mem_remaining (mem_of_selectEndpoint hsel)).1
      rw [heq]
      simp only [List.mem_append, List.mem_singleton]
      rintro e₁ (h₁ | rfl)
      · refine ⟨(hs e₁ h₁).1, ?_⟩
        rintro e₂ (h₂ | rfl)
        · exact hold e₁ h₁ e₂ h₂
        · exact (hnew e₁ h₁).symm
      · refine ⟨hmem, ?_⟩
        rintro e₂ (h₂ | rfl)
        · exact hnew e₂ h₂
        · rfl
  | case2 s s' hturn ih =>
    rw [requestLoop_of_again hturn]
    refine ih fun item hitem => ?_
    obtain ⟨endpoint, -, -, hsel, -, -, hattempted, -, hretry⟩ := turn_again hturn
    rw [if_pos hmut] at hretry
    obtain ⟨-, hsession, -⟩ := hretry
    rw [hattempted, List.mem_append, List.mem_singleton] at hitem
    rw [hsession, Option.some.injEq]
    rcases hitem with hitem | rfl
    · exact ⟨(hs item hitem).1, sessionId_eq_of_selectEndpoint hs hsel hitem⟩
    · exact ⟨(mem_remaining (mem_of_selectEndpoint hsel)).1, rfl⟩

/-- The channels that are handed a mutation all belong to one session of one controller. -/
theorem request_oneSession {pool : HotSessionPool}
    (hop : call.request.get? "operation" = some (.str operation))
    (hmut : operation ∈ mutatingOperations) {e₁ e₂ : SessionEndpoint}
    (h₁ : e₁ ∈ (pool.request call channel).attempted)
    (h₂ : e₂ ∈ (pool.request call channel).attempted) :
    e₁.binding.sessionId = e₂.binding.sessionId ∧
      e₁.binding.controllerPrincipal = e₂.binding.controllerPrincipal := by
  unfold request at h₁ h₂
  cases hvalid : call.validate with
  | error e => simp [hvalid] at h₁
  | ok names =>
    obtain ⟨requestId, operation'⟩ := names
    simp only [hvalid] at h₁ h₂
    obtain rfl := validate_operation hvalid hop
    have hinit : RetryState.init.OneSession
        (pool.currentEndpoints call.workstationPrincipal call.controllerPrincipal call.nowMs) :=
      fun item hitem => by simp at hitem
    have hloop := @requestLoop_oneSession call requestId _ _ channel _ hmut hinit
    obtain ⟨hmem₁, hsession⟩ := hloop e₁ h₁
    obtain ⟨-, -, hcontroller₁⟩ := mem_currentEndpoints hmem₁
    obtain ⟨-, -, hcontroller₂⟩ := mem_currentEndpoints (hloop e₂ h₂).1
    exact ⟨hsession e₂ h₂, hcontroller₁.trans hcontroller₂.symm⟩

end HotSessionPool

end VeraMesh
