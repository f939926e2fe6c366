import VeraMesh.Session.Messages

/-!
# The session-bound handler

`SessionBoundHandler` of `runtime.py`: what stands between an authenticated session and the agent
all sessions share. A request is checked against the session's expiry and grant and rewritten to
internal names (`scope`): its lane id is prefixed with the session id, its request id with the
controller principal. The response is rewritten back (`externalize`).
-/

namespace VeraMesh

open Python

/-- `_lane_prefix`. -/
def lanePrefix (binding : SessionBinding) : String := binding.sessionId ++ "::"

/-- `_request_prefix`. It is the same for every session of a controller. -/
def requestPrefix (binding : SessionBinding) : String := binding.controllerPrincipal ++ "::"

namespace SessionBoundHandler

/-- `_error`. -/
def error (requestId : PyValue) (code message : String) : Response :=
  errorResponse (match requestId with | .str s => .str s | _ => .none) code message

/-- The refusal of a request that `lane.open` makes for capabilities the session does not grant. -/
def grantError (rt : Runtime) (binding : SessionBinding) (request : Request) : Option Response :=
  let requestId := getD request "request_id" .none
  match getD request "capabilities" (.list []) with
  | .list requested =>
    let extras := (requested.map rt.str).filter (· ∉ binding.grantedCapabilities)
    if extras = [] then none
    else some (error requestId "SESSION_CAPABILITY_DENIED"
      ("session does not grant capabilities: " ++ rt.reprStrList (sortedSet extras)))
  | _ => some (error requestId "INVALID_REQUEST" "capabilities must be a list")

/-- The lane id of a request in its internal form. -/
def scopeLaneId (binding : SessionBinding) (externalRequestId : String) (internal : Request) :
    Except Response Request :=
  match internal.get? "lane_id" with
  | none => .ok internal
  | some (.str laneId) =>
    if laneId = "" then
      .error (error (.str externalRequestId) "INVALID_REQUEST" "lane_id must be a non-empty string")
    else .ok (internal.set "lane_id" (.str (lanePrefix binding ++ laneId)))
  | some _ =>
    .error (error (.str externalRequestId) "INVALID_REQUEST" "lane_id must be a non-empty string")

/-- `__call__` up to the call of the agent: the request id as the client wrote it and the request
as the agent gets it, or the refusal. -/
def scope (rt : Runtime) (binding : SessionBinding) (nowMs : ℤ) (request : Request) :
    Except Response (String × Request) :=
  if binding.expiresAtMs ≤ nowMs then
    .error (error (getD request "request_id" .none) "SESSION_EXPIRED" "VeraPort session expired")
  else
    match request.get? "request_id" with
    | some (.str externalRequestId) =>
      if externalRequestId = "" then
        .error (error .none "INVALID_REQUEST" "request_id is required")
      else
        match request.get? "operation" with
        | some (.str operation) =>
          if operation = "" then
            .error (error (.str externalRequestId) "INVALID_REQUEST" "operation is required")
          else
            match if operation = "lane.open" then grantError rt binding request else none with
            | some refusal => .error refusal
            | none =>
              (scopeLaneId binding externalRequestId (request.set "request_id"
                (.str (requestPrefix binding ++ externalRequestId)))).map (externalRequestId, ·)
        | _ => .error (error (.str externalRequestId) "INVALID_REQUEST" "operation is required")
    | _ => .error (error .none "INVALID_REQUEST" "request_id is required")

/-- `s[len(p):]` if `s` starts with `p`. -/
def dropPrefix? (p s : String) : Option String :=
  if startsWith s p then some (String.ofList (s.toList.drop p.toList.length)) else none

/-- The object of a lane with its id as the client knows it, if it is a lane of the session. -/
def externalizeLane (binding : SessionBinding) : PyValue → Option PyValue
  | .dict members =>
    let lane := Dict.ofList members
    match lane.get? "lane_id" with
    | some (.str laneId) =>
      (dropPrefix? (lanePrefix binding) laneId).map fun name =>
        .dict (lane.set "lane_id" (.str name)).entries
    | _ => none
  | _ => none

/-- The `result` of a response with the lane ids as the client knows them, and without the lanes of
other sessions. -/
def externalizePayload (binding : SessionBinding) (payload : Dict String PyValue) :
    Dict String PyValue :=
  let payload :=
    match payload.get? "lane_id" with
    | some (.str laneId) =>
      match dropPrefix? (lanePrefix binding) laneId with
      | some name => payload.set "lane_id" (.str name)
      | none => payload
    | _ => payload
  match payload.get? "lanes" with
  | some (.list lanes) =>
    payload.set "lanes" (.list (lanes.filterMap (externalizeLane binding)))
  | _ => payload

/-- `_externalize`. -/
def externalize (binding : SessionBinding) (externalRequestId : String) (response : Response) :
    Response :=
  let result := response.set "request_id" (.str externalRequestId)
  match result.get? "result" with
  | some (.dict members) =>
    result.set "result" (.dict (externalizePayload binding (.ofList members)).entries)
  | _ => result

variable {rt : Runtime} {binding : SessionBinding} {nowMs : ℤ} {request internal : Request}
  {externalRequestId : String}

theorem scopeLaneId_ok (h : scopeLaneId binding externalRequestId request = .ok internal) :
    request.get? "lane_id" = none ∧ internal = request ∨
      ∃ laneId, laneId ≠ "" ∧ request.get? "lane_id" = some (.str laneId) ∧
        internal = request.set "lane_id" (.str (lanePrefix binding ++ laneId)) := by
  unfold scopeLaneId at h
  split at h
  next hnone => exact Or.inl ⟨hnone, (Except.ok.inj h).symm⟩
  next laneId hlane =>
    split_ifs at h with hempty
    exact Or.inr ⟨laneId, hempty, hlane, (Except.ok.inj h).symm⟩
  next => cases h

/-- What the handler has checked of a request that reaches the agent. -/
theorem scope_ok (h : scope rt binding nowMs request = .ok (externalRequestId, internal)) :
    nowMs < binding.expiresAtMs ∧
      request.get? "request_id" = some (.str externalRequestId) ∧ externalRequestId ≠ "" ∧
      (∃ operation, request.get? "operation" = some (.str operation) ∧ operation ≠ "" ∧
        (operation = "lane.open" → grantError rt binding request = none)) ∧
      scopeLaneId binding externalRequestId (request.set "request_id"
        (.str (requestPrefix binding ++ externalRequestId))) = .ok internal := by
  unfold scope at h
  by_cases hexp : binding.expiresAtMs ≤ nowMs
  · rw [if_pos hexp] at h
    cases h
  rw [if_neg hexp] at h
  split at h
  next extId hreq =>
    by_cases hext : extId = ""
    · rw [if_pos hext] at h
      cases h
    rw [if_neg hext] at h
    split at h
    next operation hop =>
      by_cases hne : operation = ""
      · rw [if_pos hne] at h
        cases h
      rw [if_neg hne] at h
      split at h
      · cases h
      next hgrant =>
        cases hlane : scopeLaneId binding extId (request.set "request_id"
            (.str (requestPrefix binding ++ extId))) with
        | error refusal => simp [hlane, Except.map] at h
        | ok request' =>
          simp only [hlane, Except.map, Except.ok.injEq, Prod.mk.injEq] at h
          obtain ⟨rfl, rfl⟩ := h
          exact ⟨not_le.mp hexp, hreq, hext, ⟨operation, hop, hne, fun hopen => by
            rwa [if_pos hopen] at hgrant⟩, hlane⟩
    · cases h
  · cases h

/-- What reaches the agent is the client's request under its two internal names. -/
theorem get?_of_scope_ok
    (h : scope rt binding nowMs request = .ok (externalRequestId, internal)) :
    internal.get? "request_id" = some (.str (requestPrefix binding ++ externalRequestId)) ∧
      (∀ key, key ≠ "request_id" → key ≠ "lane_id" → internal.get? key = request.get? key) ∧
      (internal.get? "lane_id" = none ∧ request.get? "lane_id" = none ∨
        ∃ laneId, laneId ≠ "" ∧ request.get? "lane_id" = some (.str laneId) ∧
          internal.get? "lane_id" = some (.str (lanePrefix binding ++ laneId))) := by
  obtain ⟨-, -, -, -, hlane⟩ := scope_ok h
  have hkeep : "lane_id" ≠ "request_id" := by decide
  rcases scopeLaneId_ok hlane with ⟨hnone, rfl⟩ | ⟨laneId, hne, hsome, rfl⟩
  · rw [Dict.get?_set_ne _ _ hkeep] at hnone
    refine ⟨Dict.get?_set_self .., fun key hid _ => Dict.get?_set_ne _ _ hid, Or.inl ⟨?_, hnone⟩⟩
    rw [Dict.get?_set_ne _ _ hkeep, hnone]
  · rw [Dict.get?_set_ne _ _ hkeep] at hsome
    refine ⟨?_, fun key hid hlaneId => ?_, Or.inr ⟨laneId, hne, hsome, Dict.get?_set_self ..⟩⟩
    · rw [Dict.get?_set_ne _ _ hkeep.symm, Dict.get?_set_self]
    · rw [Dict.get?_set_ne _ _ hlaneId, Dict.get?_set_ne _ _ hid]

/-- Two sessions with one id and one controller pass the same request on. -/
theorem scope_eq_of_session {binding' : SessionBinding} {nowMs' : ℤ} {externalRequestId' : String}
    {internal' : Request} (hsession : binding'.sessionId = binding.sessionId)
    (hcontroller : binding'.controllerPrincipal = binding.controllerPrincipal)
    (h : scope rt binding nowMs request = .ok (externalRequestId, internal))
    (h' : scope rt binding' nowMs' request = .ok (externalRequestId', internal')) :
    internal' = internal := by
  obtain ⟨-, hid, -, -, hlane⟩ := scope_ok h
  obtain ⟨-, hid', -, -, hlane'⟩ := scope_ok h'
  obtain rfl : externalRequestId = externalRequestId' := by
    rw [hid] at hid'
    simpa using hid'
  have hpre : requestPrefix binding' = requestPrefix binding := by
    simp [requestPrefix, hcontroller]
  rw [hpre] at hlane'
  rcases scopeLaneId_ok hlane with ⟨hnone, rfl⟩ | ⟨laneId, -, hsome, rfl⟩
  · rcases scopeLaneId_ok hlane' with ⟨-, rfl⟩ | ⟨laneId', -, hsome', -⟩
    · rfl
    · rw [hnone] at hsome'
      cases hsome'
  · rcases scopeLaneId_ok hlane' with ⟨hnone', -⟩ | ⟨laneId', -, hsome', rfl⟩
    · rw [hsome] at hnone'
      cases hnone'
    · rw [hsome] at hsome'
      cases hsome'
      simp [lanePrefix, hsession]

end SessionBoundHandler

end VeraMesh
