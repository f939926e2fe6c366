import VeraMesh.Agent.SessionHandler
import VeraMesh.Agent.StateStore

/-!
# Admission and completion of requests

`VeraPortAgent.handle` of `protocol.py`, cut where it waits. `admitRequest` is the part before
`await self._dispatch(...)`: the checks and, for a durable mutation, `begin_request`. `finish` is
the part after it: the response and, for a durable mutation, `complete_request`. Between the two
other requests are handled, and the agent can crash.

`digest` stands for SHA-256 on canonical JSON texts.
-/

namespace VeraMesh

open Python

/-- `DURABLE_MUTATING_OPERATIONS`. -/
def durableMutatingOperations : List String :=
  ["lane.open", "lane.renew", "lane.close", "fs.write_text", "fs.append_text", "fs.mkdir",
    "fs.move", "fs.replace_text", "process.exec", "process.start", "process.input",
    "process.terminate"]

/-- The response to a request whose dispatch returned `result`. -/
def okResponse (requestId : PyValue) (result : PyValue) : Response :=
  .ofList [("protocol_version", .str "veraport-v1"), ("request_id", requestId),
    ("ok", .bool true), ("result", result)]

/-- The response to an exception. -/
def exceptionResponse (requestId : PyValue) (exc : PyError) : Response :=
  errorResponse requestId exc.cls.code exc.message

/-- A stored response with the mark of a replay. -/
def markReplay (response : Response) : Response :=
  response.set "replay"
    (.dict [("durable_evidence", .bool true), ("current_state_not_implied", .bool true)])

/-- What `handle` comes to before it dispatches. -/
inductive Admission where
  /-- It returns without dispatching. -/
  | answered (response : Response)
  /-- It dispatches the operation. `requestSha256` is the digest under which a durable mutation
  was begun. -/
  | dispatched (requestId operation : String) (requestSha256 : Option String)

namespace VeraPortAgent

/-- `_request_sha256`. -/
def requestSha256 (digest : PyValue → String) (request : Request) : String :=
  digest (dumpsSorted request)

/-- The three checks at the head of `handle`. They yield the request id and the operation. -/
def checkRequest (request : Request) : Except PyError (String × String) :=
  if request.get? "protocol_version" ≠ some (.str "veraport-v1") then
    .error ⟨.valueError, "protocol_version must be veraport-v1"⟩
  else
    match request.get? "request_id" with
    | some (.str requestId) =>
      if requestId = "" then .error ⟨.valueError, "request_id is required"⟩
      else
        match request.get? "operation" with
        | some (.str operation) =>
          if operation = "" then .error ⟨.valueError, "operation is required"⟩
          else .ok (requestId, operation)
        | _ => .error ⟨.valueError, "operation is required"⟩
    | _ => .error ⟨.valueError, "request_id is required"⟩

/-- `handle` up to the dispatch. -/
def admitRequest (digest : PyValue → String) (stateStore : Option AgentStateStore) (request : Request)
    (nowMs : ℤ) (sqliteError : Bool) : Admission × Option AgentStateStore :=
  let failed (exc : PyError) := exceptionResponse (getD request "request_id" .none) exc
  match checkRequest request with
  | .error exc => (.answered (failed exc), stateStore)
  | .ok (requestId, operation) =>
    match stateStore with
    | none => (.dispatched requestId operation none, none)
    | some store =>
      if operation ∈ durableMutatingOperations then
        let sha256 := requestSha256 digest request
        match store.beginRequest requestId sha256 nowMs sqliteError with
        | (.error exc, store') => (.answered (failed exc), some store')
        | (.ok (.replay response), store') => (.answered (markReplay response), some store')
        | (.ok .new, store') => (.dispatched requestId operation (some sha256), some store')
      else (.dispatched requestId operation none, some store)

/-- The response to a dispatched request. -/
def response (requestId : String) : Except PyError PyValue → Response
  | .ok result => okResponse (.str requestId) result
  | .error exc => exceptionResponse (.str requestId) exc

/-- `handle` from the end of the dispatch, which returned or raised `result`. -/
def finish (stateStore : Option AgentStateStore) (requestId : String)
    (requestSha256 : Option String) (result : Except PyError PyValue) (nowMs : ℤ)
    (sqliteError : Bool) : Response × Option AgentStateStore :=
  match requestSha256, stateStore with
  | some sha256, some store =>
    match store.completeRequest requestId sha256 (response requestId result) nowMs sqliteError with
    | (.error exc, store') => (exceptionResponse (.str requestId) exc, some store')
    | (.ok (), store') => (response requestId result, some store')
  | _, _ => (response requestId result, stateStore)

variable {digest : PyValue → String} {store : AgentStateStore} {request : Request} {nowMs : ℤ}
  {sqliteError : Bool}

/-- An agent with a ledger answers a request and leaves the ledger alone, dispatches an operation
that is not a durable mutation, or dispatches a durable mutation that it has begun. -/
theorem admitRequest_cases {admission : Admission} {stateStore : Option AgentStateStore}
    (h : admitRequest digest (some store) request nowMs sqliteError = (admission, stateStore)) :
    (∃ answer, admission = .answered answer ∧ stateStore = some store) ∨
      ∃ requestId operation, checkRequest request = .ok (requestId, operation) ∧
        if operation ∈ durableMutatingOperations then
          admission = .dispatched requestId operation (some (requestSha256 digest request)) ∧
            ∃ store', stateStore = some store' ∧
              store.beginRequest requestId (requestSha256 digest request) nowMs sqliteError =
                (.ok .new, store')
        else admission = .dispatched requestId operation none ∧ stateStore = some store := by
  unfold admitRequest at h
  cases hcheck : checkRequest request with
  | error exc =>
    simp only [hcheck, Prod.mk.injEq] at h
    exact Or.inl ⟨_, h.1.symm, h.2.symm⟩
  | ok names =>
    obtain ⟨requestId, operation⟩ := names
    simp only [hcheck] at h
    by_cases hdurable : operation ∈ durableMutatingOperations
    · rw [if_pos hdurable] at h
      rcases hbegin : store.beginRequest requestId (requestSha256 digest request) nowMs
        sqliteError with ⟨res, store'⟩
      simp only [hbegin] at h
      rcases res with exc | begun
      · obtain rfl := AgentStateStore.beginRequest_not_new hbegin (by simp)
        exact Or.inl ⟨_, (Prod.mk.inj h).1.symm, (Prod.mk.inj h).2.symm⟩
      · cases begun with
        | replay response =>
          obtain rfl := AgentStateStore.beginRequest_not_new hbegin (by simp)
          exact Or.inl ⟨_, (Prod.mk.inj h).1.symm, (Prod.mk.inj h).2.symm⟩
        | new =>
          refine Or.inr ⟨requestId, operation, rfl, ?_⟩
          rw [if_pos hdurable]
          exact ⟨(Prod.mk.inj h).1.symm, store', (Prod.mk.inj h).2.symm, hbegin⟩
    · rw [if_neg hdurable] at h
      refine Or.inr ⟨requestId, operation, rfl, ?_⟩
      rw [if_neg hdurable]
      exact ⟨(Prod.mk.inj h).1.symm, (Prod.mk.inj h).2.symm⟩

/-- A durable mutation that `begin_request` refuses is answered with the refusal. -/
theorem admitRequest_of_beginRequest_error {requestId operation : String} {exc : PyError}
    {store' : AgentStateStore} (hcheck : checkRequest request = .ok (requestId, operation))
    (hdurable : operation ∈ durableMutatingOperations)
    (hbegin : store.beginRequest requestId (requestSha256 digest request) nowMs sqliteError =
      (.error exc, store')) :
    admitRequest digest (some store) request nowMs sqliteError =
      (.answered (exceptionResponse (getD request "request_id" .none) exc), some store) := by
  obtain rfl := AgentStateStore.beginRequest_not_new hbegin (by simp)
  unfold admitRequest
  simp only [hcheck, hdurable, if_true, hbegin]

/-- A durable mutation that was completed before is answered with the stored response. -/
theorem admitRequest_of_beginRequest_replay {requestId operation : String} {stored : Response}
    {store' : AgentStateStore} (hcheck : checkRequest request = .ok (requestId, operation))
    (hdurable : operation ∈ durableMutatingOperations)
    (hbegin : store.beginRequest requestId (requestSha256 digest request) nowMs sqliteError =
      (.ok (.replay stored), store')) :
    admitRequest digest (some store) request nowMs sqliteError =
      (.answered (markReplay stored), some store) := by
  obtain rfl := AgentStateStore.beginRequest_not_new hbegin (by simp)
  unfold admitRequest
  simp only [hcheck, hdurable, if_true, hbegin]

/-- The checks pass a request of this protocol with an id and an operation. -/
theorem checkRequest_eq_ok_iff {requestId operation : String} :
    checkRequest request = .ok (requestId, operation) ↔
      request.get? "protocol_version" = some (.str "veraport-v1") ∧
        (request.get? "request_id" = some (.str requestId) ∧ requestId ≠ "") ∧
        request.get? "operation" = some (.str operation) ∧ operation ≠ "" := by
  unfold checkRequest
  by_cases hversion : request.get? "protocol_version" = some (.str "veraport-v1")
  · rw [if_neg (not_not_intro hversion)]
    split
    next id hid =>
      by_cases hempty : id = ""
      · rw [if_pos hempty]
        simp only [hid, Option.some.injEq, PyValue.str.injEq, reduceCtorEq, false_iff]
        rintro ⟨-, ⟨rfl, hne⟩, -⟩
        exact hne hempty
      rw [if_neg hempty]
      split
      next op hop =>
        by_cases hopEmpty : op = ""
        · rw [if_pos hopEmpty]
          simp only [hop, Option.some.injEq, PyValue.str.injEq, reduceCtorEq, false_iff]
          rintro ⟨-, -, rfl, hne⟩
          exact hne hopEmpty
        · rw [if_neg hopEmpty]
          simp only [hversion, hid, hop, Except.ok.injEq, Prod.mk.injEq, Option.some.injEq,
            PyValue.str.injEq, true_and]
          constructor
          · rintro ⟨rfl, rfl⟩
            exact ⟨⟨rfl, hempty⟩, rfl, hopEmpty⟩
          · rintro ⟨⟨rfl, -⟩, rfl, -⟩
            exact ⟨rfl, rfl⟩
      next hop =>
        simp only [reduceCtorEq, false_iff]
        exact fun hall => hop _ hall.2.2.1
    next hid =>
      simp only [reduceCtorEq, false_iff]
      exact fun hall => hid _ hall.2.1.1
  · rw [if_pos hversion]
    simp only [reduceCtorEq, false_iff]
    exact fun hall => hversion hall.1

/-- The checks see nothing but the content of a request. -/
theorem checkRequest_congr {request' : Request} (h : dumpsSorted request = dumpsSorted request')
    {names : String × String} (hcheck : checkRequest request = .ok names) :
    checkRequest request' = .ok names := by
  obtain ⟨requestId, operation⟩ := names
  rw [checkRequest_eq_ok_iff] at hcheck ⊢
  obtain ⟨hversion, ⟨hid, hne⟩, hop, hopne⟩ := hcheck
  exact ⟨get?_str_of_dumpsSorted_eq h hversion, ⟨get?_str_of_dumpsSorted_eq h hid, hne⟩,
    get?_str_of_dumpsSorted_eq h hop, hopne⟩

/-- Only a durable mutation touches the ledger when it finishes. -/
theorem finish_cases {requestId : String} {sha256 : Option String}
    {result : Except PyError PyValue} {answer : Response} {stateStore : Option AgentStateStore}
    (h : finish (some store) requestId sha256 result nowMs sqliteError = (answer, stateStore)) :
    sha256 = none ∧ stateStore = some store ∨
      ∃ sha res store', sha256 = some sha ∧ stateStore = some store' ∧
        store.completeRequest requestId sha (response requestId result) nowMs sqliteError =
          (res, store') := by
  unfold finish at h
  cases sha256 with
  | none => exact Or.inl ⟨rfl, (Prod.mk.inj h).2.symm⟩
  | some sha =>
    rcases hcomplete : store.completeRequest requestId sha (response requestId result) nowMs
      sqliteError with ⟨res, store'⟩
    simp only [hcomplete] at h
    cases res <;> exact Or.inr ⟨sha, _, store', rfl, (Prod.mk.inj h).2.symm, hcomplete⟩

end VeraPortAgent

end VeraMesh
