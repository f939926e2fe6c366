import VeraMesh.Agent.Dispatch
import VeraMesh.Agent.Handle
import VeraMesh.Agent.LaneLocks

/-!
# Runs of a shared agent

One `VeraPortAgent` with the session-bound handlers of any number of sessions. The coroutines of its
requests, and those of `close_session`, are tasks, cut at their waits: for the lane lock, for the
threads that work on the workstation, and for the end of managed processes. A call of `authorize` is
a step of its own, since it may be made in a thread. Between two steps of a task any other task, a
watchdog or a managed process can move.

An event carries what its step reads from outside: clocks, the file system, the fence allocator,
SQLite, and how a piece of work turns out.
-/

namespace VeraMesh

open Python

/-- The authenticated sessions, by session id. An id is base64url text, and the principal of a
controller ends in the hexadecimal digest of its key. -/
structure Sessions where
  binding : String → Option SessionBinding
  sessionId_eq : ∀ {id b}, binding id = some b → b.sessionId = id
  noColon : ∀ {id b}, binding id = some b → ':' ∉ id.toList
  principal : ∀ {id b}, binding id = some b →
    ∃ digest, ':' ∉ digest.toList ∧ b.controllerPrincipal = "controller:" ++ digest

/-- A call of `authorize` that returned, with the registry it was made on. -/
structure Grant where
  registry : LaneRegistry
  check : Check
  now : PyFloat
  lane : Lane

/-- What a task was started for. -/
inductive Job where
  | request (binding : SessionBinding) (externalRequestId requestId operation : String)
      (requestSha256 : Option String) (request : Request)
  /-- `close_session` with the lanes that are left, and what it reports of the others. -/
  | closeSession (sessionId : String) (todo : List (String × ℤ))
      (closed terminated unresolved : List String)

/-- Where a task is. -/
inductive Phase where
  /-- Between two lanes of `close_session`. -/
  | idle
  /-- At `await lock.acquire()`. -/
  | waiting
  /-- It has the lane lock. -/
  | holding
  /-- Calls of `authorize` are left. -/
  | checking (fencingToken : ℤ) (todo : List Check) (work : Work)
  | working (fencingToken : ℤ) (work : Work)
  /-- In `close_lane_processes`. -/
  | terminating (fencingToken : ℤ) (todo terminated : List String)

/-- The phase of an operation with calls of `authorize` left. -/
def Phase.check (fencingToken : ℤ) (todo : List Check) (work : Work) : Phase :=
  if todo = [] then working fencingToken work else checking fencingToken todo work

/-- A coroutine on its way. -/
structure Task where
  job : Job
  /-- The lane that it operates on. -/
  laneId : String
  phase : Phase
  /-- It was cancelled, and only its thread goes on. -/
  detached : Bool
  /-- The calls of `authorize` that returned so far. Nothing reads them. -/
  grants : List Grant

/-- The agent. -/
structure VeraPortAgent where
  registry : LaneRegistry
  stateStore : Option AgentStateStore
  locks : LaneLocks
  processes : ProcessTable
  tasks : Dict ℕ Task

/-- What a transaction of the state store finds. -/
structure StoreCall where
  nowMs : ℤ
  sqliteError : Bool

/-- One step. -/
inductive Event where
  /-- A request arrives on a session. -/
  | deliver (task : ℕ) (sessionId : String) (request : Request) (nowMs : ℤ)
      (beginCall complete : StoreCall) (now : PyFloat)
  /-- The lane lock is acquired. -/
  | acquire (task : ℕ)
  /-- The task goes on inside of the lane operation. -/
  | dispatch (task : ℕ) (fs : FileSystem) (now : PyFloat) (allocated : Except PyError ℤ)
      (complete : StoreCall)
  /-- The next call of `authorize`. -/
  | authorize (task : ℕ) (now : PyFloat) (complete : StoreCall)
  /-- The work ends: its result, and the handle of a process that was started. -/
  | finish (task : ℕ) (outcome : Except PyError (PyValue × String)) (complete : StoreCall)
  /-- `_terminate_sync` ends for the next process of the lane. -/
  | terminate (task : ℕ) (outcome : Except PyError Unit) (complete : StoreCall)
  /-- All processes of the lane are terminated. -/
  | closeLane (task : ℕ) (now : PyFloat) (complete : StoreCall)
  /-- The connection of a session is gone. -/
  | closeSession (task : ℕ) (sessionId : String) (now : PyFloat)
  /-- `close_session` goes on with its next lane, or returns. -/
  | nextLane (task : ℕ)
  /-- A managed process ends. -/
  | exit (handle : String)
  /-- A round of the watchdog of a managed process. -/
  | watchdog (handle : String) (now : PyFloat) (deadlinePassed : Bool)
  | cancel (task : ℕ)

/-- What the outside sees of a step. -/
inductive Output where
  | silent
  /-- A response without dispatch. -/
  | answered (response : Response)
  /-- The end of a dispatched request. -/
  | completed (task : Task) (result : Except PyError PyValue) (response : Response)
  /-- The report of `close_session`. -/
  | drained (sessionId : String) (closed terminated unresolved : List String)

/-- `_lane_json`. -/
def laneJson (lane : Lane) : PyValue :=
  .dict [("lane_id", .str lane.laneId), ("task_id", .str lane.taskId),
    ("capabilities", .list ((sortedNames lane.capabilities).map .str)),
    ("claims", .list (lane.claims.map fun c =>
      .dict [("key", .str c.key.text), ("mode", .str c.mode.value)])),
    ("fencing_token", .int lane.fencingToken), ("expires_at_monotonic", .float lane.expiresAt)]

/-- `request_ledger_health`. -/
def requestLedgerHealth (store : AgentStateStore) : PyValue :=
  let count : ℤ := store.requests.size
  let status :=
    if store.maxMutationRequests ≤ count then "FULL_FAIL_CLOSED"
    else if store.warnAtRecords ≤ count then "DEGRADED_NEAR_CAPACITY"
    else "HEALTHY"
  .dict [("schema", .str "VERAPORT_REQUEST_LEDGER_HEALTH_V1"), ("status", .str status),
    ("mutation_records", .int count), ("warn_at_records", .int store.warnAtRecords),
    ("max_mutation_requests", .int store.maxMutationRequests),
    ("remaining_new_mutations", .int (max 0 (store.maxMutationRequests - count))),
    ("retention", .str "NO_AUTOMATIC_EVICTION_FAIL_CLOSED_AT_CAPACITY")]

/-- The result of `lane.list`. -/
def laneList (lanes : List Lane) (stateStore : Option AgentStateStore) : PyValue :=
  .dict ([("lanes", .list (lanes.map laneJson))] ++
    match stateStore with
    | none => []
    | some store => [("request_ledger", requestLedgerHealth store)])

/-- The result of `lane.close`. -/
def laneClosed (terminated : List String) (lane : Lane) : PyValue :=
  .dict [("lane_id", .str lane.laneId), ("closed", .bool true),
    ("terminated_process_handles", .list (terminated.map .str))]

/-- `close_session` notes the processes it terminated. -/
def Job.addTerminated (handles : List String) : Job → Job
  | .closeSession sessionId todo closed terminated unresolved =>
    .closeSession sessionId todo closed (terminated ++ handles) unresolved
  | job => job

namespace VeraPortAgent

/-- The agent at its start. -/
def init (registry : LaneRegistry) (stateStore : Option AgentStateStore) : VeraPortAgent :=
  ⟨registry, stateStore, .empty, .empty, .empty⟩

variable (w : Workstation) (sessions : Sessions) (s : VeraPortAgent)

/-- The task goes on in a new phase. -/
def setPhase (task : ℕ) (t : Task) (phase : Phase) : VeraPortAgent :=
  { s with tasks := s.tasks.set task { t with phase } }

/-- The lane operation of a task is over: the lock is released, and a request completes. -/
def conclude (task : ℕ) (t : Task) (result : Except PyError PyValue) (complete : StoreCall) :
    VeraPortAgent × Output :=
  if t.detached then ({ s with tasks := s.tasks.erase task }, .silent)
  else
    match t.job with
    | .request binding externalRequestId requestId _ sha256 _ =>
      let (response, stateStore) :=
        finish s.stateStore requestId sha256 result complete.nowMs complete.sqliteError
      ({ s with stateStore, locks := s.locks.exit task, tasks := s.tasks.erase task },
        .completed t result (SessionBoundHandler.externalize binding externalRequestId response))
    | .closeSession sessionId todo closed terminated unresolved =>
      let job := match result with
        | .ok _ => Job.closeSession sessionId todo.tail (closed ++ [t.laneId]) terminated unresolved
        | .error _ =>
          Job.closeSession sessionId todo.tail closed terminated (unresolved ++ [t.laneId])
      ({ s with
          locks := s.locks.exit task
          tasks := s.tasks.set task { t with job, phase := .idle } }, .silent)

/-- The arrival of a request. -/
def deliver (task : ℕ) (binding : SessionBinding) (request : Request) (nowMs : ℤ)
    (beginCall complete : StoreCall) (now : PyFloat) : VeraPortAgent × Output :=
  match SessionBoundHandler.scope w.rt binding nowMs request with
  | .error refusal => (s, .answered refusal)
  | .ok (externalRequestId, internal) =>
    match admitRequest w.digest s.stateStore internal beginCall.nowMs beginCall.sqliteError with
    | (.answered response, stateStore) =>
      ({ s with stateStore },
        .answered (SessionBoundHandler.externalize binding externalRequestId response))
    | (.dispatched requestId operation sha256, stateStore) =>
      let job := Job.request binding externalRequestId requestId operation sha256 internal
      match w.dispatchStart internal operation with
      | .error exc =>
        conclude { s with stateStore } task ⟨job, "", .idle, false, []⟩ (.error exc) complete
      | .ok .listLanes =>
        let (lanes, registry) := s.registry.snapshot now
        conclude { s with stateStore, registry } task ⟨job, "", .idle, false, []⟩
          (.ok (laneList lanes stateStore)) complete
      | .ok (.onLane laneId) =>
        ({ s with
            stateStore
            locks := s.locks.enter task laneId
            tasks := s.tasks.set task ⟨job, laneId, .waiting, false, []⟩ }, .silent)

/-- A task begins inside of the lane operation. -/
def dispatch (task : ℕ) (t : Task) (fs : FileSystem) (now : PyFloat)
    (allocated : Except PyError ℤ) (complete : StoreCall) : VeraPortAgent × Output :=
  match t.job with
  | .request _ _ _ operation _ request =>
    match w.dispatchBody request fs s.processes t.laneId operation with
    | .error exc => s.conclude task t (.error exc) complete
    | .ok (.openLane taskId capabilities claims ttlS) =>
      let (result, registry) :=
        s.registry.openLane w.rt t.laneId taskId capabilities claims ttlS now allocated
      conclude { s with registry } task t (result.map laneJson) complete
    | .ok (.renewLane fencingToken ttlS) =>
      let (result, registry) := s.registry.renew t.laneId fencingToken ttlS now
      conclude { s with registry } task t (result.map laneJson) complete
    | .ok (.closeLane fencingToken) =>
      (s.setPhase task t
        (.terminating fencingToken (s.processes.owned t.laneId fencingToken) []), .silent)
    | .ok (.perform fencingToken plan) =>
      -- only `process_list` without a process of the lane calls `authorize` not at all
      if plan.checks = [] then s.conclude task t (.ok (.dict [("processes", .list [])])) complete
      else (s.setPhase task t (.checking fencingToken plan.checks plan.work), .silent)
  | .closeSession _ todo _ _ _ =>
    let fencingToken := (todo.headD ("", 0)).2
    (s.setPhase task t
      (.terminating fencingToken (s.processes.owned t.laneId fencingToken) []), .silent)

/-- The next call of `authorize` of a task. -/
def authorize (task : ℕ) (t : Task) (fencingToken : ℤ) (check : Check) (todo : List Check)
    (work : Work) (now : PyFloat) (complete : StoreCall) : VeraPortAgent × Output :=
  match s.registry.authorize w.rt t.laneId fencingToken check.capability (some check.resourceKey)
      (some check.resourceMode) now with
  | (.error exc, registry) => conclude { s with registry } task t (.error exc) complete
  | (.ok lane, registry) =>
    ({ s with
        registry
        tasks := s.tasks.set task { t with
          phase := .check fencingToken todo work
          grants := t.grants ++ [⟨s.registry, check, now, lane⟩] } }, .silent)

/-- The process table after a piece of work. -/
def processesAfter (t : Task) (fencingToken : ℤ) (work : Work)
    (outcome : Except PyError (PyValue × String)) : ProcessTable :=
  match work, outcome with
  | .startProcess argv cwd _, .ok (_, handle) =>
    s.processes.set handle
      ⟨t.laneId, fencingToken, cwd, argv, true, false, t.grants.head?.map (·.lane)⟩
  | .terminateProcess handle _ _, .ok _ => s.processes.stop handle
  | _, _ => s.processes

/-- A round of a watchdog. -/
def watch (handle : String) (p : ManagedProcess) (now : PyFloat) (deadlinePassed : Bool) :
    VeraPortAgent :=
  let (result, registry) := s.registry.authorize w.rt p.ownerLaneId p.ownerFencingToken
    "process.exec" (some (cwdResource p.cwd)) (some .write) now
  let stopping := deadlinePassed || !result.isOk
  { s with
    registry
    processes := s.processes.set handle
      { p with watchdogTerminated := p.watchdogTerminated || stopping } }

/-- `close_session` up to its first wait. -/
def beginCloseSession (task : ℕ) (sessionId : String) (now : PyFloat) : VeraPortAgent :=
  let (lanes, registry) := s.registry.snapshot now
  let todo := (lanes.filter fun lane => startsWith lane.laneId (sessionId ++ "::")).map fun lane =>
    (lane.laneId, lane.fencingToken)
  { s with
    registry
    tasks := s.tasks.set task ⟨.closeSession sessionId todo [] [] [], "", .idle, false, []⟩ }

/-- A cancellation is raised where the task waits. A thread is not stopped by it. -/
def cancel (task : ℕ) (t : Task) : VeraPortAgent :=
  match t.phase with
  | .checking _ _ _ | .working _ _ =>
    { s with
      locks := s.locks.cancel task
      tasks := s.tasks.set task { t with detached := true } }
  | _ => { s with locks := s.locks.cancel task, tasks := s.tasks.erase task }

/-- One step, `none` if it cannot happen. -/
def step : Event → Option (VeraPortAgent × Output)
  | .deliver task sessionId request nowMs beginCall complete now =>
    match sessions.binding sessionId with
    | none => none
    | some binding =>
      if s.tasks.contains task then none
      else some (s.deliver w task binding request nowMs beginCall complete now)
  | .acquire task =>
    match s.tasks.get? task with
    | some t =>
      match t.phase, s.locks.acquire task with
      | .waiting, some locks => some ({ s.setPhase task t .holding with locks }, .silent)
      | _, _ => none
    | none => none
  | .dispatch task fs now allocated complete =>
    match s.tasks.get? task with
    | some t =>
      match t.phase with
      | .holding => some (s.dispatch w task t fs now allocated complete)
      | _ => none
    | none => none
  | .authorize task now complete =>
    match s.tasks.get? task with
    | some t =>
      match t.phase with
      | .checking fencingToken (check :: todo) work =>
        some (s.authorize w task t fencingToken check todo work now complete)
      | _ => none
    | none => none
  | .finish task outcome complete =>
    match s.tasks.get? task with
    | some t =>
      match t.phase with
      | .working fencingToken work =>
        -- the handle of a new process is a fresh random text
        if outcome.toOption.any fun r => s.processes.contains r.2 then none
        else some (conclude { s with processes := s.processesAfter t fencingToken work outcome }
          task t (outcome.map Prod.fst) complete)
      | _ => none
    | none => none
  | .terminate task outcome complete =>
    match s.tasks.get? task with
    | some t =>
      match t.phase with
      | .terminating fencingToken (handle :: todo) terminated =>
        match outcome with
        | .ok () => some (setPhase { s with processes := s.processes.stop handle } task t
            (.terminating fencingToken todo (terminated ++ [handle])), .silent)
        | .error exc => some (s.conclude task t (.error exc) complete)
      | _ => none
    | none => none
  | .closeLane task now complete =>
    match s.tasks.get? task with
    | some t =>
      match t.phase with
      | .terminating fencingToken [] terminated =>
        let (result, registry) := s.registry.close t.laneId fencingToken now
        some (conclude { s with registry } task { t with job := t.job.addTerminated terminated }
          (result.map (laneClosed terminated)) complete)
      | _ => none
    | none => none
  | .closeSession task sessionId now =>
    match sessions.binding sessionId with
    | none => none
    | some _ =>
      if s.tasks.contains task then none
      else some (s.beginCloseSession task sessionId now, .silent)
  | .nextLane task =>
    match s.tasks.get? task with
    | some t =>
      match t.job, t.phase with
      | .closeSession sessionId [] closed terminated unresolved, .idle =>
        some ({ s with tasks := s.tasks.erase task },
          .drained sessionId (closed.insertionSort (· ≤ ·)) (terminated.insertionSort (· ≤ ·))
            (unresolved.insertionSort (· ≤ ·)))
      | .closeSession _ ((laneId, _) :: _) _ _ _, .idle =>
        some ({ s with
          locks := s.locks.enter task laneId
          tasks := s.tasks.set task { t with laneId, phase := .waiting } }, .silent)
      | _, _ => none
    | none => none
  | .exit handle =>
    some ({ s with processes := s.processes.stop handle }, .silent)
  | .watchdog handle now deadlinePassed =>
    match s.processes.get? handle with
    | some p => if p.running then some (s.watch w handle p now deadlinePassed, .silent) else none
    | none => none
  | .cancel task =>
    match s.tasks.get? task with
    | some t => if t.detached then none else some (s.cancel task t, .silent)
    | none => none

/-- The state after a sequence of events, `none` if one of them cannot happen. -/
def run (s : VeraPortAgent) : List Event → Option VeraPortAgent
  | [] => some s
  | event :: events => (s.step w sessions event).bind fun next => run next.1 events

end VeraPortAgent

end VeraMesh
