import VeraMesh.Stream.Frame

/-!
# The multiplexed server

`serve_multiplexed` (`stream.py`) with its loop, which takes a permit before it reads a frame, and
the tasks `run_one`, which give the permit back when they end. The frames that come in, what the
handlers do and the order of all steps are up to the run. Nothing cancels the loop from outside.

* `ServerConfig.respond`: what `run_one` makes of the end of a handler.
* `Server.step`: what can happen next.
-/

namespace VeraMesh

open Python

/-- The arguments of `serve_multiplexed`, as its check leaves them. -/
structure ServerConfig where
  dumps : JsonDumps
  maxFrameBytes : ℕ
  maxInflight : ℕ
  maxInflight_pos : 1 ≤ maxInflight

/-- `exc.__class__.__name__.upper()`. -/
def Python.ExceptionClass.upperName : ExceptionClass → String
  | .capabilityDenied => "CAPABILITYDENIED"
  | .collisionBlocked => "COLLISIONBLOCKED"
  | .laneNotFound => "LANENOTFOUND"
  | .staleFence => "STALEFENCE"
  | .laneExpired => "LANEEXPIRED"
  | .stateStoreError => "STATESTOREERROR"
  | .idempotencyConflict => "IDEMPOTENCYCONFLICT"
  | .requestOutcomeUnknown => "REQUESTOUTCOMEUNKNOWN"
  | .requestLedgerCapacityExceeded => "REQUESTLEDGERCAPACITYEXCEEDED"
  | .fileReadLimitExceeded => "FILEREADLIMITEXCEEDED"
  | .fileVersionChanged => "FILEVERSIONCHANGED"
  | .replaceCountMismatch => "REPLACECOUNTMISMATCH"
  | .processHandleNotFound => "PROCESSHANDLENOTFOUND"
  | .processHandleOwnerMismatch => "PROCESSHANDLEOWNERMISMATCH"
  | .processOutputOffsetUnavailable => "PROCESSOUTPUTOFFSETUNAVAILABLE"
  | .processInputUnavailable => "PROCESSINPUTUNAVAILABLE"
  | .workBridgeLocalError => "WORKBRIDGELOCALERROR"
  | .workBridgePathDenied => "WORKBRIDGEPATHDENIED"
  | .streamProtocolError => "STREAMPROTOCOLERROR"
  | .frameTooLarge => "FRAMETOOLARGE"
  | .streamClosed => "STREAMCLOSED"
  | .noCurrentPath => "NOCURRENTPATH"
  | .ambiguousDelivery => "AMBIGUOUSDELIVERY"
  | .sessionAuthError => "SESSIONAUTHERROR"
  | .principalMismatch => "PRINCIPALMISMATCH"
  | .keyMismatch => "KEYMISMATCH"
  | .capabilityEscalation => "CAPABILITYESCALATION"
  | .challengeMismatch => "CHALLENGEMISMATCH"
  | .signatureInvalid => "SIGNATUREINVALID"
  | .logicalReadLaneError => "LOGICALREADLANEERROR"
  | .logicalReadLaneNotFound => "LOGICALREADLANENOTFOUND"
  | .logicalReadLaneStaleFence => "LOGICALREADLANESTALEFENCE"
  | .logicalReadLaneExpired => "LOGICALREADLANEEXPIRED"
  | .logicalReadLaneCloseIncomplete => "LOGICALREADLANECLOSEINCOMPLETE"
  | .controllerBootstrapError => "CONTROLLERBOOTSTRAPERROR"
  | .controllerIdentityMismatch => "CONTROLLERIDENTITYMISMATCH"
  | .workstationIdentityMismatch => "WORKSTATIONIDENTITYMISMATCH"
  | .gatewayOperationDenied => "GATEWAYOPERATIONDENIED"
  -- the other classes have no code of their own
  | cls => cls.code

namespace ServerConfig

variable (config : ServerConfig)

/-- `encode_frame_payload` under the limit of the server. -/
def encode (response : Response) : Except PyError (List UInt8) :=
  encodeFramePayload config.dumps config.maxFrameBytes response

/-- The bounded error for a response that is too large. -/
def tooLarge (request : Request) : Response :=
  errorResponse (requestIdOf request) "RESPONSE_FRAME_TOO_LARGE"
    s!"encoded response exceeds max_frame_bytes={config.maxFrameBytes}"

/-- The bounded error for a response that is no JSON. -/
def notSerializable (request : Request) : Response :=
  errorResponse (requestIdOf request) "RESPONSE_SERIALIZATION_ERROR"
    "handler response is not JSON-serializable"

/-- The response that `run_one` starts from: what the handler returns, or an error response. -/
def answer (request : Request) : Except PyError Response → Except PyError Response
  | .ok response => .ok response
  | .error exc =>
    if exc.isException = true then
      .ok (errorResponse (requestIdOf request) exc.cls.upperName exc.message)
    else .error exc

/-- What `run_one` does at the end of the handler: it goes on to write a response, or raises. -/
def respond (request : Request) (outcome : Except PyError Response) : Except PyError Response := do
  let response ← answer request outcome
  match config.encode response with
  | .ok _ => .ok response
  | .error exc =>
    if exc.cls = .frameTooLarge then .ok (config.tooLarge request)
    else if exc.cls = .streamProtocolError then .ok (notSerializable request)
    else .error exc

end ServerConfig

/-- The await that a task is at, or its end. -/
inductive TaskStage where
  /-- `await handler(request)`. -/
  | handling
  /-- `async with write_lock`. -/
  | locking (response : Response)
  /-- `await writer.drain()`, with the lock. -/
  | draining
  | ended

/-- A task `run_one`. -/
structure ServerTask where
  request : Request
  stage : TaskStage := .handling
  /-- What the handler has returned or raised. -/
  outcome : Option (Except PyError Response) := none

/-- The task has not given its permit back. -/
def ServerTask.active (task : ServerTask) : Bool :=
  match task.stage with
  | .ended => false
  | _ => true

inductive LoopStage where
  /-- `await capacity.acquire()`. -/
  | acquiring
  /-- `await read_frame(...)`. -/
  | reading
  /-- `await asyncio.gather(...)`. -/
  | gathering
  | ended
  deriving DecidableEq

/-- The state of `serve_multiplexed`. -/
structure Server where
  /-- The permits of the semaphore. -/
  capacity : ℕ
  loop : LoopStage := .acquiring
  /-- The tasks in the order of their start. -/
  tasks : List ServerTask := []
  /-- The task that holds `write_lock`. -/
  writer : Option ℕ := none
  /-- The frames written to the stream, with the tasks that wrote them. -/
  frames : List (ℕ × Response) := []
  /-- A task has closed the stream, because it could not write its response. -/
  broken : Bool := false

inductive ServerEvent where
  | acquired
  | frame (request : Request)
  /-- `read_frame` raises. -/
  | readError
  /-- The handler of a task ends. -/
  | handled (t : ℕ) (outcome : Except PyError Response)
  /-- A task gets the lock and writes its response. -/
  | locked (t : ℕ)
  /-- `drain` returns, or raises. -/
  | drained (t : ℕ) (ok : Bool)
  /-- `gather` returns, and the stream is closed. -/
  | gathered

namespace Server

/-- The state in which `serve_multiplexed` enters its loop. -/
def start (config : ServerConfig) : Server where
  capacity := config.maxInflight

/-- The tasks that hold a permit. -/
def active (s : Server) : ℕ := s.tasks.countP ServerTask.active

/-- The frames of one task. -/
def framesOf (s : Server) (t : ℕ) : List Response :=
  (s.frames.filter fun frame => frame.1 == t).map Prod.snd

/-- A task goes on to another stage. -/
def goTo (s : Server) (t : ℕ) (task : ServerTask) (stage : TaskStage) : Server :=
  { s with tasks := s.tasks.set t { task with stage := stage } }

/-- A task ends and gives its permit back. -/
def release (s : Server) (t : ℕ) (task : ServerTask) : Server :=
  { s.goTo t task .ended with capacity := s.capacity + 1 }

/-- The end of the handler of a task. -/
def handle (config : ServerConfig) (s : Server) (t : ℕ) (task : ServerTask)
    (outcome : Except PyError Response) : Server :=
  let task := { task with outcome := some outcome }
  match config.respond task.request outcome with
  | .ok response => s.goTo t task (.locking response)
  | .error _ => s.release t task

/-- `write_frame` up to `drain`. Nothing gets through a stream that was closed. -/
def write (config : ServerConfig) (s : Server) (t : ℕ) (task : ServerTask) (response : Response) :
    Server :=
  match config.encode response with
  | .ok _ =>
    { s.goTo t task .draining with
      writer := some t
      frames := if s.broken = true then s.frames else s.frames ++ [(t, response)] }
  | .error _ => { s.release t task with broken := true }

/-- What can happen next. -/
def step (config : ServerConfig) (s : Server) : ServerEvent → Option Server
  | .acquired =>
    if s.loop = .acquiring ∧ 0 < s.capacity then
      some { s with loop := .reading, capacity := s.capacity - 1 }
    else none
  | .frame request =>
    if s.loop = .reading then
      some { s with loop := .acquiring, tasks := s.tasks ++ [{ request }] }
    else none
  | .readError =>
    if s.loop = .reading then some { s with loop := .gathering, capacity := s.capacity + 1 }
    else none
  | .handled t outcome =>
    match s.tasks[t]? with
    | some task =>
      match task.stage with
      | .handling => some (s.handle config t task outcome)
      | _ => none
    | none => none
  | .locked t =>
    match s.tasks[t]?, s.writer with
    | some task, none =>
      match task.stage with
      | .locking response => some (s.write config t task response)
      | _ => none
    | _, _ => none
  | .drained t ok =>
    match s.tasks[t]? with
    | some task =>
      match task.stage with
      | .draining =>
        some { s.release t task with writer := none, broken := s.broken || !ok }
      | _ => none
    | none => none
  | .gathered =>
    if s.loop = .gathering ∧ s.active = 0 then some { s with loop := .ended } else none

/-- The state after the events of a run. -/
def run (config : ServerConfig) (s : Server) (events : List ServerEvent) : Option Server :=
  events.foldlM (step config) s

end Server

end VeraMesh
