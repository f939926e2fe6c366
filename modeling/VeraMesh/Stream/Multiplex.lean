import VeraMesh.Stream.Frame

/-!
# The multiplexed client

`MultiplexClient` (`stream.py`): the calls of `request` with their futures, the table of pending
requests, the reader task, and `close`. A run interleaves the steps of all calls with the frames
that come in, time-outs, cancellations and errors in any order.

* `MultiplexClient.step`: what can happen next. Between two awaits a call is one step.
-/

namespace VeraMesh

open Python

/-- The arguments of `MultiplexClient` that decide which requests can be written. -/
structure ClientConfig where
  dumps : JsonDumps
  maxFrameBytes : ℕ

/-- A future. -/
inductive FutureState where
  | pending
  /-- It has the frame of this number. -/
  | result (n : ℕ)
  | exception (exc : PyError)
  | cancelled

/-- `future.done()`. -/
def FutureState.done : FutureState → Bool
  | pending => false
  | _ => true

/-- The await that a call of `request` is at, or its end. -/
inductive RequestStage where
  /-- `async with self._write_lock`. -/
  | locking
  /-- `await writer.drain()`, with the lock. -/
  | draining
  /-- `await asyncio.wait_for(future, ...)`. -/
  | waiting
  /-- `await self.close()` after a time-out, where it waits for the writer. -/
  | closing
  /-- The call has returned the frame of this number. -/
  | returned (n : ℕ)
  | raised
  deriving DecidableEq

/-- A call of `request` that got past its checks. -/
structure RequestTask where
  value : Request
  requestId : String
  /-- The number of frames that had been read before it. -/
  registeredAt : ℕ
  future : FutureState := .pending
  stage : RequestStage := .locking

/-- The call that waits for the writer to close. -/
inductive Closer where
  | call
  | request (f : ℕ)
  deriving DecidableEq

/-- The progress of `_read_loop`. -/
inductive ReaderStage where
  | starting
  /-- `await read_frame(...)`. -/
  | reading
  | ended
  | failed
  deriving DecidableEq

/-- `MultiplexClient`. -/
structure MultiplexClient where
  /-- `_pending`, with the numbers of the calls. -/
  pending : Dict String ℕ := .empty
  /-- The calls of `request` in the order of their registration. -/
  requests : List RequestTask := []
  /-- `_closed`. -/
  closed : Bool := false
  /-- The call of `close` that is at `await self.writer.wait_closed()`. -/
  closing : Option Closer := none
  /-- The call that holds `_write_lock`. -/
  writer : Option ℕ := none
  reader : ReaderStage := .starting
  /-- The frames read so far. -/
  frames : List (Dict String PyValue) := []
  /-- A call of `close` has come to its end. -/
  closeFinished : Bool := false

inductive ClientEvent where
  /-- `request` is called. -/
  | request (value : Request)
  /-- A call gets the lock and writes its request. -/
  | locked (f : ℕ)
  /-- `drain` returns, or raises. -/
  | drained (f : ℕ) (ok : Bool)
  /-- A call is resumed with its future. -/
  | resumed (f : ℕ)
  | timedOut (f : ℕ)
  /-- The caller cancels a call. -/
  | cancelled (f : ℕ)
  /-- `close` is called. -/
  | close
  /-- The wait for the writer ends, in any way. -/
  | writerClosed
  | readerStarted
  | frame (value : Dict String PyValue)
  /-- `read_frame` raises. -/
  | readError (exc : PyError)

namespace MultiplexClient

/-- A call goes on to another stage. -/
def goTo (s : MultiplexClient) (f : ℕ) (stage : RequestStage) : MultiplexClient :=
  { s with requests := s.requests.modify f fun r => { r with stage } }

/-- `future.cancel()`. -/
def cancelFuture (s : MultiplexClient) (f : ℕ) : MultiplexClient :=
  { s with
    requests := s.requests.modify f fun r =>
      { r with future := if r.future.done = true then r.future else .cancelled } }

/-- A call that holds the lock gives it back. -/
def unlock (s : MultiplexClient) : MultiplexClient := { s with writer := none }

/-- `except Exception: self._pending.pop(request_id, None); raise`. -/
def fail (s : MultiplexClient) (f : ℕ) (requestId : String) : MultiplexClient :=
  { s.goTo f .raised with pending := s.pending.erase requestId }

/-- Every pending future that is not done gets an exception, and the table is cleared. -/
def failPending (s : MultiplexClient) (exc : PyError) : MultiplexClient :=
  { s with
    requests := s.requests.mapIdx fun f r =>
      if f ∈ s.pending.values ∧ r.future.done = false then { r with future := .exception exc }
      else r
    pending := .empty }

/-- The checks of `request`, which yield the request id. -/
def check (s : MultiplexClient) (value : Request) : Except PyError String :=
  match value.get? "request_id" with
  | some (.str requestId) =>
    if requestId = "" then .error ⟨.valueError, "request_id is required"⟩
    else if s.closed = true then .error ⟨.streamClosed, "multiplex client is closed"⟩
    else if s.pending.contains requestId = true then
      .error ⟨.streamProtocolError, "duplicate in-flight request_id: " ++ requestId⟩
    else .ok requestId
  | _ => .error ⟨.valueError, "request_id is required"⟩

/-- `request` up to its first await. -/
def register (s : MultiplexClient) (value : Request) (requestId : String) : MultiplexClient :=
  { s with
    pending := s.pending.set requestId s.requests.length
    requests := s.requests ++ [{ value, requestId, registeredAt := s.frames.length }] }

/-- `write_frame` up to `drain`. -/
def write (config : ClientConfig) (s : MultiplexClient) (f : ℕ) (r : RequestTask) :
    MultiplexClient :=
  match encodeFramePayload config.dumps config.maxFrameBytes r.value with
  | .ok _ => { s.goTo f .draining with writer := some f }
  | .error _ => s.fail f r.requestId

/-- The time-out of a call: it cancels its future, removes its entry and calls `close`. -/
def timeOut (s : MultiplexClient) (f : ℕ) (requestId : String) : MultiplexClient :=
  let s := { s.cancelFuture f with pending := s.pending.erase requestId }
  if s.closed = true then { s.fail f requestId with closeFinished := true }
  else { s.goTo f .closing with closed := true, closing := some (.request f) }

/-- The `finally` of `close`. -/
def finishClose (s : MultiplexClient) : MultiplexClient :=
  let s := s.failPending ⟨.streamClosed, "stream closed"⟩
  { s with
    closing := none
    closeFinished := true
    reader := if s.reader = .failed then .failed else .ended }

/-- `except Exception` of `_read_loop`. -/
def failReader (s : MultiplexClient) (exc : PyError) : MultiplexClient :=
  { s.failPending exc with closed := true, reader := .failed }

/-- One turn of `_read_loop` with a frame. -/
def receive (s : MultiplexClient) (value : Dict String PyValue) : MultiplexClient :=
  let n := s.frames.length
  let s := { s with frames := s.frames ++ [value] }
  match value.get? "request_id" with
  | some (.str requestId) =>
    match s.pending.get? requestId with
    | some f =>
      { s with
        pending := s.pending.erase requestId
        requests := s.requests.modify f fun r =>
          if r.future.done = true then r else { r with future := .result n }
        reader := if s.closed = true then .ended else .reading }
    | none => s.failReader ⟨.streamProtocolError, "unsolicited response: " ++ requestId⟩
  | _ => s.failReader ⟨.streamProtocolError, "response request_id is required"⟩

/-- A call that is cancelled by its caller. Its entry stays in the table. -/
def cancel (s : MultiplexClient) (f : ℕ) : RequestStage → Option MultiplexClient
  | .locking => some (s.goTo f .raised)
  | .draining => some (s.unlock.goTo f .raised)
  | .waiting => some ((s.cancelFuture f).goTo f .raised)
  -- the `finally` of `close` runs
  | .closing => some (s.finishClose.goTo f .raised)
  | .returned _ | .raised => none

/-- A call whose future is done goes on. -/
def resume (s : MultiplexClient) (f : ℕ) (requestId : String) :
    FutureState → Option MultiplexClient
  | .result n => some (s.goTo f (.returned n))
  | .exception _ => some (s.fail f requestId)
  | .pending | .cancelled => none

/-- What can happen next. A call of `request` that is refused changes nothing. -/
def step (config : ClientConfig) (s : MultiplexClient) : ClientEvent → Option MultiplexClient
  | .request value =>
    match s.check value with
    | .ok requestId => some (s.register value requestId)
    | .error _ => some s
  | .locked f =>
    match s.requests[f]? with
    | some r => if r.stage = .locking ∧ s.writer = none then some (s.write config f r) else none
    | none => none
  | .drained f ok =>
    match s.requests[f]? with
    | some r =>
      if r.stage = .draining then
        some (if ok = true then s.unlock.goTo f .waiting else s.unlock.fail f r.requestId)
      else none
    | none => none
  | .resumed f =>
    match s.requests[f]? with
    | some r => if r.stage = .waiting then s.resume f r.requestId r.future else none
    | none => none
  | .timedOut f =>
    match s.requests[f]? with
    | some r => if r.stage = .waiting then some (s.timeOut f r.requestId) else none
    | none => none
  | .cancelled f =>
    match s.requests[f]? with
    | some r => s.cancel f r.stage
    | none => none
  | .close =>
    some (if s.closed = true then { s with closeFinished := true }
      else { s with closed := true, closing := some .call })
  | .writerClosed =>
    match s.closing with
    | some .call => some s.finishClose
    | some (.request f) =>
      match s.requests[f]? with
      | some r => some (s.finishClose.fail f r.requestId)
      | none => none
    | none => none
  | .readerStarted =>
    if s.reader = .starting then
      some { s with reader := if s.closed = true then .ended else .reading }
    else none
  | .frame value => if s.reader = .reading then some (s.receive value) else none
  | .readError exc => if s.reader = .reading then some (s.failReader exc) else none

/-- The state after the events of a run. -/
def run (config : ClientConfig) (s : MultiplexClient) (events : List ClientEvent) :
    Option MultiplexClient :=
  events.foldlM (step config) s

end MultiplexClient

end VeraMesh
