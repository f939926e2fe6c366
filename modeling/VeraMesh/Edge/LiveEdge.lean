import Mathlib.Data.Fintype.Basic

/-!
# The live edge relay

The relay of `VeraMeshReferenceLiveEdge` (`verarelay_live_edge.py`) for one admitted connection.
Each direction has a pump that reads from one side and writes to the other. A side sends its bytes
and then end-of-file. What has come in waits in the buffer of the stream reader, and what was
written waits in the buffer of the transport.

At every `await` any number of other events can come first. The task of the connection itself is
not cancelled from outside.

* `Pump.step`: what can happen to one direction.
* `Relay.step`: the same for the connection, with the steps of `_accept`.
-/

namespace VeraMesh

/-- The part of `LiveEdgeConfig` that the relay depends on, as its checks leave it. -/
structure LiveEdgeConfig where
  ioChunkBytes : ℕ
  ioChunkBytes_ge : 1024 ≤ ioChunkBytes
  ioChunkBytes_le : ioChunkBytes ≤ 1048576

/-- Where a byte stream comes from. -/
inductive Side where
  | downstream
  | upstream
  deriving DecidableEq

instance : Fintype Side where
  elems := {.downstream, .upstream}
  complete side := by cases side <;> simp

/-- The await that a pump is at, or its end. -/
inductive PumpStage where
  /-- `await reader.read(io_chunk_bytes)`. -/
  | reading
  /-- `await writer.drain()` after a chunk. -/
  | draining
  /-- `await writer.drain()` after `write_eof`. -/
  | halfClosing
  | returned
  | cancelled
  | failed
  deriving DecidableEq

/-- `task.done()`. -/
def PumpStage.done : PumpStage → Bool
  | returned | cancelled | failed => true
  | reading | draining | halfClosing => false

/-- One direction of a connection. -/
structure Pump where
  /-- The bytes that have come from the side. -/
  received : List UInt8 := []
  /-- The end-of-file of the side has come. -/
  eof : Bool := false
  /-- The received bytes that were not read yet. -/
  buffer : List UInt8 := []
  stage : PumpStage := .reading
  /-- `cancel()` was called. -/
  cancelling : Bool := false
  /-- The written bytes that the transport still holds. -/
  outgoing : List UInt8 := []
  /-- The bytes that have reached the other side. -/
  delivered : List UInt8 := []
  deriving DecidableEq

inductive PumpEvent where
  /-- The next `n` bytes of the side come in. -/
  | arrive (n : ℕ)
  | arriveEof
  /-- `read` returns a chunk, and the pump writes it. -/
  | forwardChunk
  | drained
  /-- `read` returns nothing, and the pump calls `write_eof`, which a transport may not support. -/
  | forwardEof (supported : Bool)
  /-- The pump is resumed with its `CancelledError`. -/
  | cancelled
  /-- An I/O error. -/
  | fail
  /-- The transport sends `n` bytes. -/
  | flush (n : ℕ)
  deriving DecidableEq

namespace Pump

/-- The bytes that were written to the other side. -/
def forwarded (p : Pump) : List UInt8 := p.delivered ++ p.outgoing

/-- The pump goes on unless it has to stop. -/
def runs (p : Pump) (stage : PumpStage) : Bool := p.stage == stage && !p.cancelling

/-- One event of the direction whose side sends `sent`. -/
def step (config : LiveEdgeConfig) (sent : List UInt8) (p : Pump) : PumpEvent → Option Pump
  | .arrive n =>
    let bytes := (sent.drop p.received.length).take n
    if p.eof = false then
      some { p with received := p.received ++ bytes, buffer := p.buffer ++ bytes }
    else none
  | .arriveEof =>
    if p.eof = false ∧ p.received = sent then some { p with eof := true } else none
  | .forwardChunk =>
    if p.runs .reading = true ∧ p.buffer ≠ [] then
      some { p with
        buffer := p.buffer.drop config.ioChunkBytes
        outgoing := p.outgoing ++ p.buffer.take config.ioChunkBytes
        stage := .draining }
    else none
  | .drained =>
    if p.runs .draining = true then some { p with stage := .reading }
    else if p.runs .halfClosing = true then some { p with stage := .returned }
    else none
  | .forwardEof supported =>
    if p.runs .reading = true ∧ p.buffer = [] ∧ p.eof = true then
      some { p with stage := if supported = true then .halfClosing else .returned }
    else none
  | .cancelled =>
    if p.cancelling = true ∧ p.stage.done = false then some { p with stage := .cancelled } else none
  | .fail => if p.stage.done = false then some { p with stage := .failed } else none
  | .flush n =>
    some { p with outgoing := p.outgoing.drop n, delivered := p.delivered ++ p.outgoing.take n }

/-- `pending_task.cancel()` for a pump that is not done. -/
def stop (p : Pump) : Pump := { p with cancelling := !p.stage.done }

end Pump

/-- The progress of `_accept`. -/
inductive RelayStage where
  /-- `open_connection`. The other side has already been accepted. -/
  | connecting
  /-- `asyncio.wait` for the first pump to end. -/
  | relaying
  /-- `asyncio.gather` of the pumps, of which the second was cancelled. -/
  | stopping
  /-- The writers are closed and send what they hold. -/
  | closing
  | ended
  deriving DecidableEq

/-- A connection. -/
structure Relay where
  pump : Side → Pump := fun _ => {}
  stage : RelayStage := .connecting
  /-- Something has failed. -/
  ioError : Bool := false

inductive RelayEvent where
  | pump (side : Side) (event : PumpEvent)
  | connect
  | connectFailed
  /-- `_accept` is resumed when a pump has ended, and cancels the other one. -/
  | stop
  /-- Both pumps have ended, and `_accept` closes the writers. -/
  | close
  /-- `wait_closed` of both writers returns. -/
  | finish
  /-- `wait_closed` raises, which `_accept` ignores. -/
  | breakDown
  deriving DecidableEq

namespace Relay

/-- When an event of a direction can happen. -/
def allows (s : Relay) (side : Side) : PumpEvent → Bool
  | .arrive _ | .arriveEof =>
    s.stage == .relaying || s.stage == .stopping || (s.stage == .connecting && side == .downstream)
  | .flush _ => true
  | _ => s.stage == .relaying || s.stage == .stopping

/-- One event of a connection whose sides send `sent`. -/
def step (config : LiveEdgeConfig) (sent : Side → List UInt8) (s : Relay) :
    RelayEvent → Option Relay
  | .pump side event =>
    if s.allows side event = true then
      ((s.pump side).step config (sent side) event).map fun p =>
        { s with
          pump := Function.update s.pump side p
          ioError := s.ioError || event == .fail }
    else none
  | .connect => if s.stage = .connecting then some { s with stage := .relaying } else none
  | .connectFailed =>
    if s.stage = .connecting then some { s with stage := .closing, ioError := true } else none
  | .stop =>
    if s.stage = .relaying ∧ ∃ side, (s.pump side).stage.done = true then
      some { s with stage := .stopping, pump := fun side => (s.pump side).stop }
    else none
  | .close =>
    if s.stage = .stopping ∧ ∀ side, (s.pump side).stage.done = true then
      some { s with stage := .closing }
    else none
  | .finish =>
    if s.stage = .closing ∧ ∀ side, (s.pump side).outgoing = [] then some { s with stage := .ended }
    else none
  | .breakDown =>
    if s.stage = .closing then some { s with stage := .ended, ioError := true } else none

/-- The state after the events of a run. -/
def run (config : LiveEdgeConfig) (sent : Side → List UInt8) (s : Relay)
    (events : List RelayEvent) : Option Relay :=
  events.foldlM (step config sent) s

end Relay

end VeraMesh
