import VeraMesh.Agent.RdcSurface
import VeraMesh.Lib.Utf8Decode

/-!
# The output of managed processes

Two threads take chunks from the pipes of a managed process (`_drain_pipe` in `rdc_surface.py`) and
keep the first `max_output_bytes` bytes of each stream. `process_output` answers with a page of
both. Chunks come in any order, and calls come in between.

* `captured`: what is kept of the bytes that were taken from a pipe.
* `written`: the bytes that were taken from a pipe in a run.
* `OutputCaptured`: what holds after every run.
-/

namespace VeraMesh

open Python Except

/-- The output streams of a process. -/
inductive OutputPipe where
  | stdout | stderr
  deriving DecidableEq

/-- What is kept of one stream: `stdout`, `stdout_total_bytes` and `stdout_truncated`, or the same
of `stderr`. -/
structure CapturedStream where
  retained : List UInt8
  totalBytes : ℕ
  truncated : Bool
  deriving DecidableEq

/-- One stream in an answer of `process_output`. -/
structure StreamPage where
  chunk : List UInt8
  offset : ℕ
  nextOffset : ℕ
  retainedBytes : ℕ
  totalBytes : ℕ
  truncated : Bool
  deriving DecidableEq

namespace CapturedStream

/-- The stream of a process that has just started. -/
def empty : CapturedStream := ⟨[], 0, false⟩

/-- A chunk in the loop of `_drain_pipe`. -/
def drain (maxOutputBytes : ℕ) (target : CapturedStream) (chunk : List UInt8) : CapturedStream :=
  let remaining : ℤ := maxOutputBytes - target.retained.length
  { retained :=
      if 0 < remaining then target.retained ++ chunk.take remaining.toNat else target.retained
    totalBytes := target.totalBytes + chunk.length
    truncated := if max 0 remaining < chunk.length then true else target.truncated }

/-- The page from `offset` on. -/
def page (target : CapturedStream) (offset maxBytes : ℕ) : StreamPage :=
  let chunk := (target.retained.drop offset).take maxBytes
  ⟨chunk, offset, offset + chunk.length, target.retained.length, target.totalBytes,
    target.truncated⟩

/-- The offset lies beyond what was kept of a stream that was cut. -/
def Unavailable (target : CapturedStream) (offset : ℕ) : Prop :=
  target.retained.length < offset ∧ target.truncated = true

instance (target : CapturedStream) (offset : ℕ) : Decidable (target.Unavailable offset) :=
  inferInstanceAs (Decidable (_ ∧ _))

end CapturedStream

/-- The text of a page. -/
def StreamPage.text (page : StreamPage) : List Char := decodeReplace page.chunk

/-- `_ManagedProcess`. -/
structure CapturedProcess where
  ownerLaneId : String
  ownerFencingToken : ℤ
  pid : ℤ
  cwd : Path
  argv : List String
  startedAtNs : ℤ
  deadlineNs : ℤ
  /-- `process.returncode`, which `Popen` keeps once it is known. -/
  returncode : Option ℤ
  watchdogTerminated : Bool
  stdout : CapturedStream
  stderr : CapturedStream
  deriving DecidableEq

/-- `_processes`. -/
abbrev CapturedProcesses := Dict String CapturedProcess

/-- `_status_json`. -/
structure ProcessStatus where
  processHandle : String
  pid : ℤ
  running : Bool
  returncode : Option ℤ
  cwd : String
  startedAtNs : ℤ
  deadlineNs : ℤ
  watchdogTerminated : Bool
  deriving DecidableEq

/-- An answer of `process_output`. -/
structure OutputAnswer where
  status : ProcessStatus
  stdout : StreamPage
  stderr : StreamPage
  deriving DecidableEq

namespace OutputAnswer

/-- The part of the answer for one stream. -/
def page (answer : OutputAnswer) : OutputPipe → StreamPage
  | .stdout => answer.stdout
  | .stderr => answer.stderr

/-- The dictionary that is returned. -/
def toJson (answer : OutputAnswer) : PyValue :=
  let status := answer.status
  .dict [("process_handle", .str status.processHandle), ("pid", .int status.pid),
    ("running", .bool status.running),
    ("returncode", match status.returncode with | none => .none | some code => .int code),
    ("cwd", .str status.cwd), ("started_at_ns", .int status.startedAtNs),
    ("deadline_ns", .int status.deadlineNs),
    ("watchdog_terminated", .bool status.watchdogTerminated),
    ("stdout", .str (String.ofList answer.stdout.text)),
    ("stderr", .str (String.ofList answer.stderr.text)),
    ("stdout_offset", .int answer.stdout.offset), ("stderr_offset", .int answer.stderr.offset),
    ("stdout_next_offset", .int answer.stdout.nextOffset),
    ("stderr_next_offset", .int answer.stderr.nextOffset),
    ("stdout_retained_bytes", .int answer.stdout.retainedBytes),
    ("stderr_retained_bytes", .int answer.stderr.retainedBytes),
    ("stdout_total_bytes", .int answer.stdout.totalBytes),
    ("stderr_total_bytes", .int answer.stderr.totalBytes),
    ("stdout_truncated", .bool answer.stdout.truncated),
    ("stderr_truncated", .bool answer.stderr.truncated)]

end OutputAnswer

namespace CapturedProcess

/-- What the other operations see of the process. -/
def managed (item : CapturedProcess) : ManagedProcess where
  ownerLaneId := item.ownerLaneId
  ownerFencingToken := item.ownerFencingToken
  cwd := item.cwd
  argv := item.argv
  running := item.returncode.isNone
  watchdogTerminated := item.watchdogTerminated
  startedUnder := none

/-- The stream that a pipe leads to. -/
def stream (item : CapturedProcess) : OutputPipe → CapturedStream
  | .stdout => item.stdout
  | .stderr => item.stderr

/-- A round of `_drain_pipe`. It returns at an empty chunk. -/
def drainPipe (maxOutputBytes : ℕ) (item : CapturedProcess) (pipe : OutputPipe)
    (chunk : List UInt8) : CapturedProcess :=
  if chunk = [] then item
  else
    match pipe with
    | .stdout => { item with stdout := item.stdout.drain maxOutputBytes chunk }
    | .stderr => { item with stderr := item.stderr.drain maxOutputBytes chunk }

/-- `process.poll()`, for what the operating system knows of the end of the process. -/
def poll (item : CapturedProcess) (exitStatus : Option ℤ) : CapturedProcess :=
  { item with returncode := item.returncode.or exitStatus }

/-- `_status_json` after its `poll()`. -/
def statusJson (item : CapturedProcess) (handle : String) : ProcessStatus :=
  ⟨handle, item.pid, item.returncode.isNone, item.returncode, item.cwd.asPosix, item.startedAtNs,
    item.deadlineNs, item.watchdogTerminated⟩

end CapturedProcess

/-! ## Reading -/

/-- A call of `process_output`: its arguments, and what it finds. -/
structure OutputCall where
  laneId : String
  fencingToken : ℤ
  processHandle : String
  stdoutOffset : PyValue
  stderrOffset : PyValue
  maxBytes : PyValue
  registry : LaneRegistry
  now : PyFloat
  exitStatus : Option ℤ

/-- The offset for one stream. -/
def OutputCall.offset (call : OutputCall) : OutputPipe → PyValue
  | .stdout => call.stdoutOffset
  | .stderr => call.stderrOffset

/-- A process with the part of its output that is asked for. -/
structure OutputRange where
  item : CapturedProcess
  stdoutOffset : ℕ
  stderrOffset : ℕ
  maxBytes : ℕ

/-- The offset for one stream. -/
def OutputRange.offset (range : OutputRange) : OutputPipe → ℕ
  | .stdout => range.stdoutOffset
  | .stderr => range.stderrOffset

namespace CapturedProcesses

variable (rt : Runtime) (x : LocalExecutor) (maxOutputBytes : ℕ) (t : CapturedProcesses)

/-- `_owned_process`. -/
def ownedProcess (laneId : String) (fencingToken : ℤ) (processHandle : String) :
    Except PyError CapturedProcess :=
  match t.get? processHandle with
  | none => .error ⟨.processHandleNotFound, processHandle⟩
  | some item =>
    if item.managed.ownedBy laneId fencingToken then .ok item
    else .error ⟨.processHandleOwnerMismatch, processHandle⟩

/-- `process_output` up to the call of `authorize`, and with it. -/
def admitted (call : OutputCall) : Except PyError OutputRange := do
  RdcSurface.requireProcessPolicy x
  let stdoutOffset ← requireInt call.stdoutOffset (0 ≤ ·)
    ⟨.valueError, "stdout_offset must be a non-negative integer"⟩
  let stderrOffset ← requireInt call.stderrOffset (0 ≤ ·)
    ⟨.valueError, "stderr_offset must be a non-negative integer"⟩
  let maxBytes ← requireInt call.maxBytes (fun n => 1 ≤ n ∧ n ≤ 65536)
    ⟨.valueError, "max_bytes must be in 1..65536"⟩
  let item ← t.ownedProcess call.laneId call.fencingToken call.processHandle
  let _ ← (call.registry.authorize rt call.laneId call.fencingToken "process.inspect"
    (some (cwdResource item.cwd)) (some .read) call.now).1
  return ⟨item, stdoutOffset.toNat, stderrOffset.toNat, maxBytes.toNat⟩

/-- `process_output`. -/
def processOutput (call : OutputCall) : Except PyError OutputAnswer × CapturedProcesses :=
  match t.admitted rt x call with
  | .error err => (.error err, t)
  | .ok range =>
    if range.item.stdout.Unavailable range.stdoutOffset then
      (.error ⟨.processOutputOffsetUnavailable, "stdout offset was not retained"⟩, t)
    else if range.item.stderr.Unavailable range.stderrOffset then
      (.error ⟨.processOutputOffsetUnavailable, "stderr offset was not retained"⟩, t)
    else
      -- the answer polls after the buffers were copied
      let item := range.item.poll call.exitStatus
      (.ok ⟨item.statusJson call.processHandle, item.stdout.page range.stdoutOffset range.maxBytes,
        item.stderr.page range.stderrOffset range.maxBytes⟩, t.set call.processHandle item)

end CapturedProcesses

/-! ## Runs -/

/-- One step of the processes, of their threads, or of a caller. -/
inductive OutputEvent where
  /-- `_start_process_sync`. -/
  | start (handle laneId : String) (fencingToken pid : ℤ) (cwd : Path) (argv : List String)
      (startedAtNs deadlineNs : ℤ)
  /-- A thread takes a chunk from a pipe. -/
  | drain (handle : String) (pipe : OutputPipe) (chunk : List UInt8)
  /-- A poll outside of `process_output`. -/
  | poll (handle : String) (exitStatus : Option ℤ)
  /-- The watchdog is about to terminate a process. -/
  | watchdog (handle : String)
  | processOutput (call : OutputCall)

/-- The bytes that were taken from a pipe. -/
def written (handle : String) (pipe : OutputPipe) : List OutputEvent → List UInt8
  | [] => []
  | .drain handle' pipe' chunk :: events =>
    if handle' = handle ∧ pipe' = pipe then chunk ++ written handle pipe events
    else written handle pipe events
  | _ :: events => written handle pipe events

namespace CapturedProcesses

variable (rt : Runtime) (x : LocalExecutor) (maxOutputBytes : ℕ)

/-- One step, `none` if it cannot happen. -/
def step (t : CapturedProcesses) : OutputEvent → Option CapturedProcesses
  | .start handle laneId fencingToken pid cwd argv startedAtNs deadlineNs =>
    -- the handle is a fresh random text
    if t.contains handle then none
    else some (t.set handle ⟨laneId, fencingToken, pid, cwd, argv, startedAtNs, deadlineNs, none,
      false, .empty, .empty⟩)
  | .drain handle pipe chunk =>
    (t.get? handle).map fun item => t.set handle (item.drainPipe maxOutputBytes pipe chunk)
  | .poll handle exitStatus => (t.get? handle).map fun item => t.set handle (item.poll exitStatus)
  | .watchdog handle =>
    (t.get? handle).map fun item => t.set handle { item with watchdogTerminated := true }
  | .processOutput call => some (t.processOutput rt x call).2

/-- The table after a sequence of events, `none` if one of them cannot happen. -/
def run (t : CapturedProcesses) : List OutputEvent → Option CapturedProcesses
  | [] => some t
  | event :: events => (t.step rt x maxOutputBytes event).bind fun next => run next events

end CapturedProcesses

/-! ## What is kept -/

/-- What is kept of the bytes that were taken from a pipe. -/
def captured (maxOutputBytes : ℕ) (bytes : List UInt8) : CapturedStream :=
  ⟨bytes.take maxOutputBytes, bytes.length, decide (maxOutputBytes < bytes.length)⟩

/-- A chunk may lie on both sides of the limit. -/
theorem drain_captured (maxOutputBytes : ℕ) (bytes chunk : List UInt8) :
    (captured maxOutputBytes bytes).drain maxOutputBytes chunk =
      captured maxOutputBytes (bytes ++ chunk) := by
  have hlength : ((captured maxOutputBytes bytes).retained.length : ℤ) =
      min maxOutputBytes bytes.length := by
    show ((bytes.take maxOutputBytes).length : ℤ) = _
    rw [List.length_take, Nat.cast_min]
  unfold CapturedStream.drain
  rw [hlength, captured, captured, CapturedStream.mk.injEq]
  refine ⟨?_, (List.length_append).symm, ?_⟩
  · rw [List.take_append]
    split_ifs with hroom
    · have hfits : ((maxOutputBytes : ℤ) - min maxOutputBytes bytes.length).toNat =
          maxOutputBytes - bytes.length := by omega
      rw [hfits]
    · have hfull : maxOutputBytes - bytes.length = 0 := by omega
      rw [hfull, List.take_zero, List.append_nil]
  · rw [List.length_append]
    split_ifs with hover
    · exact (decide_eq_true (by omega)).symm
    · exact decide_eq_decide.mpr (by omega)

theorem written_processOutput (handle : String) (pipe : OutputPipe) (call : OutputCall)
    (events : List OutputEvent) :
    written handle pipe (.processOutput call :: events) = written handle pipe events := rfl

/-- What was taken in two parts of a run. -/
theorem written_append (handle : String) (pipe : OutputPipe) (before events : List OutputEvent) :
    written handle pipe (before ++ events) =
      written handle pipe before ++ written handle pipe events := by
  induction before with
  | nil => rfl
  | cons event before ih =>
    cases event with
    | drain handle' pipe' chunk =>
      rw [List.cons_append, written, written, ih]
      split_ifs
      · rw [List.append_assoc]
      · rfl
    | start | poll | watchdog | processOutput => exact ih

namespace CapturedProcesses

variable {rt : Runtime} {x : LocalExecutor} {maxOutputBytes : ℕ} {t t' : CapturedProcesses}
  {handle : String} {item : CapturedProcess} {pipe : OutputPipe} {event : OutputEvent}
  {before events : List OutputEvent} {call : OutputCall} {answer : OutputAnswer}
  {range : OutputRange}

/-- What is kept of a pipe, nothing for a process that does not exist. -/
def stream (t : CapturedProcesses) (handle : String) (pipe : OutputPipe) : CapturedStream :=
  ((t.get? handle).map (·.stream pipe)).getD .empty

theorem stream_of_get? (h : t.get? handle = some item) :
    t.stream handle pipe = item.stream pipe := by
  rw [stream, h]
  rfl

/-- Replacing a process by one with the same output changes no stream. -/
theorem stream_set {handle' : String} {item' : CapturedProcess}
    (hstream : ∀ pipe, item'.stream pipe = t.stream handle' pipe) :
    stream (t.set handle' item') handle pipe = t.stream handle pipe := by
  by_cases hh : handle = handle'
  · subst hh
    rw [stream_of_get? (Dict.get?_set_self _ _ _), hstream]
  · rw [stream, Dict.get?_set_ne _ _ hh, stream]

/-- A chunk goes to the stream of its pipe. -/
theorem stream_drainPipe (item : CapturedProcess) (pipe' : OutputPipe) (chunk : List UInt8) :
    (item.drainPipe maxOutputBytes pipe' chunk).stream pipe =
      if pipe' = pipe ∧ chunk ≠ [] then (item.stream pipe).drain maxOutputBytes chunk
      else item.stream pipe := by
  unfold CapturedProcess.drainPipe
  by_cases hchunk : chunk = []
  · rw [if_pos hchunk, if_neg (fun h => h.2 hchunk)]
  · rw [if_neg hchunk]
    cases pipe' <;> cases pipe <;> simp [hchunk, CapturedProcess.stream]

/-- An admitted call has found its process, and its arguments are numbers in their ranges. -/
theorem admitted_eq_ok (h : t.admitted rt x call = .ok range) :
    t.get? call.processHandle = some range.item ∧
      (∀ pipe, call.offset pipe = .int (range.offset pipe)) ∧
      call.maxBytes = .int range.maxBytes ∧ 1 ≤ range.maxBytes ∧ range.maxBytes ≤ 65536 := by
  simp only [admitted, bind_eq_ok, pure_eq_ok, requireInt_eq_ok, decide_eq_true_eq] at h
  obtain ⟨_, -, o, ⟨hstdout, ho⟩, e, ⟨hstderr, he⟩, m, ⟨hmax, hm⟩, item, hitem, _, -, rfl⟩ := h
  have hget : t.get? call.processHandle = some item := by
    unfold ownedProcess at hitem
    split at hitem
    · cases hitem
    · next found hfound =>
      split_ifs at hitem
      · rw [hfound, Except.ok.inj hitem]
  refine ⟨hget, fun pipe => ?_, ?_, ?_, ?_⟩
  · cases pipe with
    | stdout => exact hstdout.trans (congrArg PyValue.int (Int.toNat_of_nonneg ho).symm)
    | stderr => exact hstderr.trans (congrArg PyValue.int (Int.toNat_of_nonneg he).symm)
  · exact hmax.trans (congrArg PyValue.int (Int.toNat_of_nonneg (by omega)).symm)
  · show 1 ≤ m.toNat
    omega
  · show m.toNat ≤ 65536
    omega

/-- The agent plans what an admitted call does. -/
theorem plan_of_admitted (h : t.admitted rt x call = .ok range) :
    RdcSurface.processOutput x (t.mapValues CapturedProcess.managed) call.laneId call.fencingToken
      call.processHandle call.stdoutOffset call.stderrOffset call.maxBytes =
        .ok ⟨[⟨"process.inspect", cwdResource range.item.cwd, .read⟩], .processOutput
          call.processHandle range.item.cwd range.stdoutOffset range.stderrOffset
          range.maxBytes⟩ := by
  obtain ⟨hget, hoffset, hmax, hone, hmost⟩ := admitted_eq_ok h
  simp only [admitted, bind_eq_ok, pure_eq_ok, requireInt_eq_ok] at h
  obtain ⟨_, hpolicy, _, -, _, -, _, -, item, hitem, _, -, rfl⟩ := h
  have howned : item.managed.ownedBy call.laneId call.fencingToken = true := by
    unfold ownedProcess at hitem
    rw [hget] at hitem
    dsimp only at hitem
    split_ifs at hitem with howned
    exact howned
  have hitem' : RdcSurface.ownedProcess (t.mapValues CapturedProcess.managed) call.laneId
      call.fencingToken call.processHandle = .ok item.managed := by
    rw [RdcSurface.ownedProcess, Dict.get?_mapValues, hget]
    exact if_pos howned
  simp only [RdcSurface.processOutput, RdcSurface.planOn, bind_eq_ok, pure_eq_ok, requireInt_eq_ok]
  exact ⟨_, hpolicy, _, ⟨hoffset .stdout, decide_eq_true (Int.natCast_nonneg _)⟩, _,
    ⟨hoffset .stderr, decide_eq_true (Int.natCast_nonneg _)⟩, _,
    ⟨hmax, decide_eq_true ⟨by omega, by omega⟩⟩, _, hitem', rfl⟩

/-- `process_output` keeps all streams. -/
theorem stream_processOutput : stream (t.processOutput rt x call).2 handle pipe =
    t.stream handle pipe := by
  unfold processOutput
  split
  · rfl
  · next range hadmit =>
    split_ifs
    · rfl
    · rfl
    · apply stream_set
      intro pipe'
      rw [stream_of_get? (admitted_eq_ok hadmit).1]
      cases pipe' <;> rfl

/-- A step moves the streams by what was taken from the pipes. -/
theorem stream_step (h : t.step rt x maxOutputBytes event = some t')
    (hbefore : ∀ handle pipe, t.stream handle pipe =
      captured maxOutputBytes (written handle pipe before)) (handle : String) (pipe : OutputPipe) :
    t'.stream handle pipe = captured maxOutputBytes (written handle pipe (before ++ [event])) := by
  rw [written_append]
  -- all steps but that of a thread take nothing
  have hkeep : t'.stream handle pipe = t.stream handle pipe → written handle pipe [event] = [] →
      t'.stream handle pipe =
        captured maxOutputBytes (written handle pipe before ++ written handle pipe [event]) := by
    intro hstream hwritten
    rw [hstream, hwritten, List.append_nil, hbefore]
  cases event with
  | start handle' laneId fencingToken pid cwd argv startedAtNs deadlineNs =>
    apply hkeep ?_ rfl
    rw [step] at h
    split_ifs at h with hfresh
    rw [← Option.some.inj h]
    apply stream_set
    intro pipe'
    have hnone : t.get? handle' = none := by
      rw [Bool.not_eq_true] at hfresh
      exact Dict.contains_eq_false_iff.mp hfresh
    rw [stream, hnone]
    cases pipe' <;> rfl
  | drain handle' pipe' chunk =>
    obtain ⟨item, hget, rfl⟩ := Option.map_eq_some_iff.mp h
    have hitem : item.stream pipe = t.stream handle' pipe := (stream_of_get? hget).symm
    by_cases hmine : handle' = handle ∧ pipe' = pipe
    · obtain ⟨rfl, rfl⟩ := hmine
      rw [stream_of_get? (Dict.get?_set_self _ _ _), stream_drainPipe, hitem, hbefore]
      have hchunk : written handle' pipe' [.drain handle' pipe' chunk] = chunk := by
        rw [written, if_pos ⟨rfl, rfl⟩, written, List.append_nil]
      rw [hchunk, ← drain_captured]
      split_ifs with hne
      · rfl
      · obtain rfl : chunk = [] := by simpa using hne
        rw [drain_captured, List.append_nil]
    · apply hkeep
      · by_cases hh : handle = handle'
        · subst hh
          rw [stream_of_get? (Dict.get?_set_self _ _ _), stream_drainPipe, hitem,
            if_neg fun hpipe => hmine ⟨rfl, hpipe.1⟩]
        · rw [stream, Dict.get?_set_ne _ _ hh, stream]
      · rw [written, if_neg hmine, written]
  | poll handle' exitStatus =>
    apply hkeep ?_ rfl
    obtain ⟨item, hget, rfl⟩ := Option.map_eq_some_iff.mp h
    apply stream_set
    intro pipe'
    rw [stream_of_get? hget]
    cases pipe' <;> rfl
  | watchdog handle' =>
    apply hkeep ?_ rfl
    obtain ⟨item, hget, rfl⟩ := Option.map_eq_some_iff.mp h
    apply stream_set
    intro pipe'
    rw [stream_of_get? hget]
    cases pipe' <;> rfl
  | processOutput call =>
    apply hkeep ?_ rfl
    rw [← Option.some.inj h]
    exact stream_processOutput

/-- A run moves the streams by what was taken from the pipes. -/
theorem stream_run (h : t.run rt x maxOutputBytes events = some t')
    (hbefore : ∀ handle pipe, t.stream handle pipe =
      captured maxOutputBytes (written handle pipe before)) (handle : String) (pipe : OutputPipe) :
    t'.stream handle pipe = captured maxOutputBytes (written handle pipe (before ++ events)) := by
  induction events generalizing t before with
  | nil =>
    obtain rfl : t = t' := Option.some.inj h
    rw [List.append_nil, hbefore]
  | cons event events ih =>
    obtain ⟨next, hstep, hrest⟩ := Option.bind_eq_some_iff.mp h
    rw [List.append_cons]
    exact ih hrest fun handle pipe => stream_step hstep hbefore handle pipe

/-- No byte was taken before the first process. -/
theorem stream_init (handle : String) (pipe : OutputPipe) :
    stream .empty handle pipe = captured maxOutputBytes (written handle pipe []) := by
  rw [written, captured, List.take_nil]
  rfl

/-! ## Pages -/

/-- What an answer is made of. -/
theorem processOutput_eq_ok (h : (t.processOutput rt x call).1 = .ok answer) :
    ∃ range, t.admitted rt x call = .ok range ∧
      (∀ pipe, answer.page pipe =
        (t.stream call.processHandle pipe).page (range.offset pipe) range.maxBytes) ∧
      answer.status.running = (range.item.returncode.or call.exitStatus).isNone := by
  unfold processOutput at h
  split at h
  · cases h
  · next range hadmit =>
    refine ⟨range, hadmit, ?_⟩
    have hget := (admitted_eq_ok hadmit).1
    split_ifs at h
    obtain rfl := Except.ok.inj h
    refine ⟨fun pipe => ?_, rfl⟩
    rw [stream_of_get? hget]
    cases pipe <;> rfl

/-- An admitted call is answered unless an offset is not available. -/
theorem processOutput_isOk_iff (h : t.admitted rt x call = .ok range) :
    (∃ answer, (t.processOutput rt x call).1 = .ok answer) ↔
      ∀ pipe, ¬(t.stream call.processHandle pipe).Unavailable (range.offset pipe) := by
  have hget := (admitted_eq_ok h).1
  simp only [stream_of_get? hget]
  unfold processOutput
  rw [h]
  dsimp only
  split_ifs with hstdout hstderr
  · simp only [exists_false, false_iff, not_forall, not_not]
    exact ⟨.stdout, hstdout⟩
  · simp only [exists_false, false_iff, not_forall, not_not]
    exact ⟨.stderr, hstderr⟩
  · simp only [Except.ok.injEq, exists_eq', true_iff]
    intro pipe
    cases pipe with
    | stdout => exact hstdout
    | stderr => exact hstderr

/-- An admitted call that is not answered says which offset is not available. -/
theorem processOutput_error (h : t.admitted rt x call = .ok range) {err : PyError}
    (herr : (t.processOutput rt x call).1 = .error err) :
    err.cls = .processOutputOffsetUnavailable := by
  unfold processOutput at herr
  rw [h] at herr
  dsimp only at herr
  split_ifs at herr
  · rw [← Except.error.inj herr]
  · rw [← Except.error.inj herr]

theorem unavailable_captured {bytes : List UInt8} {offset : ℕ} :
    (captured maxOutputBytes bytes).Unavailable offset ↔
      maxOutputBytes < offset ∧ maxOutputBytes < bytes.length := by
  show (bytes.take maxOutputBytes).length < offset ∧
    decide (maxOutputBytes < bytes.length) = true ↔ _
  rw [List.length_take, decide_eq_true_iff]
  omega

/-- A page of what was kept once and one of what is kept later, which begins where the first ends,
are one page together. -/
theorem join_pages {l l' : List UInt8} (hfront : l <+: l') (offset k m : ℕ) :
    (l.drop offset).take k ++ (l'.drop (offset + ((l.drop offset).take k).length)).take m =
      (l'.drop offset).take (((l.drop offset).take k).length +
        ((l'.drop (offset + ((l.drop offset).take k).length)).take m).length) := by
  have hpage : (l.drop offset).take k <+: l'.drop offset :=
    (List.take_prefix k _).trans (hfront.drop offset)
  have hfirst := List.prefix_iff_eq_take.mp hpage
  generalize (l.drop offset).take k = chunk at hfirst
  have hsecond := List.prefix_iff_eq_take.mp
    (List.take_prefix m (l'.drop (offset + chunk.length)))
  rw [List.take_add, List.drop_drop, ← hfirst, ← hsecond]

/-- **Output capture.** What holds of the processes after a run. -/
structure OutputCaptured (rt : Runtime) (x : LocalExecutor) (maxOutputBytes : ℕ)
    (events : List OutputEvent) (t : CapturedProcesses) : Prop where
  /-- The first bytes are kept. -/
  retained : ∀ handle item pipe, t.get? handle = some item →
    (item.stream pipe).retained = (written handle pipe events).take maxOutputBytes
  totalBytes : ∀ handle item pipe, t.get? handle = some item →
    (item.stream pipe).totalBytes = (written handle pipe events).length
  truncated : ∀ handle item pipe, t.get? handle = some item →
    ((item.stream pipe).truncated = true ↔ maxOutputBytes < (written handle pipe events).length)
  /-- An answer has the bytes from the offset on. -/
  answered : ∀ call answer, (t.processOutput rt x call).1 = .ok answer → ∀ pipe,
    ∃ offset maxBytes : ℕ, call.offset pipe = .int offset ∧ call.maxBytes = .int maxBytes ∧
      (answer.page pipe).chunk = (((written call.processHandle pipe events).take
        maxOutputBytes).drop offset).take maxBytes ∧
      (answer.page pipe).chunk.length ≤ maxBytes ∧
      (answer.page pipe).nextOffset = offset + (answer.page pipe).chunk.length
  /-- An answer to a later call at the next offset goes on without gap or overlap. -/
  continued : ∀ call answer more t' call' answer', (t.processOutput rt x call).1 = .ok answer →
    run rt x maxOutputBytes (t.processOutput rt x call).2 more = some t' →
    (t'.processOutput rt x call').1 = .ok answer' → call'.processHandle = call.processHandle →
    ∀ pipe, call'.offset pipe = .int (answer.page pipe).nextOffset →
      (answer.page pipe).chunk ++ (answer'.page pipe).chunk =
        (((written call.processHandle pipe (events ++ more)).take maxOutputBytes).drop
          (answer.page pipe).offset).take
          ((answer.page pipe).chunk.length + (answer'.page pipe).chunk.length)
  /-- A call that passes the other checks is refused for an offset that was not kept. -/
  refused : ∀ call range, t.admitted rt x call = .ok range →
    ((∃ err, (t.processOutput rt x call).1 = .error err) ↔
      ∃ pipe offset, call.offset pipe = .int offset ∧ (maxOutputBytes : ℤ) < offset ∧
        maxOutputBytes < (written call.processHandle pipe events).length) ∧
    ∀ err, (t.processOutput rt x call).1 = .error err → err.cls = .processOutputOffsetUnavailable

/-- The invariant holds in every state that is reached, for all processes and both pipes. -/
theorem outputs_captured (hrun : run rt x maxOutputBytes .empty events = some t) :
    OutputCaptured rt x maxOutputBytes events t where
  retained handle item pipe hget := by
    have hstream := stream_run hrun stream_init handle pipe
    rw [List.nil_append, stream_of_get? hget] at hstream
    rw [hstream]
    rfl
  totalBytes handle item pipe hget := by
    have hstream := stream_run hrun stream_init handle pipe
    rw [List.nil_append, stream_of_get? hget] at hstream
    rw [hstream]
    rfl
  truncated handle item pipe hget := by
    have hstream := stream_run hrun stream_init handle pipe
    rw [List.nil_append, stream_of_get? hget] at hstream
    rw [hstream]
    exact decide_eq_true_iff
  answered call answer hanswer pipe := by
    have hstream := stream_run hrun stream_init call.processHandle pipe
    obtain ⟨range, hadmit, hpage, -⟩ := processOutput_eq_ok hanswer
    obtain ⟨-, hoffset, hmax, -, -⟩ := admitted_eq_ok hadmit
    rw [hpage, hstream, List.nil_append]
    exact ⟨_, _, hoffset pipe, hmax, rfl, List.length_take_le _ _, rfl⟩
  continued call answer more t' call' answer' hanswer hmore hanswer' hhandle pipe hnext := by
    have hstream := stream_run hrun stream_init call.processHandle pipe
    have hrest : t'.stream call.processHandle pipe =
        captured maxOutputBytes (written call.processHandle pipe (events ++ more)) := by
      apply stream_run hmore
      intro handle pipe
      rw [stream_processOutput, stream_run hrun stream_init handle pipe, List.nil_append]
    rw [List.nil_append] at hstream
    obtain ⟨range, hadmit, hpage, -⟩ := processOutput_eq_ok hanswer
    obtain ⟨range', hadmit', hpage', -⟩ := processOutput_eq_ok hanswer'
    have hoffset := (admitted_eq_ok hadmit').2.1 pipe
    rw [hnext, PyValue.int.injEq, Nat.cast_inj, hpage, hstream] at hoffset
    rw [hpage, hpage', hstream, hhandle, hrest]
    have hfront : (written call.processHandle pipe events).take maxOutputBytes <+:
        (written call.processHandle pipe (events ++ more)).take maxOutputBytes := by
      rw [written_append]
      exact (List.prefix_append _ _).take _
    rw [← hoffset]
    exact join_pages hfront _ _ _
  refused call range hadmit := by
    have hisOk := processOutput_isOk_iff hadmit
    have hoffset := (admitted_eq_ok hadmit).2.1
    have hunavailable : ∀ pipe, (t.stream call.processHandle pipe).Unavailable
        (range.offset pipe) ↔ maxOutputBytes < range.offset pipe ∧
          maxOutputBytes < (written call.processHandle pipe events).length := by
      intro pipe
      rw [stream_run hrun stream_init call.processHandle pipe, unavailable_captured,
        List.nil_append]
    refine ⟨?_, fun err herr => processOutput_error hadmit herr⟩
    constructor
    · rintro ⟨err, herr⟩
      by_contra hnone
      push Not at hnone
      obtain ⟨answer, hanswer⟩ := hisOk.mpr fun pipe hpipe => by
        obtain ⟨hbeyond, hcut⟩ := (hunavailable pipe).mp hpipe
        have hfits := hnone pipe _ (hoffset pipe) (Nat.cast_lt.mpr hbeyond)
        omega
      cases herr.symm.trans hanswer
    · rintro ⟨pipe, offset, hpipe, hbeyond, hcut⟩
      rw [hoffset, PyValue.int.injEq] at hpipe
      cases hresult : (t.processOutput rt x call).1 with
      | error err => exact ⟨err, rfl⟩
      | ok answer =>
        exact absurd ((hunavailable pipe).mpr ⟨by omega, hcut⟩) (hisOk.mp ⟨answer, hresult⟩ pipe)

end CapturedProcesses

/-- An executor that may run processes below the root directory. -/
def exampleProcessExecutor : LocalExecutor := ⟨[⟨"/", []⟩], 65536, true⟩

/-- A registry with a lane that may inspect the processes of `/x`. -/
def exampleProcessRegistry : LaneRegistry where
  sessionCapabilities := {"process.inspect"}
  maxLanes := 4
  lanes := ⟨[("l", ⟨"l", "t", {"process.inspect"}, [⟨⟨"cwd:/x", by decide⟩, .read⟩], 1, 10⟩)],
    by decide⟩
  lastFence := 1
  hasAllocator := false

/-- A process of the lane is started in `/x`. -/
def exampleProcess : OutputEvent := .start "proc:0" "l" 1 7 ⟨"/", ["x"]⟩ ["sh"] 0 0

/-- The lane asks for the output from two offsets on. -/
def exampleOutputCall (stdoutOffset stderrOffset maxBytes : ℕ) (exitStatus : Option ℤ) :
    OutputCall :=
  ⟨"l", 1, "proc:0", .int stdoutOffset, .int stderrOffset, .int maxBytes, exampleProcessRegistry, 5,
    exitStatus⟩

/-- The second chunk lies on both sides of the limit. -/
def straddlingEvents : List OutputEvent :=
  [exampleProcess, .drain "proc:0" .stdout [97, 98, 99], .drain "proc:0" .stderr [120],
    .drain "proc:0" .stdout [100, 101, 102]]

/-- Four bytes are kept of six. -/
theorem CapturedProcesses.outputs_captured_straddlingEvents :
    ∃ t, run (Runtime.ascii false) exampleProcessExecutor 4 .empty straddlingEvents = some t ∧
      OutputCaptured (Runtime.ascii false) exampleProcessExecutor 4 straddlingEvents t ∧
      (processOutput (Runtime.ascii false) exampleProcessExecutor t
        (exampleOutputCall 2 0 16 none)).1.toOption.map (·.stdout) =
          some ⟨[99, 100], 2, 4, 4, 6, true⟩ := by
  have hanswer : (run (Runtime.ascii false) exampleProcessExecutor 4 .empty straddlingEvents).bind
      (fun t => (processOutput (Runtime.ascii false) exampleProcessExecutor t
        (exampleOutputCall 2 0 16 none)).1.toOption.map (·.stdout)) =
      some ⟨[99, 100], 2, 4, 4, 6, true⟩ := by
    decide +kernel
  obtain ⟨t, hrun, hpage⟩ := Option.bind_eq_some_iff.mp hanswer
  exact ⟨t, hrun, outputs_captured hrun, hpage⟩

end VeraMesh
