import VeraMesh.Lib.Triple
import VeraMesh.Python.Error
import Mathlib.Data.Finset.Card

/-!
# The stdio host

`DesktopCommanderStdioHost` (`desktop_commander_stdio_host.py`) starts a process for every
connection that it admits. However many connections come in, and wherever their tasks are cancelled:
there are never more processes than connections that were counted, and never more of these than the
configuration allows (`processes_bounded`).

The bytes that the pumps carry are not part of the model. A process may end at any time, and may
ignore that it is told to.
-/

namespace VeraMesh

open Python Coroutine

/-- What of `DesktopCommanderStdioHostConfig` bounds the connections, with its check. -/
structure StdioHostConfig where
  maxConnections : ℤ
  range : 1 ≤ maxConnections ∧ maxConnections ≤ 64

/-- The state of the host, and of the local variables of the tasks of its connections. -/
structure StdioHost where
  /-- `_active_connections`. -/
  activeConnections : ℤ := 0
  /-- The tasks whose `admitted` is true, until they count themselves out. -/
  admitted : Finset ℕ := ∅
  /-- The tasks whose `process` was started and has no return code yet. -/
  running : Finset ℕ := ∅

/-- What the task of a connection waits for. -/
inductive StdioAwait where
  /-- `_admission_lock`. -/
  | admission
  /-- `writer.wait_closed()`. -/
  | closed
  | createProcess
  /-- The first of the pumps to end, or all of them. -/
  | pumps (all : Bool)
  /-- `process.wait()` of a task, with or without a time-out. -/
  | exit (t : ℕ) (timeout : Bool)

abbrev StdioAwait.Answer : StdioAwait → Type
  /- Whether the process has its pipes. -/
  | createProcess => Except PyError Bool
  /- Whether the process ended in time. -/
  | exit _ _ => Except PyError Bool
  | _ => Except PyError Unit

abbrev StdioTask := Coroutine StdioHost StdioAwait StdioAwait.Answer PyError

namespace StdioHost

/-- `admitted = False` and `process = None`. -/
def initialise (s : StdioHost) (t : ℕ) : StdioHost :=
  { s with admitted := s.admitted.erase t, running := s.running.erase t }

/-- `_active_connections += 1` and `admitted = True`. -/
def countIn (s : StdioHost) (t : ℕ) : StdioHost :=
  { s with activeConnections := s.activeConnections + 1, admitted := insert t s.admitted }

/-- The process of a task runs. -/
def started (s : StdioHost) (t : ℕ) : StdioHost := { s with running := insert t s.running }

/-- `_active_connections -= 1`. -/
def countOut (s : StdioHost) (t : ℕ) : StdioHost :=
  { s with activeConnections := s.activeConnections - 1, admitted := s.admitted.erase t }

/-- Processes end by themselves. -/
def Ends (s s' : StdioHost) : Prop :=
  s'.activeConnections = s.activeConnections ∧ s'.admitted = s.admitted ∧ s'.running ⊆ s.running

end StdioHost

namespace StdioHostConfig

variable (config : StdioHostConfig) (t : ℕ)

def acquire : StdioTask Unit := do ofResult (← answer StdioAwait.admission)

def waitClosed : StdioTask Unit := do ofResult (← answer StdioAwait.closed)

def waitPumps (all : Bool) : StdioTask Unit := do ofResult (← answer (StdioAwait.pumps all))

def waitExit (timeout : Bool) : StdioTask Bool := do
  ofResult (← answer (StdioAwait.exit t timeout))

/-- `create_subprocess_exec`. -/
def createProcess : StdioTask Bool := do
  let pipes ← ofResult (← answer StdioAwait.createProcess)
  update (·.started t)
  return pipes

/-- The body of the `try`. -/
def serve : StdioTask Unit := do
  acquire
  let s ← read
  if config.maxConnections ≤ s.activeConnections then waitClosed
  else do
    update (·.countIn t)
    let pipes ← createProcess t
    if pipes = false then throw ⟨.runtimeError, "Desktop Commander stdio pipes unavailable"⟩
    else do
      waitPumps false
      waitPumps true

/-- The process is told to end, and then made to. -/
def stopProcess : StdioTask Unit := do
  let s ← read
  if t ∈ s.running then do
    let inTime ← waitExit t true
    if inTime = false then do
      let _ ← waitExit t false
      pure ()
    else pure ()
  else pure ()

/-- The closing of the writer, whatever error it ends with. -/
def closeWriter : StdioTask Unit :=
  tryCatch waitClosed fun err => if err.isException then pure () else throw err

/-- The body of the `finally`. -/
def cleanup : StdioTask Unit := do
  stopProcess t
  closeWriter
  let s ← read
  if t ∈ s.admitted then do
    acquire
    update (·.countOut t)
  else pure ()

/-- `_accept`. -/
def accept : StdioTask Unit := do
  update (·.initialise t)
  ensure (config.serve t) (cleanup t)

/-- The answers of the event loop. Every wait can be cancelled, and nothing but a time-out ends the
wait for a process that still runs. -/
def answers (s : StdioHost) : (i : StdioAwait) → StdioAwait.Answer i → Prop
  | .exit t timeout, .ok inTime => if inTime = true then t ∉ s.running else timeout = true
  | _, _ => True

/-- Any number of connections. -/
def driver : Driver StdioHost StdioAwait StdioAwait.Answer PyError Unit where
  calls _ t c := c = config.accept t
  answers := answers
  environment := StdioHost.Ends

/-! ## The bound -/

/-- The processes are those of admitted connections, which are counted. -/
structure Bounded (s : StdioHost) : Prop where
  running_subset : s.running ⊆ s.admitted
  card_le : (s.admitted.card : ℤ) ≤ s.activeConnections
  active_le : s.activeConnections ≤ config.maxConnections

/-- The others do not count a task out, and do not start its process. -/
def contract : Contract StdioHost StdioAwait StdioAwait.Answer where
  Inv := config.Bounded
  Rely t s s' := (t ∈ s.admitted → t ∈ s'.admitted) ∧ (t ∉ s.running → t ∉ s'.running)
  answers := answers
  refl _ _ := ⟨id, id⟩
  trans _ _ _ _ := fun h₁ h₂ => ⟨h₂.1 ∘ h₁.1, h₂.2 ∘ h₁.2⟩

variable {config t} {s : StdioHost}

theorem Bounded.initialise (h : config.Bounded s) (t : ℕ) : config.Bounded (s.initialise t) where
  running_subset := Finset.erase_subset_erase t h.running_subset
  card_le := by
    have hcard : (s.admitted.erase t).card ≤ s.admitted.card := Finset.card_erase_le
    have hle := h.card_le
    show ((s.admitted.erase t).card : ℤ) ≤ s.activeConnections
    omega
  active_le := h.active_le

theorem guarantee_initialise (h : config.Bounded s) :
    config.contract.Guarantee t s (s.initialise t) := by
  refine ⟨h.initialise t, fun t' ht => ⟨fun hmem => ?_, fun hgone hmem => ?_⟩⟩
  · exact Finset.mem_erase.mpr ⟨ht, hmem⟩
  · exact hgone (Finset.mem_of_mem_erase hmem)

/-- A connection is admitted where there is room for it. -/
theorem guarantee_countIn (h : config.Bounded s)
    (hroom : s.activeConnections < config.maxConnections) :
    config.contract.Guarantee t s (s.countIn t) := by
  refine ⟨⟨?_, ?_, ?_⟩, fun t' _ => ⟨fun hmem => Finset.mem_insert_of_mem hmem, id⟩⟩
  · exact h.running_subset.trans (Finset.subset_insert t _)
  · have hcard : (insert t s.admitted).card ≤ s.admitted.card + 1 := Finset.card_insert_le t _
    have hle := h.card_le
    show ((insert t s.admitted).card : ℤ) ≤ s.activeConnections + 1
    omega
  · show s.activeConnections + 1 ≤ config.maxConnections
    omega

/-- A process is started for an admitted connection. -/
theorem guarantee_started (h : config.Bounded s) (hadmitted : t ∈ s.admitted) :
    config.contract.Guarantee t s (s.started t) := by
  refine ⟨⟨?_, h.card_le, h.active_le⟩, fun t' ht => ⟨id, fun hgone hmem => ?_⟩⟩
  · exact Finset.insert_subset hadmitted h.running_subset
  · rcases Finset.mem_insert.mp hmem with hsame | hmem
    · exact ht hsame
    · exact hgone hmem

/-- A connection is counted out once its process is gone. -/
theorem guarantee_countOut (h : config.Bounded s) (hadmitted : t ∈ s.admitted)
    (hgone : t ∉ s.running) : config.contract.Guarantee t s (s.countOut t) := by
  refine ⟨⟨?_, ?_, ?_⟩, fun t' ht => ⟨fun hmem => Finset.mem_erase.mpr ⟨ht, hmem⟩, id⟩⟩
  · exact Finset.subset_erase.mpr ⟨h.running_subset, hgone⟩
  · have hcard : (s.admitted.erase t).card + 1 = s.admitted.card :=
      Finset.card_erase_add_one hadmitted
    have hle := h.card_le
    show ((s.admitted.erase t).card : ℤ) ≤ s.activeConnections - 1
    omega
  · have hle := h.active_le
    show s.activeConnections - 1 ≤ config.maxConnections
    omega

/-! ## The tasks -/

/-- A step of the task of a connection, whatever it raises. -/
abbrev Keeps {α : Type} (config : StdioHostConfig) (t : ℕ) (A : StdioHost → Prop)
    (step : StdioTask α) (B : α → StdioHost → Prop) : Prop :=
  Triple config.contract t A step B fun _ _ => True

theorem stable_admitted : Stable config.contract t fun s => t ∈ s.admitted :=
  fun _ _ _ hrely => hrely.1

theorem stable_gone : Stable config.contract t fun s => t ∉ s.running :=
  fun _ _ _ hrely => hrely.2

section Waits

variable {A : StdioHost → Prop} (hA : Stable config.contract t A)
include hA

theorem keeps_acquire : Keeps config t A acquire fun _ => A :=
  (Triple.wait hA).of_raises fun _ _ _ _ => trivial

theorem keeps_waitClosed : Triple config.contract t A waitClosed (fun _ => A) fun _ => A :=
  Triple.wait hA

theorem keeps_waitPumps (all : Bool) : Keeps config t A (waitPumps all) fun _ => A :=
  (Triple.wait hA).of_raises fun _ _ _ _ => trivial

end Waits

/-- What is known after the wait for a process: it is gone, or the time is up. -/
theorem keeps_waitExit (timeout : Bool) :
    Keeps config t (fun _ => True) (waitExit t timeout) fun inTime s =>
      if inTime = true then t ∉ s.running else timeout = true := by
  refine Triple.bind (B := fun outcome s => answers s (.exit t timeout) outcome)
    (.answer stable_true fun _ _ _ _ h => h) fun outcome => ?_
  refine .ofResult (fun inTime hinTime s _ h => ?_) fun _ _ _ _ _ => trivial
  subst hinTime
  exact h

/-- However the process takes it, it is gone afterwards. -/
theorem keeps_stopProcess :
    Keeps config t (fun _ => True) (stopProcess t) fun _ s => t ∉ s.running := by
  refine Triple.bind (.read (B := fun seen s => seen = s) fun _ _ _ => rfl) fun seen => ?_
  refine Triple.ite (fun _ => ?_) fun hgone => .pure fun s _ hs => hs ▸ hgone
  refine Triple.bind ((keeps_waitExit true).pre fun _ _ _ => trivial) fun inTime => ?_
  refine Triple.ite (fun _ => ?_) fun hinTime => .pure fun s _ hs => ?_
  · refine Triple.bind ((keeps_waitExit false).pre fun _ _ _ => trivial) fun ended => ?_
    refine .pure fun s _ hs => ?_
    -- Without a time-out the wait does not end before the process.
    cases ended with
    | true => exact hs
    | false => exact absurd hs Bool.false_ne_true
  · rwa [if_pos (Bool.eq_true_of_not_eq_false hinTime)] at hs

theorem keeps_closeWriter {A : StdioHost → Prop} (hA : Stable config.contract t A) :
    Keeps config t A closeWriter fun _ => A :=
  (keeps_waitClosed hA).tryCatch fun _ =>
    Triple.ite (fun _ => .pure fun _ _ h => h) fun _ => .throw fun _ _ _ => trivial

/-- A connection counts itself out at most once, and only after its process. -/
theorem keeps_cleanup : Keeps config t (fun _ => True) (cleanup t) fun _ _ => True := by
  refine keeps_stopProcess.bind fun _ => (keeps_closeWriter stable_gone).bind fun _ => ?_
  refine Triple.bind (.read (B := fun seen s => seen = s ∧ t ∉ s.running) fun _ _ h => ⟨rfl, h⟩)
    fun seen => ?_
  refine Triple.ite (fun hadmitted => ?_) fun _ => .pure fun _ _ _ => trivial
  have hstable : Stable config.contract t fun s => t ∈ s.admitted ∧ t ∉ s.running :=
    fun s s' hs' hrely h => ⟨hrely.1 h.1, hrely.2 h.2⟩
  refine Triple.bind ((keeps_acquire hstable).pre fun s _ hs => ⟨hs.1 ▸ hadmitted, hs.2⟩)
    fun _ => ?_
  exact .update fun s hs h => ⟨guarantee_countOut hs h.1 h.2, trivial⟩

theorem keeps_createProcess :
    Keeps config t (fun s => t ∈ s.admitted) (createProcess t) fun _ _ => True := by
  refine Triple.bind (.answer stable_admitted fun _ _ _ h _ => h) fun outcome => ?_
  refine Triple.bind (.ofResult (B := fun _ s => t ∈ s.admitted) (fun _ _ _ _ h => h)
    fun _ _ _ _ _ => trivial) fun pipes => ?_
  refine Triple.bind (B := fun _ _ => True) (.update fun s hs h => ?_)
    fun _ => .pure fun _ _ _ => trivial
  exact ⟨guarantee_started hs h, trivial⟩

theorem keeps_serve : Keeps config t (fun _ => True) (config.serve t) fun _ _ => True := by
  refine (keeps_acquire stable_true).bind fun _ => ?_
  refine Triple.bind (.read (B := fun seen s => seen = s) fun _ _ _ => rfl) fun seen => ?_
  refine Triple.ite (fun _ => ?_) fun hroom => ?_
  · exact (keeps_waitClosed stable_true).conseq (fun _ _ _ => trivial) (fun _ _ _ h => h)
      fun _ _ _ h => h
  · -- Nothing is waited for between the check and the count.
    refine Triple.bind (B := fun _ s => t ∈ s.admitted) (.update fun s hs hseen => ?_) fun _ => ?_
    · subst hseen
      exact ⟨guarantee_countIn hs (not_le.mp hroom), Finset.mem_insert_self t _⟩
    · refine keeps_createProcess.bind fun pipes => ?_
      refine Triple.ite (fun _ => .throw fun _ _ _ => trivial) fun _ => ?_
      exact (keeps_waitPumps stable_true false).bind fun _ => keeps_waitPumps stable_true true

theorem keeps_accept : Keeps config t (fun _ => True) (config.accept t) fun _ _ => True := by
  refine Triple.bind (B := fun _ _ => True)
    (.update fun s hs _ => ⟨guarantee_initialise hs, trivial⟩) fun _ => ?_
  exact keeps_serve.ensure (fun _ => keeps_cleanup) fun _ => keeps_cleanup

/-! ## Runs -/

theorem covers_driver : config.contract.Covers config.driver where
  calls hs hcall := by
    rw [show _ = config.accept _ from hcall]
    exact keeps_accept.meets hs
  answers h := h
  environment hs h := by
    obtain ⟨hactive, hadmitted, hrunning⟩ := h
    refine ⟨⟨?_, ?_, ?_⟩, fun t => ⟨fun hmem => hadmitted ▸ hmem, fun hgone hmem => ?_⟩⟩
    · rw [hadmitted]
      exact hrunning.trans hs.running_subset
    · rw [hadmitted, hactive]
      exact hs.card_le
    · rw [hactive]
      exact hs.active_le
    · exact hgone (hrunning hmem)

/-- Whatever connections come in, in whatever order their tasks run and wherever they are cancelled:
there are at most as many processes as counted connections, and these are within the bound. -/
theorem processes_bounded (config : StdioHostConfig)
    {sys : System StdioHost StdioAwait StdioAwait.Answer PyError Unit}
    (h : Reachable config.driver {} sys) :
    (sys.state.running.card : ℤ) ≤ sys.state.activeConnections ∧
      sys.state.activeConnections ≤ config.maxConnections := by
  have hstart : config.Bounded {} :=
    ⟨Finset.Subset.refl _, le_rfl, (Int.zero_le_ofNat 1).trans config.range.1⟩
  have hbounded : config.Bounded sys.state := covers_driver.inv hstart h
  have hcard := Finset.card_le_card hbounded.running_subset
  exact ⟨(Int.ofNat_le.mpr hcard).trans hbounded.card_le, hbounded.active_le⟩

/-- Nothing fails, and the pumps do not end. -/
def exampleStdioReply (s : StdioHost) : (i : StdioAwait) → StdioAwait.Answer i
  | .createProcess => .ok true
  | .exit t _ => if t ∈ s.running then .error ⟨.cancelledError, ""⟩ else .ok true
  | .admission | .closed | .pumps _ => .ok ()

/-- Up to the pumps. -/
def isPumps : StdioAwait → Bool
  | .pumps _ => true
  | _ => false

def oneConnection : StdioHostConfig := ⟨1, le_rfl, by decide⟩

/-- The one connection that the host admits, with its process. -/
def servedConnection : StdioHost :=
  ((oneConnection.accept 0).evalUntil isPumps exampleStdioReply {}).2

theorem processes_bounded_servedConnection :
    servedConnection.running = {0} ∧ servedConnection.activeConnections ≤ 1 := by
  have hreply : ∀ s i, oneConnection.driver.answers s i (exampleStdioReply s i) := by
    intro s i
    cases i with
    | exit t timeout =>
      show answers s (.exit t timeout) (if t ∈ s.running then _ else _)
      split_ifs with hrunning
      · trivial
      · exact hrunning
    | _ => trivial
  have hbound := processes_bounded oneConnection
    (Reachable.evalUntil (c := oneConnection.accept 0) .refl rfl hreply isPumps)
  exact ⟨rfl, hbound.2⟩

end StdioHostConfig

end VeraMesh
