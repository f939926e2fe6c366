import VeraMesh.Agent.OutputCapture
import VeraMesh.Lane.Registry

/-!
# The watchdog of a managed process

`_start_process_sync` and `_watchdog` of `RdcSurface` (`rdc_surface.py`). The watchdog looks after a
process until it exits: in every round it asks whether the lane of the process may still run it, and
then whether its time is up, and ends the process if not or if so.

* `CapturedProcess.watchdog`: the loop, over the rounds as they come.
* `Lane.Runs`: what a lane must have for its process to be let run until the lane expires.
-/

namespace VeraMesh

open Python Except

/-- `_start_process_sync`, for the process `pid` that `Popen` has started at `nowNs`. -/
def RdcSurface.startProcessSync (rt : Runtime) (laneId : String) (fencingToken : ℤ)
    (argv : List String) (cwd : Path) (maxRuntimeS : PyFloat) (pid nowNs : ℤ) :
    Except PyError CapturedProcess := do
  let runtimeNs ← rt.int (.float (maxRuntimeS.scale 1000000000))
  return ⟨laneId, fencingToken, pid, cwd, argv, nowNs, nowNs + runtimeNs, none, false, .empty,
    .empty⟩

/-- One round of the watchdog: what it finds. -/
structure WatchdogRound where
  /-- `process.poll() is not None`. -/
  exited : Bool
  registry : LaneRegistry
  /-- The registry's clock. -/
  clock : ℚ
  /-- `time.time_ns()`. -/
  timeNs : ℤ

/-- Why the watchdog stops. -/
inductive WatchdogEnd where
  | exited
  /-- It ends the process, since `authorize` raised. -/
  | refused (err : PyError)
  /-- It ends the process, since the deadline has passed. -/
  | overdue
  deriving DecidableEq

namespace CapturedProcess

variable (rt : Runtime) (item : CapturedProcess)

/-- One round of `_watchdog`. -/
def watchdogRound (round : WatchdogRound) : Option WatchdogEnd :=
  if round.exited then some .exited
  else
    match (round.registry.authorize rt item.ownerLaneId item.ownerFencingToken "process.exec"
      (some (cwdResource item.cwd)) (some .write) (.finite round.clock)).1 with
    | .error err => some (.refused err)
    | .ok _ => if item.deadlineNs - round.timeNs ≤ 0 then some .overdue else none

/-- `_watchdog`: the first round that ends it. The pauses in between are at most a quarter of a
second, and may last longer. -/
def watchdog : List WatchdogRound → Option (WatchdogEnd × WatchdogRound)
  | [] => none
  | round :: rounds =>
    match watchdogRound rt item round with
    | some outcome => some (outcome, round)
    | none => watchdog rounds

variable {rt item}

/-- The round that ends the watchdog is one of the rounds. -/
theorem mem_of_watchdog_eq_some {rounds : List WatchdogRound} {outcome : WatchdogEnd}
    {round : WatchdogRound} (h : watchdog rt item rounds = some (outcome, round)) :
    round ∈ rounds ∧ watchdogRound rt item round = some outcome := by
  induction rounds with
  | nil => cases h
  | cons first rounds ih =>
    rw [watchdog] at h
    split at h
    · rename_i outcome' hround
      cases h
      exact ⟨List.mem_cons_self, hround⟩
    · obtain ⟨hmem, hround⟩ := ih h
      exact ⟨List.mem_cons_of_mem _ hmem, hround⟩

end CapturedProcess

/-- The lane lets the process run: it has the fence of the process, the capability, and a claim on
the working directory. -/
structure Lane.Runs (rt : Runtime) (lane : Lane) (item : CapturedProcess) : Prop where
  fence : lane.fencingToken = item.ownerFencingToken
  capability : "process.exec" ∈ lane.capabilities
  cover : LaneRegistry.requireCover rt lane (cwdResource item.cwd) .write = .ok ()

section Round

variable {rt : Runtime} {lane : Lane} {item : CapturedProcess} {round : WatchdogRound}

/-- A lane that runs a process does so until it expires. -/
theorem Lane.Runs.watchdogRound_ne_refused (h : lane.Runs rt item)
    (hget : round.registry.lanes.get? item.ownerLaneId = some lane)
    (hlive : lane.expired (.finite round.clock) = false) (err : PyError) :
    item.watchdogRound rt round ≠ some (.refused err) := by
  have hauthorized : (round.registry.authorize rt item.ownerLaneId item.ownerFencingToken
      "process.exec" (some (cwdResource item.cwd)) (some .write) (.finite round.clock)).1 =
        .ok lane := by
    simp [LaneRegistry.authorize, LaneRegistry.requireLaneLocked, hget, h.fence, hlive,
      h.capability, h.cover]
  rw [CapturedProcess.watchdogRound, hauthorized]
  dsimp only
  split_ifs <;> simp

/-- Once the lane has expired the watchdog ends the process, even if its deadline is still to
come. -/
theorem watchdogRound_of_expired (hget : round.registry.lanes.get? item.ownerLaneId = some lane)
    (hexpired : lane.expired (.finite round.clock) = true) (hrunning : round.exited = false) :
    ∃ err, item.watchdogRound rt round = some (.refused err) := by
  rw [CapturedProcess.watchdogRound, hrunning, if_neg Bool.false_ne_true, LaneRegistry.authorize,
    LaneRegistry.requireLaneLocked, hget]
  dsimp only
  by_cases hfence : lane.fencingToken = item.ownerFencingToken
  · rw [if_neg (not_not_intro hfence), if_pos hexpired]
    exact ⟨_, rfl⟩
  · rw [if_pos hfence]
    exact ⟨_, rfl⟩

end Round

end VeraMesh
