import VeraMesh.Agent.RdcSurface
import VeraMesh.Agent.Watchdog
import VeraMesh.Gateway.Facade
import VeraMesh.Python.FloatRange

/-!
# The lease of a started process

`start_process` of the public facade (`public_gateway.py`) and `StartProcess` of its Go counterpart
(`facade.go`) open a lane for the process they start. The lane is to last for the run time of the
process and a grace period, but for an hour at most.

* `PublicFacade.processTtl`: the lifetime that each facade asks for.
* `HiddenLease`: a process on a workstation, with the lane opened for it.
* `HiddenLease.Outlasts`: in no run of its watchdog is the process ended for its lane while it has
  run time left.
* `HiddenLease.outlasts_iff`: it is not if and only if the delay before the start and the run time
  fit into the lifetime. They need not, near the cap: `HiddenLease.fits_of_le` and
  `HiddenLease.not_fits_of_lt` say when they do, whatever the floats are rounded to.
-/

namespace VeraMesh

open Python Except

/-- The implementations of the public facade. -/
inductive PublicFacade where
  | python
  | go
  deriving DecidableEq

namespace PublicFacade

/-- `PROCESS_LEASE_GRACE_S`. -/
def processLeaseGraceS : PyFloat := 300

/-- `min(x, y)` of two floats. -/
def pyMin (x y : PyFloat) : PyFloat := if y.lt x then y else x

/-- The `ttl_s` of the lane of a started process. -/
def processTtl : PublicFacade → PyFloat → PyFloat
  | python, maxRuntimeS => pyMin 3600 (maxRuntimeS + processLeaseGraceS)
  | go, maxRuntimeS => Gateway.Facade.processTTL maxRuntimeS

/-- The capabilities of the lane of a started process. -/
def processCapabilities : List String :=
  ["process.exec", "process.inspect", "process.interact", "process.control"]

end PublicFacade

/-- A process that was started through a facade, and its lane. -/
structure HiddenLease (rt : Runtime) where
  facade : PublicFacade
  maxRuntimeS : PyFloat
  /-- `process.start` admits the run time. -/
  admitted : (PyFloat.ofRat (1 / 10)).le maxRuntimeS = true ∧ maxRuntimeS.le 3600 = true
  /-- The registry's clock when the lane is opened. -/
  openedAt : ℚ
  /-- The time from then to the start of the process. -/
  delayNs : ℕ
  delayNs_le : delayNs ≤ 300 * 10 ^ 9
  laneId : String
  lane : Lane
  opened : ∃ (registry : LaneRegistry) (taskId : String) (claims : List ResourceClaim)
    (allocated : Except PyError ℤ), (registry.openLane rt laneId taskId
      PublicFacade.processCapabilities claims (facade.processTtl maxRuntimeS) (.finite openedAt)
      allocated).1 = .ok lane
  argv : List String
  cwd : Path
  /-- `process.start` is authorised. -/
  authorized : ∃ registry : LaneRegistry, (registry.authorize rt laneId lane.fencingToken
    "process.exec" (some (cwdResource cwd)) (some .write)
    (.finite (openedAt + delayNs / 10 ^ 9))).1 = .ok lane
  pid : ℤ
  nowNs : ℤ
  item : CapturedProcess
  started : RdcSurface.startProcessSync rt laneId lane.fencingToken argv cwd maxRuntimeS pid nowNs =
    .ok item

namespace HiddenLease

variable {rt : Runtime} (lease : HiddenLease rt)

/-- A round of the watchdog `elapsedNs` after the start. Meanwhile nobody has closed or renewed the
lane. -/
def RoundAt (elapsedNs : ℕ) (round : WatchdogRound) : Prop :=
  round.clock = lease.openedAt + (lease.delayNs + elapsedNs : ℕ) / 10 ^ 9 ∧
    round.timeNs = lease.item.startedAtNs + elapsedNs ∧
    (round.registry.lanes.get? lease.laneId = some lease.lane ∨
      lease.lane.expired (.finite round.clock) = true)

/-- The watchdog never ends the process for its lane before the deadline. -/
def Outlasts : Prop :=
  ∀ rounds : List WatchdogRound, (∀ round ∈ rounds, ∃ elapsedNs, lease.RoundAt elapsedNs round) →
    ∀ err round, lease.item.watchdog rt rounds = some (.refused err, round) →
      lease.item.deadlineNs ≤ round.timeNs

/-- The run time that was granted, in nanoseconds. -/
def runtimeNs : ℤ := lease.item.deadlineNs - lease.item.startedAtNs

/-- One nanosecond before the deadline the registry's clock is below the end of the lane. -/
def Fits : Prop :=
  (PyFloat.finite (lease.openedAt + (lease.delayNs + lease.runtimeNs - 1) / 10 ^ 9)).lt
    (PyFloat.finite lease.openedAt + lease.facade.processTtl lease.maxRuntimeS) = true

/-! ## The numbers -/

theorem started_eq : ∃ n, rt.int (.float (lease.maxRuntimeS.scale 1000000000)) = .ok n ∧
    lease.item = ⟨lease.laneId, lease.lane.fencingToken, lease.pid, lease.cwd, lease.argv,
      lease.nowNs, lease.nowNs + n, none, false, .empty, .empty⟩ := by
  have h := lease.started
  rw [RdcSurface.startProcessSync, bind_eq_ok] at h
  obtain ⟨n, hn, hitem⟩ := h
  exact ⟨n, hn, (Except.ok.inj hitem).symm⟩

/-- The run time is a number of seconds between a tenth and 3600, and its nanoseconds are exact up
to their last place. -/
theorem maxRuntimeS_eq : ∃ q r : ℚ, lease.maxRuntimeS = .finite q ∧ 1 / 11 ≤ q ∧ q ≤ 3600 ∧
    |r - q * 1000000000| ≤ 1 / 4096 ∧ lease.runtimeNs = ⌊r⌋ := by
  obtain ⟨hlow, hhigh⟩ := lease.admitted
  obtain ⟨v, hv, hnear⟩ :
      ∃ v, PyFloat.ofRat (1 / 10) = .finite v ∧ |v - 1 / 10| ≤ 2 ^ (0 - 53 : ℤ) :=
    PyFloat.ofRat_near le_rfl (by norm_num) (by norm_num [abs_of_pos])
  rw [hv] at hlow
  have hv' : 1 / 11 ≤ v := by
    have hsmall : (2 : ℚ) ^ (0 - 53 : ℤ) ≤ 1 / 110 := by norm_num
    linarith [(abs_le.mp hnear).1]
  obtain ⟨n, hn, hitem⟩ := lease.started_eq
  cases hmax : lease.maxRuntimeS with
  | nan | negInf =>
    rw [hmax] at hlow
    cases hlow
  | posInf =>
    rw [hmax] at hhigh
    cases hhigh
  | finite q =>
    rw [hmax] at hlow hhigh hn
    have hq : v ≤ q := of_decide_eq_true hlow
    have hq' : q ≤ 3600 := of_decide_eq_true hhigh
    have hpos : 0 < q * 1000000000 := by linarith
    obtain ⟨r, hr, herror⟩ : ∃ r, PyFloat.ofRat (q * 1000000000) = .finite r ∧
        |r - q * 1000000000| ≤ 2 ^ (41 - 53 : ℤ) := by
      apply PyFloat.ofRat_near (by norm_num) (by norm_num)
      rw [abs_of_pos hpos]
      norm_num
      linarith
    have hlast : (2 : ℚ) ^ (41 - 53 : ℤ) = 1 / 4096 := by norm_num
    rw [hlast] at herror
    refine ⟨q, r, rfl, hv'.trans hq, hq', herror, ?_⟩
    have hr₀ : 0 ≤ r := by linarith [(abs_le.mp herror).1]
    rw [PyFloat.scale, hr, Runtime.int, PyFloat.trunc, if_pos hr₀] at hn
    rw [runtimeNs, hitem, add_sub_cancel_left]
    exact (Except.ok.inj hn).symm

theorem runtimeNs_pos : 0 < lease.runtimeNs := by
  obtain ⟨q, r, -, hq, -, herror, hruntime⟩ := lease.maxRuntimeS_eq
  rw [hruntime, Int.floor_pos]
  linarith [(abs_le.mp herror).1]

variable {lease}

/-- Both facades ask for the run time and the grace period, and for an hour at most. -/
theorem processTtl_eq {q : ℚ} (hmax : lease.maxRuntimeS = .finite q) (hq : 1 / 11 ≤ q)
    (hq' : q ≤ 3600) : ∃ s : ℚ, |s - (q + 300)| ≤ 1 / 4398046511104 ∧
      lease.facade.processTtl lease.maxRuntimeS = .finite (min 3600 s) := by
  obtain ⟨s, hs, herror⟩ : ∃ s, PyFloat.ofRat (q + (300 : ℕ)) = .finite s ∧
      |s - (q + (300 : ℕ))| ≤ 2 ^ (11 - 53 : ℤ) := by
    apply PyFloat.ofRat_near (by norm_num) (by norm_num)
    rw [abs_of_pos (by push_cast; linarith)]
    norm_num
    linarith
  have hlast : (2 : ℚ) ^ (11 - 53 : ℤ) = 1 / 4398046511104 := by norm_num
  rw [hlast] at herror
  push_cast at herror
  refine ⟨s, herror, ?_⟩
  have hsum : lease.maxRuntimeS + 300 = .finite s := by
    rw [hmax]
    exact hs
  have hhour : (3600 : PyFloat) = .finite 3600 := congrArg PyFloat.finite (by norm_num)
  cases lease.facade with
  | python =>
    rw [PublicFacade.processTtl, PublicFacade.processLeaseGraceS, hsum, PublicFacade.pyMin, hhour]
    by_cases hlt : s < 3600
    · rw [min_eq_right hlt.le, if_pos (PyFloat.finite_lt_iff.mpr hlt)]
    · rw [min_eq_left (not_lt.mp hlt), if_neg (mt PyFloat.finite_lt_iff.mp hlt)]
  | go =>
    rw [PublicFacade.processTtl, Gateway.Facade.processTTL, hsum, hhour]
    by_cases hlt : 3600 < s
    · rw [min_eq_left hlt.le, if_pos (PyFloat.finite_lt_iff.mpr hlt)]
    · rw [min_eq_right (not_lt.mp hlt), if_neg (mt PyFloat.finite_lt_iff.mp hlt)]

/-! ## The end of the lane -/

/-- The lane ends after its lifetime, as the registry adds it to its clock. -/
theorem expiresAt_eq : lease.lane.expiresAt =
    PyFloat.finite lease.openedAt + lease.facade.processTtl lease.maxRuntimeS := by
  obtain ⟨registry, taskId, claims, allocated, h⟩ := lease.opened
  obtain ⟨_, _, -, hlane, -⟩ := LaneRegistry.openLane_ok (Prod.ext h rfl)
  rw [hlane]

theorem runs : lease.lane.Runs rt lease.item := by
  obtain ⟨n, -, hitem⟩ := lease.started_eq
  obtain ⟨registry, taskId, claims, allocated, h⟩ := lease.opened
  obtain ⟨_, _, -, hlane, -⟩ := LaneRegistry.openLane_ok (Prod.ext h rfl)
  obtain ⟨registry', h'⟩ := lease.authorized
  obtain ⟨-, -, -, -, hcapability, hcover⟩ := LaneRegistry.authorize_ok (Prod.ext h' rfl)
  obtain ⟨k, mode, hkey, hmode, claim, hclaim, hcovers⟩ := hcover _ rfl
  cases hmode
  refine ⟨?_, hcapability, ?_⟩
  · rw [hitem]
  · rw [hitem, LaneRegistry.requireCover, hkey]
    exact if_pos (List.any_eq_true.mpr ⟨claim, hclaim, hcovers⟩)

/-- A lane that has not expired at one reading of the clock had not at an earlier one. -/
theorem expired_mono {lane : Lane} {now later : ℚ} (hle : now ≤ later)
    (h : lane.expired (.finite now) = true) : lane.expired (.finite later) = true :=
  PyFloat.le_trans h (decide_eq_true hle)

/-- The process can be ended for its lane one nanosecond before the deadline if the lane has
expired by then. -/
theorem not_outlasts_of_expired (hexpired : lease.lane.expired (.finite
    (lease.openedAt + (lease.delayNs + lease.runtimeNs - 1) / 10 ^ 9)) = true) :
    ¬ lease.Outlasts := by
  intro houtlasts
  obtain ⟨k, hk⟩ : ∃ k : ℕ, (k : ℤ) = lease.runtimeNs - 1 :=
    ⟨(lease.runtimeNs - 1).toNat, Int.toNat_of_nonneg (by linarith [lease.runtimeNs_pos])⟩
  have hclock : lease.openedAt + ((lease.delayNs + k : ℕ) : ℚ) / 10 ^ 9 =
      lease.openedAt + (lease.delayNs + lease.runtimeNs - 1) / 10 ^ 9 := by
    have hcast : (k : ℚ) = lease.runtimeNs - 1 := by exact_mod_cast hk
    push_cast
    rw [hcast, add_sub_assoc]
  -- the registry holds the lane and no other
  let round : WatchdogRound := ⟨false, ⟨∅, 0, Dict.empty.set lease.laneId lease.lane, 0, false⟩,
    lease.openedAt + (lease.delayNs + k : ℕ) / 10 ^ 9, lease.item.startedAtNs + k⟩
  have hget : round.registry.lanes.get? lease.laneId = some lease.lane := Dict.get?_set_self ..
  have hround : lease.RoundAt k round := ⟨rfl, rfl, Or.inl hget⟩
  obtain ⟨n, -, hitem⟩ := lease.started_eq
  have howner : lease.laneId = lease.item.ownerLaneId := by rw [hitem]
  have hexpired' : lease.lane.expired (.finite round.clock) = true := by
    rw [show round.clock = _ from hclock]
    exact hexpired
  obtain ⟨err, hended⟩ := watchdogRound_of_expired (howner ▸ hget) hexpired' rfl
  have hwatchdog : lease.item.watchdog rt [round] = some (.refused err, round) := by
    rw [CapturedProcess.watchdog, hended]
  have hdeadline := houtlasts [round] (by simpa using ⟨k, hround⟩) err round hwatchdog
  have htime : round.timeNs = lease.item.startedAtNs + k := rfl
  rw [htime, hk, runtimeNs] at hdeadline
  omega

/-- The watchdog spares a process for its run time if and only if the delay and the run time fit
into the lifetime of its lane. -/
theorem outlasts_iff (lease : HiddenLease rt) : lease.Outlasts ↔ lease.Fits := by
  constructor
  · intro houtlasts
    by_contra hfits
    obtain ⟨q, r, hmax, hq, hq', -, -⟩ := lease.maxRuntimeS_eq
    obtain ⟨s, -, httl⟩ := processTtl_eq hmax hq hq'
    have hnan : lease.lane.expiresAt ≠ .nan := by
      rw [expiresAt_eq, httl]
      exact PyFloat.ofRat_ne_nan _
    rw [Fits, ← expiresAt_eq] at hfits
    exact not_outlasts_of_expired (PyFloat.le_of_not_lt nofun hnan hfits) houtlasts
  · intro hfits rounds hrounds err round hended
    obtain ⟨hmem, hround⟩ := CapturedProcess.mem_of_watchdog_eq_some hended
    obtain ⟨elapsedNs, hclock, htime, hlane⟩ := hrounds round hmem
    obtain ⟨n, -, hitem⟩ := lease.started_eq
    by_contra hearly
    -- the round is at least one nanosecond before the deadline, and the lane has not expired then
    have hle : round.clock ≤
        lease.openedAt + (lease.delayNs + lease.runtimeNs - 1) / 10 ^ 9 := by
      have hlt : (elapsedNs : ℤ) ≤ lease.runtimeNs - 1 := by
        rw [runtimeNs]
        omega
      have hcast : (elapsedNs : ℚ) ≤ lease.runtimeNs - 1 := by exact_mod_cast hlt
      rw [hclock]
      push_cast
      gcongr
      linarith
    have hlive : lease.lane.expired (.finite round.clock) = false := by
      rw [Bool.eq_false_iff]
      intro hexpired
      rw [Fits, ← expiresAt_eq, PyFloat.lt, Bool.and_eq_true, Bool.not_eq_true'] at hfits
      exact Bool.eq_false_iff.mp hfits.2 (expired_mono hle hexpired)
    rcases hlane with hget | hexpired
    · rw [show lease.laneId = lease.item.ownerLaneId by rw [hitem]] at hget
      exact runs.watchdogRound_ne_refused hget hlive err hround
    · exact Bool.eq_false_iff.mp hlive hexpired

/-- The claim on a working directory. -/
def exampleClaim : ResourceClaim := ⟨⟨"cwd:/work", by decide⟩, .write⟩

/-- The lane of a process with the longest run time, opened at 1000 seconds. -/
def exampleLane : Lane :=
  ⟨"public-lane-1", "start-process-1", PublicFacade.processCapabilities.toFinset, [exampleClaim], 1,
    .finite 4600⟩

/-- The process, started one second after its lane was opened. -/
def exampleLease : HiddenLease (.ascii false) where
  facade := .python
  maxRuntimeS := 3600
  admitted := by decide +kernel
  openedAt := 1000
  delayNs := 1000000000
  delayNs_le := by decide
  laneId := "public-lane-1"
  lane := exampleLane
  opened := ⟨⟨PublicFacade.processCapabilities.toFinset, 32, .empty, 0, false⟩, "start-process-1",
    [exampleClaim], .ok 0, by decide +kernel⟩
  argv := ["make"]
  cwd := ⟨"/", ["work"]⟩
  authorized := ⟨⟨PublicFacade.processCapabilities.toFinset, 32,
    Dict.empty.set "public-lane-1" exampleLane, 1, false⟩, by decide +kernel⟩
  pid := 4711
  nowNs := 1700000000000000000
  item := ⟨"public-lane-1", 1, 4711, ⟨"/", ["work"]⟩, ["make"], 1700000000000000000,
    1700003600000000000, none, false, .empty, .empty⟩
  started := by decide +kernel

/-- The watchdog ends it one second too early. -/
theorem not_outlasts : ¬ exampleLease.Outlasts :=
  not_outlasts_of_expired (by decide +kernel)

/-! ## When the run time fits -/

/-- The end of the lane on a clock that has run for less than 24 days. -/
theorem expiresAt_near {q : ℚ} (hmax : lease.maxRuntimeS = .finite q) (hq : 1 / 11 ≤ q)
    (hq' : q ≤ 3600) (hzero : 0 ≤ lease.openedAt) (hclock : lease.openedAt ≤ 2 ^ 21) :
    ∃ s e : ℚ, |s - (q + 300)| ≤ 1 / 4398046511104 ∧
      |e - (lease.openedAt + min 3600 s)| ≤ 1 / 4294967296 ∧
      PyFloat.finite lease.openedAt + lease.facade.processTtl lease.maxRuntimeS = .finite e := by
  obtain ⟨s, hs, httl⟩ := processTtl_eq hmax hq hq'
  have hs₀ : 0 ≤ min 3600 s := by
    apply le_min (by norm_num)
    linarith [(abs_le.mp hs).1]
  have hmin : min 3600 s ≤ 3600 := min_le_left _ _
  obtain ⟨e, he, herror⟩ : ∃ e, PyFloat.ofRat (lease.openedAt + min 3600 s) = .finite e ∧
      |e - (lease.openedAt + min 3600 s)| ≤ 2 ^ (21 - 53 : ℤ) := by
    apply PyFloat.ofRat_near (by norm_num) (by norm_num)
    rw [abs_of_nonneg (add_nonneg hzero hs₀)]
    norm_num at hclock ⊢
    linarith
  have hlast : (2 : ℚ) ^ (21 - 53 : ℤ) = 1 / 4294967296 := by norm_num
  rw [hlast] at herror
  refine ⟨s, e, hs, herror, ?_⟩
  rw [httl]
  exact he

/-- Up to 3300 seconds there is room for the whole grace period. -/
theorem fits_of_le (hmax : lease.maxRuntimeS.le 3300 = true) (hzero : 0 ≤ lease.openedAt)
    (hclock : lease.openedAt ≤ 2 ^ 21) : lease.Fits := by
  obtain ⟨q, r, hq, hlow, hhigh, hr, hruntime⟩ := lease.maxRuntimeS_eq
  obtain ⟨s, e, hs, he, hend⟩ := expiresAt_near hq hlow hhigh hzero hclock
  have hbound : (3300 : PyFloat) = .finite 3300 := congrArg PyFloat.finite (by norm_num)
  rw [hq, hbound] at hmax
  have hq' : q ≤ 3300 := of_decide_eq_true hmax
  have hfloor : (lease.runtimeNs : ℚ) ≤ r := hruntime ▸ Int.floor_le r
  have hdelay : (lease.delayNs : ℚ) ≤ 300000000000 := by exact_mod_cast lease.delayNs_le
  have hnano : (10 : ℚ) ^ 9 = 1000000000 := by norm_num
  have hmin : q + 300 - 1 / 4398046511104 ≤ min 3600 s :=
    le_min (by linarith) (by linarith [(abs_le.mp hs).1])
  rw [Fits, hend, PyFloat.finite_lt_iff, ← lt_sub_iff_add_lt', div_lt_iff₀ (by norm_num), hnano]
  have he' := (abs_le.mp he).1
  have hr' := (abs_le.mp hr).2
  linarith

/-- A delay and a run time of more than an hour do not fit. -/
theorem not_fits_of_lt (hlt : 3600 * 10 ^ 9 + 1 < lease.delayNs + lease.runtimeNs)
    (hzero : 0 ≤ lease.openedAt) (hclock : lease.openedAt ≤ 2 ^ 21) : ¬ lease.Fits := by
  obtain ⟨q, r, hq, hlow, hhigh, -, -⟩ := lease.maxRuntimeS_eq
  obtain ⟨s, e, hs, he, hend⟩ := expiresAt_near hq hlow hhigh hzero hclock
  have hmin : min 3600 s ≤ 3600 := min_le_left _ _
  have hcast : (3600000000002 : ℚ) ≤ lease.delayNs + lease.runtimeNs := by
    exact_mod_cast Int.add_one_le_iff.mpr hlt
  have hnano : (10 : ℚ) ^ 9 = 1000000000 := by norm_num
  rw [Fits, hend, PyFloat.finite_lt_iff, ← lt_sub_iff_add_lt', div_lt_iff₀ (by norm_num), hnano]
  have he' := (abs_le.mp he).2
  linarith

end HiddenLease

end VeraMesh
