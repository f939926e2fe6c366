import Mathlib.Data.Finset.Basic
import VeraMesh.Lane.Claim

/-!
# The lane registry

`LaneRegistry` of `core.py`: the table of live lanes, its six operations and the two helpers that
run under its lock. An operation is atomic, since the registry holds its lock throughout. It takes
the clock reading `now` it makes and returns its result with the registry it leaves; a rejected
operation can still leave a registry from which expired lanes are gone.

Each operation has one lemma for its accepted and one for its rejected outcome, ending in `_ok` and
`_error`: a rejected operation only sweeps (`Swept`). `Change` says once what any operation can do
to the table: sweep, insert a lane, move the expiry of one, or drop one.
-/

namespace VeraMesh

open Python

/-- An open lane. -/
structure Lane where
  laneId : String
  taskId : String
  capabilities : Finset String
  claims : List ResourceClaim
  fencingToken : ℤ
  expiresAt : PyFloat
  deriving DecidableEq

/-- `now >= lane.expires_at`. -/
def Lane.expired (lane : Lane) (now : PyFloat) : Bool := lane.expiresAt.le now

/-- The registry. Its lanes are keyed by lane id, in order of opening. -/
structure LaneRegistry where
  sessionCapabilities : Finset String
  maxLanes : ℤ
  lanes : Dict String Lane
  lastFence : ℤ
  /-- `fence_allocator is not None`. -/
  hasAllocator : Bool
  deriving DecidableEq

namespace LaneRegistry

/-- `LaneRegistry(session_capabilities, max_lanes, fence_allocator)`. -/
def create (sessionCapabilities : Finset String) (maxLanes : ℤ) (hasAllocator : Bool) :
    Except PyError LaneRegistry :=
  if maxLanes < 1 then .error ⟨.valueError, "max_lanes must be positive"⟩
  else .ok ⟨sessionCapabilities, maxLanes, .empty, 0, hasAllocator⟩

/-- Lanes in the order of `sorted(lanes, key=lambda lane: lane.lane_id)`. -/
def sortById (lanes : List Lane) : List Lane :=
  lanes.insertionSort fun a b => a.laneId ≤ b.laneId

/-- `_reap_expired_locked`. -/
def reapExpiredLocked (r : LaneRegistry) (now : PyFloat) : List Lane × LaneRegistry :=
  (sortById (r.lanes.values.filter (·.expired now)),
    { r with lanes := r.lanes.filter fun _ lane => !lane.expired now })

/-- `_require_lane_locked`. -/
def requireLaneLocked (r : LaneRegistry) (laneId : String) (fencingToken : ℤ) (now : PyFloat) :
    Except PyError Lane × LaneRegistry :=
  match r.lanes.get? laneId with
  | none => (.error ⟨.laneNotFound, laneId⟩, r)
  | some lane =>
    if lane.fencingToken ≠ fencingToken then
      (.error ⟨.staleFence,
        "expected fence " ++ toString lane.fencingToken ++ ", got " ++ toString fencingToken⟩, r)
    else if lane.expired now then
      (.error ⟨.laneExpired, laneId⟩, { r with lanes := r.lanes.erase laneId })
    else (.ok lane, r)

/-- The first stored lane in conflict with `claims`, with the text of the conflict. -/
def firstCollision (rt : Runtime) (claims : List ResourceClaim) : List Lane → Option (Lane × String)
  | [] => none
  | existing :: rest =>
    match firstConflict rt claims existing.claims with
    | some conflict => some (existing, conflict)
    | none => firstCollision rt claims rest

/-- The fence of a new lane. `allocated` is what the fence allocator returns or raises if the
registry has one. -/
def nextFence (r : LaneRegistry) (allocated : Except PyError ℤ) : Except PyError ℤ :=
  if !r.hasAllocator then .ok (r.lastFence + 1)
  else
    match allocated with
    | .error e => .error e
    | .ok fence =>
      if fence ≤ r.lastFence then
        .error ⟨.runtimeError, "fence allocator did not advance monotonically"⟩
      else .ok fence

/-- The part of `open_lane` that runs under the lock, after the sweep. -/
def insertLocked (rt : Runtime) (r : LaneRegistry) (laneId taskId : String)
    (capabilities : Finset String) (claims : List ResourceClaim) (ttl now : PyFloat)
    (allocated : Except PyError ℤ) : Except PyError Lane × LaneRegistry :=
  if r.lanes.contains laneId then
    (.error ⟨.collisionBlocked, "lane id already active: " ++ laneId⟩, r)
  else if r.maxLanes ≤ r.lanes.size then
    (.error ⟨.collisionBlocked, "max active lanes reached"⟩, r)
  else
    match firstCollision rt claims r.lanes.values with
    | some (existing, conflict) =>
      (.error ⟨.collisionBlocked,
        "resource collision with lane " ++ existing.laneId ++ ": " ++ conflict⟩, r)
    | none =>
      match r.nextFence allocated with
      | .error e => (.error e, r)
      | .ok fence =>
        let lane : Lane := ⟨laneId, taskId, capabilities, claims, fence, now + ttl⟩
        (.ok lane, { r with lastFence := fence, lanes := r.lanes.set laneId lane })

/-- `open_lane`. -/
def openLane (rt : Runtime) (r : LaneRegistry) (laneId taskId : String)
    (capabilities : List String) (claims : List ResourceClaim) (ttl now : PyFloat)
    (allocated : Except PyError ℤ) : Except PyError Lane × LaneRegistry :=
  if isBlank laneId || isBlank taskId then
    (.error ⟨.valueError, "lane_id and task_id are required"⟩, r)
  else if ttl.le 0 then (.error ⟨.valueError, "ttl_s must be positive"⟩, r)
  else if ¬capabilities.toFinset ⊆ r.sessionCapabilities then
    let extra := sortedSet (capabilities.filter (· ∉ r.sessionCapabilities))
    (.error ⟨.capabilityDenied,
      "lane requested capabilities outside session ceiling: " ++ rt.reprStrList extra⟩, r)
  else
    (r.reapExpiredLocked now).2.insertLocked rt laneId taskId capabilities.toFinset
      (claimTuple claims) ttl now allocated

/-- `renew`. -/
def renew (r : LaneRegistry) (laneId : String) (fencingToken : ℤ) (ttl now : PyFloat) :
    Except PyError Lane × LaneRegistry :=
  if ttl.le 0 then (.error ⟨.valueError, "ttl_s must be positive"⟩, r)
  else
    match r.requireLaneLocked laneId fencingToken now with
    | (.error e, r') => (.error e, r')
    | (.ok lane, r') =>
      let updated : Lane := { lane with expiresAt := now + ttl }
      (.ok updated, { r' with lanes := r'.lanes.set laneId updated })

/-- `close`. -/
def close (r : LaneRegistry) (laneId : String) (fencingToken : ℤ) (now : PyFloat) :
    Except PyError Lane × LaneRegistry :=
  match r.requireLaneLocked laneId fencingToken now with
  | (.error e, r') => (.error e, r')
  | (.ok lane, r') => (.ok lane, { r' with lanes := r'.lanes.erase laneId })

/-- The resource check of `authorize`. A key without a colon fails to unpack as soon as a claim's
mode suffices, before any claim is found to cover it. -/
def requireCover (rt : Runtime) (lane : Lane) (resourceKey : String) (mode : ClaimMode) :
    Except PyError Unit :=
  let denied : PyError := ⟨.capabilityDenied,
    "lane lacks " ++ mode.value ++ " claim covering resource: " ++ resourceKey⟩
  match ResourceKey.ofString? resourceKey with
  | some key => if lane.claims.any (claimCovers rt · key mode) then .ok () else .error denied
  | none =>
    if lane.claims.any fun c => !(mode == .write && c.mode != .write) then
      .error ⟨.valueError, "not enough values to unpack (expected 2, got 1)"⟩
    else .error denied

/-- `authorize`. -/
def authorize (rt : Runtime) (r : LaneRegistry) (laneId : String) (fencingToken : ℤ)
    (capability : String) (resourceKey : Option String) (resourceMode : Option ClaimMode)
    (now : PyFloat) : Except PyError Lane × LaneRegistry :=
  match r.requireLaneLocked laneId fencingToken now with
  | (.error e, r') => (.error e, r')
  | (.ok lane, r') =>
    if capability ∉ lane.capabilities then
      (.error ⟨.capabilityDenied, "lane lacks capability: " ++ capability⟩, r')
    else
      match resourceKey with
      | none => (.ok lane, r')
      | some key =>
        match resourceMode with
        | none => (.error ⟨.valueError, "resource_mode is required with resource_key"⟩, r')
        | some mode =>
          match requireCover rt lane key mode with
          | .ok () => (.ok lane, r')
          | .error e => (.error e, r')

/-- `snapshot`. -/
def snapshot (r : LaneRegistry) (now : PyFloat) : List Lane × LaneRegistry :=
  let r' := (r.reapExpiredLocked now).2
  (sortById r'.lanes.values, r')

/-- `reap_expired`. -/
def reapExpired (r : LaneRegistry) (now : PyFloat) : List Lane × LaneRegistry :=
  r.reapExpiredLocked now

/-! ## What the operations do to the table -/

/-- `r'` is `r` without some lanes that are expired at `now`. -/
structure Swept (now : PyFloat) (r r' : LaneRegistry) : Prop where
  sessionCapabilities_eq : r'.sessionCapabilities = r.sessionCapabilities
  maxLanes_eq : r'.maxLanes = r.maxLanes
  hasAllocator_eq : r'.hasAllocator = r.hasAllocator
  lastFence_eq : r'.lastFence = r.lastFence
  size_le : r'.lanes.size ≤ r.lanes.size
  /-- No lane is added or changed. -/
  get?_of_get? : ∀ {laneId lane}, r'.lanes.get? laneId = some lane →
    r.lanes.get? laneId = some lane
  /-- Unexpired lanes stay. -/
  get?_of_not_expired : ∀ {laneId lane}, r.lanes.get? laneId = some lane →
    lane.expired now = false → r'.lanes.get? laneId = some lane

@[refl]
theorem Swept.refl (now : PyFloat) (r : LaneRegistry) : Swept now r r :=
  ⟨rfl, rfl, rfl, rfl, le_rfl, id, fun h _ => h⟩

variable {rt : Runtime} {r : LaneRegistry} {laneId taskId : String} {fencingToken : ℤ}
  {now : PyFloat}

/-- The sweep leaves unexpired lanes only. -/
theorem not_expired_of_reapExpiredLocked {lane : Lane}
    (h : (r.reapExpiredLocked now).2.lanes.get? laneId = some lane) :
    lane.expired now = false := by
  have hkeep := (Dict.get?_filter.mp h).2
  simpa using hkeep

theorem swept_reapExpiredLocked (r : LaneRegistry) (now : PyFloat) :
    Swept now r (r.reapExpiredLocked now).2 where
  sessionCapabilities_eq := rfl
  maxLanes_eq := rfl
  hasAllocator_eq := rfl
  lastFence_eq := rfl
  size_le := Dict.size_filter_le ..
  get?_of_get? h := (Dict.get?_filter.mp h).1
  get?_of_not_expired h hlive := Dict.get?_filter.mpr ⟨h, by simp [hlive]⟩

/-- Dropping one expired lane is a sweep. -/
theorem swept_erase {lane : Lane} (hget : r.lanes.get? laneId = some lane)
    (hexp : lane.expired now = true) :
    Swept now r { r with lanes := r.lanes.erase laneId } where
  sessionCapabilities_eq := rfl
  maxLanes_eq := rfl
  hasAllocator_eq := rfl
  lastFence_eq := rfl
  size_le := Dict.size_erase_le ..
  get?_of_get? {id lane'} h := by
    by_cases hid : id = laneId
    · simp [hid] at h
    · rwa [Dict.get?_erase_ne _ hid] at h
  get?_of_not_expired {id lane'} h hlive := by
    have hid : id ≠ laneId := by
      rintro rfl
      rw [hget] at h
      cases h
      simp [hexp] at hlive
    rwa [Dict.get?_erase_ne _ hid]

/-- The lane helper grants a stored, unexpired lane whose fence is presented, changing nothing. -/
theorem requireLaneLocked_ok {lane : Lane} {r' : LaneRegistry}
    (h : r.requireLaneLocked laneId fencingToken now = (.ok lane, r')) :
    r' = r ∧ r.lanes.get? laneId = some lane ∧ lane.fencingToken = fencingToken ∧
      lane.expired now = false := by
  unfold requireLaneLocked at h
  cases hget : r.lanes.get? laneId with
  | none => simp [hget] at h
  | some stored =>
    simp only [hget] at h
    split_ifs at h with hfence hexp
    · simp at h
    · simp at h
    · obtain ⟨hlane, rfl⟩ := Prod.mk.inj h
      cases hlane
      exact ⟨rfl, rfl, not_not.mp hfence, by simpa using hexp⟩

/-- The lane helper refuses at the price of at most the lane itself, and only if it is expired. -/
theorem requireLaneLocked_error {e : PyError} {r' : LaneRegistry}
    (h : r.requireLaneLocked laneId fencingToken now = (.error e, r')) : Swept now r r' := by
  unfold requireLaneLocked at h
  cases hget : r.lanes.get? laneId with
  | none =>
    simp only [hget, Prod.mk.injEq] at h
    exact h.2 ▸ Swept.refl now r
  | some stored =>
    simp only [hget] at h
    split_ifs at h with hfence hexp
    · exact (Prod.mk.inj h).2 ▸ Swept.refl now r
    · exact (Prod.mk.inj h).2 ▸ swept_erase hget hexp
    · simp at h

/-- The resource check passes only if a claim of the lane covers the resource. -/
theorem requireCover_ok {lane : Lane} {key : String} {mode : ClaimMode}
    (h : requireCover rt lane key mode = .ok ()) :
    ∃ k, ResourceKey.ofString? key = some k ∧
      ∃ c ∈ lane.claims, claimCovers rt c k mode = true := by
  unfold requireCover at h
  cases hkey : ResourceKey.ofString? key with
  | none =>
    simp only [hkey] at h
    split_ifs at h
  | some k =>
    simp only [hkey] at h
    split_ifs at h with hany
    exact ⟨k, rfl, List.any_eq_true.mp hany⟩

/-- An accepted `authorize` changes nothing. Its lane is stored and unexpired, the fence presented
is the lane's, the capability is the lane's, and one of its claims covers the resource. -/
theorem authorize_ok {capability : String} {resourceKey : Option String}
    {resourceMode : Option ClaimMode} {lane : Lane} {r' : LaneRegistry}
    (h : r.authorize rt laneId fencingToken capability resourceKey resourceMode now =
      (.ok lane, r')) :
    r' = r ∧ r.lanes.get? laneId = some lane ∧ lane.fencingToken = fencingToken ∧
      lane.expired now = false ∧ capability ∈ lane.capabilities ∧
      ∀ key, resourceKey = some key → ∃ k mode, ResourceKey.ofString? key = some k ∧
        resourceMode = some mode ∧ ∃ c ∈ lane.claims, claimCovers rt c k mode = true := by
  unfold authorize at h
  rcases hreq : r.requireLaneLocked laneId fencingToken now with ⟨res, r₁⟩
  rw [hreq] at h
  cases res with
  | error e => simp at h
  | ok stored =>
    obtain ⟨rfl, hget, hfence, hlive⟩ := requireLaneLocked_ok hreq
    by_cases hcap : capability ∈ stored.capabilities
    · simp only [hcap, not_true_eq_false, if_false] at h
      cases resourceKey with
      | none =>
        obtain ⟨hlane, rfl⟩ := Prod.mk.inj h
        cases hlane
        exact ⟨rfl, hget, hfence, hlive, hcap, by simp⟩
      | some key =>
        cases resourceMode with
        | none => simp at h
        | some mode =>
          simp only at h
          cases hcover : requireCover rt stored key mode with
          | error e => simp [hcover] at h
          | ok u =>
            simp only [hcover, Prod.mk.injEq] at h
            obtain ⟨hlane, rfl⟩ := h
            cases hlane
            refine ⟨rfl, hget, hfence, hlive, hcap, ?_⟩
            rintro _ ⟨rfl⟩
            obtain ⟨k, hkey, hclaim⟩ := requireCover_ok hcover
            exact ⟨k, mode, hkey, rfl, hclaim⟩
    · simp [hcap] at h

/-- A rejected `authorize` only sweeps. -/
theorem authorize_error {capability : String} {resourceKey : Option String}
    {resourceMode : Option ClaimMode} {e : PyError} {r' : LaneRegistry}
    (h : r.authorize rt laneId fencingToken capability resourceKey resourceMode now =
      (.error e, r')) : Swept now r r' := by
  unfold authorize at h
  rcases hreq : r.requireLaneLocked laneId fencingToken now with ⟨res, r₁⟩
  rw [hreq] at h
  cases res with
  | error e' => exact (Prod.mk.inj h).2 ▸ requireLaneLocked_error hreq
  | ok stored =>
    obtain ⟨rfl, -⟩ := requireLaneLocked_ok hreq
    -- once the lane is granted, no branch touches the table
    have hsame : r' = r₁ := by
      by_cases hcap : capability ∈ stored.capabilities
      · simp only [hcap, not_true_eq_false, if_false] at h
        split at h
        · simp at h
        · split at h
          · exact (Prod.mk.inj h).2.symm
          · split at h
            · simp at h
            · exact (Prod.mk.inj h).2.symm
      · simp only [hcap, not_false_eq_true, if_true] at h
        exact (Prod.mk.inj h).2.symm
    exact hsame ▸ Swept.refl now r₁

/-- An accepted `close` drops a stored, unexpired lane whose fence is presented. -/
theorem close_ok {lane : Lane} {r' : LaneRegistry}
    (h : r.close laneId fencingToken now = (.ok lane, r')) :
    r' = { r with lanes := r.lanes.erase laneId } ∧ r.lanes.get? laneId = some lane ∧
      lane.fencingToken = fencingToken ∧ lane.expired now = false := by
  unfold close at h
  rcases hreq : r.requireLaneLocked laneId fencingToken now with ⟨res, r₁⟩
  rw [hreq] at h
  cases res with
  | error e => simp at h
  | ok stored =>
    obtain ⟨rfl, hget, hfence, hlive⟩ := requireLaneLocked_ok hreq
    obtain ⟨hlane, rfl⟩ := Prod.mk.inj h
    cases hlane
    exact ⟨rfl, hget, hfence, hlive⟩

/-- A rejected `close` only sweeps. -/
theorem close_error {e : PyError} {r' : LaneRegistry}
    (h : r.close laneId fencingToken now = (.error e, r')) : Swept now r r' := by
  unfold close at h
  rcases hreq : r.requireLaneLocked laneId fencingToken now with ⟨res, r₁⟩
  rw [hreq] at h
  cases res with
  | error e' => exact (Prod.mk.inj h).2 ▸ requireLaneLocked_error hreq
  | ok stored => simp at h

/-- An accepted `renew` moves the expiry of a stored, unexpired lane whose fence is presented. -/
theorem renew_ok {ttl : PyFloat} {lane : Lane} {r' : LaneRegistry}
    (h : r.renew laneId fencingToken ttl now = (.ok lane, r')) :
    ∃ old, r.lanes.get? laneId = some old ∧ old.fencingToken = fencingToken ∧
      old.expired now = false ∧ lane = { old with expiresAt := now + ttl } ∧
      r' = { r with lanes := r.lanes.set laneId lane } := by
  unfold renew at h
  split_ifs at h with httl
  · simp at h
  · rcases hreq : r.requireLaneLocked laneId fencingToken now with ⟨res, r₁⟩
    rw [hreq] at h
    cases res with
    | error e => simp at h
    | ok stored =>
      obtain ⟨rfl, hget, hfence, hlive⟩ := requireLaneLocked_ok hreq
      obtain ⟨hlane, rfl⟩ := Prod.mk.inj h
      cases hlane
      exact ⟨stored, hget, hfence, hlive, rfl, rfl⟩

/-- A rejected `renew` only sweeps. -/
theorem renew_error {ttl : PyFloat} {e : PyError} {r' : LaneRegistry}
    (h : r.renew laneId fencingToken ttl now = (.error e, r')) : Swept now r r' := by
  unfold renew at h
  split_ifs at h with httl
  · exact (Prod.mk.inj h).2 ▸ Swept.refl now r
  · rcases hreq : r.requireLaneLocked laneId fencingToken now with ⟨res, r₁⟩
    rw [hreq] at h
    cases res with
    | error e' => exact (Prod.mk.inj h).2 ▸ requireLaneLocked_error hreq
    | ok stored => simp at h

theorem firstCollision_eq_none_iff {claims : List ResourceClaim} {lanes : List Lane} :
    firstCollision rt claims lanes = none ↔
      ∀ lane ∈ lanes, firstConflict rt claims lane.claims = none := by
  induction lanes with
  | nil => simp [firstCollision]
  | cons lane lanes ih =>
    rw [firstCollision, List.forall_mem_cons, ← ih]
    cases firstConflict rt claims lane.claims <;> simp

/-- A new fence lies above every earlier one. -/
theorem lt_of_nextFence {allocated : Except PyError ℤ} {fence : ℤ}
    (h : r.nextFence allocated = .ok fence) : r.lastFence < fence := by
  unfold nextFence at h
  split_ifs at h
  · cases h
    omega
  · split at h
    · cases h
    · split_ifs at h with hle
      cases h
      omega

/-- An accepted insertion binds a fresh lane id to a lane with a fresh fence, whose claims
conflict with no stored lane. -/
theorem insertLocked_ok {capabilities : Finset String} {claims : List ResourceClaim}
    {ttl : PyFloat} {allocated : Except PyError ℤ} {lane : Lane} {r' : LaneRegistry}
    (h : r.insertLocked rt laneId taskId capabilities claims ttl now allocated = (.ok lane, r')) :
    ∃ fence, lane = ⟨laneId, taskId, capabilities, claims, fence, now + ttl⟩ ∧
      r' = { r with lastFence := fence, lanes := r.lanes.set laneId lane } ∧
      r.lastFence < fence ∧ r.lanes.get? laneId = none ∧ (r.lanes.size : ℤ) < r.maxLanes ∧
      ∀ id other, r.lanes.get? id = some other → firstConflict rt claims other.claims = none := by
  unfold insertLocked at h
  split_ifs at h with hpresent hfull
  · simp at h
  · simp at h
  · cases hcol : firstCollision rt claims r.lanes.values with
    | some p => simp [hcol] at h
    | none =>
      rw [hcol] at h
      cases hfence : r.nextFence allocated with
      | error e => simp [hfence] at h
      | ok fence =>
        simp only [hfence, Prod.mk.injEq] at h
        obtain ⟨hlane, hr'⟩ := h
        cases hlane
        refine ⟨fence, rfl, hr'.symm, lt_of_nextFence hfence, ?_, not_le.mp hfull, ?_⟩
        · exact Dict.contains_eq_false_iff.mp (by simpa using hpresent)
        · intro id other hother
          exact firstCollision_eq_none_iff.mp hcol other (Dict.mem_values.mpr ⟨id, hother⟩)

/-- A rejected insertion changes nothing. -/
theorem insertLocked_error {capabilities : Finset String} {claims : List ResourceClaim}
    {ttl : PyFloat} {allocated : Except PyError ℤ} {e : PyError} {r' : LaneRegistry}
    (h : r.insertLocked rt laneId taskId capabilities claims ttl now allocated =
      (.error e, r')) : r' = r := by
  unfold insertLocked at h
  split_ifs at h
  · exact (Prod.mk.inj h).2.symm
  · exact (Prod.mk.inj h).2.symm
  · split at h
    · exact (Prod.mk.inj h).2.symm
    · split at h
      · exact (Prod.mk.inj h).2.symm
      · simp at h

/-- An accepted `open_lane` sweeps, then binds a fresh lane id to a lane with a fresh fence and
with capabilities inside the session ceiling, whose claims conflict with no lane that is left. -/
theorem openLane_ok {capabilities : List String} {claims : List ResourceClaim}
    {ttl : PyFloat} {allocated : Except PyError ℤ} {lane : Lane} {r' : LaneRegistry}
    (h : r.openLane rt laneId taskId capabilities claims ttl now allocated = (.ok lane, r')) :
    ∃ r₀ fence, r₀ = (r.reapExpiredLocked now).2 ∧
      lane = ⟨laneId, taskId, capabilities.toFinset, claimTuple claims, fence, now + ttl⟩ ∧
      r' = { r₀ with lastFence := fence, lanes := r₀.lanes.set laneId lane } ∧
      r.lastFence < fence ∧ capabilities.toFinset ⊆ r.sessionCapabilities ∧
      r₀.lanes.get? laneId = none ∧ (r₀.lanes.size : ℤ) < r.maxLanes ∧
      ∀ id other, r₀.lanes.get? id = some other →
        firstConflict rt lane.claims other.claims = none := by
  unfold openLane at h
  split_ifs at h with hblank httl hcap
  · simp at h
  · simp at h
  · obtain ⟨fence, hlane, hr', hfence, hfresh, hroom, hclear⟩ := insertLocked_ok h
    refine ⟨_, fence, rfl, hlane, hr', hfence, hcap, hfresh, hroom, ?_⟩
    rw [hlane]
    exact hclear
  · simp at h

/-- A rejected `open_lane` only sweeps. -/
theorem openLane_error {capabilities : List String} {claims : List ResourceClaim}
    {ttl : PyFloat} {allocated : Except PyError ℤ} {e : PyError} {r' : LaneRegistry}
    (h : r.openLane rt laneId taskId capabilities claims ttl now allocated = (.error e, r')) :
    Swept now r r' := by
  unfold openLane at h
  split_ifs at h
  · exact (Prod.mk.inj h).2 ▸ Swept.refl now r
  · exact (Prod.mk.inj h).2 ▸ Swept.refl now r
  · exact insertLocked_error h ▸ swept_reapExpiredLocked r now
  · exact (Prod.mk.inj h).2 ▸ Swept.refl now r

/-- What one operation that reads the clock at `now` can do to the registry. -/
inductive Change (rt : Runtime) (now : PyFloat) (r : LaneRegistry) : LaneRegistry → Prop where
  /-- Drop expired lanes. -/
  | sweep {r' : LaneRegistry} (hswept : Swept now r r') : Change rt now r r'
  /-- Sweep, then bind a fresh id to a lane that conflicts with none of the others. -/
  | insert {lane : Lane} (hfresh : (r.reapExpiredLocked now).2.lanes.get? lane.laneId = none)
      (hcaps : lane.capabilities ⊆ r.sessionCapabilities)
      (hroom : ((r.reapExpiredLocked now).2.lanes.size : ℤ) < r.maxLanes)
      (hclear : ∀ id other, (r.reapExpiredLocked now).2.lanes.get? id = some other →
        firstConflict rt lane.claims other.claims = none)
      (hfence : r.lastFence < lane.fencingToken) :
      Change rt now r
        { (r.reapExpiredLocked now).2 with
          lastFence := lane.fencingToken
          lanes := (r.reapExpiredLocked now).2.lanes.set lane.laneId lane }
  /-- Move the expiry of an unexpired lane. -/
  | rebind {laneId : String} {old : Lane} (expiresAt : PyFloat)
      (hget : r.lanes.get? laneId = some old) (hlive : old.expired now = false) :
      Change rt now r { r with lanes := r.lanes.set laneId { old with expiresAt } }
  /-- Drop an unexpired lane. -/
  | erase {laneId : String} {old : Lane} (hget : r.lanes.get? laneId = some old)
      (hlive : old.expired now = false) :
      Change rt now r { r with lanes := r.lanes.erase laneId }

theorem change_openLane (rt : Runtime) (r : LaneRegistry) (laneId taskId : String)
    (capabilities : List String) (claims : List ResourceClaim) (ttl now : PyFloat)
    (allocated : Except PyError ℤ) :
    Change rt now r (r.openLane rt laneId taskId capabilities claims ttl now allocated).2 := by
  rcases hop : r.openLane rt laneId taskId capabilities claims ttl now allocated with ⟨res, r'⟩
  cases res with
  | error e => exact .sweep (openLane_error hop)
  | ok lane =>
    obtain ⟨r₀, fence, rfl, hlane, rfl, hfence, hcaps, hfresh, hroom, hclear⟩ := openLane_ok hop
    subst hlane
    exact .insert hfresh hcaps hroom hclear hfence

theorem change_renew (rt : Runtime) (r : LaneRegistry) (laneId : String) (fencingToken : ℤ)
    (ttl now : PyFloat) : Change rt now r (r.renew laneId fencingToken ttl now).2 := by
  rcases hop : r.renew laneId fencingToken ttl now with ⟨res, r'⟩
  cases res with
  | error e => exact .sweep (renew_error hop)
  | ok lane =>
    obtain ⟨old, hget, -, hlive, rfl, rfl⟩ := renew_ok hop
    exact .rebind _ hget hlive

theorem change_close (rt : Runtime) (r : LaneRegistry) (laneId : String) (fencingToken : ℤ)
    (now : PyFloat) : Change rt now r (r.close laneId fencingToken now).2 := by
  rcases hop : r.close laneId fencingToken now with ⟨res, r'⟩
  cases res with
  | error e => exact .sweep (close_error hop)
  | ok lane =>
    obtain ⟨rfl, hget, -, hlive⟩ := close_ok hop
    exact .erase hget hlive

/-- `authorize` only sweeps. -/
theorem swept_authorize (rt : Runtime) (r : LaneRegistry) (laneId : String) (fencingToken : ℤ)
    (capability : String) (resourceKey : Option String) (resourceMode : Option ClaimMode)
    (now : PyFloat) :
    Swept now r
      (r.authorize rt laneId fencingToken capability resourceKey resourceMode now).2 := by
  rcases hop : r.authorize rt laneId fencingToken capability resourceKey resourceMode now
    with ⟨res, r'⟩
  cases res with
  | error e => exact authorize_error hop
  | ok lane =>
    obtain ⟨rfl, -⟩ := authorize_ok hop
    exact Swept.refl now r'

end LaneRegistry

end VeraMesh
