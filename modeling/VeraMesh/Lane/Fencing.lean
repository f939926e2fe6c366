import VeraMesh.Agent.StateStore
import VeraMesh.Lane.Exclusion

/-!
# Fences

A fence is issued once: the registry of an agent takes larger and larger ones, and the counter that
they come from outlives the agent.

* `LaneRegistry.Dropped`, `LaneRegistry.Distinct`: what a registry keeps of the fences it issued.
* `Fleet`: agents that start and crash on one state database.
* `fences_not_reissued`: fences increase in the order of issue, and a fence that is over is not
  accepted again.
-/

namespace VeraMesh

open Python

namespace LaneRegistry

/-- The registry has given up the fence of a lane. -/
structure Dropped (r : LaneRegistry) (laneId : String) (fencingToken : ℤ) :
    Prop where
  issued : fencingToken ≤ r.lastFence
  absent : ∀ lane, r.lanes.get? laneId = some lane → lane.fencingToken ≠ fencingToken

variable {rt : Runtime} {r r' : LaneRegistry} {laneId : String} {fencingToken : ℤ} {now : PyFloat}

/-- No operation of the registry brings a fence back. -/
theorem Dropped.change (h : r.Dropped laneId fencingToken)
    (hchange : Change rt now r r') : r'.Dropped laneId fencingToken := by
  cases hchange with
  | sweep hswept =>
    exact ⟨hswept.lastFence_eq ▸ h.issued, fun lane hl => h.absent lane (hswept.get?_of_get? hl)⟩
  | @insert lane hfresh hcaps hroom hclear hfence =>
    refine ⟨h.issued.trans hfence.le, fun other hother => ?_⟩
    rw [Dict.get?_set] at hother
    split_ifs at hother
    · -- the fence of a new lane is larger than all before
      obtain rfl := Option.some.inj hother
      exact (h.issued.trans_lt hfence).ne'
    · exact h.absent other ((swept_reapExpiredLocked r now).get?_of_get? hother)
  | @rebind id old expiresAt hget hlive =>
    refine ⟨h.issued, fun other hother => ?_⟩
    rw [Dict.get?_set] at hother
    split_ifs at hother with hid
    · obtain rfl := Option.some.inj hother
      exact h.absent old (hid ▸ hget)
    · exact h.absent other hother
  | erase hget hlive =>
    refine ⟨h.issued, fun other hother => h.absent other ?_⟩
    rw [Dict.get?_erase] at hother
    split_ifs at hother
    exact hother

theorem Dropped.close {lane : Lane} (hinv : Inv rt r)
    (hclose : r.close laneId fencingToken now = (.ok lane, r')) :
    r'.Dropped laneId fencingToken := by
  obtain ⟨rfl, hget, hfence, -⟩ := close_ok hclose
  refine ⟨hfence ▸ hinv.fenced hget, fun other hother => ?_⟩
  rw [Dict.get?_erase_self] at hother
  cases hother

/-- No two lanes have a fence in common. -/
def Distinct (r : LaneRegistry) : Prop :=
  ∀ id₁ id₂ l₁ l₂, r.lanes.get? id₁ = some l₁ → r.lanes.get? id₂ = some l₂ →
    l₁.fencingToken = l₂.fencingToken → id₁ = id₂

theorem Distinct.change (h : r.Distinct) (hinv : Inv rt r) (hchange : Change rt now r r') :
    r'.Distinct := by
  cases hchange with
  | sweep hswept =>
    exact fun id₁ id₂ l₁ l₂ h₁ h₂ =>
      h id₁ id₂ l₁ l₂ (hswept.get?_of_get? h₁) (hswept.get?_of_get? h₂)
  | @insert lane hfresh hcaps hroom hclear hfence =>
    have hswept := swept_reapExpiredLocked r now
    -- the new fence is larger than that of every other lane
    have hless : ∀ {id l}, (r.reapExpiredLocked now).2.lanes.get? id = some l →
        l.fencingToken < lane.fencingToken := fun hl =>
      (hinv.fenced (hswept.get?_of_get? hl)).trans_lt hfence
    intro id₁ id₂ l₁ l₂ h₁ h₂ heq
    rw [Dict.get?_set] at h₁ h₂
    split_ifs at h₁ h₂ with hid₁ hid₂ hid₂
    · exact hid₁.trans hid₂.symm
    · obtain rfl := Option.some.inj h₁
      exact absurd heq.symm (hless h₂).ne
    · obtain rfl := Option.some.inj h₂
      exact absurd heq (hless h₁).ne
    · exact h id₁ id₂ l₁ l₂ (hswept.get?_of_get? h₁) (hswept.get?_of_get? h₂) heq
  | @rebind laneId old expiresAt hget hlive =>
    have hback : ∀ {id l}, (r.lanes.set laneId { old with expiresAt }).get? id = some l →
        ∃ l₀, r.lanes.get? id = some l₀ ∧ l₀.fencingToken = l.fencingToken := by
      intro id l hl
      rw [Dict.get?_set] at hl
      split_ifs at hl with hid
      · obtain rfl := Option.some.inj hl
        exact ⟨old, hid ▸ hget, rfl⟩
      · exact ⟨l, hl, rfl⟩
    intro id₁ id₂ l₁ l₂ h₁ h₂ heq
    obtain ⟨k₁, hk₁, hf₁⟩ := hback h₁
    obtain ⟨k₂, hk₂, hf₂⟩ := hback h₂
    exact h id₁ id₂ k₁ k₂ hk₁ hk₂ (hf₁.trans (heq.trans hf₂.symm))
  | erase hget hlive =>
    have hsub : ∀ {laneId id l}, (r.lanes.erase laneId).get? id = some l →
        r.lanes.get? id = some l := fun hl => (Dict.get?_filter.mp hl).1
    exact fun id₁ id₂ l₁ l₂ h₁ h₂ => h id₁ id₂ l₁ l₂ (hsub h₁) (hsub h₂)

/-- `open_lane` gets as far as the fence allocator. -/
def asksFence (rt : Runtime) (r : LaneRegistry) (laneId taskId : String)
    (capabilities : List String) (claims : List ResourceClaim) (ttl now : PyFloat) : Bool :=
  let swept := (r.reapExpiredLocked now).2
  !isBlank laneId && !isBlank taskId && !ttl.le 0 &&
    decide (capabilities.toFinset ⊆ r.sessionCapabilities) && !swept.lanes.contains laneId &&
    decide ((swept.lanes.size : ℤ) < r.maxLanes) &&
    (firstCollision rt (claimTuple claims) swept.lanes.values).isNone && r.hasAllocator

section AsksFence

variable {taskId : String} {capabilities : List String} {claims : List ResourceClaim}
  {ttl : PyFloat}

/-- An `open_lane` that gets there has the outcome of the allocator. -/
theorem openLane_of_asksFence
    (h : r.asksFence rt laneId taskId capabilities claims ttl now = true) (e : PyError) :
    (r.openLane rt laneId taskId capabilities claims ttl now (.error e)).1 = .error e := by
  simp only [asksFence, Bool.and_eq_true, Bool.not_eq_true', decide_eq_true_eq,
    Option.isNone_iff_eq_none] at h
  obtain ⟨⟨⟨⟨⟨⟨⟨hlane, htask⟩, httl⟩, hcaps⟩, hfree⟩, hroom⟩, hclear⟩, hallocator⟩ := h
  have hmax : ¬(r.reapExpiredLocked now).2.maxLanes ≤ (r.reapExpiredLocked now).2.lanes.size :=
    not_le.mpr hroom
  have hallocator' : (r.reapExpiredLocked now).2.hasAllocator = true := hallocator
  simp [openLane, insertLocked, nextFence, hlane, htask, httl, hcaps, hfree, hmax, hclear,
    hallocator']

/-- An `open_lane` that does not get there, on a registry with an allocator, does not depend on
it. -/
theorem openLane_of_not_asksFence
    (h : r.asksFence rt laneId taskId capabilities claims ttl now = false)
    (hallocator : r.hasAllocator = true) (a b : Except PyError ℤ) :
    r.openLane rt laneId taskId capabilities claims ttl now a =
      r.openLane rt laneId taskId capabilities claims ttl now b := by
  unfold openLane
  split_ifs with hblank httl hcaps
  · rfl
  · rfl
  · unfold insertLocked
    split_ifs with hpresent hfull
    · rfl
    · rfl
    · split
      · rfl
      next hclear =>
        -- every check has passed
        have hroom : ((r.reapExpiredLocked now).2.lanes.size : ℤ) < r.maxLanes := not_le.mp hfull
        simp only [Bool.or_eq_true, not_or, Bool.not_eq_true] at hblank
        simp [asksFence, hblank, httl, hcaps, hpresent, hroom, hclear, hallocator] at h
  · rfl

/-- The fence of a new lane is that of the allocator. -/
theorem allocated_of_openLane {allocated : Except PyError ℤ} {lane : Lane}
    (h : r.openLane rt laneId taskId capabilities claims ttl now allocated = (.ok lane, r'))
    (hallocator : r.hasAllocator = true) : allocated = .ok lane.fencingToken := by
  unfold openLane at h
  split_ifs at h
  · simp at h
  · simp at h
  · unfold insertLocked at h
    split_ifs at h
    · simp at h
    · simp at h
    · split at h
      · simp at h
      · have hallocator' : (r.reapExpiredLocked now).2.hasAllocator = true := hallocator
        unfold nextFence at h
        cases allocated with
        | error e => simp [hallocator'] at h
        | ok fence =>
          simp only [hallocator', Bool.not_true, Bool.false_eq_true, if_false] at h
          split_ifs at h
          · simp at h
          · simp only [Prod.mk.injEq, Except.ok.injEq] at h
            rw [← h.1]
  · simp at h

end AsksFence

/-- No fence is issued, and every lane of `r'` is one of `r` up to its expiry. -/
def Kept (r r' : LaneRegistry) : Prop :=
  r'.lastFence = r.lastFence ∧ ∀ id l, r'.lanes.get? id = some l →
    ∃ l₀, r.lanes.get? id = some l₀ ∧ l₀.fencingToken = l.fencingToken

theorem Swept.kept (h : Swept now r r') : Kept r r' :=
  ⟨h.lastFence_eq, fun _ l hl => ⟨l, h.get?_of_get? hl, rfl⟩⟩

theorem kept_renew (r : LaneRegistry) (laneId : String) (fencingToken : ℤ) (ttl now : PyFloat) :
    Kept r (r.renew laneId fencingToken ttl now).2 := by
  rcases hrenew : r.renew laneId fencingToken ttl now with ⟨result, r'⟩
  cases result with
  | error e => exact (renew_error hrenew).kept
  | ok lane =>
    obtain ⟨old, hold, -, -, rfl, rfl⟩ := renew_ok hrenew
    refine ⟨rfl, fun id l hl => ?_⟩
    rw [Dict.get?_set] at hl
    split_ifs at hl with hid
    · obtain rfl := Option.some.inj hl
      exact ⟨old, hid ▸ hold, rfl⟩
    · exact ⟨l, hl, rfl⟩

theorem kept_close (r : LaneRegistry) (laneId : String) (fencingToken : ℤ) (now : PyFloat) :
    Kept r (r.close laneId fencingToken now).2 := by
  rcases hclose : r.close laneId fencingToken now with ⟨result, r'⟩
  cases result with
  | error e => exact (close_error hclose).kept
  | ok lane =>
    obtain ⟨rfl, -⟩ := close_ok hclose
    exact ⟨rfl, fun id l hl => ⟨l, (Dict.get?_filter.mp hl).1, rfl⟩⟩

end LaneRegistry

/-! ## Agents on one database -/

/-- The registry of a running agent, with the last reading of its clock. -/
structure FencedAgent where
  registry : LaneRegistry
  clock : PyFloat

/-- Agents on one state database. A crash loses the registry of an agent and nothing else. -/
structure Fleet where
  stateStore : AgentStateStore
  agents : Dict ℕ FencedAgent
  /-- The fences that `next_fence` has returned, in order. Nothing reads them. -/
  issued : List ℤ

/-- One step of an agent or of the database. -/
inductive FleetEvent where
  | start (agent : ℕ) (sessionCapabilities : Finset String) (maxLanes : ℤ) (clock : PyFloat)
  | crash (agent : ℕ)
  /-- A call of `next_fence` on some connection whose fence goes into no lane. -/
  | allocate (sqliteError : Option PyError)
  /-- Time passes. -/
  | tick (agent : ℕ) (now : PyFloat)
  /-- An operation of the registry. -/
  | call (agent : ℕ) (call : LaneRegistry.Call) (sqliteError : Option PyError)

/-- The operation with what the fence allocator returns or raises. -/
def LaneRegistry.Call.allocating (allocated : Except PyError ℤ) : Call → Call
  | openLane laneId taskId capabilities claims ttl now _ =>
    openLane laneId taskId capabilities claims ttl now allocated
  | call => call

@[simp]
theorem LaneRegistry.Call.now_allocating (allocated : Except PyError ℤ) (call : Call) :
    (call.allocating allocated).now = call.now := by
  cases call <;> rfl

/-- The operation calls the fence allocator. -/
def LaneRegistry.Call.asksFence (rt : Runtime) (r : LaneRegistry) : Call → Bool
  | openLane laneId taskId capabilities claims ttl now _ =>
    r.asksFence rt laneId taskId capabilities claims ttl now
  | _ => false

namespace Fleet

/-- No agent is running yet. -/
def init (stateStore : AgentStateStore) : Fleet := ⟨stateStore, .empty, []⟩

variable (rt : Runtime) (s : Fleet)

/-- A call of `next_fence`. -/
def allocate (sqliteError : Option PyError) : Fleet :=
  let (allocated, stateStore) := s.stateStore.nextFence sqliteError
  { s with stateStore, issued := s.issued ++ allocated.toOption.toList }

/-- One step, `none` if it cannot happen. The clock of an agent never goes back. -/
def step : FleetEvent → Option Fleet
  | .start agent sessionCapabilities maxLanes clock =>
    match LaneRegistry.create sessionCapabilities maxLanes true with
    | .error _ => none
    | .ok registry =>
      if s.agents.contains agent then none
      else some { s with agents := s.agents.set agent ⟨registry, clock⟩ }
  | .crash agent => some { s with agents := s.agents.erase agent }
  | .allocate sqliteError => some (s.allocate sqliteError)
  | .tick agent now =>
    match s.agents.get? agent with
    | none => none
    | some a =>
      if a.clock.le now then some { s with agents := s.agents.set agent { a with clock := now } }
      else none
  | .call agent call sqliteError =>
    match s.agents.get? agent with
    | none => none
    | some a =>
      if a.clock.le call.now then
        let allocated := (s.stateStore.nextFence sqliteError).1
        let after := if call.asksFence rt a.registry then s.allocate sqliteError else s
        let registry := ((call.allocating allocated).exec rt a.registry).2
        some { after with agents := s.agents.set agent ⟨registry, call.now⟩ }
      else none

/-- The state after a sequence of events, `none` if one of them cannot happen. -/
def run (s : Fleet) : List FleetEvent → Option Fleet
  | [] => some s
  | event :: events => (s.step rt event).bind fun next => run next events

/-- The value of the fence counter. -/
def counter : ℤ := s.stateStore.fenceCounter.getD 0

variable {rt s} {s' : Fleet}

/-- What a call of `next_fence` does. -/
theorem allocate_cases (sqliteError : Option PyError) :
    ((∃ e, (s.stateStore.nextFence sqliteError).1 = .error e) ∧ s.allocate sqliteError = s) ∨
      (s.stateStore.nextFence sqliteError).1 = .ok (s.counter + 1) ∧
        (s.allocate sqliteError).agents = s.agents ∧
        (s.allocate sqliteError).counter = s.counter + 1 ∧
        (s.allocate sqliteError).issued = s.issued ++ [s.counter + 1] := by
  cases sqliteError with
  | some e =>
    refine Or.inl ⟨⟨e, rfl⟩, ?_⟩
    simp [Fleet.allocate, AgentStateStore.nextFence, Except.toOption]
  | none => exact Or.inr ⟨rfl, rfl, rfl, rfl⟩

/-- The invariant of agents on one database. -/
structure Inv (rt : Runtime) (s : Fleet) : Prop where
  increasing : s.issued.Pairwise (· < ·)
  bounded : ∀ fence ∈ s.issued, fence ≤ s.counter
  nonneg : 0 ≤ s.counter
  registry : ∀ i a, s.agents.get? i = some a → LaneRegistry.Inv rt a.registry
  distinct : ∀ i a, s.agents.get? i = some a → a.registry.Distinct
  hasAllocator : ∀ i a, s.agents.get? i = some a → a.registry.hasAllocator = true
  lastFence : ∀ i a, s.agents.get? i = some a → a.registry.lastFence ≤ s.counter
  /-- No two agents have a fence in common. -/
  apart : ∀ i j a b id₁ id₂ l₁ l₂, s.agents.get? i = some a → s.agents.get? j = some b →
    a.registry.lanes.get? id₁ = some l₁ → b.registry.lanes.get? id₂ = some l₂ →
    l₁.fencingToken = l₂.fencingToken → i = j

theorem Inv.init {stateStore : AgentStateStore} (h : 0 ≤ stateStore.fenceCounter.getD 0) :
    Inv rt (init stateStore) := by
  refine ⟨List.Pairwise.nil, ?_, h, ?_, ?_, ?_, ?_, ?_⟩
  all_goals
    intros
    contradiction

/-- The database moves on. -/
theorem Inv.allocate (h : Inv rt s) (sqliteError : Option PyError) :
    Inv rt (s.allocate sqliteError) := by
  rcases s.allocate_cases sqliteError with ⟨-, hsame⟩ | ⟨-, hagents, hcounter, hissued⟩
  · rw [hsame]
    exact h
  · refine ⟨?_, ?_, ?_, ?_, ?_, ?_, ?_, ?_⟩
    · rw [hissued, List.pairwise_append]
      refine ⟨h.increasing, List.pairwise_singleton .., fun x hx y hy => ?_⟩
      rw [List.mem_singleton.mp hy]
      have hle := h.bounded x hx
      omega
    · intro fence hfence
      rw [hissued] at hfence
      rw [hcounter]
      rcases List.mem_append.mp hfence with hold | hnew
      · have hle := h.bounded fence hold
        omega
      · rw [List.mem_singleton.mp hnew]
    · have hnonneg := h.nonneg
      omega
    · rw [hagents]
      exact h.registry
    · rw [hagents]
      exact h.distinct
    · rw [hagents]
      exact h.hasAllocator
    · intro i a ha
      rw [hagents] at ha
      have hle := h.lastFence i a ha
      omega
    · rw [hagents]
      exact h.apart

/-- One agent moves on. -/
theorem Inv.set (h : Inv rt s) {i : ℕ} {a' : FencedAgent}
    (hregistry : LaneRegistry.Inv rt a'.registry) (hdistinct : a'.registry.Distinct)
    (hallocator : a'.registry.hasAllocator = true) (hlast : a'.registry.lastFence ≤ s.counter)
    (happart : ∀ j b id₁ id₂ l₁ l₂, j ≠ i → s.agents.get? j = some b →
      a'.registry.lanes.get? id₁ = some l₁ → b.registry.lanes.get? id₂ = some l₂ →
      l₁.fencingToken ≠ l₂.fencingToken) :
    Inv rt { s with agents := s.agents.set i a' } := by
  have hcases : ∀ {j b}, (s.agents.set i a').get? j = some b →
      j = i ∧ b = a' ∨ j ≠ i ∧ s.agents.get? j = some b := by
    intro j b hb
    rw [Dict.get?_set] at hb
    split_ifs at hb with hj
    · exact Or.inl ⟨hj, (Option.some.inj hb).symm⟩
    · exact Or.inr ⟨hj, hb⟩
  refine ⟨h.increasing, h.bounded, h.nonneg, fun j b hb => ?_, fun j b hb => ?_, fun j b hb => ?_,
    fun j b hb => ?_, fun j k b c id₁ id₂ l₁ l₂ hb hc h₁ h₂ heq => ?_⟩
  · rcases hcases hb with ⟨-, rfl⟩ | ⟨-, hold⟩
    · exact hregistry
    · exact h.registry j b hold
  · rcases hcases hb with ⟨-, rfl⟩ | ⟨-, hold⟩
    · exact hdistinct
    · exact h.distinct j b hold
  · rcases hcases hb with ⟨-, rfl⟩ | ⟨-, hold⟩
    · exact hallocator
    · exact h.hasAllocator j b hold
  · rcases hcases hb with ⟨-, rfl⟩ | ⟨-, hold⟩
    · exact hlast
    · exact h.lastFence j b hold
  · rcases hcases hb with ⟨rfl, rfl⟩ | ⟨hj, hold⟩
    · rcases hcases hc with ⟨rfl, -⟩ | ⟨hk, hold'⟩
      · rfl
      · exact absurd heq (happart k c id₁ id₂ l₁ l₂ hk hold' h₁ h₂)
    · rcases hcases hc with ⟨rfl, rfl⟩ | ⟨hk, hold'⟩
      · exact absurd heq.symm (happart j b id₂ id₁ l₂ l₁ hj hold h₂ h₁)
      · exact h.apart j k b c id₁ id₂ l₁ l₂ hold hold' h₁ h₂ heq

/-- An operation issues no fence, or opens a lane with the next fence of the database. -/
theorem registry_of_call {r : LaneRegistry} (hallocator : r.hasAllocator = true)
    (call : LaneRegistry.Call) (sqliteError : Option PyError) {r' : LaneRegistry}
    (hr' : r' =
      ((call.allocating (s.stateStore.nextFence sqliteError).1).exec rt r).2) :
    LaneRegistry.Kept r r' ∨
      call.asksFence rt r = true ∧
        (s.stateStore.nextFence sqliteError).1 = .ok (s.counter + 1) ∧
        r'.lastFence = s.counter + 1 ∧ ∀ id l, r'.lanes.get? id = some l →
          (∃ l₀, r.lanes.get? id = some l₀ ∧ l₀.fencingToken = l.fencingToken) ∨
            l.fencingToken = s.counter + 1 := by
  cases call with
  | openLane laneId taskId capabilities claims ttl now unused =>
    dsimp only [LaneRegistry.Call.allocating, LaneRegistry.Call.exec] at hr'
    rcases hopen : r.openLane rt laneId taskId capabilities claims ttl now
      (s.stateStore.nextFence sqliteError).1 with ⟨result, r₁⟩
    rw [hopen] at hr'
    dsimp only at hr'
    subst hr'
    cases result with
    | error e => exact Or.inl (LaneRegistry.openLane_error hopen).kept
    | ok lane =>
      have hallocated := LaneRegistry.allocated_of_openLane hopen hallocator
      have hasked : r.asksFence rt laneId taskId capabilities claims ttl now = true := by
        by_contra hnot
        rw [Bool.not_eq_true] at hnot
        -- the same call would succeed on an allocator that raises
        rw [LaneRegistry.openLane_of_not_asksFence hnot hallocator _
          (.error ⟨.runtimeError, ""⟩)] at hopen
        cases LaneRegistry.allocated_of_openLane hopen hallocator
      have hnext : (s.stateStore.nextFence sqliteError).1 = .ok (s.counter + 1) := by
        rcases s.allocate_cases sqliteError with ⟨⟨e, he⟩, -⟩ | ⟨hok, -⟩
        · rw [he] at hallocated
          cases hallocated
        · exact hok
      have hfence : lane.fencingToken = s.counter + 1 :=
        Except.ok.inj (hallocated.symm.trans hnext)
      obtain ⟨r₀, fence, rfl, hlane, rfl, -⟩ := LaneRegistry.openLane_ok hopen
      have hsame : fence = lane.fencingToken := by rw [hlane]
      refine Or.inr ⟨hasked, hnext, hsame.trans hfence, fun id l hl => ?_⟩
      rw [Dict.get?_set] at hl
      split_ifs at hl
      · obtain rfl := Option.some.inj hl
        exact Or.inr hfence
      · exact Or.inl ⟨l, (LaneRegistry.swept_reapExpiredLocked r now).get?_of_get? hl, rfl⟩
  | renew laneId fencingToken ttl now =>
    subst hr'
    exact Or.inl (LaneRegistry.kept_renew r laneId fencingToken ttl now)
  | close laneId fencingToken now =>
    subst hr'
    exact Or.inl (LaneRegistry.kept_close r laneId fencingToken now)
  | authorize laneId fencingToken capability resourceKey resourceMode now =>
    subst hr'
    exact Or.inl (LaneRegistry.swept_authorize rt r laneId fencingToken capability resourceKey
      resourceMode now).kept
  | snapshot now | reapExpired now =>
    subst hr'
    exact Or.inl (LaneRegistry.swept_reapExpiredLocked r now).kept

/-- What a step of a registry leaves, for the agent and for the others. -/
theorem call_cases {i : ℕ} {call : LaneRegistry.Call} {sqliteError : Option PyError}
    (h : s.step rt (.call i call sqliteError) = some s') :
    ∃ a r' after, s.agents.get? i = some a ∧ a.clock.le call.now = true ∧
      s' = { after with agents := after.agents.set i ⟨r', call.now⟩ } ∧
      (after = s ∨ after = s.allocate sqliteError) ∧
      r' = ((call.allocating (s.stateStore.nextFence sqliteError).1).exec rt a.registry).2 ∧
      (call.asksFence rt a.registry = true → after = s.allocate sqliteError) := by
  unfold Fleet.step at h
  dsimp only at h
  split at h
  · cases h
  next a hget =>
    split_ifs at h with hclock hasked
    · obtain rfl := Option.some.inj h
      exact ⟨a, _, s.allocate sqliteError, hget, hclock, rfl, Or.inr rfl, rfl, fun _ => rfl⟩
    · obtain rfl := Option.some.inj h
      exact ⟨a, _, s, hget, hclock, rfl, Or.inl rfl, rfl, fun h => absurd h hasked⟩

/-- A call of `next_fence` leaves the agents alone and counts up. -/
theorem allocate_facts {after : Fleet} {sqliteError : Option PyError}
    (h : after = s ∨ after = s.allocate sqliteError) :
    after.agents = s.agents ∧ s.counter ≤ after.counter := by
  rcases h with rfl | rfl
  · exact ⟨rfl, le_rfl⟩
  · rcases s.allocate_cases sqliteError with ⟨-, hsame⟩ | ⟨-, hagents, hcounter, -⟩
    · rw [hsame]
      exact ⟨rfl, le_rfl⟩
    · exact ⟨hagents, by omega⟩

theorem Inv.call {i : ℕ} {call : LaneRegistry.Call} {sqliteError : Option PyError}
    (h : Inv rt s) (hstep : s.step rt (.call i call sqliteError) = some s') : Inv rt s' := by
  obtain ⟨a, r', after, hget, -, rfl, hafter, hr', hasked⟩ := call_cases hstep
  obtain ⟨hagents, hcounter⟩ := allocate_facts hafter
  have hinv : Inv rt after := by
    rcases hafter with rfl | rfl
    · exact h
    · exact h.allocate sqliteError
  have hallocator := h.hasAllocator i a hget
  have hchange := LaneRegistry.Call.change_exec rt a.registry
    (call.allocating (s.stateStore.nextFence sqliteError).1)
  rw [← hr'] at hchange
  have hregistry := h.registry i a hget
  refine hinv.set (hregistry.change hchange)
    ((h.distinct i a hget).change hregistry hchange)
    (hchange.config_eq.2.2.trans hallocator) ?_ fun j b id₁ id₂ l₁ l₂ hj hb h₁ h₂ heq => ?_
  · have hlast := h.lastFence i a hget
    rcases registry_of_call hallocator call sqliteError hr' with hkept | ⟨hasks, hnext, hfence, -⟩
    · show r'.lastFence ≤ after.counter
      rw [hkept.1]
      omega
    · show r'.lastFence ≤ after.counter
      rcases s.allocate_cases sqliteError with ⟨⟨e, he⟩, -⟩ | ⟨-, -, hcount, -⟩
      · rw [he] at hnext
        cases hnext
      · rw [hfence, hasked hasks, hcount]
  · rw [hagents] at hb
    have hold : ∀ {l₀}, a.registry.lanes.get? id₁ = some l₀ → l₀.fencingToken = l₁.fencingToken →
        False := fun hl₀ hsame =>
      hj (h.apart i j a b id₁ id₂ _ l₂ hget hb hl₀ h₂ (hsame.trans heq)).symm
    rcases registry_of_call hallocator call sqliteError hr' with hkept | ⟨-, -, -, hlanes⟩
    · obtain ⟨l₀, hl₀, hsame⟩ := hkept.2 id₁ l₁ h₁
      exact hold hl₀ hsame
    · rcases hlanes id₁ l₁ h₁ with ⟨l₀, hl₀, hsame⟩ | hnew
      · exact hold hl₀ hsame
      · -- the other agent's fences were issued before
        have hfenced := (h.registry j b hb).fenced h₂
        have hlast := h.lastFence j b hb
        omega

theorem Inv.step {event : FleetEvent} (h : Inv rt s) (hstep : s.step rt event = some s') :
    Inv rt s' := by
  cases event with
  | start i sessionCapabilities maxLanes clock =>
    unfold Fleet.step at hstep
    dsimp only at hstep
    split at hstep
    · cases hstep
    next registry hcreate =>
      split_ifs at hstep
      obtain rfl := Option.some.inj hstep
      have hregistry : LaneRegistry.Inv rt registry := LaneRegistry.Inv.create hcreate
      unfold LaneRegistry.create at hcreate
      split_ifs at hcreate
      cases hcreate
      have hcount : 0 ≤ s.counter := h.nonneg
      exact h.set hregistry (fun _ _ _ _ h₁ => by cases h₁) rfl hcount
        fun _ _ _ _ _ _ _ _ h₁ => by cases h₁
  | crash i =>
    obtain rfl := Option.some.inj hstep
    have hsub : ∀ {j b}, (s.agents.erase i).get? j = some b → s.agents.get? j = some b :=
      fun hb => (Dict.get?_filter.mp hb).1
    exact ⟨h.increasing, h.bounded, h.nonneg, fun j b hb => h.registry j b (hsub hb),
      fun j b hb => h.distinct j b (hsub hb), fun j b hb => h.hasAllocator j b (hsub hb),
      fun j b hb => h.lastFence j b (hsub hb),
      fun j k b c id₁ id₂ l₁ l₂ hb hc => h.apart j k b c id₁ id₂ l₁ l₂ (hsub hb) (hsub hc)⟩
  | allocate sqliteError =>
    obtain rfl := Option.some.inj hstep
    exact h.allocate sqliteError
  | tick i now =>
    unfold Fleet.step at hstep
    dsimp only at hstep
    split at hstep
    · cases hstep
    next a hget =>
      split_ifs at hstep
      obtain rfl := Option.some.inj hstep
      exact h.set (h.registry i a hget) (h.distinct i a hget) (h.hasAllocator i a hget)
        (h.lastFence i a hget) fun j b id₁ id₂ l₁ l₂ hj hb h₁ h₂ heq =>
          hj (h.apart i j a b id₁ id₂ l₁ l₂ hget hb h₁ h₂ heq).symm
  | call i call sqliteError => exact h.call hstep

theorem Inv.run {events : List FleetEvent} (h : Inv rt s) (hrun : s.run rt events = some s') :
    Inv rt s' := by
  induction events generalizing s with
  | nil =>
    obtain rfl := Option.some.inj hrun
    exact h
  | cons event events ih =>
    rw [Fleet.run, Option.bind_eq_some_iff] at hrun
    obtain ⟨s₁, hfirst, hrest⟩ := hrun
    exact ih (h.step hfirst) hrest

/-! ## Fences that are over -/

/-- The fence of a lane is over: it was issued, and where a lane has it still it is expired. -/
structure Spent (s : Fleet) (laneId : String) (fencingToken : ℤ) : Prop where
  issued : fencingToken ≤ s.counter
  expired : ∀ i a lane, s.agents.get? i = some a → a.registry.lanes.get? laneId = some lane →
    lane.fencingToken = fencingToken → lane.expired a.clock = true

variable {laneId : String} {fencingToken : ℤ}

/-- A lane stays expired while the clock goes on. -/
theorem expired_of_le {lane : Lane} {now later : PyFloat} (h : lane.expired now = true)
    (hle : now.le later = true) : lane.expired later = true :=
  PyFloat.le_trans h hle

/-- An operation of a registry leaves a fence over if it finds its lane expired. -/
theorem spent_of_call {i : ℕ} {call : LaneRegistry.Call} {sqliteError : Option PyError}
    (hinv : Inv rt s) (hissued : fencingToken ≤ s.counter)
    (hown : ∀ a lane, s.agents.get? i = some a → a.registry.lanes.get? laneId = some lane →
      lane.fencingToken = fencingToken → lane.expired call.now = true)
    (hothers : ∀ j b lane, j ≠ i → s.agents.get? j = some b →
      b.registry.lanes.get? laneId = some lane → lane.fencingToken = fencingToken →
      lane.expired b.clock = true)
    (hstep : s.step rt (.call i call sqliteError) = some s') : Spent s' laneId fencingToken := by
  obtain ⟨a, r', after, hget, -, rfl, hafter, hr', -⟩ := call_cases hstep
  obtain ⟨hagents, hcounter⟩ := allocate_facts hafter
  refine ⟨hissued.trans hcounter, fun j b lane hb hlane hfence => ?_⟩
  dsimp only at hb
  rw [hagents, Dict.get?_set] at hb
  split_ifs at hb with hj
  · obtain rfl := Option.some.inj hb
    have hlater : ∀ {old}, a.registry.lanes.get? laneId = some old →
        old.fencingToken = fencingToken → old.expired call.now = true := fun hold hsame =>
      hown a _ hget hold hsame
    have hchange := LaneRegistry.Call.change_exec rt a.registry
      (call.allocating (s.stateStore.nextFence sqliteError).1)
    rw [← hr', LaneRegistry.Call.now_allocating] at hchange
    -- a lane that is there before and after keeps its expiry unless it is renewed in time
    have hfences := registry_of_call (hinv.hasAllocator i a hget) call sqliteError hr'
    have hfenced : ∀ {old}, a.registry.lanes.get? laneId = some old →
        old.fencingToken ≤ a.registry.lastFence := (hinv.registry i a hget).fenced
    cases hchange with
    | sweep hswept => exact hlater (hswept.get?_of_get? hlane) hfence
    | @insert new hfresh hcaps hroom hclear hnew =>
      dsimp only at hlane hfences
      have hlane' := hlane
      rw [Dict.get?_set] at hlane
      split_ifs at hlane
      · obtain rfl := Option.some.inj hlane
        rcases hfences with hkept | ⟨-, -, -, hlanes⟩
        · obtain ⟨l₀, hl₀, hsame⟩ := hkept.2 laneId _ hlane'
          have hle := hfenced hl₀
          omega
        · rcases hlanes laneId _ hlane' with ⟨l₀, hl₀, hsame⟩ | hnext
          · have hle := hfenced hl₀
            omega
          · omega
      · exact hlater ((LaneRegistry.swept_reapExpiredLocked a.registry _).get?_of_get? hlane) hfence
    | @rebind id old expiresAt hold hlive =>
      rw [Dict.get?_set] at hlane
      split_ifs at hlane with hid
      · obtain rfl := Option.some.inj hlane
        have hexpired : old.expired call.now = true := hlater (hid ▸ hold) hfence
        rw [hexpired] at hlive
        cases hlive
      · exact hlater hlane hfence
    | erase hold hlive => exact hlater (Dict.get?_filter.mp hlane).1 hfence
  · exact hothers j b lane hj hb hlane hfence

theorem Spent.step {event : FleetEvent} (h : Spent s laneId fencingToken) (hinv : Inv rt s)
    (hstep : s.step rt event = some s') : Spent s' laneId fencingToken := by
  cases event with
  | start i sessionCapabilities maxLanes clock =>
    unfold Fleet.step at hstep
    dsimp only at hstep
    split at hstep
    · cases hstep
    next registry hcreate =>
      split_ifs at hstep
      obtain rfl := Option.some.inj hstep
      unfold LaneRegistry.create at hcreate
      split_ifs at hcreate
      cases hcreate
      refine ⟨h.issued, fun j b lane hb hlane hfence => ?_⟩
      rw [Dict.get?_set] at hb
      split_ifs at hb
      · obtain rfl := Option.some.inj hb
        cases hlane
      · exact h.expired j b lane hb hlane hfence
  | crash i =>
    obtain rfl := Option.some.inj hstep
    exact ⟨h.issued, fun j b lane hb => h.expired j b lane (Dict.get?_filter.mp hb).1⟩
  | allocate sqliteError =>
    obtain rfl := Option.some.inj hstep
    obtain ⟨hagents, hcounter⟩ := allocate_facts (s := s) (Or.inr (Eq.refl (s.allocate sqliteError)))
    exact ⟨h.issued.trans hcounter, fun j b lane hb => h.expired j b lane (hagents ▸ hb)⟩
  | tick i now =>
    unfold Fleet.step at hstep
    dsimp only at hstep
    split at hstep
    · cases hstep
    next a hget =>
      split_ifs at hstep with hclock
      obtain rfl := Option.some.inj hstep
      refine ⟨h.issued, fun j b lane hb hlane hfence => ?_⟩
      rw [Dict.get?_set] at hb
      split_ifs at hb
      · obtain rfl := Option.some.inj hb
        exact expired_of_le (h.expired i a lane hget hlane hfence) hclock
      · exact h.expired j b lane hb hlane hfence
  | call i call sqliteError =>
    obtain ⟨a, -, -, hget, hclock, -⟩ := call_cases hstep
    refine spent_of_call hinv h.issued (fun a' lane hget' hlane hfence => ?_)
      (fun j b lane _ hb hlane hfence => h.expired j b lane hb hlane hfence) hstep
    obtain rfl := Option.some.inj (hget.symm.trans hget')
    exact expired_of_le (h.expired i a lane hget hlane hfence) hclock

theorem Spent.run {events : List FleetEvent} (h : Spent s laneId fencingToken) (hinv : Inv rt s)
    (hrun : s.run rt events = some s') : Spent s' laneId fencingToken := by
  induction events generalizing s with
  | nil =>
    obtain rfl := Option.some.inj hrun
    exact h
  | cons event events ih =>
    rw [Fleet.run, Option.bind_eq_some_iff] at hrun
    obtain ⟨s₁, hfirst, hrest⟩ := hrun
    exact ih (h.step hinv hfirst) (hinv.step hfirst) hrest

/-- A registry accepts a fence only of a lane that is not expired. -/
theorem Spent.rejected {i : ℕ} {a : FencedAgent} (h : Spent s laneId fencingToken)
    (hget : s.agents.get? i = some a) {now : PyFloat} (hclock : a.clock.le now = true)
    {lane : Lane} {r' : LaneRegistry} :
    a.registry.requireLaneLocked laneId fencingToken now ≠ (.ok lane, r') := by
  intro hok
  obtain ⟨-, hlane, hfence, hlive⟩ := LaneRegistry.requireLaneLocked_ok hok
  rw [expired_of_le (h.expired i a lane hget hlane hfence) hclock] at hlive
  cases hlive

/-- The step ends the hold of an agent on a lane: the agent closes it, the clock of the agent
reaches its expiry, or the agent crashes. -/
inductive Ends (i : ℕ) (laneId : String) (lane : Lane) : FleetEvent → Prop where
  | close (now : PyFloat) (sqliteError : Option PyError) :
    Ends i laneId lane (.call i (.close laneId lane.fencingToken now) sqliteError)
  | expire (now : PyFloat) (hexpired : lane.expired now = true) : Ends i laneId lane (.tick i now)
  | expireIn (call : LaneRegistry.Call) (sqliteError : Option PyError)
      (hexpired : lane.expired call.now = true) : Ends i laneId lane (.call i call sqliteError)
  | crash : Ends i laneId lane (.crash i)

/-- Afterwards the fence is over. -/
theorem Ends.spent {i : ℕ} {a : FencedAgent} {lane : Lane} {event : FleetEvent}
    (h : Ends i laneId lane event) (hinv : Inv rt s) (hget : s.agents.get? i = some a)
    (hlane : a.registry.lanes.get? laneId = some lane) (hstep : s.step rt event = some s') :
    Spent s' laneId lane.fencingToken := by
  have hissued : lane.fencingToken ≤ s.counter :=
    ((hinv.registry i a hget).fenced hlane).trans (hinv.lastFence i a hget)
  -- no other agent has the fence
  have hothers : ∀ {j b l}, j ≠ i → s.agents.get? j = some b →
      b.registry.lanes.get? laneId = some l → l.fencingToken ≠ lane.fencingToken :=
    fun hj hb hl heq => hj (hinv.apart _ i _ a laneId laneId _ lane hb hget hl hlane heq)
  have hcall : ∀ call sqliteError, lane.expired (LaneRegistry.Call.now call) = true →
      s.step rt (.call i call sqliteError) = some s' → Spent s' laneId lane.fencingToken := by
    intro call sqliteError hexpired hstep'
    refine spent_of_call hinv hissued (fun a' l hget' hl _ => ?_)
      (fun j b l hj hb hl hfence => absurd hfence (hothers hj hb hl)) hstep'
    obtain rfl := Option.some.inj (hget.symm.trans hget')
    obtain rfl := Option.some.inj (hlane.symm.trans hl)
    exact hexpired
  cases h with
  | crash =>
    obtain rfl := Option.some.inj hstep
    refine ⟨hissued, fun j b l hb hl hfence => ?_⟩
    dsimp only at hb
    rw [Dict.get?_erase] at hb
    split_ifs at hb with hj
    exact absurd hfence (hothers hj hb hl)
  | expire now hexpired =>
    unfold Fleet.step at hstep
    dsimp only at hstep
    rw [hget] at hstep
    dsimp only at hstep
    split_ifs at hstep
    obtain rfl := Option.some.inj hstep
    refine ⟨hissued, fun j b l hb hl hfence => ?_⟩
    dsimp only at hb
    rw [Dict.get?_set] at hb
    split_ifs at hb with hj
    · obtain rfl := Option.some.inj hb
      obtain rfl := Option.some.inj (hlane.symm.trans hl)
      exact hexpired
    · exact absurd hfence (hothers hj hb hl)
  | expireIn call sqliteError hexpired => exact hcall call sqliteError hexpired hstep
  | close now sqliteError =>
    by_cases hexpired : lane.expired now = true
    · exact hcall (.close laneId lane.fencingToken now) sqliteError hexpired hstep
    · rw [Bool.not_eq_true] at hexpired
      obtain ⟨a', r', after, hget', -, rfl, hafter, hr', -⟩ := call_cases hstep
      obtain ⟨hagents, hcounter⟩ := allocate_facts hafter
      obtain rfl := Option.some.inj (hget.symm.trans hget')
      have hclosed : r' = { a.registry with lanes := a.registry.lanes.erase laneId } := by
        simp [hr', LaneRegistry.Call.allocating, LaneRegistry.Call.exec, LaneRegistry.close,
          LaneRegistry.requireLaneLocked, hlane, hexpired]
      refine ⟨hissued.trans hcounter, fun j b l hb hl hfence => ?_⟩
      dsimp only at hb
      rw [hagents, Dict.get?_set] at hb
      split_ifs at hb with hj
      · obtain rfl := Option.some.inj hb
        simp [hclosed] at hl
      · exact absurd hfence (hothers hj hb hl)

/-- Fences are not reissued: in every run on one database, with any number of agents that start and
crash, `next_fence` returns larger and larger numbers; and when an agent has lost the lane of a
fence, by closing it, by its expiry or by a crash, no registry accepts the fence for the lane id
again. -/
theorem fences_not_reissued {maxMutationRequests : ℤ} {warnAtRecords : Option ℤ}
    {stateStore : AgentStateStore}
    (hcreate : AgentStateStore.create maxMutationRequests warnAtRecords = .ok stateStore)
    (rt : Runtime) (events : List FleetEvent) (s : Fleet)
    (hrun : (init stateStore).run rt events = some s) :
    s.issued.Pairwise (· < ·) ∧
    ∀ i a laneId lane event s₁ later s₂, s.agents.get? i = some a →
      a.registry.lanes.get? laneId = some lane → Ends i laneId lane event →
      s.step rt event = some s₁ → s₁.run rt later = some s₂ →
      ∀ j b now, s₂.agents.get? j = some b → b.clock.le now = true →
        (∀ capability resourceKey resourceMode, ∃ e, (b.registry.authorize rt laneId
          lane.fencingToken capability resourceKey resourceMode now).1 = .error e) ∧
        (∀ ttl, ∃ e, (b.registry.renew laneId lane.fencingToken ttl now).1 = .error e) ∧
        ∃ e, (b.registry.close laneId lane.fencingToken now).1 = .error e := by
  have hstart : 0 ≤ stateStore.fenceCounter.getD 0 := by
    unfold AgentStateStore.create at hcreate
    split_ifs at hcreate
    dsimp only at hcreate
    split_ifs at hcreate
    cases hcreate
    exact le_rfl
  have hinv : Inv rt s := (Inv.init hstart).run hrun
  refine ⟨hinv.increasing, fun i a laneId lane event s₁ later s₂ hget hlane hends hstep hlater j b
    now hb hclock => ?_⟩
  have hspent := ((hends.spent hinv hget hlane hstep).run (hinv.step hstep) hlater)
  have hrejected : ∃ e r', b.registry.requireLaneLocked laneId lane.fencingToken now =
      (.error e, r') := by
    rcases hrequire : b.registry.requireLaneLocked laneId lane.fencingToken now with ⟨result, r'⟩
    cases result with
    | error e => exact ⟨e, r', rfl⟩
    | ok lane' => exact absurd hrequire (hspent.rejected hb hclock)
  obtain ⟨e, r', hrequire⟩ := hrejected
  refine ⟨fun _ _ _ => ⟨e, ?_⟩, fun ttl => ?_, ⟨e, ?_⟩⟩
  · simp [LaneRegistry.authorize, hrequire]
  · unfold LaneRegistry.renew
    split_ifs
    · exact ⟨_, rfl⟩
    · exact ⟨e, by rw [hrequire]⟩
  · simp [LaneRegistry.close, hrequire]

/-- An agent opens a lane and crashes, and a second one opens the lane again. -/
def restartEvents : List FleetEvent :=
  [.start 0 {"fs.read"} 4 0, .call 0 (.openLane "s::l" "t" ["fs.read"] [] 10 0 (.ok 0)) none]

/-- What happens after the crash. -/
def reopenEvents : List FleetEvent :=
  [.start 1 {"fs.read"} 4 0, .call 1 (.openLane "s::l" "t" ["fs.read"] [] 10 0 (.ok 0)) none]

theorem fences_not_reissued_restartEvents :
    ∃ s s₁ s₂ lane b, (init ⟨2, 1, none, .empty⟩).run (Runtime.ascii false) restartEvents = some s ∧
      s.step (Runtime.ascii false) (.crash 0) = some s₁ ∧
      s₁.run (Runtime.ascii false) reopenEvents = some s₂ ∧ s.issued = [1] ∧ s₂.issued = [1, 2] ∧
      s₂.agents.get? 1 = some b ∧
      ∃ e, (b.registry.close "s::l" (Lane.fencingToken lane) 1).1 = .error e := by
  refine ⟨_, _, _, ⟨"s::l", "t", {"fs.read"}, [], 1, 10⟩, _, rfl, rfl, rfl, rfl, rfl, rfl, ?_⟩
  exact ((fences_not_reissued (show AgentStateStore.create 2 (some 1) = .ok ⟨2, 1, none, .empty⟩
    from rfl) (Runtime.ascii false) restartEvents _ rfl).2 0 _ "s::l"
      ⟨"s::l", "t", {"fs.read"}, [], 1, 10⟩ _ _ reopenEvents _ rfl (by decide +kernel) Ends.crash
      rfl rfl 1 _ 1 rfl (by decide)).2.2

end Fleet

end VeraMesh
