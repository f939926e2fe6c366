import VeraMesh.Lane.Registry

/-!
# Mutual exclusion of lanes

The state machine whose transitions are the six operations of the lane registry, and its
invariant: live lanes have pairwise non-conflicting claims, keep inside the session ceiling, are at
most `max_lanes`, and carry fences no higher than the last one issued.

* `Call.exec`: one operation, with everything it reads from its environment.
* `Inv.change`, `Inv.run`: one step and a whole run keep the invariant.
* `Call.exec_error`: a rejected operation drops expired lanes at most.
* `Inv.eq_of_authorize`: two lanes that are authorised on overlapping keys, one of them to write,
  are the same lane.
-/

namespace VeraMesh

open Python

namespace LaneRegistry

/-- One operation on the registry with its arguments, the clock reading it makes and, for
`open_lane`, the outcome of the fence allocator. -/
inductive Call where
  | openLane (laneId taskId : String) (capabilities : List String) (claims : List ResourceClaim)
      (ttl now : PyFloat) (allocated : Except PyError ℤ)
  | renew (laneId : String) (fencingToken : ℤ) (ttl now : PyFloat)
  | close (laneId : String) (fencingToken : ℤ) (now : PyFloat)
  | authorize (laneId : String) (fencingToken : ℤ) (capability : String)
      (resourceKey : Option String) (resourceMode : Option ClaimMode) (now : PyFloat)
  | snapshot (now : PyFloat)
  | reapExpired (now : PyFloat)

/-- The clock reading of an operation. -/
def Call.now : Call → PyFloat
  | openLane _ _ _ _ _ now _ => now
  | renew _ _ _ now => now
  | close _ _ now => now
  | authorize _ _ _ _ _ now => now
  | snapshot now => now
  | reapExpired now => now

/-- The operation's result, a list of lanes in every case, with the registry it leaves. -/
def Call.exec (rt : Runtime) (r : LaneRegistry) : Call → Except PyError (List Lane) × LaneRegistry
  | openLane laneId taskId capabilities claims ttl now allocated =>
    let (res, r') := r.openLane rt laneId taskId capabilities claims ttl now allocated
    (res.map ([·]), r')
  | renew laneId fencingToken ttl now =>
    let (res, r') := r.renew laneId fencingToken ttl now
    (res.map ([·]), r')
  | close laneId fencingToken now =>
    let (res, r') := r.close laneId fencingToken now
    (res.map ([·]), r')
  | authorize laneId fencingToken capability resourceKey resourceMode now =>
    let (res, r') := r.authorize rt laneId fencingToken capability resourceKey resourceMode now
    (res.map ([·]), r')
  | snapshot now =>
    let (lanes, r') := r.snapshot now
    (.ok lanes, r')
  | reapExpired now =>
    let (lanes, r') := r.reapExpired now
    (.ok lanes, r')

/-- The registry after a sequence of operations, each started when the one before has ended. -/
def run (rt : Runtime) (r : LaneRegistry) (calls : List Call) : LaneRegistry :=
  calls.foldl (fun r call => (call.exec rt r).2) r

/-- The invariant of the lane table. -/
structure Inv (rt : Runtime) (r : LaneRegistry) : Prop where
  /-- A lane is filed under its own id. -/
  keyed : ∀ {laneId lane}, r.lanes.get? laneId = some lane → lane.laneId = laneId
  /-- Distinct lanes do not conflict. -/
  exclusive : ∀ {id₁ id₂ l₁ l₂}, r.lanes.get? id₁ = some l₁ → r.lanes.get? id₂ = some l₂ →
    id₁ ≠ id₂ → firstConflict rt l₁.claims l₂.claims = none
  /-- A lane narrows the session ceiling. -/
  narrowed : ∀ {laneId lane}, r.lanes.get? laneId = some lane →
    lane.capabilities ⊆ r.sessionCapabilities
  bounded : (r.lanes.size : ℤ) ≤ r.maxLanes
  /-- Fences are issued in increasing order. -/
  fenced : ∀ {laneId lane}, r.lanes.get? laneId = some lane → lane.fencingToken ≤ r.lastFence

variable {rt : Runtime} {r r' : LaneRegistry}

theorem Inv.create {sessionCapabilities : Finset String} {maxLanes : ℤ} {hasAllocator : Bool}
    (h : LaneRegistry.create sessionCapabilities maxLanes hasAllocator = .ok r) : Inv rt r := by
  unfold LaneRegistry.create at h
  split_ifs at h with hmax
  cases h
  refine ⟨by simp, by simp, by simp, ?_, by simp⟩
  simp only [Dict.size, Dict.empty, List.length_nil]
  omega

/-- Dropping lanes keeps the invariant. -/
theorem Inv.swept {now : PyFloat} (h : Inv rt r) (hs : Swept now r r') : Inv rt r' where
  keyed hl := h.keyed (hs.get?_of_get? hl)
  exclusive h₁ h₂ := h.exclusive (hs.get?_of_get? h₁) (hs.get?_of_get? h₂)
  narrowed hl := hs.sessionCapabilities_eq ▸ h.narrowed (hs.get?_of_get? hl)
  bounded := by
    have hsize := hs.size_le
    have hmax := h.bounded
    rw [hs.maxLanes_eq]
    omega
  fenced hl := hs.lastFence_eq ▸ h.fenced (hs.get?_of_get? hl)

/-- Dropping one lane keeps the invariant. -/
theorem Inv.erase (h : Inv rt r) (laneId : String) :
    Inv rt { r with lanes := r.lanes.erase laneId } := by
  have hsub : ∀ {id lane}, (r.lanes.erase laneId).get? id = some lane →
      r.lanes.get? id = some lane := fun hl => (Dict.get?_filter.mp hl).1
  refine ⟨fun hl => h.keyed (hsub hl), fun h₁ h₂ => h.exclusive (hsub h₁) (hsub h₂),
    fun hl => h.narrowed (hsub hl), ?_, fun hl => h.fenced (hsub hl)⟩
  have hsize := r.lanes.size_erase_le laneId
  have hmax := h.bounded
  simp only
  omega

/-- Moving the expiry of a stored lane keeps the invariant. -/
theorem Inv.rebind (h : Inv rt r) {laneId : String} {old : Lane} (expiresAt : PyFloat)
    (hget : r.lanes.get? laneId = some old) :
    Inv rt { r with lanes := r.lanes.set laneId { old with expiresAt } } := by
  -- every binding of the new table stands for one of the old table that differs in the expiry
  have hback : ∀ {id l}, (r.lanes.set laneId { old with expiresAt }).get? id = some l →
      ∃ l₀ t, r.lanes.get? id = some l₀ ∧ l = { l₀ with expiresAt := t } := by
    intro id l hl
    rw [Dict.get?_set] at hl
    split_ifs at hl with hk
    · cases hl
      exact ⟨old, expiresAt, hk ▸ hget, rfl⟩
    · exact ⟨l, l.expiresAt, hl, rfl⟩
  constructor
  · intro id l hl
    obtain ⟨l₀, t, h₀, rfl⟩ := hback hl
    have hkeyed := h.keyed h₀
    exact hkeyed
  · intro id₁ id₂ l₁ l₂ h₁ h₂ hne
    obtain ⟨m₁, t₁, hm₁, rfl⟩ := hback h₁
    obtain ⟨m₂, t₂, hm₂, rfl⟩ := hback h₂
    have hexclusive := h.exclusive hm₁ hm₂ hne
    exact hexclusive
  · intro id l hl
    obtain ⟨l₀, t, h₀, rfl⟩ := hback hl
    have hnarrowed := h.narrowed h₀
    exact hnarrowed
  · have hsize := Dict.size_set_of_get?_eq_some hget { old with expiresAt }
    simp only [hsize]
    exact h.bounded
  · intro id l hl
    obtain ⟨l₀, t, h₀, rfl⟩ := hback hl
    have hfenced := h.fenced h₀
    exact hfenced

/-- Binding a fresh id to a lane without conflicts keeps the invariant. -/
theorem Inv.insert (h : Inv rt r) {lane : Lane} (hfresh : r.lanes.get? lane.laneId = none)
    (hcaps : lane.capabilities ⊆ r.sessionCapabilities) (hroom : (r.lanes.size : ℤ) < r.maxLanes)
    (hclear : ∀ id other, r.lanes.get? id = some other →
      firstConflict rt lane.claims other.claims = none)
    (hfence : r.lastFence < lane.fencingToken) :
    Inv rt { r with
      lastFence := lane.fencingToken, lanes := r.lanes.set lane.laneId lane } := by
  constructor
  · intro id l hl
    rw [Dict.get?_set] at hl
    split_ifs at hl with hk
    · cases hl
      exact hk.symm
    · exact h.keyed hl
  · intro id₁ id₂ l₁ l₂ h₁ h₂ hne
    rw [Dict.get?_set] at h₁ h₂
    split_ifs at h₁ h₂ with hk₁ hk₂ hk₂
    · exact absurd (hk₁.trans hk₂.symm) hne
    · cases h₁
      exact hclear id₂ l₂ h₂
    · cases h₂
      exact firstConflict_comm_none (hclear id₁ l₁ h₁)
    · exact h.exclusive h₁ h₂ hne
  · intro id l hl
    rw [Dict.get?_set] at hl
    split_ifs at hl with hk
    · cases hl
      exact hcaps
    · exact h.narrowed hl
  · have hsize := Dict.size_set_of_get?_eq_none hfresh lane
    simp only [hsize]
    push_cast
    omega
  · intro id l hl
    rw [Dict.get?_set] at hl
    split_ifs at hl with hk
    · cases hl
      exact le_rfl
    · exact (h.fenced hl).trans hfence.le

/-- Any change an operation can make keeps the invariant. -/
theorem Inv.change {now : PyFloat} (h : Inv rt r) (hc : Change rt now r r') : Inv rt r' := by
  cases hc with
  | sweep hswept => exact h.swept hswept
  | insert hfresh hcaps hroom hclear hfence =>
    exact (h.swept (swept_reapExpiredLocked r now)).insert hfresh hcaps hroom hclear hfence
  | rebind expiresAt hget hlive => exact h.rebind expiresAt hget
  | erase hget hlive => exact h.erase _

/-- No change touches the configuration. -/
theorem Change.config_eq {now : PyFloat} (hc : Change rt now r r') :
    r'.sessionCapabilities = r.sessionCapabilities ∧ r'.maxLanes = r.maxLanes ∧
      r'.hasAllocator = r.hasAllocator := by
  cases hc with
  | sweep hswept =>
    exact ⟨hswept.sessionCapabilities_eq, hswept.maxLanes_eq, hswept.hasAllocator_eq⟩
  | insert => exact ⟨rfl, rfl, rfl⟩
  | rebind => exact ⟨rfl, rfl, rfl⟩
  | erase => exact ⟨rfl, rfl, rfl⟩

/-- Every operation makes a change. -/
theorem Call.change_exec (rt : Runtime) (r : LaneRegistry) (call : Call) :
    Change rt call.now r (call.exec rt r).2 := by
  cases call with
  | openLane laneId taskId capabilities claims ttl now allocated =>
    exact change_openLane rt r laneId taskId capabilities claims ttl now allocated
  | renew laneId fencingToken ttl now => exact change_renew rt r laneId fencingToken ttl now
  | close laneId fencingToken now => exact change_close rt r laneId fencingToken now
  | authorize laneId fencingToken capability resourceKey resourceMode now =>
    exact .sweep (swept_authorize rt r laneId fencingToken capability resourceKey resourceMode now)
  | snapshot now => exact .sweep (swept_reapExpiredLocked r now)
  | reapExpired now => exact .sweep (swept_reapExpiredLocked r now)

/-- A run keeps the invariant. -/
theorem Inv.run (h : Inv rt r) (calls : List Call) : Inv rt (LaneRegistry.run rt r calls) := by
  induction calls generalizing r with
  | nil => exact h
  | cons call calls ih => exact ih (h.change (call.change_exec rt r))

/-- A run leaves the configuration alone. -/
theorem run_config_eq (rt : Runtime) (r : LaneRegistry) (calls : List Call) :
    (run rt r calls).sessionCapabilities = r.sessionCapabilities ∧
      (run rt r calls).maxLanes = r.maxLanes := by
  induction calls generalizing r with
  | nil => exact ⟨rfl, rfl⟩
  | cons call calls ih =>
    obtain ⟨hcaps, hmax, -⟩ := (call.change_exec rt r).config_eq
    obtain ⟨ihcaps, ihmax⟩ := ih (call.exec rt r).2
    exact ⟨ihcaps.trans hcaps, ihmax.trans hmax⟩

/-- A rejected operation drops expired lanes at most. -/
theorem Call.exec_error {call : Call} {e : PyError} (h : call.exec rt r = (.error e, r')) :
    Swept call.now r r' := by
  -- the result of each operation is mapped, so it is an error only if the operation's is
  have herr : ∀ {res : Except PyError Lane}, res.map ([·]) = .error e → res = .error e := by
    intro res hres
    cases res with
    | error e' => simpa [Except.map] using hres
    | ok lane => simp [Except.map] at hres
  cases call with
  | openLane laneId taskId capabilities claims ttl now allocated =>
    obtain ⟨hres, rfl⟩ := Prod.mk.inj h
    exact openLane_error (Prod.ext (herr hres) rfl)
  | renew laneId fencingToken ttl now =>
    obtain ⟨hres, rfl⟩ := Prod.mk.inj h
    exact renew_error (Prod.ext (herr hres) rfl)
  | close laneId fencingToken now =>
    obtain ⟨hres, rfl⟩ := Prod.mk.inj h
    exact close_error (Prod.ext (herr hres) rfl)
  | authorize laneId fencingToken capability resourceKey resourceMode now =>
    obtain ⟨hres, rfl⟩ := Prod.mk.inj h
    exact authorize_error (Prod.ext (herr hres) rfl)
  | snapshot now => simp [Call.exec] at h
  | reapExpired now => simp [Call.exec] at h

/-- Two lanes authorised in one registry on overlapping keys, one of them to write, are the same
lane: otherwise the claims that cover the keys would conflict. -/
theorem Inv.eq_of_authorize (h : Inv rt r) {id₁ id₂ cap₁ cap₂ : String} {f₁ f₂ : ℤ}
    {k₁ k₂ : ResourceKey} {m₁ m₂ : ClaimMode} {now₁ now₂ : PyFloat} {l₁ l₂ : Lane}
    {r₁ r₂ : LaneRegistry}
    (h₁ : r.authorize rt id₁ f₁ cap₁ (some k₁.text) (some m₁) now₁ = (.ok l₁, r₁))
    (h₂ : r.authorize rt id₂ f₂ cap₂ (some k₂.text) (some m₂) now₂ = (.ok l₂, r₂))
    (hwrite : m₁ = .write ∨ m₂ = .write) (hoverlap : resourcesOverlap rt k₁ k₂ = true) :
    id₁ = id₂ ∧ l₁ = l₂ := by
  obtain ⟨-, hget₁, -, -, -, hcover₁⟩ := authorize_ok h₁
  obtain ⟨-, hget₂, -, -, -, hcover₂⟩ := authorize_ok h₂
  obtain ⟨k₁', m₁', hk₁, hm₁, c₁, hc₁, hcov₁⟩ := hcover₁ k₁.text rfl
  obtain ⟨k₂', m₂', hk₂, hm₂, c₂, hc₂, hcov₂⟩ := hcover₂ k₂.text rfl
  rw [ResourceKey.ofString?_text, Option.some.injEq] at hk₁ hk₂
  cases hk₁; cases hk₂; cases hm₁; cases hm₂
  have hid : id₁ = id₂ := by
    by_contra hne
    have hover := resourcesOverlap_of_claimCovers hcov₁ hcov₂ hoverlap
    have hmodes := firstConflict_eq_none_iff.mp (h.exclusive hget₁ hget₂ hne) c₁ hc₁ c₂ hc₂ hover
    rcases hwrite with rfl | rfl
    · exact hmodes.1 ((claimCovers_eq_true_iff.mp hcov₁).1 rfl)
    · exact hmodes.2 ((claimCovers_eq_true_iff.mp hcov₂).1 rfl)
  subst hid
  rw [hget₁, Option.some.injEq] at hget₂
  exact ⟨rfl, hget₂⟩

/-- **Mutual exclusion.** Whatever operations are run on a new registry, the lanes left have
pairwise non-conflicting claims, narrow the session ceiling and number at most `max_lanes`; a
further operation that is rejected adds and changes nothing and drops expired lanes only; and two
lanes that are both authorised on overlapping keys, one of them to write, are the same lane. -/
theorem exclusion_of_run {sessionCapabilities : Finset String} {maxLanes : ℤ}
    {hasAllocator : Bool} {r₀ : LaneRegistry}
    (hcreate : LaneRegistry.create sessionCapabilities maxLanes hasAllocator = .ok r₀)
    (rt : Runtime) (calls : List Call) :
    (∀ id₁ id₂ l₁ l₂, (run rt r₀ calls).lanes.get? id₁ = some l₁ →
        (run rt r₀ calls).lanes.get? id₂ = some l₂ → id₁ ≠ id₂ →
        firstConflict rt l₁.claims l₂.claims = none) ∧
      (∀ laneId lane, (run rt r₀ calls).lanes.get? laneId = some lane →
        lane.capabilities ⊆ sessionCapabilities) ∧
      ((run rt r₀ calls).lanes.size : ℤ) ≤ maxLanes ∧
      (∀ call e r', Call.exec rt (run rt r₀ calls) call = (.error e, r') →
        (∀ laneId lane, r'.lanes.get? laneId = some lane →
          (run rt r₀ calls).lanes.get? laneId = some lane) ∧
        ∀ laneId lane, (run rt r₀ calls).lanes.get? laneId = some lane →
          r'.lanes.get? laneId = none → lane.expired call.now = true) ∧
      ∀ id₁ id₂ f₁ f₂ cap₁ cap₂ now₁ now₂ l₁ l₂ r₁ r₂ (k₁ k₂ : ResourceKey) (m₁ m₂ : ClaimMode),
        (run rt r₀ calls).authorize rt id₁ f₁ cap₁ (some k₁.text) (some m₁) now₁ = (.ok l₁, r₁) →
        (run rt r₀ calls).authorize rt id₂ f₂ cap₂ (some k₂.text) (some m₂) now₂ = (.ok l₂, r₂) →
        (m₁ = .write ∨ m₂ = .write) → resourcesOverlap rt k₁ k₂ = true →
        id₁ = id₂ ∧ l₁ = l₂ := by
  have hinv : Inv rt (run rt r₀ calls) := (Inv.create hcreate).run calls
  obtain ⟨hcaps, hmax⟩ := run_config_eq rt r₀ calls
  have hconfig : r₀.sessionCapabilities = sessionCapabilities ∧ r₀.maxLanes = maxLanes := by
    unfold LaneRegistry.create at hcreate
    split_ifs at hcreate
    cases hcreate
    exact ⟨rfl, rfl⟩
  rw [hconfig.1] at hcaps
  rw [hconfig.2] at hmax
  refine ⟨fun _ _ _ _ => hinv.exclusive, fun laneId lane hl => ?_, ?_, fun call e r' hexec => ?_,
    fun _ _ _ _ _ _ _ _ _ _ _ _ _ _ _ _ => hinv.eq_of_authorize⟩
  · exact hcaps ▸ hinv.narrowed hl
  · exact hmax ▸ hinv.bounded
  · have hswept := Call.exec_error hexec
    refine ⟨fun laneId lane hl => hswept.get?_of_get? hl, fun laneId lane hl hgone => ?_⟩
    by_contra hlive
    rw [hswept.get?_of_not_expired hl (by simpa using hlive)] at hgone
    cases hgone

/-- A writer on `fs:/a/` keeps a reader of `fs:/a/b` out. -/
def exampleCalls : List Call :=
  [.openLane "s::w" "t" ["fs.write"] [⟨⟨"fs:/a/", by decide⟩, .write⟩] 300 1 (.ok 7),
   .openLane "s::r" "t" ["fs.read"] [⟨⟨"fs:/a/b", by decide⟩, .read⟩] 300 2 (.ok 8),
   .authorize "s::w" 7 "fs.write" (some "fs:/a/b") (some .write) 3]

theorem exclusion_of_run_exampleCalls :
    let r := run (Runtime.ascii false) ⟨{"fs.read", "fs.write"}, 2, .empty, 0, true⟩ exampleCalls
    r.lanes.keys = ["s::w"] ∧ (r.lanes.size : ℤ) ≤ 2 :=
  ⟨by decide +kernel,
    (@exclusion_of_run {"fs.read", "fs.write"} 2 true _ (by decide) (Runtime.ascii false)
      exampleCalls).2.2.1⟩

end LaneRegistry

end VeraMesh
