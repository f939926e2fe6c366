import VeraMesh.Controller.ReadLane
import VeraMesh.Lib.History

/-!
# Reads through the right mirror

The history of a router, over any interleaving of its calls with the connections coming and going:
a read is sent on a session only with the fence of a mirror that was opened there for the same
logical lane with that lane's claims, and a call is admitted to a lane only while the lane is open,
unexpired and addressed by its own fence.

* `Sound`: the invariant that ties the lane table and the mirrors to the history.
* `Grows`: what every step keeps.
* `reads_mirrored`: the statement about the history of every run.
-/

namespace VeraMesh

open Python History

/-- What never changes of a lane object. -/
def LogicalReadLane.identity (lane : LogicalReadLane) : String × String × List PyValue × ℤ :=
  (lane.laneId, lane.taskId, lane.claims, lane.fencingToken)

/-- The time of expiry that an event sets for a lane. -/
def ReadLaneEvent.expiryOf (ref : ℕ) : ReadLaneEvent → Option ℤ
  | created _ ref' lane => if ref' = ref then some lane.expiresAtMs else none
  | renewed ref' expiresAtMs => if ref' = ref then some expiresAtMs else none
  | _ => none

/-- A request that neither opens, renews nor closes a lane. -/
def isRead (request : Request) : Bool :=
  match request.get? "operation" with
  | some (.str operation) => operation ∉ ["lane.open", "lane.renew", "lane.close"]
  | _ => true

/-- A `lane.open` with the id and the claims of a lane, and its answer with a fence. -/
structure OpensMirror (lane : LogicalReadLane) (request : Request) (response : Response)
    (fence : ℤ) : Prop where
  operation : request.get? "operation" = some (.str "lane.open")
  laneId : request.get? "lane_id" = some (.str lane.laneId)
  claims : request.get? "claims" = some (.list lane.claims)
  ok : isOk response = true
  fence : responseFence response = some fence

/-- A mirror of the lane was opened on a session of an endpoint, with this fence. -/
def MirrorOpened (log : List ReadLaneEvent) (ref : ℕ) (endpointId sessionId : String)
    (fence : ℤ) : Prop :=
  ∃ task lane endpoint request response,
    .created task ref lane ∈ log ∧ .answered ref endpoint request (.ok response) ∈ log ∧
      endpoint.config.endpointId = endpointId ∧ endpoint.binding.sessionId = sessionId ∧
      OpensMirror lane request response fence

/-- What has to have happened before an event: the right mirror was opened before a read is sent
through it, and a lane to which a call is admitted was created with this id and this fence, is not
closed, and expires later. -/
def Justified (before : List ReadLaneEvent) : ReadLaneEvent → Prop
  | .sent ref endpoint request => isRead request = true →
    ∃ fence, request.get? "fencing_token" = some (.int fence) ∧
      MirrorOpened before ref endpoint.config.endpointId endpoint.binding.sessionId fence
  | .admitted _ laneId fencingToken now ref =>
    (∃ task lane, .created task ref lane ∈ before ∧ lane.laneId = laneId ∧
      lane.fencingToken = fencingToken) ∧
    (∀ live, .closed ref live ∉ before) ∧
    ∃ expiresAtMs, latest (ReadLaneEvent.expiryOf ref) before = some expiresAtMs ∧
      now < expiresAtMs
  | _ => True

theorem MirrorOpened.mono {log log' : List ReadLaneEvent} {ref : ℕ} {endpointId sessionId : String}
    {fence : ℤ} (h : MirrorOpened log ref endpointId sessionId fence) (hsub : log ⊆ log') :
    MirrorOpened log' ref endpointId sessionId fence := by
  obtain ⟨task, lane, endpoint, request, response, hcreated, hanswered, h⟩ := h
  exact ⟨task, lane, endpoint, request, response, hsub hcreated, hsub hanswered, h⟩

/-- The fence number `n` of a router. -/
def ReadLaneRouter.fence (router : ReadLaneRouter) (n : ℕ) : ℤ :=
  ((router.fenceEpoch <<< 32 ||| n : ℕ) : ℤ)

/-- Below `2 ^ 32` the number of a fence can be read off it. -/
theorem ReadLaneRouter.fence_inj {router : ReadLaneRouter} {m n : ℕ} (hm : m < 2 ^ 32)
    (hn : n < 2 ^ 32) (h : router.fence m = router.fence n) : m = n := by
  unfold ReadLaneRouter.fence at h
  rw [Nat.cast_inj, ← Nat.shiftLeft_add_eq_or_of_lt hm, ← Nat.shiftLeft_add_eq_or_of_lt hn] at h
  exact Nat.add_left_cancel h

/-- The lane table, the lane objects and the history of a router fit together. -/
structure Sound (router : ReadLaneRouter) (s : ReadLaneState) : Prop where
  table : ∀ {laneId ref}, s.lanes.get? laneId = some ref →
    ref < s.allocated ∧ (s.heap ref).laneId = laneId ∧ ∀ live, .closed ref live ∉ s.log
  created : ∀ {ref}, ref < s.allocated →
    ∃ task lane, .created task ref lane ∈ s.log ∧ lane.identity = (s.heap ref).identity
  allocated : ∀ {task ref lane}, .created task ref lane ∈ s.log →
    ref < s.allocated ∧ lane.identity = (s.heap ref).identity
  closed : ∀ {ref live}, .closed ref live ∈ s.log → ref < s.allocated
  expiry : ∀ {ref}, ref < s.allocated →
    latest (ReadLaneEvent.expiryOf ref) s.log = some (s.heap ref).expiresAtMs
  mirrors : ∀ {ref endpointId sessionId fence}, ref < s.allocated →
    (s.heap ref).mirrors.get? endpointId = some (sessionId, fence) →
    MirrorOpened s.log ref endpointId sessionId fence
  fences : ∀ {ref}, ref < s.allocated →
    ∃ n ≤ s.lastFence, (s.heap ref).fencingToken = router.fence n
  fences_inj : s.lastFence < 2 ^ 32 → ∀ {ref ref'}, ref < s.allocated → ref' < s.allocated →
    (s.heap ref).fencingToken = (s.heap ref').fencingToken → ref = ref'
  justified : Throughout Justified s.log

/-- What every step keeps: lanes and what happened. -/
structure Grows (s s' : ReadLaneState) : Prop where
  allocated : s.allocated ≤ s'.allocated
  identity : ∀ ref < s.allocated, (s'.heap ref).identity = (s.heap ref).identity
  log : s.log ⊆ s'.log

theorem Grows.refl (s : ReadLaneState) : Grows s s :=
  ⟨le_refl _, fun _ _ => rfl, List.Subset.refl _⟩

theorem Grows.trans {s₁ s₂ s₃ : ReadLaneState} (h₁ : Grows s₁ s₂) (h₂ : Grows s₂ s₃) :
    Grows s₁ s₃ where
  allocated := h₁.allocated.trans h₂.allocated
  identity ref href :=
    (h₂.identity ref (lt_of_lt_of_le href h₁.allocated)).trans (h₁.identity ref href)
  log := List.Subset.trans h₁.log h₂.log

/-! ## Changes of the state -/

/-- A change that does not make a lane, adds nothing to the history, and notes only mirrors that were
opened. -/
structure Quiet (s s' : ReadLaneState) : Prop where
  allocated : s'.allocated = s.allocated
  log : s'.log = s.log
  lastFence : s.lastFence ≤ s'.lastFence
  lanes : ∀ {laneId ref}, s'.lanes.get? laneId = some ref → s.lanes.get? laneId = some ref
  identity : ∀ ref, (s'.heap ref).identity = (s.heap ref).identity
  expiresAtMs : ∀ ref, (s'.heap ref).expiresAtMs = (s.heap ref).expiresAtMs
  mirrors : ∀ {ref endpointId sessionId fence},
    (s'.heap ref).mirrors.get? endpointId = some (sessionId, fence) →
    (s.heap ref).mirrors.get? endpointId = some (sessionId, fence) ∨
      MirrorOpened s.log ref endpointId sessionId fence

namespace LogicalReadLane

theorem laneId_eq {a b : LogicalReadLane} (h : a.identity = b.identity) : a.laneId = b.laneId :=
  congrArg (·.1) h

theorem claims_eq {a b : LogicalReadLane} (h : a.identity = b.identity) : a.claims = b.claims :=
  congrArg (·.2.2.1) h

theorem fencingToken_eq {a b : LogicalReadLane} (h : a.identity = b.identity) :
    a.fencingToken = b.fencingToken := congrArg (·.2.2.2) h

end LogicalReadLane

section Changes

variable {router : ReadLaneRouter} {s s' : ReadLaneState} {ref : ℕ}

theorem Quiet.grows (h : Quiet s s') : Grows s s' :=
  ⟨h.allocated.ge, fun ref _ => h.identity ref, h.log ▸ List.Subset.refl _⟩

theorem Quiet.trans {s₁ s₂ s₃ : ReadLaneState} (h₁ : Quiet s₁ s₂) (h₂ : Quiet s₂ s₃) :
    Quiet s₁ s₃ where
  allocated := h₂.allocated.trans h₁.allocated
  log := h₂.log.trans h₁.log
  lastFence := h₁.lastFence.trans h₂.lastFence
  lanes h := h₁.lanes (h₂.lanes h)
  identity ref := (h₂.identity ref).trans (h₁.identity ref)
  expiresAtMs ref := (h₂.expiresAtMs ref).trans (h₁.expiresAtMs ref)
  mirrors h := (h₂.mirrors h).elim h₁.mirrors fun hopened => Or.inr (h₁.log ▸ hopened)

theorem Sound.quiet (h : Sound router s) (hq : Quiet s s') : Sound router s' where
  table := by
    intro laneId ref hget
    rw [hq.allocated, hq.log, LogicalReadLane.laneId_eq (hq.identity ref)]
    exact h.table (hq.lanes hget)
  created := by
    intro ref href
    rw [hq.allocated] at href
    rw [hq.log, hq.identity]
    exact h.created href
  allocated := by
    intro task ref lane hmem
    rw [hq.log] at hmem
    rw [hq.allocated, hq.identity]
    exact h.allocated hmem
  closed := by
    intro ref live hmem
    rw [hq.log] at hmem
    exact hq.allocated ▸ h.closed hmem
  expiry := by
    intro ref href
    rw [hq.allocated] at href
    rw [hq.log, hq.expiresAtMs]
    exact h.expiry href
  mirrors := by
    intro ref endpointId sessionId fence href hget
    rw [hq.allocated] at href
    rw [hq.log]
    exact (hq.mirrors hget).elim (h.mirrors href) id
  fences := by
    intro ref href
    rw [hq.allocated] at href
    obtain ⟨n, hn, heq⟩ := h.fences href
    exact ⟨n, hn.trans hq.lastFence, (LogicalReadLane.fencingToken_eq (hq.identity ref)).trans heq⟩
  fences_inj := by
    intro hlast ref ref' href href' heq
    rw [hq.allocated] at href href'
    rw [LogicalReadLane.fencingToken_eq (hq.identity ref),
      LogicalReadLane.fencingToken_eq (hq.identity ref')] at heq
    exact h.fences_inj (lt_of_le_of_lt hq.lastFence hlast) href href' heq
  justified := hq.log ▸ h.justified

/-- A change that leaves lanes, objects and history alone. -/
theorem Quiet.of_eq (hallocated : s'.allocated = s.allocated) (hlog : s'.log = s.log)
    (hfence : s.lastFence ≤ s'.lastFence) (hlanes : s'.lanes = s.lanes) (hheap : s'.heap = s.heap) :
    Quiet s s' where
  allocated := hallocated
  log := hlog
  lastFence := hfence
  lanes h := hlanes ▸ h
  identity ref := by rw [hheap]
  expiresAtMs ref := by rw [hheap]
  mirrors h := Or.inl (hheap ▸ h)

theorem Quiet.now (router : ReadLaneRouter) : Quiet s (router.now s).2 := .of_eq rfl rfl (le_refl _) rfl rfl

theorem Quiet.drawRequestId (router : ReadLaneRouter) : Quiet s (router.drawRequestId s).2 :=
  .of_eq rfl rfl (le_refl _) rfl rfl

/-- Taking an id out of the table. -/
theorem Quiet.erase (laneId : String) : Quiet s { s with lanes := s.lanes.erase laneId } where
  allocated := rfl
  log := rfl
  lastFence := le_refl _
  lanes {laneId' ref} h := by
    rw [Dict.get?_erase] at h
    split_ifs at h
    exact h
  identity _ := rfl
  expiresAtMs _ := rfl
  mirrors h := Or.inl h

theorem Quiet.popLane (laneId : String) (ref : ℕ) : Quiet s (s.popLane laneId ref) := by
  unfold ReadLaneState.popLane
  split_ifs
  · exact .erase laneId
  · exact .of_eq rfl rfl (le_refl _) rfl rfl

@[simp]
theorem heap_modifyLane (f : LogicalReadLane → LogicalReadLane) (ref' : ℕ) :
    (s.modifyLane ref f).heap ref' = if ref' = ref then f (s.heap ref) else s.heap ref' :=
  Function.update_apply s.heap ref _ ref'

theorem identity_modifyLane {f : LogicalReadLane → LogicalReadLane}
    (hidentity : (f (s.heap ref)).identity = (s.heap ref).identity) (ref' : ℕ) :
    ((s.modifyLane ref f).heap ref').identity = (s.heap ref').identity := by
  rw [heap_modifyLane]
  split_ifs with heq
  · rw [hidentity, heq]
  · rfl

/-- Changing an object, but not its identity and its time of expiry. -/
theorem Quiet.modifyLane {f : LogicalReadLane → LogicalReadLane}
    (hidentity : (f (s.heap ref)).identity = (s.heap ref).identity)
    (hexpires : (f (s.heap ref)).expiresAtMs = (s.heap ref).expiresAtMs)
    (hmirrors : ∀ {endpointId sessionId fence},
      (f (s.heap ref)).mirrors.get? endpointId = some (sessionId, fence) →
      (s.heap ref).mirrors.get? endpointId = some (sessionId, fence) ∨
        MirrorOpened s.log ref endpointId sessionId fence) :
    Quiet s (s.modifyLane ref f) := by
  refine ⟨rfl, rfl, le_refl _, fun h => h, identity_modifyLane hidentity, fun ref' => ?_,
    fun {ref' _ _ _} h => ?_⟩
  · rw [heap_modifyLane]
    split_ifs with heq
    · rw [hexpires, heq]
    · rfl
  · rw [heap_modifyLane] at h
    split_ifs at h with heq
    · subst heq
      exact hmirrors h
    · exact Or.inl h

theorem Quiet.setLock (holder : Option ℕ) :
    Quiet s (s.modifyLane ref ({ · with lockedBy := holder })) := .modifyLane rfl rfl Or.inl

theorem Quiet.popMirror (endpointId : String) :
    Quiet s (s.modifyLane ref (·.popMirror endpointId)) := by
  refine .modifyLane rfl rfl fun {endpointId' _ _} h => Or.inl ?_
  rw [LogicalReadLane.popMirror, Dict.get?_erase] at h
  split_ifs at h
  exact h

theorem Quiet.setMirror {endpoint : LiveEndpoint} {fence : ℤ}
    (hopened : MirrorOpened s.log ref endpoint.config.endpointId endpoint.binding.sessionId fence) :
    Quiet s (s.modifyLane ref (·.setMirror endpoint fence)) := by
  refine .modifyLane rfl rfl fun {endpointId sessionId fence'} h => ?_
  rw [LogicalReadLane.setMirror, Dict.get?_set] at h
  split_ifs at h with hid
  · cases h
    exact Or.inr (hid ▸ hopened)
  · exact Or.inl h

/-- Adding an event to the history that neither makes a lane nor sets its expiry. -/
theorem Sound.note (h : Sound router s) {event : ReadLaneEvent} (hjust : Justified s.log event)
    (hcreated : ∀ task ref lane, event ≠ .created task ref lane)
    (hexpiry : ∀ ref, event.expiryOf ref = none)
    (hclosed : ∀ ref live, event = .closed ref live →
      ref < s.allocated ∧ ∀ laneId, s.lanes.get? laneId ≠ some ref) :
    Sound router (s.note event) where
  table := by
    intro laneId ref hget
    obtain ⟨href, hid, hopen⟩ := h.table hget
    refine ⟨href, hid, fun live hmem => ?_⟩
    rcases List.mem_append.mp hmem with hold | hnew
    · exact hopen live hold
    · exact (hclosed ref live (List.mem_singleton.mp hnew).symm).2 laneId hget
  created := by
    intro ref href
    obtain ⟨task, lane, hmem, heq⟩ := h.created href
    exact ⟨task, lane, List.mem_append_left _ hmem, heq⟩
  allocated := by
    intro task ref lane hmem
    rcases List.mem_append.mp hmem with hold | hnew
    · exact h.allocated hold
    · exact absurd (List.mem_singleton.mp hnew).symm (hcreated task ref lane)
  closed := by
    intro ref live hmem
    rcases List.mem_append.mp hmem with hold | hnew
    · exact h.closed hold
    · exact (hclosed ref live (List.mem_singleton.mp hnew).symm).1
  expiry := by
    intro ref href
    rw [ReadLaneState.note, latest_concat, hexpiry, Option.none_or]
    exact h.expiry href
  mirrors := by
    intro ref endpointId sessionId fence href hget
    exact (h.mirrors href hget).mono (List.subset_append_left _ _)
  fences := h.fences
  fences_inj := h.fences_inj
  justified := throughout_concat.mpr ⟨h.justified, hjust⟩

theorem Grows.note (event : ReadLaneEvent) : Grows s (s.note event) :=
  ⟨le_refl _, fun _ _ => rfl, List.subset_append_left _ _⟩

/-- The time of expiry of a lane is the last one that was set. -/
theorem Sound.renewed (h : Sound router s) (expiresAtMs : ℤ) :
    Sound router ((s.modifyLane ref ({ · with expiresAtMs := expiresAtMs })).note
      (.renewed ref expiresAtMs)) := by
  have hidentity : ∀ ref', ((s.modifyLane ref ({ · with expiresAtMs := expiresAtMs })).heap
      ref').identity = (s.heap ref').identity := identity_modifyLane rfl
  have hold : ∀ {event}, event ∈ s.log ++ [.renewed ref expiresAtMs] →
      event ∈ s.log ∨ event = .renewed ref expiresAtMs := fun hmem =>
    (List.mem_append.mp hmem).imp_right List.mem_singleton.mp
  constructor
  case justified => exact throughout_concat.mpr ⟨h.justified, trivial⟩
  case table =>
    intro laneId ref' hget
    obtain ⟨href', hid, hopen⟩ := h.table hget
    refine ⟨href', (LogicalReadLane.laneId_eq (hidentity ref')).trans hid, fun live hmem => ?_⟩
    exact hopen live ((hold hmem).resolve_right (by simp))
  case created =>
    intro ref' href'
    obtain ⟨task, lane, hmem, heq⟩ := h.created href'
    exact ⟨task, lane, List.mem_append_left _ hmem, heq.trans (hidentity ref').symm⟩
  case allocated =>
    intro task ref' lane hmem
    obtain ⟨href', heq⟩ := h.allocated ((hold hmem).resolve_right (by simp))
    exact ⟨href', heq.trans (hidentity ref').symm⟩
  case closed =>
    intro ref' live hmem
    exact h.closed ((hold hmem).resolve_right (by simp))
  case expiry =>
    intro ref' href'
    rw [ReadLaneState.note, latest_concat, ReadLaneEvent.expiryOf]
    dsimp only
    rw [heap_modifyLane]
    by_cases heq : ref' = ref
    · rw [if_pos heq, if_pos heq.symm]
      rfl
    · rw [if_neg heq, if_neg (Ne.symm heq)]
      exact h.expiry href'
  case mirrors =>
    intro ref' endpointId sessionId fence href' hget
    have hget' : (s.heap ref').mirrors.get? endpointId = some (sessionId, fence) := by
      rw [← hget, ReadLaneState.note]
      dsimp only
      rw [heap_modifyLane]
      split_ifs with heq
      · rw [heq]
      · rfl
    exact (h.mirrors href' hget').mono (List.subset_append_left _ _)
  case fences =>
    intro ref' href'
    obtain ⟨n, hn, heq⟩ := h.fences href'
    exact ⟨n, hn, (LogicalReadLane.fencingToken_eq (hidentity ref')).trans heq⟩
  case fences_inj =>
    intro hlast ref' ref'' href' href'' heq
    exact h.fences_inj hlast href' href''
      ((LogicalReadLane.fencingToken_eq (hidentity ref')).symm.trans
        (heq.trans (LogicalReadLane.fencingToken_eq (hidentity ref''))))

theorem Grows.modifyLane {f : LogicalReadLane → LogicalReadLane}
    (hidentity : (f (s.heap ref)).identity = (s.heap ref).identity) :
    Grows s (s.modifyLane ref f) :=
  ⟨le_refl _, fun ref' _ => identity_modifyLane hidentity ref', List.Subset.refl _⟩

/-- A new lane with the next fence. -/
theorem Sound.create (h : Sound router s) {task : ℕ} {lane : LogicalReadLane}
    (hfence : lane.fencingToken = router.fence s.lastFence) (hnew : ∀ {ref},
      ref < s.allocated → ∃ n < s.lastFence, (s.heap ref).fencingToken = router.fence n)
    (hmirrors : lane.mirrors = .empty) :
    Sound router ({ s with
      heap := Function.update s.heap s.allocated lane
      allocated := s.allocated + 1
      lanes := s.lanes.set lane.laneId s.allocated }.note (.created task s.allocated lane)) := by
  have hheap : ∀ ref, Function.update s.heap s.allocated lane ref =
      if ref = s.allocated then lane else s.heap ref := fun ref =>
    Function.update_apply s.heap s.allocated lane ref
  have hold : ∀ {event}, event ∈ s.log ++ [.created task s.allocated lane] →
      event ∈ s.log ∨ event = .created task s.allocated lane := fun hmem =>
    (List.mem_append.mp hmem).imp_right List.mem_singleton.mp
  constructor
  case justified => exact throughout_concat.mpr ⟨h.justified, trivial⟩
  case table =>
    intro laneId ref hget
    dsimp only [ReadLaneState.note] at hget ⊢
    rw [Dict.get?_set] at hget
    split_ifs at hget with hid
    · cases hget
      rw [hheap, if_pos rfl]
      refine ⟨Nat.lt_succ_self _, hid.symm, fun live hmem => ?_⟩
      exact lt_irrefl _ (h.closed ((hold hmem).resolve_right (by simp)))
    · obtain ⟨href, hlane, hopen⟩ := h.table hget
      rw [hheap, if_neg href.ne]
      exact ⟨href.trans (Nat.lt_succ_self _), hlane, fun live hmem =>
        hopen live ((hold hmem).resolve_right (by simp))⟩
  case created =>
    intro ref href
    dsimp only [ReadLaneState.note] at href ⊢
    rw [hheap]
    by_cases heq : ref = s.allocated
    · rw [if_pos heq, heq]
      exact ⟨task, lane, by simp, rfl⟩
    · rw [if_neg heq]
      obtain ⟨task', lane', hmem, hsame⟩ := h.created (by omega : ref < s.allocated)
      exact ⟨task', lane', List.mem_append_left _ hmem, hsame⟩
  case allocated =>
    intro task' ref lane' hmem
    dsimp only [ReadLaneState.note] at hmem ⊢
    rw [hheap]
    rcases hold hmem with hmem | hmem
    · obtain ⟨href, hsame⟩ := h.allocated hmem
      rw [if_neg href.ne]
      exact ⟨href.trans (Nat.lt_succ_self _), hsame⟩
    · cases hmem
      rw [if_pos rfl]
      exact ⟨Nat.lt_succ_self _, rfl⟩
  case closed =>
    intro ref live hmem
    exact (h.closed ((hold hmem).resolve_right (by simp))).trans (Nat.lt_succ_self _)
  case expiry =>
    intro ref href
    dsimp only [ReadLaneState.note] at href ⊢
    rw [hheap, latest_concat, ReadLaneEvent.expiryOf]
    by_cases heq : ref = s.allocated
    · rw [if_pos heq, if_pos heq.symm, Option.some_or]
    · rw [if_neg heq, if_neg (Ne.symm heq), Option.none_or]
      exact h.expiry (by omega)
  case mirrors =>
    intro ref endpointId sessionId fence href hget
    dsimp only [ReadLaneState.note] at href hget ⊢
    rw [hheap] at hget
    split_ifs at hget with heq
    · rw [hmirrors] at hget
      cases hget
    · exact (h.mirrors (by omega) hget).mono (List.subset_append_left _ _)
  case fences =>
    intro ref href
    dsimp only [ReadLaneState.note] at href ⊢
    rw [hheap]
    split_ifs with heq
    · exact ⟨s.lastFence, le_refl _, hfence⟩
    · exact h.fences (by omega)
  case fences_inj =>
    intro hlast ref ref' href href' heq
    replace href : ref < s.allocated + 1 := href
    replace href' : ref' < s.allocated + 1 := href'
    replace heq : (Function.update s.heap s.allocated lane ref).fencingToken =
      (Function.update s.heap s.allocated lane ref').fencingToken := heq
    rw [hheap, hheap] at heq
    -- the fence of the new lane has a number that none of the older lanes has
    have hfresh : ∀ {old}, old < s.allocated → lane.fencingToken ≠ (s.heap old).fencingToken := by
      intro old hold heq
      obtain ⟨n, hn, hfence'⟩ := hnew hold
      rw [hfence, hfence'] at heq
      exact hn.ne (router.fence_inj (hn.trans hlast) hlast heq.symm)
    split_ifs at heq with hr hr' hr'
    · rw [hr, hr']
    · exact absurd heq (hfresh (by omega))
    · exact absurd heq.symm (hfresh (by omega))
    · exact h.fences_inj hlast (by omega) (by omega) heq

theorem Grows.create {task : ℕ} {lane : LogicalReadLane} (lanes : Dict String ℕ) :
    Grows s ({ s with
      heap := Function.update s.heap s.allocated lane
      allocated := s.allocated + 1
      lanes := lanes }.note (.created task s.allocated lane)) := by
  refine ⟨Nat.le_succ _, fun ref href => ?_, List.subset_append_left _ _⟩
  dsimp only [ReadLaneState.note]
  rw [Function.update_of_ne href.ne]

end Changes

/-! ## Methods without a wait -/

section Methods

variable {router : ReadLaneRouter} {s : ReadLaneState}

/-- `_require` finds an open, unexpired lane with this id and this fence. -/
theorem require_ok {laneId : String} {fencingToken : ℤ} {ref : ℕ}
    (h : (router.require laneId fencingToken s).1 = .ok ref) :
    s.lanes.get? laneId = some ref ∧ (s.heap ref).fencingToken = fencingToken ∧
      router.nowMs s.readings < (s.heap ref).expiresAtMs ∧
      (router.require laneId fencingToken s).2 = (router.now s).2 := by
  unfold ReadLaneRouter.require at h ⊢
  split at h
  · cases h
  next found hfound =>
    dsimp only [ReadLaneRouter.now] at h ⊢
    split_ifs at h ⊢ with hfence hexpired
    cases h
    exact ⟨hfound, not_not.mp hfence, not_le.mp hexpired, rfl⟩

theorem quiet_require (laneId : String) (fencingToken : ℤ) :
    Quiet s (router.require laneId fencingToken s).2 := by
  unfold ReadLaneRouter.require
  split
  · exact .of_eq rfl rfl (le_refl _) rfl rfl
  · dsimp only
    split_ifs
    · exact .of_eq rfl rfl (le_refl _) rfl rfl
    · exact (Quiet.erase laneId).trans (.of_eq rfl rfl (le_refl _) rfl rfl)
    · exact Quiet.now router

theorem Sound.admitCall (h : Sound router s) (call : LaneCall) (laneId : String) (fencingToken : ℤ) :
    Sound router (router.admitCall call laneId fencingToken s).2 := by
  unfold ReadLaneRouter.admitCall
  dsimp only
  split
  · exact h.quiet (quiet_require laneId fencingToken)
  next ref hok =>
    obtain ⟨hget, hfence, hnow, hstate⟩ := require_ok hok
    obtain ⟨href, hid, hopen⟩ := h.table hget
    obtain ⟨task, lane, hcreated, hsame⟩ := h.created href
    rw [hstate]
    refine (h.quiet (Quiet.now router)).note
      ⟨⟨task, lane, hcreated, ?_, ?_⟩, hopen, _, h.expiry href, hnow⟩
      (by simp) (fun _ => rfl) (by simp)
    · exact (LogicalReadLane.laneId_eq hsame).trans hid
    · exact (LogicalReadLane.fencingToken_eq hsame).trans hfence

theorem Grows.admitCall (router : ReadLaneRouter) (call : LaneCall) (laneId : String)
    (fencingToken : ℤ) : Grows s (router.admitCall call laneId fencingToken s).2 := by
  unfold ReadLaneRouter.admitCall
  dsimp only
  split
  · exact (quiet_require laneId fencingToken).grows
  · exact (quiet_require laneId fencingToken).grows.trans (.note _)

/-- The lane of a call that was admitted. -/
theorem admit_ok (h : Sound router s) {call : LaneCall} {laneId : String} {fencingToken : ℤ}
    {ref : ℕ} (hok : (router.admitCall call laneId fencingToken s).1 = .ok ref) :
    ref < (router.admitCall call laneId fencingToken s).2.allocated ∧
      ((router.admitCall call laneId fencingToken s).2.heap ref).laneId = laneId := by
  have hrequire : (router.require laneId fencingToken s).1 = .ok ref := by
    unfold ReadLaneRouter.admitCall at hok
    dsimp only at hok
    split at hok
    · cases hok
    next hfound => rw [hfound, Except.ok.inj hok]
  obtain ⟨href, hid, -⟩ := h.table (require_ok hrequire).1
  have hgrows := Grows.admitCall (s := s) router call laneId fencingToken
  exact ⟨lt_of_lt_of_le href hgrows.allocated,
    (LogicalReadLane.laneId_eq (hgrows.identity ref href)).trans hid⟩

theorem Quiet.orderedCurrentEndpoints : Quiet s (router.orderedCurrentEndpoints s).2 :=
  Quiet.now router

theorem Quiet.remainingMs (ref : ℕ) : Quiet s (router.remainingMs ref s).2 := by
  unfold ReadLaneRouter.remainingMs
  dsimp only
  split_ifs
  · exact Quiet.now router
  · exact Quiet.now router

theorem Quiet.openRequest (lane : LogicalReadLane) (remainingMs : ℤ) :
    Quiet s (router.openRequest lane remainingMs s).2 := by
  unfold ReadLaneRouter.openRequest
  dsimp only
  split
  · exact Quiet.drawRequestId router
  · exact Quiet.drawRequestId router

/-- A `lane.open` of the router carries the lane's id and its claims. -/
theorem opensMirror_openRequest {lane lane' : LogicalReadLane} (hsame : lane'.identity = lane.identity)
    {remainingMs : ℤ} {request : Request} (h : (router.openRequest lane remainingMs s).1 = .ok request)
    {response : Response} {fence : ℤ} (hok : isOk response = true)
    (hfence : responseFence response = some fence) : OpensMirror lane' request response fence := by
  unfold ReadLaneRouter.openRequest at h
  dsimp only at h
  split at h
  · cases h
  · rw [Except.ok.injEq] at h
    rw [← h]
    refine ⟨?_, ?_, ?_, hok, hfence⟩
    · simp [Dict.ofList, Dict.get?_set]
    · simp [Dict.ofList, Dict.get?_set, LogicalReadLane.laneId_eq hsame]
    · simp [Dict.ofList, Dict.get?_set, LogicalReadLane.claims_eq hsame]

theorem not_isRead_openRequest {lane : LogicalReadLane} {remainingMs : ℤ} {request : Request}
    (h : (router.openRequest lane remainingMs s).1 = .ok request) : isRead request = false := by
  unfold ReadLaneRouter.openRequest at h
  dsimp only at h
  split at h
  · cases h
  · rw [Except.ok.injEq] at h
    rw [← h]
    simp [isRead, Dict.ofList, Dict.get?_set]

theorem not_isRead_renewRequest {lane : LogicalReadLane} {mirrorFence : ℤ} {ttlS : PyFloat}
    {request : Request} (h : (router.renewRequest lane mirrorFence ttlS s).1 = .ok request) :
    isRead request = false := by
  rw [ReadLaneRouter.renewRequest, Except.ok.injEq] at h
  rw [← h]
  simp [isRead, Dict.ofList, Dict.get?_set]

theorem not_isRead_closeRequest {lane : LogicalReadLane} {mirrorFence : ℤ} {request : Request}
    (h : (router.closeRequest lane mirrorFence s).1 = .ok request) : isRead request = false := by
  rw [ReadLaneRouter.closeRequest, Except.ok.injEq] at h
  rw [← h]
  simp [isRead, Dict.ofList, Dict.get?_set]

/-- A read carries the fence it was made with, unless its body has another one. -/
theorem fence_readRequest {op : ReadOperation} (hop : op.body.get? "fencing_token" = none)
    {lane : LogicalReadLane} {mirrorFence : ℤ} {request : Request}
    (h : (router.readRequest op lane mirrorFence s).1 = .ok request) :
    request.get? "fencing_token" = some (.int mirrorFence) := by
  rw [ReadLaneRouter.readRequest, Except.ok.injEq] at h
  rw [← h, Dict.get?_update, hop]
  simp [Dict.ofList]

/-- `open` makes a lane, or nothing but time passes. -/
theorem Sound.createLane (h : Sound router s) (task : ℕ) (args : OpenLane) :
    Sound router (router.create task args s).2 ∧ Grows s (router.create task args s).2 ∧
      ∀ ref, (router.create task args s).1 = .ok ref →
        ref < (router.create task args s).2.allocated := by
  have hnow := Quiet.now (s := s) router
  have hfence : Quiet s (router.nextFence (router.now s).2).2 :=
    .of_eq rfl rfl (Nat.le_succ _) rfl rfl
  unfold ReadLaneRouter.create
  dsimp only
  split_ifs
  · exact ⟨h, .refl s, by simp⟩
  · exact ⟨h, .refl s, by simp⟩
  · exact ⟨h, .refl s, by simp⟩
  · exact ⟨h.quiet hnow, hnow.grows, by simp⟩
  · split
    · exact ⟨h.quiet hfence, hfence.grows, by simp⟩
    next ttlMs _ =>
      refine ⟨(h.quiet hfence).create rfl (fun {ref} href => ?_) rfl,
        hfence.grows.trans (.create _), ?_⟩
      · obtain ⟨n, hn, heq⟩ := h.fences href
        exact ⟨n, Nat.lt_succ_of_le hn, heq⟩
      · rintro ref ⟨⟩
        exact Nat.lt_succ_self _

end Methods

/-! ## Coroutines -/

/-- What the calls of a router keep. -/
def readLaneDiscipline (router : ReadLaneRouter) :
    Coroutine.Discipline ReadLaneState Await Await.Answer where
  Inv := Sound router
  Rel := Grows
  answers := ReadLaneRouter.answers
  refl := Grows.refl
  trans := Grows.trans

open Coroutine

section Tasks

variable {router : ReadLaneRouter} {s : ReadLaneState} {t ref : ℕ} {endpoint : LiveEndpoint}

/-- Between two steps of a task, and after its own quiet changes, the discipline is kept. -/
theorem upholds_update {f : ReadLaneState → ReadLaneState} {Q : Unit → ReadLaneState → Prop}
    (hs : Sound router s) (hq : Quiet s (f s)) (h : Q () (f s)) :
    Upholds (readLaneDiscipline router) t (update f : ReadLaneTask Unit) s Q :=
  .update (hs.quiet hq) hq.grows h

theorem upholds_sync {α : Type} {f : ReadLaneState → Except PyError α × ReadLaneState}
    {Q : α → ReadLaneState → Prop} (hs : Sound router s) (hq : Quiet s (f s).2)
    (h : ∀ a, (f s).1 = .ok a → Q a (f s).2) :
    Upholds (readLaneDiscipline router) t (sync f : ReadLaneTask α) s Q :=
  .sync (hs.quiet hq) hq.grows h

theorem upholds_lane (hs : Sound router s) :
    Upholds (readLaneDiscipline router) t (ReadLaneRouter.lane ref) s
      fun lane s' => s' = s ∧ lane = s.heap ref :=
  Upholds.bind (Q := fun now s' => now = s ∧ s' = s) hs (.read hs ⟨rfl, rfl⟩)
    fun _ _ _ _ h => .pure ⟨h.2, by rw [h.1]⟩

/-- A request that may be sent is sent and answered. -/
theorem upholds_request (hs : Sound router s) {request : Request}
    (hjust : Justified s.log (.sent ref endpoint request)) :
    Upholds (readLaneDiscipline router) t (ReadLaneRouter.request ref endpoint request) s
      fun response s' => .answered ref endpoint request (.ok response) ∈ s'.log := by
  refine Upholds.bind (Q := fun _ _ => True) hs
    (.update (hs.note hjust (by simp) (fun _ => rfl) (by simp)) (.note _) trivial) ?_
  intro _ s₁ hs₁ _ _
  refine Upholds.bind (Q := fun _ _ => True) hs₁ (.answer fun _ _ _ _ _ => trivial) ?_
  intro result s₂ hs₂ _ _
  refine Upholds.bind (Q := fun _ s' => .answered ref endpoint request result ∈ s'.log) hs₂
    (.update (hs₂.note trivial (by simp) (fun _ => rfl) (by simp)) (.note _) (by
      simp [ReadLaneState.note])) ?_
  intro _ s₃ _ _ hmem
  cases result with
  | ok response => exact .pure hmem
  | error exc =>
    dsimp only
    split_ifs
    · exact .throw
    · exact .throw

/-- A mirror whose fence `_ensure_mirror` returns was opened for the lane on the endpoint's session. -/
theorem upholds_ensureMirror (hs : Sound router s) (href : ref < s.allocated) :
    Upholds (readLaneDiscipline router) t (router.ensureMirror ref endpoint) s fun fence s' =>
      MirrorOpened s'.log ref endpoint.config.endpointId endpoint.binding.sessionId fence := by
  refine Upholds.bind hs (upholds_lane hs) ?_
  rintro lane s₁ hs₁ _ ⟨rfl, rfl⟩
  split
  next fence hfence =>
    -- the mirror in the table
    refine .pure ?_
    obtain ⟨⟨sessionId, fence'⟩, hget, hsession⟩ := Option.bind_eq_some_iff.mp hfence
    dsimp only at hsession
    split_ifs at hsession with heq
    cases hsession
    exact heq ▸ hs.mirrors href hget
  · refine Upholds.bind (Q := fun _ _ => True) hs₁ (upholds_sync hs₁ (.remainingMs ref) fun _ _ => trivial) ?_
    intro remaining s₂ hs₂ h₁₂ _
    refine Upholds.bind (Q := fun request _ =>
        (router.openRequest (s₁.heap ref) remaining s₂).1 = .ok request) hs₂
      (upholds_sync hs₂ (.openRequest _ _) fun _ h => h) ?_
    intro request s₃ hs₃ h₂₃ hrequest
    refine Upholds.bind hs₃ (upholds_request hs₃ fun hread => ?_) ?_
    · rw [not_isRead_openRequest hrequest] at hread
      cases hread
    intro response s₄ hs₄ h₃₄ hanswered
    refine Upholds.bind (Q := fun fence s' => s' = s₄ ∧ router.openedFence endpoint response = .ok fence)
      hs₄ (.ofResult fun _ h => ⟨rfl, h⟩) ?_
    rintro fence s₅ hs₅ _ ⟨rfl, hfence⟩
    have hgrows := (h₁₂.trans h₂₃).trans h₃₄
    -- the answer was a success with this fence, and the lane is the one it was
    have hopened : MirrorOpened s₅.log ref endpoint.config.endpointId endpoint.binding.sessionId
        fence := by
      obtain ⟨task, lane, hcreated, hsame⟩ := hs₁.created href
      unfold ReadLaneRouter.openedFence at hfence
      dsimp only at hfence
      split_ifs at hfence with hok
      split at hfence
      · cases hfence
      next fence' hget =>
        cases hfence
        exact ⟨task, lane, endpoint, request, response, hgrows.log hcreated, hanswered, rfl, rfl,
          opensMirror_openRequest hsame hrequest (by simpa using hok) hget⟩
    refine Upholds.bind (Q := fun _ s' => s'.log = s₅.log) hs₅
      (upholds_update hs₅ (.setMirror hopened) rfl) ?_
    intro _ s₆ _ _ hlog
    exact .pure (hlog ▸ hopened)

/-- Nothing is promised of what a program returns. -/
theorem upholds_true {α : Type} {c : ReadLaneTask α} {Q : α → ReadLaneState → Prop}
    (hs : Sound router s) (h : Upholds (readLaneDiscipline router) t c s Q) :
    Upholds (readLaneDiscipline router) t c s fun _ _ => True :=
  Upholds.imp hs h fun _ _ _ _ _ => trivial

theorem upholds_openFirst (hs : Sound router s) (href : ref < s.allocated)
    (endpoints : List LiveEndpoint) (lastError : Option PyError) :
    Upholds (readLaneDiscipline router) t (router.openFirst ref endpoints lastError) s
      fun _ _ => True := by
  induction endpoints generalizing s lastError with
  | nil => exact .throw
  | cons endpoint rest ih =>
    refine Upholds.tryCatch hs ?_ fun err s₁ hs₁ hgrows => ?_
    · refine Upholds.bind hs (upholds_ensureMirror hs href) fun _ s₁ hs₁ _ _ => ?_
      refine Upholds.bind (Q := fun _ _ => True) hs₁ (.update (hs₁.note trivial (by simp)
        (fun _ => rfl) (by simp)) (.note _) trivial) fun _ s₂ hs₂ _ _ => ?_
      exact Upholds.bind hs₂ (upholds_lane hs₂) fun _ _ _ _ _ => .pure trivial
    · split_ifs
      · exact ih hs₁ (lt_of_lt_of_le href hgrows.allocated) (some err)
      · exact .throw

theorem upholds_openLane (hs : Sound router s) (args : OpenLane) :
    Upholds (readLaneDiscipline router) t (router.openLane t args) s fun _ _ => True := by
  obtain ⟨hcreate, hgrows, hlt⟩ := hs.createLane t args
  refine Upholds.bind (Q := fun ref s' => ref < s'.allocated) hs (.sync hcreate hgrows hlt) ?_
  intro ref s₁ hs₁ _ href
  refine Upholds.tryCatch hs₁ ?_ fun err s₂ hs₂ _ => ?_
  · refine Upholds.bind (Q := fun _ s' => ref < s'.allocated) hs₁
      (upholds_sync hs₁ .orderedCurrentEndpoints fun _ _ => href) fun endpoints s₂ hs₂ _ href₂ => ?_
    exact upholds_openFirst hs₂ href₂ endpoints none
  · split_ifs
    · exact Upholds.bind (Q := fun _ _ => True) hs₂ (upholds_update hs₂ (.popLane _ _) trivial)
        fun _ _ _ _ _ => .throw
    · exact .throw

/-- The lock is taken and released around a body that keeps the discipline. -/
theorem upholds_withLock {α : Type} {body : ReadLaneTask α} (hs : Sound router s)
    (hbody : ∀ s', Sound router s' → Upholds (readLaneDiscipline router) t body s' fun _ _ => True) :
    Upholds (readLaneDiscipline router) t (ReadLaneRouter.withLock t ref body) s fun _ _ => True := by
  refine Upholds.bind (Q := fun _ _ => True) hs (.answer fun _ _ _ _ _ => trivial) ?_
  intro granted s₁ hs₁ _ _
  refine Upholds.bind (Q := fun _ _ => True) hs₁ (.ofResult fun _ _ => trivial) ?_
  intro _ s₂ hs₂ _ _
  refine Upholds.bind (Q := fun _ _ => True) hs₂ (upholds_update hs₂ (.setLock _) trivial) ?_
  intro _ s₃ hs₃ _ _
  refine Upholds.bind hs₃ (Upholds.tryCatch hs₃ (hbody s₃ hs₃) fun err s₄ hs₄ _ => ?_) ?_
  · exact Upholds.bind (Q := fun _ _ => True) hs₄ (upholds_update hs₄ (.setLock _) trivial)
      fun _ _ _ _ _ => .throw
  · intro result s₄ hs₄ _ _
    exact Upholds.bind (Q := fun _ _ => True) hs₄ (upholds_update hs₄ (.setLock _) trivial)
      fun _ _ _ _ _ => .pure trivial

/-- What the methods that begin with `_require` have in common. -/
theorem upholds_admitted {call : LaneCall} {laneId : String} {fencingToken : ℤ}
    {body : ℕ → ReadLaneTask Response} (hs : Sound router s)
    (hbody : ∀ ref s', Sound router s' → ref < s'.allocated → (s'.heap ref).laneId = laneId →
      Upholds (readLaneDiscipline router) t (body ref) s' fun _ _ => True) :
    Upholds (readLaneDiscipline router) t (do
      let ref ← sync (router.require laneId fencingToken)
      ReadLaneRouter.withLock t ref do
        let ref ← sync (router.admitCall call laneId fencingToken)
        body ref) s fun _ _ => True := by
  refine Upholds.bind (Q := fun _ _ => True) hs
    (upholds_sync hs (quiet_require laneId fencingToken) fun _ _ => trivial) fun ref s₁ hs₁ _ _ => ?_
  refine upholds_withLock hs₁ fun s₂ hs₂ => ?_
  refine Upholds.bind (Q := fun ref s' => ref < s'.allocated ∧ (s'.heap ref).laneId = laneId) hs₂
    (.sync (hs₂.admitCall call laneId fencingToken) (.admitCall router call laneId fencingToken)
      fun _ hok => admit_ok hs₂ hok) ?_
  intro ref' s₃ hs₃ _ href
  exact hbody ref' s₃ hs₃ href.1 href.2

theorem upholds_renewMirror (hs : Sound router s) {ttlS : PyFloat}
    {endpoints : Dict String LiveEndpoint} {endpointId sessionId : String} {mirrorFence : ℤ} :
    Upholds (readLaneDiscipline router) t
      (router.renewMirror ref ttlS endpoints endpointId sessionId mirrorFence) s
      fun _ _ => True := by
  have hpop : ∀ s', Sound router s' → Upholds (readLaneDiscipline router) t
      (update (·.modifyLane ref (·.popMirror endpointId)) : ReadLaneTask Unit) s'
      fun _ _ => True := fun s' hs' => upholds_update hs' (.popMirror endpointId) trivial
  unfold ReadLaneRouter.renewMirror
  split
  · exact hpop s hs
  · refine Upholds.tryCatch hs ?_ fun err s₁ hs₁ _ => ?_
    · refine Upholds.bind hs (upholds_lane hs) ?_
      rintro lane s₁ hs₁ _ -
      refine Upholds.bind (Q := fun request _ => isRead request = false) hs₁
        (upholds_sync hs₁ (Quiet.drawRequestId router) fun _ h =>
          not_isRead_renewRequest h) fun request s₂ hs₂ _ hread => ?_
      refine Upholds.bind hs₂ (upholds_request hs₂ fun h => by rw [hread] at h; cases h)
        fun response s₃ hs₃ _ _ => ?_
      split_ifs
      · exact hpop s₃ hs₃
      · exact .pure trivial
    · split_ifs
      · exact hpop s₁ hs₁
      · exact .throw

theorem upholds_renewMirrors (hs : Sound router s) {ttlS : PyFloat}
    {endpoints : Dict String LiveEndpoint} (mirrors : List (String × String × ℤ)) :
    Upholds (readLaneDiscipline router) t (router.renewMirrors ref ttlS endpoints mirrors) s
      fun _ _ => True := by
  induction mirrors generalizing s with
  | nil => exact .pure trivial
  | cons mirror rest ih => exact Upholds.bind hs (upholds_renewMirror hs) fun _ s₁ hs₁ _ _ => ih hs₁

theorem upholds_renew (hs : Sound router s) (laneId : String) (fencingToken : ℤ) (ttlS : PyFloat) :
    Upholds (readLaneDiscipline router) t (router.renew t laneId fencingToken ttlS) s
      fun _ _ => True := by
  refine upholds_admitted hs fun ref s₁ hs₁ _ _ => ?_
  have hextend : Sound router (router.extend ref ttlS s₁).2 ∧
      Grows s₁ (router.extend ref ttlS s₁).2 := by
    have hnow := Quiet.now (s := s₁) router
    unfold ReadLaneRouter.extend
    dsimp only
    split_ifs
    · exact ⟨hs₁, .refl s₁⟩
    · split
      · exact ⟨hs₁.quiet hnow, hnow.grows⟩
      · exact ⟨(hs₁.quiet hnow).renewed _,
          (hnow.grows.trans (.modifyLane rfl)).trans (.note _)⟩
  refine Upholds.bind (Q := fun _ _ => True) hs₁ (.sync hextend.1 hextend.2 fun _ _ => trivial)
    fun _ s₂ hs₂ _ _ => ?_
  refine Upholds.bind (Q := fun _ _ => True) hs₂
    (upholds_sync hs₂ .orderedCurrentEndpoints fun _ _ => trivial) fun endpoints s₃ hs₃ _ _ => ?_
  refine Upholds.bind hs₃ (upholds_lane hs₃) fun current s₄ hs₄ _ _ => ?_
  exact Upholds.bind hs₄ (upholds_renewMirrors hs₄ current.mirrors.entries) fun _ _ _ _ _ => .pure trivial

theorem upholds_closeMirror (hs : Sound router s) {endpoints : Dict String LiveEndpoint}
    {endpointId sessionId : String} {mirrorFence : ℤ} :
    Upholds (readLaneDiscipline router) t
      (router.closeMirror ref endpoints endpointId sessionId mirrorFence) s fun _ _ => True := by
  unfold ReadLaneRouter.closeMirror
  split
  · exact .pure trivial
  · refine Upholds.tryCatch hs ?_ fun err s₁ hs₁ _ => ?_
    · refine Upholds.bind hs (upholds_lane hs) ?_
      rintro lane s₁ hs₁ _ -
      refine Upholds.bind (Q := fun request _ => isRead request = false) hs₁
        (upholds_sync hs₁ (Quiet.drawRequestId router) fun _ h =>
          not_isRead_closeRequest h) fun request s₂ hs₂ _ hread => ?_
      refine Upholds.bind hs₂ (upholds_request hs₂ fun h => by rw [hread] at h; cases h)
        fun response s₃ hs₃ _ _ => ?_
      split_ifs
      · exact .pure trivial
      · exact Upholds.bind (Q := fun _ _ => True) hs₃ (upholds_update hs₃ (.popMirror endpointId) trivial)
          fun _ _ _ _ _ => .pure trivial
    · split_ifs
      · exact .pure trivial
      · exact .throw

theorem upholds_closeMirrors (hs : Sound router s) {endpoints : Dict String LiveEndpoint}
    (mirrors : List (String × String × ℤ)) :
    Upholds (readLaneDiscipline router) t (router.closeMirrors ref endpoints mirrors) s
      fun _ _ => True := by
  induction mirrors generalizing s with
  | nil => exact .pure trivial
  | cons mirror rest ih =>
    refine Upholds.bind hs (upholds_closeMirror hs) fun _ s₁ hs₁ _ _ => ?_
    exact Upholds.bind hs₁ (ih hs₁) fun _ _ _ _ _ => .pure trivial

/-- A lane that was taken out of the table under its id is not in the table. -/
theorem get?_popLane_ne (hs : Sound router s) {laneId : String} (hid : (s.heap ref).laneId = laneId)
    (laneId' : String) : (s.popLane laneId ref).lanes.get? laneId' ≠ some ref := by
  intro hget
  have hold : s.lanes.get? laneId' = some ref := (Quiet.popLane laneId ref).lanes hget
  obtain rfl : laneId' = laneId := (hs.table hold).2.1.symm.trans hid
  rw [ReadLaneState.popLane, if_pos hold, Dict.get?_erase_self] at hget
  cases hget

theorem upholds_close (hs : Sound router s) (laneId : String) (fencingToken : ℤ) :
    Upholds (readLaneDiscipline router) t (router.close t laneId fencingToken) s
      fun _ _ => True := by
  refine upholds_admitted hs fun ref s₁ hs₁ href hid => ?_
  refine Upholds.bind (Q := fun _ _ => True) hs₁
    (upholds_sync hs₁ .orderedCurrentEndpoints fun _ _ => trivial) fun endpoints s₂ hs₂ h₁₂ _ => ?_
  refine Upholds.bind hs₂ (upholds_lane hs₂) fun current s₃ hs₃ h₂₃ _ => ?_
  refine Upholds.bind hs₃ (upholds_closeMirrors hs₃ current.mirrors.entries)
    fun unresolved s₄ hs₄ h₃₄ _ => ?_
  have hgrows := (h₁₂.trans h₂₃).trans h₃₄
  split_ifs
  · exact .throw
  have href₄ := lt_of_lt_of_le href hgrows.allocated
  have hid₄ := (LogicalReadLane.laneId_eq (hgrows.identity ref href)).trans hid
  refine Upholds.bind (Q := fun _ s' => ref < s'.allocated ∧
      ∀ laneId', s'.lanes.get? laneId' ≠ some ref) hs₄
    (upholds_update hs₄ (.popLane laneId ref) ?_) fun _ s₅ hs₅ _ hgone => ?_
  · exact ⟨lt_of_lt_of_eq href₄ (Quiet.popLane laneId ref).allocated.symm, get?_popLane_ne hs₄ hid₄⟩
  refine Upholds.bind (Q := fun _ _ => True) hs₅ (.update (hs₅.note trivial (by simp)
    (fun _ => rfl) ?_) (.note _) trivial) fun _ _ _ _ _ => .pure trivial
  rintro ref' live ⟨⟩
  exact hgone

theorem upholds_readFirst (hs : Sound router s) (href : ref < s.allocated) {op : ReadOperation}
    (hop : op.body.get? "fencing_token" = none) (endpoints : List LiveEndpoint)
    (lastError : Option PyError) :
    Upholds (readLaneDiscipline router) t (router.readFirst ref op endpoints lastError) s
      fun _ _ => True := by
  induction endpoints generalizing s lastError with
  | nil => exact .throw
  | cons endpoint rest ih =>
    refine Upholds.tryCatch hs ?_ fun err s₁ hs₁ hgrows => ?_
    · refine Upholds.bind hs (upholds_ensureMirror hs href) fun fence s₁ hs₁ _ hopened => ?_
      refine Upholds.bind hs₁ (upholds_lane hs₁) ?_
      rintro current s₂ hs₂ h₁₂ -
      refine Upholds.bind (Q := fun request s' => s'.log = s₂.log ∧
          request.get? "fencing_token" = some (.int fence)) hs₂
        (upholds_sync hs₂ (Quiet.drawRequestId router) fun _ h =>
          ⟨rfl, fence_readRequest hop h⟩) ?_
      rintro request s₃ hs₃ - ⟨hlog, hfence⟩
      exact upholds_true hs₃ (upholds_request hs₃ fun _ =>
        ⟨fence, hfence, hopened.mono (hlog ▸ h₁₂.log)⟩)
    · split_ifs
      · exact ih hs₁ (lt_of_lt_of_le href hgrows.allocated) (some err)
      · exact .throw

theorem upholds_mirroredRead (hs : Sound router s) (laneId : String) (fencingToken : ℤ)
    {op : ReadOperation} (hop : op.body.get? "fencing_token" = none) :
    Upholds (readLaneDiscipline router) t (router.mirroredRead t laneId fencingToken op) s
      fun _ _ => True := by
  refine upholds_admitted hs fun ref s₁ hs₁ href _ => ?_
  refine Upholds.bind (Q := fun _ s' => ref < s'.allocated) hs₁
    (upholds_sync hs₁ .orderedCurrentEndpoints fun _ _ => href) fun endpoints s₂ hs₂ _ href₂ => ?_
  exact upholds_readFirst hs₂ href₂ hop endpoints none

theorem upholds_run (hs : Sound router s) {call : ReadLaneCall} (hplain : call.PlainBody) :
    Upholds (readLaneDiscipline router) t (call.run router t) s fun _ _ => True := by
  cases call with
  | openLane args => exact upholds_openLane hs args
  | renew laneId fencingToken ttlS => exact upholds_renew hs laneId fencingToken ttlS
  | close laneId fencingToken => exact upholds_close hs laneId fencingToken
  | readText laneId fencingToken path encoding =>
    exact upholds_mirroredRead hs laneId fencingToken (by simp [ReadOperation.text, Dict.ofList,
      Dict.get?_set])
  | readBytes laneId fencingToken path offset maxBytes expectedFileVersion =>
    exact upholds_mirroredRead hs laneId fencingToken (by simp [ReadOperation.bytes, Dict.ofList,
      Dict.get?_set])
  | readOperation operation laneId fencingToken body =>
    change Upholds _ t (router.callReadOperation t operation laneId fencingToken body) s _
    unfold ReadLaneRouter.callReadOperation
    have hop : (ReadOperation.other operation body).body.get? "fencing_token" = none := hplain.2.1
    split_ifs
    · exact upholds_mirroredRead hs laneId fencingToken hop
    · exact .throw

end Tasks

/-! ## Runs -/

/-- A new router. -/
theorem sound_init (router : ReadLaneRouter) (live : List LiveEndpoint) :
    Sound router (.init live) where
  table h := by cases h
  created h := absurd h (Nat.not_lt_zero _)
  allocated h := by cases h
  closed h := by cases h
  expiry h := absurd h (Nat.not_lt_zero _)
  mirrors h := absurd h (Nat.not_lt_zero _)
  fences h := absurd h (Nat.not_lt_zero _)
  fences_inj _ _ _ h := absurd h (Nat.not_lt_zero _)
  justified := throughout_nil

/-- Every state of every run is sound. -/
theorem sound_of_reachable {router : ReadLaneRouter} {live : List LiveEndpoint}
    {sys : System ReadLaneState Await Await.Answer PyError Response}
    (h : Reachable router.driver (.init live) sys) : Sound router sys.state := by
  have hcovers : (readLaneDiscipline router).contract.Covers router.driver := by
    refine Discipline.covers ?_ (fun _ _ _ h => h) ?_
    · rintro s t c hs ⟨call, hplain, rfl⟩
      exact upholds_run hs hplain
    · rintro s s' hs ⟨live, rfl⟩
      have hq : Quiet s { s with live } := .of_eq rfl rfl (le_refl _) rfl rfl
      exact ⟨hs.quiet hq, hq.grows⟩
  exact hcovers.inv (sound_init router live) h

/-- In the history of every run, a read is sent on a session only with the fence of a `lane.open`
that was answered there for the same logical lane with that lane's claims, and a call is admitted to
a lane only if the lane was opened under this id with this fence, is not closed, and has not expired.
As long as fewer than `2 ^ 32` fences were drawn no two lanes share a fence. -/
theorem reads_mirrored (router : ReadLaneRouter) (live : List LiveEndpoint)
    {sys : System ReadLaneState Await Await.Answer PyError Response}
    (h : Reachable router.driver (.init live) sys) :
    Throughout Justified sys.state.log ∧
      (sys.state.lastFence < 2 ^ 32 → ∀ task ref lane task' ref' lane',
        .created task ref lane ∈ sys.state.log → .created task' ref' lane' ∈ sys.state.log →
        lane.fencingToken = lane'.fencingToken → ref = ref') := by
  have hsound := sound_of_reachable h
  refine ⟨hsound.justified, fun hlast task ref lane task' ref' lane' hmem hmem' heq => ?_⟩
  obtain ⟨href, hsame⟩ := hsound.allocated hmem
  obtain ⟨href', hsame'⟩ := hsound.allocated hmem'
  refine hsound.fences_inj hlast href href' ?_
  exact (LogicalReadLane.fencingToken_eq hsame).symm.trans
    (heq.trans (LogicalReadLane.fencingToken_eq hsame'))

/-- The run of `calls`, one after the other, is a run of the router. -/
theorem reachable_exampleRun {init s : ReadLaneState} {calls : List ReadLaneCall}
    {tasks : List (ReadLaneTask Response)}
    (h : Reachable exampleRouter.driver init ⟨s, tasks⟩) (hplain : ∀ call ∈ calls, call.PlainBody) :
    ∃ tasks', Reachable exampleRouter.driver init
      ⟨exampleRun exampleReply tasks.length s calls, tasks'⟩ := by
  induction calls generalizing s tasks with
  | nil => exact ⟨tasks, h⟩
  | cons call calls ih =>
    obtain ⟨hcall, hcalls⟩ := List.forall_mem_cons.mp hplain
    have hnext := h.eval ⟨call, hcall, rfl⟩ answers_exampleReply
    obtain ⟨tasks', hrun⟩ := ih hnext hcalls
    rw [List.length_append] at hrun
    exact ⟨tasks', hrun⟩

/-- A lane is opened and read through: seven events. -/
theorem reads_mirrored_exampleRouter :
    let s := exampleRun exampleReply 0 (.init [directEndpoint "s"]) [exampleOpenLane, exampleReadText]
    s.log.length = 7 ∧ Throughout Justified s.log := by
  have hplain : ∀ call ∈ [exampleOpenLane, exampleReadText], call.PlainBody := by
    simp [exampleOpenLane, exampleReadText, ReadLaneCall.PlainBody]
  obtain ⟨tasks, hrun⟩ := reachable_exampleRun .refl hplain
  exact ⟨by decide +kernel, (reads_mirrored exampleRouter [directEndpoint "s"] hrun).1⟩

end VeraMesh
