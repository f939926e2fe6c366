import VeraMesh.Gateway.Routing

/-!
# What a call does to the recorded lanes

A call of the controller only drops a recorded lane, records one again with other mirrors and another
expiry, or records one under a fence that it has just allocated. A property of the recorded lanes that
these three keep holds in every state that a run reaches.

## Main results

* `LaneInvariant.call`: a call keeps the property.
-/

namespace VeraMesh.Gateway

namespace Controller

/-- The two states record the same lanes, in the same epoch. -/
structure SameLanes (c c' : Controller) : Prop where
  readLanes : c'.readLanes = c.readLanes
  fenceEpoch : c'.fenceEpoch = c.fenceEpoch

/-- `I` is a property of the recorded lanes and the epoch that says `Q` of every recorded lane. -/
structure LaneInvariant (I : Controller → Prop) (Q : LogicalReadLane → Prop) : Prop where
  congr : ∀ {c c'}, I c → SameLanes c c' → I c'
  erase : ∀ {c c' laneID}, I c → c'.readLanes = c.readLanes.erase laneID →
    c'.fenceEpoch = c.fenceEpoch → I c'
  setLane : ∀ {c lane}, I c → Q lane → I (c.setLane lane)
  of_get : ∀ {c laneID lane}, I c → c.readLanes.get? laneID = some lane → Q lane
  stable : ∀ {lane lane' : LogicalReadLane}, Q lane → lane'.laneID = lane.laneID →
    lane'.fence = lane.fence → Q lane'

variable {w : World} {c c' c'' : Controller}

/-! ## Requests and paths -/

namespace SameLanes

theorem refl (c : Controller) : SameLanes c c := ⟨rfl, rfl⟩

theorem trans (h : SameLanes c c') (h' : SameLanes c' c'') : SameLanes c c'' :=
  ⟨h'.readLanes.trans h.readLanes, h'.fenceEpoch.trans h.fenceEpoch⟩

theorem sendFor (c : Controller) (client : Client) (operation : String) (body : GoMap)
    (label : String) : SameLanes c (c.sendFor w client operation body label).2 := ⟨rfl, rfl⟩

theorem invalidate (c : Controller) (client : Client) : SameLanes c (c.invalidate client) :=
  ⟨rfl, rfl⟩

theorem qualifyDataPlane (c : Controller) (client : Client) :
    SameLanes c (c.qualifyDataPlane w client).2 := ⟨rfl, rfl⟩

theorem connect (c : Controller) (nowMS : ℤ) (ep : Endpoint) :
    SameLanes c (c.connect w nowMS ep).2 := by
  unfold Controller.connect
  split
  next => exact ⟨rfl, rfl⟩
  next binding _ =>
    have hq := qualifyDataPlane (w := w) c.tick ⟨c.counter, binding⟩
    dsimp only
    split
    next hres =>
      rw [hres] at hq
      exact ⟨hq.readLanes, hq.fenceEpoch⟩
    next hres =>
      rw [hres] at hq
      exact ⟨hq.readLanes, hq.fenceEpoch⟩

theorem refreshPath (c : Controller) (nowMS : ℤ) (ep : Endpoint) :
    SameLanes c (c.refreshPath w nowMS ep).2 := by
  unfold Controller.refreshPath
  split
  next => exact connect c nowMS ep
  next current _ =>
    split_ifs
    · have hc := connect (w := w) { c with paths := c.paths.erase ep.endpointID } nowMS ep
      exact ⟨hc.readLanes, hc.fenceEpoch⟩
    · exact refl c
    · have hq := qualifyDataPlane (w := w) c current.client
      split
      next hres =>
        rw [hres] at hq
        exact ⟨hq.readLanes, hq.fenceEpoch⟩
      next c₁ hres =>
        rw [hres] at hq
        have hc := connect (w := w) { c₁ with paths := c₁.paths.erase ep.endpointID } nowMS ep
        exact hq.trans ⟨hc.readLanes, hc.fenceEpoch⟩

theorem refreshPaths (nowMS : ℤ) (eps : List Endpoint) (c : Controller) :
    SameLanes c (refreshPaths w nowMS eps c).2 := by
  induction eps generalizing c with
  | nil => exact refl c
  | cons ep eps ih => exact (refreshPath c nowMS ep).trans (ih _)

theorem ensurePaths (c : Controller) : SameLanes c (c.ensurePaths w).2 := by
  have hp := refreshPaths (w := w) (w.now c.counter) c.cfg.endpoints c.tick
  unfold Controller.ensurePaths
  simp only [readClock]
  split <;> exact ⟨hp.readLanes, hp.fenceEpoch⟩

theorem laneActive (c : Controller) (laneID : String) :
    SameLanes c (c.laneActive w laneID).2 := by
  unfold Controller.laneActive
  split <;> exact ⟨rfl, rfl⟩

end SameLanes

theorem readLanes_allocateFence (c : Controller) :
    (c.allocateFence w).2.readLanes = c.readLanes := by
  unfold allocateFence
  by_cases hepoch : c.fenceEpoch ≠ 0
  · simp only [if_pos hepoch]
    split_ifs <;> rfl
  · simp only [if_neg hepoch]
    cases w.epoch c.counter with
    | error err => rfl
    | ok raw =>
      dsimp only
      split_ifs <;> rfl

/-! ## The steps of a call -/

namespace LaneInvariant

variable {I : Controller → Prop} {Q : LogicalReadLane → Prop}

/-- `requireLogicalReadLane` keeps the property, and says `Q` of the lane that it finds. -/
theorem require (hI : LaneInvariant I Q) (h : I c) (laneID : String) (fence : ℤ) :
    I (c.requireLogicalReadLane w laneID fence).2 ∧
      ∀ lane, (c.requireLogicalReadLane w laneID fence).1 = .ok lane → Q lane := by
  unfold requireLogicalReadLane
  cases hget : c.readLanes.get? laneID with
  | none => exact ⟨h, nofun⟩
  | some lane =>
    dsimp only
    split_ifs with hfence hexpired
    · exact ⟨h, nofun⟩
    · exact ⟨hI.erase h rfl rfl, nofun⟩
    · refine ⟨hI.congr h ⟨rfl, rfl⟩, fun found hfound => ?_⟩
      injection hfound with hfound
      exact hfound ▸ hI.of_get h hget

theorem openOnPaths (hI : LaneInvariant I Q) {body : GoMap} {lane : LogicalReadLane} (hQ : Q lane)
    (paths : List LivePath) (errs : List GoError) (h : I c) :
    I (openOnPaths w body lane paths errs c).2 := by
  induction paths generalizing errs c with
  | nil => exact h
  | cons path paths ih =>
    have hsend := hI.congr h (SameLanes.sendFor (w := w) c path.client "lane.open" body "logical-open")
    unfold Controller.openOnPaths
    split
    next hres =>
      rw [hres] at hsend
      exact ih _ (hI.congr hsend (SameLanes.invalidate _ _))
    next hres =>
      rw [hres] at hsend
      split
      · exact hsend
      · split
        · exact hsend
        · exact hI.setLane hsend (hI.stable hQ rfl rfl)

/-- A lane is recorded under a fence that the call has just allocated. -/
theorem openLogicalReadLane (hI : LaneInvariant I Q) {body : GoMap}
    (halloc : ∀ c : Controller, I c → I (c.allocateFence w).2 ∧
      ∀ fence, (c.allocateFence w).1 = .ok fence → ∀ lane : LogicalReadLane,
        body.index "lane_id" = .str lane.laneID → lane.fence = fence → Q lane) (h : I c) :
    I (c.openLogicalReadLane w body).2 := by
  have hpaths := hI.congr h (SameLanes.ensurePaths (w := w) c)
  unfold Controller.openLogicalReadLane
  split
  next hres =>
    rw [hres] at hpaths
    exact hpaths
  next paths c₁ hres =>
    rw [hres] at hpaths
    dsimp only
    split_ifs with hempty
    · exact hpaths
    · have hlaneID : body.index "lane_id" = .str (body.index "lane_id").asString := by
        cases hv : body.index "lane_id" <;> simp_all [GoValue.asString, GoValue.asString?]
      split
      · exact hpaths
      · exact hpaths
      · have hactive := hI.congr hpaths
          (SameLanes.laneActive (w := w) c₁ (body.index "lane_id").asString)
        split
        next hact =>
          rw [hact] at hactive
          exact hactive
        next c₂ hact =>
          rw [hact] at hactive
          obtain ⟨hkeep, hfresh⟩ := halloc c₂ hactive
          split
          next hdraw =>
            rw [hdraw] at hkeep
            exact hkeep
          next fence c₃ hdraw =>
            rw [hdraw] at hkeep hfresh
            exact hI.openOnPaths (hfresh fence rfl _ hlaneID rfl) paths []
              (hI.congr hkeep ⟨rfl, rfl⟩)

theorem ensureMirror (hI : LaneInvariant I Q) (h : I c) {lane : LogicalReadLane} (hQ : Q lane)
    (path : LivePath) :
    I (c.ensureMirror w lane path).2.2 ∧ Q (c.ensureMirror w lane path).2.1 := by
  unfold Controller.ensureMirror
  dsimp only
  split
  · exact ⟨h, hQ⟩
  · have hclock : I (c.readClock w).2 := hI.congr h ⟨rfl, rfl⟩
    split_ifs
    · exact ⟨hclock, hQ⟩
    · have hsend := hI.congr hclock (SameLanes.sendFor (w := w) (c.readClock w).2 path.client
        "lane.open" (mirrorBody lane (wrapInt64 (lane.expiresAtMS - (c.readClock w).1)))
        "logical-mirror")
      split
      next hres =>
        rw [hres] at hsend
        exact ⟨hI.congr hsend (SameLanes.invalidate _ _), hQ⟩
      next hres =>
        rw [hres] at hsend
        split
        · exact ⟨hsend, hQ⟩
        · split
          · exact ⟨hsend, hQ⟩
          · exact ⟨hsend, hI.stable hQ rfl rfl⟩

theorem readOnPaths (hI : LaneInvariant I Q) {operation : String} {body : GoMap}
    (paths : List LivePath) (errs : List GoError) {lane : LogicalReadLane} (hQ : Q lane) (h : I c) :
    I (readOnPaths w operation body paths errs lane c).2 := by
  induction paths generalizing errs lane c with
  | nil => exact hI.setLane h hQ
  | cons path paths ih =>
    obtain ⟨hmirror, hlane⟩ := hI.ensureMirror (w := w) h hQ path
    unfold Controller.readOnPaths
    split
    next hres =>
      rw [hres] at hmirror hlane
      exact ih _ hlane hmirror
    next fence lane₁ c₁ hres =>
      rw [hres] at hmirror hlane
      have hsend := hI.congr hmirror (SameLanes.sendFor (w := w) c₁ path.client operation
        (body.set "fencing_token" (.int fence)) "logical-read")
      dsimp only
      split
      next hans =>
        rw [hans] at hsend
        exact ih _ hlane (hI.congr hsend (SameLanes.invalidate _ _))
      next hans =>
        rw [hans] at hsend
        exact hI.setLane hsend hlane

theorem callLogicalRead (hI : LaneInvariant I Q) {operation laneID : String} {fence : ℤ}
    {body : GoMap} (h : I c) : I (c.callLogicalRead w operation laneID fence body).2 := by
  have hpaths := hI.congr h (SameLanes.ensurePaths (w := w) c)
  unfold Controller.callLogicalRead
  split
  next hres =>
    rw [hres] at hpaths
    exact hpaths
  next paths c₁ hres =>
    rw [hres] at hpaths
    obtain ⟨hreq, hQ⟩ := hI.require (w := w) hpaths laneID fence
    split
    next hfound =>
      rw [hfound] at hreq
      exact hreq
    next hfound =>
      rw [hfound] at hreq hQ
      exact hI.readOnPaths paths [] (hQ _ rfl) hreq

theorem renewMirrors (hI : LaneInvariant I Q) (paths : List LivePath) (ttl : Float64)
    (ids : List String) (lane : LogicalReadLane) (hQ : Q lane) (h : I c) :
    I (renewMirrors w paths ttl ids lane c).2 ∧ Q (renewMirrors w paths ttl ids lane c).1 := by
  induction ids generalizing lane c with
  | nil => exact ⟨h, hQ⟩
  | cons endpointID ids ih =>
    have hdropped : Q { lane with mirrors := lane.mirrors.erase endpointID } :=
      hI.stable hQ rfl rfl
    unfold Controller.renewMirrors
    dsimp only
    split
    · exact ih _ hQ h
    next mirror _ =>
      split
      · exact ih _ hdropped h
      next path _ =>
        have hsend := hI.congr h (SameLanes.sendFor (w := w) c path.client "lane.renew"
          (.ofList [("lane_id", .str lane.laneID), ("fencing_token", .int mirror.fence),
            ("ttl_s", .float ttl)]) "logical-renew")
        split
        next hres =>
          rw [hres] at hsend
          exact ih _ hdropped (hI.congr hsend (SameLanes.invalidate _ _))
        next hres =>
          rw [hres] at hsend
          split
          · exact ih _ hQ hsend
          · exact ih _ hdropped hsend

theorem renewLogicalReadLane (hI : LaneInvariant I Q) {laneID : String} {fence : ℤ} {body : GoMap}
    (h : I c) : I (c.renewLogicalReadLane w laneID fence body).2 := by
  have hpaths := hI.congr h (SameLanes.ensurePaths (w := w) c)
  unfold Controller.renewLogicalReadLane
  split
  next hres =>
    rw [hres] at hpaths
    exact hpaths
  next paths c₁ hres =>
    rw [hres] at hpaths
    split
    · exact hpaths
    next ttl _ =>
      obtain ⟨hreq, hQ⟩ := hI.require (w := w) hpaths laneID fence
      split
      next hfound =>
        rw [hfound] at hreq
        exact hreq
      next lane c₂ hfound =>
        rw [hfound] at hreq hQ
        have hclock : I (c₂.readClock w).2.tick := hI.congr hreq ⟨rfl, rfl⟩
        have hrenewed := hI.renewMirrors (w := w) paths ttl
          (w.mapOrder (c₂.readClock w).2.counter lane.mirrors.keys)
          { lane with expiresAtMS := wrapInt64 ((c₂.readClock w).1 + toInt64 (ttl.scale 1000)) }
          (hI.stable (hQ lane rfl) rfl rfl) hclock
        exact hI.setLane hrenewed.1 hrenewed.2

theorem closeMirrors (hI : LaneInvariant I Q) (paths : List LivePath) (ids : List String)
    (errs : List GoError) {lane : LogicalReadLane} (hQ : Q lane) (h : I c) :
    I (closeMirrors w paths ids errs lane c).2.2 ∧
      Q (closeMirrors w paths ids errs lane c).2.1 := by
  induction ids generalizing errs lane c with
  | nil => exact ⟨h, hQ⟩
  | cons endpointID ids ih =>
    unfold Controller.closeMirrors
    dsimp only
    split
    · exact ih errs hQ h
    next mirror _ =>
      split
      · exact ih _ hQ h
      next path _ =>
        have hsend := hI.congr h (SameLanes.sendFor (w := w) c path.client "lane.close"
          (.ofList [("lane_id", .str lane.laneID), ("fencing_token", .int mirror.fence)])
          "logical-close")
        split
        next hres =>
          rw [hres] at hsend
          exact ih _ hQ (hI.congr hsend (SameLanes.invalidate _ _))
        next hres =>
          rw [hres] at hsend
          split
          · exact ih _ hQ hsend
          · exact ih _ (hI.stable hQ rfl rfl) hsend

theorem closeLogicalReadLane (hI : LaneInvariant I Q) {laneID : String} {fence : ℤ} (h : I c) :
    I (c.closeLogicalReadLane w laneID fence).2 := by
  have hpaths := hI.congr h (SameLanes.ensurePaths (w := w) c)
  obtain ⟨hreq, hQ⟩ := hI.require (w := w) hpaths laneID fence
  unfold Controller.closeLogicalReadLane
  dsimp only
  split
  next hfound =>
    rw [hfound] at hreq
    exact hreq
  next lane c₂ hfound =>
    rw [hfound] at hreq hQ
    have hclock : I c₂.tick := hI.congr hreq ⟨rfl, rfl⟩
    have hclosed := fun paths => hI.closeMirrors (w := w) paths
      (w.mapOrder c₂.counter lane.mirrors.keys) [] (hQ lane rfl) hclock
    split
    · exact hI.erase (hclosed _).1 rfl rfl
    · exact hI.setLane (hclosed _).1 (hclosed _).2

theorem passThrough (hI : LaneInvariant I Q) {operation : String} {body : GoMap} (h : I c) :
    I (c.passThrough w operation body).2 := by
  have hpaths := hI.congr h (SameLanes.ensurePaths (w := w) c)
  unfold Controller.passThrough
  split
  next hres =>
    rw [hres] at hpaths
    exact hpaths
  next paths c₁ hres =>
    rw [hres] at hpaths
    split
    · exact hpaths
    next path _ =>
      have hsend := hI.congr hpaths (SameLanes.sendFor (w := w) c₁ path.client operation body "go")
      split
      next hans =>
        rw [hans] at hsend
        exact hI.congr hsend (SameLanes.invalidate _ _)
      next hans =>
        rw [hans] at hsend
        exact hsend

theorem hasLogicalReadLane (hI : LaneInvariant I Q) {laneID : String} {fence : ℤ} (h : I c) :
    I (c.hasLogicalReadLane w laneID fence).2 := by
  have hreq := (hI.require (w := w) h laneID fence).1
  unfold Controller.hasLogicalReadLane
  split
  next hfound =>
    rw [hfound] at hreq
    exact hreq
  next hfound =>
    rw [hfound] at hreq
    exact hreq

/-- **A call keeps the property**, if allocating a fence does, and if it holds of a lane under the
allocated fence and under the id that the call asks for. -/
theorem call (hI : LaneInvariant I Q) {operation : String} {body : GoMap} (h : I c)
    (halloc : operation = "lane.open" → isReadOnlyLaneOpen body = true → ∀ c : Controller, I c →
      I (c.allocateFence w).2 ∧
        ∀ fence, (c.allocateFence w).1 = .ok fence → ∀ lane : LogicalReadLane,
          body.index "lane_id" = .str lane.laneID → lane.fence = fence → Q lane) :
    I (c.call w operation body).2 := by
  unfold Controller.call
  split
  · exact h
  · split
    · exact h
    · unfold route
      by_cases hopen : operation = "lane.open" ∧ isReadOnlyLaneOpen body = true
      · rw [if_pos hopen]
        exact hI.openLogicalReadLane (halloc hopen.1 hopen.2) h
      · rw [if_neg hopen]
        cases logicalLaneRef body with
        | none => exact hI.passThrough h
        | some ref =>
          dsimp only
          split_ifs
          · exact hI.renewLogicalReadLane h
          · exact hI.closeLogicalReadLane h
          · have hhas : I (c.hasLogicalReadLane w ref.1 ref.2).2 := hI.hasLogicalReadLane h
            split
            next hres =>
              rw [hres] at hhas
              exact hI.callLogicalRead hhas
            next hres =>
              rw [hres] at hhas
              exact hI.passThrough hhas
          · exact hI.passThrough h

theorem machineInfo (hI : LaneInvariant I Q) (h : I c) : I (c.machineInfo w).2 := by
  have hpaths := hI.congr h (SameLanes.ensurePaths (w := w) c)
  unfold Controller.machineInfo
  dsimp only
  split
  next hres =>
    rw [hres] at hpaths
    exact hpaths
  next hres =>
    rw [hres] at hpaths
    exact hpaths
  next hres =>
    rw [hres] at hpaths
    exact hI.congr hpaths ⟨rfl, rfl⟩

end LaneInvariant

end Controller

end VeraMesh.Gateway
