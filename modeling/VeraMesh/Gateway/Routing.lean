import VeraMesh.Gateway.Tools

/-!
# Where lane calls go

`Controller.call` takes every `lane.renew` and `lane.close` that names a lane to the logical read
lanes, also when the lane was opened by a request that was passed through and is none of them. The
workstation then never hears of it.

## Main results

* `routingInv_of_run`: what is recorded as a logical lane was opened for reading, and so was every
  lane that a `lane.renew` or `lane.close` was sent for.
* `routed_iff`: when a lane that the workstation granted can be renewed and closed through the
  controller, and that the facade never closes the lanes of its write and process tools.
-/

namespace VeraMesh.Gateway

/-- The operation of a request that was sent. -/
def Sent.operation (s : Sent) : String := (s.request.index "operation").asString

namespace Controller

/-! ## What a run of the controller leaves in its trace -/

/-- A `lane.open` for reading only was sent for the lane. -/
def ReadOpened (c : Controller) (laneID : String) : Prop :=
  ∃ s ∈ c.trace, s.operation = "lane.open" ∧ s.request.index "lane_id" = .str laneID ∧
    isReadOnlyLaneOpen s.request = true

/-- The workstation granted the lane, under the fence. -/
def Granted (c : Controller) (laneID : String) (fence : ℤ) : Prop :=
  ∃ s ∈ c.trace, s.operation = "lane.open" ∧ s.request.index "lane_id" = .str laneID ∧
    ∃ response, s.answer = .ok response ∧ (response.index "ok").isTrue = true ∧
      grantedFence response = some fence

/-- The workstation closed the lane. -/
def Closed (c : Controller) (laneID : String) : Prop :=
  ∃ s ∈ c.trace, s.operation = "lane.close" ∧
    (∃ fence, logicalLaneRef s.request = some (laneID, fence)) ∧
    ∃ response, s.answer = .ok response ∧ (response.index "ok").isTrue = true

/-- The operation ends or prolongs a lane. -/
def EndsLane (operation : String) : Prop := operation = "lane.renew" ∨ operation = "lane.close"

/-- Only lanes opened for reading are recorded, and only such lanes are renewed or closed on the
workstation. -/
structure RoutingInv (c : Controller) : Prop where
  recorded : ∀ laneID lane, c.readLanes.get? laneID = some lane →
    lane.laneID = laneID ∧ ReadOpened c laneID
  ended : ∀ s ∈ c.trace, EndsLane s.operation →
    ∀ laneID fence, logicalLaneRef s.request = some (laneID, fence) → ReadOpened c laneID

/-- The state holds the invariant, and `lane` was opened for reading. -/
structure Active (c : Controller) (lane : LogicalReadLane) : Prop where
  inv : RoutingInv c
  opened : ReadOpened c lane.laneID

/-- What may be sent in a state that holds the invariant. -/
def Harmless (c : Controller) (operation : String) (body : GoMap) : Prop :=
  EndsLane operation →
    ∀ laneID fence, logicalLaneRef body = some (laneID, fence) → ReadOpened c laneID

/-- `c'` comes from `c` by sending nothing but probes, and records the same lanes. -/
structure Probes (c c' : Controller) : Prop where
  readLanes : c'.readLanes = c.readLanes
  sent : ∃ probes, c'.trace = c.trace ++ probes ∧ ∀ s ∈ probes, s.operation = "lane.list"

variable {w : World} {c c' c'' : Controller}

theorem ReadOpened.mono {laneID : String} (h : c.trace <+: c'.trace) (ho : ReadOpened c laneID) :
    ReadOpened c' laneID := by
  obtain ⟨s, hs, hopen⟩ := ho
  exact ⟨s, h.subset hs, hopen⟩

/-! ## Requests -/

section Requests

theorem get?_requestFor (operation : String) (body : GoMap) (label key : String)
    (h : key ∉ reservedFields) :
    (c.requestFor w operation body label).1.get? key = body.get? key := by
  have hne : key ≠ "protocol_version" ∧ key ≠ "request_id" ∧ key ≠ "operation" := by
    simpa [reservedFields] using h
  have hhead : ∀ requestID, (Dict.ofList [("protocol_version", GoValue.str "veraport-v1"),
      ("request_id", .str requestID), ("operation", .str operation)]).get? key = none := by
    intro requestID
    simp [Dict.ofList, Dict.get?_set, hne]
  refine Option.ext fun v => ?_
  rw [requestFor, Dict.get?_update, hhead, Option.or_none, Dict.get?_filter]
  simp [hne]

theorem index_requestFor (operation : String) (body : GoMap) (label key : String)
    (h : key ∉ reservedFields) :
    (c.requestFor w operation body label).1.index key = body.index key := by
  rw [GoMap.index, get?_requestFor operation body label key h, GoMap.index]

theorem operation_requestFor (operation : String) (body : GoMap) (label : String) :
    (c.requestFor w operation body label).1.index "operation" = .str operation := by
  have hbody : (body.filter fun key _ => key != "protocol_version" && key != "request_id" &&
      key != "operation").get? "operation" = none := by
    refine Option.eq_none_iff_forall_ne_some.mpr fun v hv => ?_
    simpa using (Dict.get?_filter.mp hv).2
  rw [requestFor, GoMap.index, Dict.get?_update, hbody, Option.none_or]
  simp [Dict.ofList]

theorem logicalLaneRef_requestFor (operation : String) (body : GoMap) (label : String) :
    logicalLaneRef (c.requestFor w operation body label).1 = logicalLaneRef body := by
  have hlane := index_requestFor (w := w) (c := c) operation body label "lane_id" (by decide)
  have hfence := index_requestFor (w := w) (c := c) operation body label "fencing_token" (by decide)
  simp only [logicalLaneRef, hlane, hfence]

theorem isReadOnlyLaneOpen_requestFor (operation : String) (body : GoMap) (label : String) :
    isReadOnlyLaneOpen (c.requestFor w operation body label).1 = isReadOnlyLaneOpen body := by
  have hcaps := index_requestFor (w := w) (c := c) operation body label "capabilities" (by decide)
  have hclaims := index_requestFor (w := w) (c := c) operation body label "claims" (by decide)
  simp only [isReadOnlyLaneOpen, hcaps, hclaims]

/-- Sending a request adds it to the trace, and changes nothing that a lane call depends on. -/
theorem sendFor_eq (c : Controller) (client : Client) (operation : String) (body : GoMap)
    (label : String) :
    ∃ s : Sent, (c.sendFor w client operation body label).2.trace = c.trace ++ [s] ∧
      (c.sendFor w client operation body label).2.readLanes = c.readLanes ∧
      s.answer = (c.sendFor w client operation body label).1 ∧ s.operation = operation ∧
      s.request.index "lane_id" = body.index "lane_id" ∧
      logicalLaneRef s.request = logicalLaneRef body ∧
      isReadOnlyLaneOpen s.request = isReadOnlyLaneOpen body := by
  refine ⟨_, rfl, rfl, rfl, ?_, ?_, ?_, ?_⟩
  · show ((c.requestFor w operation body label).1.index "operation").asString = operation
    rw [operation_requestFor]
    rfl
  · exact index_requestFor operation body label "lane_id" (by decide)
  · exact logicalLaneRef_requestFor operation body label
  · exact isReadOnlyLaneOpen_requestFor operation body label

end Requests

/-! ## Looking for paths only sends probes -/

section Paths

theorem Probes.refl (c : Controller) : Probes c c := ⟨rfl, [], by simp⟩

theorem Probes.trans (h : Probes c c') (h' : Probes c' c'') : Probes c c'' := by
  obtain ⟨sent, ht, hs⟩ := h.sent
  obtain ⟨sent', ht', hs'⟩ := h'.sent
  refine ⟨h'.readLanes.trans h.readLanes, sent ++ sent', ?_, ?_⟩
  · rw [ht', ht, List.append_assoc]
  · simpa only [List.forall_mem_append] using ⟨hs, hs'⟩

theorem probes_qualifyDataPlane (c : Controller) (client : Client) :
    Probes c (c.qualifyDataPlane w client).2 := by
  obtain ⟨s, ht, hr, -, hop, -⟩ := sendFor_eq (w := w) c client "lane.list" .empty "probe"
  exact ⟨hr, [s], ht, by simpa using hop⟩

theorem probes_connect (c : Controller) (nowMS : ℤ) (ep : Endpoint) :
    Probes c (c.connect w nowMS ep).2 := by
  unfold connect
  split
  next => exact ⟨rfl, [], by simp [tick]⟩
  next binding _ =>
    have hq := probes_qualifyDataPlane (w := w) c.tick ⟨c.counter, binding⟩
    dsimp only
    split
    next hres =>
      rw [hres] at hq
      exact ⟨hq.readLanes, hq.sent⟩
    next hres =>
      rw [hres] at hq
      exact ⟨hq.readLanes, hq.sent⟩

theorem probes_refreshPath (c : Controller) (nowMS : ℤ) (ep : Endpoint) :
    Probes c (c.refreshPath w nowMS ep).2 := by
  unfold refreshPath
  split
  next => exact probes_connect c nowMS ep
  next current _ =>
    split_ifs
    · have hc := probes_connect (w := w) { c with paths := c.paths.erase ep.endpointID } nowMS ep
      exact ⟨hc.readLanes, hc.sent⟩
    · exact Probes.refl c
    · have hq := probes_qualifyDataPlane (w := w) c current.client
      split
      next hres =>
        rw [hres] at hq
        exact ⟨hq.readLanes, hq.sent⟩
      next c₁ hres =>
        rw [hres] at hq
        have hc := probes_connect (w := w) { c₁ with paths := c₁.paths.erase ep.endpointID } nowMS ep
        exact hq.trans ⟨hc.readLanes, hc.sent⟩

theorem probes_refreshPaths (nowMS : ℤ) (eps : List Endpoint) (c : Controller) :
    Probes c (refreshPaths w nowMS eps c).2 := by
  induction eps generalizing c with
  | nil => exact Probes.refl c
  | cons ep eps ih => exact (probes_refreshPath c nowMS ep).trans (ih _)

/-- `ensurePaths` sends probes and leaves the recorded lanes alone. -/
theorem probes_ensurePaths (c : Controller) : Probes c (c.ensurePaths w).2 := by
  have hp := probes_refreshPaths (w := w) (w.now c.counter) c.cfg.endpoints c.tick
  unfold ensurePaths
  simp only [readClock]
  split <;> exact ⟨hp.readLanes, hp.sent⟩

end Paths

/-! ## The invariant and the steps a call is made of -/

section Invariant

theorem routingInv_create (cfg : Config) (raw : Fin (2 ^ 32)) : RoutingInv (create cfg raw) := by
  refine ⟨fun laneID lane h => ?_, fun s hs => ?_⟩
  · simp [create] at h
  · simp [create] at hs

/-- The invariant depends on the recorded lanes and on the trace only. -/
theorem RoutingInv.congr (h : RoutingInv c) (hr : c'.readLanes = c.readLanes)
    (ht : c'.trace = c.trace) : RoutingInv c' := by
  refine ⟨fun laneID lane hl => ?_, fun s hs hop laneID fence href => ?_⟩
  · rw [hr] at hl
    exact ⟨(h.recorded laneID lane hl).1, (h.recorded laneID lane hl).2.mono (by rw [ht])⟩
  · rw [ht] at hs
    exact (h.ended s hs hop laneID fence href).mono (by rw [ht])

theorem RoutingInv.probes (h : RoutingInv c) (hp : Probes c c') : RoutingInv c' := by
  obtain ⟨probes, ht, hlist⟩ := hp.sent
  have hpre : c.trace <+: c'.trace := ⟨probes, ht.symm⟩
  refine ⟨fun laneID lane hl => ?_, fun s hs hop laneID fence href => ?_⟩
  · rw [hp.readLanes] at hl
    exact ⟨(h.recorded laneID lane hl).1, (h.recorded laneID lane hl).2.mono hpre⟩
  · rw [ht, List.mem_append] at hs
    rcases hs with hold | hnew
    · exact (h.ended s hold hop laneID fence href).mono hpre
    · rw [EndsLane, hlist s hnew] at hop
      exact absurd hop (by decide)

theorem RoutingInv.sendFor (h : RoutingInv c) {client : Client} {operation label : String}
    {body : GoMap} {answer : Except GoError GoMap} (hs : Harmless c operation body)
    (hres : c.sendFor w client operation body label = (answer, c')) : RoutingInv c' := by
  obtain ⟨s, ht, hr, -, hop, -, href, -⟩ := sendFor_eq (w := w) c client operation body label
  rw [hres] at ht hr
  have hpre : c.trace <+: c'.trace := ⟨[s], ht.symm⟩
  refine ⟨fun laneID lane hl => ?_, fun s' hs' hends laneID fence href' => ?_⟩
  · rw [hr] at hl
    exact ⟨(h.recorded laneID lane hl).1, (h.recorded laneID lane hl).2.mono hpre⟩
  · rw [ht, List.mem_append, List.mem_singleton] at hs'
    rcases hs' with hold | rfl
    · exact (h.ended s' hold hends laneID fence href').mono hpre
    · exact (hs (hop ▸ hends) laneID fence (href ▸ href')).mono hpre

theorem RoutingInv.erase (h : RoutingInv c) (laneID : String) :
    RoutingInv { c with readLanes := c.readLanes.erase laneID } := by
  refine ⟨fun laneID' lane hl => ?_, h.ended⟩
  have hold : c.readLanes.get? laneID' = some lane := (Dict.get?_filter.mp hl).1
  exact h.recorded laneID' lane hold

theorem Active.setLane {lane : LogicalReadLane} (h : Active c lane) :
    RoutingInv (c.setLane lane) := by
  refine ⟨fun laneID lane' hl => ?_, h.inv.ended⟩
  have hget : (c.readLanes.set lane.laneID lane).get? laneID = some lane' := hl
  rw [Dict.get?_set] at hget
  split_ifs at hget with heq
  · injection hget with hlane
    exact ⟨by rw [← hlane, heq], heq ▸ h.opened⟩
  · exact h.inv.recorded laneID lane' hget

theorem Active.sendFor {lane : LogicalReadLane} (h : Active c lane) {client : Client}
    {operation label : String} {body : GoMap} {answer : Except GoError GoMap}
    (hs : Harmless c operation body)
    (hres : c.sendFor w client operation body label = (answer, c')) : Active c' lane := by
  obtain ⟨s, ht, -⟩ := sendFor_eq (w := w) c client operation body label
  rw [hres] at ht
  exact ⟨h.inv.sendFor hs hres, h.opened.mono ⟨[s], ht.symm⟩⟩

theorem Active.congr {lane lane' : LogicalReadLane} (h : Active c lane)
    (hr : c'.readLanes = c.readLanes) (ht : c'.trace = c.trace) (hl : lane'.laneID = lane.laneID) :
    Active c' lane' :=
  ⟨h.inv.congr hr ht, hl ▸ h.opened.mono (by rw [ht])⟩

/-- A request that names the active lane is harmless, whatever it asks for. -/
theorem Active.harmless {lane : LogicalReadLane} (h : Active c lane) {body : GoMap}
    (hb : body.index "lane_id" = .str lane.laneID) (operation : String) :
    Harmless c operation body := by
  intro _ laneID fence href
  have hlane : laneID = lane.laneID := by
    rw [logicalLaneRef, hb] at href
    simp only [GoValue.asString?] at href
    split_ifs at href
    obtain ⟨f, -, hpair⟩ := Option.map_eq_some_iff.mp href
    exact (congrArg Prod.fst hpair).symm
  exact hlane ▸ h.opened

theorem harmless_of_not_endsLane {operation : String} (h : ¬EndsLane operation) (body : GoMap) :
    Harmless c operation body :=
  fun hends => absurd hends h

end Invariant

/-! ## Every call keeps the invariant -/

section Calls

theorem RoutingInv.ensurePaths (h : RoutingInv c) {paths : Except GoError (List LivePath)}
    (hres : c.ensurePaths w = (paths, c')) : RoutingInv c' := by
  have hp := probes_ensurePaths (w := w) c
  rw [hres] at hp
  exact h.probes hp

/-- Whatever `requireLogicalReadLane` answers, it at most reads the clock and drops an expired
lane; a lane it finds is the recorded one. -/
theorem requireLogicalReadLane_cases (laneID : String) (fence : ℤ) :
    (∃ err c', c.requireLogicalReadLane w laneID fence = (.error err, c') ∧ c'.trace = c.trace ∧
      (c'.readLanes = c.readLanes ∨ c'.readLanes = c.readLanes.erase laneID)) ∨
    ∃ lane, c.requireLogicalReadLane w laneID fence = (.ok lane, c.tick) ∧
      c.readLanes.get? laneID = some lane := by
  unfold requireLogicalReadLane
  cases hget : c.readLanes.get? laneID with
  | none => exact Or.inl ⟨_, _, rfl, rfl, Or.inl rfl⟩
  | some lane =>
    by_cases hf : lane.fence ≠ fence
    · exact Or.inl ⟨_, _, if_pos hf, rfl, Or.inl rfl⟩
    · simp only [if_neg hf, readClock]
      by_cases hexp : lane.expiresAtMS ≤ w.now c.counter
      · exact Or.inl ⟨_, _, if_pos hexp, rfl, Or.inr rfl⟩
      · exact Or.inr ⟨lane, if_neg hexp, rfl⟩

theorem RoutingInv.require_error (h : RoutingInv c) {laneID : String} {fence : ℤ} {err : GoError}
    (hr : c.requireLogicalReadLane w laneID fence = (.error err, c')) : RoutingInv c' := by
  rcases requireLogicalReadLane_cases (w := w) (c := c) laneID fence with
    ⟨err', c₁, heq, ht, hkeep | hdrop⟩ | ⟨lane, heq, -⟩
  · rw [heq] at hr
    obtain ⟨-, rfl⟩ := Prod.mk.inj hr
    exact h.congr hkeep ht
  · rw [heq] at hr
    obtain ⟨-, rfl⟩ := Prod.mk.inj hr
    exact (h.erase laneID).congr hdrop ht
  · rw [heq] at hr
    cases hr

theorem RoutingInv.require_ok (h : RoutingInv c) {laneID : String} {fence : ℤ}
    {lane : LogicalReadLane} (hr : c.requireLogicalReadLane w laneID fence = (.ok lane, c')) :
    Active c' lane := by
  rcases requireLogicalReadLane_cases (w := w) (c := c) laneID fence with
    ⟨err, c₁, heq, -⟩ | ⟨found, heq, hget⟩
  · rw [heq] at hr
    cases hr
  · rw [heq] at hr
    obtain ⟨hlane, rfl⟩ := Prod.mk.inj hr
    injection hlane with hlane
    subst hlane
    obtain ⟨hid, hopen⟩ := h.recorded laneID found hget
    exact ⟨h.congr rfl rfl, hid ▸ hopen⟩

theorem RoutingInv.allocateFence (h : RoutingInv c) {fence : Except GoError ℤ}
    (hres : c.allocateFence w = (fence, c')) : RoutingInv c' := by
  have hsame : (c.allocateFence w).2.readLanes = c.readLanes ∧
      (c.allocateFence w).2.trace = c.trace := by
    unfold Controller.allocateFence
    by_cases he : c.fenceEpoch ≠ 0
    · simp only [if_pos he]
      split_ifs <;> exact ⟨rfl, rfl⟩
    · simp only [if_neg he]
      cases w.epoch c.counter with
      | error err => exact ⟨rfl, rfl⟩
      | ok raw =>
        dsimp only
        split_ifs <;> exact ⟨rfl, rfl⟩
  rw [hres] at hsame
  exact h.congr hsame.1 hsame.2

theorem RoutingInv.laneActive (h : RoutingInv c) {laneID : String} {active : Bool}
    (hres : c.laneActive w laneID = (active, c')) : RoutingInv c' := by
  have hsame : (c.laneActive w laneID).2.readLanes = c.readLanes ∧
      (c.laneActive w laneID).2.trace = c.trace := by
    unfold Controller.laneActive
    split <;> exact ⟨rfl, rfl⟩
  rw [hres] at hsame
  exact h.congr hsame.1 hsame.2

theorem not_endsLane_open : ¬EndsLane "lane.open" := by simp [EndsLane]

/-- The requests that `openLogicalReadLane` sends on the paths, one after another. -/
theorem RoutingInv.openOnPaths {body : GoMap} {lane : LogicalReadLane}
    (hb : body.index "lane_id" = .str lane.laneID) (hro : isReadOnlyLaneOpen body = true)
    (paths : List LivePath) (errs : List GoError) (h : RoutingInv c) :
    RoutingInv (openOnPaths w body lane paths errs c).2 := by
  induction paths generalizing errs c with
  | nil => exact h
  | cons path paths ih =>
    have hs : Harmless c "lane.open" body := harmless_of_not_endsLane not_endsLane_open body
    obtain ⟨s, ht, -, -, hop, hid, -, hopen⟩ :=
      sendFor_eq (w := w) c path.client "lane.open" body "logical-open"
    unfold Controller.openOnPaths
    split
    next hres => exact ih _ ((h.sendFor hs hres).congr rfl rfl)
    next hres =>
      rw [hres] at ht
      split
      · exact h.sendFor hs hres
      · split
        · exact h.sendFor hs hres
        · have hmem := List.mem_append_right c.trace (List.mem_singleton_self s)
          exact Active.setLane ⟨h.sendFor hs hres,
            ⟨s, ht ▸ hmem, hop, hid.trans hb, hopen.trans hro⟩⟩

theorem RoutingInv.openLogicalReadLane (h : RoutingInv c) {body : GoMap}
    (hro : isReadOnlyLaneOpen body = true) : RoutingInv (c.openLogicalReadLane w body).2 := by
  unfold Controller.openLogicalReadLane
  split
  next hpaths => exact h.ensurePaths hpaths
  next paths c₁ hpaths =>
    have h₁ := h.ensurePaths hpaths
    dsimp only
    split_ifs with hempty
    · exact h₁
    · have hlane : body.index "lane_id" = .str (body.index "lane_id").asString := by
        cases hv : body.index "lane_id" <;> simp_all [GoValue.asString, GoValue.asString?]
      split
      · exact h₁
      · exact h₁
      · split
        next hact => exact h₁.laneActive hact
        next c₂ hact =>
          split
          next hfence => exact (h₁.laneActive hact).allocateFence hfence
          next fence c₃ hfence =>
            have h₃ := (h₁.laneActive hact).allocateFence hfence
            exact RoutingInv.openOnPaths hlane hro paths [] (h₃.congr rfl rfl)

theorem Active.ensureMirror {lane lane' : LogicalReadLane} (h : Active c lane) {path : LivePath}
    {fence : Except GoError ℤ} (hres : c.ensureMirror w lane path = (fence, lane', c')) :
    Active c' lane' := by
  suffices hkey : Active (c.ensureMirror w lane path).2.2 (c.ensureMirror w lane path).2.1 by
    rw [hres] at hkey
    exact hkey
  unfold Controller.ensureMirror
  dsimp only
  split
  next => exact h
  next =>
    have h₁ : Active (c.readClock w).2 lane := h.congr rfl rfl rfl
    split
    · exact h₁
    · have hs : Harmless (c.readClock w).2 "lane.open"
          (mirrorBody lane (wrapInt64 (lane.expiresAtMS - (c.readClock w).1))) :=
        harmless_of_not_endsLane not_endsLane_open _
      split
      next hsend => exact (h₁.sendFor hs hsend).congr rfl rfl rfl
      next hsend =>
        have h₂ := h₁.sendFor hs hsend
        split
        · exact h₂
        · split
          · exact h₂
          · exact h₂.congr rfl rfl rfl

theorem Active.readOnPaths {operation : String} (hop : ¬EndsLane operation) {body : GoMap}
    (paths : List LivePath) (errs : List GoError) {lane : LogicalReadLane} (h : Active c lane) :
    RoutingInv (readOnPaths w operation body paths errs lane c).2 := by
  induction paths generalizing errs lane c with
  | nil => exact h.setLane
  | cons path paths ih =>
    unfold Controller.readOnPaths
    split
    next hm => exact ih _ (h.ensureMirror hm)
    next fence lane₁ c₁ hm =>
      have h₁ := h.ensureMirror hm
      have hs : Harmless c₁ operation (body.set "fencing_token" (.int fence)) :=
        harmless_of_not_endsLane hop _
      dsimp only
      split
      next hsend => exact ih _ ((h₁.sendFor hs hsend).congr rfl rfl rfl)
      next hsend => exact (h₁.sendFor hs hsend).setLane

theorem RoutingInv.callLogicalRead (h : RoutingInv c) {operation : String}
    (hop : ¬EndsLane operation) (laneID : String) (fence : ℤ) (body : GoMap) :
    RoutingInv (c.callLogicalRead w operation laneID fence body).2 := by
  unfold Controller.callLogicalRead
  split
  next hpaths => exact h.ensurePaths hpaths
  next paths c₁ hpaths =>
    have h₁ := h.ensurePaths hpaths
    split
    next hreq => exact h₁.require_error hreq
    next hreq => exact (h₁.require_ok hreq).readOnPaths hop paths []

/-- A request that names the active lane by its id. -/
theorem index_laneBody (laneID : String) (rest : List (String × GoValue))
    (h : ∀ e ∈ rest, e.1 ≠ "lane_id") :
    GoMap.index (.ofList (("lane_id", .str laneID) :: rest)) "lane_id" = .str laneID := by
  rw [GoMap.index, Dict.ofList, List.foldl_cons, Dict.get?_foldl_set_of_forall_ne h,
    Dict.get?_set_self]
  rfl

theorem Active.renewMirrors {paths : List LivePath} {ttl : Float64} (ids : List String)
    {lane : LogicalReadLane} (h : Active c lane) :
    Active (renewMirrors w paths ttl ids lane c).2 (renewMirrors w paths ttl ids lane c).1 := by
  induction ids generalizing lane c with
  | nil => exact h
  | cons endpointID ids ih =>
    unfold Controller.renewMirrors
    dsimp only
    split
    next => exact ih h
    next mirror _ =>
      split
      next => exact ih (h.congr rfl rfl rfl)
      next path _ =>
        have hs := h.harmless (index_laneBody lane.laneID [("fencing_token", .int mirror.fence),
          ("ttl_s", .float ttl)] (by simp)) "lane.renew"
        split
        next hsend => exact ih ((h.sendFor hs hsend).congr rfl rfl rfl)
        next hsend =>
          split
          · exact ih (h.sendFor hs hsend)
          · exact ih ((h.sendFor hs hsend).congr rfl rfl rfl)

theorem RoutingInv.renewLogicalReadLane (h : RoutingInv c) (laneID : String) (fence : ℤ)
    (body : GoMap) : RoutingInv (c.renewLogicalReadLane w laneID fence body).2 := by
  unfold Controller.renewLogicalReadLane
  split
  next hpaths => exact h.ensurePaths hpaths
  next paths c₁ hpaths =>
    have h₁ := h.ensurePaths hpaths
    split
    next => exact h₁
    next =>
      split
      next hreq => exact h₁.require_error hreq
      next lane c₂ hreq =>
        have h₂ := h₁.require_ok hreq
        have h₃ : ∀ expiresAtMS, Active c₂.tick.tick { lane with expiresAtMS } :=
          fun _ => h₂.congr rfl rfl rfl
        exact (Active.renewMirrors _ (h₃ _)).setLane

theorem Active.closeMirrors {paths : List LivePath} (ids : List String) (errs : List GoError)
    {lane : LogicalReadLane} (h : Active c lane) :
    Active (closeMirrors w paths ids errs lane c).2.2
      (closeMirrors w paths ids errs lane c).2.1 := by
  induction ids generalizing errs lane c with
  | nil => exact h
  | cons endpointID ids ih =>
    unfold Controller.closeMirrors
    split
    next => exact ih _ h
    next mirror _ =>
      split
      next => exact ih _ h
      next path _ =>
        have hs := h.harmless (index_laneBody lane.laneID [("fencing_token", .int mirror.fence)]
          (by simp)) "lane.close"
        dsimp only
        split
        next hsend => exact ih _ ((h.sendFor hs hsend).congr rfl rfl rfl)
        next hsend =>
          split
          · exact ih _ (h.sendFor hs hsend)
          · exact ih _ ((h.sendFor hs hsend).congr rfl rfl rfl)

theorem RoutingInv.closeLogicalReadLane (h : RoutingInv c) (laneID : String) (fence : ℤ) :
    RoutingInv (c.closeLogicalReadLane w laneID fence).2 := by
  have h₁ : RoutingInv (c.ensurePaths w).2 := h.ensurePaths rfl
  unfold Controller.closeLogicalReadLane
  dsimp only
  split
  next hreq => exact h₁.require_error hreq
  next lane c₂ hreq =>
    have h₂ : Active c₂.tick lane := (h₁.require_ok hreq).congr rfl rfl rfl
    split
    · exact (Active.closeMirrors _ [] h₂).inv.erase laneID
    · exact (Active.closeMirrors _ [] h₂).setLane

theorem RoutingInv.passThrough (h : RoutingInv c) {operation : String} {body : GoMap}
    (hs : ∀ c : Controller, Harmless c operation body) :
    RoutingInv (c.passThrough w operation body).2 := by
  unfold Controller.passThrough
  split
  next hpaths => exact h.ensurePaths hpaths
  next paths c₁ hpaths =>
    have h₁ := h.ensurePaths hpaths
    split
    next => exact h₁
    next =>
      split
      next hsend => exact (h₁.sendFor (hs c₁) hsend).congr rfl rfl
      next hsend => exact h₁.sendFor (hs c₁) hsend

theorem RoutingInv.hasLogicalReadLane (h : RoutingInv c) {laneID : String} {fence : ℤ}
    {found : Bool} (hres : c.hasLogicalReadLane w laneID fence = (found, c')) : RoutingInv c' := by
  unfold Controller.hasLogicalReadLane at hres
  split at hres
  next hreq =>
    obtain ⟨-, rfl⟩ := Prod.mk.inj hres
    exact (h.require_ok hreq).inv
  next hreq =>
    obtain ⟨-, rfl⟩ := Prod.mk.inj hres
    exact h.require_error hreq

theorem RoutingInv.route (h : RoutingInv c) (operation : String) (body : GoMap) :
    RoutingInv (c.route w operation body).2 := by
  unfold Controller.route
  by_cases hopen : operation = "lane.open" ∧ isReadOnlyLaneOpen body = true
  · rw [if_pos hopen]
    exact h.openLogicalReadLane hopen.2
  · rw [if_neg hopen]
    cases href : logicalLaneRef body with
    | none =>
      -- without a usable reference the request is passed through, and names no lane
      refine h.passThrough fun c _ laneID fence href' => ?_
      rw [href] at href'
      cases href'
    | some ref =>
      obtain ⟨laneID, fence⟩ := ref
      by_cases hends : EndsLane operation
      · rcases hends with rfl | rfl
        · exact h.renewLogicalReadLane laneID fence body
        · exact h.closeLogicalReadLane laneID fence
      · have hrenew : operation ≠ "lane.renew" := fun heq => hends (Or.inl heq)
        have hclose : operation ≠ "lane.close" := fun heq => hends (Or.inr heq)
        simp only [if_neg hrenew, if_neg hclose]
        split
        · split
          next hhas => exact (h.hasLogicalReadLane hhas).callLogicalRead hends laneID fence body
          next hhas =>
            exact (h.hasLogicalReadLane hhas).passThrough fun c =>
              harmless_of_not_endsLane hends body
        · exact h.passThrough fun c => harmless_of_not_endsLane hends body

/-- One call keeps the invariant, whatever it asks for. -/
theorem RoutingInv.call (h : RoutingInv c) (operation : String) (body : GoMap) :
    RoutingInv (c.call w operation body).2 := by
  unfold Controller.call
  split
  · exact h
  · split
    · exact h
    · exact h.route operation body

theorem RoutingInv.machineInfo (h : RoutingInv c) : RoutingInv (c.machineInfo w).2 := by
  unfold Controller.machineInfo
  dsimp only
  split
  next hpaths => exact h.ensurePaths hpaths
  next hpaths => exact h.ensurePaths hpaths
  next hpaths => exact (h.ensurePaths hpaths).congr rfl rfl

end Calls

/-! ## Runs -/

section Runs

/-- The controller after a run of calls. -/
def run (w : World) (c : Controller) (calls : List (String × GoMap)) : Controller :=
  calls.foldl (fun c call => (c.call w call.1 call.2).2) c

theorem routingInv_of_run (calls : List (String × GoMap)) (h : RoutingInv c) :
    RoutingInv (run w c calls) := by
  induction calls generalizing c with
  | nil => exact h
  | cons call calls ih => exact ih (h.call call.1 call.2)

/-- The call asks for the end or the prolongation of a lane that the workstation granted, and gives
the lane's fence. -/
def NamesGranted (c : Controller) (operation : String) (body : GoMap) (laneID : String) : Prop :=
  EndsLane operation ∧ ∃ fence, logicalLaneRef body = some (laneID, fence) ∧ Granted c laneID fence

/-- The call makes the controller send the operation for the lane. -/
def Forwarded (w : World) (c : Controller) (operation : String) (body : GoMap) (laneID : String) :
    Prop :=
  ∃ sent, (c.call w operation body).2.trace = c.trace ++ sent ∧
    ∃ s ∈ sent, s.operation = operation ∧ s.request.index "lane_id" = .str laneID

/-- The lane is one of the controller's logical read lanes. -/
def Recorded (c : Controller) (laneID : String) : Prop := ∃ lane, c.readLanes.get? laneID = some lane

/-- A call that names a granted lane is forwarded, or the lane is a logical read lane. -/
def Routed (w : World) (c : Controller) (operation : String) (body : GoMap) : Prop :=
  ∀ laneID, NamesGranted c operation body laneID →
    Forwarded w c operation body laneID ∨ Recorded c laneID

/-- A call that names a granted lane names a logical read lane. -/
def NamesLogicalOnly (c : Controller) (operation : String) (body : GoMap) : Prop :=
  ∀ laneID, NamesGranted c operation body laneID → Recorded c laneID

/-- The workstation has closed no lane that it granted, other than for reading. -/
def WorkLanesStayOpen (c : Controller) : Prop :=
  ∀ laneID fence, Granted c laneID fence → ¬ReadOpened c laneID → ¬Closed c laneID

theorem require_of_unrecorded {laneID : String} (h : ¬Recorded c laneID) (fence : ℤ) :
    c.requireLogicalReadLane w laneID fence =
      (.error ⟨"logical read lane not found: " ++ laneID, none⟩, c) := by
  have hget : c.readLanes.get? laneID = none :=
    Option.eq_none_iff_forall_ne_some.mpr fun lane hl => h ⟨lane, hl⟩
  simp only [requireLogicalReadLane, hget]

/-- To renew or close a lane that is not recorded, nothing but probes is sent. -/
theorem probes_call_of_unrecorded {operation laneID : String} {fence : ℤ} {body : GoMap}
    (hends : EndsLane operation) (href : logicalLaneRef body = some (laneID, fence))
    (h : ¬Recorded c laneID) : Probes c (c.call w operation body).2 := by
  have hp := probes_ensurePaths (w := w) c
  have hreq := require_of_unrecorded (w := w) (c := (c.ensurePaths w).2)
    (show ¬Recorded (c.ensurePaths w).2 laneID by rw [Recorded, hp.readLanes]; exact h) fence
  unfold call
  split
  · exact Probes.refl c
  · split
    · exact Probes.refl c
    · unfold route
      have hopen : ¬(operation = "lane.open" ∧ isReadOnlyLaneOpen body = true) := by
        rintro ⟨rfl, -⟩
        exact not_endsLane_open hends
      rw [if_neg hopen, href]
      rcases hends with rfl | rfl
      · show Probes c (c.renewLogicalReadLane w laneID fence body).2
        unfold renewLogicalReadLane
        split
        next hpaths =>
          rw [hpaths] at hp
          exact hp
        next hpaths =>
          rw [hpaths] at hp hreq
          rw [hreq]
          split <;> exact hp
      · show Probes c (c.closeLogicalReadLane w laneID fence).2
        unfold closeLogicalReadLane
        dsimp only
        rw [hreq]
        exact hp

theorem not_forwarded_of_unrecorded {operation laneID : String} {body : GoMap}
    (hn : NamesGranted c operation body laneID) (h : ¬Recorded c laneID) :
    ¬Forwarded w c operation body laneID := by
  obtain ⟨hends, fence, href, -⟩ := hn
  obtain ⟨probes, ht, hlist⟩ := (probes_call_of_unrecorded (w := w) hends href h).sent
  rintro ⟨sent, ht', s, hs, hop, -⟩
  obtain rfl : sent = probes := List.append_cancel_left (ht'.symm.trans ht)
  rw [← hop, EndsLane, hlist s hs] at hends
  exact absurd hends (by decide)

/-- What a `lane.close` was sent for was opened for reading. -/
theorem RoutingInv.workLanesStayOpen (h : RoutingInv c) : WorkLanesStayOpen c := by
  rintro laneID fence - hread ⟨s, hs, hop, ⟨fence', href⟩, -⟩
  exact hread (h.ended s hs (Or.inr hop) laneID fence' href)

/-- **Which lanes can be ended through the gateway.** In every run of calls, a renewal or a close of
a granted lane is routed as it should be just if the lane is a logical read lane; logical read lanes
are lanes that were opened for reading; and no run of the facade closes any other lane. -/
theorem routed_iff (w : World) (cfg : Config) (raw : Fin (2 ^ 32)) :
    (∀ calls operation body, Routed w (run w (create cfg raw) calls) operation body ↔
      NamesLogicalOnly (run w (create cfg raw) calls) operation body) ∧
    (∀ calls laneID, Recorded (run w (create cfg raw) calls) laneID →
      ReadOpened (run w (create cfg raw) calls) laneID) ∧
    ∀ actorTag random events, WorkLanesStayOpen
      ((Facade.create (create cfg raw) actorTag).run (api w) random events).controller := by
  have hcreate := routingInv_create cfg raw
  refine ⟨fun calls operation body => ⟨fun h laneID hn => ?_, fun h laneID hn => ?_⟩, ?_, ?_⟩
  · by_contra hrec
    exact (h laneID hn).elim (not_forwarded_of_unrecorded hn hrec) hrec
  · exact Or.inr (h laneID hn)
  · rintro calls laneID ⟨lane, hl⟩
    exact ((routingInv_of_run calls hcreate).recorded laneID lane hl).2
  · intro actorTag random events
    have hinv : RoutingInv
        ((Facade.create (create cfg raw) actorTag).run (api w) random events).controller :=
      Facade.run_keeps (P := RoutingInv) (fun c operation body h => h.call operation body)
        (fun c h => h.machineInfo) events hcreate
    exact hinv.workLanesStayOpen

/-! A controller with one path, and a workstation that grants and closes every lane. -/

def exampleConfig : Config where
  requestedCapabilities := ["fs.write"]
  gatewayOperations := ["lane.open", "lane.close", "fs.write_text"]
  endpoints := [⟨"direct", "DIRECT_STREAM", true⟩]
  maxPathAgeMS := 5000

def exampleAnswer (request : GoMap) : GoMap :=
  let result : GoValue :=
    if (request.index "operation").asString = "lane.open" then
      .map [("fencing_token", .number "7")]
    else .map []
  .ofList [("ok", .bool true), ("result", result)]

def exampleWorld : World where
  now _ := 1000
  dial _ _ := .ok ⟨"S1", "controller:c", "workstation:w", {"fs.write"}, 900000⟩
  answer _ _ request := .ok (exampleAnswer request)
  rtt _ := 1
  random _ := "0a"
  epoch _ := .ok 5
  mapOrder _ keys := keys
  mapOrder_perm _ _ := .refl _
  goSyntax _ := ""

def exampleOpen : GoMap :=
  .ofList [("lane_id", .str "L"), ("task_id", .str "T"), ("capabilities", .list [.str "fs.write"]),
    ("claims", .list [.map [("key", .str "fs:/a"), ("mode", .str "write")]]), ("ttl_s", .float 300)]

def exampleClose : GoMap := .ofList [("lane_id", .str "L"), ("fencing_token", .number "7")]

def exampleFacade : Facade Controller :=
  (Facade.create (create exampleConfig 3) "0123456789abcdef").run (api exampleWorld) (fun _ => "0b")
    [.tool "write_file" (.ofList [("path", .str "/a"), ("content", .str "x")])]

/-- A lane that was granted for writing cannot be closed through the controller, and `write_file`
leaves its lane open on a workstation that would close it. -/
theorem not_routed_exampleWorld :
    ¬Routed exampleWorld (run exampleWorld (create exampleConfig 3) [("lane.open", exampleOpen)])
      "lane.close" exampleClose ∧
    Granted exampleFacade.controller "public-lane:0123456789abcdef:0b" 7 ∧
    ¬Closed exampleFacade.controller "public-lane:0123456789abcdef:0b" := by
  refine ⟨fun hrouted => ?_, ?_, ?_⟩
  · have hgranted : Granted (run exampleWorld (create exampleConfig 3)
        [("lane.open", exampleOpen)]) "L" 7 :=
      ⟨_, List.mem_of_getElem? (i := 1) rfl, rfl, rfl, _, rfl, rfl, rfl⟩
    have hrec : ¬Recorded (run exampleWorld (create exampleConfig 3)
        [("lane.open", exampleOpen)]) "L" := by
      rintro ⟨lane, hl⟩
      cases hl
    have hn : NamesGranted (run exampleWorld (create exampleConfig 3)
        [("lane.open", exampleOpen)]) "lane.close" exampleClose "L" :=
      ⟨Or.inr rfl, 7, by rfl, hgranted⟩
    exact (hrouted "L" hn).elim (not_forwarded_of_unrecorded hn hrec) hrec
  · exact ⟨_, List.mem_of_getElem? (i := 1) rfl, rfl, rfl, _, rfl, rfl, rfl⟩
  · rintro ⟨s, hs, hop, -⟩
    have hops : exampleFacade.controller.trace.map Sent.operation =
        ["lane.list", "lane.open", "fs.write_text"] := by decide +kernel
    have hmem := List.mem_map_of_mem (f := Sent.operation) hs
    rw [hops, hop] at hmem
    exact absurd hmem (by decide)

end Runs
end Controller

end VeraMesh.Gateway
