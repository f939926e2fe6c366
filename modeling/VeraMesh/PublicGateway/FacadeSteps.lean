import VeraMesh.PublicGateway.Cleanup
import VeraMesh.PublicGateway.Facade

/-!
# Steps of the public facade

What the parts of a public tool do to lanes: `open_lane` opens one or none, `close_lane` is called
for one, and nothing else has to do with lanes.

## Main results

* `openLane_cases`: what opening a lane comes to.
* `closeLaneEvidence_cases`: closing a lane is one attempt, and raises nothing.
* `QuietWork`: work that neither opens nor closes lanes, with a rule for every way to build it.
-/

namespace VeraMesh.PublicGateway

open Python Gateway Attempt

namespace PublicWorkstationFacade

/-- The note on a failure to close. -/
def cleanupNote (answer : Except Raised PyValue) : Option (Dict String PyValue) :=
  if isClosed (closeEvidence answer) then none else some (closeEvidence answer)

/-- A request for a lane, by the fence that it came to. -/
def openedBy (lane : String) : Except Raised ℤ → LaneRequest (Dict String PyValue)
  | .ok fence => .opened lane fence
  | .error _ => .other

variable (rt : Runtime)

/-- What a call of the runtime means for lanes. -/
def laneRequest (c : RuntimeCall) : LaneRequest (Dict String PyValue) :=
  match c.method, c.kwargs.get? "lane_id", c.kwargs.get? "fencing_token" with
  | .openLane, some (.str lane), _ => openedBy lane (c.answer.bind (openedFence rt))
  | .closeLane, some (.str lane), some (.int fence) => .closed lane fence (cleanupNote c.answer)
  | _, _, _ => .other

/-- The facade has made some calls, and its leases are as they were. -/
structure Stepped (f f' : PublicWorkstationFacade) (l : List (LaneRequest (Dict String PyValue))) :
    Prop where
  calls : ∃ new, f'.calls = f.calls ++ new ∧ new.map (laneRequest rt) = l
  processes : f'.processes = f.processes
  idFactory : f'.idFactory = f.idFactory

/-- The id, the fence and the lane of `_open_lane`. -/
def openResult (outcomes : Outcomes) (f : PublicWorkstationFacade) :
    Except Raised (String × ℤ) := do
  let id ← factoryId (f.idFactory f.ids)
  let _ ← factoryId (f.idFactory (f.ids + 1))
  let fence ← openedFence rt (← outcomes.answer f.asked)
  return ("public-lane" ++ ":" ++ f.actorTag ++ ":" ++ id, fence)

section Steps

variable {rt} {outcomes : Outcomes} {f f' f'' : PublicWorkstationFacade}
  {l l' : List (LaneRequest (Dict String PyValue))} {method : RuntimeMethod}
  {kwargs : List (String × PyValue)}

theorem Stepped.refl (f : PublicWorkstationFacade) : Stepped rt f f [] :=
  ⟨⟨[], (List.append_nil _).symm, rfl⟩, rfl, rfl⟩

theorem Stepped.trans (h : Stepped rt f f' l) (h' : Stepped rt f' f'' l') :
    Stepped rt f f'' (l ++ l') := by
  obtain ⟨new, hcalls, hnew⟩ := h.calls
  obtain ⟨new', hcalls', hnew'⟩ := h'.calls
  refine ⟨⟨new ++ new', ?_, ?_⟩, h'.processes.trans h.processes, h'.idFactory.trans h.idFactory⟩
  · rw [hcalls', hcalls, List.append_assoc]
  · rw [List.map_append, hnew, hnew']

/-! ## Requests -/

theorem exec_call : (call outcomes method kwargs).exec f =
    ((if method = .closeLane then outcomes.close f.closed else outcomes.answer f.asked),
      record method kwargs
        (if method = .closeLane then outcomes.close f.closed else outcomes.answer f.asked) f) := by
  rw [call, exec_bind, exec_get]
  dsimp only
  rw [exec_bind, exec_modify]
  exact exec_ofResult _ _

theorem exec_newId {label : String} : (newId label).exec f =
    ((factoryId (f.idFactory f.ids)).map (label ++ ":" ++ f.actorTag ++ ":" ++ ·),
      { f with ids := f.ids + 1 }) := by
  rw [newId, exec_bind, exec_get]
  dsimp only
  rw [exec_bind, exec_modify]
  dsimp only
  rw [exec_bind, exec_ofResult]
  cases factoryId (f.idFactory f.ids) <;> rfl

/-- A request is a step. -/
theorem stepped_record (f : PublicWorkstationFacade) (method : RuntimeMethod)
    (kwargs : List (String × PyValue)) (answer : Except Raised PyValue) :
    Stepped rt f (record method kwargs answer f)
      [laneRequest rt ⟨method, .ofList kwargs, answer⟩] := by
  refine ⟨⟨[⟨method, .ofList kwargs, answer⟩], ?_, rfl⟩, ?_, ?_⟩
  all_goals
    rw [record]
    split_ifs <;> rfl

theorem stepped_ids (ids : ℕ) : Stepped rt f { f with ids } [] :=
  ⟨⟨[], (List.append_nil _).symm, rfl⟩, rfl, rfl⟩

/-! ## Opening a lane -/

/-- The request of `_open_lane`. -/
theorem laneRequest_openLane {lane task : String} {capabilities claims ttl : PyValue}
    (answer : Except Raised PyValue) :
    laneRequest rt ⟨.openLane, .ofList [("lane_id", .str lane), ("task_id", .str task),
        ("capabilities", capabilities), ("claims", claims), ("ttl_s", ttl)], answer⟩ =
      openedBy lane (answer.bind (openedFence rt)) := by
  have hlane : (Dict.ofList [("lane_id", .str lane), ("task_id", .str task),
      ("capabilities", capabilities), ("claims", claims), ("ttl_s", ttl)]).get? "lane_id" =
        some (PyValue.str lane) := by
    simp [Dict.ofList, Dict.get?_set]
  simp only [laneRequest, hlane]

theorem stepped_openRequest (ids : ℕ) (lane task : String) (capabilities claims ttl : PyValue)
    {answer : Except Raised PyValue} {fence : Except Raised ℤ}
    (hfence : answer.bind (openedFence rt) = fence) :
    Stepped rt f (record .openLane [("lane_id", .str lane), ("task_id", .str task),
        ("capabilities", capabilities), ("claims", claims), ("ttl_s", ttl)] answer { f with ids })
      [openedBy lane fence] := by
  have hids : Stepped rt f { f with ids } [] := stepped_ids ids
  have hstep := hids.trans (stepped_record { f with ids } .openLane
    [("lane_id", .str lane), ("task_id", .str task), ("capabilities", capabilities),
      ("claims", claims), ("ttl_s", ttl)] answer)
  rwa [laneRequest_openLane, List.nil_append, hfence] at hstep

/-- What `_open_lane` comes to: it opens one lane or none. -/
theorem openLane_cases (rt : Runtime) (outcomes : Outcomes) (f : PublicWorkstationFacade)
    (capabilities : List String) (claims : List (List (String × String))) (ttlS : PyFloat)
    (task : String) :
    ∃ f', (openLane rt outcomes capabilities claims ttlS task).exec f =
        (openResult rt outcomes f, f') ∧
      match openResult rt outcomes f with
      | .ok (lane, fence) =>
        Stepped rt f f' [.opened lane fence] ∧ f'.ids = f.ids + 2 ∧ f'.asked = f.asked + 1
      | .error _ => ∃ l, (∀ c ∈ l, c.opens = false) ∧ Stepped rt f f' l := by
  rw [openLane, exec_bind, exec_newId, openResult]
  cases factoryId (f.idFactory f.ids) with
  | error exc => exact ⟨_, rfl, [], by simp, stepped_ids _⟩
  | ok id =>
    dsimp only [Except.map]
    rw [exec_bind, exec_newId]
    dsimp only
    cases factoryId (f.idFactory (f.ids + 1)) with
    | error exc => exact ⟨_, rfl, [], by simp, stepped_ids _⟩
    | ok task =>
      dsimp only [Except.map]
      rw [exec_bind, exec_call]
      simp only [reduceCtorEq, if_false]
      cases outcomes.answer f.asked with
      | error exc =>
        refine ⟨_, rfl, _, ?_, stepped_openRequest _ _ _ _ _ _ rfl⟩
        simp [openedBy, LaneRequest.opens, Except.bind]
      | ok response =>
        dsimp only
        rw [exec_bind, exec_ofResult]
        dsimp only [bind, Except.bind]
        cases hfence : openedFence rt response with
        | error exc =>
          have hbind : Except.bind (.ok response) (openedFence rt) = .error exc := hfence
          refine ⟨_, rfl, _, ?_, stepped_openRequest _ _ _ _ _ _ hbind⟩
          simp [openedBy, LaneRequest.opens]
        | ok fence =>
          have hbind : Except.bind (.ok response) (openedFence rt) = .ok fence := hfence
          exact ⟨_, rfl, stepped_openRequest _ _ _ _ _ _ hbind, rfl, rfl⟩

/-! ## Closing a lane -/

/-- `_close_lane_evidence` is one attempt to close the lane, and raises nothing. -/
theorem closeLaneEvidence_cases (rt : Runtime) (outcomes : Outcomes) (f : PublicWorkstationFacade)
    (lane : String) (fence : ℤ) :
    ∃ f', (closeLaneEvidence outcomes lane fence).exec f =
        (.ok (closeEvidence (outcomes.close f.closed)), f') ∧
      Stepped rt f f' [.closed lane fence (cleanupNote (outcomes.close f.closed))] := by
  refine ⟨record .closeLane [("lane_id", .str lane), ("fencing_token", .int fence)]
    (outcomes.close f.closed) f, ?_, ?_⟩
  · rw [closeLaneEvidence, exec_bind, exec_settle, exec_call]
    rfl
  · have hlane : (Dict.ofList [("lane_id", .str lane), ("fencing_token", .int fence)]).get?
        "lane_id" = some (PyValue.str lane) := by
      simp [Dict.ofList, Dict.get?_set]
    have hfence : (Dict.ofList [("lane_id", .str lane), ("fencing_token", .int fence)]).get?
        "fencing_token" = some (PyValue.int fence) := by
      simp [Dict.ofList, Dict.get?_set]
    have hstep : Stepped rt f _ _ := stepped_record f .closeLane
      [("lane_id", .str lane), ("fencing_token", .int fence)] (outcomes.close f.closed)
    simpa only [laneRequest, hlane, hfence] using hstep

/-! ## Other work -/

/-- The work neither opens nor closes lanes, keeps the leases and asks for no ids. -/
structure QuietWork {α : Type} (rt : Runtime) (t : FacadeTask α) : Prop where
  keeps : Keeps (fun f => (f.processes, f.idFactory, f.ids)) t
  logs : Logs (·.calls) (fun c => laneRequest rt c = .other) t

section QuietWork

variable {α β : Type} {t : FacadeTask α} {g : α → FacadeTask β}

theorem QuietWork.bind (ht : QuietWork rt t) (hg : ∀ a, QuietWork rt (g a)) :
    QuietWork rt (t >>= g) :=
  ⟨ht.keeps.bind fun a => (hg a).keeps, ht.logs.bind fun a => (hg a).logs⟩

theorem quiet_ofResult (r : Except Raised α) : QuietWork rt (ofResult r : FacadeTask α) :=
  ⟨keeps_ofResult r, (keeps_ofResult r).logs⟩

theorem quiet_call (hopen : method ≠ .openLane) (hclose : method ≠ .closeLane) :
    QuietWork rt (call outcomes method kwargs) := by
  constructor
  · intro f
    rw [exec_call, record]
    split_ifs <;> rfl
  · intro f
    refine ⟨[⟨method, .ofList kwargs, outcomes.answer f.asked⟩], ?_, ?_⟩
    · rw [exec_call, record, if_neg hclose, if_neg hclose]
    · rw [List.forall_mem_singleton]
      cases method <;> first | rfl | contradiction

theorem quiet_runOperation {operation lane : String} {fence : ℤ} {body : List (String × PyValue)} :
    QuietWork rt (runOperation outcomes operation lane fence body) := by
  rw [runOperation]
  split_ifs
  · exact quiet_call (by simp) (by simp)
  · exact quiet_call (by simp) (by simp)
  · exact quiet_call (by simp) (by simp)
  · exact quiet_call (by simp) (by simp)
  · exact (quiet_call (by simp) (by simp)).bind fun _ => quiet_call (by simp) (by simp)

theorem quiet_callStart {argv : List String} {cwd lane : String} {maxRuntimeS : PyFloat}
    {fence : ℤ} : QuietWork rt (callStart rt outcomes argv cwd maxRuntimeS lane fence) := by
  rw [callStart]
  exact (quiet_call (by simp) (by simp)).bind fun _ =>
    (quiet_call (by simp) (by simp)).bind fun response => quiet_ofResult (unwrap rt response)

/-- QuietWork work as a step. -/
theorem QuietWork.stepped (h : QuietWork rt t) (f : PublicWorkstationFacade) :
    (t.exec f).2.ids = f.ids ∧ ∃ l, (∀ c ∈ l, c = .other) ∧ Stepped rt f (t.exec f).2 l := by
  have hkeeps := h.keeps f
  simp only [Prod.mk.injEq] at hkeeps
  obtain ⟨hprocesses, hfactory, hids⟩ := hkeeps
  obtain ⟨new, hcalls, hnew⟩ := h.logs f
  refine ⟨hids, new.map (laneRequest rt), ?_, ⟨new, hcalls, rfl⟩, hprocesses, hfactory⟩
  rw [List.forall_mem_map]
  exact hnew

end QuietWork

/-! ## Work without a lane of its own -/

/-- The work opens no lane. -/
def OpensNone {α : Type} (rt : Runtime) (t : FacadeTask α) : Prop :=
  Logs (·.calls) (fun c => (laneRequest rt c).opens = false) t

section OpensNone

variable {α : Type} {t : FacadeTask α}

theorem QuietWork.opensNone (h : QuietWork rt t) : OpensNone rt t :=
  h.logs.mono fun c hc => by rw [hc]; rfl

theorem opensNone_call (hopen : method ≠ .openLane) :
    OpensNone rt (call outcomes method kwargs) := by
  by_cases hclose : method = .closeLane
  · subst hclose
    intro f
    refine ⟨[⟨.closeLane, .ofList kwargs, outcomes.close f.closed⟩], ?_, ?_⟩
    · rw [exec_call, record, if_pos rfl, if_pos rfl]
    · rw [List.forall_mem_singleton, laneRequest]
      split <;> first | rfl | contradiction
  · exact (quiet_call hopen hclose).opensNone

theorem keeps_lease {handle : String} :
    Keeps (·.calls) (lease handle : FacadeTask ProcessLease) := by
  rw [lease]
  refine keeps_get.bind fun f => ?_
  cases f.processes.get? handle with
  | none => exact keeps_throw _
  | some lease => exact keeps_pure lease

theorem opensNone_closeLaneEvidence {lane : String} {fence : ℤ} :
    OpensNone rt (closeLaneEvidence outcomes lane fence) := by
  rw [closeLaneEvidence]
  exact (Logs.settle (opensNone_call (by simp))).bind fun _ => (keeps_pure _).logs

theorem opensNone_computerInfo : OpensNone rt (computerInfo outcomes) := by
  rw [computerInfo]
  refine keeps_get.logs.bind fun f => Logs.bind (Keeps.logs ?_) fun _ => (keeps_ofResult _).logs
  exact keeps_modify fun _ => rfl

theorem opensNone_processOperation {operation handle : String}
    {body : List (String × PyValue)} :
    OpensNone rt (processOperation rt outcomes operation handle body) := by
  rw [processOperation]
  refine keeps_lease.logs.bind fun lease => ?_
  refine Logs.bind (opensNone_call (by simp)) fun _ => ?_
  refine Logs.bind (opensNone_call (by simp)) fun response => ?_
  exact (keeps_ofResult _).logs.bind fun _ => (keeps_pure _).logs

theorem opensNone_releaseProcess {handle : String} :
    OpensNone rt (releaseProcess outcomes handle) := by
  rw [releaseProcess]
  refine keeps_lease.logs.bind fun lease => ?_
  refine Logs.bind opensNone_closeLaneEvidence fun cleanup => ?_
  split_ifs
  · refine Logs.bind (Keeps.logs ?_) fun _ => (keeps_pure _).logs
    exact keeps_modify fun _ => rfl
  · exact (keeps_pure _).logs

theorem opensNone_statusOf (handles : List String) :
    OpensNone rt (statusOf rt outcomes handles) := by
  induction handles with
  | nil => exact (keeps_pure _).logs
  | cons handle handles ih =>
    rw [statusOf]
    refine Logs.bind (Logs.settle opensNone_processOperation) fun status => ?_
    exact Logs.bind ih fun rest => (keeps_pure _).logs

theorem opensNone_listProcesses : OpensNone rt (listProcesses rt outcomes) := by
  rw [listProcesses]
  exact keeps_get.logs.bind fun f =>
    Logs.bind (opensNone_statusOf f.sortedHandles) fun _ => (keeps_pure _).logs

theorem opensNone_releaseAll (handles : List String) :
    OpensNone rt (releaseAll outcomes handles) := by
  induction handles with
  | nil => exact (keeps_pure _).logs
  | cons handle handles ih =>
    rw [releaseAll]
    exact Logs.bind opensNone_releaseProcess fun released =>
      Logs.bind ih fun rest => (keeps_pure _).logs

theorem opensNone_close : OpensNone rt (close outcomes) := by
  rw [close]
  exact keeps_get.logs.bind fun f =>
    Logs.bind (opensNone_releaseAll f.sortedHandles) fun _ => (keeps_pure _).logs

end OpensNone

end Steps

end PublicWorkstationFacade

end VeraMesh.PublicGateway
