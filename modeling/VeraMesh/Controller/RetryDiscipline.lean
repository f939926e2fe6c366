import VeraMesh.Controller.Ambiguity
import VeraMesh.Lib.History

/-!
# The retry discipline of the hot-session pool

Every endpoint whose channel `HotSessionPool.request` hands the request to is one it may use after
those before it, `Usable`, and no other usable one comes before it in the order of the paths.

* `turn_again_bound`: what the loop's variables say about the endpoints tried so far.
* `request_disciplined`: the discipline, for every pool, request and pattern of channel failures.
-/

namespace VeraMesh

open Python History

namespace HotSessionPool

/-- The endpoints registered for a workstation and a controller. -/
def registered (pool : HotSessionPool) (workstationPrincipal controllerPrincipal : String) :
    List SessionEndpoint :=
  ((pool.byRoute.get? (workstationPrincipal, controllerPrincipal)).getD .empty).values

/-- The operation of the request, if it has one. -/
def Call.operation (call : Call) : String :=
  match call.request.get? "operation" with
  | some (.str operation) => operation
  | _ => ""

/-- The endpoint may be handed the request of the call, after the endpoints of `tried`. -/
structure Usable (pool : HotSessionPool) (call : Call) (tried : List SessionEndpoint)
    (item : SessionEndpoint) : Prop where
  registered : item ∈ pool.registered call.workstationPrincipal call.controllerPrincipal
  workstation : item.binding.workstationPrincipal = call.workstationPrincipal
  controller : item.binding.controllerPrincipal = call.controllerPrincipal
  unexpired : call.nowMs < item.binding.expiresAtMs
  observed : item.path.observedAtMs ≤ call.nowMs
  fresh : call.nowMs - item.path.observedAtMs ≤ call.maxPathAgeMs
  authenticated : item.path.authenticated = true
  healthy : item.path.healthy = true
  untried : ∀ earlier ∈ tried, earlier.endpointId ≠ item.endpointId
  sameSession : call.operation ∈ mutatingOperations → ∀ earlier ∈ tried,
    item.binding.sessionId = earlier.binding.sessionId ∧
      earlier.durableIdempotency = true ∧ item.durableIdempotency = true

/-- A usable endpoint that no other usable one comes before. -/
def Best (pool : HotSessionPool) (call : Call) (tried : List SessionEndpoint)
    (item : SessionEndpoint) : Prop :=
  Usable pool call tried item ∧
    ∀ other, Usable pool call tried other → other.path.keyLt item.path = false

variable {pool : HotSessionPool} {call : Call} {requestId operation : String}
  {candidates remaining : List SessionEndpoint}
  {channel : SessionEndpoint → Except PyError Response} {s s' : RetryState}

theorem operation_of_validate (h : call.validate = .ok (requestId, operation)) :
    operation = call.operation := by
  unfold Call.validate at h
  split at h
  next name hname =>
    split at h
    · cases h
    · split at h
      next name' hname' =>
        split_ifs at h
        cases h
        rw [Call.operation, hname']
      · cases h
  · cases h

/-- The endpoint chosen is the one whose path was selected. -/
theorem selectEndpoint_best (hpaths : (remaining.map (·.path.pathId)).Nodup)
    {endpoint : SessionEndpoint} (h : selectEndpoint call remaining = .ok (some endpoint)) :
    endpoint.path.rejection call.nowMs call.maxPathAgeMs = none ∧
      ∀ item ∈ remaining, item.path.rejection call.nowMs call.maxPathAgeMs = none →
        item.path.keyLt endpoint.path = false := by
  unfold selectEndpoint at h
  split at h
  · cases h
  next decision hdecision =>
    rw [Except.ok.injEq, Option.bind_eq_some_iff] at h
    obtain ⟨selected, hsel, hfind⟩ := h
    obtain ⟨hoffered, heligible⟩ := selectPath_ok hdecision hsel
    obtain ⟨owner, howner, rfl⟩ := List.mem_map.mp hoffered
    -- path ids are unique, so the endpoint found by id is the owner of the path
    have hid : endpoint.path.pathId = owner.path.pathId := by
      simpa using List.find?_some hfind
    obtain rfl := List.inj_on_of_nodup_map hpaths (List.mem_of_find?_eq_some hfind) howner hid
    refine ⟨heligible, fun item hitem hok => ?_⟩
    exact selectPath_best hdecision hsel (List.mem_map_of_mem hitem) hok

/-- What the variables of the loop say about the endpoints tried so far. -/
def RetryState.Bound (operation : String) (s : RetryState) : Prop :=
  match s.mutationRetrySessionId with
  | none => operation ∈ mutatingOperations → s.attempted = []
  | some sessionId => operation ∈ mutatingOperations ∧ s.attempted ≠ [] ∧
      ∀ earlier ∈ s.attempted,
        earlier.binding.sessionId = sessionId ∧ earlier.durableIdempotency = true

theorem RetryState.bound_init : init.Bound operation := fun _ => rfl

/-- What is left to try, in terms of what was tried. -/
theorem mem_remaining_iff (hs : s.Bound operation) {item : SessionEndpoint} :
    item ∈ s.remaining candidates ↔ item ∈ candidates ∧
      (∀ earlier ∈ s.attempted, earlier.endpointId ≠ item.endpointId) ∧
      (operation ∈ mutatingOperations → ∀ earlier ∈ s.attempted,
        item.binding.sessionId = earlier.binding.sessionId ∧
          earlier.durableIdempotency = true ∧ item.durableIdempotency = true) := by
  have huntried : s.tried item = false ↔
      ∀ earlier ∈ s.attempted, earlier.endpointId ≠ item.endpointId := by
    simp [RetryState.tried]
  rw [RetryState.remaining, List.mem_filter, Bool.and_eq_true, Bool.not_eq_true', huntried]
  refine and_congr_right fun _ => and_congr_right fun _ => ?_
  unfold RetryState.Bound at hs
  split at hs
  next hnone =>
    -- no retry is bound to a session: either nothing was tried or the operation only reads
    simp only [hnone, true_iff]
    intro hmut earlier hearlier
    simp [hs hmut] at hearlier
  next sessionId hsome =>
    obtain ⟨hmut, hne, hall⟩ := hs
    simp only [hsome, Bool.and_eq_true, beq_iff_eq, hmut, forall_const]
    constructor
    · rintro ⟨hsession, hdurable⟩ earlier hearlier
      exact ⟨hsession.trans (hall earlier hearlier).1.symm, (hall earlier hearlier).2, hdurable⟩
    · intro h
      obtain ⟨first, hfirst⟩ := List.exists_mem_of_ne_nil _ hne
      exact ⟨(h first hfirst).1.trans (hall first hfirst).1, (h first hfirst).2.2⟩

/-- The variables stay in accordance with what was tried. -/
theorem turn_again_bound (hs : s.Bound operation)
    (h : turn call requestId operation candidates channel s = .again s') :
    s'.Bound operation := by
  obtain ⟨endpoint, -, -, hsel, -, -, hattempted, -, hretry⟩ := turn_again h
  unfold RetryState.Bound
  split_ifs at hretry with hmut
  · obtain ⟨hdurable, hsession, -⟩ := hretry
    have hkept := (mem_remaining_iff hs).mp (mem_of_selectEndpoint hsel)
    rw [hsession, hattempted]
    refine ⟨hmut, by simp, fun earlier hearlier => ?_⟩
    rcases List.mem_append.mp hearlier with hold | hnew
    · obtain ⟨heq, hdurable', -⟩ := hkept.2.2 hmut earlier hold
      exact ⟨heq.symm, hdurable'⟩
    · obtain rfl := List.mem_singleton.mp hnew
      exact ⟨rfl, hdurable⟩
  · rw [hretry]
    unfold RetryState.Bound at hs
    split at hs
    · exact fun hmut' => absurd hmut' hmut
    · exact absurd hs.1 hmut

/-- A usable endpoint is one that is left to try, with an eligible path. -/
theorem usable_iff (hs : s.Bound call.operation) {item : SessionEndpoint} :
    Usable pool call s.attempted item ↔
      item ∈ s.remaining (pool.currentEndpoints call.workstationPrincipal
        call.controllerPrincipal call.nowMs) ∧
      item.path.rejection call.nowMs call.maxPathAgeMs = none := by
  rw [mem_remaining_iff hs, PathObservation.rejection_eq_none_iff, currentEndpoints,
    List.mem_filter]
  simp only [Bool.and_eq_true, decide_eq_true_eq, beq_iff_eq]
  constructor
  · intro h
    exact ⟨⟨⟨h.registered, h.unexpired, h.workstation, h.controller⟩, h.untried, h.sameSession⟩,
      ⟨h.observed, h.fresh⟩, h.authenticated, h.healthy⟩
  · rintro ⟨⟨⟨hreg, hexp, hws, hctl⟩, huntried, hsession⟩, ⟨hobs, hfresh⟩, hauth, hhealthy⟩
    exact ⟨hreg, hws, hctl, hexp, hobs, hfresh, hauth, hhealthy, huntried, hsession⟩

/-- The endpoint that a turn chooses is the best one. -/
theorem best_of_selectEndpoint
    (hpaths : ((pool.registered call.workstationPrincipal call.controllerPrincipal).map
      (·.path.pathId)).Nodup)
    (hs : s.Bound call.operation) {endpoint : SessionEndpoint}
    (h : selectEndpoint call (s.remaining (pool.currentEndpoints call.workstationPrincipal
      call.controllerPrincipal call.nowMs)) = .ok (some endpoint)) :
    Best pool call s.attempted endpoint := by
  have hsub : (s.remaining (pool.currentEndpoints call.workstationPrincipal
      call.controllerPrincipal call.nowMs)).Sublist
      (pool.registered call.workstationPrincipal call.controllerPrincipal) :=
    List.filter_sublist.trans List.filter_sublist
  obtain ⟨hok, hbest⟩ := selectEndpoint_best (hpaths.sublist (hsub.map _)) h
  refine ⟨(usable_iff hs).mpr ⟨mem_of_selectEndpoint h, hok⟩, fun other hother => ?_⟩
  obtain ⟨hmem, hok'⟩ := (usable_iff hs).mp hother
  exact hbest other hmem hok'

/-- The loop keeps the discipline. -/
theorem requestLoop_disciplined
    (hpaths : ((pool.registered call.workstationPrincipal call.controllerPrincipal).map
      (·.path.pathId)).Nodup)
    (hs : s.Bound call.operation) (htried : Throughout (Best pool call) s.attempted) :
    Throughout (Best pool call) (requestLoop call requestId call.operation
      (pool.currentEndpoints call.workstationPrincipal call.controllerPrincipal call.nowMs)
      channel s).attempted := by
  induction s using requestLoop.induct call requestId call.operation
      (pool.currentEndpoints call.workstationPrincipal call.controllerPrincipal call.nowMs)
      channel with
  | case1 s delivery hturn =>
    rw [requestLoop_of_done hturn]
    rcases turn_done hturn with heq | ⟨endpoint, hsel, heq⟩
    · rw [heq]
      exact htried
    · rw [heq, throughout_concat]
      exact ⟨htried, best_of_selectEndpoint hpaths hs hsel⟩
  | case2 s s' hturn ih =>
    rw [requestLoop_of_again hturn]
    obtain ⟨endpoint, -, -, hsel, -, -, hattempted, -⟩ := turn_again hturn
    refine ih (turn_again_bound hs hturn) ?_
    rw [hattempted, throughout_concat]
    exact ⟨htried, best_of_selectEndpoint hpaths hs hsel⟩

/-- Endpoints that were untried when they were tried have different ids. -/
theorem nodup_of_disciplined {attempted : List SessionEndpoint}
    (h : Throughout (Best pool call) attempted) : (attempted.map (·.endpointId)).Nodup := by
  induction attempted using List.reverseRecOn with
  | nil => exact List.nodup_nil
  | append_singleton attempted endpoint ih =>
    obtain ⟨hold, hnew⟩ := throughout_concat.mp h
    rw [List.map_append, List.map_singleton, List.nodup_append_comm, List.singleton_append,
      List.nodup_cons]
    refine ⟨fun hmem => ?_, ih hold⟩
    obtain ⟨earlier, hearlier, heq⟩ := List.mem_map.mp hmem
    exact hnew.1.untried earlier hearlier heq

/-- However the channels fail, `request` comes to an end after it has handed the request to no
endpoint twice, each time to the best of the usable ones. -/
theorem request_disciplined (pool : HotSessionPool) (call : Call)
    (channel : SessionEndpoint → Except PyError Response)
    (hpaths : ((pool.registered call.workstationPrincipal call.controllerPrincipal).map
      (·.path.pathId)).Nodup) :
    ((pool.request call channel).attempted.map (·.endpointId)).Nodup ∧
      (pool.request call channel).attempted.length ≤
        (pool.registered call.workstationPrincipal call.controllerPrincipal).length ∧
      Throughout (Best pool call) (pool.request call channel).attempted := by
  have hdisciplined : Throughout (Best pool call) (pool.request call channel).attempted := by
    unfold request
    cases hvalid : call.validate with
    | error e => exact throughout_nil
    | ok names =>
      obtain ⟨requestId, operation⟩ := names
      obtain rfl : operation = call.operation := operation_of_validate hvalid
      exact requestLoop_disciplined hpaths RetryState.bound_init throughout_nil
  have hnodup := nodup_of_disciplined hdisciplined
  refine ⟨hnodup, ?_, hdisciplined⟩
  have hsub : (pool.request call channel).attempted ⊆
      pool.registered call.workstationPrincipal call.controllerPrincipal := by
    intro endpoint hmem
    obtain ⟨before, after, hsplit⟩ := List.append_of_mem hmem
    exact (hdisciplined before endpoint after hsplit).1.registered
  exact (List.subperm_of_subset (List.Nodup.of_map _ hnodup) hsub).length_le

/-- A write on two paths, of which the first closes. -/
theorem request_disciplined_examplePool :
    (((examplePool 5000).request exampleCall fun _ =>
        .error ⟨.streamClosed, "stream closed"⟩).attempted.map (·.endpointId)).Nodup ∧
      ((examplePool 5000).request exampleCall fun _ =>
        .error ⟨.streamClosed, "stream closed"⟩).attempted.length ≤
        ((examplePool 5000).registered "workstation:w" "controller:c").length ∧
      Throughout (Best (examplePool 5000) exampleCall) ((examplePool 5000).request exampleCall
        fun _ => .error ⟨.streamClosed, "stream closed"⟩).attempted :=
  request_disciplined (examplePool 5000) exampleCall
    (fun _ => .error ⟨.streamClosed, "stream closed"⟩) (by decide +kernel)

end HotSessionPool

end VeraMesh
