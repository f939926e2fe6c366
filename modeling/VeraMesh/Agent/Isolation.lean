import VeraMesh.Agent.Authority

/-!
# Sessions do not touch each other

The steps that an agent makes for a session leave alone the lanes and the managed processes of all
other sessions, and no two sessions have a lane id in common.

* `LaneRegistry.Frame`: lanes outside of a step are as before, but for expired ones.
* `sessions_isolated`: the frame of every step of every run, and the injectivity of the two maps
  from public to internal names.
-/

namespace VeraMesh

open Python

/-! ## Lanes -/

/-- The lanes in `P` are as before, but for expired ones that may be gone. -/
structure LaneRegistry.Frame (now : PyFloat) (P : String → Prop) (r r' : LaneRegistry) :
    Prop where
  kept : ∀ laneId lane, P laneId → r.lanes.get? laneId = some lane → lane.expired now = false →
    r'.lanes.get? laneId = some lane
  same : ∀ laneId lane, P laneId → r'.lanes.get? laneId = some lane →
    r.lanes.get? laneId = some lane

namespace LaneRegistry

variable {rt : Runtime} {r r' : LaneRegistry} {now : PyFloat} {P : String → Prop}
  {laneId : String}

theorem Frame.refl (r : LaneRegistry) : Frame now P r r := ⟨fun _ _ _ h _ => h, fun _ _ _ h => h⟩

theorem Swept.frame (h : Swept now r r') : Frame now P r r' :=
  ⟨fun _ _ _ hget hlive => h.get?_of_not_expired hget hlive, fun _ _ _ hget => h.get?_of_get? hget⟩

/-- Opening a lane leaves the lanes alone of which it is none. -/
theorem frame_openLane {taskId : String} {capabilities : List String}
    {claims : List ResourceClaim} {ttl : PyFloat} {allocated : Except PyError ℤ} {lane : Lane}
    (hopen : r.openLane rt laneId taskId capabilities claims ttl now allocated = (.ok lane, r'))
    (houtside : ¬P laneId) : Frame now P r r' := by
  obtain ⟨r₀, fence, rfl, -, rfl, -⟩ := openLane_ok hopen
  have hswept := swept_reapExpiredLocked r now
  have hne : ∀ {id}, P id → id ≠ laneId := fun hid heq => houtside (heq ▸ hid)
  refine ⟨fun id other hid hget hlive => ?_, fun id other hid hget => ?_⟩
  · show ((r.reapExpiredLocked now).2.lanes.set laneId lane).get? id = some other
    rw [Dict.get?_set_ne _ _ (hne hid)]
    exact hswept.get?_of_not_expired hget hlive
  · rw [Dict.get?_set_ne _ _ (hne hid)] at hget
    exact hswept.get?_of_get? hget

theorem frame_renew {fencingToken : ℤ} {ttl : PyFloat} {lane : Lane}
    (hrenew : r.renew laneId fencingToken ttl now = (.ok lane, r')) (houtside : ¬P laneId) :
    Frame now P r r' := by
  obtain ⟨-, -, -, -, -, rfl⟩ := renew_ok hrenew
  have hne : ∀ {id}, P id → id ≠ laneId := fun hid heq => houtside (heq ▸ hid)
  refine ⟨fun id other hid hget _ => ?_, fun id other hid hget => ?_⟩
  · show (r.lanes.set laneId lane).get? id = some other
    rw [Dict.get?_set_ne _ _ (hne hid), hget]
  · rwa [Dict.get?_set_ne _ _ (hne hid)] at hget

theorem frame_close {fencingToken : ℤ} {result : Except PyError Lane}
    (hclose : r.close laneId fencingToken now = (result, r')) (houtside : ¬P laneId) :
    Frame now P r r' := by
  cases result with
  | error exc => exact (close_error hclose).frame
  | ok lane =>
    obtain ⟨rfl, -⟩ := close_ok hclose
    have hne : ∀ {id}, P id → id ≠ laneId := fun hid heq => houtside (heq ▸ hid)
    refine ⟨fun id other hid hget _ => ?_, fun id other hid hget => ?_⟩
    · show (r.lanes.erase laneId).get? id = some other
      rw [Dict.get?_erase_ne _ (hne hid), hget]
    · rwa [Dict.get?_erase_ne _ (hne hid)] at hget

end LaneRegistry

namespace VeraPortAgent

variable {w : Workstation} {sessions : Sessions} {Past : LaneRegistry → Prop}
  {s s' : VeraPortAgent} {event : Event} {output : Output} {a : String}

/-- A task beyond its start operates on a lane of the session that its steps are for. -/
theorem Inv.inSession {task : ℕ} {t : Task} (h : Inv w sessions Past s)
    (hget : s.tasks.get? task = some t) (hphase : t.phase ≠ .idle)
    (hactor : (s.tasks.get? task).map (·.job.sessionId) = some a) : InSession a t.laneId := by
  rw [hget] at hactor
  exact Option.some.inj hactor ▸ (h.tasks hget).lane hphase

/-- What a step is for is a session. -/
theorem Inv.actor (h : Inv w sessions Past s)
    (hstep : s.step w sessions event = some (s', output)) (hactor : event.actor s = some a) :
    ∃ binding, sessions.binding a = some binding := by
  have htask : ∀ {task}, (s.tasks.get? task).map (·.job.sessionId) = some a →
      ∃ binding, sessions.binding a = some binding := by
    intro task hmap
    obtain ⟨t, hget, rfl⟩ := Option.map_eq_some_iff.mp hmap
    exact (h.tasks hget).session
  cases event with
  | deliver | closeSession =>
    obtain rfl := Option.some.inj hactor
    unfold VeraPortAgent.step at hstep
    dsimp only at hstep
    split at hstep
    · cases hstep
    next binding hbinding => exact ⟨binding, hbinding⟩
  | exit | watchdog => cases hactor
  | acquire | dispatch | authorize | finish | terminate | closeLane | nextLane | cancel =>
    exact htask hactor

/-- A step for a session leaves the lanes of the others alone. -/
theorem Step.frame_registry (h : Inv w sessions Past s)
    (hstep : Step w sessions s event s' output) (hactor : event.actor s = some a) :
    LaneRegistry.Frame event.now (fun laneId => ¬InSession a laneId) s.registry s'.registry := by
  cases hstep with
  | immediate stateStore registry job result hfree hjob hsession hswept hresult =>
    rw [conclude_registry]
    exact hswept.frame
  | raised registry exc complete hget hevent hphase hswept =>
    rw [conclude_registry]
    exact hswept.frame
  | opened hget hphase hjob hbody hopen =>
    rw [conclude_registry]
    exact LaneRegistry.frame_openLane hopen
      (not_not_intro (h.inSession hget (by simp [hphase]) hactor))
  | renewed hget hphase hjob hbody hrenew =>
    rw [conclude_registry]
    exact LaneRegistry.frame_renew hrenew
      (not_not_intro (h.inSession hget (by simp [hphase]) hactor))
  | closed hget hphase hclose =>
    rw [conclude_registry]
    exact LaneRegistry.frame_close hclose
      (not_not_intro (h.inSession hget (by simp [hphase]) hactor))
  | authorized hget hphase hauthorize =>
    obtain ⟨rfl, -⟩ := LaneRegistry.authorize_ok hauthorize
    exact LaneRegistry.Frame.refl _
  | sessionBegun => exact (swept_snapshot s.registry _).frame
  | watched => cases hactor
  | cancelled =>
    unfold VeraPortAgent.cancel
    split <;> exact LaneRegistry.Frame.refl _
  | listedNothing | finished =>
    rw [conclude_registry]
    exact LaneRegistry.Frame.refl _
  | refused | entered | acquired | closing | planned | terminated | sessionEntered | sessionDone
  | exited => exact LaneRegistry.Frame.refl _

/-! ## Processes -/

/-- The end of a process of a session leaves those of the others alone. -/
theorem frame_stop {processes : ProcessTable} {ended handle : String} {p : ManagedProcess}
    (howner : ∀ p₀, processes.get? ended = some p₀ → InSession a p₀.ownerLaneId)
    (hp : ¬InSession a p.ownerLaneId) :
    processes.get? handle = some p ↔ (processes.stop ended).get? handle = some p := by
  unfold ProcessTable.stop
  split
  · exact Iff.rfl
  next item hitem =>
    have hitemOwner := howner item hitem
    by_cases hhandle : handle = ended
    · subst hhandle
      rw [hitem, Dict.get?_set_self]
      refine ⟨fun heq => ?_, fun heq => ?_⟩
      · obtain rfl := Option.some.inj heq
        exact absurd hitemOwner hp
      · obtain rfl := Option.some.inj heq
        exact absurd hitemOwner hp
    · rw [Dict.get?_set_ne _ _ hhandle]

theorem ownerLaneId_of_ownedBy {p : ManagedProcess} {laneId : String} {fencingToken : ℤ}
    (h : p.ownedBy laneId fencingToken = true) : p.ownerLaneId = laneId := by
  simp only [ManagedProcess.ownedBy, Bool.and_eq_true, beq_iff_eq] at h
  exact h.1

/-- A step for a session leaves the processes of the others alone. -/
theorem Step.frame_processes (h : Inv w sessions Past s)
    (hstep : Step w sessions s event s' output) (hactor : event.actor s = some a)
    {handle : String} {p : ManagedProcess} (hp : ¬InSession a p.ownerLaneId) :
    s.processes.get? handle = some p ↔ s'.processes.get? handle = some p := by
  cases hstep with
  | @terminated task t complete f ended todo terminated hget hphase =>
    refine frame_stop (fun p₀ hp₀ => ?_) hp
    obtain ⟨p₁, hp₁, howned⟩ := (h.tasks hget).terminates hphase ended (List.mem_cons_self ..)
    obtain rfl := Option.some.inj (hp₁.symm.trans hp₀)
    rw [ownerLaneId_of_ownedBy howned]
    exact h.inSession hget (by simp [hphase]) hactor
  | @finished task t outcome complete f work hget hphase hfresh =>
    rw [conclude_processes]
    have hlane := h.inSession hget (by simp [hphase]) hactor
    have hprogress := (h.tasks hget).progress
    unfold Progress at hprogress
    rw [hphase] at hprogress
    show _ ↔ (s.processesAfter t f work outcome).get? handle = some p
    unfold processesAfter
    split
    next argv cwd maxRuntimeS v started =>
      by_cases hhandle : handle = started
      · subst hhandle
        rw [hfresh _ rfl, Dict.get?_set_self]
        constructor
        · intro heq
          cases heq
        · intro heq
          obtain rfl := Option.some.inj heq
          exact absurd hlane hp
      · rw [Dict.get?_set_ne _ _ hhandle]
    next ended cwd graceS _ =>
      refine frame_stop (fun p₀ hp₀ => ?_) hp
      obtain ⟨p₁, hp₁, howned, -⟩ := hprogress.owned (ended, cwd) (by simp [Work.processes])
      obtain rfl := Option.some.inj (hp₁.symm.trans hp₀)
      rw [ownerLaneId_of_ownedBy howned]
      exact hlane
    · exact Iff.rfl
  | exited | watched => cases hactor
  | cancelled =>
    unfold VeraPortAgent.cancel
    split <;> exact Iff.rfl
  | immediate | raised | opened | renewed | listedNothing | closed => rw [conclude_processes]
  | refused | entered | acquired | closing | planned | authorized | sessionBegun | sessionEntered
  | sessionDone => exact Iff.rfl

end VeraPortAgent

/-- The managed processes that a task is on. -/
def Phase.handles : Phase → List String
  | .checking _ _ work => work.processes.map Prod.fst
  | .working _ work => work.processes.map Prod.fst
  | .terminating _ todo _ => todo
  | .idle | .waiting | .holding => []

/-- A task is on processes of its own lane. -/
theorem TaskOk.handles {w : Workstation} {sessions : Sessions} {Past : LaneRegistry → Prop}
    {processes : ProcessTable} {t : Task} (h : TaskOk w sessions Past processes t)
    {handle : String} (hhandle : handle ∈ t.phase.handles) :
    ∃ p, processes.get? handle = some p ∧ p.ownerLaneId = t.laneId := by
  have hprogress := h.progress
  unfold Progress at hprogress
  unfold Phase.handles at hhandle
  split at hhandle
  next f todo work hphase =>
    rw [hphase] at hprogress
    obtain ⟨e, he, rfl⟩ := List.mem_map.mp hhandle
    obtain ⟨p, hp, howned, -⟩ := hprogress.owned e he
    exact ⟨p, hp, VeraPortAgent.ownerLaneId_of_ownedBy howned⟩
  next f work hphase =>
    rw [hphase] at hprogress
    obtain ⟨e, he, rfl⟩ := List.mem_map.mp hhandle
    obtain ⟨p, hp, howned, -⟩ := hprogress.owned e he
    exact ⟨p, hp, VeraPortAgent.ownerLaneId_of_ownedBy howned⟩
  next f todo terminated hphase =>
    obtain ⟨p, hp, howned⟩ := h.terminates hphase handle hhandle
    exact ⟨p, hp, VeraPortAgent.ownerLaneId_of_ownedBy howned⟩
  all_goals cases hhandle

/-! ## Names -/

section Names

variable {sessions : Sessions} {a b : SessionBinding}

/-- Two sessions have no lane id in common. -/
theorem lanePrefix_inj (ha : sessions.binding a.sessionId = some a)
    (hb : sessions.binding b.sessionId = some b) {x y : String}
    (h : lanePrefix a ++ x = lanePrefix b ++ y) : a.sessionId = b.sessionId ∧ x = y := by
  have hchars : a.sessionId.toList ++ ':' :: (':' :: x.toList) =
      b.sessionId.toList ++ ':' :: (':' :: y.toList) := by
    simpa [lanePrefix, String.toList_append] using congrArg String.toList h
  obtain ⟨hid, hname⟩ := eq_of_append_sep (sessions.noColon ha) (sessions.noColon hb) hchars
  exact ⟨String.toList_inj.mp hid, String.toList_inj.mp (List.cons.inj hname).2⟩

/-- Two controllers have no ledger id in common. -/
theorem requestPrefix_inj (ha : sessions.binding a.sessionId = some a)
    (hb : sessions.binding b.sessionId = some b) {x y : String}
    (h : requestPrefix a ++ x = requestPrefix b ++ y) :
    a.controllerPrincipal = b.controllerPrincipal ∧ x = y := by
  obtain ⟨m, hm, hma⟩ := sessions.principal ha
  obtain ⟨n, hn, hnb⟩ := sessions.principal hb
  have hchars : m.toList ++ ':' :: (':' :: x.toList) = n.toList ++ ':' :: (':' :: y.toList) := by
    simpa [requestPrefix, hma, hnb, String.toList_append] using congrArg String.toList h
  obtain ⟨hid, hname⟩ := eq_of_append_sep hm hn hchars
  refine ⟨?_, String.toList_inj.mp (List.cons.inj hname).2⟩
  rw [hma, hnb, String.toList_inj.mp hid]

end Names

namespace VeraPortAgent

variable {w : Workstation} {sessions : Sessions} {s : VeraPortAgent}

/-- Sessions are isolated. A step for one session leaves alone the unexpired lanes and the managed
processes of any other; a task is on a lane of its own session, and on processes of that lane; and
the internal names of lanes and requests determine the session, the controller and the public
names. -/
theorem sessions_isolated {sessionCapabilities : Finset String} {maxLanes : ℤ}
    {hasAllocator : Bool} {r₀ : LaneRegistry}
    (hcreate : LaneRegistry.create sessionCapabilities maxLanes hasAllocator = .ok r₀)
    (stateStore : Option AgentStateStore) (events : List Event)
    (hrun : (init r₀ stateStore).run w sessions events = some s) :
    (∀ event s' output a b, s.step w sessions event = some (s', output) →
      event.actor s = some a → (∃ binding, sessions.binding b = some binding) → b ≠ a →
      (∀ laneId lane, InSession b laneId →
        (s.registry.lanes.get? laneId = some lane → lane.expired event.now = false →
          s'.registry.lanes.get? laneId = some lane) ∧
        (s'.registry.lanes.get? laneId = some lane →
          s.registry.lanes.get? laneId = some lane)) ∧
      ∀ handle p, InSession b p.ownerLaneId →
        (s.processes.get? handle = some p ↔ s'.processes.get? handle = some p)) ∧
    (∀ task t, s.tasks.get? task = some t → t.phase ≠ .idle →
      InSession t.job.sessionId t.laneId ∧
        ∀ handle ∈ t.phase.handles,
          ∃ p, s.processes.get? handle = some p ∧ p.ownerLaneId = t.laneId) ∧
    ∀ a b nowMs nowMs' request request' externalRequestId externalRequestId' internal internal',
      sessions.binding a.sessionId = some a → sessions.binding b.sessionId = some b →
      SessionBoundHandler.scope w.rt a nowMs request = .ok (externalRequestId, internal) →
      SessionBoundHandler.scope w.rt b nowMs' request' = .ok (externalRequestId', internal') →
      (internal.get? "request_id" = internal'.get? "request_id" →
        a.controllerPrincipal = b.controllerPrincipal ∧
          externalRequestId = externalRequestId') ∧
      (internal.get? "lane_id" = internal'.get? "lane_id" → internal.get? "lane_id" ≠ none →
        a.sessionId = b.sessionId ∧ request.get? "lane_id" = request'.get? "lane_id") := by
  have hinit : Inv w sessions (fun _ => True) (init r₀ stateStore) := Inv.init stateStore hcreate
  have hinv := hinit.run (fun _ _ => trivial) hrun
  refine ⟨fun event s' output a b hstep hactor hb hne => ?_, fun task t hget hphase => ?_, ?_⟩
  · have hcases := step_cases hstep
    obtain ⟨binding, hbinding⟩ := hb
    obtain ⟨own, hown⟩ : ∃ own, sessions.binding a = some own := hinv.actor hstep hactor
    -- a lane of `b` is none of `a`
    have houtside : ∀ laneId, InSession b laneId → ¬InSession a laneId := fun laneId h h' =>
      hne (h.unique (sessions.noColon hbinding) (sessions.noColon hown) h')
    have hframe := hcases.frame_registry hinv hactor
    exact ⟨fun laneId lane hlane => ⟨hframe.kept laneId lane (houtside laneId hlane),
      hframe.same laneId lane (houtside laneId hlane)⟩,
      fun handle p hp => hcases.frame_processes hinv hactor (houtside _ hp)⟩
  · have ht := hinv.tasks hget
    exact ⟨ht.lane hphase, fun handle hhandle => ht.handles hhandle⟩
  · intro a b nowMs nowMs' request request' ext ext' internal internal' ha hb hscope hscope'
    obtain ⟨hid, -, hlane⟩ := SessionBoundHandler.get?_of_scope_ok hscope
    obtain ⟨hid', -, hlane'⟩ := SessionBoundHandler.get?_of_scope_ok hscope'
    refine ⟨fun heq => ?_, fun heq hsome => ?_⟩
    · rw [hid, hid'] at heq
      exact requestPrefix_inj ha hb (PyValue.str.inj (Option.some.inj heq))
    · rcases hlane with ⟨hnone, -⟩ | ⟨x, -, hx, hxi⟩
      · exact absurd hnone hsome
      rcases hlane' with ⟨hnone, -⟩ | ⟨y, -, hy, hyi⟩
      · exact absurd (heq.trans hnone) hsome
      rw [hxi, hyi] at heq
      obtain ⟨hsession, rfl⟩ := lanePrefix_inj ha hb (PyValue.str.inj (Option.some.inj heq))
      exact ⟨hsession, hx.trans hy.symm⟩

/-- The session `b` has a lane, and the session `a` is about to open one. -/
def openingEvents : List Event :=
  exampleTurn 0 "b" (exampleOpen "r" "fs:/x") 0 ++
    (exampleTurn 1 "a" (exampleOpen "q" "fs:/y") 1).dropLast

/-- The step that opens it. -/
def openingEvent : Event := .dispatch 1 exampleFileSystem 1 (.error ⟨.runtimeError, ""⟩) ⟨0, false⟩

theorem sessions_isolated_openingEvents :
    ∃ s s' output lane,
      (init exampleRegistry none).run exampleWorkstation exampleSessions openingEvents = some s ∧
      s.step exampleWorkstation exampleSessions openingEvent = some (s', output) ∧
      s.registry.lanes.get? "b::l" = some lane ∧ s'.registry.lanes.get? "b::l" = some lane := by
  have hopening : ((init exampleRegistry none).run exampleWorkstation exampleSessions
      openingEvents).any (fun s =>
        ((s.registry.lanes.get? "b::l").any fun lane => !lane.expired 1) &&
        openingEvent.actor s == some "a" &&
        (s.step exampleWorkstation exampleSessions openingEvent).isSome) = true := by
    decide +kernel
  obtain ⟨s, hs, hall⟩ := (Option.any_eq_true _ _).mp hopening
  simp only [Bool.and_eq_true, beq_iff_eq] at hall
  obtain ⟨⟨hany, hactor⟩, hsome⟩ := hall
  obtain ⟨lane, hlane, hlive⟩ := (Option.any_eq_true _ _).mp hany
  obtain ⟨⟨s', output⟩, hstep⟩ := Option.isSome_iff_exists.mp hsome
  have hframe := (sessions_isolated (show LaneRegistry.create {"fs.write", "process.exec"} 4 false =
    .ok exampleRegistry by decide) none openingEvents hs).1 _ s' output "a" "b" hstep hactor
    ⟨_, rfl⟩ (by decide)
  refine ⟨s, s', output, lane, hs, hstep, hlane, (hframe.1 "b::l" lane ?_).1 hlane ?_⟩
  · exact List.prefix_iff_eq_take.mpr (by decide)
  · show lane.expired 1 = false
    simpa using hlive

end VeraPortAgent

end VeraMesh
