import VeraMesh.Agent.Run
import VeraMesh.Lane.Exclusion

/-!
# What a step can do

`Step` lists the ways in which an agent can move, with everything that was checked on the way;
`step_cases` says that these are all. Invariants are proved by cases on it.
-/

namespace VeraMesh

open Python

/-- The session that a task works for. -/
def Job.sessionId : Job → String
  | .request binding _ _ _ _ _ => binding.sessionId
  | .closeSession sessionId _ _ _ _ => sessionId

/-- The operation of a request. -/
def Job.operation : Job → String
  | .request _ _ _ operation _ _ => operation
  | .closeSession _ _ _ _ _ => ""

@[simp]
theorem Job.operation_addTerminated (handles : List String) (job : Job) :
    (job.addTerminated handles).operation = job.operation := by
  cases job <;> rfl

@[simp]
theorem Job.sessionId_addTerminated (handles : List String) (job : Job) :
    (job.addTerminated handles).sessionId = job.sessionId := by
  cases job <;> rfl

/-- The clock reading of a step, `0` if it makes none. -/
def Event.now : Event → PyFloat
  | .deliver _ _ _ _ _ _ now => now
  | .dispatch _ _ now _ _ => now
  | .authorize _ now _ => now
  | .closeLane _ now _ => now
  | .closeSession _ _ now => now
  | .watchdog _ now _ => now
  | .acquire _ | .finish _ _ _ | .terminate _ _ _ | .nextLane _ | .exit _ | .cancel _ => 0

/-- The task that makes a step. -/
def Event.task : Event → Option ℕ
  | .deliver task _ _ _ _ _ _ => some task
  | .acquire task => some task
  | .dispatch task _ _ _ _ => some task
  | .authorize task _ _ => some task
  | .finish task _ _ => some task
  | .terminate task _ _ => some task
  | .closeLane task _ _ => some task
  | .closeSession task _ _ => some task
  | .nextLane task => some task
  | .cancel task => some task
  | .exit _ | .watchdog _ _ _ => none

/-- The session that a step is for, `none` for one of a managed process. -/
def Event.actor (s : VeraPortAgent) : Event → Option String
  | .deliver _ sessionId _ _ _ _ _ => some sessionId
  | .closeSession _ sessionId _ => some sessionId
  | event => event.task.bind fun task => (s.tasks.get? task).map (·.job.sessionId)

/-- The task of a request that was admitted on a session. -/
structure Arrived (w : Workstation) (sessions : Sessions) (job : Job) : Prop where
  request : ∃ binding externalRequestId requestId operation sha256 request,
    job = .request binding externalRequestId requestId operation sha256 request ∧
    sessions.binding binding.sessionId = some binding ∧
    (∃ nowMs original,
      SessionBoundHandler.scope w.rt binding nowMs original = .ok (externalRequestId, request)) ∧
    VeraPortAgent.checkRequest request = .ok (requestId, operation)

namespace VeraPortAgent

variable {w : Workstation} {sessions : Sessions} {s s' : VeraPortAgent} {output : Output}

/-! ## The end of a lane operation -/

section Conclude

variable {task : ℕ} {t : Task} {result : Except PyError PyValue} {complete : StoreCall}

@[simp]
theorem conclude_registry : (s.conclude task t result complete).1.registry = s.registry := by
  unfold conclude
  split
  · rfl
  · split <;> rfl

@[simp]
theorem conclude_processes : (s.conclude task t result complete).1.processes = s.processes := by
  unfold conclude
  split
  · rfl
  · split <;> rfl

/-- Other tasks go on as they are. -/
theorem conclude_tasks_of_ne {i : ℕ} (h : i ≠ task) :
    (s.conclude task t result complete).1.tasks.get? i = s.tasks.get? i := by
  unfold conclude
  split
  · exact Dict.get?_erase_ne _ h
  · split
    · exact Dict.get?_erase_ne _ h
    · exact Dict.get?_set_ne _ _ h

/-- A task of `close_session` goes on with its other lanes. -/
theorem conclude_tasks_self {t' : Task}
    (h : (s.conclude task t result complete).1.tasks.get? task = some t') :
    t.detached = false ∧ ∃ sessionId todo closed terminated unresolved closed' unresolved',
      t.job = .closeSession sessionId todo closed terminated unresolved ∧
      t' = { t with
        job := .closeSession sessionId todo.tail closed' terminated unresolved'
        phase := .idle } := by
  unfold conclude at h
  cases hd : t.detached with
  | true => simp [hd] at h
  | false =>
    simp only [hd, Bool.false_eq_true, if_false] at h
    cases hjob : t.job with
    | request => simp [hjob] at h
    | closeSession sessionId todo closed terminated unresolved =>
      simp only [hjob, Dict.get?_set_self, Option.some.injEq] at h
      cases result with
      | ok v => exact ⟨rfl, sessionId, todo, closed, terminated, unresolved, _, _, rfl, h.symm⟩
      | error exc => exact ⟨rfl, sessionId, todo, closed, terminated, unresolved, _, _, rfl, h.symm⟩

theorem conclude_locks :
    (s.conclude task t result complete).1.locks = s.locks ∧ t.detached = true ∨
      (s.conclude task t result complete).1.locks = s.locks.exit task ∧ t.detached = false := by
  unfold conclude
  cases hd : t.detached with
  | true => exact Or.inl ⟨rfl, rfl⟩
  | false =>
    refine Or.inr ⟨?_, rfl⟩
    simp only [Bool.false_eq_true, if_false]
    split <;> rfl

/-- What completes is the request of the task, with the result of its dispatch. -/
theorem conclude_completed {t' : Task} {result' : Except PyError PyValue} {response : Response}
    (h : (s.conclude task t result complete).2 = .completed t' result' response) :
    t' = t ∧ result' = result ∧ t.detached = false ∧
      ∃ binding externalRequestId requestId operation sha256 request,
        t.job = .request binding externalRequestId requestId operation sha256 request := by
  unfold conclude at h
  cases hd : t.detached with
  | true => simp [hd] at h
  | false =>
    simp only [hd, Bool.false_eq_true, if_false] at h
    split at h
    next hjob =>
      simp only [Output.completed.injEq] at h
      exact ⟨h.1.symm, h.2.1.symm, rfl, _, _, _, _, _, _, hjob⟩
    · cases h

end Conclude

/-! ## The steps -/

/-- The ways in which an agent can move. -/
inductive Step (w : Workstation) (sessions : Sessions) (s : VeraPortAgent) :
    Event → VeraPortAgent → Output → Prop where
  /-- A request is refused, or answered from the ledger. -/
  | refused {task sessionId request nowMs beginCall complete now} (stateStore : Option AgentStateStore)
      (response : Response) :
      Step w sessions s (.deliver task sessionId request nowMs beginCall complete now)
        { s with stateStore } (.answered response)
  /-- A request is answered without a lane. -/
  | immediate {task sessionId request nowMs beginCall complete now}
      (stateStore : Option AgentStateStore) (registry : LaneRegistry) (job : Job)
      (result : Except PyError PyValue) (hfree : s.tasks.get? task = none)
      (hjob : Arrived w sessions job) (hsession : job.sessionId = sessionId)
      (hswept : LaneRegistry.Swept now s.registry registry)
      (hresult : ∀ v, result = .ok v → job.operation = "lane.list") :
      Step w sessions s (.deliver task sessionId request nowMs beginCall complete now)
        (conclude { s with stateStore, registry } task ⟨job, "", .idle, false, []⟩ result
          complete).1
        (conclude { s with stateStore, registry } task ⟨job, "", .idle, false, []⟩ result
          complete).2
  /-- A request waits for the lock of its lane. -/
  | entered {task sessionId request nowMs beginCall complete now}
      (stateStore : Option AgentStateStore) {binding : SessionBinding}
      {externalRequestId requestId operation : String} {sha256 : Option String}
      {internal : Request} {laneId : String} (hfree : s.tasks.get? task = none)
      (hjob : Arrived w sessions
        (.request binding externalRequestId requestId operation sha256 internal))
      (hsession : binding.sessionId = sessionId)
      (hstart : w.dispatchStart internal operation = .ok (.onLane laneId)) :
      Step w sessions s (.deliver task sessionId request nowMs beginCall complete now)
        { s with
          stateStore
          locks := s.locks.enter task laneId
          tasks := s.tasks.set task
            ⟨.request binding externalRequestId requestId operation sha256 internal, laneId,
              .waiting, false, []⟩ } .silent
  | acquired {task t locks} (hget : s.tasks.get? task = some t) (hphase : t.phase = .waiting)
      (hacquire : s.locks.acquire task = some locks) :
      Step w sessions s (.acquire task) { s.setPhase task t .holding with locks } .silent
  /-- A lane operation raises. -/
  | raised {event : Event} {task : ℕ} {t : Task} (registry : LaneRegistry)
      (exc : PyError) (complete : StoreCall) (hget : s.tasks.get? task = some t)
      (hevent : (∃ fs now allocated, event = .dispatch task fs now allocated complete) ∨
        (∃ now, event = .authorize task now complete) ∨
        ∃ outcome, event = .terminate task outcome complete)
      (hphase : t.phase = .holding ∨ (∃ f todo work, t.phase = .checking f todo work) ∨
        ∃ f todo terminated, t.phase = .terminating f todo terminated)
      (hswept : LaneRegistry.Swept event.now s.registry registry) :
      Step w sessions s event
        (conclude { s with registry } task t (.error exc) complete).1
        (conclude { s with registry } task t (.error exc) complete).2
  | opened {task t fs now allocated complete} {binding : SessionBinding}
      {externalRequestId requestId operation : String} {sha256 : Option String}
      {request : Request} {taskId : String} {capabilities : List String}
      {claims : List ResourceClaim} {ttlS : PyFloat} {lane : Lane} {registry : LaneRegistry}
      (hget : s.tasks.get? task = some t) (hphase : t.phase = .holding)
      (hjob : t.job = .request binding externalRequestId requestId operation sha256 request)
      (hbody : w.dispatchBody request fs s.processes t.laneId operation =
        .ok (.openLane taskId capabilities claims ttlS))
      (hopen : s.registry.openLane w.rt t.laneId taskId capabilities claims ttlS now allocated =
        (.ok lane, registry)) :
      Step w sessions s (.dispatch task fs now allocated complete)
        (conclude { s with registry } task t (.ok (laneJson lane)) complete).1
        (conclude { s with registry } task t (.ok (laneJson lane)) complete).2
  | renewed {task t fs now allocated complete} {binding : SessionBinding}
      {externalRequestId requestId operation : String} {sha256 : Option String}
      {request : Request} {fencingToken : ℤ} {ttlS : PyFloat} {lane : Lane}
      {registry : LaneRegistry} (hget : s.tasks.get? task = some t) (hphase : t.phase = .holding)
      (hjob : t.job = .request binding externalRequestId requestId operation sha256 request)
      (hbody : w.dispatchBody request fs s.processes t.laneId operation =
        .ok (.renewLane fencingToken ttlS))
      (hrenew : s.registry.renew t.laneId fencingToken ttlS now = (.ok lane, registry)) :
      Step w sessions s (.dispatch task fs now allocated complete)
        (conclude { s with registry } task t (.ok (laneJson lane)) complete).1
        (conclude { s with registry } task t (.ok (laneJson lane)) complete).2
  /-- `process_list` finds no process of the lane. -/
  | listedNothing {task t fs now allocated complete} {binding : SessionBinding}
      {externalRequestId requestId operation : String} {sha256 : Option String}
      {request : Request} {fencingToken : ℤ} {plan : Plan} (hget : s.tasks.get? task = some t)
      (hphase : t.phase = .holding)
      (hjob : t.job = .request binding externalRequestId requestId operation sha256 request)
      (hbody : w.dispatchBody request fs s.processes t.laneId operation =
        .ok (.perform fencingToken plan)) (hchecks : plan.checks = []) :
      Step w sessions s (.dispatch task fs now allocated complete)
        (s.conclude task t (.ok (.dict [("processes", .list [])])) complete).1
        (s.conclude task t (.ok (.dict [("processes", .list [])])) complete).2
  /-- The processes of a lane are to be terminated. -/
  | closing {task t fs now allocated complete} {fencingToken : ℤ}
      (hget : s.tasks.get? task = some t) (hphase : t.phase = .holding)
      (hjob : (∃ binding externalRequestId requestId operation sha256 request,
          t.job = .request binding externalRequestId requestId operation sha256 request ∧
          w.dispatchBody request fs s.processes t.laneId operation =
            .ok (.closeLane fencingToken)) ∨
        ∃ sessionId todo closed terminated unresolved,
          t.job = .closeSession sessionId todo closed terminated unresolved) :
      Step w sessions s (.dispatch task fs now allocated complete)
        (s.setPhase task t
          (.terminating fencingToken (s.processes.owned t.laneId fencingToken) [])) .silent
  | planned {task t fs now allocated complete} {binding : SessionBinding}
      {externalRequestId requestId operation : String} {sha256 : Option String}
      {request : Request} {fencingToken : ℤ} {plan : Plan} (hget : s.tasks.get? task = some t)
      (hphase : t.phase = .holding)
      (hjob : t.job = .request binding externalRequestId requestId operation sha256 request)
      (hbody : w.dispatchBody request fs s.processes t.laneId operation =
        .ok (.perform fencingToken plan)) (hchecks : plan.checks ≠ []) :
      Step w sessions s (.dispatch task fs now allocated complete)
        (s.setPhase task t (.checking fencingToken plan.checks plan.work)) .silent
  | authorized {task t now complete} {fencingToken : ℤ} {check : Check} {todo : List Check}
      {work : Work} {lane : Lane} {registry : LaneRegistry} (hget : s.tasks.get? task = some t)
      (hphase : t.phase = .checking fencingToken (check :: todo) work)
      (hauthorize : s.registry.authorize w.rt t.laneId fencingToken check.capability
        (some check.resourceKey) (some check.resourceMode) now = (.ok lane, registry)) :
      Step w sessions s (.authorize task now complete)
        { s with
          registry
          tasks := s.tasks.set task { t with
            phase := .check fencingToken todo work
            grants := t.grants ++ [⟨s.registry, check, now, lane⟩] } } .silent
  | finished {task t outcome complete} {fencingToken : ℤ} {work : Work}
      (hget : s.tasks.get? task = some t) (hphase : t.phase = .working fencingToken work)
      (hfresh : ∀ r, outcome = .ok r → s.processes.get? r.2 = none) :
      Step w sessions s (.finish task outcome complete)
        (conclude { s with processes := s.processesAfter t fencingToken work outcome } task t
          (outcome.map Prod.fst) complete).1
        (conclude { s with processes := s.processesAfter t fencingToken work outcome } task t
          (outcome.map Prod.fst) complete).2
  | terminated {task t complete} {fencingToken : ℤ} {handle : String}
      {todo terminated : List String} (hget : s.tasks.get? task = some t)
      (hphase : t.phase = .terminating fencingToken (handle :: todo) terminated) :
      Step w sessions s (.terminate task (.ok ()) complete)
        (setPhase { s with processes := s.processes.stop handle } task t
          (.terminating fencingToken todo (terminated ++ [handle]))) .silent
  /-- All processes of a lane are terminated, and the registry is asked to drop it. -/
  | closed {task t now complete} {fencingToken : ℤ} {terminated : List String}
      {result : Except PyError Lane} {registry : LaneRegistry}
      (hget : s.tasks.get? task = some t)
      (hphase : t.phase = .terminating fencingToken [] terminated)
      (hclose : s.registry.close t.laneId fencingToken now = (result, registry)) :
      Step w sessions s (.closeLane task now complete)
        (conclude { s with registry } task { t with job := t.job.addTerminated terminated }
          (result.map (laneClosed terminated)) complete).1
        (conclude { s with registry } task { t with job := t.job.addTerminated terminated }
          (result.map (laneClosed terminated)) complete).2
  | sessionBegun {task sessionId now} {binding : SessionBinding}
      (hsession : sessions.binding sessionId = some binding)
      (hfree : s.tasks.get? task = none) :
      Step w sessions s (.closeSession task sessionId now)
        (s.beginCloseSession task sessionId now) .silent
  | sessionEntered {task t} {sessionId laneId : String} {fencingToken : ℤ}
      {todo : List (String × ℤ)} {closed terminated unresolved : List String}
      (hget : s.tasks.get? task = some t) (hphase : t.phase = .idle)
      (hjob : t.job =
        .closeSession sessionId ((laneId, fencingToken) :: todo) closed terminated unresolved) :
      Step w sessions s (.nextLane task)
        { s with
          locks := s.locks.enter task laneId
          tasks := s.tasks.set task { t with laneId, phase := .waiting } } .silent
  | sessionDone {task t} {sessionId : String} {closed terminated unresolved : List String}
      (hget : s.tasks.get? task = some t) (hphase : t.phase = .idle)
      (hjob : t.job = .closeSession sessionId [] closed terminated unresolved) :
      Step w sessions s (.nextLane task) { s with tasks := s.tasks.erase task }
        (.drained sessionId (closed.insertionSort (· ≤ ·)) (terminated.insertionSort (· ≤ ·))
          (unresolved.insertionSort (· ≤ ·)))
  | exited {handle} :
      Step w sessions s (.exit handle) { s with processes := s.processes.stop handle } .silent
  | watched {handle now deadlinePassed} {p : ManagedProcess}
      (hget : s.processes.get? handle = some p) :
      Step w sessions s (.watchdog handle now deadlinePassed)
        (s.watch w handle p now deadlinePassed) .silent
  | cancelled {task t} (hget : s.tasks.get? task = some t) (hattached : t.detached = false) :
      Step w sessions s (.cancel task) (s.cancel task t) .silent

theorem arrived_of_deliver {binding : SessionBinding} {sessionId : String} {request : Request}
    {nowMs : ℤ} {externalRequestId requestId operation : String} {internal : Request}
    {sha256 : Option String} {stateStore stateStore' : Option AgentStateStore} {beginMs : ℤ}
    {sqliteError : Bool} (hbinding : sessions.binding sessionId = some binding)
    (hscope : SessionBoundHandler.scope w.rt binding nowMs request =
      .ok (externalRequestId, internal))
    (hadmission : admitRequest w.digest stateStore internal beginMs sqliteError =
      (.dispatched requestId operation sha256, stateStore')) :
    Arrived w sessions (.request binding externalRequestId requestId operation sha256 internal) := by
  have hid := sessions.sessionId_eq hbinding
  refine ⟨_, _, _, _, _, _, rfl, hid ▸ hbinding, ⟨nowMs, request, hscope⟩, ?_⟩
  unfold admitRequest at hadmission
  dsimp only at hadmission
  split at hadmission
  · simp at hadmission
  next id op hcheck =>
    have hsame : id = requestId ∧ op = operation := by
      split at hadmission
      · simp only [Prod.mk.injEq, Admission.dispatched.injEq] at hadmission
        exact ⟨hadmission.1.1, hadmission.1.2.1⟩
      · split at hadmission
        · split at hadmission
          · simp at hadmission
          · simp at hadmission
          · simp only [Prod.mk.injEq, Admission.dispatched.injEq] at hadmission
            exact ⟨hadmission.1.1, hadmission.1.2.1⟩
        · simp only [Prod.mk.injEq, Admission.dispatched.injEq] at hadmission
          exact ⟨hadmission.1.1, hadmission.1.2.1⟩
    rw [hcheck, hsame.1, hsame.2]

theorem swept_snapshot (r : LaneRegistry) (now : PyFloat) :
    LaneRegistry.Swept now r (r.snapshot now).2 :=
  LaneRegistry.swept_reapExpiredLocked r now

theorem step_deliver {task : ℕ} {sessionId : String} {request : Request} {nowMs : ℤ}
    {beginCall complete : StoreCall} {now : PyFloat} {binding : SessionBinding}
    (hbinding : sessions.binding sessionId = some binding) (hfree : s.tasks.get? task = none) :
    Step w sessions s (.deliver task sessionId request nowMs beginCall complete now)
      (s.deliver w task binding request nowMs beginCall complete now).1
      (s.deliver w task binding request nowMs beginCall complete now).2 := by
  unfold deliver
  cases hscope : SessionBoundHandler.scope w.rt binding nowMs request with
  | error refusal => exact .refused s.stateStore refusal
  | ok names =>
    obtain ⟨externalRequestId, internal⟩ := names
    dsimp only
    rcases hadmit : admitRequest w.digest s.stateStore internal beginCall.nowMs
      beginCall.sqliteError with ⟨admission, stateStore⟩
    cases admission with
    | answered response => exact .refused stateStore _
    | dispatched requestId operation sha256 =>
      have harrived := arrived_of_deliver hbinding hscope hadmit
      have hid := sessions.sessionId_eq hbinding
      dsimp only
      cases hstart : w.dispatchStart internal operation with
      | error exc =>
        exact .immediate stateStore s.registry _ _ hfree harrived hid (LaneRegistry.Swept.refl ..)
          (fun v hv => by cases hv)
      | ok start =>
        cases start with
        | listLanes =>
          exact .immediate stateStore (s.registry.snapshot now).2 _ _ hfree harrived hid
            (swept_snapshot s.registry now) (fun _ _ => Workstation.dispatchStart_listLanes hstart)
        | onLane laneId => exact .entered stateStore hfree harrived hid hstart

theorem step_dispatch {task : ℕ} {t : Task} {fs : FileSystem} {now : PyFloat}
    {allocated : Except PyError ℤ} {complete : StoreCall} (hget : s.tasks.get? task = some t)
    (hphase : t.phase = .holding) :
    Step w sessions s (.dispatch task fs now allocated complete)
      (s.dispatch w task t fs now allocated complete).1
      (s.dispatch w task t fs now allocated complete).2 := by
  have hraised : ∀ exc registry, LaneRegistry.Swept now s.registry registry →
      Step w sessions s (.dispatch task fs now allocated complete)
        (conclude { s with registry } task t (.error exc) complete).1
        (conclude { s with registry } task t (.error exc) complete).2 := fun exc registry hswept =>
    .raised registry exc complete hget (Or.inl ⟨fs, now, allocated, rfl⟩) (Or.inl hphase) hswept
  unfold dispatch
  cases hjob : t.job with
  | closeSession sessionId todo closed terminated unresolved =>
    exact .closing hget hphase (Or.inr ⟨_, _, _, _, _, hjob⟩)
  | request binding externalRequestId requestId operation sha256 request =>
    dsimp only
    cases hbody : w.dispatchBody request fs s.processes t.laneId operation with
    | error exc => exact hraised exc s.registry (LaneRegistry.Swept.refl ..)
    | ok body =>
      cases body with
      | openLane taskId capabilities claims ttlS =>
        dsimp only
        rcases hopen : s.registry.openLane w.rt t.laneId taskId capabilities claims ttlS now
          allocated with ⟨result, registry⟩
        cases result with
        | error exc => exact hraised exc registry (LaneRegistry.openLane_error hopen)
        | ok lane => exact .opened hget hphase hjob hbody hopen
      | renewLane fencingToken ttlS =>
        dsimp only
        rcases hrenew : s.registry.renew t.laneId fencingToken ttlS now with ⟨result, registry⟩
        cases result with
        | error exc => exact hraised exc registry (LaneRegistry.renew_error hrenew)
        | ok lane => exact .renewed hget hphase hjob hbody hrenew
      | closeLane fencingToken =>
        exact .closing hget hphase (Or.inl ⟨_, _, _, _, _, _, hjob, hbody⟩)
      | perform fencingToken plan =>
        dsimp only
        by_cases hchecks : plan.checks = []
        · rw [if_pos hchecks]
          exact .listedNothing hget hphase hjob hbody hchecks
        · rw [if_neg hchecks]
          exact .planned hget hphase hjob hbody hchecks

theorem step_authorize {task : ℕ} {t : Task} {fencingToken : ℤ} {check : Check}
    {todo : List Check} {work : Work} {now : PyFloat} {complete : StoreCall}
    (hget : s.tasks.get? task = some t)
    (hphase : t.phase = .checking fencingToken (check :: todo) work) :
    Step w sessions s (.authorize task now complete)
      (s.authorize w task t fencingToken check todo work now complete).1
      (s.authorize w task t fencingToken check todo work now complete).2 := by
  unfold authorize
  rcases hauth : s.registry.authorize w.rt t.laneId fencingToken check.capability
    (some check.resourceKey) (some check.resourceMode) now with ⟨result, registry⟩
  cases result with
  | error exc =>
    exact .raised registry exc complete hget (Or.inr (Or.inl ⟨now, rfl⟩))
      (Or.inr (Or.inl ⟨_, _, _, hphase⟩)) (LaneRegistry.authorize_error hauth)
  | ok lane => exact .authorized hget hphase hauth

/-- A watchdog changes its own entry of the process table. -/
theorem watch_processes {handle : String} {p : ManagedProcess} {now : PyFloat}
    {deadlinePassed : Bool} : ∃ watchdogTerminated,
      (s.watch w handle p now deadlinePassed).processes =
        s.processes.set handle { p with watchdogTerminated } :=
  ⟨_, rfl⟩

theorem swept_watch {handle : String} {p : ManagedProcess} {now : PyFloat}
    {deadlinePassed : Bool} :
    LaneRegistry.Swept now s.registry (s.watch w handle p now deadlinePassed).registry :=
  LaneRegistry.swept_authorize w.rt s.registry p.ownerLaneId p.ownerFencingToken "process.exec"
    (some (cwdResource p.cwd)) (some .write) now

theorem eq_of_some_eq {p : VeraPortAgent × Output} (h : some p = some (s', output)) :
    s' = p.1 ∧ output = p.2 := by
  obtain rfl := Option.some.inj h
  exact ⟨rfl, rfl⟩

/-- A step is one of those listed. -/
theorem step_cases {event : Event} (h : s.step w sessions event = some (s', output)) :
    Step w sessions s event s' output := by
  unfold step at h
  cases event with
  | deliver task sessionId request nowMs beginCall complete now =>
    dsimp only at h
    split at h
    · cases h
    next binding hbinding =>
      by_cases hfree : s.tasks.contains task = true
      · rw [if_pos hfree] at h
        cases h
      rw [if_neg hfree] at h
      obtain ⟨rfl, rfl⟩ := eq_of_some_eq h
      exact step_deliver hbinding (Dict.contains_eq_false_iff.mp (by simpa using hfree))
  | acquire task =>
    dsimp only at h
    split at h
    next t hget =>
      split at h
      next locks hphase hacquire =>
        obtain ⟨rfl, rfl⟩ := eq_of_some_eq h
        exact .acquired hget hphase hacquire
      · cases h
    · cases h
  | dispatch task fs now allocated complete =>
    dsimp only at h
    split at h
    next t hget =>
      split at h
      next hphase =>
        obtain ⟨rfl, rfl⟩ := eq_of_some_eq h
        exact step_dispatch hget hphase
      · cases h
    · cases h
  | authorize task now complete =>
    dsimp only at h
    split at h
    next t hget =>
      split at h
      next hphase =>
        obtain ⟨rfl, rfl⟩ := eq_of_some_eq h
        exact step_authorize hget hphase
      · cases h
    · cases h
  | finish task outcome complete =>
    dsimp only at h
    split at h
    next t hget =>
      split at h
      next fencingToken work hphase =>
        by_cases hused : (outcome.toOption.any fun r => s.processes.contains r.2) = true
        · rw [if_pos hused] at h
          cases h
        rw [if_neg hused] at h
        obtain ⟨rfl, rfl⟩ := eq_of_some_eq h
        refine .finished hget hphase fun r hr => Dict.contains_eq_false_iff.mp ?_
        subst hr
        simpa [Except.toOption] using hused
      · cases h
    · cases h
  | terminate task outcome complete =>
    dsimp only at h
    split at h
    next t hget =>
      split at h
      next fencingToken handle todo terminated hphase =>
        cases outcome with
        | ok u =>
          obtain ⟨rfl, rfl⟩ := eq_of_some_eq h
          exact .terminated hget hphase
        | error exc =>
          obtain ⟨rfl, rfl⟩ := eq_of_some_eq h
          exact .raised s.registry exc complete hget (Or.inr (Or.inr ⟨_, rfl⟩))
            (Or.inr (Or.inr ⟨_, _, _, hphase⟩)) (LaneRegistry.Swept.refl ..)
      · cases h
    · cases h
  | closeLane task now complete =>
    dsimp only at h
    split at h
    next t hget =>
      split at h
      next fencingToken terminated hphase =>
        obtain ⟨rfl, rfl⟩ := eq_of_some_eq h
        exact .closed hget hphase rfl
      · cases h
    · cases h
  | closeSession task sessionId now =>
    dsimp only at h
    split at h
    · cases h
    next binding hbinding =>
      by_cases hfree : s.tasks.contains task = true
      · rw [if_pos hfree] at h
        cases h
      rw [if_neg hfree] at h
      obtain ⟨rfl, rfl⟩ := eq_of_some_eq h
      exact .sessionBegun hbinding (Dict.contains_eq_false_iff.mp (by simpa using hfree))
  | nextLane task =>
    dsimp only at h
    split at h
    next t hget =>
      split at h
      next hjob hphase =>
        obtain ⟨rfl, rfl⟩ := eq_of_some_eq h
        exact .sessionDone hget hphase hjob
      next hjob hphase =>
        obtain ⟨rfl, rfl⟩ := eq_of_some_eq h
        exact .sessionEntered hget hphase hjob
      · cases h
    · cases h
  | exit handle =>
    obtain ⟨rfl, rfl⟩ := eq_of_some_eq h
    exact .exited
  | watchdog handle now deadlinePassed =>
    dsimp only at h
    split at h
    next p hget =>
      split_ifs at h
      obtain ⟨rfl, rfl⟩ := eq_of_some_eq h
      exact .watched hget
    · cases h
  | cancel task =>
    dsimp only at h
    split at h
    next t hget =>
      split_ifs at h with hdetached
      obtain ⟨rfl, rfl⟩ := eq_of_some_eq h
      exact .cancelled hget (by simpa using hdetached)
    · cases h

/-! ## What goes on -/

theorem get?_of_set {tasks : Dict ℕ Task} {task i : ℕ} {u t' : Task}
    (hget : (tasks.set task u).get? i = some t') :
    i = task ∧ t' = u ∨ tasks.get? i = some t' := by
  rw [Dict.get?_set] at hget
  split_ifs at hget with hi
  · exact Or.inl ⟨hi, (Option.some.inj hget).symm⟩
  · exact Or.inr hget

/-- A task that is there when another one concludes was there before, and what is left of the task
that concludes is not at work. -/
theorem get?_of_conclude {task i : ℕ} {t t' : Task} {result : Except PyError PyValue}
    {complete : StoreCall}
    (hget : (s.conclude task t result complete).1.tasks.get? i = some t') :
    s.tasks.get? i = some t' ∨ i = task ∧ t'.phase = .idle ∧ t'.grants = t.grants := by
  by_cases hi : i = task
  · subst hi
    obtain ⟨-, _, _, _, _, _, _, _, -, rfl⟩ := conclude_tasks_self hget
    exact Or.inr ⟨rfl, rfl, rfl⟩
  · rw [conclude_tasks_of_ne hi] at hget
    exact Or.inl hget

/-- What a task is after a step: the same, one that had a call of `authorize` return, or one that is
not at work. -/
theorem Step.task_cases {event : Event} (hstep : Step w sessions s event s' output) {i : ℕ}
    {t' : Task} (hget : s'.tasks.get? i = some t') :
    (∃ t, s.tasks.get? i = some t ∧ t'.laneId = t.laneId ∧ t'.job = t.job ∧
      t'.grants = t.grants ∧ t'.phase = t.phase) ∨
    (∃ t fencingToken check todo work now complete lane, event = .authorize i now complete ∧
      s.tasks.get? i = some t ∧ t.phase = .checking fencingToken (check :: todo) work ∧
      s.registry.authorize w.rt t.laneId fencingToken check.capability (some check.resourceKey)
        (some check.resourceMode) now = (.ok lane, s'.registry) ∧ s'.processes = s.processes ∧
      t' = { t with
        phase := .check fencingToken todo work
        grants := t.grants ++ [⟨s.registry, check, now, lane⟩] }) ∨
    (∀ fencingToken work, t'.phase ≠ .working fencingToken work) ∧
      (t'.grants = [] ∨ ∃ t, s.tasks.get? i = some t ∧ t'.grants = t.grants) := by
  have hsame : s.tasks.get? i = some t' → ∃ t, s.tasks.get? i = some t ∧ t'.laneId = t.laneId ∧
      t'.job = t.job ∧ t'.grants = t.grants ∧ t'.phase = t.phase :=
    fun h => ⟨t', h, rfl, rfl, rfl, rfl⟩
  cases hstep with
  | refused | exited | watched => exact Or.inl (hsame hget)
  | @immediate task _ _ _ _ _ _ _ _ job result hfree hjob =>
    rcases get?_of_conclude hget with hold | ⟨-, hphase, hgrants⟩
    · exact Or.inl (hsame hold)
    · exact Or.inr (Or.inr ⟨by simp [hphase], Or.inl hgrants⟩)
  | raised _ _ _ hget' | opened hget' | renewed hget' | listedNothing hget' | finished hget'
  | closed hget' =>
    rcases get?_of_conclude hget with hold | ⟨rfl, hphase, hgrants⟩
    · exact Or.inl (hsame hold)
    · exact Or.inr (Or.inr ⟨by simp [hphase], Or.inr ⟨_, hget', hgrants⟩⟩)
  | entered | sessionBegun =>
    rcases get?_of_set hget with ⟨-, rfl⟩ | hold
    · exact Or.inr (Or.inr ⟨by simp, Or.inl rfl⟩)
    · exact Or.inl (hsame hold)
  | acquired hget' | closing hget' | planned hget' | terminated hget' | sessionEntered hget' =>
    rcases get?_of_set hget with ⟨rfl, rfl⟩ | hold
    · exact Or.inr (Or.inr ⟨by simp, Or.inr ⟨_, hget', rfl⟩⟩)
    · exact Or.inl (hsame hold)
  | sessionDone =>
    refine Or.inl (hsame ?_)
    rw [Dict.get?_erase] at hget
    split_ifs at hget
    exact hget
  | authorized hget' hphase hauthorize =>
    rcases get?_of_set hget with ⟨rfl, rfl⟩ | hold
    · exact Or.inr (Or.inl ⟨_, _, _, _, _, _, _, _, rfl, hget', hphase, hauthorize, rfl, rfl⟩)
    · exact Or.inl (hsame hold)
  | @cancelled task t hget' hattached =>
    have hdetached : (s.tasks.set task { t with detached := true }).get? i = some t' →
        ∃ t, s.tasks.get? i = some t ∧ t'.laneId = t.laneId ∧ t'.job = t.job ∧
          t'.grants = t.grants ∧ t'.phase = t.phase := by
      intro hset
      rcases get?_of_set hset with ⟨rfl, rfl⟩ | hold
      · exact ⟨t, hget', rfl, rfl, rfl, rfl⟩
      · exact hsame hold
    unfold VeraPortAgent.cancel at hget
    split at hget
    · exact Or.inl (hdetached hget)
    · exact Or.inl (hdetached hget)
    · rw [Dict.get?_erase] at hget
      split_ifs at hget
      exact Or.inl (hsame hget)

/-- A task is at work because it was before, or because the last call of `authorize` returned. -/
theorem Step.working {event : Event} (hstep : Step w sessions s event s' output) {i : ℕ}
    {t' : Task} {fencingToken : ℤ} {work : Work} (hget : s'.tasks.get? i = some t')
    (hphase : t'.phase = .working fencingToken work) :
    (∃ t, s.tasks.get? i = some t ∧ t'.laneId = t.laneId ∧ t'.grants = t.grants ∧
      t.phase = .working fencingToken work) ∨
    ∃ t check now lane, s.tasks.get? i = some t ∧
      t.phase = .checking fencingToken [check] work ∧
      s.registry.authorize w.rt t.laneId fencingToken check.capability (some check.resourceKey)
        (some check.resourceMode) now = (.ok lane, s'.registry) ∧ s'.processes = s.processes ∧
      t'.laneId = t.laneId ∧ t'.grants = t.grants ++ [⟨s.registry, check, now, lane⟩] := by
  rcases hstep.task_cases hget with ⟨t, ht, hlane, -, hgrants, hsame⟩ |
    ⟨t, f, check, todo, work', now, complete, lane, -, ht, hchecking, hauthorize, hprocesses, rfl⟩ |
    ⟨hnot, -⟩
  · exact Or.inl ⟨t, ht, hlane, hgrants, hsame ▸ hphase⟩
  · dsimp only [Phase.check] at hphase
    split_ifs at hphase with htodo
    obtain ⟨rfl, rfl⟩ := Phase.working.inj hphase
    subst htodo
    exact Or.inr ⟨t, check, now, lane, ht, hchecking, hauthorize, hprocesses, rfl, rfl⟩
  · exact absurd hphase (hnot _ _)

/-- What runs after the end of a process ran before, and is another one. -/
theorem running_of_stop {processes : ProcessTable} {ended handle : String} {p : ManagedProcess}
    (hget : (processes.stop ended).get? handle = some p) (hrun : p.running = true) :
    handle ≠ ended ∧ processes.get? handle = some p := by
  unfold ProcessTable.stop at hget
  split at hget
  next hnone =>
    refine ⟨?_, hget⟩
    rintro rfl
    rw [hnone] at hget
    cases hget
  next item hitem =>
    rw [Dict.get?_set] at hget
    split_ifs at hget with hhandle
    · obtain rfl := Option.some.inj hget
      cases hrun
    · exact ⟨hhandle, hget⟩

/-- A process runs because it did before, or because a task has started it. -/
theorem Step.running {event : Event} (hstep : Step w sessions s event s' output)
    {handle : String} {p' : ManagedProcess} (hget : s'.processes.get? handle = some p')
    (hrun : p'.running = true) :
    (∃ p, s.processes.get? handle = some p ∧ p.running = true ∧
      p'.ownerLaneId = p.ownerLaneId ∧ p'.ownerFencingToken = p.ownerFencingToken ∧
      p'.startedUnder = p.startedUnder) ∨
    ∃ task t fencingToken argv cwd maxRuntimeS, s.tasks.get? task = some t ∧
      t.phase = .working fencingToken (.startProcess argv cwd maxRuntimeS) ∧
      p'.ownerLaneId = t.laneId ∧ p'.ownerFencingToken = fencingToken ∧
      p'.startedUnder = t.grants.head?.map (·.lane) := by
  have hsame : s.processes.get? handle = some p' →
      ∃ p, s.processes.get? handle = some p ∧ p.running = true ∧
        p'.ownerLaneId = p.ownerLaneId ∧ p'.ownerFencingToken = p.ownerFencingToken ∧
        p'.startedUnder = p.startedUnder := fun h => ⟨p', h, hrun, rfl, rfl, rfl⟩
  cases hstep with
  | immediate | raised | opened | renewed | listedNothing | closed =>
    rw [conclude_processes] at hget
    exact Or.inl (hsame hget)
  | refused | entered | acquired | closing | planned | authorized | sessionEntered | sessionBegun
  | sessionDone => exact Or.inl (hsame hget)
  | exited | terminated => exact Or.inl (hsame (running_of_stop hget hrun).2)
  | cancelled =>
    unfold VeraPortAgent.cancel at hget
    split at hget <;> exact Or.inl (hsame hget)
  | @watched _ _ _ p hget' =>
    obtain ⟨watchdogTerminated, hprocesses⟩ := watch_processes (w := w) (s := s) (p := p)
    rw [hprocesses, Dict.get?_set] at hget
    split_ifs at hget with hhandle
    · obtain rfl := Option.some.inj hget
      exact Or.inl ⟨p, hhandle ▸ hget', hrun, rfl, rfl, rfl⟩
    · exact Or.inl (hsame hget)
  | @finished task t _ _ fencingToken work hget' hphase hfresh =>
    rw [conclude_processes] at hget
    dsimp only at hget
    unfold processesAfter at hget
    split at hget
    next argv cwd maxRuntimeS v started =>
      rw [Dict.get?_set] at hget
      split_ifs at hget
      · obtain rfl := Option.some.inj hget
        exact Or.inr ⟨task, t, fencingToken, argv, cwd, maxRuntimeS, hget', hphase, rfl, rfl, rfl⟩
      · exact Or.inl (hsame hget)
    · exact Or.inl (hsame (running_of_stop hget hrun).2)
    · exact Or.inl (hsame hget)

/-- What stays of a table after the end of a process. -/
theorem get?_of_stop {processes : ProcessTable} {ended handle : String} {p : ManagedProcess}
    (hget : (processes.stop ended).get? handle = some p) :
    ∃ p₀, processes.get? handle = some p₀ ∧ p.startedUnder = p₀.startedUnder := by
  unfold ProcessTable.stop at hget
  split at hget
  · exact ⟨p, hget, rfl⟩
  next item hitem =>
    rw [Dict.get?_set] at hget
    split_ifs at hget with hhandle
    · obtain rfl := Option.some.inj hget
      exact ⟨item, hhandle ▸ hitem, rfl⟩
    · exact ⟨p, hget, rfl⟩

/-- A process was started under a lane by a task that was authorised on it. -/
theorem Step.startedUnder {event : Event} (hstep : Step w sessions s event s' output)
    {handle : String} {p' : ManagedProcess} {l : Lane}
    (hget : s'.processes.get? handle = some p') (hl : p'.startedUnder = some l) :
    (∃ p, s.processes.get? handle = some p ∧ p.startedUnder = some l) ∨
      ∃ i t g, s.tasks.get? i = some t ∧ g ∈ t.grants ∧ g.lane = l := by
  have hstop : ∀ {ended}, (s.processes.stop ended).get? handle = some p' →
      ∃ p, s.processes.get? handle = some p ∧ p.startedUnder = some l := by
    intro ended h
    obtain ⟨p₀, hp₀, hstarted⟩ := get?_of_stop h
    exact ⟨p₀, hp₀, hstarted ▸ hl⟩
  cases hstep with
  | immediate | raised | opened | renewed | listedNothing | closed =>
    rw [conclude_processes] at hget
    exact Or.inl ⟨p', hget, hl⟩
  | refused | entered | acquired | closing | planned | authorized | sessionEntered | sessionBegun
  | sessionDone => exact Or.inl ⟨p', hget, hl⟩
  | exited | terminated => exact Or.inl (hstop hget)
  | cancelled =>
    unfold VeraPortAgent.cancel at hget
    split at hget <;> exact Or.inl ⟨p', hget, hl⟩
  | @watched _ _ _ p hget' =>
    obtain ⟨watchdogTerminated, hprocesses⟩ := watch_processes (w := w) (s := s) (p := p)
    rw [hprocesses, Dict.get?_set] at hget
    split_ifs at hget with hhandle
    · obtain rfl := Option.some.inj hget
      exact Or.inl ⟨p, hhandle ▸ hget', hl⟩
    · exact Or.inl ⟨p', hget, hl⟩
  | @finished task t _ _ fencingToken work hget' hphase hfresh =>
    rw [conclude_processes] at hget
    dsimp only at hget
    unfold processesAfter at hget
    split at hget
    · rw [Dict.get?_set] at hget
      split_ifs at hget
      · obtain rfl := Option.some.inj hget
        obtain ⟨g, hg, rfl⟩ := Option.map_eq_some_iff.mp hl
        exact Or.inr ⟨task, t, g, hget', List.mem_of_mem_head? hg, rfl⟩
      · exact Or.inl ⟨p', hget, hl⟩
    · exact Or.inl (hstop hget)
    · exact Or.inl ⟨p', hget, hl⟩

/-! ## Runs -/

/-- The registry changes by its own operations only. -/
theorem Step.change {event : Event} (hstep : Step w sessions s event s' output) :
    ∃ now, LaneRegistry.Change w.rt now s.registry s'.registry := by
  cases hstep with
  | @immediate _ _ _ _ _ _ now _ registry _ _ _ _ _ hswept _ =>
    rw [conclude_registry]
    exact ⟨now, .sweep hswept⟩
  | raised registry exc complete hget hevent hphase hswept =>
    rw [conclude_registry]
    exact ⟨event.now, .sweep hswept⟩
  | @opened _ t _ now allocated _ _ _ _ _ _ _ taskId capabilities claims ttlS _ _ _ _ _ _ hopen =>
    have hchange := LaneRegistry.change_openLane w.rt s.registry t.laneId taskId capabilities
      claims ttlS now allocated
    rw [hopen] at hchange
    rw [conclude_registry]
    exact ⟨now, hchange⟩
  | @renewed _ t _ now _ _ _ _ _ _ _ _ fencingToken ttlS _ _ _ _ _ _ hrenew =>
    have hchange :=
      LaneRegistry.change_renew w.rt s.registry t.laneId fencingToken ttlS now
    rw [hrenew] at hchange
    rw [conclude_registry]
    exact ⟨now, hchange⟩
  | @closed _ t now _ fencingToken _ _ _ _ _ hclose =>
    have hchange := LaneRegistry.change_close w.rt s.registry t.laneId fencingToken now
    rw [hclose] at hchange
    rw [conclude_registry]
    exact ⟨now, hchange⟩
  | @authorized _ t now _ fencingToken check _ _ _ _ _ _ hauthorize =>
    have hswept := LaneRegistry.swept_authorize w.rt s.registry t.laneId fencingToken
      check.capability (some check.resourceKey) (some check.resourceMode) now
    rw [hauthorize] at hswept
    exact ⟨now, .sweep hswept⟩
  | @sessionBegun _ _ now _ _ _ => exact ⟨now, .sweep (swept_snapshot s.registry now)⟩
  | @watched _ now _ _ _ => exact ⟨now, .sweep swept_watch⟩
  | listedNothing | finished =>
    rw [conclude_registry]
    exact ⟨0, .sweep (LaneRegistry.Swept.refl ..)⟩
  | cancelled =>
    unfold VeraPortAgent.cancel
    split <;> exact ⟨0, .sweep (LaneRegistry.Swept.refl ..)⟩
  | refused | entered | acquired | closing | planned | terminated | sessionEntered | sessionDone
  | exited => exact ⟨0, .sweep (LaneRegistry.Swept.refl ..)⟩

/-- The state is reached on the way. -/
def Along (w : Workstation) (sessions : Sessions) (s₀ : VeraPortAgent) (events : List Event)
    (s : VeraPortAgent) : Prop :=
  ∃ visited, visited <+: events ∧ s₀.run w sessions visited = some s

/-- What holds at the start and is kept by every step on the way holds at the end. -/
theorem run_invariant {P : VeraPortAgent → Prop} {s₀ : VeraPortAgent} {events : List Event}
    (hrun : s₀.run w sessions events = some s) (hinit : P s₀)
    (hstep : ∀ {s event s' output}, Along w sessions s₀ events s → P s →
      Step w sessions s event s' output → P s') : P s := by
  induction events generalizing s₀ with
  | nil =>
    obtain rfl := Option.some.inj hrun
    exact hinit
  | cons event events ih =>
    rw [run, Option.bind_eq_some_iff] at hrun
    obtain ⟨⟨s₁, output⟩, hfirst, hrest⟩ := hrun
    have hfront : ∀ {s}, Along w sessions s₁ events s → Along w sessions s₀ (event :: events) s := by
      rintro s ⟨visited, hvisited, hs⟩
      refine ⟨event :: visited, List.cons_prefix_cons.mpr ⟨rfl, hvisited⟩, ?_⟩
      rw [run, hfirst]
      exact hs
    refine ih hrest (hstep ⟨[], List.nil_prefix, rfl⟩ hinit (step_cases hfirst)) fun hs hP h => ?_
    exact hstep (hfront hs) hP h

theorem run_append {s₀ : VeraPortAgent} (events later : List Event) :
    s₀.run w sessions (events ++ later) =
      (s₀.run w sessions events).bind fun s => s.run w sessions later := by
  induction events generalizing s₀ with
  | nil => rfl
  | cons event events ih =>
    rw [List.cons_append, VeraPortAgent.run, VeraPortAgent.run, Option.bind_assoc]
    exact congrArg _ (funext fun next => ih)

end VeraPortAgent

/-! ## An agent with two sessions -/

/-- The sessions `a` and `b` of two controllers. -/
def exampleSessions : Sessions where
  binding id :=
    if id = "a" ∨ id = "b" then
      some ⟨id, "controller:" ++ id, "workstation:w", {"fs.write", "process.exec"}, 1000000⟩
    else none
  sessionId_eq {id b} h := by
    split_ifs at h
    exact (congrArg SessionBinding.sessionId (Option.some.inj h)).symm
  noColon {id b} h := by
    split_ifs at h with hid
    rcases hid with rfl | rfl <;> decide
  principal {id b} h := by
    split_ifs at h with hid
    refine ⟨id, ?_, (congrArg SessionBinding.controllerPrincipal (Option.some.inj h)).symm⟩
    rcases hid with rfl | rfl <;> decide

/-- A workstation with the root directory as its allowed root. -/
def exampleWorkstation : Workstation where
  rt := Runtime.ascii false
  digest _ := ""
  executor := ⟨[⟨"/", []⟩], 65536, true⟩
  workbridge := none

/-- Every path is that of the file `/x`. -/
def exampleFileSystem : FileSystem where
  resolve _ := .ok ⟨"/", ["x"]⟩
  sourceIsSymlink _ := .ok false
  absolute _ := .ok ⟨"/", ["x"]⟩
  isSymlink _ := .ok false

/-- A registry without lanes. -/
def exampleRegistry : LaneRegistry := ⟨{"fs.write", "process.exec"}, 4, .empty, 0, false⟩

/-- A request on the lane `l`. -/
def exampleRequest (requestId operation : String) (fields : List (String × PyValue)) : Request :=
  .ofList ([("protocol_version", .str "veraport-v1"), ("request_id", .str requestId),
    ("operation", .str operation), ("lane_id", .str "l")] ++ fields)

/-- Open the lane `l` for ten seconds, with a write claim. -/
def exampleOpen (requestId key : String) : Request :=
  exampleRequest requestId "lane.open" [("task_id", .str "t"),
    ("capabilities", .list [.str "fs.write", .str "process.exec"]),
    ("claims", .list [.dict [("key", .str key), ("mode", .str "write")]]), ("ttl_s", .float 10)]

/-- A request arrives, gets the lane lock and is dispatched. -/
def exampleTurn (task : ℕ) (sessionId : String) (request : Request) (now : PyFloat) :
    List Event :=
  [.deliver task sessionId request 0 ⟨0, false⟩ ⟨0, false⟩ now, .acquire task,
    .dispatch task exampleFileSystem now (.error ⟨.runtimeError, ""⟩) ⟨0, false⟩]

end VeraMesh
