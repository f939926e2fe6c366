import VeraMesh.Agent.Step

/-!
# Authority only narrows

What a request can reach on a shared agent lies inside everything that was granted on the way: the
grant of its session, the ceiling of the registry, the capabilities and claims of a lane of its own
session, and the allowed roots.

* `Inv`: lanes hold what the session in their name was granted, and a task in progress has been
  authorised for what it does.
* `Inv.step`, `Inv.run`: the invariant holds in every run.
-/

namespace VeraMesh

open Python

/-- The lane id carries the prefix of the session. -/
def InSession (sessionId laneId : String) : Prop := (sessionId ++ "::").toList <+: laneId.toList

/-- A lane id carries the prefix of one session only. -/
theorem InSession.unique {a b laneId : String} (ha : ':' ∉ a.toList) (hb : ':' ∉ b.toList)
    (h₁ : InSession a laneId) (h₂ : InSession b laneId) : a = b := by
  obtain ⟨x, hx⟩ := h₁
  obtain ⟨y, hy⟩ := h₂
  have heq : a.toList ++ ':' :: (':' :: x) = b.toList ++ ':' :: (':' :: y) := by
    simpa [String.toList_append] using hx.trans hy.symm
  exact String.toList_inj.mp (eq_of_append_sep ha hb heq).1

theorem inSession_append (sessionId name : String) :
    InSession sessionId (sessionId ++ "::" ++ name) := by
  rw [InSession, String.toList_append (s := sessionId ++ "::")]
  exact List.prefix_append _ _

/-- Every lane holds what the session in its name was granted. -/
def Scoped (sessions : Sessions) (r : LaneRegistry) : Prop :=
  ∀ laneId lane, r.lanes.get? laneId = some lane →
    ∃ binding, sessions.binding binding.sessionId = some binding ∧
      InSession binding.sessionId laneId ∧
      lane.capabilities ⊆ binding.grantedCapabilities ∧
      lane.capabilities ⊆ r.sessionCapabilities

section Scoped

variable {sessions : Sessions} {r r' : LaneRegistry}

theorem Scoped.swept {now : PyFloat} (h : Scoped sessions r)
    (hswept : LaneRegistry.Swept now r r') : Scoped sessions r' := by
  intro laneId lane hget
  rw [hswept.sessionCapabilities_eq]
  exact h _ _ (hswept.get?_of_get? hget)

/-- A new lane of a session may hold what the session was granted. -/
theorem Scoped.opened {rt : Runtime} {laneId taskId : String} {capabilities : List String}
    {claims : List ResourceClaim} {ttl now : PyFloat} {allocated : Except PyError ℤ} {lane : Lane}
    (h : Scoped sessions r)
    (hopen : r.openLane rt laneId taskId capabilities claims ttl now allocated = (.ok lane, r'))
    {binding : SessionBinding} (hbinding : sessions.binding binding.sessionId = some binding)
    (hsession : InSession binding.sessionId laneId)
    (hgranted : ∀ c ∈ capabilities, c ∈ binding.grantedCapabilities) : Scoped sessions r' := by
  obtain ⟨r₀, fence, rfl, hlane, rfl, -, hceiling, -⟩ := LaneRegistry.openLane_ok hopen
  have hswept : Scoped sessions (r.reapExpiredLocked now).2 :=
    h.swept (LaneRegistry.swept_reapExpiredLocked r now)
  intro id other hget
  rw [Dict.get?_set] at hget
  split_ifs at hget with hid
  · obtain rfl := Option.some.inj hget
    have hcaps : lane.capabilities = capabilities.toFinset := by rw [hlane]
    refine ⟨binding, hbinding, hid ▸ hsession, fun c hc => ?_, hcaps ▸ hceiling⟩
    rw [hcaps, List.mem_toFinset] at hc
    exact hgranted c hc
  · exact hswept _ _ hget

theorem Scoped.renewed {laneId : String} {fencingToken : ℤ} {ttl now : PyFloat} {lane : Lane}
    (h : Scoped sessions r) (hrenew : r.renew laneId fencingToken ttl now = (.ok lane, r')) :
    Scoped sessions r' := by
  obtain ⟨old, hold, -, -, hlane, rfl⟩ := LaneRegistry.renew_ok hrenew
  intro id other hget
  rw [Dict.get?_set] at hget
  split_ifs at hget with hid
  · obtain rfl := Option.some.inj hget
    rw [hid, show lane.capabilities = old.capabilities by rw [hlane]]
    exact h _ _ hold
  · exact h _ _ hget

theorem Scoped.closed {laneId : String} {fencingToken : ℤ} {now : PyFloat}
    {result : Except PyError Lane} (h : Scoped sessions r)
    (hclose : r.close laneId fencingToken now = (result, r')) : Scoped sessions r' := by
  cases result with
  | error exc => exact h.swept (LaneRegistry.close_error hclose)
  | ok lane =>
    obtain ⟨rfl, -⟩ := LaneRegistry.close_ok hclose
    intro id other hget
    rw [Dict.get?_erase] at hget
    split_ifs at hget
    exact h _ _ hget

end Scoped

/-! ## Requests -/

section Request

variable {w : Workstation} {sessions : Sessions} {binding : SessionBinding}
  {externalRequestId requestId operation : String} {sha256 : Option String} {request : Request}

theorem Arrived.facts (h : Arrived w sessions
      (.request binding externalRequestId requestId operation sha256 request)) :
    sessions.binding binding.sessionId = some binding ∧
      (∃ nowMs original,
        SessionBoundHandler.scope w.rt binding nowMs original = .ok (externalRequestId, request)) ∧
      VeraPortAgent.checkRequest request = .ok (requestId, operation) := by
  obtain ⟨b, ext, rid, op, sha, req, hjob, hbinding, hscope, hcheck⟩ := h.request
  cases hjob
  exact ⟨hbinding, hscope, hcheck⟩

/-- A request operates on a lane of its own session. -/
theorem Arrived.inSession {laneId : String} (h : Arrived w sessions
      (.request binding externalRequestId requestId operation sha256 request))
    (hstart : w.dispatchStart request operation = .ok (.onLane laneId)) :
    ∃ name, name ≠ "" ∧ laneId = lanePrefix binding ++ name := by
  obtain ⟨-, ⟨nowMs, original, hscope⟩, -⟩ := h.facts
  obtain ⟨v, hv, rfl⟩ := Workstation.dispatchStart_onLane hstart
  obtain ⟨-, -, ⟨hnone, -⟩ | ⟨name, hne, -, hsome⟩⟩ := SessionBoundHandler.get?_of_scope_ok hscope
  · rw [hnone] at hv
    cases hv
  · rw [hsome] at hv
    cases hv
    exact ⟨name, hne, rfl⟩

/-- A lane is opened with capabilities that the session grants. -/
theorem Arrived.granted {fs : FileSystem} {t : ProcessTable} {laneId taskId : String}
    {capabilities : List String} {claims : List ResourceClaim} {ttlS : PyFloat}
    (h : Arrived w sessions
      (.request binding externalRequestId requestId operation sha256 request))
    (hbody : w.dispatchBody request fs t laneId operation =
      .ok (.openLane taskId capabilities claims ttlS)) :
    ∀ c ∈ capabilities, c ∈ binding.grantedCapabilities := by
  obtain ⟨-, ⟨nowMs, original, hscope⟩, hcheck⟩ := h.facts
  obtain ⟨-, -, -, ⟨op, hop, -, hgrant⟩, -⟩ := SessionBoundHandler.scope_ok hscope
  obtain ⟨-, hkeep, -⟩ := SessionBoundHandler.get?_of_scope_ok hscope
  obtain ⟨-, -, hsame, -⟩ := VeraPortAgent.checkRequest_eq_ok_iff.mp hcheck
  rw [hkeep _ (by decide) (by decide), hop] at hsame
  obtain rfl : op = operation := by simpa using hsame
  obtain ⟨rfl, hbody'⟩ := Workstation.openLaneBody_of_dispatchBody hbody
  obtain ⟨items, hitems, rfl⟩ := Workstation.capabilities_of_openLaneBody hbody'
  have hnone := hgrant rfl
  unfold SessionBoundHandler.grantError at hnone
  rw [getD, hkeep _ (by decide) (by decide), ← getD] at hitems
  intro c hc
  dsimp only at hnone
  split at hnone
  next requested hrequested =>
    rw [hrequested] at hitems
    obtain rfl := Except.ok.inj hitems
    split_ifs at hnone with hextras
    by_contra hnot
    have hmem : c ∈ (requested.map w.rt.str).filter (· ∉ binding.grantedCapabilities) :=
      List.mem_filter.mpr ⟨hc, by simpa using hnot⟩
    rw [hextras] at hmem
    cases hmem
  · cases hnone

end Request

/-! ## The invariant -/

/-- The operations on lanes. -/
def laneOperations : List String := ["lane.list", "lane.open", "lane.renew", "lane.close"]

/-- The call of `authorize` returned, on a registry of the past. -/
structure Granted (w : Workstation) (Past : LaneRegistry → Prop) (laneId : String) (fencingToken : ℤ)
    (g : Grant) : Prop where
  authorized : g.registry.authorize w.rt laneId fencingToken g.check.capability
    (some g.check.resourceKey) (some g.check.resourceMode) g.now = (.ok g.lane, g.registry)
  seen : Past g.registry

/-- An operation of a request that has been authorised, up to what is still `todo`. -/
structure Authorizing (w : Workstation) (Past : LaneRegistry → Prop) (processes : ProcessTable)
    (t : Task) (fencingToken : ℤ) (todo : List Check) (work : Work) : Prop where
  /-- The fence is that of the request. -/
  presented : ∃ binding externalRequestId requestId operation sha256 request,
    t.job = .request binding externalRequestId requestId operation sha256 request ∧
    w.fencingToken request = .ok fencingToken ∧ operation ∉ laneOperations
  needs : work.needs = t.grants.map (·.check) ++ todo
  needs_ne : work.needs ≠ []
  granted : ∀ g ∈ t.grants, Granted w Past t.laneId fencingToken g
  inRoots : ∀ path ∈ work.targets, w.executor.InRoots w.rt path
  owned : work.OwnedBy processes t.laneId fencingToken

/-- How far a task has come. -/
def Progress (w : Workstation) (Past : LaneRegistry → Prop) (processes : ProcessTable) (t : Task) :
    Prop :=
  match t.phase with
  | .checking fencingToken todo work =>
    Authorizing w Past processes t fencingToken todo work
  | .working fencingToken work => Authorizing w Past processes t fencingToken [] work
  | _ => t.grants = []

/-- What is known about a task. -/
structure TaskOk (w : Workstation) (sessions : Sessions) (Past : LaneRegistry → Prop)
    (processes : ProcessTable) (t : Task) : Prop where
  session : ∃ binding, sessions.binding t.job.sessionId = some binding
  arrived : ∀ {binding externalRequestId requestId operation sha256 request},
    t.job = .request binding externalRequestId requestId operation sha256 request →
      Arrived w sessions t.job ∧ w.dispatchStart request operation = .ok (.onLane t.laneId)
  /-- A task operates on a lane of its own session. -/
  lane : t.phase ≠ .idle → InSession t.job.sessionId t.laneId
  todo : ∀ {sessionId todo closed terminated unresolved},
    t.job = .closeSession sessionId todo closed terminated unresolved →
      ∀ l ∈ todo, InSession sessionId l.1
  progress : Progress w Past processes t
  /-- Besides `close_session`, only `lane.close` terminates the processes of a lane. -/
  closing : ∀ {f todo terminated}, t.phase = .terminating f todo terminated →
    ∀ {binding externalRequestId requestId operation sha256 request},
      t.job = .request binding externalRequestId requestId operation sha256 request →
        operation = "lane.close" ∧ w.fencingToken request = .ok f
  /-- What is to be terminated belongs to the lane. -/
  terminates : ∀ {f todo terminated}, t.phase = .terminating f todo terminated →
    ∀ handle ∈ todo, ∃ p, processes.get? handle = some p ∧ p.ownedBy t.laneId f = true

namespace VeraPortAgent

structure Inv (w : Workstation) (sessions : Sessions) (Past : LaneRegistry → Prop)
    (s : VeraPortAgent) : Prop where
  lanes : Scoped sessions s.registry
  inRoots : s.processes.InRoots w.rt w.executor
  tasks : ∀ {task t}, s.tasks.get? task = some t → TaskOk w sessions Past s.processes t

end VeraPortAgent

/-- Processes stay in the table, with their owners and directories. -/
def ProcessTable.Grows (p p' : ProcessTable) : Prop :=
  ∀ handle item, p.get? handle = some item → ∃ item', p'.get? handle = some item' ∧
    item'.ownerLaneId = item.ownerLaneId ∧ item'.ownerFencingToken = item.ownerFencingToken ∧
    item'.cwd = item.cwd

section Grows

variable {p p' : ProcessTable} {w : Workstation} {sessions : Sessions}
  {Past : LaneRegistry → Prop} {t : Task}

theorem ProcessTable.Grows.refl (p : ProcessTable) : p.Grows p :=
  fun _ item h => ⟨item, h, rfl, rfl, rfl⟩

/-- An entry may change but for owner and directory. -/
theorem ProcessTable.grows_set {handle : String} {item item' : ManagedProcess}
    (hget : p.get? handle = some item) (hlane : item'.ownerLaneId = item.ownerLaneId)
    (hfence : item'.ownerFencingToken = item.ownerFencingToken) (hcwd : item'.cwd = item.cwd) :
    p.Grows (p.set handle item') := by
  intro other old hold
  by_cases hother : other = handle
  · subst hother
    rw [hget] at hold
    obtain rfl := Option.some.inj hold
    exact ⟨item', Dict.get?_set_self .., hlane, hfence, hcwd⟩
  · exact ⟨old, by rw [Dict.get?_set_ne _ _ hother, hold], rfl, rfl, rfl⟩

theorem ProcessTable.grows_set_of_fresh {handle : String} (item : ManagedProcess)
    (hfresh : p.get? handle = none) : p.Grows (p.set handle item) := by
  intro other old hold
  have hother : other ≠ handle := by
    rintro rfl
    rw [hfresh] at hold
    cases hold
  exact ⟨old, by rw [Dict.get?_set_ne _ _ hother, hold], rfl, rfl, rfl⟩

theorem ProcessTable.grows_stop (p : ProcessTable) (handle : String) : p.Grows (p.stop handle) := by
  unfold ProcessTable.stop
  split
  · exact ProcessTable.Grows.refl p
  next item hget => exact ProcessTable.grows_set hget rfl rfl rfl

theorem ProcessTable.inRoots_set {handle : String} (item : ManagedProcess)
    (h : p.InRoots w.rt w.executor) (hcwd : w.executor.InRoots w.rt item.cwd) :
    ProcessTable.InRoots w.rt w.executor (p.set handle item) := by
  intro other old hold
  rw [Dict.get?_set] at hold
  split_ifs at hold
  · cases hold
    exact hcwd
  · exact h other old hold

theorem ProcessTable.inRoots_stop {handle : String} (h : p.InRoots w.rt w.executor) :
    (p.stop handle).InRoots w.rt w.executor := by
  unfold ProcessTable.stop
  split
  · exact h
  next item hget => exact ProcessTable.inRoots_set _ h (h handle item hget)

theorem Work.OwnedBy.grows {work : Work} {laneId : String} {fencingToken : ℤ}
    (h : work.OwnedBy p laneId fencingToken) (hgrows : p.Grows p') :
    work.OwnedBy p' laneId fencingToken := by
  intro e he
  obtain ⟨item, hget, hown, hcwd⟩ := h e he
  obtain ⟨item', hget', hlane, hfence, hcwd'⟩ := hgrows _ _ hget
  refine ⟨item', hget', ?_, hcwd'.trans hcwd⟩
  rw [ManagedProcess.ownedBy, hlane, hfence]
  exact hown

theorem Progress.grows (h : Progress w Past p t) (hgrows : p.Grows p') :
    Progress w Past p' t := by
  unfold Progress at h ⊢
  split at h
  · exact ⟨h.presented, h.needs, h.needs_ne, h.granted, h.inRoots, h.owned.grows hgrows⟩
  · exact ⟨h.presented, h.needs, h.needs_ne, h.granted, h.inRoots, h.owned.grows hgrows⟩
  · exact h

theorem TaskOk.detach (h : TaskOk w sessions Past p t) :
    TaskOk w sessions Past p { t with detached := true } := by
  refine ⟨h.session, h.arrived, h.lane, h.todo, ?_, h.closing, h.terminates⟩
  have hprogress := h.progress
  unfold Progress at hprogress ⊢
  dsimp only
  split at hprogress
  · exact ⟨hprogress.presented, hprogress.needs, hprogress.needs_ne, hprogress.granted,
      hprogress.inRoots, hprogress.owned⟩
  · exact ⟨hprogress.presented, hprogress.needs, hprogress.needs_ne, hprogress.granted,
      hprogress.inRoots, hprogress.owned⟩
  · exact hprogress

theorem TaskOk.grows (h : TaskOk w sessions Past p t) (hgrows : p.Grows p') :
    TaskOk w sessions Past p' t := by
  refine ⟨h.session, h.arrived, h.lane, h.todo, h.progress.grows hgrows, h.closing,
    fun hphase handle hhandle => ?_⟩
  obtain ⟨item, hitem, howned⟩ := h.terminates hphase handle hhandle
  obtain ⟨item', hitem', hlane, hfence, -⟩ := hgrows _ _ hitem
  refine ⟨item', hitem', ?_⟩
  rw [ManagedProcess.ownedBy, hlane, hfence]
  exact howned

/-- Only requests are authorised. -/
theorem Authorizing.not_closeSession {fencingToken : ℤ} {todo : List Check}
    {work : Work} (h : Authorizing w Past p t fencingToken todo work) {sessionId : String}
    {lanes : List (String × ℤ)} {closed terminated unresolved : List String} :
    t.job ≠ .closeSession sessionId lanes closed terminated unresolved := by
  obtain ⟨_, _, _, _, _, _, hjob, -⟩ := h.presented
  rw [hjob]
  exact fun hfalse => Job.noConfusion hfalse

/-- What is known about a task of `close_session`. -/
theorem TaskOk.closeSession (h : TaskOk w sessions Past p t) {sessionId : String}
    {todo : List (String × ℤ)} {closed terminated unresolved : List String}
    (hjob : t.job = .closeSession sessionId todo closed terminated unresolved) :
    (∃ binding, sessions.binding sessionId = some binding) ∧
      (∀ l ∈ todo, InSession sessionId l.1) ∧ t.grants = [] := by
  refine ⟨?_, h.todo hjob, ?_⟩
  · have hsession := h.session
    rwa [hjob] at hsession
  · have hprogress := h.progress
    unfold Progress at hprogress
    split at hprogress
    · exact absurd hjob hprogress.not_closeSession
    · exact absurd hjob hprogress.not_closeSession
    · exact hprogress

/-- Nothing has been authorised for a task that is not at an operation. -/
theorem Progress.grants_eq_nil (h : Progress w Past p t)
    (hchecking : ∀ f todo work, t.phase ≠ .checking f todo work)
    (hworking : ∀ f work, t.phase ≠ .working f work) : t.grants = [] := by
  unfold Progress at h
  split at h
  next f todo work hphase => exact absurd hphase (hchecking f todo work)
  next f work hphase => exact absurd hphase (hworking f work)
  · exact h

theorem Arrived.not_closeSession {job : Job} (h : Arrived w sessions job) {sessionId : String}
    {lanes : List (String × ℤ)} {closed terminated unresolved : List String} :
    job ≠ .closeSession sessionId lanes closed terminated unresolved := by
  obtain ⟨_, _, _, _, _, _, rfl, -⟩ := h.request
  exact fun hfalse => Job.noConfusion hfalse

/-- One more call of `authorize` returned. -/
theorem Authorizing.next {fencingToken : ℤ} {check : Check} {todo : List Check}
    {work : Work} (h : Authorizing w Past p t fencingToken (check :: todo) work) {g : Grant}
    (hcheck : g.check = check) (hgrant : Granted w Past t.laneId fencingToken g)
    (phase : Phase) :
    Authorizing w Past p { t with phase, grants := t.grants ++ [g] } fencingToken todo work where
  presented := h.presented
  needs := by
    rw [h.needs, List.map_append, List.append_assoc, ← hcheck]
    rfl
  needs_ne := h.needs_ne
  granted g' hg' := by
    rcases List.mem_append.mp hg' with hold | hnew
    · exact h.granted g' hold
    · rw [List.mem_singleton.mp hnew]
      exact hgrant
  inRoots := h.inRoots
  owned := h.owned

end Grows

namespace VeraPortAgent

variable {w : Workstation} {sessions : Sessions} {Past : LaneRegistry → Prop}
  {s s' : VeraPortAgent} {task : ℕ} {t : Task}

/-- The invariant holds of a state if it holds of the registry, of the table and of the one task
that has moved. -/
theorem Inv.move (h : Inv w sessions Past s) (task : ℕ) (hscoped : Scoped sessions s'.registry)
    (hroots : s'.processes.InRoots w.rt w.executor) (hgrows : s.processes.Grows s'.processes)
    (hothers : ∀ {i}, i ≠ task → s'.tasks.get? i = s.tasks.get? i)
    (hself : ∀ {t'}, s'.tasks.get? task = some t' → TaskOk w sessions Past s'.processes t') :
    Inv w sessions Past s' where
  lanes := hscoped
  inRoots := hroots
  tasks {i t'} hi := by
    by_cases htask : i = task
    · subst htask
      exact hself hi
    · rw [hothers htask] at hi
      exact (h.tasks hi).grows hgrows

/-- A lane operation may end at any time. -/
theorem Inv.conclude {s₁ : VeraPortAgent} {result : Except PyError PyValue}
    {complete : StoreCall} (h : Inv w sessions Past s) (hscoped : Scoped sessions s₁.registry) (hroots : s₁.processes.InRoots w.rt w.executor)
    (hgrows : s.processes.Grows s₁.processes) (htasks : s₁.tasks = s.tasks)
    (ht : ∀ {sessionId todo closed terminated unresolved},
      t.job = .closeSession sessionId todo closed terminated unresolved →
        (∃ binding, sessions.binding sessionId = some binding) ∧
          (∀ l ∈ todo, InSession sessionId l.1) ∧ t.grants = []) :
    Inv w sessions Past (s₁.conclude task t result complete).1 := by
  refine h.move task ?_ ?_ ?_ (fun hi => ?_) (fun {t'} ht' => ?_)
  · rw [conclude_registry]
    exact hscoped
  · rw [conclude_processes]
    exact hroots
  · rw [conclude_processes]
    exact hgrows
  · rw [conclude_tasks_of_ne hi, htasks]
  · obtain ⟨-, sessionId, todo, closed, terminated, unresolved, closed', unresolved', hjob, rfl⟩ :=
      conclude_tasks_self ht'
    obtain ⟨hsession, htodo, hgrants⟩ := ht hjob
    refine ⟨hsession, fun hrequest => ?_, fun hphase => absurd rfl hphase, fun hclose l hl => ?_,
      hgrants, fun hphase => ?_, fun hphase => ?_⟩
    · cases hrequest
    · cases hclose
      exact htodo l (List.mem_of_mem_tail hl)
    · cases hphase
    · cases hphase

/-- A task that has not been authorised moves to another such phase. -/
theorem Inv.setPhase (h : Inv w sessions Past s) (hget : s.tasks.get? task = some t)
    (hidle : t.phase ≠ .idle) (hgrants : t.grants = []) (phase : Phase)
    (hchecking : ∀ f todo work, phase ≠ .checking f todo work)
    (hworking : ∀ f work, phase ≠ .working f work)
    (hclosing : ∀ f todo terminated, phase = .terminating f todo terminated →
      ∀ {binding externalRequestId requestId operation sha256 request},
        t.job = .request binding externalRequestId requestId operation sha256 request →
          operation = "lane.close" ∧ w.fencingToken request = .ok f)
    (hterminates : ∀ f todo terminated, phase = .terminating f todo terminated →
      ∀ handle ∈ todo, ∃ p, s.processes.get? handle = some p ∧ p.ownedBy t.laneId f = true) :
    Inv w sessions Past (s.setPhase task t phase) := by
  have ht := h.tasks hget
  refine h.move task h.lanes h.inRoots (ProcessTable.Grows.refl _)
    (fun hi => Dict.get?_set_ne _ _ hi) (fun {t'} ht' => ?_)
  obtain rfl : { t with phase } = t' := by simpa [VeraPortAgent.setPhase] using ht'
  refine ⟨ht.session, ht.arrived, fun _ => ht.lane hidle, ht.todo, ?_, hclosing _ _ _,
    hterminates _ _ _⟩
  unfold Progress
  dsimp only
  cases phase with
  | checking f todo work => exact absurd rfl (hchecking f todo work)
  | working f work => exact absurd rfl (hworking f work)
  | idle | waiting | holding | terminating => exact hgrants

theorem inv_authorized (hpast : Past s.registry) {now : PyFloat} {fencingToken : ℤ}
    {check : Check} {todo : List Check} {work : Work} {lane : Lane} {registry : LaneRegistry} (h : Inv w sessions Past s)
    (hget : s.tasks.get? task = some t)
    (hphase : t.phase = .checking fencingToken (check :: todo) work)
    (hauthorize : s.registry.authorize w.rt t.laneId fencingToken check.capability
      (some check.resourceKey) (some check.resourceMode) now = (.ok lane, registry)) :
    Inv w sessions Past { s with
      registry
      tasks := s.tasks.set task { t with
        phase := .check fencingToken todo work
        grants := t.grants ++ [⟨s.registry, check, now, lane⟩] } } := by
  have ht := h.tasks hget
  have hprogress := ht.progress
  unfold Progress at hprogress
  rw [hphase] at hprogress
  obtain ⟨rfl, -⟩ := LaneRegistry.authorize_ok hauthorize
  have hgrant : Granted w Past t.laneId fencingToken ⟨s.registry, check, now, lane⟩ :=
    ⟨hauthorize, hpast⟩
  refine h.move task h.lanes h.inRoots (ProcessTable.Grows.refl _)
    (fun hi => Dict.get?_set_ne _ _ hi) (fun {t'} ht' => ?_)
  have ht' := Option.some.inj ((Dict.get?_set_self ..).symm.trans ht')
  subst ht'
  refine ⟨ht.session, ht.arrived, fun _ => ht.lane (by simp [hphase]), ht.todo, ?_, ?_, ?_⟩
  all_goals unfold Phase.check
  · unfold Progress
    by_cases htodo : todo = []
    · subst htodo
      exact hprogress.next rfl hgrant _
    · simp only [if_neg htodo]
      exact hprogress.next rfl hgrant _
  · intro f rest terminated hclosing
    dsimp only at hclosing
    split_ifs at hclosing
  · intro f rest terminated hclosing
    dsimp only at hclosing
    split_ifs at hclosing

theorem inv_planned {fs : FileSystem} {binding : SessionBinding}
    {externalRequestId requestId operation : String} {sha256 : Option String} {request : Request}
    {fencingToken : ℤ} {plan : Plan} (h : Inv w sessions Past s) (hget : s.tasks.get? task = some t)
    (hphase : t.phase = .holding)
    (hjob : t.job = .request binding externalRequestId requestId operation sha256 request)
    (hbody : w.dispatchBody request fs s.processes t.laneId operation =
      .ok (.perform fencingToken plan)) (hchecks : plan.checks ≠ []) :
    Inv w sessions Past (s.setPhase task t (.checking fencingToken plan.checks plan.work)) := by
  have ht := h.tasks hget
  have hgrants := ht.progress.grants_eq_nil (by simp [hphase]) (by simp [hphase])
  obtain ⟨hfence, hsound⟩ := Workstation.sound_of_dispatchBody h.inRoots hbody
  have hlane : operation ∉ laneOperations := Workstation.operation_of_perform hbody
  refine h.move task h.lanes h.inRoots (ProcessTable.Grows.refl _)
    (fun hi => Dict.get?_set_ne _ _ hi) (fun {t'} ht' => ?_)
  have ht' := Option.some.inj ((Dict.get?_set_self ..).symm.trans ht')
  subst ht'
  refine ⟨ht.session, ht.arrived, fun _ => ht.lane (by simp [hphase]), ht.todo, ?_, by simp,
    by simp⟩
  refine ⟨⟨_, _, _, _, _, _, hjob, hfence, hlane⟩, ?_, hsound.checks_eq ▸ hchecks, ?_, hsound.inRoots,
    hsound.owned⟩
  · simp [hgrants, hsound.checks_eq]
  · simp [hgrants]

/-- What a piece of work leaves in the process table. -/
theorem processesAfter_facts {fencingToken : ℤ} {work : Work}
    {outcome : Except PyError (PyValue × String)} (h : Inv w sessions Past s)
    (hroots : ∀ path ∈ work.targets, w.executor.InRoots w.rt path)
    (hfresh : ∀ r, outcome = .ok r → s.processes.get? r.2 = none) :
    s.processes.Grows (s.processesAfter t fencingToken work outcome) ∧
      (s.processesAfter t fencingToken work outcome).InRoots w.rt w.executor := by
  unfold processesAfter
  split
  next argv cwd timeout v handle =>
    exact ⟨ProcessTable.grows_set_of_fresh _ (hfresh _ rfl),
      ProcessTable.inRoots_set _ h.inRoots (hroots cwd (by simp [Work.targets]))⟩
  · exact ⟨ProcessTable.grows_stop _ _, ProcessTable.inRoots_stop h.inRoots⟩
  · exact ⟨ProcessTable.Grows.refl _, h.inRoots⟩

theorem exists_of_mem_owned {processes : ProcessTable} {laneId handle : String} {f : ℤ}
    (h : handle ∈ processes.owned laneId f) :
    ∃ p, processes.get? handle = some p ∧ p.ownedBy laneId f = true := by
  obtain ⟨p, hp⟩ := Dict.mem_keys.mp h
  exact ⟨p, Dict.get?_filter.mp hp⟩

theorem inv_watched {handle : String} {now : PyFloat} {deadlinePassed : Bool} {p : ManagedProcess}
    (h : Inv w sessions Past s) (hget : s.processes.get? handle = some p) :
    Inv w sessions Past (s.watch w handle p now deadlinePassed) := by
  obtain ⟨watchdogTerminated, hprocesses⟩ : ∃ watchdogTerminated,
      (s.watch w handle p now deadlinePassed).processes =
        s.processes.set handle { p with watchdogTerminated } := watch_processes
  have hgrows : s.processes.Grows (s.watch w handle p now deadlinePassed).processes := by
    rw [hprocesses]
    exact ProcessTable.grows_set hget rfl rfl rfl
  refine ⟨h.lanes.swept swept_watch, ?_, fun hi => (h.tasks hi).grows hgrows⟩
  rw [hprocesses]
  exact ProcessTable.inRoots_set _ h.inRoots (h.inRoots handle p hget)

theorem inv_cancelled (h : Inv w sessions Past s) (hget : s.tasks.get? task = some t) :
    Inv w sessions Past (s.cancel task t) := by
  have ht := h.tasks hget
  have hdetached : Inv w sessions Past { s with
      locks := s.locks.cancel task
      tasks := s.tasks.set task { t with detached := true } } := by
    refine h.move task h.lanes h.inRoots (ProcessTable.Grows.refl _)
      (fun hi => Dict.get?_set_ne _ _ hi) (fun {t'} ht' => ?_)
    have ht' := Option.some.inj ((Dict.get?_set_self ..).symm.trans ht')
    subst ht'
    exact ht.detach
  unfold VeraPortAgent.cancel
  split
  · exact hdetached
  · exact hdetached
  · refine h.move task h.lanes h.inRoots (ProcessTable.Grows.refl _)
      (fun hi => Dict.get?_erase_ne _ hi) (fun {t'} ht' => ?_)
    simp at ht'

theorem inv_sessionBegun {sessionId : String} {now : PyFloat} {binding : SessionBinding}
    (h : Inv w sessions Past s) (hsession : sessions.binding sessionId = some binding) :
    Inv w sessions Past (s.beginCloseSession task sessionId now) := by
  refine h.move task (h.lanes.swept (swept_snapshot s.registry now)) h.inRoots
    (ProcessTable.Grows.refl _) (fun hi => Dict.get?_set_ne _ _ hi) (fun {t'} ht' => ?_)
  have ht' := Option.some.inj ((Dict.get?_set_self ..).symm.trans ht')
  subst ht'
  refine ⟨⟨binding, hsession⟩, fun heq => ?_, fun hidle => absurd rfl hidle, fun heq l hl => ?_,
    rfl, by simp, by simp⟩
  · cases heq
  · cases heq
    obtain ⟨lane, hlane, rfl⟩ := List.mem_map.mp hl
    exact startsWith_eq_true_iff.mp (List.mem_filter.mp hlane).2

theorem Inv.step {event : Event} {output : Output} (h : Inv w sessions Past s)
    (hpast : Past s.registry)
    (hstep : Step w sessions s event s' output) : Inv w sessions Past s' := by
  cases hstep with
  | refused stateStore response => exact ⟨h.lanes, h.inRoots, h.tasks⟩
  | immediate stateStore registry job result hfree hjob hsession hswept =>
    exact h.conclude (h.lanes.swept hswept) h.inRoots (ProcessTable.Grows.refl _) rfl
      (fun hclose => absurd hclose hjob.not_closeSession)
  | @entered task _ _ _ _ _ _ stateStore binding _ _ _ _ _ laneId hfree hjob hsession hstart =>
    refine h.move task h.lanes h.inRoots (ProcessTable.Grows.refl _)
      (fun hi => Dict.get?_set_ne _ _ hi) (fun {t'} ht' => ?_)
    have ht' := Option.some.inj ((Dict.get?_set_self ..).symm.trans ht')
    subst ht'
    refine ⟨⟨binding, hjob.facts.1⟩, fun heq => ?_, fun _ => ?_, fun heq => ?_, rfl, by simp,
      by simp⟩
    · cases heq
      exact ⟨hjob, hstart⟩
    · obtain ⟨name, -, rfl⟩ := hjob.inSession hstart
      exact inSession_append binding.sessionId name
    · cases heq
  | acquired hget hphase hacquire =>
    have hgrants := (h.tasks hget).progress.grants_eq_nil (by simp [hphase]) (by simp [hphase])
    obtain ⟨hlanes, hroots, htasks⟩ :=
      h.setPhase hget (by simp [hphase]) hgrants .holding (by simp) (by simp) (by simp)
        (by simp)
    exact ⟨hlanes, hroots, htasks⟩
  | raised registry exc complete hget hevent hphase hswept =>
    exact h.conclude (h.lanes.swept hswept) h.inRoots (ProcessTable.Grows.refl _) rfl
      (h.tasks hget).closeSession
  | opened hget hphase hjob hbody hopen =>
    have ht := h.tasks hget
    obtain ⟨harrived, hstart⟩ := ht.arrived hjob
    rw [hjob] at harrived
    have hlane := ht.lane (by simp [hphase])
    rw [hjob] at hlane
    exact h.conclude (h.lanes.opened hopen harrived.facts.1 hlane (harrived.granted hbody))
      h.inRoots (ProcessTable.Grows.refl _) rfl ht.closeSession
  | renewed hget hphase hjob hbody hrenew =>
    exact h.conclude (h.lanes.renewed hrenew) h.inRoots (ProcessTable.Grows.refl _) rfl
      (h.tasks hget).closeSession
  | listedNothing hget hphase hjob hbody hchecks =>
    exact h.conclude h.lanes h.inRoots (ProcessTable.Grows.refl _) rfl
      (h.tasks hget).closeSession
  | closing hget hphase hjob =>
    have hgrants := (h.tasks hget).progress.grants_eq_nil (by simp [hphase]) (by simp [hphase])
    refine h.setPhase hget (by simp [hphase]) hgrants _ (by simp) (by simp) ?_ ?_
    rotate_left
    · intro f todo terminated hphase' handle hhandle
      obtain ⟨rfl, rfl, -⟩ := Phase.terminating.inj hphase'
      exact exists_of_mem_owned hhandle
    intro f todo terminated hphase' binding _ _ _ _ _ hrequest
    obtain ⟨rfl, -⟩ := Phase.terminating.inj hphase'
    rcases hjob with ⟨_, _, _, _, _, _, hjob, hbody⟩ | ⟨_, _, _, _, _, hjob⟩
    · rw [hjob, Job.request.injEq] at hrequest
      obtain ⟨-, -, -, rfl, -, rfl⟩ := hrequest
      exact Workstation.operation_of_closeLane hbody
    · rw [hjob] at hrequest
      cases hrequest
  | planned hget hphase hjob hbody hchecks => exact inv_planned h hget hphase hjob hbody hchecks
  | authorized hget hphase hauthorize => exact inv_authorized hpast h hget hphase hauthorize
  | @finished task t outcome complete fencingToken work hget hphase hfresh =>
    have hprogress := (h.tasks hget).progress
    unfold Progress at hprogress
    rw [hphase] at hprogress
    obtain ⟨hgrows, hroots⟩ :=
      processesAfter_facts (t := t) h hprogress.inRoots hfresh
    exact h.conclude h.lanes hroots hgrows rfl (h.tasks hget).closeSession
  | @terminated task t complete fencingToken handle todo terminated hget hphase =>
    have hgrants := (h.tasks hget).progress.grants_eq_nil (by simp [hphase]) (by simp [hphase])
    have hgrows := ProcessTable.grows_stop s.processes handle
    obtain ⟨hlanes, -, htasks⟩ := h.setPhase hget (by simp [hphase]) hgrants
      (.terminating fencingToken todo (terminated ++ [handle])) (by simp) (by simp)
      (fun f _ _ heq => by
        obtain ⟨rfl, -⟩ := Phase.terminating.inj heq
        exact (h.tasks hget).closing hphase)
      (fun f _ _ heq other hother => by
        obtain ⟨rfl, rfl, -⟩ := Phase.terminating.inj heq
        exact (h.tasks hget).terminates hphase other (List.mem_cons_of_mem _ hother))
    exact ⟨hlanes, ProcessTable.inRoots_stop h.inRoots, fun hi => (htasks hi).grows hgrows⟩
  | @closed task t now complete fencingToken terminated result registry hget hphase hclose =>
    have ht := h.tasks hget
    refine h.conclude (h.lanes.closed hclose) h.inRoots (ProcessTable.Grows.refl _) rfl
      (fun {sessionId todo _ _ _} hjob => ?_)
    cases hold : t.job with
    | request => simp [hold, Job.addTerminated] at hjob
    | closeSession =>
      simp only [hold, Job.addTerminated, Job.closeSession.injEq] at hjob
      obtain ⟨rfl, rfl, -⟩ := hjob
      exact ht.closeSession hold
  | sessionBegun hsession hfree => exact inv_sessionBegun h hsession
  | @sessionEntered task t sessionId laneId _ _ _ _ _ hget hphase hjob =>
    have ht := h.tasks hget
    have hgrants := ht.progress.grants_eq_nil (by simp [hphase]) (by simp [hphase])
    refine h.move task h.lanes h.inRoots (ProcessTable.Grows.refl _)
      (fun hi => Dict.get?_set_ne _ _ hi) (fun {t'} ht' => ?_)
    have ht' := Option.some.inj ((Dict.get?_set_self ..).symm.trans ht')
    subst ht'
    refine ⟨ht.session, fun heq => ?_, fun _ => ?_, ht.todo, hgrants, by simp, by simp⟩
    · rw [show t.job = _ from hjob] at heq
      cases heq
    · show InSession t.job.sessionId laneId
      rw [hjob]
      exact ht.todo hjob _ (List.mem_cons_self ..)
  | @sessionDone task t _ _ _ _ hget hphase hjob =>
    refine h.move task h.lanes h.inRoots (ProcessTable.Grows.refl _)
      (fun hi => Dict.get?_erase_ne _ hi) (fun {t'} ht' => ?_)
    simp at ht'
  | exited =>
    exact ⟨h.lanes, ProcessTable.inRoots_stop h.inRoots,
      fun hi => (h.tasks hi).grows (ProcessTable.grows_stop _ _)⟩
  | watched hget => exact inv_watched h hget
  | cancelled hget hattached => exact inv_cancelled h hget

theorem Inv.init {sessionCapabilities : Finset String} {maxLanes : ℤ} {hasAllocator : Bool}
    {r₀ : LaneRegistry} (stateStore : Option AgentStateStore)
    (hcreate : LaneRegistry.create sessionCapabilities maxLanes hasAllocator = .ok r₀) :
    Inv w sessions Past (init r₀ stateStore) := by
  unfold LaneRegistry.create at hcreate
  split_ifs at hcreate
  cases hcreate
  exact ⟨fun _ _ h => by simp [VeraPortAgent.init] at h, fun _ _ h => by
    simp [VeraPortAgent.init] at h, fun h => by simp [VeraPortAgent.init] at h⟩

theorem Inv.run {s₀ : VeraPortAgent} {events : List Event} (h : Inv w sessions Past s₀)
    (hpast : ∀ s, Along w sessions s₀ events s → Past s.registry)
    (hrun : s₀.run w sessions events = some s) : Inv w sessions Past s :=
  run_invariant hrun h fun halong hinv hstep => hinv.step (hpast _ halong) hstep

/-! ## The main result -/

end VeraPortAgent

end VeraMesh
