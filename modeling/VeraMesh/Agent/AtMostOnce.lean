import VeraMesh.Agent.Handle
import VeraMesh.Controller.Pool

/-!
# At most one execution of a mutation

The requests that reach one workstation, over crashes and restarts of its agent.

A `deliver` event is the arrival of one request on one session. Nothing restricts which requests
arrive when and how often, so the events cover every duplication and delay in the network and every
retry of the controller, and a response that is lost is a response nobody reads. The handling of a
request ends with a response, or starts a task that first dispatches the operation and then
completes. Between any two events the agent may crash: its tasks are gone, the ledger stays.

* `Inv`: a durable mutation in progress has a pending row of its own, and whatever was dispatched
  has a row.
* `Inv.step`, `Inv.run`: the invariant holds in every run.
-/

namespace VeraMesh

open Python

namespace AtMostOnce

/-- A request whose handling goes on after `begin_request`. -/
structure Task where
  binding : SessionBinding
  externalRequestId : String
  requestId : String
  operation : String
  /-- The digest under which a durable mutation was begun. -/
  requestSha256 : Option String
  /-- The operation has been dispatched. -/
  dispatched : Bool

/-- The agent with its ledger. `admitted`, `dispatched` and `completed` record what happened to
durable mutations so far. -/
structure State where
  store : AgentStateStore
  tasks : Dict ℕ Task
  /-- The requests admitted, by request id. -/
  admitted : List (String × Request)
  /-- The request ids whose operation was dispatched. -/
  dispatched : List String
  /-- The responses of the dispatched operations, by request id. -/
  completed : List (String × Response)

/-- The agent on a new ledger. -/
def State.init (store : AgentStateStore) : State := ⟨store, .empty, [], [], []⟩

/-- What can happen. Tasks are named by numbers. -/
inductive Event where
  /-- A request arrives on a session. `sqliteError`: a statement of `begin_request` raises. -/
  | deliver (task : ℕ) (binding : SessionBinding) (request : Request) (sessionNowMs nowMs : ℤ)
      (sqliteError : Bool)
  /-- A task dispatches its operation. -/
  | dispatch (task : ℕ)
  /-- The dispatched operation returns or raises. -/
  | finish (task : ℕ) (result : Except PyError PyValue) (nowMs : ℤ) (sqliteError : Bool)
  /-- A task is cancelled. -/
  | cancel (task : ℕ)
  /-- The agent stops and is started again. -/
  | crash

variable (rt : Runtime) (digest : PyValue → String)

/-- The arrival of a request. -/
def deliver (s : State) (task : ℕ) (binding : SessionBinding) (request : Request)
    (sessionNowMs nowMs : ℤ) (sqliteError : Bool) : State × Option Response :=
  match SessionBoundHandler.scope rt binding sessionNowMs request with
  | .error refusal => (s, some refusal)
  | .ok (externalRequestId, internal) =>
    match VeraPortAgent.admitRequest digest (some s.store) internal nowMs sqliteError with
    | (.answered response, store) =>
      ({ s with store := store.getD s.store },
        some (SessionBoundHandler.externalize binding externalRequestId response))
    | (.dispatched requestId operation sha256, store) =>
      ({ s with
          store := store.getD s.store
          tasks := s.tasks.set task
            ⟨binding, externalRequestId, requestId, operation, sha256, false⟩
          admitted := if sha256.isSome then (requestId, internal) :: s.admitted else s.admitted },
        none)

/-- One event: the state it leaves and the response it produces, if any; `none` if it cannot
happen. -/
def step (s : State) : Event → Option (State × Option Response)
  | .deliver task binding request sessionNowMs nowMs sqliteError =>
    if s.tasks.contains task then none
    else some (deliver rt digest s task binding request sessionNowMs nowMs sqliteError)
  | .dispatch task =>
    match s.tasks.get? task with
    | none => none
    | some t =>
      if t.dispatched then none
      else
        some ({ s with
          tasks := s.tasks.set task { t with dispatched := true }
          dispatched :=
            if t.requestSha256.isSome then t.requestId :: s.dispatched else s.dispatched }, none)
  | .finish task result nowMs sqliteError =>
    match s.tasks.get? task with
    | none => none
    | some t =>
      if !t.dispatched then none
      else
        let (response, store) :=
          VeraPortAgent.finish (some s.store) t.requestId t.requestSha256 result nowMs sqliteError
        some ({ s with
          store := store.getD s.store
          tasks := s.tasks.erase task
          completed :=
            if t.requestSha256.isSome then
              (t.requestId, VeraPortAgent.response t.requestId result) :: s.completed
            else s.completed },
          some (SessionBoundHandler.externalize t.binding t.externalRequestId response))
  | .cancel task => some ({ s with tasks := s.tasks.erase task }, none)
  | .crash => some ({ s with tasks := .empty }, none)

/-- The state after a sequence of events, `none` if one of them cannot happen. -/
def run (s : State) : List Event → Option State
  | [] => some s
  | event :: events => (step rt digest s event).bind fun next => run next.1 events

/-- The invariant. -/
structure Inv (s : State) : Prop where
  ledger : s.store.Inv
  /-- A durable mutation in progress has a pending row with its digest. -/
  pending : ∀ {task t sha256}, s.tasks.get? task = some t → t.requestSha256 = some sha256 →
    ∃ row, s.store.requests.get? t.requestId = some row ∧ row.status = .pending ∧
      row.requestSha256 = sha256
  /-- No two durable mutations in progress have one request id. -/
  distinct : ∀ {task₁ task₂ t₁ t₂}, s.tasks.get? task₁ = some t₁ → s.tasks.get? task₂ = some t₂ →
    t₁.requestSha256.isSome → t₂.requestSha256.isSome → t₁.requestId = t₂.requestId →
    task₁ = task₂
  /-- A durable mutation is recorded as dispatched once it is. -/
  fresh : ∀ {task t}, s.tasks.get? task = some t → t.requestSha256.isSome →
    (t.requestId ∈ s.dispatched ↔ t.dispatched = true)
  nodup : s.dispatched.Nodup
  /-- What was dispatched has a row. -/
  recorded : ∀ {requestId}, requestId ∈ s.dispatched →
    ∃ row, s.store.requests.get? requestId = some row
  /-- What was admitted is a durable mutation and has a row with its digest. -/
  admitted : ∀ {requestId request}, (requestId, request) ∈ s.admitted →
    (∃ operation ∈ durableMutatingOperations,
      VeraPortAgent.checkRequest request = .ok (requestId, operation)) ∧
    ∃ row, s.store.requests.get? requestId = some row ∧
      row.requestSha256 = VeraPortAgent.requestSha256 digest request
  /-- A completed row holds the response of the operation. -/
  completed : ∀ {requestId row}, s.store.requests.get? requestId = some row →
    row.status = .completed → ∃ response, (requestId, response) ∈ s.completed ∧
      row.responseJson = some (dumpsSorted response)

variable {rt : Runtime} {digest : PyValue → String} {s s' : State}

theorem Inv.init {store : AgentStateStore} {maxMutationRequests : ℤ} {warnAtRecords : Option ℤ}
    (h : AgentStateStore.create maxMutationRequests warnAtRecords = .ok store) :
    Inv digest (.init store) := by
  have hempty : store.requests = .empty := by
    unfold AgentStateStore.create at h
    dsimp only at h
    split_ifs at h
    cases h
    rfl
  constructor <;> simp [State.init, AgentStateStore.Inv.create h, hempty]

/-- Tasks may be dropped at any time. -/
theorem Inv.forget (h : Inv digest s) {tasks : Dict ℕ Task}
    (hsub : ∀ {task t}, tasks.get? task = some t → s.tasks.get? task = some t) :
    Inv digest { s with tasks } where
  ledger := h.ledger
  pending ht hsha := h.pending (hsub ht) hsha
  distinct h₁ h₂ := h.distinct (hsub h₁) (hsub h₂)
  fresh ht := h.fresh (hsub ht)
  nodup := h.nodup
  recorded := h.recorded
  admitted := h.admitted
  completed := h.completed

/-- A request that is no durable mutation may be started at any time. -/
theorem Inv.start (h : Inv digest s) (task : ℕ) {t : Task} (ht : t.requestSha256 = none) :
    Inv digest { s with tasks := s.tasks.set task t } := by
  -- a durable mutation in progress was in progress before
  have hback : ∀ {i u}, (s.tasks.set task t).get? i = some u → u.requestSha256.isSome →
      s.tasks.get? i = some u := by
    intro i u hu hsome
    rw [Dict.get?_set] at hu
    split_ifs at hu
    · cases hu
      simp [ht] at hsome
    · exact hu
  constructor
  · exact h.ledger
  · exact fun hu hsha => h.pending (hback hu (by simp [hsha])) hsha
  · exact fun h₁ h₂ hs₁ hs₂ => h.distinct (hback h₁ hs₁) (hback h₂ hs₂) hs₁ hs₂
  · exact fun hu hsome => h.fresh (hback hu hsome) hsome
  · exact h.nodup
  · exact h.recorded
  · exact h.admitted
  · exact h.completed

/-- A durable mutation is started when `begin_request` has admitted it. -/
theorem Inv.admission (h : Inv digest s) {task : ℕ} (hfree : s.tasks.get? task = none) {t : Task}
    {request : Request} {nowMs : ℤ} {sqliteError : Bool} {store : AgentStateStore}
    (ht : t.dispatched = false)
    (hsha : t.requestSha256 = some (VeraPortAgent.requestSha256 digest request))
    (hcheck : VeraPortAgent.checkRequest request = .ok (t.requestId, t.operation))
    (hdurable : t.operation ∈ durableMutatingOperations)
    (hbegin : s.store.beginRequest t.requestId (VeraPortAgent.requestSha256 digest request) nowMs
      sqliteError = (.ok .new, store)) :
    Inv digest { s with
      store
      tasks := s.tasks.set task t
      admitted := (t.requestId, request) :: s.admitted } := by
  obtain ⟨hnew, -, hstore⟩ := AgentStateStore.beginRequest_new hbegin
  obtain ⟨hledger, hext⟩ := h.ledger.beginRequest hbegin
  -- the id is new: no task in progress and nothing dispatched has it
  have hother : ∀ {i u}, s.tasks.get? i = some u → u.requestSha256.isSome →
      u.requestId ≠ t.requestId := by
    intro i u hu hsome hid
    obtain ⟨sha256, hsha256⟩ := Option.isSome_iff_exists.mp hsome
    obtain ⟨row, hrow, -⟩ := h.pending hu hsha256
    rw [hid, hnew] at hrow
    cases hrow
  have hunlogged : t.requestId ∉ s.dispatched := by
    intro hmem
    obtain ⟨row, hrow⟩ := h.recorded hmem
    rw [hnew] at hrow
    cases hrow
  have hget : ∀ {i u}, (s.tasks.set task t).get? i = some u →
      i = task ∧ u = t ∨ s.tasks.get? i = some u := by
    intro i u hu
    rw [Dict.get?_set] at hu
    split_ifs at hu with hi
    · exact Or.inl ⟨hi, (Option.some.inj hu).symm⟩
    · exact Or.inr hu
  have hrow : store.requests.get? t.requestId =
      some ⟨VeraPortAgent.requestSha256 digest request, .pending, none, nowMs, none⟩ := by
    rw [hstore, Dict.get?_set_self]
  constructor
  · exact hledger
  · intro i u sha256 hu husha
    rcases hget hu with ⟨rfl, rfl⟩ | hold
    · rw [hsha, Option.some.injEq] at husha
      exact ⟨_, hrow, rfl, husha⟩
    · obtain ⟨row, hrow', hpending, hdigest⟩ := h.pending hold husha
      refine ⟨row, ?_, hpending, hdigest⟩
      rwa [hstore, Dict.get?_set_ne _ _ (hother hold (by simp [husha]))]
  · intro i₁ i₂ u₁ u₂ h₁ h₂ hs₁ hs₂ hid
    rcases hget h₁ with ⟨rfl, rfl⟩ | hold₁ <;> rcases hget h₂ with ⟨rfl, rfl⟩ | hold₂
    · rfl
    · exact absurd hid.symm (hother hold₂ hs₂)
    · exact absurd hid (hother hold₁ hs₁)
    · exact h.distinct hold₁ hold₂ hs₁ hs₂ hid
  · intro i u hu hsome
    rcases hget hu with ⟨rfl, rfl⟩ | hold
    · simp [hunlogged, ht]
    · exact h.fresh hold hsome
  · exact h.nodup
  · intro requestId hmem
    obtain ⟨row, hrow'⟩ := h.recorded hmem
    obtain ⟨row', hrow'', -⟩ := hext.get?_of_get? hrow'
    exact ⟨row', hrow''⟩
  · intro requestId request' hmem
    rcases List.mem_cons.mp hmem with heq | hmem
    · obtain ⟨rfl, rfl⟩ := Prod.mk.inj heq
      exact ⟨⟨_, hdurable, hcheck⟩, _, hrow, rfl⟩
    · obtain ⟨hmutation, row, hrow', hdigest⟩ := h.admitted hmem
      obtain ⟨row', hrow'', hdigest', -⟩ := hext.get?_of_get? hrow'
      exact ⟨hmutation, row', hrow'', hdigest'.trans hdigest⟩
  · intro requestId row hrow' hdone
    rw [hstore, Dict.get?_set] at hrow'
    split_ifs at hrow'
    · cases hrow'
      cases hdone
    · exact h.completed hrow' hdone

/-- A task dispatches its operation once. -/
theorem Inv.dispatch (h : Inv digest s) {task : ℕ} {t : Task} (ht : s.tasks.get? task = some t)
    (hnot : t.dispatched = false) :
    Inv digest { s with
      tasks := s.tasks.set task { t with dispatched := true }
      dispatched := if t.requestSha256.isSome then t.requestId :: s.dispatched else s.dispatched } := by
  -- every task stands for one of the old state that differs in `dispatched` at most
  have hget : ∀ {i u}, (s.tasks.set task { t with dispatched := true }).get? i = some u →
      ∃ v, s.tasks.get? i = some v ∧ v.requestSha256 = u.requestSha256 ∧
        v.requestId = u.requestId ∧ (i = task ∧ v = t ∧ u.dispatched = true ∨ i ≠ task ∧ u = v) := by
    intro i u hu
    rw [Dict.get?_set] at hu
    split_ifs at hu with hi
    · cases hu
      exact ⟨t, hi ▸ ht, rfl, rfl, Or.inl ⟨hi, rfl, rfl⟩⟩
    · exact ⟨u, hu, rfl, rfl, Or.inr ⟨hi, rfl⟩⟩
  have hmem : ∀ {requestId}, requestId ∈
      (if t.requestSha256.isSome then t.requestId :: s.dispatched else s.dispatched) ↔
        t.requestSha256.isSome ∧ requestId = t.requestId ∨ requestId ∈ s.dispatched := by
    intro requestId
    split_ifs with hsome <;> simp [hsome]
  constructor
  · exact h.ledger
  · intro i u sha256 hu hsha
    obtain ⟨v, hv, hvsha, hvid, -⟩ := hget hu
    rw [← hvid]
    exact h.pending hv (hvsha.trans hsha)
  · intro i₁ i₂ u₁ u₂ h₁ h₂ hs₁ hs₂ hid
    obtain ⟨v₁, hv₁, hsha₁, hid₁, -⟩ := hget h₁
    obtain ⟨v₂, hv₂, hsha₂, hid₂, -⟩ := hget h₂
    exact h.distinct hv₁ hv₂ (hsha₁ ▸ hs₁) (hsha₂ ▸ hs₂) (by rw [hid₁, hid₂, hid])
  · intro i u hu hsome
    obtain ⟨v, hv, hvsha, hvid, hcase⟩ := hget hu
    rw [hmem]
    rcases hcase with ⟨rfl, rfl, hdone⟩ | ⟨hne, rfl⟩
    · simp [hdone, hvsha, hsome, hvid]
    · rw [h.fresh hv hsome, or_iff_right]
      rintro ⟨htsome, hid⟩
      exact hne (h.distinct hv ht hsome htsome hid)
  · split_ifs with hsome
    · refine List.nodup_cons.mpr ⟨fun hin => ?_, h.nodup⟩
      rw [h.fresh ht hsome, hnot] at hin
      cases hin
    · exact h.nodup
  · intro requestId hin
    rcases hmem.mp hin with ⟨hsome, rfl⟩ | hin
    · obtain ⟨sha256, hsha256⟩ := Option.isSome_iff_exists.mp hsome
      obtain ⟨row, hrow, -⟩ := h.pending ht hsha256
      exact ⟨row, hrow⟩
    · exact h.recorded hin
  · exact h.admitted
  · exact h.completed

/-- A task that was no durable mutation ends. -/
theorem Inv.finish_other (h : Inv digest s) (task : ℕ) :
    Inv digest { s with tasks := s.tasks.erase task } :=
  h.forget fun hu => (Dict.get?_filter.mp hu).1

/-- A durable mutation ends, whether or not `complete_request` goes through. -/
theorem Inv.finish (h : Inv digest s) {task : ℕ} {t : Task} {sha256 : String}
    (ht : s.tasks.get? task = some t) (hsha : t.requestSha256 = some sha256)
    {response : Response} {nowMs : ℤ} {sqliteError : Bool} {res : Except PyError Unit}
    {store : AgentStateStore}
    (hcomplete : s.store.completeRequest t.requestId sha256 response nowMs sqliteError =
      (res, store)) :
    Inv digest { s with
      store
      tasks := s.tasks.erase task
      completed := (t.requestId, response) :: s.completed } := by
  obtain ⟨hledger, hext⟩ := h.ledger.completeRequest hcomplete
  have hold : ∀ {i u}, (s.tasks.erase task).get? i = some u → i ≠ task ∧ s.tasks.get? i = some u := by
    intro i u hu
    rw [Dict.get?_erase] at hu
    split_ifs at hu with hi
    exact ⟨hi, hu⟩
  constructor
  · exact hledger
  · intro i u sha' hu husha
    obtain ⟨hne, hu⟩ := hold hu
    obtain ⟨row, hrow, hpending, hdigest⟩ := h.pending hu husha
    -- the completed row is another task's
    rcases AgentStateStore.completeRequest_cases hcomplete with rfl | ⟨-, -, -, -, rfl⟩
    · exact ⟨row, hrow, hpending, hdigest⟩
    · refine ⟨row, ?_, hpending, hdigest⟩
      rw [Dict.get?_set_ne]
      · exact hrow
      · intro hid
        exact hne (h.distinct hu ht (by simp [husha]) (by simp [hsha]) hid)
  · intro i₁ i₂ u₁ u₂ h₁ h₂
    exact h.distinct (hold h₁).2 (hold h₂).2
  · intro i u hu hsome
    exact h.fresh (hold hu).2 hsome
  · exact h.nodup
  · intro requestId hmem
    obtain ⟨row, hrow⟩ := h.recorded hmem
    obtain ⟨row', hrow', -⟩ := hext.get?_of_get? hrow
    exact ⟨row', hrow'⟩
  · intro requestId request hmem
    obtain ⟨hmutation, row, hrow, hdigest⟩ := h.admitted hmem
    obtain ⟨row', hrow', hdigest', -⟩ := hext.get?_of_get? hrow
    exact ⟨hmutation, row', hrow', hdigest'.trans hdigest⟩
  · intro requestId row hrow hdone
    rcases AgentStateStore.completeRequest_cases hcomplete with hsame | ⟨old, -, -, -, hset⟩
    · rw [hsame] at hrow
      obtain ⟨answer, hmem, hjson⟩ := h.completed hrow hdone
      exact ⟨answer, List.mem_cons_of_mem _ hmem, hjson⟩
    · rw [hset, Dict.get?_set] at hrow
      split_ifs at hrow with hid
      · cases hrow
        exact ⟨response, hid ▸ List.mem_cons_self, rfl⟩
      · obtain ⟨answer, hmem, hjson⟩ := h.completed hrow hdone
        exact ⟨answer, List.mem_cons_of_mem _ hmem, hjson⟩

/-- Every event keeps the invariant and extends the ledger. -/
theorem Inv.step (h : Inv digest s) {event : Event} {response : Option Response}
    (hstep : step rt digest s event = some (s', response)) :
    Inv digest s' ∧ s.store.Extends s'.store := by
  cases event with
  | deliver task binding request sessionNowMs nowMs sqliteError =>
    simp only [AtMostOnce.step] at hstep
    split_ifs at hstep with hfree
    rw [Option.some.injEq, deliver] at hstep
    split at hstep
    · exact (Prod.mk.inj hstep).1 ▸ ⟨h, .refl _⟩
    next externalRequestId internal hscope =>
      rcases hadm : VeraPortAgent.admitRequest digest (some s.store) internal nowMs sqliteError
        with ⟨admission, store⟩
      rw [hadm] at hstep
      rcases VeraPortAgent.admitRequest_cases hadm with ⟨answer, rfl, rfl⟩ | ⟨id, op, hcheck, hcase⟩
      · exact (Prod.mk.inj hstep).1 ▸ ⟨h, .refl _⟩
      · split_ifs at hcase with hdurable
        · obtain ⟨rfl, store', rfl, hbegin⟩ := hcase
          rw [← (Prod.mk.inj hstep).1]
          have hnone := Dict.contains_eq_false_iff.mp (by simpa using hfree)
          exact ⟨h.admission hnone rfl rfl hcheck hdurable hbegin, (h.ledger.beginRequest hbegin).2⟩
        · obtain ⟨rfl, rfl⟩ := hcase
          rw [← (Prod.mk.inj hstep).1]
          exact ⟨h.start task rfl, .refl _⟩
  | dispatch task =>
    simp only [AtMostOnce.step] at hstep
    split at hstep
    · cases hstep
    next t ht =>
      by_cases hdone : t.dispatched = true
      · rw [if_pos hdone] at hstep
        cases hstep
      · rw [if_neg hdone, Option.some.injEq, Prod.mk.injEq] at hstep
        exact hstep.1 ▸ ⟨h.dispatch ht (by simpa using hdone), .refl _⟩
  | finish task result nowMs sqliteError =>
    simp only [AtMostOnce.step] at hstep
    split at hstep
    · cases hstep
    next t ht =>
      by_cases hdone : t.dispatched = true
      · rw [if_neg (by simp [hdone])] at hstep
        rcases hfinish : VeraPortAgent.finish (some s.store) t.requestId t.requestSha256 result
          nowMs sqliteError with ⟨answer, store⟩
        rw [hfinish, Option.some.injEq, Prod.mk.injEq] at hstep
        rw [← hstep.1]
        rcases VeraPortAgent.finish_cases hfinish with
          ⟨hsha, rfl⟩ | ⟨sha256, res, store', hsha, rfl, hcomplete⟩
        · rw [if_neg (by simp [hsha])]
          exact ⟨h.finish_other task, .refl _⟩
        · rw [if_pos (by simp [hsha])]
          exact ⟨h.finish ht hsha hcomplete, (h.ledger.completeRequest hcomplete).2⟩
      · rw [if_pos (by simpa using hdone)] at hstep
        cases hstep
  | cancel task =>
    cases hstep
    exact ⟨h.finish_other task, .refl _⟩
  | crash =>
    cases hstep
    exact ⟨h.forget fun hu => by simp at hu, .refl _⟩

/-- A run keeps the invariant and extends the ledger. -/
theorem Inv.run (h : Inv digest s) {events : List Event} (hrun : run rt digest s events = some s') :
    Inv digest s' ∧ s.store.Extends s'.store := by
  induction events generalizing s with
  | nil => exact Option.some.inj hrun ▸ ⟨h, .refl _⟩
  | cons event events ih =>
    obtain ⟨⟨next, response⟩, hstep, hrest⟩ := Option.bind_eq_some_iff.mp hrun
    obtain ⟨hnext, hext⟩ := h.step hstep
    obtain ⟨hlast, hext'⟩ := ih hnext hrest
    exact ⟨hlast, hext.trans hext'⟩

/-! ## Deliveries after an admission -/

variable {binding : SessionBinding} {sent internal : Request} {sessionNowMs : ℤ}
  {externalRequestId requestId : String} {request : Request}

/-- A delivery that the agent answers at once changes nothing but the ledger. -/
theorem step_deliver_of_answered {task : ℕ} (hfree : s.tasks.get? task = none)
    (hscope : SessionBoundHandler.scope rt binding sessionNowMs sent =
      .ok (externalRequestId, internal)) {nowMs : ℤ} {sqliteError : Bool} {answer : Response}
    (hadm : VeraPortAgent.admitRequest digest (some s.store) internal nowMs sqliteError =
      (.answered answer, some s.store)) :
    AtMostOnce.step rt digest s (.deliver task binding sent sessionNowMs nowMs sqliteError) =
      some (s, some (SessionBoundHandler.externalize binding externalRequestId answer)) := by
  simp only [AtMostOnce.step, Dict.contains_eq_false_iff.mpr hfree, Bool.false_eq_true, if_false,
    deliver, hscope, hadm, Option.getD_some]

/-- An admitted request, delivered again, is answered with the stored response or not at all. -/
theorem redelivery (h : Inv digest s) (hadmitted : (requestId, request) ∈ s.admitted)
    (hsame : dumpsSorted internal = dumpsSorted request) (nowMs : ℤ) :
    ∃ answer, VeraPortAgent.admitRequest digest (some s.store) internal nowMs false =
        (.answered answer, some s.store) ∧
      (answer = exceptionResponse (.str requestId) ⟨.requestOutcomeUnknown, requestId⟩ ∨
        ∃ response members, (requestId, response) ∈ s.completed ∧
          dumpsSorted response = .dict members ∧ answer = markReplay (.ofList members)) := by
  obtain ⟨⟨operation, hdurable, hcheck⟩, row, hrow, hdigest⟩ := h.admitted hadmitted
  have hcheck' := VeraPortAgent.checkRequest_congr hsame.symm hcheck
  have hsha : row.requestSha256 = VeraPortAgent.requestSha256 digest internal := by
    rw [hdigest, VeraPortAgent.requestSha256, VeraPortAgent.requestSha256, hsame]
  have hid : getD internal "request_id" .none = .str requestId := by
    simp [getD, (VeraPortAgent.checkRequest_eq_ok_iff.mp hcheck').2.1.1]
  rcases AgentStateStore.beginRequest_of_eq h.ledger hrow hsha nowMs with
    ⟨hdone, members, hmembers, hbegin⟩ | hbegin
  · obtain ⟨response, hcompleted, hjson⟩ := h.completed hrow hdone
    rw [hmembers, Option.some.injEq] at hjson
    exact ⟨_, VeraPortAgent.admitRequest_of_beginRequest_replay hcheck' hdurable hbegin,
      Or.inr ⟨response, members, hcompleted, hjson.symm, rfl⟩⟩
  · have hadm := VeraPortAgent.admitRequest_of_beginRequest_error hcheck' hdurable hbegin
    rw [hid] at hadm
    exact ⟨_, hadm, Or.inl rfl⟩

/-- A durable mutation under the id of an admitted request, but with another digest, conflicts. -/
theorem conflict (h : Inv digest s) (hadmitted : (requestId, request) ∈ s.admitted)
    {operation : String} (hcheck : VeraPortAgent.checkRequest internal = .ok (requestId, operation))
    (hdurable : operation ∈ durableMutatingOperations)
    (hdigest : VeraPortAgent.requestSha256 digest request ≠
      VeraPortAgent.requestSha256 digest internal) (nowMs : ℤ) :
    VeraPortAgent.admitRequest digest (some s.store) internal nowMs false =
      (.answered (exceptionResponse (.str requestId) ⟨.idempotencyConflict, requestId⟩),
        some s.store) := by
  obtain ⟨-, row, hrow, hsha⟩ := h.admitted hadmitted
  have hid : getD internal "request_id" .none = .str requestId := by
    simp [getD, (VeraPortAgent.checkRequest_eq_ok_iff.mp hcheck).2.1.1]
  have hadm := VeraPortAgent.admitRequest_of_beginRequest_error hcheck hdurable
    (AgentStateStore.beginRequest_of_ne hrow (hsha ▸ hdigest) nowMs)
  rwa [hid] at hadm

/-- **At most one execution.** In every run of the agent on a ledger for `maxMutationRequests`
requests, over any deliveries, cancellations and crashes:

* no durable mutation is dispatched twice under one request id;
* a delivery with the content of an admitted request is answered, without a dispatch, with the
  response of its one execution marked as a replay, or with `REQUEST_OUTCOME_UNKNOWN`;
* a durable mutation with the id of an admitted request and another content is answered, without a
  dispatch, with `IDEMPOTENCY_CONFLICT`, if digests do not collide;
* a durable mutation that `begin_request` refuses for any reason is answered with the refusal,
  without a dispatch;
* the ledger has at most `maxMutationRequests` rows;
* all channels that the controller's pool hands one mutation to deliver it as one and the same
  internal request. -/
theorem atMostOnce {maxMutationRequests : ℤ} {warnAtRecords : Option ℤ} {store : AgentStateStore}
    (hcreate : AgentStateStore.create maxMutationRequests warnAtRecords = .ok store)
    {contents : Set PyValue} (hdigest : Set.InjOn digest contents) {events : List Event}
    (hrun : run rt digest (.init store) events = some s) :
    s.dispatched.Nodup ∧
      (∀ task binding sent sessionNowMs nowMs externalRequestId internal requestId request,
        s.tasks.get? task = none →
        SessionBoundHandler.scope rt binding sessionNowMs sent =
          .ok (externalRequestId, internal) →
        (requestId, request) ∈ s.admitted →
        (dumpsSorted internal = dumpsSorted request →
          ∃ answer, AtMostOnce.step rt digest s
              (.deliver task binding sent sessionNowMs nowMs false) =
              some (s, some (SessionBoundHandler.externalize binding externalRequestId answer)) ∧
            (answer = exceptionResponse (.str requestId) ⟨.requestOutcomeUnknown, requestId⟩ ∨
              ∃ response members, (requestId, response) ∈ s.completed ∧
                dumpsSorted response = .dict members ∧
                answer = markReplay (.ofList members))) ∧
        (dumpsSorted internal ≠ dumpsSorted request →
          dumpsSorted internal ∈ contents → dumpsSorted request ∈ contents →
          ∀ operation ∈ durableMutatingOperations,
          VeraPortAgent.checkRequest internal = .ok (requestId, operation) →
          AtMostOnce.step rt digest s (.deliver task binding sent sessionNowMs nowMs false) =
            some (s, some (SessionBoundHandler.externalize binding externalRequestId
              (exceptionResponse (.str requestId) ⟨.idempotencyConflict, requestId⟩))))) ∧
      (∀ task binding sent sessionNowMs nowMs sqliteError externalRequestId internal requestId
          operation exc store',
        s.tasks.get? task = none →
        SessionBoundHandler.scope rt binding sessionNowMs sent =
          .ok (externalRequestId, internal) →
        VeraPortAgent.checkRequest internal = .ok (requestId, operation) →
        operation ∈ durableMutatingOperations →
        s.store.beginRequest requestId (VeraPortAgent.requestSha256 digest internal) nowMs
          sqliteError = (.error exc, store') →
        AtMostOnce.step rt digest s (.deliver task binding sent sessionNowMs nowMs sqliteError) =
          some (s, some (SessionBoundHandler.externalize binding externalRequestId
            (exceptionResponse (.str requestId) exc)))) ∧
      (s.store.requests.size : ℤ) ≤ maxMutationRequests ∧
      ∀ (pool : HotSessionPool) call channel operation e₁ e₂ n₁ n₂ x₁ x₂ i₁ i₂,
        call.request.get? "operation" = some (.str operation) → operation ∈ mutatingOperations →
        e₁ ∈ (pool.request call channel).attempted → e₂ ∈ (pool.request call channel).attempted →
        SessionBoundHandler.scope rt e₁.binding n₁ call.request = .ok (x₁, i₁) →
        SessionBoundHandler.scope rt e₂.binding n₂ call.request = .ok (x₂, i₂) → i₁ = i₂ := by
  obtain ⟨hinv, hext⟩ := (Inv.init hcreate).run hrun
  refine ⟨hinv.nodup, ?_, ?_, ?_, ?_⟩
  · intro task binding sent sessionNowMs nowMs externalRequestId internal requestId request hfree
      hscope hadmitted
    refine ⟨fun hsame => ?_, fun hne hmem hmem' operation hdurable hcheck => ?_⟩
    · obtain ⟨answer, hadm, hanswer⟩ := redelivery hinv hadmitted hsame nowMs
      exact ⟨answer, step_deliver_of_answered hfree hscope hadm, hanswer⟩
    · refine step_deliver_of_answered hfree hscope
        (conflict hinv hadmitted hcheck hdurable (fun heq => hne ?_) nowMs)
      exact (hdigest hmem' hmem heq).symm
  · intro task binding sent sessionNowMs nowMs sqliteError externalRequestId internal requestId
      operation exc store' hfree hscope hcheck hdurable hbegin
    have hid : getD internal "request_id" .none = .str requestId := by
      simp [getD, (VeraPortAgent.checkRequest_eq_ok_iff.mp hcheck).2.1.1]
    have hadm := VeraPortAgent.admitRequest_of_beginRequest_error hcheck hdurable hbegin
    rw [hid] at hadm
    exact step_deliver_of_answered hfree hscope hadm
  · have hbound := hinv.ledger.bounded
    rw [hext.maxMutationRequests_eq] at hbound
    have hmax := AgentStateStore.maxMutationRequests_of_create hcreate
    simp only [State.init] at hbound
    omega
  · intro pool call channel operation e₁ e₂ n₁ n₂ x₁ x₂ i₁ i₂ hop hmut h₁ h₂ hscope₁ hscope₂
    obtain ⟨hsession, hcontroller⟩ := HotSessionPool.request_oneSession hop hmut h₁ h₂
    exact SessionBoundHandler.scope_eq_of_session hsession hcontroller hscope₂ hscope₁

/-! ## A run -/

/-- A session that may write. -/
def exampleBinding : SessionBinding := ⟨"s", "controller:c", "workstation:w", {"fs.write"}, 9000⟩

/-- A request on the file `/a`. -/
def exampleRequest (operation requestId laneId : String) : Request :=
  .ofList [("protocol_version", .str "veraport-v1"), ("request_id", .str requestId),
    ("operation", .str operation), ("lane_id", .str laneId), ("fencing_token", .int 1),
    ("path", .str "/a"), ("content", .str "x")]

/-- SHA-256 on the canonical text of the write as the agent gets it. -/
def exampleDigest (content : PyValue) : String :=
  if content = dumpsSorted (exampleRequest "fs.write_text" "controller:c::r" "s::l") then
    "80c9bedc2ae7f4ad453a91773b59368b517dc720bd77e724171a117d458d5d1a"
  else ""

/-- A ledger for two mutations. -/
def exampleStore : AgentStateStore := ⟨2, 1, none, .empty⟩

/-- A write arrives and is dispatched, and it arrives again. -/
def exampleEvents : List Event :=
  let write := exampleRequest "fs.write_text" "r" "l"
  [.deliver 0 exampleBinding write 0 0 false, .dispatch 0, .deliver 1 exampleBinding write 5 5 false]

theorem atMostOnce_exampleEvents :
    ∃ s, run (Runtime.ascii false) exampleDigest (.init exampleStore) exampleEvents = some s ∧
      s.dispatched = ["controller:c::r"] ∧ s.dispatched.Nodup ∧
      (s.store.requests.size : ℤ) ≤ 2 := by
  have hrun := atMostOnce (show AgentStateStore.create 2 (some 1) = .ok exampleStore from rfl)
    (Set.injOn_singleton exampleDigest .none)
    (show run (Runtime.ascii false) exampleDigest (.init exampleStore) exampleEvents = some _ from
      rfl)
  exact ⟨_, rfl, rfl, hrun.1, hrun.2.2.2.1⟩

/-- A read does not go through the ledger. Under the id of an admitted write it is not answered
with `IDEMPOTENCY_CONFLICT` but started. -/
theorem read_not_conflict :
    ∃ s s', run (Runtime.ascii false) exampleDigest (.init exampleStore) exampleEvents = some s ∧
      ("controller:c::r", exampleRequest "fs.write_text" "controller:c::r" "s::l") ∈ s.admitted ∧
      SessionBoundHandler.scope (Runtime.ascii false) exampleBinding 6
          (exampleRequest "fs.read_text" "r" "l") =
        .ok ("r", exampleRequest "fs.read_text" "controller:c::r" "s::l") ∧
      dumpsSorted (exampleRequest "fs.read_text" "controller:c::r" "s::l") ≠
        dumpsSorted (exampleRequest "fs.write_text" "controller:c::r" "s::l") ∧
      step (Runtime.ascii false) exampleDigest s
          (.deliver 2 exampleBinding (exampleRequest "fs.read_text" "r" "l") 6 6 false) =
        some (s', none) ∧
      (s'.tasks.get? 2).map (·.operation) = some "fs.read_text" := by
  refine ⟨_, _, rfl, ?_, rfl, ?_, rfl, rfl⟩
  · decide
  · decide

end AtMostOnce

end VeraMesh
