import VeraMesh.Agent.Authority
import VeraMesh.Lane.Fencing

/-!
# Quiescence of closed lanes

Once `lane.close` returned, nothing goes on under the lane and nothing will again.

* `Orderly`: what holds in a run without cancellation. A task inside of a lane operation has the
  lock of its lane, and a task that terminates processes knows all that still run.
* `Gone`: a fence of a lane is gone, whatever happens afterwards.
* `quiescent_of_close`: closing a lane makes its fence so.
-/

namespace VeraMesh

open Python

/-! ## Runs without cancellation -/

/-- How a task stands with the lane locks. -/
def Framed (locks : LaneLocks) (task : ℕ) (t : Task) : Prop :=
  match t.phase with
  | .idle => locks.frames.get? task = none
  | .waiting => ∃ lock, locks.frames.get? task = some ⟨t.laneId, lock, false⟩
  | _ => locks.Inside task t.laneId

/-- Processes of the lane that still run are among those to be terminated. -/
def Terminating (processes : ProcessTable) (t : Task) : Prop :=
  ∀ f todo terminated, t.phase = .terminating f todo terminated →
    ∀ handle p, processes.get? handle = some p → p.ownedBy t.laneId f = true →
      p.running = true → handle ∈ todo

section Framed

variable {locks locks' : LaneLocks} {task : ℕ} {t : Task}

theorem Framed.congr (h : Framed locks task t)
    (hframe : locks'.frames.get? task = locks.frames.get? task) : Framed locks' task t := by
  unfold Framed LaneLocks.Inside at *
  split at h
  · exact hframe.trans h
  · exact h.imp fun _ hlock => hframe.trans hlock
  · rw [hframe]
    exact h

/-- A task beyond its wait has the lock. -/
theorem Framed.inside (h : Framed locks task t) (hidle : t.phase ≠ .idle)
    (hwaiting : t.phase ≠ .waiting) : locks.Inside task t.laneId := by
  unfold Framed at h
  split at h
  next hphase => exact absurd hphase hidle
  next hphase => exact absurd hphase hwaiting
  · exact h

theorem framed_of_inside (h : locks.Inside task t.laneId) (hidle : t.phase ≠ .idle)
    (hwaiting : t.phase ≠ .waiting) : Framed locks task t := by
  unfold Framed
  split
  next hphase => exact absurd hphase hidle
  next hphase => exact absurd hphase hwaiting
  · exact h

end Framed

namespace VeraPortAgent

/-- The state of an agent on which no task was cancelled. -/
structure Orderly (s : VeraPortAgent) : Prop where
  locks : s.locks.Inv
  attached : ∀ task t, s.tasks.get? task = some t → t.detached = false
  framed : ∀ task t, s.tasks.get? task = some t → Framed s.locks task t
  free : ∀ task, s.tasks.get? task = none → s.locks.frames.get? task = none
  terminating : ∀ task t, s.tasks.get? task = some t → Terminating s.processes t

variable {w : Workstation} {sessions : Sessions} {s s' : VeraPortAgent} {task : ℕ} {t : Task}

/-- A running process of the new table ran before under the same owner, or belongs to the lane that
the task is inside of. -/
def RunsOn (s : VeraPortAgent) (task : ℕ) (processes : ProcessTable) : Prop :=
  ∀ handle p, processes.get? handle = some p → p.running = true →
    (∃ p₀, s.processes.get? handle = some p₀ ∧ p₀.running = true ∧
      p.ownerLaneId = p₀.ownerLaneId ∧ p.ownerFencingToken = p₀.ownerFencingToken) ∨
    s.locks.Inside task p.ownerLaneId

theorem RunsOn.refl (s : VeraPortAgent) (task : ℕ) : RunsOn s task s.processes :=
  fun _ p hp hrun => Or.inl ⟨p, hp, hrun, rfl, rfl⟩

/-- A task that terminates processes keeps the account of another one's step. -/
theorem Orderly.terminating_of_runsOn {processes : ProcessTable} (h : Orderly s)
    (hprocesses : RunsOn s task processes) {i : ℕ} {u : Task} (hi : s.tasks.get? i = some u)
    (hne : i ≠ task) : Terminating processes u := by
  intro f todo terminated hphase handle p hp howned hrun
  have hinside : s.locks.Inside i u.laneId :=
    (h.framed i u hi).inside (by simp [hphase]) (by simp [hphase])
  rcases hprocesses handle p hp hrun with ⟨p₀, hp₀, hrun₀, hlane, hfence⟩ | hother
  · rw [ManagedProcess.ownedBy, hlane, hfence] at howned
    exact h.terminating i u hi f todo terminated hphase handle p₀ hp₀ howned hrun₀
  · -- two tasks are not inside of one lane
    have hlane : p.ownerLaneId = u.laneId := by
      simp only [ManagedProcess.ownedBy, Bool.and_eq_true, beq_iff_eq] at howned
      exact howned.1
    rw [hlane] at hother
    exact absurd (h.locks.inside_unique hinside hother) hne

/-- The state of an agent stays orderly if the one task that moves does. -/
theorem Orderly.move (h : Orderly s) (task : ℕ) (hlocks : s'.locks.Inv)
    (hframes : ∀ {i}, i ≠ task → s'.locks.frames.get? i = s.locks.frames.get? i)
    (hothers : ∀ {i}, i ≠ task → s'.tasks.get? i = s.tasks.get? i)
    (hprocesses : RunsOn s task s'.processes)
    (hself : ∀ t', s'.tasks.get? task = some t' →
      t'.detached = false ∧ Framed s'.locks task t' ∧ Terminating s'.processes t')
    (hfree : s'.tasks.get? task = none → s'.locks.frames.get? task = none) : Orderly s' where
  locks := hlocks
  attached i u hi := by
    by_cases htask : i = task
    · subst htask
      exact (hself u hi).1
    · exact h.attached i u (hothers htask ▸ hi)
  framed i u hi := by
    by_cases htask : i = task
    · subst htask
      exact (hself u hi).2.1
    · exact (h.framed i u (hothers htask ▸ hi)).congr (hframes htask)
  free i hi := by
    by_cases htask : i = task
    · subst htask
      exact hfree hi
    · rw [hframes htask]
      exact h.free i (hothers htask ▸ hi)
  terminating i u hi := by
    by_cases htask : i = task
    · subst htask
      exact (hself u hi).2.2
    · exact h.terminating_of_runsOn hprocesses (hothers htask ▸ hi) htask

/-- The end of a lane operation. -/
theorem Orderly.conclude {s₁ : VeraPortAgent} {result : Except PyError PyValue}
    {complete : StoreCall} (h : Orderly s) (hlocks : s₁.locks = s.locks)
    (htasks : s₁.tasks = s.tasks) (hprocesses : RunsOn s task s₁.processes)
    (hattached : t.detached = false) :
    Orderly (s₁.conclude task t result complete).1 := by
  have hexit : (s₁.conclude task t result complete).1.locks = s.locks.exit task := by
    rcases @conclude_locks s₁ task t result complete with ⟨-, hdetached⟩ | ⟨heq, -⟩
    · rw [hattached] at hdetached
      cases hdetached
    · rw [heq, hlocks]
  refine h.move task ?_ (fun hi => ?_) (fun hi => ?_) ?_ (fun t' ht' => ?_) (fun _ => ?_)
  · rw [hexit]
    exact h.locks.exit task
  · rw [hexit, LaneLocks.frames_exit, Dict.get?_erase_ne _ hi]
  · rw [conclude_tasks_of_ne hi, htasks]
  · rw [conclude_processes]
    exact hprocesses
  · obtain ⟨-, _, _, _, _, _, _, _, -, rfl⟩ := conclude_tasks_self ht'
    refine ⟨hattached, ?_, fun f todo terminated hphase => by cases hphase⟩
    show (s₁.conclude task t result complete).1.locks.frames.get? task = none
    rw [hexit, LaneLocks.frames_exit, Dict.get?_erase_self]
  · rw [hexit, LaneLocks.frames_exit, Dict.get?_erase_self]

/-- A task inside of a lane operation goes on in another phase of it. -/
theorem Orderly.phase {t' : Task} (h : Orderly s) (hget : s.tasks.get? task = some t)
    (hlocks : s'.locks = s.locks) (htasks : s'.tasks = s.tasks.set task t')
    (hprocesses : RunsOn s task s'.processes) (hlane : t'.laneId = t.laneId)
    (hdetached : t'.detached = t.detached) (hinside : s.locks.Inside task t.laneId)
    (hidle : t'.phase ≠ .idle) (hwaiting : t'.phase ≠ .waiting)
    (hterminating : Terminating s'.processes t') : Orderly s' := by
  have hset : s'.tasks.get? task = some t' := by rw [htasks, Dict.get?_set_self]
  refine h.move task (hlocks ▸ h.locks) (fun hi => by rw [hlocks]) (fun hi => ?_) hprocesses
    (fun u hu => ?_) (fun hnone => ?_)
  · rw [htasks, Dict.get?_set_ne _ _ hi]
  · rw [hset] at hu
    obtain rfl := Option.some.inj hu
    refine ⟨hdetached.trans (h.attached task t hget), framed_of_inside ?_ hidle hwaiting,
      hterminating⟩
    rw [hlane, hlocks]
    exact hinside
  · rw [hset] at hnone
    cases hnone

/-- A task enters the operation of a lane. -/
theorem Orderly.enter {t' : Task} {laneId : String} (h : Orderly s)
    (hfree : s.locks.frames.get? task = none) (hlocks : s'.locks = s.locks.enter task laneId)
    (htasks : s'.tasks = s.tasks.set task t') (hprocesses : s'.processes = s.processes)
    (hlane : t'.laneId = laneId) (hphase : t'.phase = .waiting) (hattached : t'.detached = false) :
    Orderly s' := by
  obtain ⟨lock, hframes, -⟩ := LaneLocks.enter_cases s.locks task laneId
  have hset : s'.tasks.get? task = some t' := by rw [htasks, Dict.get?_set_self]
  refine h.move task (hlocks ▸ h.locks.enter hfree) (fun hi => ?_) (fun hi => ?_)
    (hprocesses ▸ RunsOn.refl s task) (fun u hu => ?_) (fun hnone => ?_)
  · rw [hlocks, hframes, Dict.get?_set_ne _ _ hi]
  · rw [htasks, Dict.get?_set_ne _ _ hi]
  · rw [hset] at hu
    obtain rfl := Option.some.inj hu
    refine ⟨hattached, ?_, fun f todo terminated hterm => by simp [hphase] at hterm⟩
    unfold Framed
    rw [hphase]
    exact ⟨lock, by rw [hlocks, hframes, hlane, Dict.get?_set_self]⟩
  · rw [hset] at hnone
    cases hnone

/-- The process table may change while no task moves, if nothing starts. -/
theorem Orderly.table (h : Orderly s) (hlocks : s'.locks = s.locks) (htasks : s'.tasks = s.tasks)
    (hprocesses : ∀ handle p, s'.processes.get? handle = some p → p.running = true →
      ∃ p₀, s.processes.get? handle = some p₀ ∧ p₀.running = true ∧
        p.ownerLaneId = p₀.ownerLaneId ∧ p.ownerFencingToken = p₀.ownerFencingToken) :
    Orderly s' := by
  refine ⟨hlocks ▸ h.locks, htasks ▸ h.attached, ?_, ?_, fun i u hi => ?_⟩
  · rw [hlocks, htasks]
    exact h.framed
  · rw [hlocks, htasks]
    exact h.free
  · intro f todo terminated hphase handle p hp howned hrun
    obtain ⟨p₀, hp₀, hrun₀, hlane, hfence⟩ := hprocesses handle p hp hrun
    rw [ManagedProcess.ownedBy, hlane, hfence] at howned
    exact h.terminating i u (htasks ▸ hi) f todo terminated hphase handle p₀ hp₀ howned hrun₀

theorem runsOn_stop (s : VeraPortAgent) (task : ℕ) (ended : String) :
    RunsOn s task (s.processes.stop ended) :=
  fun _ p hp hrun => Or.inl ⟨p, (running_of_stop hp hrun).2, hrun, rfl, rfl⟩

/-- A piece of work starts a process on its own lane only. -/
theorem runsOn_processesAfter {fencingToken : ℤ} {work : Work}
    {outcome : Except PyError (PyValue × String)} (hinside : s.locks.Inside task t.laneId) :
    RunsOn s task (s.processesAfter t fencingToken work outcome) := by
  unfold processesAfter
  split
  next argv cwd timeout v started =>
    intro handle p hp hrun
    rw [Dict.get?_set] at hp
    split_ifs at hp
    · obtain rfl := Option.some.inj hp
      exact Or.inr hinside
    · exact Or.inl ⟨p, hp, hrun, rfl, rfl⟩
  · exact runsOn_stop s task _
  · exact RunsOn.refl s task

theorem mem_owned {processes : ProcessTable} {laneId handle : String} {fencingToken : ℤ}
    {p : ManagedProcess} (hget : processes.get? handle = some p)
    (howned : p.ownedBy laneId fencingToken = true) :
    handle ∈ processes.owned laneId fencingToken :=
  Dict.mem_keys.mpr ⟨p, Dict.get?_filter.mpr ⟨hget, howned⟩⟩

theorem Orderly.acquired {locks : LaneLocks} (h : Orderly s) (hget : s.tasks.get? task = some t)
    (hphase : t.phase = .waiting) (hacquire : s.locks.acquire task = some locks) :
    Orderly { s.setPhase task t .holding with locks } := by
  have hwaiting := h.framed task t hget
  unfold Framed at hwaiting
  rw [hphase] at hwaiting
  obtain ⟨lock, hframe⟩ := hwaiting
  obtain ⟨-, -, hlocks⟩ := LaneLocks.acquire_eq_some hframe hacquire
  have hset : (s.setPhase task t .holding).tasks.get? task = some { t with phase := .holding } :=
    Dict.get?_set_self ..
  refine h.move task (h.locks.acquire hacquire) (fun hi => ?_)
    (fun hi => Dict.get?_set_ne _ _ hi) (RunsOn.refl s task) (fun u hu => ?_) (fun hnone => ?_)
  · show locks.frames.get? _ = _
    rw [hlocks, Dict.get?_set_ne _ _ hi]
  · obtain rfl := Option.some.inj (hset.symm.trans hu)
    refine ⟨h.attached task t hget, ?_, fun f todo terminated heq => by cases heq⟩
    show locks.Inside task t.laneId
    rw [hlocks]
    exact ⟨_, Dict.get?_set_self .., rfl, rfl⟩
  · cases hset.symm.trans hnone

theorem Orderly.sessionBegun {sessionId : String} {now : PyFloat} (h : Orderly s)
    (hfree : s.tasks.get? task = none) : Orderly (s.beginCloseSession task sessionId now) := by
  refine h.move task h.locks (fun _ => rfl) (fun hi => Dict.get?_set_ne _ _ hi)
    (RunsOn.refl s task) (fun u hu => ?_) fun _ => h.free task hfree
  have hu := Option.some.inj ((Dict.get?_set_self ..).symm.trans hu)
  subst hu
  exact ⟨rfl, h.free task hfree, fun f todo terminated heq => by cases heq⟩

theorem Orderly.frame_of_idle (h : Orderly s) (hget : s.tasks.get? task = some t)
    (hphase : t.phase = .idle) : s.locks.frames.get? task = none := by
  have hframed := h.framed task t hget
  unfold Framed at hframed
  rwa [hphase] at hframed

/-- A step that is no cancellation keeps an agent orderly. -/
theorem Orderly.step {event : Event} {output : Output} (h : Orderly s)
    (hcancel : ∀ task, event ≠ .cancel task) (hstep : Step w sessions s event s' output) :
    Orderly s' := by
  cases hstep with
  | refused => exact ⟨h.locks, h.attached, h.framed, h.free, h.terminating⟩
  | immediate => exact h.conclude rfl rfl (RunsOn.refl _ _) rfl
  | entered _ hfree => exact h.enter (h.free _ hfree) rfl rfl rfl rfl rfl rfl
  | acquired hget hphase hacquire => exact h.acquired hget hphase hacquire
  | raised _ _ _ hget => exact h.conclude rfl rfl (RunsOn.refl _ _) (h.attached _ _ hget)
  | opened hget => exact h.conclude rfl rfl (RunsOn.refl _ _) (h.attached _ _ hget)
  | renewed hget => exact h.conclude rfl rfl (RunsOn.refl _ _) (h.attached _ _ hget)
  | listedNothing hget => exact h.conclude rfl rfl (RunsOn.refl _ _) (h.attached _ _ hget)
  | closing hget hphase hjob =>
    have hinside := (h.framed _ _ hget).inside (by simp [hphase]) (by simp [hphase])
    refine h.phase hget rfl rfl (RunsOn.refl _ _) rfl rfl hinside (by simp) (by simp) ?_
    intro f todo terminated heq handle p hp howned hrun
    obtain ⟨rfl, rfl, -⟩ := Phase.terminating.inj heq
    exact mem_owned hp howned
  | planned hget hphase =>
    have hinside := (h.framed _ _ hget).inside (by simp [hphase]) (by simp [hphase])
    exact h.phase hget rfl rfl (RunsOn.refl _ _) rfl rfl hinside (by simp) (by simp)
      fun f todo terminated heq => by cases heq
  | @authorized _ _ _ _ _ _ todo _ _ _ hget hphase =>
    have hinside := (h.framed _ _ hget).inside (by simp [hphase]) (by simp [hphase])
    refine h.phase hget rfl rfl (RunsOn.refl _ _) rfl rfl hinside ?_ ?_ ?_
    all_goals
      unfold Phase.check
      by_cases htodo : todo = []
      <;> simp [htodo, Terminating]
  | finished hget hphase hfresh =>
    have hinside := (h.framed _ _ hget).inside (by simp [hphase]) (by simp [hphase])
    exact h.conclude rfl rfl (runsOn_processesAfter hinside) (h.attached _ _ hget)
  | @terminated _ _ _ _ handle _ _ hget hphase =>
    have hinside := (h.framed _ _ hget).inside (by simp [hphase]) (by simp [hphase])
    refine h.phase hget rfl rfl (runsOn_stop _ _ _) rfl rfl hinside (by simp) (by simp) ?_
    intro f todo terminated heq other p hp howned hrun
    obtain ⟨rfl, rfl, -⟩ := Phase.terminating.inj heq
    obtain ⟨hne, hp₀⟩ := running_of_stop hp hrun
    have hmem := h.terminating _ _ hget _ _ _ hphase other p hp₀ howned hrun
    exact (List.mem_cons.mp hmem).resolve_left hne
  | @closed task t _ _ _ _ _ _ hget =>
    exact h.conclude rfl rfl (RunsOn.refl _ _) (h.attached task t hget)
  | sessionBegun hsession hfree => exact h.sessionBegun hfree
  | @sessionEntered task t _ _ _ _ _ _ _ hget hphase hjob =>
    exact h.enter (h.frame_of_idle hget hphase) rfl rfl rfl rfl rfl (h.attached task t hget)
  | @sessionDone task t _ _ _ _ hget hphase hjob =>
    refine h.move task h.locks (fun _ => rfl) (fun hi => Dict.get?_erase_ne _ hi)
      (RunsOn.refl _ _) (fun u hu => ?_) fun _ => h.frame_of_idle hget hphase
    simp at hu
  | exited =>
    exact h.table rfl rfl fun _ p hp hrun => ⟨p, (running_of_stop hp hrun).2, hrun, rfl, rfl⟩
  | @watched handle now deadlinePassed p hget =>
    obtain ⟨watchdogTerminated, hprocesses⟩ := watch_processes (w := w) (s := s) (p := p)
    refine h.table rfl rfl fun other q hq hrun => ?_
    rw [hprocesses, Dict.get?_set] at hq
    split_ifs at hq with hother
    · obtain rfl := Option.some.inj hq
      exact ⟨p, hother ▸ hget, hrun, rfl, rfl⟩
    · exact ⟨q, hq, hrun, rfl, rfl⟩
  | cancelled hget hattached => exact absurd rfl (hcancel _)

theorem Orderly.init (registry : LaneRegistry) (stateStore : Option AgentStateStore) :
    Orderly (init registry stateStore) := by
  refine ⟨LaneLocks.Inv.empty, fun task t h => ?_, fun task t h => ?_, fun _ _ => rfl,
    fun task t h => ?_⟩ <;> cases h

/-- A run without cancellation keeps an agent orderly. -/
theorem Orderly.run {s₀ : VeraPortAgent} {events : List Event} (h : Orderly s₀)
    (hcancel : ∀ task, Event.cancel task ∉ events)
    (hrun : s₀.run w sessions events = some s) : Orderly s := by
  induction events generalizing s₀ with
  | nil =>
    obtain rfl := Option.some.inj hrun
    exact h
  | cons event events ih =>
    rw [VeraPortAgent.run, Option.bind_eq_some_iff] at hrun
    obtain ⟨⟨s₁, output⟩, hfirst, hrest⟩ := hrun
    have hkept : Orderly s₁ := h.step
      (fun task heq => hcancel task (List.mem_cons.mpr (Or.inl heq.symm))) (step_cases hfirst)
    exact ih hkept (fun task hmem => hcancel task (List.mem_cons_of_mem _ hmem)) hrest

theorem inv_registry {s₀ : VeraPortAgent} {events : List Event}
    (h : LaneRegistry.Inv w.rt s₀.registry) (hrun : s₀.run w sessions events = some s) :
    LaneRegistry.Inv w.rt s.registry := by
  refine run_invariant (P := fun s => LaneRegistry.Inv w.rt s.registry) hrun h fun _ hP hstep => ?_
  obtain ⟨now, hchange⟩ := hstep.change
  exact hP.change hchange

end VeraPortAgent

/-! ## Fences that are gone -/

namespace VeraPortAgent

variable {w : Workstation} {sessions : Sessions} {Past : LaneRegistry → Prop}
  {s s' : VeraPortAgent} {laneId : String} {fencingToken : ℤ}

/-- Nothing goes on under a fence of a lane. -/
structure Gone (s : VeraPortAgent) (laneId : String) (fencingToken : ℤ) : Prop where
  registry : s.registry.Dropped laneId fencingToken
  stopped : ∀ handle p, s.processes.get? handle = some p →
    p.ownedBy laneId fencingToken = true → p.running = false
  idle : ∀ task t work, s.tasks.get? task = some t → t.laneId = laneId →
    t.phase ≠ .working fencingToken work

theorem Gone.authorize {check : Check} {now : PyFloat} {lane : Lane} {registry : LaneRegistry}
    (h : Gone s laneId fencingToken) :
    s.registry.authorize w.rt laneId fencingToken check.capability (some check.resourceKey)
      (some check.resourceMode) now ≠ (.ok lane, registry) := by
  intro hauthorize
  obtain ⟨-, hget, hfence, -⟩ := LaneRegistry.authorize_ok hauthorize
  exact h.registry.absent lane hget hfence

theorem Gone.step {event : Event} {output : Output} (h : Gone s laneId fencingToken)
    (hstep : Step w sessions s event s' output) : Gone s' laneId fencingToken where
  registry := by
    obtain ⟨now, hchange⟩ := hstep.change
    exact h.registry.change hchange
  stopped handle p hp howned := by
    by_contra hrun
    rw [Bool.not_eq_false] at hrun
    simp only [ManagedProcess.ownedBy, Bool.and_eq_true, beq_iff_eq] at howned
    rcases hstep.running hp hrun with ⟨p₀, hp₀, hrun₀, hlane, hfence, -⟩ |
      ⟨task, t, f, argv, cwd, _, hget, hphase, hlane, hfence, -⟩
    · have howned₀ : p₀.ownedBy laneId fencingToken = true := by
        simp only [ManagedProcess.ownedBy, Bool.and_eq_true, beq_iff_eq]
        exact ⟨hlane ▸ howned.1, hfence ▸ howned.2⟩
      rw [h.stopped handle p₀ hp₀ howned₀] at hrun₀
      cases hrun₀
    · -- the task that started it would have been at work
      have hfence' : f = fencingToken := hfence.symm.trans howned.2
      subst hfence'
      exact h.idle task t _ hget (hlane.symm.trans howned.1) hphase
  idle task t work hget hlane hphase := by
    rcases hstep.working hget hphase with ⟨t₀, hget₀, hlane₀, -, hphase₀⟩ |
      ⟨t₀, check, now, lane, hget₀, hphase₀, hauthorize, -, hlane₀, -⟩
    · exact h.idle task t₀ work hget₀ (hlane₀.symm.trans hlane) hphase₀
    · rw [← hlane₀, hlane] at hauthorize
      exact h.authorize hauthorize

theorem Gone.run {s₀ : VeraPortAgent} {events : List Event} (h : Gone s₀ laneId fencingToken)
    (hrun : s₀.run w sessions events = some s) : Gone s laneId fencingToken :=
  run_invariant (P := fun s => Gone s laneId fencingToken) hrun h
    fun _ hgone hstep => hgone.step hstep

/-- What a request gets that presents a fence that is gone. -/
theorem Gone.completed {event : Event} {t : Task} {result : PyValue} {response : Response}
    {binding : SessionBinding} {externalRequestId requestId operation : String}
    {sha256 : Option String} {request : Request} (h : Gone s laneId fencingToken)
    (hinv : Inv w sessions Past s)
    (hstep : Step w sessions s event s' (.completed t (.ok result) response))
    (hlane : t.laneId = laneId)
    (hjob : t.job = .request binding externalRequestId requestId operation sha256 request)
    (hfence : w.fencingToken request = .ok fencingToken)
    (hoperation : operation ∉ ["lane.list", "lane.open"]) :
    result = .dict [("processes", .list [])] := by
  generalize houtput : Output.completed t (.ok result) response = output at hstep
  cases hstep with
  | immediate stateStore registry job result' hfree harrived hsession hswept hresult =>
    obtain ⟨rfl, hres, -⟩ := conclude_completed houtput.symm
    have hlist := hresult _ hres.symm
    rw [show job = _ from hjob] at hlist
    exact absurd (List.mem_cons.mpr (Or.inl hlist)) hoperation
  | raised =>
    obtain ⟨-, hres, -⟩ := conclude_completed houtput.symm
    cases hres
  | opened hget hphase hjob' hbody hopen =>
    obtain ⟨rfl, -⟩ := conclude_completed houtput.symm
    rw [hjob', Job.request.injEq] at hjob
    obtain ⟨-, -, -, rfl, -⟩ := hjob
    rw [(Workstation.openLaneBody_of_dispatchBody hbody).1] at hoperation
    simp at hoperation
  | renewed hget hphase hjob' hbody hrenew =>
    obtain ⟨rfl, -⟩ := conclude_completed houtput.symm
    rw [hjob', Job.request.injEq] at hjob
    obtain ⟨-, -, -, -, -, rfl⟩ := hjob
    have hpresented := (Workstation.operation_of_renewLane hbody).2
    obtain ⟨old, hold, hcurrent, -⟩ := LaneRegistry.renew_ok hrenew
    rw [hlane] at hold
    rw [hfence] at hpresented
    exact absurd (hcurrent.trans (Except.ok.inj hpresented).symm) (h.registry.absent old hold)
  | listedNothing =>
    obtain ⟨-, hres, -⟩ := conclude_completed houtput.symm
    exact Except.ok.inj hres
  | @finished task t₀ _ _ f work hget hphase hfresh =>
    obtain ⟨rfl, -⟩ := conclude_completed houtput.symm
    have hprogress := (hinv.tasks hget).progress
    unfold Progress at hprogress
    rw [hphase] at hprogress
    obtain ⟨_, _, _, _, _, _, hjob', hpresented, -⟩ := hprogress.presented
    rw [hjob', Job.request.injEq] at hjob
    obtain ⟨-, -, -, -, -, rfl⟩ := hjob
    rw [hfence] at hpresented
    obtain rfl := Except.ok.inj hpresented
    exact absurd hphase (h.idle _ _ work hget hlane)
  | @closed task t₀ _ _ f terminated closing registry hget hphase hclose =>
    obtain ⟨rfl, hres, -⟩ := conclude_completed houtput.symm
    cases hjob₀ : t₀.job with
    | closeSession => simp [hjob₀, Job.addTerminated] at hjob
    | request =>
      simp only [hjob₀, Job.addTerminated, Job.request.injEq] at hjob
      obtain ⟨-, -, -, -, -, rfl⟩ := hjob
      have hpresented := ((hinv.tasks hget).closing hphase hjob₀).2
      rw [hfence] at hpresented
      obtain rfl := Except.ok.inj hpresented
      cases closing with
      | error exc => cases hres
      | ok lane =>
        obtain ⟨-, hold, hcurrent, -⟩ := LaneRegistry.close_ok hclose
        rw [show t₀.laneId = laneId from hlane] at hold
        exact absurd hcurrent (h.registry.absent lane hold)
  | refused | entered | acquired | closing | planned | authorized | terminated | sessionBegun
  | sessionEntered | sessionDone | exited | watched | cancelled => cases houtput

/-! ## Closing a lane -/

/-- `lane.close` succeeds only when no process is left and the registry drops the lane. -/
theorem Step.close_completed {event : Event} {t : Task} {result : PyValue} {response : Response}
    {binding : SessionBinding} {externalRequestId requestId : String} {sha256 : Option String}
    {request : Request} (hinv : Inv w sessions Past s)
    (hstep : Step w sessions s event s' (.completed t (.ok result) response))
    (hjob : t.job = .request binding externalRequestId requestId "lane.close" sha256 request)
    (hfence : w.fencingToken request = .ok fencingToken) :
    ∃ task t₀ terminated lane now complete, s.tasks.get? task = some t₀ ∧
      t₀.laneId = t.laneId ∧ t₀.phase = .terminating fencingToken [] terminated ∧
      s.registry.close t.laneId fencingToken now = (.ok lane, s'.registry) ∧
      s' = (conclude { s with registry := s'.registry } task t (.ok result) complete).1 := by
  generalize houtput : Output.completed t (.ok result) response = output at hstep
  cases hstep with
  | immediate stateStore registry job result' hfree harrived hsession hswept hresult =>
    obtain ⟨rfl, hres, -⟩ := conclude_completed houtput.symm
    have hlist := hresult _ hres.symm
    rw [show job = _ from hjob] at hlist
    simp [Job.operation] at hlist
  | raised =>
    obtain ⟨-, hres, -⟩ := conclude_completed houtput.symm
    cases hres
  | opened hget hphase hjob' hbody hopen =>
    obtain ⟨rfl, -⟩ := conclude_completed houtput.symm
    rw [hjob', Job.request.injEq] at hjob
    obtain ⟨-, -, -, rfl, -⟩ := hjob
    have hop := (Workstation.openLaneBody_of_dispatchBody hbody).1
    simp at hop
  | renewed hget hphase hjob' hbody hrenew =>
    obtain ⟨rfl, -⟩ := conclude_completed houtput.symm
    rw [hjob', Job.request.injEq] at hjob
    obtain ⟨-, -, -, rfl, -⟩ := hjob
    have hop := (Workstation.operation_of_renewLane hbody).1
    simp at hop
  | listedNothing hget hphase hjob' hbody hchecks =>
    obtain ⟨rfl, -⟩ := conclude_completed houtput.symm
    rw [hjob', Job.request.injEq] at hjob
    obtain ⟨-, -, -, rfl, -⟩ := hjob
    exact absurd (by simp) (Workstation.operation_of_perform hbody)
  | @finished task t₀ _ _ f work hget hphase hfresh =>
    obtain ⟨rfl, -⟩ := conclude_completed houtput.symm
    have hprogress := (hinv.tasks hget).progress
    unfold Progress at hprogress
    rw [hphase] at hprogress
    obtain ⟨_, _, _, _, _, _, hjob', -, hop⟩ := hprogress.presented
    rw [hjob', Job.request.injEq] at hjob
    obtain ⟨-, -, -, rfl, -⟩ := hjob
    exact absurd (by simp [laneOperations]) hop
  | @closed task t₀ now complete f terminated closing registry hget hphase hclose =>
    obtain ⟨rfl, hres, -⟩ := conclude_completed houtput.symm
    cases hjob₀ : t₀.job with
    | closeSession => simp [hjob₀, Job.addTerminated] at hjob
    | request =>
      simp only [hjob₀, Job.addTerminated, Job.request.injEq] at hjob
      obtain ⟨-, -, -, -, -, rfl⟩ := hjob
      have hpresented := ((hinv.tasks hget).closing hphase hjob₀).2
      rw [hfence] at hpresented
      obtain rfl := Except.ok.inj hpresented
      cases closing with
      | error exc => cases hres
      | ok lane =>
        refine ⟨task, t₀, terminated, lane, now, complete, hget, rfl, hphase, ?_, ?_⟩
        · rw [conclude_registry]
          exact hclose
        · rw [conclude_registry, hres]
  | refused | entered | acquired | closing | planned | authorized | terminated | sessionBegun
  | sessionEntered | sessionDone | exited | watched | cancelled => cases houtput

/-- Nobody else is at the lane that is closed, and nothing of it goes on. -/
theorem gone_of_closed {task : ℕ} {t t₀ : Task} {terminated : List String} {lane : Lane}
    {now : PyFloat} {result : Except PyError PyValue} {complete : StoreCall}
    (horderly : Orderly s) (hregistry : LaneRegistry.Inv w.rt s.registry)
    (hget : s.tasks.get? task = some t₀) (hlane : t₀.laneId = t.laneId)
    (hphase : t₀.phase = .terminating fencingToken [] terminated)
    (hclose : s.registry.close t.laneId fencingToken now = (.ok lane, s'.registry))
    (hs' : s' = (conclude { s with registry := s'.registry } task t result complete).1) :
    Gone s' t.laneId fencingToken ∧
      ∀ i u, s'.tasks.get? i = some u → u.laneId = t.laneId →
        u.phase = .idle ∨ u.phase = .waiting := by
  have hinside : s.locks.Inside task t.laneId :=
    hlane ▸ (horderly.framed task t₀ hget).inside (by simp [hphase]) (by simp [hphase])
  have halone : ∀ i u, s'.tasks.get? i = some u → u.laneId = t.laneId →
      u.phase = .idle ∨ u.phase = .waiting := by
    intro i u hu hsame
    rw [hs'] at hu
    by_cases hi : i = task
    · subst hi
      obtain ⟨-, _, _, _, _, _, _, _, -, rfl⟩ := conclude_tasks_self hu
      exact Or.inl rfl
    · rw [conclude_tasks_of_ne hi] at hu
      by_contra hnot
      rw [not_or] at hnot
      have hother := (horderly.framed i u hu).inside hnot.1 hnot.2
      rw [hsame] at hother
      exact hi (horderly.locks.inside_unique hother hinside)
  refine ⟨⟨LaneRegistry.Dropped.close hregistry hclose, fun handle p hp howned => ?_,
    fun i u work hu hsame hwork => ?_⟩, halone⟩
  · rw [hs', conclude_processes] at hp
    by_contra hrun
    rw [Bool.not_eq_false] at hrun
    have hmem := horderly.terminating task t₀ hget _ _ _ hphase handle p hp (hlane ▸ howned) hrun
    cases hmem
  · rcases halone i u hu hsame with hidle | hwaiting
    · rw [hidle] at hwork
      cases hwork
    · rw [hwaiting] at hwork
      cases hwork

/-- The barrier of `lane.close`: when it returns, no operation of the lane is executing and no
process of the lane and fence is running. Nothing is done or disclosed under the fence afterwards,
and it is not renewed or closed again. -/
theorem quiescent_of_close {sessionCapabilities : Finset String} {maxLanes : ℤ}
    {hasAllocator : Bool} {r₀ : LaneRegistry}
    (hcreate : LaneRegistry.create sessionCapabilities maxLanes hasAllocator = .ok r₀)
    (stateStore : Option AgentStateStore) (events : List Event)
    (hcancel : ∀ task, Event.cancel task ∉ events) (s : VeraPortAgent)
    (hrun : (init r₀ stateStore).run w sessions events = some s) (event : Event)
    (s₁ : VeraPortAgent) (t : Task) (result : PyValue) (response : Response)
    (hstep : s.step w sessions event = some (s₁, .completed t (.ok result) response))
    (binding : SessionBinding) (externalRequestId requestId : String) (sha256 : Option String)
    (request : Request)
    (hjob : t.job = .request binding externalRequestId requestId "lane.close" sha256 request)
    (fencingToken : ℤ) (hfence : w.fencingToken request = .ok fencingToken) :
    (∀ i u, s₁.tasks.get? i = some u → u.laneId = t.laneId →
      u.phase = .idle ∨ u.phase = .waiting) ∧
    (∀ handle p, s₁.processes.get? handle = some p → p.ownedBy t.laneId fencingToken = true →
      p.running = false) ∧
    ∀ later s₂, s₁.run w sessions later = some s₂ →
      (∀ i u work, s₂.tasks.get? i = some u → u.laneId = t.laneId →
        u.phase ≠ .working fencingToken work) ∧
      (∀ handle p, s₂.processes.get? handle = some p → p.ownedBy t.laneId fencingToken = true →
        p.running = false) ∧
      ∀ event' s₃ t' result' response' binding' externalRequestId' requestId' operation' sha256'
          request',
        s₂.step w sessions event' = some (s₃, .completed t' (.ok result') response') →
        t'.laneId = t.laneId →
        t'.job = .request binding' externalRequestId' requestId' operation' sha256' request' →
        w.fencingToken request' = .ok fencingToken → operation' ∉ ["lane.list", "lane.open"] →
        result' = .dict [("processes", .list [])] := by
  have horderly : Orderly s := (Orderly.init r₀ stateStore).run hcancel hrun
  have hregistry : LaneRegistry.Inv w.rt s.registry :=
    inv_registry (LaneRegistry.Inv.create hcreate) hrun
  have hinit : Inv w sessions (fun _ => True) (init r₀ stateStore) := Inv.init stateStore hcreate
  have hinv := hinit.run (fun _ _ => trivial) hrun
  obtain ⟨task, t₀, terminated, lane, now, complete, hget, hlane, hphase, hclose, hs₁⟩ :=
    (step_cases hstep).close_completed hinv hjob hfence
  obtain ⟨hgone, halone⟩ := gone_of_closed horderly hregistry hget hlane hphase hclose hs₁
  refine ⟨halone, hgone.stopped, fun later s₂ hlater => ?_⟩
  have hgone₂ := hgone.run hlater
  have hinv₂ := (hinv.step trivial (step_cases hstep)).run (fun _ _ => trivial) hlater
  exact ⟨hgone₂.idle, hgone₂.stopped, fun _ _ _ _ _ _ _ _ _ _ _ hstep' hlane' hjob' hfence' hop =>
    hgone₂.completed hinv₂ (step_cases hstep') hlane' hjob' hfence' hop⟩

/-- A lane is opened, and a request to close it is at the end. -/
def closingEvents : List Event :=
  exampleTurn 0 "a" (exampleOpen "r" "fs:/x") 0 ++
    exampleTurn 1 "a" (exampleRequest "q" "lane.close" [("fencing_token", .int 1)]) 1

/-- The request of a task closes a lane under the fence 1. -/
def closes (t : Task) : Bool :=
  match t.job with
  | .request _ _ _ operation _ request =>
    operation == "lane.close" && exampleWorkstation.fencingToken request == .ok 1
  | .closeSession _ _ _ _ _ => false

/-- A step completes such a request. -/
def completesClose (step : Option (VeraPortAgent × Output)) : Bool :=
  match step with
  | some (_, .completed t (.ok _) _) => closes t
  | _ => false

theorem quiescent_of_close_closingEvents :
    ∃ s s₁ t result response,
      (init exampleRegistry none).run exampleWorkstation exampleSessions closingEvents = some s ∧
      s.step exampleWorkstation exampleSessions (.closeLane 1 2 ⟨0, false⟩) =
        some (s₁, .completed t (.ok result) response) ∧
      ∀ handle p, s₁.processes.get? handle = some p → p.ownedBy t.laneId 1 = true →
        p.running = false := by
  have hcloses : ((init exampleRegistry none).run exampleWorkstation exampleSessions
      closingEvents).any (fun s => completesClose
        (s.step exampleWorkstation exampleSessions (.closeLane 1 2 ⟨0, false⟩))) = true := by
    decide +kernel
  obtain ⟨s, hs, hstep⟩ := (Option.any_eq_true _ _).mp hcloses
  unfold completesClose at hstep
  split at hstep
  next s₁ t result response hcompleted =>
    unfold closes at hstep
    split at hstep
    next binding externalRequestId requestId operation sha256 request hjob =>
      simp only [Bool.and_eq_true, beq_iff_eq] at hstep
      obtain ⟨rfl, hfence⟩ := hstep
      exact ⟨s, s₁, t, result, response, hs, hcompleted,
        (quiescent_of_close (show LaneRegistry.create {"fs.write", "process.exec"} 4 false =
          .ok exampleRegistry by decide) none closingEvents (by simp [closingEvents, exampleTurn])
          s hs _ s₁ t result response hcompleted binding _ _ _ request hjob 1 hfence).2.1⟩
    · cases hstep
  · cases hstep

end VeraPortAgent

end VeraMesh
