import VeraMesh.Agent.Authority
import VeraMesh.Lane.Fencing

/-!
# Exclusive effects

The registry keeps the lanes of its table apart, and a call of `authorize` looks at the table once.
An operation that has begun goes on when its lane has left the table, so a lane that is granted then
can conflict with what is still in progress.

* `Exclusive`: what is in progress under different lanes does not conflict.
* `GrantsClear`: no lane is granted that conflicts with what is in progress under a departed lane.
* `exclusive_iff_grantsClear`: a run is exclusive throughout if and only if all its steps grant so.
-/

namespace VeraMesh

open Python

/-- The lanes under which a task is at work. -/
def Task.effects (t : Task) : List Lane :=
  match t.phase with
  | .working _ _ => t.grants.map (·.lane)
  | _ => []

/-- The lane under which a process runs. -/
def ManagedProcess.effects (p : ManagedProcess) : List Lane :=
  if p.running then p.startedUnder.toList else []

/-- Different lanes do not conflict. -/
def Compatible (rt : Runtime) (l₁ l₂ : Lane) : Prop :=
  l₁.fencingToken ≠ l₂.fencingToken → firstConflict rt l₁.claims l₂.claims = none

instance (rt : Runtime) (l₁ l₂ : Lane) : Decidable (Compatible rt l₁ l₂) :=
  inferInstanceAs (Decidable (_ → _))

theorem Compatible.symm {rt : Runtime} {l₁ l₂ : Lane} (h : Compatible rt l₁ l₂) :
    Compatible rt l₂ l₁ :=
  fun hne => firstConflict_comm_none (h hne.symm)

/-- It depends on the fences and the claims only. -/
theorem Compatible.congr {rt : Runtime} {l₁ l₂ l : Lane} (h : Compatible rt l₁ l₂)
    (hfence : l.fencingToken = l₂.fencingToken) (hclaims : l.claims = l₂.claims) :
    Compatible rt l₁ l := by
  intro hne
  rw [hclaims]
  exact h (hfence ▸ hne)

namespace VeraPortAgent

/-- The lanes under which something is in progress on the workstation. -/
def effects (s : VeraPortAgent) : List Lane :=
  s.tasks.values.flatMap Task.effects ++ s.processes.values.flatMap ManagedProcess.effects

/-- Effects under different lanes do not conflict, nor does an effect with a lane of the table. -/
def Exclusive (rt : Runtime) (s : VeraPortAgent) : Prop :=
  (∀ l₁ ∈ s.effects, ∀ l₂ ∈ s.effects, Compatible rt l₁ l₂) ∧
    ∀ l ∈ s.effects, ∀ granted ∈ s.registry.lanes.values, Compatible rt l granted

instance (rt : Runtime) (s : VeraPortAgent) : Decidable (Exclusive rt s) :=
  inferInstanceAs (Decidable (_ ∧ _))

/-- If the step grants a lane, its claims do not conflict with those of a lane that has left the
table and under which something is still in progress. -/
def GrantsClear (w : Workstation) (s : VeraPortAgent) (event : Event) : Prop :=
  ∀ task fs now allocated complete t binding externalRequestId requestId operation sha256 request
    taskId capabilities claims ttlS,
    event = .dispatch task fs now allocated complete →
    s.tasks.get? task = some t → t.phase = .holding →
    t.job = .request binding externalRequestId requestId operation sha256 request →
    w.dispatchBody request fs s.processes t.laneId operation =
      .ok (.openLane taskId capabilities claims ttlS) →
    (s.registry.openLane w.rt t.laneId taskId capabilities claims ttlS now allocated).1.isOk →
    ∀ l ∈ s.effects,
      (∀ other ∈ (s.registry.reapExpiredLocked now).2.lanes.values,
        other.fencingToken ≠ l.fencingToken) →
      firstConflict w.rt (claimTuple claims) l.claims = none

variable {w : Workstation} {sessions : Sessions} {s s' : VeraPortAgent} {event : Event}
  {output : Output}

theorem mem_effects {l : Lane} : l ∈ s.effects ↔
    (∃ i t f work g, s.tasks.get? i = some t ∧ t.phase = .working f work ∧ g ∈ t.grants ∧
      g.lane = l) ∨
    ∃ handle p, s.processes.get? handle = some p ∧ p.running = true ∧ p.startedUnder = some l := by
  simp only [effects, List.mem_append, List.mem_flatMap, Dict.mem_values]
  refine or_congr ⟨?_, ?_⟩ ⟨?_, ?_⟩
  · rintro ⟨t, ⟨i, hi⟩, hl⟩
    unfold Task.effects at hl
    split at hl
    next f work hphase =>
      obtain ⟨g, hg, rfl⟩ := List.mem_map.mp hl
      exact ⟨i, t, f, work, g, hi, hphase, hg, rfl⟩
    · cases hl
  · rintro ⟨i, t, f, work, g, hi, hphase, hg, rfl⟩
    refine ⟨t, ⟨i, hi⟩, ?_⟩
    unfold Task.effects
    rw [hphase]
    exact List.mem_map_of_mem hg
  · rintro ⟨p, ⟨handle, hp⟩, hl⟩
    unfold ManagedProcess.effects at hl
    split_ifs at hl with hrun
    · exact ⟨handle, p, hp, hrun, by simpa using hl⟩
    · cases hl
  · rintro ⟨handle, p, hp, hrun, hstarted⟩
    refine ⟨p, ⟨handle, hp⟩, ?_⟩
    simp [ManagedProcess.effects, hrun, hstarted]

/-! ## Lanes on record -/

/-- The lane was read by a call of `authorize` that a task or a process keeps. -/
def Recorded (s : VeraPortAgent) (l : Lane) : Prop :=
  (∃ i t g, s.tasks.get? i = some t ∧ g ∈ t.grants ∧ g.lane = l) ∨
    ∃ handle p, s.processes.get? handle = some p ∧ p.startedUnder = some l

theorem recorded_of_mem_effects {l : Lane} (h : l ∈ s.effects) : Recorded s l := by
  rcases mem_effects.mp h with ⟨i, t, -, -, g, hi, -, hg, rfl⟩ | ⟨handle, p, hp, -, hl⟩
  · exact Or.inl ⟨i, t, g, hi, hg, rfl⟩
  · exact Or.inr ⟨handle, p, hp, hl⟩

/-- The lane has a fence that was issued, and is like the lane of the table with that fence. -/
def Known (r : LaneRegistry) (l : Lane) : Prop :=
  l.fencingToken ≤ r.lastFence ∧
    ∀ id other, r.lanes.get? id = some other → other.fencingToken = l.fencingToken →
      other.claims = l.claims

theorem Known.change {rt : Runtime} {r r' : LaneRegistry} {now : PyFloat} {l : Lane}
    (h : Known r l) (hchange : LaneRegistry.Change rt now r r') : Known r' l := by
  cases hchange with
  | sweep hswept =>
    exact ⟨hswept.lastFence_eq ▸ h.1, fun id other hget => h.2 id other (hswept.get?_of_get? hget)⟩
  | @insert lane hfresh hcaps hroom hclear hfence =>
    refine ⟨h.1.trans hfence.le, fun id other hget heq => ?_⟩
    rw [Dict.get?_set] at hget
    split_ifs at hget
    · obtain rfl := Option.some.inj hget
      exact absurd heq (h.1.trans_lt hfence).ne'
    · exact h.2 id other ((LaneRegistry.swept_reapExpiredLocked r now).get?_of_get? hget) heq
  | @rebind laneId old expiresAt hget hlive =>
    refine ⟨h.1, fun id other hother heq => ?_⟩
    rw [Dict.get?_set] at hother
    split_ifs at hother with hid
    · obtain rfl := Option.some.inj hother
      exact h.2 laneId old hget heq
    · exact h.2 id other hother heq
  | erase hget hlive =>
    exact ⟨h.1, fun id other hother => h.2 id other (Dict.get?_filter.mp hother).1⟩

/-- A lane of the table is known. -/
theorem known_of_get? {rt : Runtime} {r : LaneRegistry} {laneId : String} {lane : Lane}
    (hinv : LaneRegistry.Inv rt r) (hdistinct : r.Distinct)
    (hget : r.lanes.get? laneId = some lane) : Known r lane := by
  refine ⟨hinv.fenced hget, fun id other hother heq => ?_⟩
  obtain rfl := hdistinct id laneId other lane hother hget heq
  exact congrArg Lane.claims (Option.some.inj (hother.symm.trans hget))

/-- The account of the lanes that authorised what is in progress. -/
structure Accounted (rt : Runtime) (s : VeraPortAgent) : Prop where
  registry : LaneRegistry.Inv rt s.registry
  distinct : s.registry.Distinct
  known : ∀ l, Recorded s l → Known s.registry l

/-- A lane comes on record by a call of `authorize`. -/
theorem Step.recorded (hstep : Step w sessions s event s' output) {l : Lane}
    (h : Recorded s' l) :
    Recorded s l ∨ s'.registry = s.registry ∧ ∃ id, s.registry.lanes.get? id = some l := by
  rcases h with ⟨i, t', g, hi, hg, rfl⟩ | ⟨handle, p', hp', hl⟩
  · rcases hstep.task_cases hi with ⟨t, ht, -, -, hgrants, -⟩ |
      ⟨t, f, check, todo, work, now, complete, lane, -, ht, -, hauthorize, -, rfl⟩ |
      ⟨-, hnil | ⟨t, ht, hgrants⟩⟩
    · exact Or.inl (Or.inl ⟨i, t, g, ht, hgrants ▸ hg, rfl⟩)
    · rcases List.mem_append.mp hg with hold | hnew
      · exact Or.inl (Or.inl ⟨i, t, g, ht, hold, rfl⟩)
      · obtain ⟨hreg, hget, -⟩ := LaneRegistry.authorize_ok hauthorize
        rw [List.mem_singleton.mp hnew]
        exact Or.inr ⟨hreg, t.laneId, hget⟩
    · rw [hnil] at hg
      cases hg
    · exact Or.inl (Or.inl ⟨i, t, g, ht, hgrants ▸ hg, rfl⟩)
  · rcases hstep.startedUnder hp' hl with ⟨p, hp, hstarted⟩ | ⟨i, t, g, ht, hg, rfl⟩
    · exact Or.inl (Or.inr ⟨handle, p, hp, hstarted⟩)
    · exact Or.inl (Or.inl ⟨i, t, g, ht, hg, rfl⟩)

theorem Accounted.step (h : Accounted w.rt s) (hstep : Step w sessions s event s' output) :
    Accounted w.rt s' := by
  obtain ⟨now, hchange⟩ := hstep.change
  refine ⟨h.registry.change hchange, h.distinct.change h.registry hchange, fun l hl => ?_⟩
  rcases hstep.recorded hl with hold | ⟨hreg, id, hget⟩
  · exact (h.known l hold).change hchange
  · rw [hreg]
    exact known_of_get? h.registry h.distinct hget

/-! ## One step -/

/-- A lane of the table was there before, up to its expiry, or has just been opened. -/
theorem Step.granted (hstep : Step w sessions s event s' output) {granted : Lane}
    (h : granted ∈ s'.registry.lanes.values) :
    (∃ old ∈ s.registry.lanes.values, old.fencingToken = granted.fencingToken ∧
      old.claims = granted.claims) ∨
    ∃ task fs now allocated complete t binding externalRequestId requestId operation sha256 request
      taskId capabilities claims ttlS,
      event = .dispatch task fs now allocated complete ∧ s.tasks.get? task = some t ∧
      t.phase = .holding ∧
      t.job = .request binding externalRequestId requestId operation sha256 request ∧
      w.dispatchBody request fs s.processes t.laneId operation =
        .ok (.openLane taskId capabilities claims ttlS) ∧
      s.registry.openLane w.rt t.laneId taskId capabilities claims ttlS now allocated =
        (.ok granted, s'.registry) := by
  obtain ⟨id, hget⟩ := Dict.mem_values.mp h
  have hold : s.registry.lanes.get? id = some granted →
      ∃ old ∈ s.registry.lanes.values, old.fencingToken = granted.fencingToken ∧
        old.claims = granted.claims :=
    fun hold => ⟨granted, Dict.mem_values.mpr ⟨id, hold⟩, rfl, rfl⟩
  cases hstep with
  | immediate _ _ _ _ _ _ _ hswept | raised _ _ _ _ _ _ hswept =>
    rw [conclude_registry] at hget
    exact Or.inl (hold (hswept.get?_of_get? hget))
  | @opened task t fs now allocated complete _ _ _ _ _ _ _ _ _ _ lane registry hget' hphase hjob
      hbody hopen =>
    rw [conclude_registry] at hget
    obtain ⟨r₀, fence, rfl, -, hreg, -⟩ := LaneRegistry.openLane_ok hopen
    simp only [hreg] at hget
    rw [Dict.get?_set] at hget
    split_ifs at hget
    · obtain rfl := Option.some.inj hget
      refine Or.inr ⟨task, fs, now, allocated, complete, t, _, _, _, _, _, _, _, _, _, _, rfl, hget',
        hphase, hjob, hbody, ?_⟩
      rw [conclude_registry]
      exact hopen
    · exact Or.inl (hold ((LaneRegistry.swept_reapExpiredLocked s.registry now).get?_of_get? hget))
  | renewed hget' hphase hjob hbody hrenew =>
    rw [conclude_registry] at hget
    obtain ⟨old, hold', -, -, rfl, rfl⟩ := LaneRegistry.renew_ok hrenew
    rw [Dict.get?_set] at hget
    split_ifs at hget
    · obtain rfl := Option.some.inj hget
      exact Or.inl ⟨old, Dict.mem_values.mpr ⟨_, hold'⟩, rfl, rfl⟩
    · exact Or.inl (hold hget)
  | @closed _ _ _ _ _ _ result _ _ _ hclose =>
    rw [conclude_registry] at hget
    cases result with
    | error exc => exact Or.inl (hold ((LaneRegistry.close_error hclose).get?_of_get? hget))
    | ok lane =>
      obtain ⟨rfl, -⟩ := LaneRegistry.close_ok hclose
      exact Or.inl (hold (Dict.get?_filter.mp hget).1)
  | authorized hget' hphase hauthorize =>
    obtain ⟨rfl, -⟩ := LaneRegistry.authorize_ok hauthorize
    exact Or.inl (hold hget)
  | sessionBegun => exact Or.inl (hold ((swept_snapshot s.registry _).get?_of_get? hget))
  | watched => exact Or.inl (hold (swept_watch.get?_of_get? hget))
  | cancelled =>
    unfold VeraPortAgent.cancel at hget
    split at hget <;> exact Or.inl (hold hget)
  | listedNothing | finished =>
    rw [conclude_registry] at hget
    exact Or.inl (hold hget)
  | refused | entered | acquired | closing | planned | terminated | sessionEntered | sessionDone
  | exited => exact Or.inl (hold hget)

/-- An effect was in progress before, or begins under a lane of the table. -/
theorem Step.began {Past : LaneRegistry → Prop} (hinv : Inv w sessions Past s)
    (haccount : Accounted w.rt s) (hstep : Step w sessions s event s' output) {l : Lane}
    (h : l ∈ s'.effects) :
    l ∈ s.effects ∨ s'.registry = s.registry ∧ ∃ lane ∈ s.registry.lanes.values,
      l.fencingToken = lane.fencingToken ∧ l.claims = lane.claims := by
  rcases mem_effects.mp h with ⟨i, t', f, work, g, hi, hphase, hg, rfl⟩ |
    ⟨handle, p, hp, hrun, hl⟩
  · rcases hstep.working hi hphase with ⟨t, ht, -, hgrants, hworking⟩ |
      ⟨t, check, now, lane, ht, hchecking, hauthorize, -, -, hgrants⟩
    · exact Or.inl (mem_effects.mpr (Or.inl ⟨i, t, f, work, g, ht, hworking, hgrants ▸ hg, rfl⟩))
    · obtain ⟨hreg, hget, hfence, -⟩ := LaneRegistry.authorize_ok hauthorize
      refine Or.inr ⟨hreg, lane, Dict.mem_values.mpr ⟨_, hget⟩, ?_⟩
      rw [hgrants] at hg
      rcases List.mem_append.mp hg with hold | hnew
      · -- an earlier call of the same operation was made under the same fence
        have hprogress := (hinv.tasks ht).progress
        unfold Progress at hprogress
        rw [hchecking] at hprogress
        obtain ⟨-, -, hfence', -⟩ := LaneRegistry.authorize_ok (hprogress.granted g hold).authorized
        have hsame := hfence.trans hfence'.symm
        have hrecorded : Recorded s g.lane := Or.inl ⟨i, t, g, ht, hold, rfl⟩
        exact ⟨hsame.symm, ((haccount.known _ hrecorded).2 _ lane hget hsame).symm⟩
      · rw [List.mem_singleton.mp hnew]
        exact ⟨rfl, rfl⟩
  · rcases hstep.running hp hrun with ⟨p₀, hp₀, hrun₀, -, -, hstarted⟩ |
      ⟨task, t, f, argv, cwd, maxRuntimeS, ht, hworking, -, -, hstarted⟩
    · exact Or.inl (mem_effects.mpr (Or.inr ⟨handle, p₀, hp₀, hrun₀, hstarted ▸ hl⟩))
    · rw [hl] at hstarted
      obtain ⟨g, hg, hlane⟩ := Option.map_eq_some_iff.mp hstarted.symm
      exact Or.inl (mem_effects.mpr
        (Or.inl ⟨task, t, f, _, g, ht, hworking, List.mem_of_mem_head? hg, hlane⟩))

/-- Lanes of the table are compatible. -/
theorem compatible_of_mem {rt : Runtime} {r : LaneRegistry} (hinv : LaneRegistry.Inv rt r)
    {l₁ l₂ : Lane} (h₁ : l₁ ∈ r.lanes.values) (h₂ : l₂ ∈ r.lanes.values) :
    Compatible rt l₁ l₂ := by
  obtain ⟨id₁, hget₁⟩ := Dict.mem_values.mp h₁
  obtain ⟨id₂, hget₂⟩ := Dict.mem_values.mp h₂
  intro hne
  apply hinv.exclusive hget₁ hget₂
  rintro rfl
  exact hne (congrArg Lane.fencingToken (Option.some.inj (hget₁.symm.trans hget₂)))

/-- A lane that is opened is compatible with what is in progress. -/
theorem compatible_opened {r' : LaneRegistry} {laneId taskId : String}
    {capabilities : List String} {claims : List ResourceClaim} {ttl now : PyFloat}
    {allocated : Except PyError ℤ} {l granted : Lane} (haccount : Accounted w.rt s)
    (hl : l ∈ s.effects)
    (hopen : s.registry.openLane w.rt laneId taskId capabilities claims ttl now allocated =
      (.ok granted, r'))
    (hclear : (∀ other ∈ (s.registry.reapExpiredLocked now).2.lanes.values,
        other.fencingToken ≠ l.fencingToken) →
      firstConflict w.rt (claimTuple claims) l.claims = none) :
    Compatible w.rt l granted := by
  obtain ⟨r₀, fence, rfl, rfl, -, -, -, -, -, hfree⟩ := LaneRegistry.openLane_ok hopen
  intro hne
  apply firstConflict_comm_none
  by_cases hdeparted : ∀ other ∈ (s.registry.reapExpiredLocked now).2.lanes.values,
      other.fencingToken ≠ l.fencingToken
  · exact hclear hdeparted
  · -- the lane of the effect is in the table, where the registry has looked
    push Not at hdeparted
    obtain ⟨other, hother, hfence⟩ := hdeparted
    obtain ⟨id, hget⟩ := Dict.mem_values.mp hother
    have hget₀ := (LaneRegistry.swept_reapExpiredLocked s.registry now).get?_of_get? hget
    have hclaims := (haccount.known l (recorded_of_mem_effects hl)).2 id other hget₀ hfence
    rw [← hclaims]
    exact hfree id other hget

theorem Exclusive.step {Past : LaneRegistry → Prop} (h : Exclusive w.rt s)
    (hinv : Inv w sessions Past s) (haccount : Accounted w.rt s)
    (hclear : GrantsClear w s event) (hstep : Step w sessions s event s' output) :
    Exclusive w.rt s' := by
  constructor
  · intro l₁ h₁ l₂ h₂
    rcases hstep.began hinv haccount h₁ with hold₁ | ⟨-, lane₁, hlane₁, hf₁, hc₁⟩
    · rcases hstep.began hinv haccount h₂ with hold₂ | ⟨-, lane₂, hlane₂, hf₂, hc₂⟩
      · exact h.1 l₁ hold₁ l₂ hold₂
      · exact (h.2 l₁ hold₁ lane₂ hlane₂).congr hf₂ hc₂
    · rcases hstep.began hinv haccount h₂ with hold₂ | ⟨-, lane₂, hlane₂, hf₂, hc₂⟩
      · exact ((h.2 l₂ hold₂ lane₁ hlane₁).congr hf₁ hc₁).symm
      · exact (((compatible_of_mem haccount.registry hlane₁ hlane₂).congr hf₂ hc₂).symm.congr hf₁
          hc₁).symm
  · intro l hl granted hgranted
    rcases hstep.began hinv haccount hl with hold | ⟨hreg, lane, hlane, hf, hc⟩
    · rcases hstep.granted hgranted with ⟨old, hold', hf, hc⟩ |
        ⟨task, fs, now, allocated, complete, t, _, _, _, _, _, _, _, _, claims, _, hevent, hget,
          hphase, hjob, hbody, hopen⟩
      · exact (h.2 l hold old hold').congr hf.symm hc.symm
      · refine compatible_opened haccount hold hopen fun hdeparted => ?_
        exact hclear task fs now allocated complete t _ _ _ _ _ _ _ _ _ _ hevent hget hphase hjob
          hbody (by rw [hopen]; rfl) l hold hdeparted
    · rw [hreg] at hgranted
      exact ((compatible_of_mem haccount.registry hgranted hlane).congr hf hc).symm

/-- What is in progress goes on while a task concludes that is not at work. -/
theorem mem_effects_conclude {task : ℕ} {t : Task} {registry : LaneRegistry}
    {result : Except PyError PyValue} {complete : StoreCall} {l : Lane}
    (hget : s.tasks.get? task = some t) (hphase : t.phase = .holding) (hl : l ∈ s.effects) :
    l ∈ (conclude { s with registry } task t result complete).1.effects := by
  rcases mem_effects.mp hl with ⟨i, u, f, work, g, hi, hwork, hg, rfl⟩ | ⟨handle, p, hp, hrun⟩
  · have hne : i ≠ task := by
      rintro rfl
      obtain rfl := Option.some.inj (hget.symm.trans hi)
      rw [hphase] at hwork
      cases hwork
    refine mem_effects.mpr (Or.inl ⟨i, u, f, work, g, ?_, hwork, hg, rfl⟩)
    rw [conclude_tasks_of_ne hne, hi]
  · refine mem_effects.mpr (Or.inr ⟨handle, p, ?_, hrun⟩)
    rw [conclude_processes, hp]

/-- A step that grants otherwise ends in conflict. -/
theorem grantsClear_of_exclusive (sessions : Sessions) (haccount : Accounted w.rt s)
    (hexclusive : ∀ s' output, s.step w sessions event = some (s', output) →
      Exclusive w.rt s') : GrantsClear w s event := by
  intro task fs now allocated complete t binding externalRequestId requestId operation sha256
    request taskId capabilities claims ttlS hevent hget hphase hjob hbody hok l hl hdeparted
  subst hevent
  rcases hopen : s.registry.openLane w.rt t.laneId taskId capabilities claims ttlS now allocated
    with ⟨result, registry⟩
  rw [hopen] at hok
  cases result with
  | error exc => cases hok
  | ok granted =>
    have hstep : s.step w sessions (.dispatch task fs now allocated complete) =
        some (conclude { s with registry } task t (.ok (laneJson granted)) complete) := by
      simp only [VeraPortAgent.step, hget, hphase, VeraPortAgent.dispatch, hjob, hbody, hopen]
      rfl
    have hexclusive' : Exclusive w.rt
        (conclude { s with registry } task t (.ok (laneJson granted)) complete).1 :=
      hexclusive _ _ hstep
    have hafter := hexclusive'.2 l (mem_effects_conclude hget hphase hl) granted
    rw [conclude_registry] at hafter
    obtain ⟨r₀, fence, rfl, hgranted, rfl, hfence, -⟩ := LaneRegistry.openLane_ok hopen
    have hmem := hafter (Dict.mem_values.mpr ⟨t.laneId, Dict.get?_set_self ..⟩)
    have hne : l.fencingToken ≠ granted.fencingToken := by
      have hissued := (haccount.known l (recorded_of_mem_effects hl)).1
      rw [hgranted]
      exact (hissued.trans_lt hfence).ne
    have hconflict := firstConflict_comm_none (hmem hne)
    rwa [hgranted] at hconflict

/-! ## Runs -/

/-- What is known of a state of an agent that grants with care. -/
structure Careful (w : Workstation) (sessions : Sessions) (s : VeraPortAgent) : Prop where
  authority : Inv w sessions (fun _ => True) s
  accounted : Accounted w.rt s
  exclusive : Exclusive w.rt s

theorem Careful.run {s₀ : VeraPortAgent} {events : List Event} (h : Careful w sessions s₀)
    (hclear : ∀ visited event s₁, visited ++ [event] <+: events →
      s₀.run w sessions visited = some s₁ → GrantsClear w s₁ event)
    (hrun : s₀.run w sessions events = some s) : Careful w sessions s := by
  induction events generalizing s₀ with
  | nil =>
    obtain rfl := Option.some.inj hrun
    exact h
  | cons event events ih =>
    rw [VeraPortAgent.run, Option.bind_eq_some_iff] at hrun
    obtain ⟨⟨s₁, output⟩, hfirst, hrest⟩ := hrun
    have hstep := step_cases hfirst
    have hfirstClear := hclear [] event s₀ (List.cons_prefix_cons.mpr ⟨rfl, List.nil_prefix⟩) rfl
    refine ih ⟨h.authority.step trivial hstep, h.accounted.step hstep,
      h.exclusive.step h.authority h.accounted hfirstClear hstep⟩ ?_ hrest
    intro visited event' s₂ hvisited hrun₂
    refine hclear (event :: visited) event' s₂ (List.cons_prefix_cons.mpr ⟨rfl, hvisited⟩) ?_
    rw [VeraPortAgent.run, hfirst]
    exact hrun₂

theorem Accounted.run {s₀ : VeraPortAgent} {events : List Event} (h : Accounted w.rt s₀)
    (hrun : s₀.run w sessions events = some s) : Accounted w.rt s :=
  run_invariant (P := fun s => Accounted w.rt s) hrun h fun _ hP hstep => hP.step hstep

theorem Accounted.init {rt : Runtime} {sessionCapabilities : Finset String} {maxLanes : ℤ}
    {hasAllocator : Bool} {r₀ : LaneRegistry} (stateStore : Option AgentStateStore)
    (hcreate : LaneRegistry.create sessionCapabilities maxLanes hasAllocator = .ok r₀) :
    Accounted rt (init r₀ stateStore) := by
  refine ⟨LaneRegistry.Inv.create hcreate, ?_, ?_⟩
  · unfold LaneRegistry.create at hcreate
    split_ifs at hcreate
    cases hcreate
    intro id₁ id₂ l₁ l₂ h₁
    cases h₁
  · rintro l (⟨i, t, g, hi, -⟩ | ⟨handle, p, hp, -⟩)
    · cases hi
    · cases hp

/-- In a run, what is in progress under different lanes never conflicts if and only if no step
grants a lane that conflicts with what is in progress under a departed one. -/
theorem exclusive_iff_grantsClear {sessionCapabilities : Finset String} {maxLanes : ℤ}
    {hasAllocator : Bool} {r₀ : LaneRegistry}
    (hcreate : LaneRegistry.create sessionCapabilities maxLanes hasAllocator = .ok r₀)
    (w : Workstation) (sessions : Sessions) (stateStore : Option AgentStateStore)
    (events : List Event) :
    (∀ visited s₁, visited <+: events → (init r₀ stateStore).run w sessions visited = some s₁ →
      Exclusive w.rt s₁) ↔
    ∀ visited event s₁, visited ++ [event] <+: events →
      (init r₀ stateStore).run w sessions visited = some s₁ → GrantsClear w s₁ event := by
  have haccount : Accounted w.rt (init r₀ stateStore) := Accounted.init stateStore hcreate
  constructor
  · intro hexclusive visited event s₁ hvisited hrun₁
    refine grantsClear_of_exclusive sessions (haccount.run hrun₁) fun s₂ output hstep => ?_
    refine hexclusive (visited ++ [event]) s₂ hvisited ?_
    rw [run_append, hrun₁]
    simp [VeraPortAgent.run, hstep]
  · intro hclear visited s₁ hvisited hrun₁
    have hinit : Careful w sessions (init r₀ stateStore) :=
      ⟨Inv.init stateStore hcreate, haccount, by constructor <;> intro l hl <;> cases hl⟩
    exact (hinit.run (fun early event s₂ hearly =>
      hclear early event s₂ (hearly.trans hvisited)) hrun₁).exclusive

/-- Run a command under a fence. -/
def exampleExec (requestId : String) (fencingToken : ℤ) : Request :=
  exampleRequest requestId "process.exec" [("fencing_token", .int fencingToken),
    ("argv", .list [.str "x"]), ("cwd", .str "/x"), ("timeout_s", .float 60)]

/-- A command still runs when its lane has expired. Another session opens a lane on the same
directory and runs a command of its own there. -/
def overlappingEvents : List Event :=
  exampleTurn 0 "a" (exampleOpen "r" "cwd:/x") 0 ++ exampleTurn 1 "a" (exampleExec "q" 1) 1 ++
    [.authorize 1 2 ⟨0, false⟩] ++
    exampleTurn 2 "b" (exampleOpen "r" "cwd:/x") 20 ++ exampleTurn 3 "b" (exampleExec "q" 2) 21 ++
    [.authorize 3 22 ⟨0, false⟩]

theorem any_overlappingEvents :
    ((init exampleRegistry none).run exampleWorkstation exampleSessions overlappingEvents).any
      (fun s => !decide (∀ l₁ ∈ s.effects, ∀ l₂ ∈ s.effects,
        Compatible exampleWorkstation.rt l₁ l₂)) = true := by
  decide +kernel

/-- Two commands are in progress at once under two lanes that both claim the directory. -/
theorem not_exclusive_overlappingEvents :
    ∃ s l₁ l₂,
      (init exampleRegistry none).run exampleWorkstation exampleSessions overlappingEvents =
        some s ∧
      l₁ ∈ s.effects ∧ l₂ ∈ s.effects ∧ l₁.fencingToken ≠ l₂.fencingToken ∧
      firstConflict exampleWorkstation.rt l₁.claims l₂.claims ≠ none := by
  obtain ⟨s, hs, hany⟩ := (Option.any_eq_true _ _).mp any_overlappingEvents
  rw [Bool.not_eq_true', decide_eq_false_iff_not] at hany
  simp only [Compatible, not_forall] at hany
  obtain ⟨l₁, h₁, l₂, h₂, hne, hconflict⟩ := hany
  exact ⟨s, l₁, l₂, hs, h₁, h₂, hne, hconflict⟩

/-- The lane of the second session is granted against the condition. -/
theorem exclusive_iff_grantsClear_overlappingEvents :
    ¬∀ visited event s₁, visited ++ [event] <+: overlappingEvents →
      (init exampleRegistry none).run exampleWorkstation exampleSessions visited = some s₁ →
      GrantsClear exampleWorkstation s₁ event := by
  intro hclear
  obtain ⟨s, hs, hany⟩ := (Option.any_eq_true _ _).mp any_overlappingEvents
  rw [Bool.not_eq_true', decide_eq_false_iff_not] at hany
  exact hany ((exclusive_iff_grantsClear
    (show LaneRegistry.create {"fs.write", "process.exec"} 4 false = .ok exampleRegistry by decide)
    exampleWorkstation exampleSessions none overlappingEvents).mpr hclear overlappingEvents s
    (List.prefix_refl _) hs).1

end VeraPortAgent

end VeraMesh
