import VeraMesh.Agent.Step
import VeraMesh.Python.FloatRange

/-!
# The end of lanes

A lane that is not renewed ends by itself if its expiry is a number: from then on the lane is
refused, and swept out of the way of others. The registry asks for a `ttl_s` above 0, which it
refuses by comparison, so that it grants NaN and infinity; such a lane ends for no clock.

* `Lane.EndsBy`: a lane without effect from a deadline on.
* `grantedTerm`: the clock reading and the `ttl_s` of an accepted `lane.open` or `lane.renew`.
* `TermFits`: a term whose end is a number.
* `lanes_end_iff`: a run has only lanes that end if and only if all accepted terms fit.
-/

namespace VeraMesh

open Python

/-! ## Lanes that end -/

/-- Unless it is renewed, the lane has no effect from the deadline on, whatever becomes of the
registry: it can be neither used nor renewed nor closed, and `open_lane` goes on as if it were not
there. -/
def Lane.EndsBy (rt : Runtime) (lane : Lane) (deadline : ℚ) : Prop :=
  ∀ (r : LaneRegistry) (laneId : String) (now : ℚ), r.lanes.get? laneId = some lane →
    deadline ≤ now →
    (∀ fence capability key mode,
      (r.authorize rt laneId fence capability key mode (.finite now)).1.isOk = false) ∧
    (∀ fence ttl, (r.renew laneId fence ttl (.finite now)).1.isOk = false) ∧
    (∀ fence, (r.close laneId fence (.finite now)).1.isOk = false) ∧
    ∀ newId taskId capabilities claims ttl allocated,
      (r.openLane rt newId taskId capabilities claims ttl (.finite now) allocated).1 =
        ({ r with lanes := r.lanes.erase laneId }.openLane rt newId taskId capabilities claims ttl
          (.finite now) allocated).1

section Lane

variable {rt : Runtime} {r : LaneRegistry} {lane : Lane} {laneId : String} {now : PyFloat}

/-- An expired lane is refused. -/
theorem requireLaneLocked_of_expired (hget : r.lanes.get? laneId = some lane)
    (hexp : lane.expired now = true) (fence : ℤ) :
    (r.requireLaneLocked laneId fence now).1.isOk = false := by
  unfold LaneRegistry.requireLaneLocked
  rw [hget]
  dsimp only
  split_ifs
  · rfl
  · rfl

/-- The sweep takes an expired lane out of the way. -/
theorem reapExpiredLocked_of_expired (hget : r.lanes.get? laneId = some lane)
    (hexp : lane.expired now = true) :
    (r.reapExpiredLocked now).2 =
      ({ r with lanes := r.lanes.erase laneId }.reapExpiredLocked now).2 := by
  have hlanes : (r.lanes.erase laneId).filter (fun _ lane => !lane.expired now) =
      r.lanes.filter fun _ lane => !lane.expired now := by
    apply Dict.ext
    show (r.lanes.entries.filter _).filter _ = r.lanes.entries.filter _
    rw [List.filter_filter]
    apply List.filter_congr
    rintro ⟨id, other⟩ hmem
    by_cases hid : id = laneId
    · -- the entry is the expired lane
      subst hid
      have hother : r.lanes.get? id = some other := Dict.get?_eq_some_iff.mpr hmem
      obtain rfl : other = lane := Option.some.inj (hother.symm.trans hget)
      simp [hexp]
    · simp [hid]
  show ({ r with lanes := _ } : LaneRegistry) = { r with lanes := _ }
  rw [hlanes]

/-- A lane with a finite expiry ends by then. -/
theorem Lane.endsBy_of_finite {q : ℚ} (h : lane.expiresAt = .finite q) : lane.EndsBy rt q := by
  intro r laneId now hget hle
  have hexp : lane.expired (.finite now) = true := by
    rw [Lane.expired, h]
    exact decide_eq_true hle
  refine ⟨fun fence capability key mode => ?_, fun fence ttl => ?_, fun fence => ?_, ?_⟩
  · have hrefused := requireLaneLocked_of_expired hget hexp fence
    unfold LaneRegistry.authorize
    cases hreq : r.requireLaneLocked laneId fence (.finite now) with
    | mk result r' =>
      rw [hreq] at hrefused
      cases result with
      | error exc => rfl
      | ok granted => cases hrefused
  · have hrefused := requireLaneLocked_of_expired hget hexp fence
    unfold LaneRegistry.renew
    split_ifs
    · rfl
    · cases hreq : r.requireLaneLocked laneId fence (.finite now) with
      | mk result r' =>
        rw [hreq] at hrefused
        cases result with
        | error exc => rfl
        | ok granted => cases hrefused
  · have hrefused := requireLaneLocked_of_expired hget hexp fence
    unfold LaneRegistry.close
    cases hreq : r.requireLaneLocked laneId fence (.finite now) with
    | mk result r' =>
      rw [hreq] at hrefused
      cases result with
      | error exc => rfl
      | ok granted => cases hrefused
  · intro newId taskId capabilities claims ttl allocated
    unfold LaneRegistry.openLane
    dsimp only
    split_ifs
    · rfl
    · rfl
    · rw [reapExpiredLocked_of_expired hget hexp]
    · rfl

/-- A lane whose expiry is no number ends for no clock. -/
theorem Lane.not_endsBy (hneg : lane.expiresAt ≠ .negInf)
    (hfinite : ∀ q, lane.expiresAt ≠ .finite q) (deadline : ℚ) : ¬lane.EndsBy rt deadline := by
  intro hends
  have hexp : lane.expired (.finite deadline) = false := by
    unfold Lane.expired
    cases hat : lane.expiresAt with
    | nan => rfl
    | negInf => exact absurd hat hneg
    | finite q => exact absurd hat (hfinite q)
    | posInf => rfl
  -- in a registry of its own it is closed by its own fence
  have hclosed := (hends ⟨∅, 0, Dict.empty.set "" lane, 0, false⟩ "" deadline rfl le_rfl).2.2.1
    lane.fencingToken
  have hget : (Dict.empty.set "" lane).get? "" = some lane := rfl
  simp [LaneRegistry.close, LaneRegistry.requireLaneLocked, hget, hexp, Except.isOk,
    Except.toBool] at hclosed

end Lane

/-! ## Terms -/

/-- What `time.monotonic` reads, if lanes are granted by it: a number of moderate size. -/
def Event.ClockReads : Event → Prop
  | .dispatch _ _ now _ _ => ∃ t, now = .finite t ∧ |t| ≤ 2 ^ 1023
  | _ => True

namespace VeraPortAgent

/-- The clock reading and the `ttl_s` of an accepted `lane.open` or `lane.renew`. -/
def grantedTerm (w : Workstation) (s : VeraPortAgent) : Event → Option (PyFloat × PyFloat)
  | .dispatch task fs now allocated _ =>
    match s.tasks.get? task with
    | some t =>
      match t.phase, t.job with
      | .holding, .request _ _ _ operation _ request =>
        match w.dispatchBody request fs s.processes t.laneId operation with
        | .ok (.openLane taskId capabilities claims ttlS) =>
          if (s.registry.openLane w.rt t.laneId taskId capabilities claims ttlS now
              allocated).1.isOk then some (now, ttlS) else none
        | .ok (.renewLane fencingToken ttlS) =>
          if (s.registry.renew t.laneId fencingToken ttlS now).1.isOk then some (now, ttlS)
          else none
        | _ => none
      | _, _ => none
    | none => none
  | _ => none

/-- The `ttl_s` is a number, and with the clock reading below what a float can hold. -/
def TermFits (now ttlS : PyFloat) : Prop :=
  ∃ t q, now = .finite t ∧ ttlS = .finite q ∧ t + q < PyFloat.overflowThreshold

/-- On a real clock every number fits: the largest float is `2 ^ 1024 - 2 ^ 971`. -/
theorem termFits_of_le {t q : ℚ} (hclock : t < 2 ^ 970) (httl : q ≤ 2 ^ 1024 - 2 ^ 971) :
    TermFits (.finite t) (.finite q) := by
  refine ⟨t, q, rfl, rfl, ?_⟩
  have hhalf : t < PyFloat.halfPlace := hclock
  rw [PyFloat.two_pow_971, PyFloat.two_pow_1024] at httl
  rw [PyFloat.overflowThreshold_eq]
  linarith

variable {w : Workstation} {sessions : Sessions} {s s' : VeraPortAgent} {event : Event}
  {output : Output} {now ttlS : PyFloat}

/-- A granted term is not below 0. -/
theorem ttl_pos_of_openLane {rt : Runtime} {r r' : LaneRegistry} {laneId taskId : String}
    {capabilities : List String} {claims : List ResourceClaim} {allocated : Except PyError ℤ}
    {lane : Lane} (h : r.openLane rt laneId taskId capabilities claims ttlS now allocated =
      (.ok lane, r')) : ttlS.le 0 = false := by
  unfold LaneRegistry.openLane at h
  split_ifs at h with hblank httl
  · cases h
  · cases h
  · exact Bool.eq_false_iff.mpr httl
  · cases h

theorem ttl_pos_of_renew {r r' : LaneRegistry} {laneId : String} {fence : ℤ} {lane : Lane}
    (h : r.renew laneId fence ttlS now = (.ok lane, r')) : ttlS.le 0 = false := by
  unfold LaneRegistry.renew at h
  split_ifs at h with httl
  · cases h
  · exact Bool.eq_false_iff.mpr httl

/-- A term that fits ends at a number. -/
theorem finite_of_termFits (hclock : ∃ t, now = .finite t ∧ |t| ≤ 2 ^ 1023)
    (hpos : ttlS.le 0 = false) (hfits : TermFits now ttlS) : ∃ q, now + ttlS = .finite q := by
  obtain ⟨t, q, rfl, rfl, hlt⟩ := hfits
  obtain ⟨_, ⟨⟩, hsize⟩ := hclock
  have hq : 0 < q := not_le.mp (of_decide_eq_false hpos)
  apply PyFloat.ofRat_of_lt _ hlt
  have hlow := (abs_le.mp hsize).1
  exact hlow.trans (le_add_of_nonneg_right hq.le)

/-- A term that does not fit ends at no number. -/
theorem termFits_of_finite {q : ℚ} (hclock : ∃ t, now = .finite t ∧ |t| ≤ 2 ^ 1023)
    (hend : now + ttlS = .finite q) : TermFits now ttlS := by
  obtain ⟨t, rfl, -⟩ := hclock
  cases ttlS with
  | nan => cases hend
  | negInf => cases hend
  | posInf => cases hend
  | finite ttl =>
    refine ⟨t, ttl, rfl, rfl, ?_⟩
    by_contra hle
    have hinf : PyFloat.finite t + .finite ttl = .posInf := PyFloat.ofRat_of_le (not_lt.mp hle)
    rw [hinf] at hend
    cases hend

/-- Terms are granted by the clock of the step. -/
theorem clock_of_grantedTerm (hclock : event.ClockReads)
    (hterm : grantedTerm w s event = some (now, ttlS)) : ∃ t, now = .finite t ∧ |t| ≤ 2 ^ 1023 := by
  cases event with
  | dispatch task fs now' allocated complete =>
    have hnow : now = now' := by
      unfold grantedTerm at hterm
      dsimp only at hterm
      split at hterm
      · split at hterm
        · split at hterm
          · split_ifs at hterm
            exact (Prod.mk.inj (Option.some.inj hterm)).1.symm
          · split_ifs at hterm
            exact (Prod.mk.inj (Option.some.inj hterm)).1.symm
          · cases hterm
        · cases hterm
      · cases hterm
    rw [hnow]
    exact hclock
  | _ => cases hterm

/-! ## Steps -/

/-- A lane of the table was there before as it is, or a term was granted that it ends with. -/
theorem Step.expiry (hstep : Step w sessions s event s' output) {lane : Lane}
    (h : lane ∈ s'.registry.lanes.values) :
    lane ∈ s.registry.lanes.values ∨ ∃ now ttlS, grantedTerm w s event = some (now, ttlS) ∧
      ttlS.le 0 = false ∧ lane.expiresAt = now + ttlS := by
  obtain ⟨id, hget⟩ := Dict.mem_values.mp h
  have hold : s.registry.lanes.get? id = some lane → lane ∈ s.registry.lanes.values :=
    fun hold => Dict.mem_values.mpr ⟨id, hold⟩
  cases hstep with
  | immediate _ _ _ _ _ _ _ hswept | raised _ _ _ _ _ _ hswept =>
    rw [conclude_registry] at hget
    exact Or.inl (hold (hswept.get?_of_get? hget))
  | @opened task t fs now allocated complete _ _ _ _ _ _ _ _ _ ttlS opened registry hget' hphase
      hjob hbody hopen =>
    rw [conclude_registry] at hget
    obtain ⟨r₀, fence, rfl, hopened, hreg, -⟩ := LaneRegistry.openLane_ok hopen
    simp only [hreg] at hget
    rw [Dict.get?_set] at hget
    split_ifs at hget
    · obtain rfl := Option.some.inj hget
      refine Or.inr ⟨now, ttlS, ?_, ttl_pos_of_openLane hopen, by rw [hopened]⟩
      simp only [grantedTerm, hget', hphase, hjob, hbody, hopen]
      rfl
    · exact Or.inl (hold ((LaneRegistry.swept_reapExpiredLocked s.registry now).get?_of_get? hget))
  | @renewed task t fs now allocated complete _ _ _ _ _ _ _ ttlS renewed registry hget' hphase
      hjob hbody hrenew =>
    rw [conclude_registry] at hget
    obtain ⟨old, hold', -, -, hrenewed, hreg⟩ := LaneRegistry.renew_ok hrenew
    simp only [hreg] at hget
    rw [Dict.get?_set] at hget
    split_ifs at hget
    · obtain rfl := Option.some.inj hget
      refine Or.inr ⟨now, ttlS, ?_, ttl_pos_of_renew hrenew, by rw [hrenewed]⟩
      simp only [grantedTerm, hget', hphase, hjob, hbody, hrenew]
      rfl
    · exact Or.inl (hold hget)
  | @closed _ _ _ _ _ _ result _ _ _ hclose =>
    rw [conclude_registry] at hget
    cases result with
    | error exc => exact Or.inl (hold ((LaneRegistry.close_error hclose).get?_of_get? hget))
    | ok lane =>
      obtain ⟨rfl, -⟩ := LaneRegistry.close_ok hclose
      exact Or.inl (hold (Dict.get?_filter.mp hget).1)
  | authorized hget' hphase hauthorize =>
    obtain ⟨rfl, -⟩ := LaneRegistry.authorize_ok hauthorize
    exact Or.inl (hold hget)
  | sessionBegun => exact Or.inl (hold ((swept_snapshot s.registry _).get?_of_get? hget))
  | watched => exact Or.inl (hold (swept_watch.get?_of_get? hget))
  | cancelled =>
    unfold VeraPortAgent.cancel at hget
    split at hget <;> exact Or.inl (hold hget)
  | listedNothing | finished =>
    rw [conclude_registry] at hget
    exact Or.inl (hold hget)
  | refused | entered | acquired | closing | planned | terminated | sessionEntered | sessionDone
  | exited => exact Or.inl (hold hget)

variable (sessions) in
/-- A granted term is that of a lane which is in the table after the step. -/
theorem exists_lane_of_grantedTerm (hterm : grantedTerm w s event = some (now, ttlS)) :
    ∃ s' output, s.step w sessions event = some (s', output) ∧
      ∃ lane ∈ s'.registry.lanes.values, lane.expiresAt = now + ttlS := by
  cases event with
  | dispatch task fs now' allocated complete =>
    unfold grantedTerm at hterm
    dsimp only at hterm
    split at hterm
    · next t hget =>
      split at hterm
      · next operation _ request hphase hjob =>
        split at hterm
        · next taskId capabilities claims ttl hbody =>
          split_ifs at hterm with hok
          obtain ⟨rfl, rfl⟩ := Prod.mk.inj (Option.some.inj hterm)
          rcases hopen : s.registry.openLane w.rt t.laneId taskId capabilities claims ttl now'
            allocated with ⟨result, registry⟩
          rw [hopen] at hok
          cases result with
          | error exc => cases hok
          | ok lane =>
            refine ⟨(conclude { s with registry } task t (.ok (laneJson lane)) complete).1,
              (conclude { s with registry } task t (.ok (laneJson lane)) complete).2, ?_, lane, ?_⟩
            · simp only [VeraPortAgent.step, hget, hphase, VeraPortAgent.dispatch, hjob, hbody,
                hopen]
              rfl
            · rw [conclude_registry]
              obtain ⟨r₀, fence, rfl, hlane, rfl, -⟩ := LaneRegistry.openLane_ok hopen
              exact ⟨Dict.mem_values.mpr ⟨t.laneId, Dict.get?_set_self ..⟩, by rw [hlane]⟩
        · next fence ttl hbody =>
          split_ifs at hterm with hok
          obtain ⟨rfl, rfl⟩ := Prod.mk.inj (Option.some.inj hterm)
          rcases hrenew : s.registry.renew t.laneId fence ttl now' with ⟨result, registry⟩
          rw [hrenew] at hok
          cases result with
          | error exc => cases hok
          | ok lane =>
            refine ⟨(conclude { s with registry } task t (.ok (laneJson lane)) complete).1,
              (conclude { s with registry } task t (.ok (laneJson lane)) complete).2, ?_, lane, ?_⟩
            · simp only [VeraPortAgent.step, hget, hphase, VeraPortAgent.dispatch, hjob, hbody,
                hrenew]
              rfl
            · rw [conclude_registry]
              obtain ⟨old, -, -, -, hlane, rfl⟩ := LaneRegistry.renew_ok hrenew
              exact ⟨Dict.mem_values.mpr ⟨t.laneId, Dict.get?_set_self ..⟩, by rw [hlane]⟩
        · cases hterm
      · cases hterm
    · cases hterm
  | _ => cases hterm

/-! ## Runs -/

/-- All lanes of the table end at a number. -/
def LanesEnd (s : VeraPortAgent) : Prop :=
  ∀ lane ∈ s.registry.lanes.values, ∃ q, lane.expiresAt = .finite q

/-- A step whose granted term fits keeps it so. -/
theorem LanesEnd.step (h : LanesEnd s) (hclock : event.ClockReads)
    (hfits : ∀ now ttlS, grantedTerm w s event = some (now, ttlS) → TermFits now ttlS)
    (hstep : Step w sessions s event s' output) : LanesEnd s' := by
  intro lane hlane
  rcases hstep.expiry hlane with hold | ⟨now, ttlS, hterm, hpos, hat⟩
  · exact h lane hold
  · rw [hat]
    apply finite_of_termFits _ hpos (hfits now ttlS hterm)
    exact clock_of_grantedTerm hclock hterm

/-- In a run, every lane ends, from a deadline on that is a number, if and only if every accepted
`lane.open` and `lane.renew` has a `ttl_s` that is a number and fits. -/
theorem lanes_end_iff {sessionCapabilities : Finset String} {maxLanes : ℤ} {hasAllocator : Bool}
    {r₀ : LaneRegistry}
    (hcreate : LaneRegistry.create sessionCapabilities maxLanes hasAllocator = .ok r₀)
    (w : Workstation) (sessions : Sessions) (stateStore : Option AgentStateStore)
    (events : List Event) (hclock : ∀ event ∈ events, event.ClockReads) :
    (∀ visited s₁, visited <+: events → (init r₀ stateStore).run w sessions visited = some s₁ →
      ∀ lane ∈ s₁.registry.lanes.values, ∃ deadline, lane.expiresAt = .finite deadline ∧
        lane.EndsBy w.rt deadline) ↔
    ∀ visited event s₁ now ttlS, visited ++ [event] <+: events →
      (init r₀ stateStore).run w sessions visited = some s₁ →
      grantedTerm w s₁ event = some (now, ttlS) → TermFits now ttlS := by
  constructor
  · intro hends visited event s₁ now ttlS hvisited hrun₁ hterm
    obtain ⟨s₂, output, hstep, lane, hlane, hat⟩ :=
      exists_lane_of_grantedTerm sessions hterm
    have hrun₂ : (init r₀ stateStore).run w sessions (visited ++ [event]) = some s₂ := by
      rw [run_append, hrun₁]
      simp [VeraPortAgent.run, hstep]
    obtain ⟨deadline, hfinite, -⟩ := hends _ s₂ hvisited hrun₂ lane hlane
    have hreads := hclock event (hvisited.subset (List.mem_append_right _ List.mem_cons_self))
    exact termFits_of_finite (clock_of_grantedTerm hreads hterm) (hat.symm.trans hfinite)
  · intro hfits visited s₁ hvisited hrun₁ lane hlane
    have hlanes : LanesEnd s₁ := by
      clear hlane lane
      induction visited using List.reverseRecOn generalizing s₁ with
      | nil =>
        obtain rfl := Option.some.inj hrun₁
        intro lane hlane
        unfold LaneRegistry.create at hcreate
        split_ifs at hcreate
        cases hcreate
        cases hlane
      | append_singleton front event ih =>
        rw [run_append, Option.bind_eq_some_iff] at hrun₁
        obtain ⟨s₀, hrun₀, hlast⟩ := hrun₁
        rw [VeraPortAgent.run, Option.bind_eq_some_iff] at hlast
        obtain ⟨⟨s₂, output⟩, hstep, hnil⟩ := hlast
        obtain rfl := Option.some.inj hnil
        have hfront : front <+: events := (List.prefix_append front [event]).trans hvisited
        have hreads := hclock event (hvisited.subset (List.mem_append_right _ List.mem_cons_self))
        exact (ih s₀ hfront hrun₀).step hreads
          (fun now ttlS => hfits front event s₀ now ttlS hvisited hrun₀) (step_cases hstep)
    obtain ⟨q, hq⟩ := hlanes lane hlane
    exact ⟨q, hq, Lane.endsBy_of_finite hq⟩

/-- Open the lane `l` with a write claim, for a given time. -/
def exampleOpenFor (ttlS : PyValue) : Request :=
  exampleRequest "r" "lane.open" [("task_id", .str "t"),
    ("capabilities", .list [.str "fs.write"]),
    ("claims", .list [.dict [("key", .str "fs:/x"), ("mode", .str "write")]]), ("ttl_s", ttlS)]

/-- A lane is opened for ten seconds. -/
theorem lanes_end_iff_exampleOpenFor :
    ∃ s, (init exampleRegistry none).run exampleWorkstation exampleSessions
        (exampleTurn 0 "a" (exampleOpenFor (.float 10)) 5) = some s ∧
      ∀ lane ∈ s.registry.lanes.values, ∃ deadline, lane.expiresAt = .finite deadline ∧
        lane.EndsBy exampleWorkstation.rt deadline := by
  have hruns : ((init exampleRegistry none).run exampleWorkstation exampleSessions
      (exampleTurn 0 "a" (exampleOpenFor (.float 10)) 5)).isSome = true := by
    decide +kernel
  obtain ⟨s, hs⟩ := Option.isSome_iff_exists.mp hruns
  refine ⟨s, hs, ?_⟩
  have hclock : ∀ event ∈ exampleTurn 0 "a" (exampleOpenFor (.float 10)) 5, event.ClockReads := by
    intro event hevent
    simp only [exampleTurn, List.mem_cons, List.not_mem_nil, or_false] at hevent
    rcases hevent with rfl | rfl | rfl
    · trivial
    · trivial
    · have hfive : |(5 : ℚ)| ≤ 2 ^ 3 := by norm_num
      exact ⟨5, rfl, hfive.trans (pow_le_pow_right₀ one_le_two (by decide))⟩
  apply (lanes_end_iff (show LaneRegistry.create {"fs.write", "process.exec"} 4 false =
    .ok exampleRegistry by decide) exampleWorkstation exampleSessions none _ hclock).mpr ?_ _ s
    List.prefix_rfl hs
  rintro visited event s₁ now ttlS ⟨later, hevents⟩ hrun hterm
  rcases visited with _ | ⟨first, _ | ⟨second, _ | ⟨third, visited⟩⟩⟩
  · obtain ⟨rfl, -⟩ := List.cons.inj hevents
    cases hterm
  · obtain ⟨rfl, -⟩ := List.cons.inj (List.cons.inj hevents).2
    cases hterm
  · obtain ⟨rfl, hrest⟩ := List.cons.inj hevents
    obtain ⟨rfl, hlast⟩ := List.cons.inj hrest
    obtain ⟨rfl, -⟩ := List.cons.inj hlast
    -- the term of the last of the three events
    have hgranted : ((init exampleRegistry none).run exampleWorkstation exampleSessions
        ((exampleTurn 0 "a" (exampleOpenFor (.float 10)) 5).take 2)).bind (fun s =>
          (exampleTurn 0 "a" (exampleOpenFor (.float 10)) 5).getLast?.bind
            (grantedTerm exampleWorkstation s)) = some (5, 10) := by
      decide +kernel
    have hat := (Option.bind_eq_some_iff.mpr ⟨s₁, hrun, hterm⟩).symm.trans hgranted
    obtain ⟨rfl, rfl⟩ := Prod.mk.inj (Option.some.inj hat)
    have hfive : (5 : ℚ) < 2 ^ 3 := by norm_num
    have hclock' : (5 : ℚ) < 2 ^ 970 :=
      hfive.trans_le (pow_le_pow_right₀ one_le_two (by decide))
    apply termFits_of_le hclock'
    have hhalf : (1 : ℚ) ≤ PyFloat.halfPlace := one_le_pow₀ one_le_two
    rw [PyFloat.two_pow_971, PyFloat.two_pow_1024]
    show (10 : ℚ) ≤ _
    linarith
  · have hlength := congrArg List.length hevents
    simp [exampleTurn] at hlength

theorem immortalKey_namespaced : ':' ∈ "fs:/x".toList := by decide

/-- The lane that is granted for a time that is no number. -/
def immortalLane : Lane :=
  ⟨"a::l", "t", {"fs.write"}, [⟨⟨"fs:/x", immortalKey_namespaced⟩, .write⟩], 1, .nan⟩

/-- The registry after a `lane.open` for NaN seconds. -/
def immortalRegistry : LaneRegistry :=
  { exampleRegistry with lanes := ⟨[("a::l", immortalLane)], by decide⟩, lastFence := 1 }

/-- A lane that is opened for NaN seconds ends by no deadline, and another session is blocked by it
for ever. -/
theorem not_lanes_end :
    ∃ s, (init exampleRegistry none).run exampleWorkstation exampleSessions
        (exampleTurn 0 "a" (exampleOpenFor (.float .nan)) 5) = some s ∧
      immortalLane ∈ s.registry.lanes.values ∧
      (∀ deadline, ¬immortalLane.EndsBy exampleWorkstation.rt deadline) ∧
      ∀ now allocated, (s.registry.openLane exampleWorkstation.rt "b::l" "t" ["fs.write"]
          immortalLane.claims 10 now allocated).1 = .error ⟨.collisionBlocked,
            "resource collision with lane a::l: fs:/x(write) vs fs:/x(write)"⟩ := by
  have hrun : ((init exampleRegistry none).run exampleWorkstation exampleSessions
      (exampleTurn 0 "a" (exampleOpenFor (.float .nan)) 5)).map (·.registry) =
        some immortalRegistry := by
    decide +kernel
  obtain ⟨s, hs, hregistry⟩ := Option.map_eq_some_iff.mp hrun
  refine ⟨s, hs, ?_, ?_, ?_⟩
  · rw [hregistry]
    exact List.mem_cons_self
  · exact Lane.not_endsBy (by decide) (by intro q hq; cases hq)
  · intro now allocated
    rw [hregistry]
    have hswept : (immortalRegistry.reapExpiredLocked now).2 = immortalRegistry := by
      cases now <;> rfl
    unfold LaneRegistry.openLane
    rw [hswept]
    rfl

end VeraPortAgent

end VeraMesh
