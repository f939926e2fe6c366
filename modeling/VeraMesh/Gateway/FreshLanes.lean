import VeraMesh.Gateway.LaneInvariant
import VeraMesh.Gateway.MCPServer

/-!
# Process lanes and read lanes are different lanes

The facades name every lane with random text. The lane of a started process is therefore never one
of the controller's logical read lanes.

## Main results

* `Controller.Keyed.call`: a call only records a lane that it is asked to open for reading.
* `MCPGateway.apart_run`: no run of the gateway records the lane of a process.
-/

namespace VeraMesh.Gateway

/-! ## Names of lanes -/

/-- One of the first `n` ids that the facades drew, under the label of their lanes. -/
def Drawn (ids : RandomIDs) (n : ℕ) (laneID : String) : Prop :=
  ∃ tag, ∃ m < n, laneID = "public-lane" ++ ":" ++ tag ++ ":" ++ ids.text m

theorem Drawn.mono {ids : RandomIDs} {n n' : ℕ} {laneID : String} (h : Drawn ids n laneID)
    (hle : n ≤ n') : Drawn ids n' laneID := by
  obtain ⟨tag, m, hm, heq⟩ := h
  exact ⟨tag, m, hm.trans_le hle, heq⟩

theorem Drawn.ne_empty {ids : RandomIDs} {n : ℕ} {laneID : String} (h : Drawn ids n laneID) :
    laneID ≠ "" := by
  obtain ⟨tag, m, -, rfl⟩ := h
  intro hempty
  have hlength := congrArg String.length hempty
  simp only [String.length_append] at hlength
  have hlabel : "public-lane".length = 11 := by decide
  have hnone : "".length = 0 := by decide
  omega

/-- The next name was not drawn before. -/
theorem not_drawn_next (ids : RandomIDs) (n : ℕ) (tag : String) :
    ¬Drawn ids n ("public-lane" ++ ":" ++ tag ++ ":" ++ ids.text n) := by
  rintro ⟨tag', m, hm, heq⟩
  have hchars := congrArg (fun name => name.toList.reverse) heq
  simp only [String.toList_append, List.reverse_append, List.append_assoc] at hchars
  -- the random text is what follows the last colon
  have hlast : ∀ n, ':' ∉ (ids.text n).toList.reverse := by
    intro n
    rw [List.mem_reverse]
    exact ids.no_colon n
  have htext := (eq_of_append_sep (hlast n) (hlast m) hchars).1
  have hsame : n = m := ids.injective (String.toList_injective (List.reverse_injective htext))
  omega

/-! ## What is recorded -/

namespace Controller

variable {w : World} {c c' : Controller} {P Q : String → Prop}

/-- Every recorded lane is recorded under its own id, which fulfils `P`. -/
def Keyed (P : String → Prop) (c : Controller) : Prop :=
  ∀ laneID lane, c.readLanes.get? laneID = some lane → lane.laneID = laneID ∧ P laneID

theorem Keyed.mono (h : Keyed P c) (hPQ : ∀ laneID, P laneID → Q laneID) : Keyed Q c := by
  intro laneID lane hl
  obtain ⟨hid, hP⟩ := h laneID lane hl
  exact ⟨hid, hPQ laneID hP⟩

theorem Keyed.congr (h : Keyed P c) (hr : c'.readLanes = c.readLanes) : Keyed P c' := by
  intro laneID lane hl
  rw [hr] at hl
  exact h laneID lane hl

theorem Keyed.erase {laneID : String} (h : Keyed P c) (hr : c'.readLanes = c.readLanes.erase laneID) :
    Keyed P c' := by
  intro laneID' lane hl
  rw [hr] at hl
  exact h laneID' lane (Dict.get?_filter.mp hl).1

theorem Keyed.setLane (h : Keyed P c) {lane : LogicalReadLane} (hP : P lane.laneID) :
    Keyed P (c.setLane lane) := by
  intro laneID lane' hl
  have hget : (c.readLanes.set lane.laneID lane).get? laneID = some lane' := hl
  rw [Dict.get?_set] at hget
  split_ifs at hget with heq
  · subst heq
    injection hget with hlane
    exact ⟨by rw [← hlane], hP⟩
  · exact h laneID lane' hget

theorem laneInvariant_keyed (P : String → Prop) :
    LaneInvariant (Keyed P) fun lane => P lane.laneID where
  congr h hsame := h.congr hsame.readLanes
  erase h hr _ := h.erase hr
  setLane h hP := h.setLane hP
  of_get h hget := by
    obtain ⟨hid, hP⟩ := h _ _ hget
    exact hid ▸ hP
  stable hP hid _ := by rw [hid]; exact hP

/-- **What a call records**: no more than a lane that it is asked to open for reading. -/
theorem Keyed.call {operation : String} {body : GoMap} (h : Keyed P c)
    (hP : operation = "lane.open" → isReadOnlyLaneOpen body = true →
      ∀ laneID, body.index "lane_id" = .str laneID → P laneID) :
    Keyed P (c.call w operation body).2 := by
  apply (laneInvariant_keyed P).call h
  intro hop hread c' h'
  refine ⟨h'.congr (readLanes_allocateFence c'), ?_⟩
  intro _ _ lane hlane _
  exact hP hop hread lane.laneID hlane

theorem Keyed.machineInfo (h : Keyed P c) : Keyed P (c.machineInfo w).2 :=
  (laneInvariant_keyed P).machineInfo h

end Controller

/-! ## The lanes of a facade -/

namespace Facade

open Controller (Keyed)

variable {w : World} {ids : RandomIDs} {others : String → Prop} {f f' : Facade Controller}

/-- A process of the facade runs in the lane. -/
def Leased {σ : Type} (f : Facade σ) (laneID : String) : Prop :=
  ∃ handle lease, f.processes.get? handle = some lease ∧ lease.laneID = laneID

/-- No recorded lane is the lane of a process, of this facade or one of the `others`, and all lanes
have names that were drawn. -/
structure Separate (ids : RandomIDs) (others : String → Prop) (f : Facade Controller) : Prop where
  recorded : Keyed (fun laneID => Drawn ids f.counter laneID ∧ ¬Leased f laneID ∧ ¬others laneID)
    f.controller
  leased : ∀ laneID, Leased f laneID → Drawn ids f.counter laneID
  others : ∀ laneID, others laneID → Drawn ids f.counter laneID

/-- A state with the same processes, and a controller whose records still are apart from them. -/
theorem Separate.of_keyed (h : Separate ids others f) (f' : Facade Controller)
    (hle : f.counter ≤ f'.counter) (hprocesses : f'.processes = f.processes)
    (hkeyed : Keyed (fun laneID => Drawn ids f'.counter laneID ∧ ¬Leased f laneID ∧ ¬others laneID)
      f'.controller) : Separate ids others f' := by
  have hleased : ∀ laneID, Leased f' laneID ↔ Leased f laneID := by
    intro laneID
    unfold Leased
    rw [hprocesses]
  refine ⟨hkeyed.mono ?_, ?_, ?_⟩
  · rintro laneID ⟨hdrawn, hnot, hothers⟩
    exact ⟨hdrawn, fun hl => hnot ((hleased laneID).mp hl), hothers⟩
  · exact fun laneID hl => (h.leased laneID ((hleased laneID).mp hl)).mono hle
  · exact fun laneID ho => (h.others laneID ho).mono hle

/-- Fewer lanes of processes, fewer conditions. -/
theorem Separate.of_subset {others' : String → Prop} (h : Separate ids others f)
    (hcontroller : f'.controller = f.controller) (hcounter : f'.counter = f.counter)
    (hsub : ∀ laneID, Leased f' laneID ∨ others' laneID → Leased f laneID ∨ others laneID) :
    Separate ids others' f' := by
  have hdrawn : ∀ laneID, Leased f' laneID ∨ others' laneID → Drawn ids f'.counter laneID := by
    intro laneID hl
    rw [hcounter]
    exact (hsub laneID hl).elim (h.leased laneID) (h.others laneID)
  refine ⟨?_, fun laneID hl => hdrawn laneID (Or.inl hl), fun laneID ho => hdrawn laneID (Or.inr ho)⟩
  rw [hcontroller, hcounter]
  refine h.recorded.mono fun laneID hrec => ⟨hrec.1, fun hl => ?_, fun ho => ?_⟩
  · exact (hsub laneID (Or.inl hl)).elim hrec.2.1 hrec.2.2
  · exact (hsub laneID (Or.inr ho)).elim hrec.2.1 hrec.2.2

/-- A call other than `lane.open` records nothing new. -/
theorem Separate.call (h : Separate ids others f) {operation : String} (hop : operation ≠ "lane.open")
    (body : GoMap) : Separate ids others (f.call (Controller.api w) operation body).2 := by
  have hcall : Keyed _ (f.controller.call w operation body).2 :=
    h.recorded.call fun hopen => absurd hopen hop
  exact h.of_keyed (f.call (Controller.api w) operation body).2 le_rfl rfl hcall

theorem Separate.closeLane (h : Separate ids others f) (laneID : String) (fence : ℤ) :
    Separate ids others (f.closeLane (Controller.api w) laneID fence).2 := by
  have hop : "lane.close" ≠ "lane.open" := by decide
  exact Separate.call (w := w) h hop (laneBody laneID fence)

/-- The name of the lane that the facade opens next. -/
def nextLane {σ : Type} (ids : RandomIDs) (f : Facade σ) : String :=
  (f.newID ids.text "public-lane").1

theorem drawn_nextLane (f : Facade Controller) : Drawn ids (f.counter + 2) (nextLane ids f) :=
  ⟨f.actorTag, f.counter, by omega, rfl⟩

theorem not_drawn_nextLane (f : Facade Controller) : ¬Drawn ids f.counter (nextLane ids f) :=
  not_drawn_next ids f.counter f.actorTag

theorem index_openBody (laneID taskID : String) (capabilities : List String) (claims : List GoValue)
    (ttlS : Float64) : (openBody laneID taskID capabilities claims ttlS).index "lane_id" =
      .str laneID := by
  simp [openBody, GoMap.index, Dict.ofList, Dict.get?_set]

/-- The task of the lane that the facade opens next. -/
def nextTask {σ : Type} (ids : RandomIDs) (f : Facade σ) (task : String) : String :=
  ((f.newID ids.text "public-lane").2.newID ids.text task).1

theorem controller_openLane {σ : Type} (api : ControllerAPI σ) (f : Facade σ)
    (capabilities : List String) (claims : List GoValue) (ttlS : Float64) (task : String) :
    (f.openLane api ids.text capabilities claims ttlS task).2.controller =
      (api.call f.controller "lane.open"
        (openBody (nextLane ids f) (nextTask ids f task) capabilities claims ttlS)).2 := rfl

/-- Opening a lane draws two ids and starts no process. -/
theorem openLane_keeps_processes {σ : Type} (ids : RandomIDs) (api : ControllerAPI σ) (f : Facade σ)
    (capabilities : List String) (claims : List GoValue) (ttlS : Float64) (task : String) :
    (f.openLane api ids.text capabilities claims ttlS task).2.counter = f.counter + 2 ∧
      (f.openLane api ids.text capabilities claims ttlS task).2.processes = f.processes :=
  ⟨rfl, rfl⟩

theorem call_api : (Controller.api w).call = Controller.call w := rfl

/-- The lane that the facade has opened has the next name. -/
theorem openLane_fst (ids : RandomIDs) (f : Facade Controller) (capabilities : List String) (claims : List GoValue)
    (ttlS : Float64) (task : String) (laneID : String) (fence : ℤ)
    (h : (f.openLane (Controller.api w) ids.text capabilities claims ttlS task).1 =
      .ok (laneID, fence)) : laneID = nextLane ids f := by
  obtain ⟨fence', -, hpair⟩ := Except.map_eq_ok.mp h
  exact (congrArg Prod.fst hpair).symm

theorem isReadOnlyLaneOpen_openBody {capabilities : List String} (h : capabilities ≠ ["fs.read"])
    {laneID taskID : String} {claims : List GoValue} {ttlS : Float64} :
    isReadOnlyLaneOpen (openBody laneID taskID capabilities claims ttlS) = false := by
  have hcaps : stringSlice (.list (capabilities.map .str)) = some capabilities := by
    show (capabilities.map GoValue.str).mapM GoValue.asString? = some capabilities
    rw [List.mapM_map]
    exact (List.mapM_pure (m := Option) (f := id)).trans (by rw [List.map_id]; rfl)
  have hindex : (openBody laneID taskID capabilities claims ttlS).index "capabilities" =
      .list (capabilities.map .str) := rfl
  unfold isReadOnlyLaneOpen
  rw [hindex, hcaps]
  cases claimList ((openBody laneID taskID capabilities claims ttlS).index "claims") with
  | none => rfl
  | some claims =>
    show (capabilities == ["fs.read"] && _ && _) = false
    rw [beq_eq_false_iff_ne.mpr h]
    rfl

section Open

variable (h : Separate ids others f) (capabilities : List String) (claims : List GoValue)
  (ttlS : Float64) (task : String)

include h

/-- The lane that is opened has a new name. -/
theorem Separate.openLane :
    Separate ids others (f.openLane (Controller.api w) ids.text capabilities claims ttlS task).2 := by
  obtain ⟨hcounter, hprocesses⟩ := openLane_keeps_processes ids (Controller.api w) f
    capabilities claims ttlS task
  have hle : f.counter ≤ f.counter + 2 := Nat.le_add_right f.counter 2
  rw [← hcounter] at hle
  refine h.of_keyed _ hle hprocesses ?_
  rw [controller_openLane, call_api, hcounter]
  refine Keyed.call (h.recorded.mono ?_) ?_
  · rintro laneID ⟨hdrawn, hrest⟩
    exact ⟨hdrawn.mono (Nat.le_add_right _ 2), hrest⟩
  · rintro - - laneID hid
    rw [index_openBody] at hid
    obtain rfl : nextLane ids f = laneID := GoValue.str.inj hid
    exact ⟨drawn_nextLane f, fun hl => not_drawn_nextLane f (h.leased _ hl),
      fun ho => not_drawn_nextLane f (h.others _ ho)⟩

/-- A lane that is opened to work in is not recorded. -/
theorem Separate.openLane_work (hwork : capabilities ≠ ["fs.read"]) :
    Separate ids (fun laneID => others laneID ∨ laneID = nextLane ids f)
      (f.openLane (Controller.api w) ids.text capabilities claims ttlS task).2 := by
  have hdrawn : ∀ {laneID}, Drawn ids f.counter laneID → Drawn ids (f.counter + 2) laneID :=
    fun hd => hd.mono (Nat.le_add_right _ 2)
  obtain ⟨hcounter, hprocesses⟩ := openLane_keeps_processes ids (Controller.api w) f
    capabilities claims ttlS task
  have hsame : ∀ laneID, Leased (f.openLane (Controller.api w) ids.text capabilities claims ttlS
      task).2 laneID ↔ Leased f laneID := by
    intro laneID
    unfold Leased
    rw [hprocesses]
  refine ⟨?_, fun laneID hl => hcounter ▸ hdrawn (h.leased laneID ((hsame laneID).mp hl)), ?_⟩
  · rw [controller_openLane, call_api, hcounter]
    refine Keyed.call (h.recorded.mono ?_) fun _ hread => ?_
    · rintro laneID ⟨hold, hleased, hothers⟩
      refine ⟨hdrawn hold, fun hl => hleased ((hsame laneID).mp hl), ?_⟩
      rintro (ho | rfl)
      · exact hothers ho
      · exact not_drawn_nextLane f hold
    · rw [isReadOnlyLaneOpen_openBody hwork] at hread
      cases hread
  · rw [hcounter]
    rintro laneID (ho | rfl)
    · exact hdrawn (h.others laneID ho)
    · exact drawn_nextLane f

end Open

/-! ## The lanes of the tools -/

section Tools

/-- The action keeps the lanes of processes apart from the recorded ones. -/
def KeepsSeparate (ids : RandomIDs) (action : Facade Controller → Except GoError GoMap × Facade Controller) :
    Prop :=
  ∀ f others, Separate ids others f → Separate ids others (action f).2

theorem keepsSeparate_computerInfo : KeepsSeparate ids (computerInfo (Controller.api w)) := by
  intro f others h
  have hinfo := h.recorded.machineInfo (w := w)
  exact h.of_keyed (computerInfo (Controller.api w) f).2 le_rfl rfl hinfo

theorem keepsSeparate_claimed {operation : String} (hop : operation ≠ "lane.open")
    {capabilities : List String} {claims : Except GoError (List GoValue)} {body : GoMap}
    {task : String} : KeepsSeparate ids
      (claimed (Controller.api w) ids.text operation capabilities claims body task) := by
  intro f others h
  unfold claimed
  cases claims with
  | error err => exact h
  | ok claims =>
    have hopen := h.openLane (w := w) capabilities claims 300 task
    dsimp only
    unfold ephemeral
    split
    next hres =>
      rw [hres] at hopen
      exact hopen
    next laneID fence f₁ hres =>
      rw [hres] at hopen
      have hclosed := ((hopen.call (w := w) hop ((laneBody laneID fence).update body)).closeLane
        (w := w) laneID fence)
      dsimp only
      split
      · exact hclosed
      · split <;> exact hclosed

/-- To lease a lane that was set apart, under a new handle. -/
theorem Separate.lease (lease : ProcessLease)
    (h : Separate ids (fun laneID => others laneID ∨ laneID = lease.laneID) f) :
    Separate ids others { (f.newID ids.text "job").2 with
      processes := f.processes.set (f.newID ids.text "job").1 lease } := by
  have hnew : Separate ids (fun laneID => others laneID ∨ laneID = lease.laneID)
      (f.newID ids.text "job").2 :=
    h.of_keyed (f.newID ids.text "job").2 (Nat.le_succ _) rfl
      (h.recorded.mono fun laneID hrec => ⟨hrec.1.mono (Nat.le_succ _), hrec.2⟩)
  refine hnew.of_subset rfl rfl ?_
  rintro laneID (⟨handle', lease', hget, rfl⟩ | ho)
  · have hget' : (f.processes.set (f.newID ids.text "job").1 lease).get? handle' = some lease' :=
      hget
    rw [Dict.get?_set] at hget'
    split_ifs at hget'
    · injection hget' with hlease
      exact Or.inr (Or.inr (hlease ▸ rfl))
    · exact Or.inl ⟨handle', lease', hget', rfl⟩
  · exact Or.inr (Or.inl ho)

theorem keepsSeparate_startProcess {argv : List String} {cwd : String} {maxRuntimeS : Float64} :
    KeepsSeparate ids (startProcess (Controller.api w) ids.text argv cwd maxRuntimeS) := by
  intro f others h
  have hop : "process.start" ≠ "lane.open" := by decide
  unfold startProcess
  split
  · exact h
  next claim _ =>
    have hopen := h.openLane_work (w := w)
      ["process.exec", "process.inspect", "process.interact", "process.control"] [claim]
      (processTTL maxRuntimeS) "start-process" (by decide)
    have hname := openLane_fst (w := w) ids f
      ["process.exec", "process.inspect", "process.interact", "process.control"] [claim]
      (processTTL maxRuntimeS) "start-process"
    split
    next hres =>
      rw [hres] at hopen
      exact hopen.of_subset rfl rfl fun laneID hl => hl.imp_right Or.inl
    next laneID fence f₁ hres =>
      rw [hres] at hopen hname
      obtain rfl : laneID = nextLane ids f := hname laneID fence rfl
      have hstart := hopen.call (w := w) hop ((laneBody (nextLane ids f) fence).update
        (.ofList [("argv", .list (argv.map .str)), ("cwd", .str cwd),
          ("max_runtime_s", .float maxRuntimeS)]))
      dsimp only
      generalize Facade.call (Controller.api w) f₁ "process.start" _ = started at hstart ⊢
      obtain ⟨answer, f₂⟩ := started
      dsimp only at hstart ⊢
      split
      · have hclosed := hstart.closeLane (w := w) (nextLane ids f) fence
        exact hclosed.of_subset rfl rfl fun laneID hl => hl.imp_right Or.inl
      · exact Separate.lease _ hstart

theorem keepsSeparate_processOperation {operation : String} (hop : operation ≠ "lane.open")
    {handle : String} {body : GoMap} :
    KeepsSeparate ids (processOperation (Controller.api w) operation handle body) := by
  intro f others h
  unfold processOperation
  split
  · exact h
  · exact h.call (w := w) hop _

theorem keepsSeparate_releaseProcess (handle : String) :
    KeepsSeparate ids (releaseProcess (Controller.api w) handle) := by
  intro f others h
  unfold releaseProcess
  split
  · exact h
  next lease _ =>
    have hclosed := h.closeLane (w := w) lease.laneID lease.fencingToken
    dsimp only
    split
    · refine hclosed.of_subset rfl rfl ?_
      rintro laneID (⟨handle', lease', hget, hid⟩ | ho)
      · exact Or.inl ⟨handle', lease', (Dict.get?_filter.mp hget).1, hid⟩
      · exact Or.inr ho
    · exact hclosed

theorem keepsSeparate_statusOf (handles : List String) (h : Separate ids others f) :
    Separate ids others (statusOf (Controller.api w) handles f).2 := by
  induction handles generalizing f with
  | nil => exact h
  | cons handle handles ih =>
    have hop : "process.status" ≠ "lane.open" := by decide
    exact ih (keepsSeparate_processOperation (w := w) hop f others h)

theorem keepsSeparate_releaseAll (handles : List String) (h : Separate ids others f) :
    Separate ids others (releaseAll (Controller.api w) handles f).2.2 := by
  induction handles generalizing f with
  | nil => exact h
  | cons handle handles ih =>
    have hrest := ih (keepsSeparate_releaseProcess (w := w) handle f others h)
    unfold releaseAll
    dsimp only
    split <;> exact hrest

/-- Every public tool keeps the lanes of processes apart from the recorded ones. -/
theorem PolicyAction.keepsSeparate {policy : ToolPolicy} (hpolicy : policy ∈ PublicTools)
    {action : Facade Controller → Except GoError GoMap × Facade Controller}
    (h : PolicyAction (Controller.api w) ids.text policy action) : KeepsSeparate ids action := by
  have hop : policy.operation ≠ "lane.open" := by
    have hall : ∀ p ∈ PublicTools, p.operation ≠ "lane.open" := by decide
    exact hall policy hpolicy
  cases h with
  | info => exact keepsSeparate_computerInfo
  | own heq => exact keepsSeparate_claimed (heq ▸ hop)
  | start => exact keepsSeparate_startProcess
  | process heq => exact keepsSeparate_processOperation (heq ▸ hop)
  | release => exact keepsSeparate_releaseProcess _
  | list => exact fun f others hf => keepsSeparate_statusOf f.sortedHandles hf

/-- A call of a public tool keeps the lanes of processes apart from the recorded ones. -/
theorem Separate.dispatchTool (h : Separate ids others f) {policy : ToolPolicy}
    (hpolicy : policy ∈ PublicTools) (args : GoMap) :
    Separate ids others (f.dispatchTool (Controller.api w) ids.text policy.name args).2 := by
  unfold Facade.dispatchTool
  cases hact : toolAction (Controller.api w) ids.text policy.name args with
  | error err => exact h
  | ok action =>
    exact (toolAction_policy hpolicy args action hact).keepsSeparate hpolicy f others h

end Tools

end Facade

/-! ## Runs of the gateway -/

namespace MCPGateway

open Facade (Leased Separate)

variable {u : Unicode} {s : Surroundings} {g : MCPGateway u}

/-- No logical read lane is the lane of a process. -/
structure Apart (s : Surroundings) (g : MCPGateway u) : Prop where
  recorded : Controller.Keyed (fun laneID => Drawn s.ids g.idsDrawn laneID ∧
    ∀ actor f, g.facades.get? actor = some f → ¬Leased f laneID) g.controller
  leased : ∀ actor f, g.facades.get? actor = some f →
    ∀ laneID, Leased f laneID → Drawn s.ids g.idsDrawn laneID

/-- A process of another actor runs in the lane. -/
def LeasedElsewhere (g : MCPGateway u) (actor laneID : String) : Prop :=
  ∃ actor', actor' ≠ actor ∧ ∃ f, g.facades.get? actor' = some f ∧ Leased f laneID

theorem apart_create (cfg : Config) (raw : Fin (2 ^ 32)) (workbridge : Option (WorkBridgeClient u))
    (issuer : String) : Apart s (create cfg raw workbridge issuer) := by
  refine ⟨fun laneID lane h => ?_, fun actor f h => ?_⟩
  · cases h
  · cases h

/-- The facade of an actor has the processes that the gateway stores for it, or none. -/
theorem Apart.attach (h : Apart s g) {actor : String} {f : Facade Unit}
    (hf : g.facade s actor = .ok f) :
    Separate s.ids (LeasedElsewhere g actor) (f.attach g.controller g.idsDrawn) := by
  have hstored : ∀ laneID, Leased f laneID →
      ∃ stored, g.facades.get? actor = some stored ∧ Leased stored laneID := by
    intro laneID hl
    unfold facade at hf
    split at hf
    next stored hget =>
      obtain rfl : stored = f := Except.ok.inj hf
      exact ⟨stored, hget, hl⟩
    · -- a new facade has no processes
      unfold newFacade at hf
      dsimp only at hf
      split_ifs at hf
      obtain rfl := Except.ok.inj hf
      obtain ⟨handle, lease, hget, -⟩ := hl
      cases hget
  refine ⟨h.recorded.mono ?_, ?_, ?_⟩
  · rintro laneID ⟨hdrawn, hnot⟩
    refine ⟨hdrawn, fun hl => ?_, fun hother => ?_⟩
    · obtain ⟨stored, hget, hleased⟩ := hstored laneID hl
      exact hnot actor stored hget hleased
    · obtain ⟨actor', -, other, hget, hleased⟩ := hother
      exact hnot actor' other hget hleased
  · intro laneID hl
    obtain ⟨stored, hget, hleased⟩ := hstored laneID hl
    exact h.leased actor stored hget laneID hleased
  · rintro laneID ⟨actor', -, other, hget, hleased⟩
    exact h.leased actor' other hget laneID hleased

theorem apart_store {actor : String} {f : Facade Controller}
    (h : Separate s.ids (LeasedElsewhere g actor) f) : Apart s (g.store actor f) := by
  have hcases : ∀ actor' stored, (g.store actor f).facades.get? actor' = some stored →
      ∀ laneID, Leased stored laneID → Leased f laneID ∨ LeasedElsewhere g actor laneID := by
    intro actor' stored hget laneID hl
    have hget' : (g.facades.set actor f.detach).get? actor' = some stored := hget
    rw [Dict.get?_set] at hget'
    split_ifs at hget' with hsame
    · injection hget' with hstored
      subst hstored
      exact Or.inl hl
    · exact Or.inr ⟨actor', hsame, stored, hget', hl⟩
  refine ⟨h.recorded.mono ?_, fun actor' stored hget laneID hl => ?_⟩
  · rintro laneID ⟨hdrawn, hleased, helse⟩
    exact ⟨hdrawn, fun actor' stored hget hl =>
      (hcases actor' stored hget laneID hl).elim hleased helse⟩
  · exact (hcases actor' stored hget laneID hl).elim (h.leased laneID) (h.others laneID)

theorem Apart.callVeraPort (h : Apart s g) {policy : ToolPolicy} (hpolicy : policy ∈ PublicTools)
    (userID : String) (args : GoMap) : Apart s (g.callVeraPort s policy userID args).2 := by
  unfold MCPGateway.callVeraPort
  split_ifs
  · exact h
  · dsimp only
    split
    · exact h
    next facade hf =>
      have hdispatch := (h.attach hf).dispatchTool (w := s.world) hpolicy args
      split <;> exact apart_store hdispatch

/-- WorkBridge has nothing to do with lanes. -/
theorem Apart.callWorkBridge (h : Apart s g) (policy : ToolPolicy) (args : GoMap) :
    Apart s (g.callWorkBridge s policy args).2 := by
  unfold MCPGateway.callWorkBridge
  split
  · exact h
  · split_ifs
    · exact h
    · dsimp only
      split
      · exact ⟨h.recorded, h.leased⟩
      · split <;> exact ⟨h.recorded, h.leased⟩

theorem Apart.callTool (h : Apart s g) {policy : ToolPolicy} (hpolicy : policy ∈ PublicTools)
    (req : CallToolRequest) : Apart s (g.callTool s policy req).2 := by
  unfold MCPGateway.callTool
  split
  · exact h
  next token _ =>
    dsimp only
    split_ifs
    · exact h
    · exact h
    · split
      · exact h
      next args _ =>
        have hworkBridge := h.callWorkBridge policy args
        split
        next hres =>
          rw [hres] at hworkBridge
          exact hworkBridge
        next hres =>
          rw [hres] at hworkBridge
          exact hworkBridge.callVeraPort hpolicy token.userID args

theorem Apart.closeFacades (actors : List String) (h : Apart s g) :
    Apart s (closeFacades s actors g) := by
  induction actors generalizing g with
  | nil => exact h
  | cons actor actors ih =>
    unfold MCPGateway.closeFacades
    split
    · exact ih h
    next f hget =>
      have hf : g.facade s actor = .ok f := by
        unfold facade
        rw [hget]
      exact ih (apart_store (Facade.keepsSeparate_releaseAll _ (h.attach hf)))

theorem Apart.step (h : Apart s g) (event : Event) : Apart s (g.step s event) := by
  cases event with
  | call policy registered req => exact h.callTool registered req
  | close => exact h.closeFacades _

/-- In every run of the gateway, no logical read lane is the lane of a process. -/
theorem apart_run (events : List Event) (h : Apart s g) : Apart s (g.run s events) := by
  induction events generalizing g with
  | nil => exact h
  | cons event events ih => exact ih (h.step event)

end MCPGateway

end VeraMesh.Gateway
