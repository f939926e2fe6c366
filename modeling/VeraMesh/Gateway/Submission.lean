import VeraMesh.Gateway.FreshLanes
import VeraMesh.Gateway.LaneArguments
import VeraMesh.Lib.PrefixCode

/-!
# Submitting a mutation at most once

A tool call that changes something reaches the workstation over WorkBridge or over VeraPort, and a
call over VeraPort passes through the facade, which puts a lane around the operation, and through
`Controller.call`, which chooses a path. None of the three tries again.

## Main results

* `sends_call`: how often `Controller.call` sends what it is asked for.
* `submitted_le_one`: how often a tool call submits its mutation, over all backends.
-/

namespace VeraMesh.Gateway

namespace Controller

variable {w : World} {c c' c'' : Controller} {p : String → Bool}

/-! ## Counting requests -/

/-- `c'` comes from `c` by sending requests, at most `n` of which have an operation that `p` picks. -/
def Sends (p : String → Bool) (n : ℕ) (c c' : Controller) : Prop :=
  ∃ sent, c'.trace = c.trace ++ sent ∧ sent.countP (fun s => p s.operation) ≤ n

/-- `p` picks none of the requests that look after paths and lanes. -/
structure NoLaneCall (p : String → Bool) : Prop where
  probe : p "lane.list" = false
  opening : p "lane.open" = false
  renewal : p "lane.renew" = false
  closing : p "lane.close" = false

theorem Sends.refl (c : Controller) : Sends p 0 c c := ⟨[], by simp⟩

theorem Sends.congr {n : ℕ} (h : Sends p n c c') (ht : c''.trace = c'.trace) : Sends p n c c'' := by
  obtain ⟨sent, hsent, hcount⟩ := h
  exact ⟨sent, ht.trans hsent, hcount⟩

theorem Sends.trans {n m : ℕ} (h : Sends p n c c') (h' : Sends p m c' c'') :
    Sends p (n + m) c c'' := by
  obtain ⟨sent, ht, hcount⟩ := h
  obtain ⟨sent', ht', hcount'⟩ := h'
  refine ⟨sent ++ sent', ?_, ?_⟩
  · rw [ht', ht, List.append_assoc]
  · rw [List.countP_append]
    exact Nat.add_le_add hcount hcount'

theorem Sends.mono {n m : ℕ} (h : Sends p n c c') (hle : n ≤ m) : Sends p m c c' := by
  obtain ⟨sent, ht, hcount⟩ := h
  exact ⟨sent, ht, hcount.trans hle⟩

theorem Sends.none_trans {n : ℕ} (h : Sends p 0 c c') (h' : Sends p n c' c'') : Sends p n c c'' :=
  (h.trans h').mono (Nat.zero_add n).le

theorem Probes.sends (h : Probes c c') (hp : p "lane.list" = false) : Sends p 0 c c' := by
  obtain ⟨probes, ht, hlist⟩ := h.sent
  refine ⟨probes, ht, (List.countP_eq_zero.mpr fun s hs => ?_).le⟩
  rw [hlist s hs, hp]
  exact Bool.false_ne_true

theorem sends_sendFor (client : Client) (operation : String) (body : GoMap) (label : String) :
    Sends p (p operation).toNat c (c.sendFor w client operation body label).2 := by
  obtain ⟨s, ht, -, -, hop, -⟩ := sendFor_eq (w := w) c client operation body label
  refine ⟨[s], ht, ?_⟩
  rw [List.countP_singleton, hop]
  cases p operation <;> exact le_refl _

theorem sends_sendFor_none {operation : String} (h : p operation = false) (client : Client)
    (body : GoMap) (label : String) :
    Sends p 0 c (c.sendFor w client operation body label).2 := by
  have hsend := sends_sendFor (w := w) (c := c) (p := p) client operation body label
  rw [h] at hsend
  exact hsend

/-! ## What a call sends -/

theorem trace_allocateFence (c : Controller) : (c.allocateFence w).2.trace = c.trace := by
  unfold allocateFence
  by_cases hepoch : c.fenceEpoch ≠ 0
  · simp only [if_pos hepoch]
    split_ifs <;> rfl
  · simp only [if_neg hepoch]
    cases w.epoch c.counter with
    | error err => rfl
    | ok raw =>
      dsimp only
      split_ifs <;> rfl

section Calls

variable (hp : NoLaneCall p)

include hp

theorem sends_openOnPaths (body : GoMap) (lane : LogicalReadLane) (paths : List LivePath)
    (errs : List GoError) (c : Controller) :
    Sends p 0 c (openOnPaths w body lane paths errs c).2 := by
  induction paths generalizing errs c with
  | nil => exact Sends.refl c
  | cons path paths ih =>
    have hsend := sends_sendFor_none (w := w) (c := c) hp.opening path.client body "logical-open"
    unfold openOnPaths
    split
    next hres =>
      rw [hres] at hsend
      exact hsend.none_trans ((Sends.refl _).congr rfl |>.none_trans (ih _ _))
    next hres =>
      rw [hres] at hsend
      split
      · exact hsend
      · split
        · exact hsend
        · exact hsend.congr rfl

theorem sends_ensurePaths (c : Controller) : Sends p 0 c (c.ensurePaths w).2 :=
  (probes_ensurePaths c).sends hp.probe

omit hp in
/-- What only reads the clock, draws a fence or drops a lane sends nothing. -/
theorem Sends.of_trace_eq (h : c'.trace = c.trace) : Sends p 0 c c' := (Sends.refl c).congr h

omit hp in
theorem sends_require (c : Controller) (laneID : String) (fence : ℤ) :
    Sends p 0 c (c.requireLogicalReadLane w laneID fence).2 := by
  rcases requireLogicalReadLane_cases (w := w) (c := c) laneID fence with
    ⟨err, c₁, heq, ht, -⟩ | ⟨lane, heq, -⟩
  · rw [heq]
    exact Sends.of_trace_eq ht
  · rw [heq]
    exact Sends.of_trace_eq rfl

theorem sends_openLogicalReadLane (c : Controller) (body : GoMap) :
    Sends p 0 c (c.openLogicalReadLane w body).2 := by
  have hpaths := sends_ensurePaths (w := w) hp c
  unfold openLogicalReadLane
  split
  next hres =>
    rw [hres] at hpaths
    exact hpaths
  next paths c₁ hres =>
    rw [hres] at hpaths
    refine hpaths.none_trans ?_
    dsimp only
    split_ifs
    · exact Sends.refl c₁
    · split
      · exact Sends.refl c₁
      · exact Sends.refl c₁
      · have hactive : (c₁.laneActive w (body.index "lane_id").asString).2.trace = c₁.trace := by
          unfold laneActive
          split <;> rfl
        split
        next hact =>
          rw [hact] at hactive
          exact Sends.of_trace_eq hactive
        next c₂ hact =>
          rw [hact] at hactive
          have hfence := trace_allocateFence (w := w) c₂
          refine (Sends.of_trace_eq hactive).none_trans ?_
          split
          next hdraw =>
            rw [hdraw] at hfence
            exact Sends.of_trace_eq hfence
          next fence c₃ hdraw =>
            rw [hdraw] at hfence
            exact (Sends.of_trace_eq hfence).none_trans
              ((Sends.of_trace_eq rfl).none_trans (sends_openOnPaths hp body _ paths [] _))

theorem sends_renewMirrors (paths : List LivePath) (ttl : Float64) (ids : List String)
    (lane : LogicalReadLane) (c : Controller) :
    Sends p 0 c (renewMirrors w paths ttl ids lane c).2 := by
  induction ids generalizing lane c with
  | nil => exact Sends.refl c
  | cons endpointID ids ih =>
    unfold renewMirrors
    dsimp only
    split
    · exact ih lane c
    next mirror _ =>
      split
      · exact ih _ c
      next path _ =>
        have hsend := sends_sendFor_none (w := w) (c := c) hp.renewal path.client
          (.ofList [("lane_id", .str lane.laneID), ("fencing_token", .int mirror.fence),
            ("ttl_s", .float ttl)]) "logical-renew"
        split
        next hres =>
          rw [hres] at hsend
          exact (hsend.congr rfl).none_trans (ih _ _)
        next hres =>
          rw [hres] at hsend
          exact hsend.none_trans (ih _ _)

theorem sends_renewLogicalReadLane (c : Controller) (laneID : String) (fence : ℤ) (body : GoMap) :
    Sends p 0 c (c.renewLogicalReadLane w laneID fence body).2 := by
  have hpaths := sends_ensurePaths (w := w) hp c
  unfold renewLogicalReadLane
  split
  next hres =>
    rw [hres] at hpaths
    exact hpaths
  next paths c₁ hres =>
    rw [hres] at hpaths
    refine hpaths.none_trans ?_
    split
    · exact Sends.refl c₁
    · have hreq := sends_require (w := w) (p := p) c₁ laneID fence
      split
      next hfound =>
        rw [hfound] at hreq
        exact hreq
      next lane c₂ hfound =>
        rw [hfound] at hreq
        refine hreq.none_trans ((Sends.of_trace_eq rfl).none_trans
          ((sends_renewMirrors hp paths _ _ _ (c₂.readClock w).2.tick).congr rfl))

theorem sends_closeMirrors (paths : List LivePath) (ids : List String) (errs : List GoError)
    (lane : LogicalReadLane) (c : Controller) :
    Sends p 0 c (closeMirrors w paths ids errs lane c).2.2 := by
  induction ids generalizing errs lane c with
  | nil => exact Sends.refl c
  | cons endpointID ids ih =>
    unfold closeMirrors
    dsimp only
    split
    · exact ih errs lane c
    next mirror _ =>
      split
      · exact ih _ lane c
      next path _ =>
        have hsend := sends_sendFor_none (w := w) (c := c) hp.closing path.client
          (.ofList [("lane_id", .str lane.laneID), ("fencing_token", .int mirror.fence)])
          "logical-close"
        split
        next hres =>
          rw [hres] at hsend
          exact (hsend.congr rfl).none_trans (ih _ _ _)
        next hres =>
          rw [hres] at hsend
          split
          · exact hsend.none_trans (ih _ _ _)
          · exact hsend.none_trans (ih _ _ _)

theorem sends_closeLogicalReadLane (c : Controller) (laneID : String) (fence : ℤ) :
    Sends p 0 c (c.closeLogicalReadLane w laneID fence).2 := by
  have hpaths := sends_ensurePaths (w := w) hp c
  unfold closeLogicalReadLane
  dsimp only
  refine Sends.none_trans hpaths ?_
  have hreq := sends_require (w := w) (p := p) (c.ensurePaths w).2 laneID fence
  split
  next hfound =>
    rw [hfound] at hreq
    exact hreq
  next lane c₂ hfound =>
    rw [hfound] at hreq
    have hclose := fun paths ids => (sends_closeMirrors (w := w) hp paths ids [] lane c₂.tick)
    split
    · exact hreq.none_trans ((Sends.of_trace_eq rfl).none_trans ((hclose _ _).congr rfl))
    · exact hreq.none_trans ((Sends.of_trace_eq rfl).none_trans ((hclose _ _).congr rfl))

theorem sends_passThrough (c : Controller) (operation : String) (body : GoMap) :
    Sends p (p operation).toNat c (c.passThrough w operation body).2 := by
  have hpaths := sends_ensurePaths (w := w) hp c
  unfold passThrough
  split
  next hres =>
    rw [hres] at hpaths
    exact hpaths.mono (Nat.zero_le _)
  next paths c₁ hres =>
    rw [hres] at hpaths
    refine hpaths.none_trans ?_
    split
    · exact (Sends.refl c₁).mono (Nat.zero_le _)
    next path _ =>
      -- the one request that is not about paths and lanes
      have hsend := sends_sendFor (w := w) (c := c₁) (p := p) path.client operation body "go"
      split
      next hres =>
        rw [hres] at hsend
        exact hsend.congr rfl
      next hres =>
        rw [hres] at hsend
        exact hsend

/-- **Sending once**: other than for a read, which may go from one path to another, `call` sends the
operation at most once. -/
theorem sends_call (c : Controller) {operation : String} (hread : operation ∉ logicalReadOperations)
    (body : GoMap) : Sends p (p operation).toNat c (c.call w operation body).2 := by
  have hnone : ∀ {c' : Controller}, Sends p 0 c c' → Sends p (p operation).toNat c c' :=
    fun h => h.mono (Nat.zero_le _)
  unfold call
  split
  · exact hnone (Sends.refl c)
  · split
    · exact hnone (Sends.refl c)
    · unfold route
      by_cases hopen : operation = "lane.open" ∧ isReadOnlyLaneOpen body = true
      · rw [if_pos hopen]
        exact hnone (sends_openLogicalReadLane hp c body)
      · rw [if_neg hopen]
        cases logicalLaneRef body with
        | none => exact sends_passThrough hp c operation body
        | some ref =>
          dsimp only
          split_ifs
          · exact hnone (sends_renewLogicalReadLane hp c ref.1 ref.2 body)
          · exact hnone (sends_closeLogicalReadLane hp c ref.1 ref.2)
          · exact sends_passThrough hp c operation body

end Calls

end Controller

/-! ## What a tool sends -/

/-- The operation changes what the tool is there to change: it is none of the operations around it
that look after paths and lanes, or, for `release_process`, the one that ends the process. -/
def ToolPolicy.mutates (policy : ToolPolicy) (operation : String) : Bool :=
  if policy.operation = "gateway.release_process" then operation == "lane.close"
  else operation ∉ ["lane.list", "lane.open", "lane.renew", "lane.close"]

namespace Facade

open Controller (Sends NoLaneCall)

variable {w : World} {ids : RandomIDs} {p : String → Bool} {f : Facade Controller}

/-- The action sends at most `n` requests that `p` picks. -/
def ActionSends (p : String → Bool) (n : ℕ) (f : Facade Controller)
    (action : Facade Controller → Except GoError GoMap × Facade Controller) : Prop :=
  Sends p n f.controller (action f).2.controller

section Work

variable (hp : NoLaneCall p)

include hp

theorem sends_openLane (ids : RandomIDs) (f : Facade Controller) (capabilities : List String) (claims : List GoValue)
    (ttlS : Float64) (task : String) : Sends p 0 f.controller
      (f.openLane (Controller.api w) ids.text capabilities claims ttlS task).2.controller := by
  rw [controller_openLane, call_api]
  have hread : "lane.open" ∉ Controller.logicalReadOperations := by decide
  have hsend := Controller.sends_call (w := w) hp f.controller hread
    (openBody (nextLane ids f) (nextTask ids f task) capabilities claims ttlS)
  rw [hp.opening] at hsend
  exact hsend

theorem sends_closeLane (f : Facade Controller) (laneID : String) (fence : ℤ) :
    Sends p 0 f.controller (f.closeLane (Controller.api w) laneID fence).2.controller := by
  have hread : "lane.close" ∉ Controller.logicalReadOperations := by decide
  have hsend := Controller.sends_call (w := w) hp f.controller hread
    (laneBody laneID fence)
  rw [hp.closing] at hsend
  exact hsend

theorem sends_call {operation : String} (hread : operation ∉ Controller.logicalReadOperations)
    (f : Facade Controller) (body : GoMap) :
    Sends p 1 f.controller (f.call (Controller.api w) operation body).2.controller :=
  (Controller.sends_call (w := w) hp f.controller hread body).mono (Bool.toNat_le _)

/-- Around its operation a tool opens a lane before and closes it after. -/
theorem sends_claimed {operation : String} (hread : operation ∉ Controller.logicalReadOperations)
    {capabilities : List String} {claims : Except GoError (List GoValue)} {body : GoMap}
    {task : String} : ActionSends p 1 f
      (claimed (Controller.api w) ids.text operation capabilities claims body task) := by
  unfold ActionSends claimed
  cases claims with
  | error err => exact (Sends.refl _).mono (Nat.zero_le 1)
  | ok claims =>
    have hopen := sends_openLane (w := w) hp ids f capabilities claims 300 task
    dsimp only
    unfold ephemeral
    split
    next hres =>
      rw [hres] at hopen
      exact hopen.mono (Nat.zero_le 1)
    next laneID fence f₁ hres =>
      rw [hres] at hopen
      have hwork := sends_call (w := w) hp hread f₁ ((laneBody laneID fence).update body)
      have hclosed := hopen.none_trans (hwork.trans (sends_closeLane (w := w) hp
        (f₁.call (Controller.api w) operation ((laneBody laneID fence).update body)).2 laneID fence))
      dsimp only
      split
      · exact hclosed
      · split <;> exact hclosed

theorem sends_startProcess {argv : List String} {cwd : String} {maxRuntimeS : Float64} :
    ActionSends p 1 f (startProcess (Controller.api w) ids.text argv cwd maxRuntimeS) := by
  have hread : "process.start" ∉ Controller.logicalReadOperations := by decide
  unfold ActionSends startProcess
  split
  · exact (Sends.refl _).mono (Nat.zero_le 1)
  next claim _ =>
    have hopen := sends_openLane (w := w) hp ids f
      ["process.exec", "process.inspect", "process.interact", "process.control"] [claim]
      (processTTL maxRuntimeS) "start-process"
    split
    next hres =>
      rw [hres] at hopen
      exact hopen.mono (Nat.zero_le 1)
    next laneID fence f₁ hres =>
      rw [hres] at hopen
      have hstart := hopen.none_trans (sends_call (w := w) hp hread f₁
        ((laneBody laneID fence).update (.ofList [("argv", .list (argv.map .str)),
          ("cwd", .str cwd), ("max_runtime_s", .float maxRuntimeS)])))
      dsimp only
      generalize Facade.call (Controller.api w) f₁ "process.start" _ = started at hstart ⊢
      obtain ⟨answer, f₂⟩ := started
      dsimp only at hstart ⊢
      split
      · exact hstart.trans (sends_closeLane (w := w) hp f₂ laneID fence)
      · exact hstart

theorem sends_processOperation {operation : String}
    (hread : operation ∉ Controller.logicalReadOperations) {handle : String} {body : GoMap} :
    ActionSends p 1 f (processOperation (Controller.api w) operation handle body) := by
  unfold ActionSends processOperation
  split
  · exact (Sends.refl _).mono (Nat.zero_le 1)
  · exact sends_call hp hread f _

end Work

/-- To release a process, the controller is asked to close a lane that is no logical read lane, and
sends nothing but probes. -/
theorem sends_releaseProcess {others : String → Prop} (h : Separate ids others f)
    (hprobe : p "lane.list" = false) (handle : String) :
    ActionSends p 0 f (releaseProcess (Controller.api w) handle) := by
  unfold ActionSends releaseProcess
  cases hlease : f.lease handle with
  | error err => exact Sends.refl _
  | ok lease =>
    have hget' := get?_of_lease_eq_ok hlease
    have hunrecorded : ¬Controller.Recorded f.controller lease.laneID := by
      rintro ⟨lane, hget⟩
      exact (h.recorded lease.laneID lane hget).2.2.1
        ⟨handle, lease, hget', rfl⟩
    have href : logicalLaneRef (laneBody lease.laneID lease.fencingToken) =
        some (lease.laneID, lease.fencingToken) := by
      unfold logicalLaneRef
      rw [index_laneBody_lane, index_laneBody_fence]
      dsimp only [GoValue.asString?]
      rw [if_neg (h.leased lease.laneID ⟨handle, lease, hget', rfl⟩).ne_empty]
      rfl
    have hprobes := Controller.probes_call_of_unrecorded (w := w) (Or.inr rfl) href hunrecorded
    have hclose : Sends p 0 f.controller
        (f.closeLane (Controller.api w) lease.laneID lease.fencingToken).2.controller :=
      hprobes.sends hprobe
    dsimp only
    split <;> exact hclose

/-- A tool that is not read-only sends its mutation at most once. -/
theorem PolicyAction.sends {policy : ToolPolicy} (hpolicy : policy ∈ PublicTools)
    (hwrite : policy.readOnly = false) {others : String → Prop} (hf : Separate ids others f)
    {action : Facade Controller → Except GoError GoMap × Facade Controller}
    (h : PolicyAction (Controller.api w) ids.text policy action) :
    ActionSends policy.mutates 1 f action := by
  have hread : policy.operation ∉ Controller.logicalReadOperations := by
    have hall : ∀ p ∈ PublicTools, p.readOnly = false →
        p.operation ∉ Controller.logicalReadOperations := by decide
    exact hall policy hpolicy hwrite
  have hlane : policy.operation ≠ "gateway.release_process" → NoLaneCall policy.mutates := by
    intro hother
    have hmutates : policy.mutates = fun operation =>
        decide (operation ∉ ["lane.list", "lane.open", "lane.renew", "lane.close"]) :=
      funext fun operation => if_neg hother
    rw [hmutates]
    exact ⟨by decide, by decide, by decide, by decide⟩
  cases h with
  | info hro =>
    rw [hwrite] at hro
    cases hro
  | own heq hother => exact sends_claimed (hlane (heq ▸ hother)) (heq ▸ hread)
  | start heq => exact sends_startProcess (hlane (by rw [heq]; decide))
  | process heq hother => exact sends_processOperation (hlane (heq ▸ hother)) (heq ▸ hread)
  | release heq =>
    have hprobe : policy.mutates "lane.list" = false := by
      rw [ToolPolicy.mutates, if_pos heq]
      decide
    exact (sends_releaseProcess hf hprobe _).mono (Nat.zero_le 1)
  | list hro =>
    rw [hwrite] at hro
    cases hro

theorem sends_dispatchTool {policy : ToolPolicy} (hpolicy : policy ∈ PublicTools)
    (hwrite : policy.readOnly = false) {others : String → Prop} (hf : Separate ids others f)
    (args : GoMap) : Sends policy.mutates 1 f.controller
      (f.dispatchTool (Controller.api w) ids.text policy.name args).2.controller := by
  unfold dispatchTool
  cases hact : toolAction (Controller.api w) ids.text policy.name args with
  | error err => exact (Sends.refl _).mono (Nat.zero_le 1)
  | ok action => exact (toolAction_policy hpolicy args action hact).sends hpolicy hwrite hf

end Facade

/-! ## Over all backends -/

namespace WorkBridgeClient

variable {u : Unicode}

/-- A call over WorkBridge makes one request, if any. -/
theorem length_callPublic_le (w : WorkBridgeClient u)
    (answer : WorkBridgeRequest → Except GoError GoMap) (name : String) (args : GoMap) :
    (w.callPublic answer name args).2.length ≤ 1 := by
  unfold callPublic
  split
  · exact Nat.zero_le 1
  · split_ifs
    · exact le_refl 1
    · exact Nat.zero_le 1

end WorkBridgeClient

namespace MCPGateway

open Controller (Sends)

variable {u : Unicode} {s : Surroundings} {g : MCPGateway u} {policy : ToolPolicy}

/-- How often a tool call submits the mutation: the requests it makes to WorkBridge, and those it
sends to a workstation on any path. -/
def submitted (s : Surroundings) (g : MCPGateway u) (policy : ToolPolicy) (req : CallToolRequest) :
    ℕ :=
  let g' := (g.callTool s policy req).2
  (g'.workBridgeSent.drop g.workBridgeSent.length).length +
    (g'.controller.trace.drop g.controller.trace.length).countP fun r => policy.mutates r.operation

/-- What is submitted on the way from `g` to `g'` is at most one request over all backends. -/
def SubmitsOnce (policy : ToolPolicy) (g g' : MCPGateway u) : Prop :=
  ∃ n m, n + m ≤ 1 ∧ (∃ sent, g'.workBridgeSent = g.workBridgeSent ++ sent ∧ sent.length ≤ n) ∧
    Sends policy.mutates m g.controller g'.controller

theorem SubmitsOnce.refl (g : MCPGateway u) : SubmitsOnce policy g g :=
  ⟨0, 0, Nat.zero_le 1, ⟨[], by simp, le_refl 0⟩, Sends.refl _⟩

theorem SubmitsOnce.bound {req : CallToolRequest}
    (h : SubmitsOnce policy g (g.callTool s policy req).2) : submitted s g policy req ≤ 1 := by
  obtain ⟨n, m, hle, ⟨sent, hbridge, hn⟩, requests, htrace, hm⟩ := h
  unfold submitted
  dsimp only
  rw [hbridge, htrace, List.drop_left, List.drop_left]
  exact (Nat.add_le_add hn hm).trans hle

/-- A tool that is not read-only does not go on to VeraPort once WorkBridge was asked. -/
theorem callWorkBridge_cases (hwrite : policy.readOnly = false) (args : GoMap) :
    (∃ result, (g.callWorkBridge s policy args).1 = some result ∧
      SubmitsOnce policy g (g.callWorkBridge s policy args).2) ∨
    g.callWorkBridge s policy args = (none, g) := by
  unfold callWorkBridge
  split
  · exact Or.inr rfl
  next w _ =>
    split_ifs with hhandle
    · exact Or.inr rfl
    · have hlength := w.length_callPublic_le (s.workBridge g.workBridgeSent.length) policy.name args
      have honce : SubmitsOnce policy g { g with workBridgeSent := g.workBridgeSent ++
          (w.callPublic (s.workBridge g.workBridgeSent.length) policy.name args).2 } :=
        ⟨1, 0, le_refl 1, ⟨_, rfl, hlength⟩, Sends.refl _⟩
      dsimp only
      split
      · exact Or.inl ⟨_, rfl, honce⟩
      · have hmutation : (!policy.readOnly || !toolSupported g.controller.cfg policy) = true := by
          rw [hwrite]
          rfl
        rw [if_pos hmutation]
        exact Or.inl ⟨_, rfl, honce⟩

theorem submitsOnce_callVeraPort (hg : Apart s g) (hpolicy : policy ∈ PublicTools)
    (hwrite : policy.readOnly = false) (userID : String) (args : GoMap) :
    SubmitsOnce policy g (g.callVeraPort s policy userID args).2 := by
  unfold callVeraPort
  split_ifs
  · exact SubmitsOnce.refl g
  · dsimp only
    split
    · exact SubmitsOnce.refl g
    next facade hfacade =>
      have hsend := Facade.sends_dispatchTool (w := s.world) hpolicy hwrite (hg.attach hfacade) args
      split <;> exact ⟨0, 1, le_refl 1, ⟨[], by simp [store], le_refl 0⟩, hsend⟩

theorem submitsOnce_callTool (hg : Apart s g) (hpolicy : policy ∈ PublicTools)
    (hwrite : policy.readOnly = false) (req : CallToolRequest) :
    SubmitsOnce policy g (g.callTool s policy req).2 := by
  unfold callTool
  split
  · exact SubmitsOnce.refl g
  next token _ =>
    dsimp only
    split_ifs
    · exact SubmitsOnce.refl g
    · exact SubmitsOnce.refl g
    · split
      · exact SubmitsOnce.refl g
      next args _ =>
        rcases callWorkBridge_cases (s := s) (g := g) hwrite args with ⟨result, hres, honce⟩ | hnone
        · generalize g.callWorkBridge s policy args = called at hres honce ⊢
          obtain ⟨_, g'⟩ := called
          obtain rfl := hres
          exact honce
        · rw [hnone]
          exact submitsOnce_callVeraPort hg hpolicy hwrite token.userID args

/-- **Mutations are submitted at most once.** In every run of the gateway, whatever fails, a call of
a public tool that is not read-only submits its mutation at most once, over all backends and
paths. -/
theorem submitted_le_one (s : Surroundings) (cfg : Config) (raw : Fin (2 ^ 32))
    (workbridge : Option (WorkBridgeClient u)) (issuer : String) (events : List Event)
    (hpolicy : policy ∈ PublicTools) (hwrite : policy.readOnly = false) (req : CallToolRequest) :
    submitted s (run s (create cfg raw workbridge issuer) events) policy req ≤ 1 := by
  have hg : Apart s (run s (create cfg raw workbridge issuer) events) :=
    apart_run events (apart_create cfg raw workbridge issuer)
  exact (submitsOnce_callTool hg hpolicy hwrite req).bound

/-! A gateway without WorkBridge, and a caller that may write files. -/

def decimalIDs : RandomIDs where
  text n := .ofList (Nat.toDigits 10 n)
  no_colon n := by
    rw [String.toList_ofList]
    exact not_mem_toDigits (by decide) n
  injective m n h := by
    have htext := congrArg String.toList h
    rw [String.toList_ofList, String.toList_ofList] at htext
    exact toDigits_injective htext

def exampleSurroundings : Surroundings where
  world := Controller.exampleWorld
  ids := decimalIDs
  workBridge _ _ := .ok .empty
  actorTag _ := "00112233445566ff"
  marshal _ := .ok "\x7b\x7d"

def writeFilePolicy : ToolPolicy :=
  ⟨"write_file", "fs.write_text", ["computer.write"], ["fs.write"], false⟩

def exampleRequest : CallToolRequest where
  token := some ⟨"user", ["computer.write"]⟩
  arguments := .ok (.ofList [("path", .str "/a"), ("content", .str "x")])

theorem submitted_le_one_exampleRequest :
    submitted exampleSurroundings (run exampleSurroundings (create Controller.exampleConfig 5
      (none : Option (WorkBridgeClient asciiUnicode)) "issuer")
      [.call writeFilePolicy (by decide) exampleRequest]) writeFilePolicy exampleRequest ≤ 1 :=
  submitted_le_one exampleSurroundings Controller.exampleConfig 5 none "issuer" _ (by decide) rfl
    exampleRequest

end MCPGateway

end VeraMesh.Gateway
