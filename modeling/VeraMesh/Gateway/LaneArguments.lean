import VeraMesh.Gateway.Tools

/-!
# Who chooses the lane of a tool call

The facade opens a lane for every tool call, or takes it from a process lease; a caller is not meant
to choose it. `ephemeral` merges the body over the lane and the fence, and three tools pass their
arguments on as the body.

## Main results

* `calls_claimed`: what an operation under a lane of its own hands to the controller.
* `internalLanes_iff`: the arguments for which the facade alone chooses lane and fence.
-/

namespace VeraMesh.Gateway

namespace GoMap

/-- The arguments without `lane_id` and `fencing_token`. -/
def dropLane (a : GoMap) : GoMap :=
  a.filter fun key _ => key != "lane_id" && key != "fencing_token"

variable {a body : GoMap} {key : String}

theorem get?_dropLane (h : key ≠ "lane_id") (h' : key ≠ "fencing_token") :
    a.dropLane.get? key = a.get? key := by
  refine Option.ext fun v => ?_
  rw [dropLane, Dict.get?_filter]
  simp [h, h']

theorem LaneFree.dropLane_eq (h : a.LaneFree) : a.dropLane = a := by
  refine Dict.ext (List.filter_eq_self.mpr fun e he => ?_)
  have hget : a.get? e.1 = some e.2 := Dict.get?_eq_some_iff.mpr he
  have hlane : e.1 ≠ "lane_id" := fun heq => by simp [heq ▸ h.1] at hget
  have hfence : e.1 ≠ "fencing_token" := fun heq => by simp [heq ▸ h.2] at hget
  simp [hlane, hfence]

theorem index_dropLane (h : key ≠ "lane_id") (h' : key ≠ "fencing_token") :
    a.dropLane.index key = a.index key := by
  rw [index, get?_dropLane h h', index]

/-- A body that sets neither leaves the lane and the fence it is merged over. -/
theorem LaneFree.index_update (h : body.LaneFree) (d : GoMap) :
    index (d.update body) "lane_id" = index d "lane_id" ∧
      index (d.update body) "fencing_token" = index d "fencing_token" := by
  simp only [index, Dict.get?_update, h.1, h.2, Option.none_or, and_self]

end GoMap

/-! ## Reading arguments -/

section Arguments

variable {a : GoMap} {key : String}

theorem get?_applyDefaults {l : List (String × GoValue)} (h : ∀ e ∈ l, e.1 ≠ key) :
    (applyDefaults a l).get? key = a.get? key := by
  induction l generalizing a with
  | nil => rfl
  | cons e l ih =>
    have hstep : (applyDefault a e.1 e.2).get? key = a.get? key := by
      unfold applyDefault
      split
      · rfl
      · exact Dict.get?_set_ne a e.2 (h e List.mem_cons_self).symm
    rw [applyDefaults, List.foldl_cons, ← applyDefaults,
      ih fun e' he' => h e' (List.mem_cons_of_mem _ he'), hstep]

variable (h : key ≠ "lane_id") (h' : key ≠ "fencing_token")

include h h'

theorem reqString_dropLane : reqString a.dropLane key = reqString a key := by
  simp only [reqString, GoMap.index_dropLane h h']

theorem reqStringAllowEmpty_dropLane :
    reqStringAllowEmpty a.dropLane key = reqStringAllowEmpty a key := by
  simp only [reqStringAllowEmpty, GoMap.index_dropLane h h']

theorem reqStringSlice_dropLane : reqStringSlice a.dropLane key = reqStringSlice a key := by
  simp only [reqStringSlice, GoMap.index_dropLane h h']

theorem optString_dropLane (default : String) :
    optString a.dropLane key default = optString a key default := by
  simp only [optString, GoMap.index_dropLane h h']

theorem optBool_dropLane (default : Bool) :
    optBool a.dropLane key default = optBool a key default := by
  simp only [optBool, GoMap.get?_dropLane h h']

theorem optInt64_dropLane (default : ℤ) :
    optInt64 a.dropLane key default = optInt64 a key default := by
  simp only [optInt64, GoMap.get?_dropLane h h']

theorem optFloat_dropLane (default : Float64) :
    optFloat a.dropLane key default = optFloat a key default := by
  simp only [optFloat, GoMap.get?_dropLane h h']

theorem optional_dropLane {α : Type} (read : GoValue → Except GoError α) :
    optional a.dropLane key read = optional a key read := by
  simp only [optional, GoMap.get?_dropLane h h']

end Arguments

namespace Facade

variable {σ : Type} {api : ControllerAPI σ} {random : ℕ → String}

/-- A tool with named arguments does not see members called `lane_id` or `fencing_token`. -/
theorem toolAction_dropLane {name : String} (a : GoMap) (hname : name ∉ bodyTools) :
    toolAction api random name a.dropLane = toolAction api random name a := by
  unfold toolAction
  split
  case h_6 | h_7 | h_12 => exact absurd (by simp [bodyTools]) hname
  all_goals simp only [reqString_dropLane, reqStringAllowEmpty_dropLane, reqStringSlice_dropLane,
    optString_dropLane, optBool_dropLane, optInt64_dropLane, optFloat_dropLane, optional_dropLane,
    ne_eq, String.reduceEq, not_false_eq_true]

/-! ## What a tool call hands to the controller -/

/-- The calls of `Controller.Call` that a tool call brings about. -/
def newCalls (api : ControllerAPI σ) (random : ℕ → String) (f : Facade σ) (name : String)
    (a : GoMap) : List OperationCall :=
  (f.dispatchTool api random name a).2.calls.drop f.calls.length

/-- The call opens the lane that the facade names next. -/
def Opens (random : ℕ → String) (f : Facade σ) (o : OperationCall) : Prop :=
  o.operation = "lane.open" ∧ o.body.index "lane_id" = .str (f.newID random "public-lane").1

/-- The call is the operation `operation` under the lane and the fence. -/
def IsUnder (operation laneID : String) (fence : ℤ) (body : GoMap) (o : OperationCall) : Prop :=
  o.operation = operation ∧ o.body = (laneBody laneID fence).update body

theorem openLane_calls (api : ControllerAPI σ) (random : ℕ → String) (f : Facade σ)
    (capabilities : List String) (claims : List GoValue) (ttlS : Float64) (task : String) :
    ∃ o, Opens random f o ∧ o.answer = (api.call f.controller o.operation o.body).1 ∧
      (f.openLane api random capabilities claims ttlS task).2.calls = f.calls ++ [o] ∧
      (f.openLane api random capabilities claims ttlS task).2.processes = f.processes ∧
      (f.openLane api random capabilities claims ttlS task).1 =
        (openedFence o.answer).map fun fence => ((f.newID random "public-lane").1, fence) :=
  ⟨_, ⟨rfl, rfl⟩, rfl, rfl, rfl, rfl⟩

/-- An operation under a lane of its own is one of three sequences of calls: none, an open that
fails, or an open, the operation and a close. -/
theorem calls_claimed (api : ControllerAPI σ) (random : ℕ → String) (f : Facade σ)
    (operation : String) (capabilities : List String) (claims : Except GoError (List GoValue)) (body : GoMap) (task : String) :
    ∃ new, (claimed api random operation capabilities claims body task f).2.calls =
        f.calls ++ new ∧
      ((claims.isOk = false ∧ new = []) ∨
        (claims.isOk = true ∧ ∃ o, Opens random f o ∧
          o.answer = (api.call f.controller o.operation o.body).1 ∧
          (((openedFence o.answer).isOk = false ∧ new = [o]) ∨
            ∃ fence p q, openedFence o.answer = .ok fence ∧ new = [o, p, q] ∧
              IsUnder operation (f.newID random "public-lane").1 fence body p ∧
              q.operation = "lane.close" ∧
              q.body = laneBody (f.newID random "public-lane").1 fence))) := by
  unfold claimed
  cases claims with
  | error err => exact ⟨[], by simp, Or.inl ⟨rfl, rfl⟩⟩
  | ok claims =>
    obtain ⟨o, ho, hans, hcalls, -, hres⟩ :=
      openLane_calls api random f capabilities claims 300 task
    dsimp only
    unfold ephemeral
    generalize f.openLane api random capabilities claims 300 task = opened at hcalls hres ⊢
    obtain ⟨res, f'⟩ := opened
    obtain rfl : res = _ := hres
    cases hf : openedFence o.answer with
    | error err => exact ⟨[o], hcalls, Or.inr ⟨rfl, o, ho, hans, Or.inl ⟨by rw [hf]; rfl, rfl⟩⟩⟩
    | ok fence =>
      let under := laneBody (f.newID random "public-lane").1 fence
      let f₂ := (f'.call api operation (under.update body)).2
      let p : OperationCall :=
        ⟨operation, under.update body, (f'.call api operation (under.update body)).1⟩
      let q : OperationCall := ⟨"lane.close", under, (f₂.call api "lane.close" under).1⟩
      refine ⟨[o, p, q], ?_, Or.inr ⟨rfl, o, ho, hans, Or.inr
        ⟨fence, p, q, hf, rfl, ⟨rfl, rfl⟩, rfl, rfl⟩⟩⟩
      have hclosed : (f₂.closeLane api (f.newID random "public-lane").1 fence).2.calls =
          f.calls ++ [o, p, q] := by
        show f'.calls ++ [p] ++ [q] = f.calls ++ [o, p, q]
        have hcalls' : f'.calls = f.calls ++ [o] := hcalls
        rw [hcalls', List.append_assoc, List.append_assoc]
        rfl
      dsimp only [Except.map]
      split
      · exact hclosed
      · split <;> exact hclosed

/-! ## Lanes of the facade's own -/

/-- The lane and the fence were obtained by a `lane.open` among the calls. -/
def OwnLane (calls : List OperationCall) (laneID : String) (fence : ℤ) : Prop :=
  ∃ o ∈ calls, o.operation = "lane.open" ∧ o.body.index "lane_id" = .str laneID ∧
    openedFence o.answer = .ok fence

/-- The lane and the fence are those of a process lease that the tool call selects by its handle, or
of any lease if it lists the processes. -/
def LeaseLane (processes : Dict String ProcessLease) (name : String) (a : GoMap) (laneID : String)
    (fence : ℤ) : Prop :=
  ∃ handle lease, (a.index "process_handle" = .str handle ∨ name = "list_processes") ∧
    processes.get? handle = some lease ∧ lease.laneID = laneID ∧ lease.fencingToken = fence

/-- The call opens the facade's next lane, or runs under a lane and a fence of the facade's own. -/
def Sanctioned (random : ℕ → String) (f : Facade σ) (name : String) (a : GoMap)
    (calls : List OperationCall) (o : OperationCall) : Prop :=
  Opens random f o ∨ ∃ laneID fence, o.body.index "lane_id" = .str laneID ∧
    o.body.index "fencing_token" = .int fence ∧
    (OwnLane calls laneID fence ∨ LeaseLane f.processes name a laneID fence)

/-- The lane and the fence that each call of a tool call names. -/
def lanesUsed (calls : List OperationCall) : List (GoValue × GoValue) :=
  calls.map fun o => (o.body.index "lane_id", o.body.index "fencing_token")

theorem index_laneBody_lane (laneID : String) (fence : ℤ) :
    (laneBody laneID fence).index "lane_id" = .str laneID := by
  simp [laneBody, GoMap.index, Dict.ofList, Dict.get?_set]

theorem index_laneBody_fence (laneID : String) (fence : ℤ) :
    (laneBody laneID fence).index "fencing_token" = .int fence := by
  simp [laneBody, GoMap.index, Dict.ofList]

theorem IsUnder.index_eq {operation laneID : String} {fence : ℤ} {body : GoMap}
    {o : OperationCall} (h : IsUnder operation laneID fence body o) (hbody : body.LaneFree) :
    o.body.index "lane_id" = .str laneID ∧ o.body.index "fencing_token" = .int fence := by
  rw [h.2, (hbody.index_update _).1, (hbody.index_update _).2, index_laneBody_lane,
    index_laneBody_fence]
  exact ⟨rfl, rfl⟩

section Sanctioned

variable {f : Facade σ} {name : String} {a : GoMap}

theorem Sanctioned.mono {calls calls' : List OperationCall} {o : OperationCall}
    (h : Sanctioned random f name a calls o) (hsub : calls ⊆ calls') :
    Sanctioned random f name a calls' o := by
  rcases h with hopen | ⟨laneID, fence, hl, hf, ⟨p, hp, hown⟩ | hlease⟩
  · exact Or.inl hopen
  · exact Or.inr ⟨laneID, fence, hl, hf, Or.inl ⟨p, hsub hp, hown⟩⟩
  · exact Or.inr ⟨laneID, fence, hl, hf, Or.inr hlease⟩

/-- Every call that the action brings about is sanctioned. -/
def Confined (random : ℕ → String) (f : Facade σ) (name : String) (a : GoMap)
    (action : Facade σ → Except GoError GoMap × Facade σ) : Prop :=
  ∃ new, (action f).2.calls = f.calls ++ new ∧ ∀ o ∈ new, Sanctioned random f name a new o

theorem confined_claimed {operation : String} {capabilities : List String}
    {claims : Except GoError (List GoValue)} {body : GoMap} {task : String}
    (hbody : body.LaneFree) :
    Confined random f name a (claimed api random operation capabilities claims body task) := by
  obtain ⟨new, hcalls, hnone | ⟨-, o, ho, -, ⟨-, rfl⟩ | ⟨fence, p, q, hfence, rfl, hp, hq, hqb⟩⟩⟩ :=
    calls_claimed api random f operation capabilities claims body task
  · refine ⟨new, hcalls, ?_⟩
    rw [hnone.2]
    simp
  · refine ⟨[o], hcalls, fun o' ho' => ?_⟩
    rw [List.mem_singleton.mp ho']
    exact Or.inl ho
  · have hown : OwnLane [o, p, q] (f.newID random "public-lane").1 fence :=
      ⟨o, by simp, ho.1, ho.2, hfence⟩
    have hp' := hp.index_eq hbody
    refine ⟨[o, p, q], hcalls, ?_⟩
    simp only [List.mem_cons, List.not_mem_nil, or_false, forall_eq_or_imp, forall_eq]
    refine ⟨Or.inl ho, Or.inr ⟨_, fence, hp'.1, hp'.2, Or.inl hown⟩,
      Or.inr ⟨_, fence, ?_, ?_, Or.inl hown⟩⟩
    · rw [hqb, index_laneBody_lane]
    · rw [hqb, index_laneBody_fence]

theorem confined_startProcess {argv : List String} {cwd : String} {maxRuntimeS : Float64} :
    Confined random f name a (startProcess api random argv cwd maxRuntimeS) := by
  unfold Confined startProcess
  cases cwdClaim cwd "write" with
  | error err => exact ⟨[], by simp, by simp⟩
  | ok claim =>
    obtain ⟨o, ho, -, hcalls, -, hres⟩ := openLane_calls api random f
      ["process.exec", "process.inspect", "process.interact", "process.control"] [claim]
      (processTTL maxRuntimeS) "start-process"
    dsimp only
    generalize f.openLane api random _ [claim] _ _ = opened at hcalls hres ⊢
    obtain ⟨res, f'⟩ := opened
    obtain rfl : res = _ := hres
    have hcalls' : f'.calls = f.calls ++ [o] := hcalls
    cases hf : openedFence o.answer with
    | error err =>
      refine ⟨[o], hcalls, fun o' ho' => ?_⟩
      rw [List.mem_singleton.mp ho']
      exact Or.inl ho
    | ok fence =>
      let under := laneBody (f.newID random "public-lane").1 fence
      let body : GoMap := .ofList [("argv", .list (argv.map .str)), ("cwd", .str cwd),
        ("max_runtime_s", .float maxRuntimeS)]
      let f₂ := (f'.call api "process.start" (under.update body)).2
      let p : OperationCall :=
        ⟨"process.start", under.update body, (f'.call api "process.start" (under.update body)).1⟩
      let q : OperationCall := ⟨"lane.close", under, (f₂.call api "lane.close" under).1⟩
      have hbody : body.LaneFree := laneFree_ofList (by simp)
      have hp := IsUnder.index_eq (o := p) ⟨rfl, rfl⟩ hbody
      have hsub : ∀ calls : List OperationCall, o ∈ calls →
          OwnLane calls (f.newID random "public-lane").1 fence :=
        fun calls hmem => ⟨o, hmem, ho.1, ho.2, hf⟩
      dsimp only [Except.map]
      split
      · refine ⟨[o, p, q], ?_, ?_⟩
        · show f'.calls ++ [p] ++ [q] = f.calls ++ [o, p, q]
          rw [hcalls', List.append_assoc, List.append_assoc]
          rfl
        · simp only [List.mem_cons, List.not_mem_nil, or_false, forall_eq_or_imp, forall_eq]
          refine ⟨Or.inl ho, Or.inr ⟨_, fence, hp.1, hp.2, Or.inl (hsub _ (by simp))⟩,
            Or.inr ⟨_, fence, index_laneBody_lane _ _, index_laneBody_fence _ _,
              Or.inl (hsub _ (by simp))⟩⟩
      · refine ⟨[o, p], ?_, ?_⟩
        · show f'.calls ++ [p] = f.calls ++ [o, p]
          rw [hcalls', List.append_assoc]
          rfl
        · simp only [List.mem_cons, List.not_mem_nil, or_false, forall_eq_or_imp, forall_eq]
          exact ⟨Or.inl ho, Or.inr ⟨_, fence, hp.1, hp.2, Or.inl (hsub _ (by simp))⟩⟩

theorem get?_of_lease_eq_ok {handle : String} {found : ProcessLease}
    (h : f.lease handle = .ok found) : f.processes.get? handle = some found := by
  unfold Facade.lease at h
  split at h
  · cases h
  next hget =>
    injection h with h
    rw [hget, h]

/-- The call runs under the lane of a lease that the tool call selects. -/
def UnderLease (processes : Dict String ProcessLease) (name : String) (a : GoMap)
    (o : OperationCall) : Prop :=
  ∃ laneID fence, o.body.index "lane_id" = .str laneID ∧
    o.body.index "fencing_token" = .int fence ∧ LeaseLane processes name a laneID fence

theorem UnderLease.sanctioned {calls : List OperationCall} {o : OperationCall}
    (h : UnderLease f.processes name a o) : Sanctioned random f name a calls o := by
  obtain ⟨laneID, fence, hlane, hfence, hlease⟩ := h
  exact Or.inr ⟨laneID, fence, hlane, hfence, Or.inr hlease⟩

/-- An operation on a process is at most one call, under the lane of its lease. -/
theorem calls_processOperation (api : ControllerAPI σ) (f : Facade σ) (operation handle : String)
    (body : GoMap) (hbody : body.LaneFree)
    (hsel : a.index "process_handle" = .str handle ∨ name = "list_processes") :
    ∃ new, (processOperation api operation handle body f).2.calls = f.calls ++ new ∧
      (processOperation api operation handle body f).2.processes = f.processes ∧
      ∀ o ∈ new, UnderLease f.processes name a o := by
  unfold processOperation
  cases hl : f.lease handle with
  | error err => exact ⟨[], by simp, rfl, by simp⟩
  | ok lease =>
    refine ⟨_, rfl, rfl, fun o ho => ?_⟩
    rw [List.mem_singleton.mp ho]
    have hindex := hbody.index_update ((laneBody lease.laneID lease.fencingToken).set
      "process_handle" (.str lease.internalHandle))
    refine ⟨lease.laneID, lease.fencingToken, hindex.1.trans ?_, hindex.2.trans ?_, handle, lease,
      hsel, get?_of_lease_eq_ok hl, rfl, rfl⟩
    · simp [laneBody, GoMap.index, Dict.ofList, Dict.get?_set]
    · simp [laneBody, GoMap.index, Dict.ofList, Dict.get?_set]

theorem confined_releaseProcess {handle : String} (hsel : a.index "process_handle" = .str handle) :
    Confined random f name a (releaseProcess api handle) := by
  unfold Confined releaseProcess
  cases hl : f.lease handle with
  | error err => exact ⟨[], by simp, by simp⟩
  | ok lease =>
    have hunder : ∀ answer, UnderLease f.processes name a
        ⟨"lane.close", laneBody lease.laneID lease.fencingToken, answer⟩ := fun _ =>
      ⟨_, _, index_laneBody_lane _ _, index_laneBody_fence _ _, handle, lease, Or.inl hsel,
        get?_of_lease_eq_ok hl, rfl, rfl⟩
    dsimp only
    split <;>
    · refine ⟨_, rfl, fun o ho => ?_⟩
      rw [List.mem_singleton.mp ho]
      exact (hunder _).sanctioned

theorem statusOf_calls (handles : List String) (f : Facade σ) (hname : name = "list_processes") :
    ∃ new, (statusOf api handles f).2.calls = f.calls ++ new ∧
      ∀ o ∈ new, UnderLease f.processes name a o := by
  induction handles generalizing f with
  | nil => exact ⟨[], by simp [statusOf], by simp⟩
  | cons handle handles ih =>
    obtain ⟨first, hcalls, hproc, hfirst⟩ := calls_processOperation (a := a) api f "process.status"
      handle .empty ⟨rfl, rfl⟩ (Or.inr hname)
    obtain ⟨rest, hrest, hlater⟩ := ih (f.processStatus api handle).2
    refine ⟨first ++ rest, ?_, ?_⟩
    · show (statusOf api handles (f.processStatus api handle).2).2.calls = _
      rw [hrest, ← List.append_assoc, ← hcalls]
      rfl
    · rw [show (f.processStatus api handle).2.processes = f.processes from hproc] at hlater
      exact List.forall_mem_append.mpr ⟨hfirst, hlater⟩

/-- A tool action is confined, unless it hands on a body that names a lane. -/
theorem ToolAction.confined {action : Facade σ → Except GoError GoMap × Facade σ}
    (h : ToolAction api random a name action) (hbody : name ∈ bodyTools → a.LaneFree) :
    Confined random f name a action := by
  cases h with
  | info => exact ⟨[], by simp [computerInfo], by simp⟩
  | own _ hfree => exact confined_claimed hfree
  | ownBody defaults hname hdefaults =>
    refine confined_claimed ⟨?_, ?_⟩
    · rw [get?_applyDefaults fun e he => (hdefaults e he).1, (hbody hname).1]
    · rw [get?_applyDefaults fun e he => (hdefaults e he).2, (hbody hname).2]
  | start => exact confined_startProcess
  | process _ hhandle hfree =>
    obtain ⟨new, hcalls, -, hnew⟩ := calls_processOperation api f _ _ _ hfree (Or.inl hhandle)
    exact ⟨new, hcalls, fun o ho => (hnew o ho).sanctioned⟩
  | release _ hhandle => exact confined_releaseProcess hhandle
  | list hname =>
    obtain ⟨new, hcalls, hnew⟩ := statusOf_calls f.sortedHandles f hname
    exact ⟨new, hcalls, fun o ho => (hnew o ho).sanctioned⟩

end Sanctioned

/-! ## The tools that hand on their arguments -/

section BodyTools

/-- The arguments that `search_files`, `search_content` and `replace_text` require. -/
def bodyToolReads (name : String) (a : GoMap) : Except GoError Unit :=
  if name = "replace_text" then do
    let _ ← reqString a "path"
    let _ ← reqStringAllowEmpty a "old_string"
    let _ ← reqStringAllowEmpty a "new_string"
    return ()
  else do
    let _ ← reqString a "root"
    let _ ← reqString a "query"
    return ()

/-- The path that they claim. -/
def bodyToolPath (name : String) (a : GoMap) : String :=
  (a.index (if name = "replace_text" then "path" else "root")).asString

/-- They get to the point where they open a lane. -/
def bodyToolAccepts (name : String) (a : GoMap) : Bool :=
  (bodyToolReads name a).isOk && (canonicalRemotePath (bodyToolPath name a)).isOk

variable {name : String} {a : GoMap}

theorem bodyToolAccepts_dropLane : bodyToolAccepts name a.dropLane = bodyToolAccepts name a := by
  have hpath : bodyToolPath name a.dropLane = bodyToolPath name a := by
    unfold bodyToolPath
    split <;> rw [GoMap.index_dropLane (by decide) (by decide)]
  simp only [bodyToolAccepts, hpath, bodyToolReads, reqString_dropLane,
    reqStringAllowEmpty_dropLane, ne_eq, String.reduceEq, not_false_eq_true]

theorem isOk_pathClaims (path mode : String) :
    ((fsClaim path mode).map fun claim => [claim]).isOk = (canonicalRemotePath path).isOk := by
  unfold fsClaim pathClaim
  cases canonicalRemotePath path <;> rfl

/-- The tool refuses the arguments before it calls the controller. -/
def Refuses (api : ControllerAPI σ) (random : ℕ → String) (name : String) (a : GoMap) : Prop :=
  ∀ f : Facade σ, (f.dispatchTool api random name a).2 = f

theorem refuses_of_error {err : GoError} (h : toolAction api random name a = .error err) :
    Refuses api random name a := by
  intro f
  unfold dispatchTool
  rw [h]

theorem refuses_of_claims {operation : String} {capabilities : List String}
    {claims : Except GoError (List GoValue)} {body : GoMap} {task : String}
    (h : toolAction api random name a =
      .ok (claimed api random operation capabilities claims body task))
    (hclaims : claims.isOk = false) : Refuses api random name a := by
  intro f
  unfold dispatchTool
  rw [h]
  cases claims with
  | error err => rfl
  | ok claims => cases hclaims

/-- The tool runs an operation under a lane of its own, with the arguments as the body. -/
def HandsOn (api : ControllerAPI σ) (random : ℕ → String) (name : String) (a : GoMap) : Prop :=
  ∃ operation capabilities claims defaults task, operation ≠ "lane.open" ∧ claims.isOk = true ∧
    (∀ e ∈ (defaults : List (String × GoValue)), e.1 ≠ "lane_id" ∧ e.1 ≠ "fencing_token") ∧
    toolAction api random name a =
      .ok (claimed api random operation capabilities claims (applyDefaults a defaults) task)

/-- A tool that reads its arguments and then runs an operation on its path either refuses them or
hands them on. -/
theorem bodyTool_cases_of {operation : String} {capabilities : List String} {path mode : String}
    {defaults : List (String × GoValue)} {task : String} (hop : operation ≠ "lane.open")
    (hdefaults : ∀ e ∈ defaults, e.1 ≠ "lane_id" ∧ e.1 ≠ "fencing_token")
    (hpath : path = bodyToolPath name a)
    (hact : toolAction api random name a = bodyToolReads name a >>= fun _ =>
      .ok (onPath api random operation capabilities path mode (applyDefaults a defaults) task)) :
    (bodyToolAccepts name a = false ∧ Refuses api random name a) ∨
      (bodyToolAccepts name a = true ∧ HandsOn api random name a) := by
  have hclaims := isOk_pathClaims path mode
  unfold bodyToolAccepts
  cases hreads : bodyToolReads name a with
  | error err =>
    rw [hreads] at hact
    exact Or.inl ⟨rfl, refuses_of_error hact⟩
  | ok _ =>
    rw [hreads] at hact
    rw [hpath] at hclaims
    cases hcanon : (canonicalRemotePath (bodyToolPath name a)).isOk with
    | false => exact Or.inl ⟨rfl, refuses_of_claims hact (hpath ▸ hclaims.trans hcanon)⟩
    | true =>
      exact Or.inr ⟨rfl, operation, capabilities, _, defaults, task, hop,
        hpath ▸ hclaims.trans hcanon, hdefaults, hact⟩

theorem asString_applyDefaults {l : List (String × GoValue)} {key : String}
    (h : ∀ e ∈ l, e.1 ≠ key) : ((applyDefaults a l).index key).asString = (a.index key).asString := by
  rw [GoMap.index, get?_applyDefaults h, GoMap.index]

theorem bodyTool_cases (api : ControllerAPI σ) (random : ℕ → String) (a : GoMap)
    (hname : name ∈ bodyTools) :
    (bodyToolAccepts name a = false ∧ Refuses api random name a) ∨
      (bodyToolAccepts name a = true ∧ HandsOn api random name a) := by
  simp only [bodyTools, List.mem_cons, List.not_mem_nil, or_false] at hname
  rcases hname with rfl | rfl | rfl
  · have hact : toolAction api random "search_files" a = bodyToolReads "search_files" a >>=
        fun _ => .ok (searchFiles api random (applyDefaults a searchFilesDefaults)) := by
      simp only [toolAction, bodyToolReads, String.reduceEq, reduceIte, bind_assoc, pure_bind]
      rfl
    unfold searchFiles at hact
    exact bodyTool_cases_of (by decide) (by simp [searchFilesDefaults])
      (asString_applyDefaults (by simp [searchFilesDefaults])) hact
  · have hact : toolAction api random "search_content" a = bodyToolReads "search_content" a >>=
        fun _ => .ok (searchContent api random (applyDefaults a searchContentDefaults)) := by
      simp only [toolAction, bodyToolReads, String.reduceEq, reduceIte, bind_assoc, pure_bind]
      rfl
    unfold searchContent at hact
    exact bodyTool_cases_of (by decide) (by simp [searchContentDefaults])
      (asString_applyDefaults (by simp [searchContentDefaults])) hact
  · have hact : toolAction api random "replace_text" a = bodyToolReads "replace_text" a >>=
        fun _ => .ok (replaceText api random (applyDefaults a replaceTextDefaults)) := by
      simp only [toolAction, bodyToolReads, reduceIte, bind_assoc, pure_bind]
      rfl
    unfold replaceText at hact
    exact bodyTool_cases_of (by decide) (by simp [replaceTextDefaults])
      (asString_applyDefaults (by simp [replaceTextDefaults])) hact

end BodyTools

/-! ## Whose lane it is -/

section Main

variable {f : Facade σ} {name : String} {a : GoMap}

theorem newCalls_eq {action : Facade σ → Except GoError GoMap × Facade σ} {new : List OperationCall}
    (hact : toolAction api random name a = .ok action)
    (hcalls : (action f).2.calls = f.calls ++ new) : newCalls api random f name a = new := by
  unfold newCalls dispatchTool
  rw [hact]
  dsimp only
  rw [hcalls, List.drop_left]

theorem newCalls_of_refuses (h : Refuses api random name a) (f : Facade σ) :
    newCalls api random f name a = [] := by
  rw [newCalls, h f, List.drop_length]

/-- In every environment, the tool call uses the facade's own lanes only, and the same ones that it
uses without members called `lane_id` and `fencing_token`. -/
def InternalLanes (name : String) (a : GoMap) : Prop :=
  ∀ (σ : Type) (api : ControllerAPI σ) (random : ℕ → String) (f : Facade σ),
    (∀ o ∈ newCalls api random f name a,
      Sanctioned random f name a (newCalls api random f name a) o) ∧
    lanesUsed (newCalls api random f name a) = lanesUsed (newCalls api random f name a.dropLane)

theorem sanctioned_of_laneFree (hbody : name ∈ bodyTools → a.LaneFree) :
    ∀ o ∈ newCalls api random f name a,
      Sanctioned random f name a (newCalls api random f name a) o := by
  cases hact : toolAction api random name a with
  | error err => simp [newCalls_of_refuses (refuses_of_error hact) f]
  | ok action =>
    obtain ⟨new, hcalls, hnew⟩ := (toolAction_spec hact).confined (f := f) hbody
    rw [newCalls_eq hact hcalls]
    exact hnew

theorem internalLanes_of (h : name ∈ bodyTools → bodyToolAccepts name a = true → a.LaneFree) :
    InternalLanes name a := by
  intro σ api random f
  by_cases hname : name ∈ bodyTools
  · rcases bodyTool_cases api random a hname with ⟨hacc, href⟩ | ⟨hacc, -⟩
    · -- refused: no call at all, with or without the two members
      have href' : Refuses api random name a.dropLane := by
        rcases bodyTool_cases api random a.dropLane hname with ⟨-, href'⟩ | ⟨hacc', -⟩
        · exact href'
        · rw [bodyToolAccepts_dropLane, hacc] at hacc'
          cases hacc'
      rw [newCalls_of_refuses href, newCalls_of_refuses href']
      exact ⟨by simp, rfl⟩
    · have hfree := h hname hacc
      exact ⟨sanctioned_of_laneFree fun _ => hfree, by rw [hfree.dropLane_eq]⟩
  · refine ⟨sanctioned_of_laneFree fun hmem => absurd hmem hname, ?_⟩
    simp only [newCalls, dispatchTool, toolAction_dropLane a hname]

/-- A controller that grants every request, every lane with the same fence. -/
def grantingAPI (fence : ℤ) : ControllerAPI Unit where
  call _ _ _ := (.ok (.ofList [("ok", .bool true), ("result", .map [("fencing_token",
    .int fence)])]), ())
  machineInfo _ := (.empty, ())

theorem openedFence_granting {fence : ℤ} (h : 1 ≤ fence) (operation : String) (body : GoMap) :
    openedFence ((grantingAPI fence).call () operation body).1 = .ok fence := by
  have hresult : unwrap (.ofList [("ok", .bool true), ("result", .map [("fencing_token",
      .int fence)])]) = .ok (.ofList [("fencing_token", .int fence)]) := rfl
  simp only [grantingAPI, openedFence, pure, Except.pure, bind, Except.bind, hresult]
  have hindex : GoMap.index (.ofList [("fencing_token", .int fence)]) "fencing_token" =
      .int fence := rfl
  simp [hindex, exactInt64, Option.filter, h]

/-- If the tool hands on the arguments, a lane or a fence among them has to be the facade's own. -/
theorem eq_own_of_internalLanes (h : InternalLanes name a) (hname : name ∈ bodyTools)
    (hacc : bodyToolAccepts name a = true) (suffix : String) {fence : ℤ} (hfence : 1 ≤ fence) :
    (∀ v, a.get? "lane_id" = some v → v = .str ("public-lane" ++ ":" ++ "" ++ ":" ++ suffix)) ∧
      ∀ v, a.get? "fencing_token" = some v → v = .int fence := by
  let f : Facade Unit := create () ""
  let random : ℕ → String := fun _ => suffix
  obtain ⟨operation, capabilities, claims, defaults, task, hop, hclaims, hdefaults, hact⟩ :
      HandsOn (grantingAPI fence) random name a := by
    rcases bodyTool_cases (grantingAPI fence) random a hname with ⟨hrej, -⟩ | ⟨-, hon⟩
    · rw [hacc] at hrej
      cases hrej
    · exact hon
  obtain ⟨new, hcalls, ⟨hrej, -⟩ | ⟨-, o, ho, hans, ⟨hfail, -⟩ | ⟨fence', p, q, hf, rfl, hp, hq, -⟩⟩⟩ :=
    calls_claimed (grantingAPI fence) random f operation capabilities claims
      (applyDefaults a defaults) task
  · rw [hclaims] at hrej
    cases hrej
  · rw [hans, openedFence_granting hfence] at hfail
    cases hfail
  · have hsanctioned := (h Unit (grantingAPI fence) random f).1
    rw [newCalls_eq hact hcalls] at hsanctioned
    rcases hsanctioned p (by simp) with hopen | ⟨laneID, fence₁, hlane, htoken, hown | hlease⟩
    · exact absurd (hp.1.symm.trans hopen.1) hop
    · obtain ⟨o', hmem, hopen, hid, hgrant⟩ := hown
      -- the only open among the calls is the facade's
      obtain rfl : o' = o := by
        simp only [List.mem_cons, List.not_mem_nil, or_false] at hmem
        rcases hmem with rfl | rfl | rfl
        · rfl
        · exact absurd (hp.1.symm.trans hopen) hop
        · rw [hq] at hopen
          exact absurd hopen (by decide)
      have hlaneID : GoValue.str laneID = .str (f.newID random "public-lane").1 :=
        hid.symm.trans ho.2
      have hfence₁ : fence₁ = fence := by
        rw [hans, openedFence_granting hfence] at hgrant
        injection hgrant with hgrant
        exact hgrant.symm
      have hdefault : ∀ key, key = "lane_id" ∨ key = "fencing_token" →
          (applyDefaults a defaults).get? key = a.get? key := by
        rintro key (rfl | rfl)
        · exact get?_applyDefaults fun e he => (hdefaults e he).1
        · exact get?_applyDefaults fun e he => (hdefaults e he).2
      refine ⟨fun v hv => ?_, fun v hv => ?_⟩
      · rw [hp.2, GoMap.index, Dict.get?_update, hdefault _ (Or.inl rfl), hv] at hlane
        exact hlane.trans hlaneID
      · rw [hp.2, GoMap.index, Dict.get?_update, hdefault _ (Or.inr rfl), hv] at htoken
        exact htoken.trans (by rw [hfence₁])
    · obtain ⟨handle, lease, -, hget, -⟩ := hlease
      cases hget

/-- **Who chooses the lane.** The facade alone chooses the lane and the fence of a tool call just if
the tool does not hand on its arguments, or refuses them, or they name neither. -/
theorem internalLanes_iff (name : String) (a : GoMap) :
    InternalLanes name a ↔
      (name ∈ bodyTools → bodyToolAccepts name a = true → a.LaneFree) := by
  refine ⟨fun h hname hacc => ⟨?_, ?_⟩, internalLanes_of⟩
  · refine Option.eq_none_iff_forall_ne_some.mpr fun v hv => ?_
    have hzero := (eq_own_of_internalLanes h hname hacc "0" (le_refl 1)).1 v hv
    have hone := (eq_own_of_internalLanes h hname hacc "1" (le_refl 1)).1 v hv
    exact absurd (hzero.symm.trans hone) (by simp)
  · refine Option.eq_none_iff_forall_ne_some.mpr fun v hv => ?_
    have hone := (eq_own_of_internalLanes h hname hacc "0" (le_refl 1)).2 v hv
    have htwo := (eq_own_of_internalLanes h hname hacc "0" (by decide : (1 : ℤ) ≤ 2)).2 v hv
    exact absurd (hone.symm.trans htwo) (by simp)

def exampleArguments : GoMap :=
  .ofList [("root", .str "/a"), ("query", .str "x"), ("lane_id", .str "mine")]

/-- With a `lane_id` among its arguments, `search_files` searches under that lane. -/
theorem not_internalLanes_exampleArguments : ¬InternalLanes "search_files" exampleArguments := by
  intro h
  have hown := (eq_own_of_internalLanes h (by decide) (by decide +kernel) "0" (le_refl 1)).1
  exact absurd (hown (.str "mine") rfl) (by simp)

end Main

end Facade

end VeraMesh.Gateway
