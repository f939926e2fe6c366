import VeraMesh.PublicGateway.FacadeSteps

/-!
# The public tools of the reference facade

Which public calls of `PublicWorkstationFacade` clean up their lanes.

## Main definitions

* `PublicTool`: a public method with its arguments, and `outcomeOf` for what a call comes to.
* `StartsUnleased`: `start_process` starts the process and is then refused an id for its lease.

## Main results

* `PublicTool.cleansUp_iff`: a public call cleans up its lanes unless it `StartsUnleased`.
-/

namespace VeraMesh.PublicGateway

open Python Gateway Attempt PublicWorkstationFacade

/-- A public method of the facade, with its arguments. -/
inductive PublicTool where
  | computerInfo
  | readFile (path encoding : String)
  | readBytes (path : String) (offset : ℤ) (maxBytes : Option ℤ)
      (expectedFileVersion : Option String)
  | statPath (path : String)
  | listDirectory (path : String) (offset maxEntries : ℤ)
  | searchFiles (root query : String) (offset maxResults maxEntries maxDepth : ℤ)
      (caseSensitive : Bool)
  | searchContent (root query filePattern : String)
      (offset maxResults maxEntries maxDepth maxTotalBytes : ℤ) (caseSensitive : Bool)
  | writeFile (path content encoding : String)
  | appendFile (path content encoding : String)
  | makeDirectory (path : String) (parents : Bool)
  | movePath (source destination : String)
  | replaceText (path oldString newString : String) (expectedCount : ℤ) (encoding : String)
  | runProcess (argv : List String) (cwd : String) (timeoutS : PyFloat)
  | startProcess (argv : List String) (cwd : String) (maxRuntimeS : PyFloat)
  | processStatus (processHandle : String)
  | processOutput (processHandle : String) (stdoutOffset stderrOffset maxBytes : ℤ)
  | processInput (processHandle inputText : String) (appendNewline : Bool)
  | terminateProcess (processHandle : String) (graceS : PyFloat)
  | releaseProcess (processHandle : String)
  | listProcesses
  | close

/-- A call of the method. -/
def PublicTool.run (rt : Runtime) (outcomes : Outcomes) :
    PublicTool → FacadeTask (Dict String PyValue)
  | .computerInfo => PublicWorkstationFacade.computerInfo outcomes
  | .readFile path encoding => PublicWorkstationFacade.readFile rt outcomes path encoding
  | .readBytes path offset maxBytes expectedFileVersion =>
    PublicWorkstationFacade.readBytes rt outcomes path offset maxBytes expectedFileVersion
  | .statPath path => PublicWorkstationFacade.statPath rt outcomes path
  | .listDirectory path offset maxEntries =>
    PublicWorkstationFacade.listDirectory rt outcomes path offset maxEntries
  | .searchFiles root query offset maxResults maxEntries maxDepth caseSensitive =>
    PublicWorkstationFacade.searchFiles rt outcomes root query offset maxResults maxEntries maxDepth
      caseSensitive
  | .searchContent root query filePattern offset maxResults maxEntries maxDepth maxTotalBytes
      caseSensitive =>
    PublicWorkstationFacade.searchContent rt outcomes root query filePattern offset maxResults
      maxEntries maxDepth maxTotalBytes caseSensitive
  | .writeFile path content encoding =>
    PublicWorkstationFacade.writeFile rt outcomes path content encoding
  | .appendFile path content encoding =>
    PublicWorkstationFacade.appendFile rt outcomes path content encoding
  | .makeDirectory path parents => PublicWorkstationFacade.makeDirectory rt outcomes path parents
  | .movePath source destination =>
    PublicWorkstationFacade.movePath rt outcomes source destination
  | .replaceText path oldString newString expectedCount encoding =>
    PublicWorkstationFacade.replaceText rt outcomes path oldString newString expectedCount encoding
  | .runProcess argv cwd timeoutS =>
    PublicWorkstationFacade.runProcess rt outcomes argv cwd timeoutS
  | .startProcess argv cwd maxRuntimeS =>
    PublicWorkstationFacade.startProcess rt outcomes argv cwd maxRuntimeS
  | .processStatus processHandle =>
    PublicWorkstationFacade.processStatus rt outcomes processHandle
  | .processOutput processHandle stdoutOffset stderrOffset maxBytes =>
    PublicWorkstationFacade.processOutput rt outcomes processHandle stdoutOffset stderrOffset
      maxBytes
  | .processInput processHandle inputText appendNewline =>
    PublicWorkstationFacade.processInput rt outcomes processHandle inputText appendNewline
  | .terminateProcess processHandle graceS =>
    PublicWorkstationFacade.terminateProcess rt outcomes processHandle graceS
  | .releaseProcess processHandle => PublicWorkstationFacade.releaseProcess outcomes processHandle
  | .listProcesses => PublicWorkstationFacade.listProcesses rt outcomes
  | .close => PublicWorkstationFacade.close outcomes

/-- The process lease under a handle holds the lane and the fence. -/
def PublicWorkstationFacade.Leases (f : PublicWorkstationFacade) (handle lane : String)
    (fence : ℤ) : Prop :=
  ∃ lease, f.processes.get? handle = some lease ∧ lease.laneId = lane ∧
    lease.fencingToken = fence

/-- What a call comes to. -/
def outcomeOf (rt : Runtime) (t : FacadeTask (Dict String PyValue)) (f : PublicWorkstationFacade) :
    CallOutcome Raised (Dict String PyValue) (Dict String PyValue) where
  result := (t.exec f).1
  laneRequests := ((t.exec f).2.calls.drop f.calls.length).map (laneRequest rt)
  leased lane fence := ∃ result handle, (t.exec f).1 = .ok result ∧
    result.get? "process_handle" = some (.str handle) ∧ (t.exec f).2.Leases handle lane fence

/-- The note on a failure to close, as `_ephemeral` adds it. -/
def withNote (result note : Dict String PyValue) : Dict String PyValue :=
  result.set "_veramesh_cleanup" (.dict note.entries)

/-- The calls of `close_lane` may end in another way. -/
def Outcomes.CloseOtherwise (outcomes outcomes' : Outcomes) : Prop :=
  outcomes'.answer = outcomes.answer ∧ outcomes'.info = outcomes.info

/-- The public call cleans up its lanes. -/
def PublicTool.CleansUp (rt : Runtime) (tool : PublicTool) (f : PublicWorkstationFacade) :
    Outcomes → Prop :=
  Cleaned Outcomes.CloseOtherwise withNote fun outcomes => outcomeOf rt (tool.run rt outcomes) f

/-- What `process.start` comes to, after `ensure_started`. -/
def startResult (rt : Runtime) (outcomes : Outcomes) (f : PublicWorkstationFacade) :
    Except Raised (Dict String PyValue) := do
  let _ ← outcomes.answer (f.asked + 1)
  unwrap rt (← outcomes.answer (f.asked + 2))

/-- The call starts a process under a lane, and then the id factory has no id for the lease. -/
def StartsUnleased (rt : Runtime) (outcomes : Outcomes) (f : PublicWorkstationFacade) :
    PublicTool → Prop
  | .startProcess _ cwd _ =>
    (∃ claim, cwdClaim cwd "write" = .ok claim) ∧
      (∃ opened, openResult rt outcomes f = .ok opened) ∧
      (∃ result handle, startResult rt outcomes f = .ok result ∧
        startedHandle result = some handle) ∧
      ∃ exc, factoryId (f.idFactory (f.ids + 2)) = .error exc
  | _ => False

section Cleanup

variable {rt : Runtime} {outcomes : Outcomes} {f f' : PublicWorkstationFacade}
  {l : List (LaneRequest (Dict String PyValue))} {lane : String} {fence : ℤ}
  {t t' : FacadeTask (Dict String PyValue)} {work : Outcomes → FacadeTask (Dict String PyValue)}

theorem Outcomes.CloseOtherwise.refl (outcomes : Outcomes) : outcomes.CloseOtherwise outcomes :=
  ⟨rfl, rfl⟩

/-- The requests of a call. -/
theorem laneRequests_outcomeOf {r : Except Raised (Dict String PyValue)}
    (hexec : t.exec f = (r, f')) (hcalls : ∃ new, f'.calls = f.calls ++ new ∧ new.map (laneRequest rt) = l) :
    (outcomeOf rt t f).laneRequests = l := by
  obtain ⟨new, hnew, hl⟩ := hcalls
  unfold outcomeOf
  dsimp only
  rw [hexec, hnew, List.drop_left, hl]

/-! ## Calls that open no lane -/

theorem cleaned_of_opensNone (h : OpensNone rt (work outcomes)) :
    Cleaned Outcomes.CloseOtherwise withNote (fun o => outcomeOf rt (work o) f) outcomes := by
  obtain ⟨new, hcalls, hnew⟩ := h f
  apply Cleaned.of_not_opens
  have hlane : (outcomeOf rt (work outcomes) f).laneRequests = new.map (laneRequest rt) :=
    laneRequests_outcomeOf rfl ⟨new, hcalls, rfl⟩
  rw [hlane, List.forall_mem_map]
  exact hnew

/-! ## Calls under a lane of their own -/

/-- A call that opens a lane, works under it and closes it. -/
theorem cleaned_of_bracket (lane : String) (fence : ℤ) (own : Except Raised (Dict String PyValue))
    (answer : Outcomes → Except Raised PyValue) (hl : ∀ c ∈ l, c = .other)
    (h : ∀ o, outcomes.CloseOtherwise o → ∃ f',
      (work o).exec f =
        (own.map fun r => (cleanupNote (answer o)).toList.foldl withNote r, f') ∧
      ∃ new, f'.calls = f.calls ++ new ∧ new.map (laneRequest rt) =
        .opened lane fence :: (l ++ [.closed lane fence (cleanupNote (answer o))])) :
    Cleaned Outcomes.CloseOtherwise withNote (fun o => outcomeOf rt (work o) f) outcomes := by
  refine Cleaned.of_bracket lane fence own (fun o => cleanupNote (answer o)) hl (.refl outcomes)
    (fun o ho => ?_) fun o ho => ?_
  · obtain ⟨f', hexec, hcalls⟩ := h o ho
    exact laneRequests_outcomeOf hexec hcalls
  · obtain ⟨f', hexec, -⟩ := h o ho
    exact congrArg Prod.fst hexec

/-- A call that opens a lane and leaves it to the lease whose handle it returns. -/
theorem cleaned_of_leased (lane : String) (fence : ℤ) {result : Dict String PyValue}
    {handle : String} (hl : ∀ c ∈ l, c = .other)
    (hhandle : result.get? "process_handle" = some (.str handle))
    (h : ∀ o, outcomes.CloseOtherwise o → ∃ f', (work o).exec f = (.ok result, f') ∧
      (∃ new, f'.calls = f.calls ++ new ∧ new.map (laneRequest rt) = .opened lane fence :: l) ∧
        f'.Leases handle lane fence) :
    Cleaned Outcomes.CloseOtherwise withNote (fun o => outcomeOf rt (work o) f) outcomes := by
  refine Cleaned.of_leased lane fence (.ok result) hl (.refl outcomes) ?_ (fun o ho => ?_)
    fun o ho => ?_
  · obtain ⟨f', hexec, -, hleases⟩ := h outcomes (.refl outcomes)
    refine ⟨result, handle, congrArg Prod.fst hexec, hhandle, ?_⟩
    rw [hexec]
    exact hleases
  · obtain ⟨f', hexec, hcalls, -⟩ := h o ho
    exact laneRequests_outcomeOf hexec hcalls
  · obtain ⟨f', hexec, -⟩ := h o ho
    exact congrArg Prod.fst hexec

section Congr

variable {o : Outcomes} (ho : outcomes.CloseOtherwise o)

include ho in
/-- What does not close a lane runs the same. -/
theorem call_closeOtherwise {method : RuntimeMethod} {kwargs : List (String × PyValue)}
    (hmethod : method ≠ .closeLane) : call o method kwargs = call outcomes method kwargs := by
  unfold call
  simp only [hmethod, if_false, ho.1]

include ho in
theorem openLane_closeOtherwise {capabilities : List String}
    {claims : List (List (String × String))} {ttlS : PyFloat} {task : String} :
    openLane rt o capabilities claims ttlS task =
      openLane rt outcomes capabilities claims ttlS task := by
  simp only [openLane, call_closeOtherwise ho, ne_eq, reduceCtorEq, not_false_eq_true]

include ho in
theorem runOperation_closeOtherwise {operation : String} {body : List (String × PyValue)} :
    runOperation o operation lane fence body = runOperation outcomes operation lane fence body := by
  simp only [runOperation, call_closeOtherwise ho, ne_eq, reduceCtorEq, not_false_eq_true]

include ho in
theorem callStart_closeOtherwise {argv : List String} {cwd : String} {maxRuntimeS : PyFloat} :
    callStart rt o argv cwd maxRuntimeS lane fence =
      callStart rt outcomes argv cwd maxRuntimeS lane fence := by
  simp only [callStart, call_closeOtherwise ho, ne_eq, reduceCtorEq, not_false_eq_true]

end Congr

/-- `_ephemeral` cleans up its lane. -/
theorem cleaned_ephemeral {operation : String} {capabilities : List String}
    {claims : List (List (String × String))} {body : List (String × PyValue)} {task : String} :
    Cleaned Outcomes.CloseOtherwise withNote (fun o => outcomeOf rt
      (ephemeral rt o operation capabilities claims body task) f) outcomes := by
  obtain ⟨f₁, hopen, hcases⟩ := openLane_cases rt outcomes f capabilities claims 300 task
  cases hresult : openResult rt outcomes f with
  | error exc =>
    rw [hresult] at hopen hcases
    obtain ⟨l, hl, hstep⟩ := hcases
    have hexec : (ephemeral rt outcomes operation capabilities claims body task).exec f =
        (.error exc, f₁) := by
      rw [ephemeral, exec_bind, hopen]
    apply Cleaned.of_not_opens
    rw [laneRequests_outcomeOf hexec hstep.calls]
    exact hl
  | ok opened =>
    obtain ⟨lane, fence⟩ := opened
    rw [hresult] at hopen hcases
    obtain ⟨hstep, -, -⟩ := hcases
    have hquiet : QuietWork rt (do
        let response ← runOperation outcomes operation lane fence body
        ofResult (unwrap rt response)) :=
      quiet_runOperation.bind fun response => quiet_ofResult _
    obtain ⟨-, l, hl, hstep'⟩ := hquiet.stepped f₁
    generalize hwork : (do
        let response ← runOperation outcomes operation lane fence body
        ofResult (unwrap rt response) : FacadeTask (Dict String PyValue)).exec f₁ = done at hstep'
    obtain ⟨own, f₂⟩ := done
    refine cleaned_of_bracket lane fence own (fun o => o.close f₂.closed) hl fun o ho => ?_
    obtain ⟨f₃, hclose, hstep''⟩ := closeLaneEvidence_cases rt o f₂ lane fence
    refine ⟨f₃, ?_, (hstep.trans (hstep'.trans hstep'')).calls⟩
    rw [ephemeral, openLane_closeOtherwise ho, exec_bind, hopen]
    dsimp only
    rw [runOperation_closeOtherwise ho, exec_bind, exec_settle, hwork]
    dsimp only
    rw [exec_bind, hclose]
    dsimp only
    cases own with
    | error exc => rfl
    | ok result =>
      rw [cleanupNote]
      dsimp only
      split_ifs <;> rfl


theorem cleaned_claimed {operation : String} {capabilities : List String}
    {claims : Except PyError (List (List (String × String)))} {body : List (String × PyValue)}
    {task : String} :
    Cleaned Outcomes.CloseOtherwise withNote (fun o => outcomeOf rt
      (claimed rt o operation capabilities claims body task) f) outcomes := by
  cases claims with
  | error exc =>
    apply cleaned_of_opensNone
    rw [claimed]
    exact (keeps_throw _).logs
  | ok claims => exact cleaned_ephemeral

/-! ## Starting a process -/

section Start

variable {argv : List String} {cwd : String} {maxRuntimeS : PyFloat}
  {claim : List (String × String)} {f₁ f₂ : PublicWorkstationFacade}

/-- The process is not started for want of a lane. -/
theorem exec_startProcess_of_error {exc : Raised} (hclaim : cwdClaim cwd "write" = .ok claim)
    (hopen : (openLane rt outcomes PublicFacade.processCapabilities [claim]
      (PublicFacade.python.processTtl maxRuntimeS) "start-process").exec f = (.error exc, f₁)) :
    (startProcess rt outcomes argv cwd maxRuntimeS).exec f = (.error exc, f₁) := by
  rw [startProcess, hclaim, exec_bind, exec_ofResult]
  show (do _ : FacadeTask _).exec f = _
  rw [exec_bind, hopen]

/-- What is done with the answer to `process.start`. -/
def leaseStarted (outcomes : Outcomes) (cwd lane : String) (fence : ℤ) :
    Except Raised (Dict String PyValue) → FacadeTask (Dict String PyValue)
  | .error exc => do
    let _ ← closeLaneEvidence outcomes lane fence
    throw exc
  | .ok result =>
    match startedHandle result with
    | none => do
      let _ ← closeLaneEvidence outcomes lane fence
      throw (.publicGatewayError "process.start returned no process handle")
    | some internal => do
      let publicHandle ← newId "job"
      let cwd ← ofResult (checked (canonicalRemotePath cwd))
      modify fun f => { f with
        processes := f.processes.set publicHandle ⟨publicHandle, internal, lane, fence, cwd⟩ }
      return result.set "process_handle" (.str publicHandle)

theorem exec_startProcess (hclaim : cwdClaim cwd "write" = .ok claim)
    (hopen : (openLane rt outcomes PublicFacade.processCapabilities [claim]
      (PublicFacade.python.processTtl maxRuntimeS) "start-process").exec f =
        (.ok (lane, fence), f₁)) :
    (startProcess rt outcomes argv cwd maxRuntimeS).exec f =
      (leaseStarted outcomes cwd lane fence
        ((callStart rt outcomes argv cwd maxRuntimeS lane fence).exec f₁).1).exec
          ((callStart rt outcomes argv cwd maxRuntimeS lane fence).exec f₁).2 := by
  rw [startProcess, hclaim, exec_bind, exec_ofResult]
  show (do _ : FacadeTask _).exec f = _
  rw [exec_bind, hopen]
  dsimp only
  rw [exec_bind, exec_settle]
  dsimp only
  generalize (callStart rt outcomes argv cwd maxRuntimeS lane fence).exec f₁ = done
  obtain ⟨r, f₂⟩ := done
  cases r <;> rfl

theorem callStart_fst (hasked : f₁.asked = f.asked + 1) :
    ((callStart rt outcomes argv cwd maxRuntimeS lane fence).exec f₁).1 =
      startResult rt outcomes f := by
  rw [callStart, exec_bind, exec_call, startResult]
  simp only [reduceCtorEq, if_false, hasked]
  cases outcomes.answer (f.asked + 1) with
  | error exc => rfl
  | ok response =>
    dsimp only
    rw [exec_bind, exec_call]
    simp only [reduceCtorEq, if_false, record, hasked]
    cases outcomes.answer (f.asked + 2) with
    | error exc => rfl
    | ok response =>
      dsimp only
      rw [exec_ofResult]
      rfl

theorem exec_leaseStarted (outcomes : Outcomes) (lane : String) (fence : ℤ)
    (f₂ : PublicWorkstationFacade) {result : Dict String PyValue} {internal : String}
    (hhandle : startedHandle result = some internal) (hclaim : cwdClaim cwd "write" = .ok claim) :
    match factoryId (f₂.idFactory f₂.ids) with
    | .error exc => (leaseStarted outcomes cwd lane fence (.ok result)).exec f₂ =
        (.error exc, { f₂ with ids := f₂.ids + 1 })
    | .ok id => ∃ f₃, (leaseStarted outcomes cwd lane fence (.ok result)).exec f₂ =
        (.ok (result.set "process_handle" (.str ("job" ++ ":" ++ f₂.actorTag ++ ":" ++ id))), f₃) ∧
          f₃.calls = f₂.calls ∧ f₃.Leases ("job" ++ ":" ++ f₂.actorTag ++ ":" ++ id) lane fence := by
  obtain ⟨canon, hcanon⟩ : ∃ canon, canonicalRemotePath cwd = .ok canon := by
    cases hcanon : canonicalRemotePath cwd with
    | ok canon => exact ⟨canon, rfl⟩
    | error exc =>
      rw [cwdClaim, pathClaim, hcanon] at hclaim
      cases hclaim
  rw [leaseStarted, hhandle]
  dsimp only
  rw [exec_bind, exec_newId]
  cases factoryId (f₂.idFactory f₂.ids) with
  | error exc => rfl
  | ok id =>
    dsimp only [Except.map]
    rw [hcanon, exec_bind]
    refine ⟨_, rfl, rfl, _, Dict.get?_set_self _ _ _, rfl, rfl⟩

/-- `start_process` cleans up its lane unless the process is started and then gets no lease. -/
theorem cleaned_startProcess_iff :
    Cleaned Outcomes.CloseOtherwise withNote (fun o => outcomeOf rt
        (startProcess rt o argv cwd maxRuntimeS) f) outcomes ↔
      ¬StartsUnleased rt outcomes f (.startProcess argv cwd maxRuntimeS) := by
  cases hclaim : cwdClaim cwd "write" with
  | error exc =>
    apply iff_of_true
    · apply cleaned_of_opensNone
      rw [startProcess, hclaim]
      exact (keeps_throw _).logs
    · rintro ⟨⟨claim, hok⟩, -⟩
      rw [hclaim] at hok
      cases hok
  | ok claim =>
    obtain ⟨f₁, hopen, hcases⟩ := openLane_cases rt outcomes f PublicFacade.processCapabilities
      [claim] (PublicFacade.python.processTtl maxRuntimeS) "start-process"
    cases hresult : openResult rt outcomes f with
    | error exc =>
      rw [hresult] at hopen hcases
      obtain ⟨l, hl, hstep⟩ := hcases
      apply iff_of_true
      · apply Cleaned.of_not_opens
        rw [laneRequests_outcomeOf (exec_startProcess_of_error hclaim hopen) hstep.calls]
        exact hl
      · rintro ⟨-, ⟨opened, hok⟩, -⟩
        rw [hresult] at hok
        cases hok
    | ok opened =>
      obtain ⟨lane, fence⟩ := opened
      rw [hresult] at hopen hcases
      obtain ⟨hstep, hids, hasked⟩ := hcases
      have hquiet : QuietWork rt (callStart rt outcomes argv cwd maxRuntimeS lane fence) :=
        quiet_callStart
      obtain ⟨hids', l, hl, hstep'⟩ := hquiet.stepped f₁
      have hfst : ((callStart rt outcomes argv cwd maxRuntimeS lane fence).exec f₁).1 =
          startResult rt outcomes f := callStart_fst hasked
      have hexec : ∀ o, outcomes.CloseOtherwise o →
          (startProcess rt o argv cwd maxRuntimeS).exec f =
            (leaseStarted o cwd lane fence
              ((callStart rt outcomes argv cwd maxRuntimeS lane fence).exec f₁).1).exec
                ((callStart rt outcomes argv cwd maxRuntimeS lane fence).exec f₁).2 := by
        intro o ho
        rw [exec_startProcess hclaim (by rw [openLane_closeOtherwise ho, hopen]),
          callStart_closeOtherwise ho]
      rw [hfst] at hexec
      generalize ((callStart rt outcomes argv cwd maxRuntimeS lane fence).exec f₁).2 = f₂
        at hexec hids' hstep'
      have hsteps := hstep.trans hstep'
      -- a start that fails is a bracket around its own error
      have hfailed : ∀ exc, (∀ o, leaseStarted o cwd lane fence (startResult rt outcomes f) = (do
            let _ ← closeLaneEvidence o lane fence
            throw exc)) →
          Cleaned Outcomes.CloseOtherwise withNote (fun o => outcomeOf rt
            (startProcess rt o argv cwd maxRuntimeS) f) outcomes := by
        intro exc hlease
        refine cleaned_of_bracket lane fence (.error exc) (fun o => o.close f₂.closed) hl
          fun o ho => ?_
        obtain ⟨f₃, hclose, hstep''⟩ := closeLaneEvidence_cases rt o f₂ lane fence
        refine ⟨f₃, ?_, (hstep.trans (hstep'.trans hstep'')).calls⟩
        rw [hexec o ho, hlease o, exec_bind, hclose]
        rfl
      cases hstart : startResult rt outcomes f with
      | error exc =>
        apply iff_of_true
        · apply hfailed exc
          intro o
          rw [hstart]
          rfl
        · rintro ⟨-, -, ⟨result, handle, hok, -⟩, -⟩
          rw [hstart] at hok
          cases hok
      | ok result =>
        rw [hstart] at hexec
        cases hhandle : startedHandle result with
        | none =>
          apply iff_of_true
          · apply hfailed (.publicGatewayError "process.start returned no process handle")
            intro o
            rw [hstart, leaseStarted, hhandle]
          · rintro ⟨-, -, ⟨result', handle, hok, hsome⟩, -⟩
            rw [hstart] at hok
            rw [← Except.ok.inj hok, hhandle] at hsome
            cases hsome
        | some internal =>
          have hlease := fun o => exec_leaseStarted o lane fence f₂ hhandle hclaim
          rw [hsteps.idFactory, hids'.trans hids] at hlease
          cases hid : factoryId (f.idFactory (f.ids + 2)) with
          | error exc =>
            rw [hid] at hlease
            have hend := (hexec outcomes (.refl outcomes)).trans (hlease outcomes)
            apply iff_of_false
            · rintro ⟨hsettled, -⟩
              rw [laneRequests_outcomeOf hend hsteps.calls] at hsettled
              refine LaneRequest.not_settled hl ?_ hsettled
              rintro ⟨result', handle, hok, -⟩
              rw [hend] at hok
              cases hok
            · rw [not_not]
              exact ⟨⟨claim, hclaim⟩, ⟨_, hresult⟩, ⟨result, internal, hstart, hhandle⟩, exc, hid⟩
          | ok id =>
            rw [hid] at hlease
            apply iff_of_true
            · have hhandle := Dict.get?_set_self result "process_handle"
                (PyValue.str ("job" ++ ":" ++ f₂.actorTag ++ ":" ++ id))
              refine cleaned_of_leased lane fence hl hhandle fun o ho => ?_
              obtain ⟨f₃, hend, hcalls, hleases⟩ := hlease o
              exact ⟨f₃, (hexec o ho).trans hend, hcalls ▸ hsteps.calls, hleases⟩
            · rintro ⟨-, -, -, exc, herror⟩
              rw [hid] at herror
              cases herror

end Start

/-! ## All tools -/

/-- A public call cleans up its lanes exactly if it does not start a process without a lease. -/
theorem PublicTool.cleansUp_iff (rt : Runtime) (tool : PublicTool) (f : PublicWorkstationFacade)
    (outcomes : Outcomes) :
    tool.CleansUp rt f outcomes ↔ ¬StartsUnleased rt outcomes f tool := by
  cases tool with
  | startProcess argv cwd maxRuntimeS => exact cleaned_startProcess_iff
  | computerInfo => exact iff_of_true (cleaned_of_opensNone opensNone_computerInfo) id
  | releaseProcess => exact iff_of_true (cleaned_of_opensNone opensNone_releaseProcess) id
  | listProcesses => exact iff_of_true (cleaned_of_opensNone opensNone_listProcesses) id
  | close => exact iff_of_true (cleaned_of_opensNone opensNone_close) id
  | processStatus | processOutput | processInput | terminateProcess =>
    exact iff_of_true (cleaned_of_opensNone opensNone_processOperation) id
  | readFile | readBytes | statPath | listDirectory | searchFiles | searchContent | writeFile
  | appendFile | makeDirectory | movePath | replaceText | runProcess =>
    exact iff_of_true cleaned_claimed id

end Cleanup

end VeraMesh.PublicGateway
