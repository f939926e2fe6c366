import VeraMesh.Gateway.LaneArguments
import VeraMesh.Gateway.OperationCeiling
import VeraMesh.PublicGateway.Cleanup

/-!
# Cleanup of lanes by the Go facade

The methods of `Facade` (`facade.go`) clean up their lanes: whatever the controller answers, a lane
that was opened is closed or leased, and closing changes a result by a note at most.

## Main results

* `FacadeMethod.cleansUp`: every method of the facade cleans up its lanes.
-/

namespace VeraMesh.Gateway

/-- A method of the facade that handles a public tool, or `Close`, with its arguments. -/
inductive FacadeMethod where
  | computerInfo
  | readFile (p encoding : String)
  | readBytes (p : String) (offset : ℤ) (maxBytes : Option ℤ) (expectedVersion : Option String)
  | statPath (p : String)
  | listDirectory (p : String) (offset maxEntries : ℤ)
  | searchFiles (body : GoMap)
  | searchContent (body : GoMap)
  | writeFile (p content encoding : String)
  | appendFile (p content encoding : String)
  | makeDirectory (p : String) (parents : Bool)
  | movePath (source destination : String)
  | replaceText (body : GoMap)
  | runProcess (argv : List String) (cwd : String) (timeoutS : Float64)
  | startProcess (argv : List String) (cwd : String) (maxRuntimeS : Float64)
  | processStatus (handle : String)
  | processOutput (handle : String) (stdoutOffset stderrOffset maxBytes : ℤ)
  | processInput (handle input : String) (appendNewline : Bool)
  | terminateProcess (handle : String) (graceS : Float64)
  | releaseProcess (handle : String)
  | listProcesses
  | close

namespace Facade

variable {σ : Type}

/-- A call of the method. -/
def callMethod (api : ControllerAPI σ) (random : ℕ → String) :
    FacadeMethod → Facade σ → Except GoError GoMap × Facade σ
  | .computerInfo => computerInfo api
  | .readFile p encoding => readFile api random p encoding
  | .readBytes p offset maxBytes expectedVersion =>
    readBytes api random p offset maxBytes expectedVersion
  | .statPath p => statPath api random p
  | .listDirectory p offset maxEntries => listDirectory api random p offset maxEntries
  | .searchFiles body => searchFiles api random body
  | .searchContent body => searchContent api random body
  | .writeFile p content encoding => writeFile api random p content encoding
  | .appendFile p content encoding => appendFile api random p content encoding
  | .makeDirectory p parents => makeDirectory api random p parents
  | .movePath source destination => movePath api random source destination
  | .replaceText body => replaceText api random body
  | .runProcess argv cwd timeoutS => runProcess api random argv cwd timeoutS
  | .startProcess argv cwd maxRuntimeS => startProcess api random argv cwd maxRuntimeS
  | .processStatus handle => processStatus api handle
  | .processOutput handle stdoutOffset stderrOffset maxBytes =>
    processOutput api handle stdoutOffset stderrOffset maxBytes
  | .processInput handle input appendNewline => processInput api handle input appendNewline
  | .terminateProcess handle graceS => terminateProcess api handle graceS
  | .releaseProcess handle => releaseProcess api handle
  | .listProcesses => listProcesses api
  | .close => fun f => let (report, f) := close api f; (.ok report, f)

/-- The note on a failure to close. -/
def cleanupNote (answer : Except GoError GoMap) : Option GoMap :=
  if ((closeReport answer).index "closed").isTrue then none else some (closeReport answer)

/-- What a call of the controller means for lanes. -/
def laneRequest (o : OperationCall) : LaneRequest GoMap :=
  if o.operation = "lane.open" then
    match o.body.index "lane_id", openedFence o.answer with
    | .str lane, .ok fence => .opened lane fence
    | _, _ => .other
  else if o.operation = "lane.close" then
    match o.body.index "lane_id", o.body.index "fencing_token" with
    | .str lane, .int fence => .closed lane fence (cleanupNote o.answer)
    | _, _ => .other
  else .other

/-- The process lease under a handle holds the lane and the fence. -/
def Leases (f : Facade σ) (handle lane : String) (fence : ℤ) : Prop :=
  ∃ lease, f.processes.get? handle = some lease ∧ lease.laneID = lane ∧ lease.fencingToken = fence

/-- What a call comes to. -/
def outcomeOf (action : Facade σ → Except GoError GoMap × Facade σ) (f : Facade σ) :
    CallOutcome GoError GoMap GoMap where
  result := (action f).1
  laneRequests := ((action f).2.calls.drop f.calls.length).map laneRequest
  leased lane fence := ∃ result handle, (action f).1 = .ok result ∧
    result.index "process_handle" = .str handle ∧ (action f).2.Leases handle lane fence

/-- The note on a failure to close, as `ephemeral` adds it. -/
def withNote (result note : GoMap) : GoMap := result.set "_veramesh_cleanup" (.map note.entries)

end Facade

/-- The calls of `lane.close` may be answered in another way. -/
def ControllerAPI.CloseOtherwise {σ : Type} (api api' : ControllerAPI σ) : Prop :=
  api'.machineInfo = api.machineInfo ∧
    ∀ s operation body, operation ≠ "lane.close" →
      api'.call s operation body = api.call s operation body

/-- The method cleans up its lanes. -/
def FacadeMethod.CleansUp {σ : Type} (method : FacadeMethod) (random : ℕ → String) (f : Facade σ) :
    ControllerAPI σ → Prop :=
  Cleaned ControllerAPI.CloseOtherwise Facade.withNote fun api =>
    Facade.outcomeOf (Facade.callMethod api random method) f

namespace Facade

section Cleanup

variable {σ : Type} {api api' : ControllerAPI σ} {random : ℕ → String} {f f' : Facade σ}
  {l : List (LaneRequest GoMap)} {new : List OperationCall}
  {action : ControllerAPI σ → Facade σ → Except GoError GoMap × Facade σ}

theorem closeOtherwise_refl (api : ControllerAPI σ) : api.CloseOtherwise api :=
  ⟨rfl, fun _ _ _ _ => rfl⟩

/-- The calls of a method. -/
theorem laneRequests_outcomeOf {action : Facade σ → Except GoError GoMap × Facade σ}
    (hcalls : (action f).2.calls = f.calls ++ new) :
    (outcomeOf action f).laneRequests = new.map laneRequest := by
  unfold outcomeOf
  rw [hcalls, List.drop_left]

theorem laneRequest_of_other {o : OperationCall} (hopen : o.operation ≠ "lane.open")
    (hclose : o.operation ≠ "lane.close") : laneRequest o = .other := by
  rw [laneRequest, if_neg hopen, if_neg hclose]

/-- A method that never asks for a lane has nothing to clean up. -/
theorem cleaned_of_issues {ops : List String} (hops : "lane.open" ∉ ops)
    (h : Issues ops (action api)) :
    Cleaned ControllerAPI.CloseOtherwise withNote (fun api => outcomeOf (action api) f) api := by
  obtain ⟨sent, hcalls, hsent⟩ := h f
  apply Cleaned.of_not_opens
  rw [laneRequests_outcomeOf hcalls, List.forall_mem_map]
  intro o ho
  have hopen : o.operation ≠ "lane.open" := fun heq => hops (heq ▸ hsent o ho)
  rw [laneRequest, if_neg hopen]
  split_ifs
  · split <;> rfl
  · rfl

/-- The second call of a method. -/
theorem calls_of_call {operation : String} {body : GoMap} {answer : Except GoError GoMap}
    {f₁ f₂ : Facade σ} {o : OperationCall} (hcalls : f₁.calls = f.calls ++ [o])
    (hcall : f₁.call api operation body = (answer, f₂)) :
    f₂.calls = f.calls ++ [o, ⟨operation, body, answer⟩] := by
  have hsent : (f₁.call api operation body).2.calls =
      f₁.calls ++ [⟨operation, body, (f₁.call api operation body).1⟩] := rfl
  rw [hcall, hcalls, List.append_assoc] at hsent
  exact hsent

theorem laneRequest_open_error {o : OperationCall} {err : GoError}
    (hopen : o.operation = "lane.open") (hfence : openedFence o.answer = .error err) : laneRequest o = .other := by
  rw [laneRequest, if_pos hopen, hfence]
  split
  next heq => cases heq
  next => rfl

theorem laneRequest_open_ok {o : OperationCall} (hopen : Opens random f o)
    (hfence : openedFence o.answer = .ok fence) :
    laneRequest o = .opened (f.newID random "public-lane").1 fence := by
  rw [laneRequest, if_pos hopen.1, hopen.2, hfence]

theorem laneRequest_close (lane : String) (fence : ℤ) (answer : Except GoError GoMap) :
    laneRequest ⟨"lane.close", laneBody lane fence, answer⟩ =
      .closed lane fence (cleanupNote answer) := by
  have hop : ¬"lane.close" = "lane.open" := by decide
  rw [laneRequest, if_neg hop, if_pos rfl, index_laneBody_lane, index_laneBody_fence]

/-! ## Closing in another way -/

section Congr

variable (h : api.CloseOtherwise api')

include h

theorem call_closeOtherwise {operation : String} (hop : operation ≠ "lane.close") (f : Facade σ)
    (body : GoMap) : f.call api' operation body = f.call api operation body := by
  rw [call, call, h.2 _ _ _ hop]

theorem openLane_closeOtherwise (f : Facade σ) (capabilities : List String)
    (claims : List GoValue) (ttlS : Float64) (task : String) :
    f.openLane api' random capabilities claims ttlS task =
      f.openLane api random capabilities claims ttlS task := by
  have hop : "lane.open" ≠ "lane.close" := by decide
  simp only [openLane, call_closeOtherwise h hop]

end Congr

/-! ## Work under a lane of its own -/

/-- A call that opens a lane, works under it and closes it. -/
theorem cleaned_of_closeLane {lane : String} {fence : ℤ} {f₂ : Facade σ} {o p : OperationCall}
    (own : Except GoError GoMap) (ho : laneRequest o = .opened lane fence)
    (hp : laneRequest p = .other) (hcalls : f₂.calls = f.calls ++ [o, p])
    (h : ∀ api', api.CloseOtherwise api' → action api' f =
      (own.map fun r => (cleanupNote
          (f₂.call api' "lane.close" (laneBody lane fence)).1).toList.foldl withNote r,
        (f₂.closeLane api' lane fence).2)) :
    Cleaned ControllerAPI.CloseOtherwise withNote (fun api => outcomeOf (action api) f) api := by
  refine Cleaned.of_bracket (l := [.other]) lane fence own
    (fun api' => cleanupNote (f₂.call api' "lane.close" (laneBody lane fence)).1)
    (by simp) (closeOtherwise_refl api) (fun api' hapi => ?_) fun api' hapi => ?_
  · let q : OperationCall := ⟨"lane.close", laneBody lane fence,
      (f₂.call api' "lane.close" (laneBody lane fence)).1⟩
    have hnew : (action api' f).2.calls = f.calls ++ [o, p, q] := by
      rw [h api' hapi]
      show f₂.calls ++ [q] = f.calls ++ [o, p, q]
      rw [hcalls, List.append_assoc]
      rfl
    rw [laneRequests_outcomeOf hnew]
    show [laneRequest o, laneRequest p, laneRequest q] = _
    rw [ho, hp, laneRequest_close]
    rfl
  · exact congrArg Prod.fst (h api' hapi)

section Ephemeral

variable {operation : String} {capabilities : List String} {claims : List GoValue} {body : GoMap}
  {task lane : String} {fence : ℤ} {f₁ f₂ : Facade σ} {answer : Except GoError GoMap}

theorem ephemeral_of_opened
    (hopen : f.openLane api random capabilities claims 300 task = (.ok (lane, fence), f₁))
    (hcall : f₁.call api operation ((laneBody lane fence).update body) = (answer, f₂)) :
    f.ephemeral api random operation capabilities claims body task =
      ((answer.bind unwrap).map fun r => (cleanupNote
          (f₂.call api "lane.close" (laneBody lane fence)).1).toList.foldl withNote r,
        (f₂.closeLane api lane fence).2) := by
  unfold ephemeral
  rw [hopen]
  dsimp only
  rw [hcall]
  dsimp only [closeLane]
  cases answer.bind unwrap with
  | error err => rfl
  | ok result =>
    by_cases hclosed :
        ((closeReport (f₂.call api "lane.close" (laneBody lane fence)).1).index "closed").isTrue
    · rw [cleanupNote, if_pos hclosed]
      exact if_pos hclosed
    · rw [cleanupNote, if_neg hclosed]
      exact if_neg hclosed

theorem cleaned_ephemeral (hop : operation ≠ "lane.open") (hop' : operation ≠ "lane.close") :
    Cleaned ControllerAPI.CloseOtherwise withNote (fun api => outcomeOf (fun f =>
      f.ephemeral api random operation capabilities claims body task) f) api := by
  obtain ⟨o, ho, -, hcalls, -, hres⟩ := openLane_calls api random f capabilities claims 300 task
  generalize hopened : f.openLane api random capabilities claims 300 task = opened
    at hcalls hres
  obtain ⟨res, f₁⟩ := opened
  obtain rfl : res = _ := hres
  cases hfence : openedFence o.answer with
  | error err =>
    rw [hfence] at hopened
    have hend : f.ephemeral api random operation capabilities claims body task =
        (.error err, f₁) := by
      rw [ephemeral, hopened]
      rfl
    have hsent : (f.ephemeral api random operation capabilities claims body task).2.calls =
        f.calls ++ [o] := by
      rw [hend]
      exact hcalls
    apply Cleaned.of_not_opens
    rw [laneRequests_outcomeOf hsent]
    simp [laneRequest_open_error ho.1 hfence, LaneRequest.opens]
  | ok fence =>
    rw [hfence] at hopened
    generalize hcall : f₁.call api operation
      ((laneBody (f.newID random "public-lane").1 fence).update body) = called
    obtain ⟨answer, f₂⟩ := called
    have hf₂ := calls_of_call (show f₁.calls = f.calls ++ [o] from hcalls) hcall
    apply cleaned_of_closeLane (answer.bind unwrap) (laneRequest_open_ok ho hfence)
      (laneRequest_of_other hop hop') hf₂
    intro api' hapi
    apply ephemeral_of_opened
    · rw [openLane_closeOtherwise hapi, hopened]
      rfl
    · rw [call_closeOtherwise hapi hop', hcall]

theorem cleaned_claimed {claims : Except GoError (List GoValue)} (hop : operation ≠ "lane.open")
    (hop' : operation ≠ "lane.close") :
    Cleaned ControllerAPI.CloseOtherwise withNote (fun api => outcomeOf
      (claimed api random operation capabilities claims body task) f) api := by
  cases claims with
  | error err =>
    have hissues : Issues [] (claimed api random operation capabilities (.error err) body task) :=
      sent_nil
    exact cleaned_of_issues (by simp) hissues
  | ok claims => exact cleaned_ephemeral hop hop'

end Ephemeral

/-! ## Starting a process -/

section Start

variable {argv : List String} {cwd lane : String} {maxRuntimeS : Float64} {claim : GoValue}
  {fence : ℤ} {f₁ f₂ : Facade σ} {answer : Except GoError GoMap}

/-- What is done with the answer to `process.start`. -/
def leaseStarted (api : ControllerAPI σ) (random : ℕ → String) (cwd lane : String) (fence : ℤ)
    (answer : Except GoError GoMap) (f : Facade σ) : Except GoError GoMap × Facade σ :=
  match startedHandle answer with
  | .error err => (.error err, (f.closeLane api lane fence).2)
  | .ok (result, internal) =>
    let (handle, f) := f.newID random "job"
    (.ok (result.set "process_handle" (.str handle)), { f with
      processes := f.processes.set handle
        ⟨handle, internal, lane, fence, ((canonicalRemotePath cwd).toOption).getD ""⟩ })

/-- The request body of `StartProcess`. -/
def startBody (argv : List String) (cwd lane : String) (maxRuntimeS : Float64) (fence : ℤ) :
    GoMap :=
  (laneBody lane fence).update (.ofList [("argv", .list (argv.map .str)), ("cwd", .str cwd),
    ("max_runtime_s", .float maxRuntimeS)])

theorem startProcess_of_opened (hclaim : cwdClaim cwd "write" = .ok claim)
    (hopen : f.openLane api random
      ["process.exec", "process.inspect", "process.interact", "process.control"] [claim]
      (processTTL maxRuntimeS) "start-process" = (.ok (lane, fence), f₁))
    (hcall : f₁.call api "process.start" (startBody argv cwd lane maxRuntimeS fence) =
      (answer, f₂)) :
    startProcess api random argv cwd maxRuntimeS f =
      leaseStarted api random cwd lane fence answer f₂ := by
  rw [startProcess, hclaim]
  dsimp only
  rw [hopen]
  dsimp only
  rw [← startBody, hcall]
  rfl

/-- `StartProcess` cleans up its lane. -/
theorem cleaned_startProcess :
    Cleaned ControllerAPI.CloseOtherwise withNote (fun api => outcomeOf
      (startProcess api random argv cwd maxRuntimeS) f) api := by
  cases hclaim : cwdClaim cwd "write" with
  | error err =>
    have hissues : Issues [] (startProcess api random argv cwd maxRuntimeS) := by
      intro f
      rw [startProcess, hclaim]
      exact sent_nil f
    exact cleaned_of_issues (by simp) hissues
  | ok claim =>
    obtain ⟨o, ho, -, hcalls, -, hres⟩ := openLane_calls api random f
      ["process.exec", "process.inspect", "process.interact", "process.control"] [claim]
      (processTTL maxRuntimeS) "start-process"
    generalize hopened : f.openLane api random _ [claim] _ _ = opened at hcalls hres
    obtain ⟨res, f₁⟩ := opened
    obtain rfl : res = _ := hres
    cases hfence : openedFence o.answer with
    | error err =>
      rw [hfence] at hopened
      have hend : startProcess api random argv cwd maxRuntimeS f = (.error err, f₁) := by
        rw [startProcess, hclaim]
        dsimp only
        rw [hopened]
        rfl
      have hsent : (startProcess api random argv cwd maxRuntimeS f).2.calls = f.calls ++ [o] := by
        rw [hend]
        exact hcalls
      apply Cleaned.of_not_opens
      rw [laneRequests_outcomeOf hsent]
      simp [laneRequest_open_error ho.1 hfence, LaneRequest.opens]
    | ok fence =>
      rw [hfence] at hopened
      let lane := (f.newID random "public-lane").1
      generalize hcall : f₁.call api "process.start" (startBody argv cwd lane maxRuntimeS fence) =
        called
      obtain ⟨answer, f₂⟩ := called
      let p : OperationCall := ⟨"process.start", startBody argv cwd lane maxRuntimeS fence, answer⟩
      have hf₂ : f₂.calls = f.calls ++ [o, p] :=
        calls_of_call (show f₁.calls = f.calls ++ [o] from hcalls) hcall
      have hopens := laneRequest_open_ok ho hfence
      have hp : laneRequest p = .other := by
        apply laneRequest_of_other
        · show "process.start" ≠ "lane.open"
          decide
        · show "process.start" ≠ "lane.close"
          decide
      have hend : ∀ api', api.CloseOtherwise api' →
          startProcess api' random argv cwd maxRuntimeS f =
            leaseStarted api' random cwd lane fence answer f₂ := by
        intro api' hapi
        apply startProcess_of_opened hclaim
        · rw [openLane_closeOtherwise hapi, hopened]
          rfl
        · rw [call_closeOtherwise hapi (by decide), hcall]
      cases hhandle : startedHandle answer with
      | error err =>
        -- a start that fails is a bracket around its own error
        apply cleaned_of_closeLane (.error err) hopens hp hf₂
        intro api' hapi
        rw [hend api' hapi, leaseStarted, hhandle]
        rfl
      | ok started =>
        obtain ⟨result, internal⟩ := started
        let handle := (f₂.newID random "job").1
        have hlease : ∀ api' : ControllerAPI σ,
            leaseStarted api' random cwd lane fence answer f₂ =
              (.ok (result.set "process_handle" (.str handle)), { (f₂.newID random "job").2 with
                processes := f₂.processes.set handle ⟨handle, internal, lane, fence,
                  ((canonicalRemotePath cwd).toOption).getD ""⟩ }) := by
          intro api'
          rw [leaseStarted, hhandle]
          rfl
        have hindex : (GoMap.index (result.set "process_handle" (.str handle)) "process_handle") =
            .str handle := by
          rw [GoMap.index, Dict.get?_set_self]
          rfl
        refine Cleaned.of_leased (l := [.other]) lane fence
          (.ok (result.set "process_handle" (.str handle))) (by simp) (closeOtherwise_refl api)
          ?_ (fun api' hapi => ?_) fun api' hapi => ?_
        · refine ⟨result.set "process_handle" (.str handle), handle, ?_, hindex, ?_⟩
          · rw [hend api (closeOtherwise_refl api), hlease]
          · rw [hend api (closeOtherwise_refl api), hlease]
            exact ⟨_, Dict.get?_set_self _ _ _, rfl, rfl⟩
        · have hsent : (startProcess api' random argv cwd maxRuntimeS f).2.calls =
              f.calls ++ [o, p] := by
            rw [hend api' hapi, hlease]
            exact hf₂
          rw [laneRequests_outcomeOf hsent]
          show [laneRequest o, laneRequest p] = _
          rw [hopens, hp]
        · show (startProcess api' random argv cwd maxRuntimeS f).1 = _
          rw [hend api' hapi, hlease]

end Start

/-! ## All methods -/

variable (api) in
theorem sent_releaseAll {ops : List String} (hclose : "lane.close" ∈ ops) (handles : List String)
    (f : Facade σ) : ∃ sent, (releaseAll api handles f).2.2.calls = f.calls ++ sent ∧
      ∀ call ∈ sent, call.operation ∈ ops := by
  induction handles generalizing f with
  | nil => exact sent_nil f
  | cons handle handles ih =>
    have hrest := sent_trans (issues_releaseProcess hclose handle f)
      (ih (f.releaseProcess api handle).2)
    unfold releaseAll
    dsimp only
    split <;> exact hrest

theorem cleaned_processOperation {operation handle : String} {body : GoMap}
    (hop : operation ≠ "lane.open") :
    Cleaned ControllerAPI.CloseOtherwise withNote (fun api => outcomeOf
      (processOperation api operation handle body) f) api := by
  have hissues : Issues [operation] (processOperation api operation handle body) :=
    issues_processOperation List.mem_cons_self
  refine cleaned_of_issues ?_ hissues
  rw [List.mem_singleton]
  exact hop.symm

end Cleanup

end Facade

open Facade

/-- Every method of the facade cleans up its lanes. -/
theorem FacadeMethod.cleansUp {σ : Type} (method : FacadeMethod) (random : ℕ → String)
    (f : Facade σ) (api : ControllerAPI σ) : method.CleansUp random f api := by
  cases method with
  | computerInfo =>
    have hissues : Issues [] (Facade.computerInfo api) := sent_nil
    exact cleaned_of_issues (by simp) hissues
  | releaseProcess handle =>
    have hissues : Issues ["lane.close"] (Facade.releaseProcess api handle) :=
      issues_releaseProcess List.mem_cons_self handle
    exact cleaned_of_issues (by simp) hissues
  | listProcesses =>
    have hissues : Issues ["process.status"] (Facade.listProcesses api) :=
      fun f => sent_statusOf api List.mem_cons_self f.sortedHandles f
    exact cleaned_of_issues (by simp) hissues
  | close =>
    have hissues : Issues ["lane.close"] (callMethod api random .close) :=
      fun f => sent_releaseAll api List.mem_cons_self f.sortedHandles f
    exact cleaned_of_issues (by simp) hissues
  | startProcess => exact cleaned_startProcess
  | processStatus | processOutput | processInput | terminateProcess =>
    exact cleaned_processOperation (by decide)
  | readFile | readBytes | statPath | listDirectory | searchFiles | searchContent | writeFile
  | appendFile | makeDirectory | movePath | replaceText | runProcess =>
    exact cleaned_claimed (by decide) (by decide)

end VeraMesh.Gateway
